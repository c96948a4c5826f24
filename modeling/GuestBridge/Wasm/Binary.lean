import GuestBridge.Scan
import GuestBridge.Text.Utf8
import GuestBridge.Wasm.Module
/-!
The binary form of numbers, names and types. Numbers have seven bits a byte, lowest first, and may
be longer than they need, but not longer than their width allows.
-/

set_option autoImplicit false

namespace GuestBridge.Wasm

abbrev Binary (α : Type) := Scan UInt8 α

namespace Binary

open Scan

variable {α : Type}

/-- The most bytes that a name may have. -/
def maxName : Nat := 100000

/-- The most parameters, and the most results, that a function may have. -/
def maxArity : Nat := 1000

def byte : Binary UInt8 := next fun _ => true

/-- A number of at most `bits` bits. -/
def unsigned (bits : Nat) : Binary Nat := do
  let b := (← byte).toNat
  if b < 128 then
    if b < Nat.pow 2 bits then return b else failure
  else if _h : 7 < bits then return b - 128 + 128 * (← unsigned (bits - 7))
  else failure
termination_by bits

/-- A number of at most `bits` bits, of which the highest counts as negative. -/
def signed (bits : Nat) : Binary Int := do
  let b := (← byte).toNat
  if b < 64 then
    if b < Nat.pow 2 (bits - 1) then return b else failure
  else if b < 128 then
    if 128 - b ≤ Nat.pow 2 (bits - 1) then return (b : Int) - 128 else failure
  else if _h : 7 < bits then return (b : Int) - 128 + 128 * (← signed (bits - 7))
  else failure
termination_by bits

def index : Binary Nat := unsigned 32

def vector (p : Binary α) : Binary (List α) := do
  times p (← index)

/-- So many bytes as they are. -/
def raw (n : Nat) : Binary (List UInt8) := fun s =>
  let (front, rest) := s.splitAt n
  if front.length = n then some (front, rest) else none

/-- Reads so many bytes as a whole. -/
def within (n : Nat) (p : Binary α) : Binary α := do
  match all? p (← raw n) with
  | some a => return a
  | none => failure

/-- A length, and that many bytes read as a whole. -/
def sized (p : Binary α) : Binary α := do
  within (← index) p

def name : Binary String := do
  let n ← index
  if maxName < n then failure
  match Text.Utf8.decode (← raw n) with
  | .ok s => return s
  | .error _ => failure

/-! ## Types -/

/-- The short form of a reference type, which is also that of what it refers to. -/
def referenceOf? (b : UInt8) : Option CoreType :=
  if b == 0x70 then some .funcref else if b == 0x6f then some .externref else none

def numberOf? (b : UInt8) : Option CoreType :=
  if b == 0x7f then some .i32
  else if b == 0x7e then some .i64
  else if b == 0x7d then some .f32
  else if b == 0x7c then some .f64
  else if b == 0x7b then some .v128
  else none

def ofByte? (read : UInt8 → Option α) : Binary α := do
  match read (← byte) with
  | some a => return a
  | none => failure

/-- A reference type in its short form, or behind the byte that says it may be null. -/
def referenceType : Binary CoreType :=
  ofByte? referenceOf? <|> do mark 0x63; ofByte? referenceOf?

def coreType : Binary CoreType := ofByte? numberOf? <|> referenceType

def types : Binary (List CoreType) := do
  let n ← index
  if maxArity < n then failure
  times coreType n

/-- A function type, maybe behind a mark that nothing is derived from it and a list, which has to be
empty, of the types that it is derived from. -/
def signature : Binary Signature := do
  let closed ← maybe (do mark 0x4f; index)
  unless closed.getD 0 = 0 do failure
  mark 0x60
  let params ← types
  return ⟨params, ← types⟩

/-- Bounds behind a byte of flags; only those under `allowed` may be set. -/
def bounds (allowed : UInt8) : Binary (Bounds × UInt8) := do
  let flags ← byte
  if flags &&& allowed != flags then failure
  let low ← index
  let high ← if flags &&& 1 == 1 then some <$> index else pure none
  return (⟨low, high⟩, flags)

def tableType : Binary TableType := do
  let element ← referenceType
  return ⟨element, (← bounds 1).1⟩

def memoryType : Binary MemoryType := do
  let (b, flags) ← bounds 3
  return ⟨b, flags &&& 2 == 2⟩

/-- The place of an access to memory: flags for its alignment and for a memory other than the first,
and an offset. -/
def place : Binary Place := do
  let flags ← index
  let memory ← if flags / 64 % 2 = 1 then index else pure 0
  let align := if flags / 64 % 2 = 1 then flags - 64 else flags
  if 64 ≤ align then failure
  let _ ← index
  return ⟨align, memory⟩

def flag : Binary Bool := do
  let b ← next (· ≤ 1)
  return b == 1

def globalType : Binary GlobalType := do
  let t ← coreType
  return ⟨t, ← flag⟩

end Binary

end GuestBridge.Wasm

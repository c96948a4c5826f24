import GuestBridge.Double
import GuestBridge.Fault
/-!
The linear memory of a guest: bytes at offsets from zero, read and written as bytes, as
little-endian words or as doubles. Words and doubles stand at multiples of their width. Every
access is checked against the size before anything is read or written.
-/

set_option autoImplicit false

namespace GuestBridge

structure Memory where
  /-- Where the machine keeps the bytes: two memories of one size differ by it. -/
  base : Nat
  size : Nat
  /-- The bytes from offset zero on; those behind them, up to the size, are zero. -/
  written : Array UInt8
  deriving DecidableEq, Repr, Inhabited

namespace Memory

def pageSize : Nat := 65536

def zeroed (base size : Nat) : Memory := ⟨base, size, #[]⟩

def ofBytes (base : Nat) (data : List UInt8) : Memory := ⟨base, data.length, data.toArray⟩

/-- Cuts the memory down, or extends it with zeros; it stays where it is. -/
def resize (m : Memory) (size : Nat) : Memory :=
  { m with size := size, written := m.written.extract 0 size }

/-- The bytes from an offset on, as many as the memory has. -/
def slice (m : Memory) (offset length : Nat) : List UInt8 :=
  let length := min length (m.size - offset)
  let front := (m.written.extract offset (offset + length)).toList
  front ++ List.replicate (length - front.length) 0

def storeAt (bytes : Array UInt8) (offset : Nat) : List UInt8 → Array UInt8
  | [] => bytes
  | b :: rest => storeAt (bytes.setIfInBounds offset b) (offset + 1) rest

/-- Puts bytes at an offset; without room for all of them, none is stored. -/
def store : Memory → Nat → List UInt8 → Memory
  | ⟨base, size, written⟩, offset, data =>
    let top := offset + data.length
    if top ≤ size then
      let written := written ++ Array.replicate (top - written.size) 0
      ⟨base, size, storeAt written offset data⟩
    else ⟨base, size, written⟩

def checkRange (m : Memory) (offset length : UInt32) : Except Fault Unit :=
  if offset.toNat + length.toNat ≤ m.size then .ok ()
  else .error (.outOfBounds offset length m.size)

def checkAligned (offset align : UInt32) : Except Fault Unit :=
  if offset % align = 0 then .ok () else .error (.misaligned offset align)

def read (m : Memory) (offset length : UInt32) : Except Fault (List UInt8) := do
  m.checkRange offset length
  return m.slice offset.toNat length.toNat

def write (m : Memory) (offset : UInt32) (data : List UInt8) : Except Fault Memory := do
  if UInt32.size ≤ data.length then throw .lengthOverflow
  m.checkRange offset (UInt32.ofNat data.length)
  return m.store offset.toNat data

def getByte (m : Memory) (offset : UInt32) : Except Fault UInt8 := do
  return (← m.read offset 1).headD 0

def setByte (m : Memory) (offset : UInt32) (byte : UInt8) : Except Fault Memory :=
  m.write offset [byte]

/-- The number that bytes denote, least significant first. -/
def littleEndian : List UInt8 → Nat
  | [] => 0
  | b :: rest => b.toNat + 256 * littleEndian rest

/-- The low `count` bytes of a number, least significant first. -/
def toLittleEndian : Nat → Nat → List UInt8
  | 0, _ => []
  | count + 1, n => UInt8.ofNat (n % 256) :: toLittleEndian count (n / 256)

def readWord (m : Memory) (offset : UInt32) : Except Fault UInt32 := do
  checkAligned offset 4
  return UInt32.ofNat (littleEndian (← m.read offset 4))

def writeWord (m : Memory) (offset : UInt32) (word : UInt32) : Except Fault Memory := do
  checkAligned offset 4
  m.write offset (toLittleEndian 4 word.toNat)

/-- `count` words in a row. -/
def readWords (m : Memory) (offset count : UInt32) : Except Fault (List UInt32) := do
  checkAligned offset 4
  if UInt32.size ≤ count.toNat * 4 then throw .lengthOverflow
  m.checkRange offset (count * 4)
  return (List.range count.toNat).map fun i =>
    UInt32.ofNat (littleEndian (m.slice (offset.toNat + 4 * i) 4))

def readDouble (m : Memory) (offset : UInt32) : Except Fault Double := do
  checkAligned offset 8
  return ⟨UInt64.ofNat (littleEndian (← m.read offset 8))⟩

def writeDouble (m : Memory) (offset : UInt32) (x : Double) : Except Fault Memory := do
  checkAligned offset 8
  m.write offset (toLittleEndian 8 x.bits.toNat)

end Memory

end GuestBridge

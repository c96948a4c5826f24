import GuestBridge.Action
import GuestBridge.Text.Utf8
/-!
Copying text and bytes into memory that a guest allocates. Text goes in by its leading ASCII part
first: its count of UTF-16 units is room enough for that, and most text ends there. Only what is
left over needs the buffer grown to the worst case and cut back afterwards.
-/

set_option autoImplicit false

namespace GuestBridge

structure Allocator (σ : Type) where
  /-- Size and alignment to pointer. -/
  malloc : UInt32 → UInt32 → Action σ UInt32
  /-- Pointer, old size, new size and alignment to new pointer, if the guest can do that. -/
  realloc? : Option (UInt32 → UInt32 → UInt32 → UInt32 → Action σ UInt32)
  write : UInt32 → List UInt8 → Action σ Unit

namespace Allocator

variable {σ : Type}

def length32 (n : Nat) : Except Fault UInt32 :=
  if n < UInt32.size then .ok (UInt32.ofNat n) else .error .lengthOverflow

/-- Pointer and length of the bytes in a buffer of exactly their size. -/
def writeBytes (alloc : Allocator σ) (data : List UInt8) : Action σ (UInt32 × UInt32) := do
  let length ← Action.conclude (length32 data.length)
  let pointer ← alloc.malloc length 1
  alloc.write pointer data
  return (pointer, length)

def writeText (alloc : Allocator σ) (s : String) : Action σ (UInt32 × UInt32) := do
  let data := Text.Utf8.encode s
  let _ ← Action.conclude (length32 data.length)
  match alloc.realloc? with
  | none => alloc.writeBytes data
  | some realloc =>
    let units ← Action.conclude (length32 (Text.Utf8.units16 s))
    let pointer ← alloc.malloc units 1
    let chars := s.toList
    let ascii := (chars.takeWhile fun c => c.toNat < 0x80).length
    alloc.write pointer (data.take ascii)
    if ascii = data.length then return (pointer, UInt32.ofNat ascii)
    let rest := String.ofList (chars.drop ascii)
    let restData := data.drop ascii
    let worst ← Action.conclude (length32 (Text.Utf8.units16 rest * 3 + ascii))
    let pointer ← realloc pointer units worst 1
    let tail ← Action.conclude (length32 (pointer.toNat + ascii))
    alloc.write tail restData
    let total ← Action.conclude (length32 (ascii + restData.length))
    let pointer ← realloc pointer worst total 1
    return (pointer, total)

end Allocator

end GuestBridge

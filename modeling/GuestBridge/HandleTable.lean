import GuestBridge.Value
/-!
The table of handles through which a guest refers to host values. Slots 0 to 3 hold `undefined`,
`null`, `true` and `false` for good. Every other slot is live or vacant; the vacant ones form a
list, last released first, that ends at the size of the table.
-/

set_option autoImplicit false

namespace GuestBridge

inductive Slot
  | live (value : Value)
  | vacant (next : UInt32)
  deriving DecidableEq, Repr

structure HandleTable where
  slots : Array Slot
  nextFree : UInt32
  liveCount : Nat
  /-- Whether use of a handle that is not live is a fault, and not just `undefined`. -/
  strict : Bool
  deriving DecidableEq, Repr

namespace HandleTable

def reserved : UInt32 := 4

def empty (strict : Bool) : HandleTable where
  slots := #[.live .undefined, .live .null, .live (.bool true), .live (.bool false)]
  nextFree := reserved
  liveCount := 0
  strict := strict

/-- An empty table with room for so many slots, and for the first four at least. -/
def withCapacity (capacity : Nat) (strict : Bool) : HandleTable where
  slots := Array.emptyWithCapacity (max capacity reserved.toNat)
    |>.push (.live .undefined) |>.push (.live .null)
    |>.push (.live (.bool true)) |>.push (.live (.bool false))
  nextFree := reserved
  liveCount := 0
  strict := strict

/-- The room that a table has to grow into cannot be told from outside. -/
theorem withCapacity_eq (capacity : Nat) (strict : Bool) :
    withCapacity capacity strict = empty strict := rfl

def size (t : HandleTable) : Nat := t.slots.size

def isEmpty (t : HandleTable) : Bool := t.liveCount == 0

/-- The permanent handle of a value that has one. -/
def sentinel? : Value → Option UInt32
  | .undefined => some 0
  | .null => some 1
  | .bool true => some 2
  | .bool false => some 3
  | _ => none

/-- Stores a value in the slot released last, or in a new one. -/
def alloc (t : HandleTable) (value : Value) : UInt32 × HandleTable :=
  match sentinel? value with
  | some handle => (handle, t)
  | none =>
    let handle := t.nextFree
    if handle.toNat = t.slots.size then
      (handle, { t with
        slots := t.slots.push (.live value)
        nextFree := handle + 1
        liveCount := t.liveCount + 1 })
    else
      let nextFree := match t.slots[handle.toNat]? with
        | some (.vacant next) => next
        | _ => UInt32.ofNat t.slots.size
      (handle, { t with
        slots := t.slots.setIfInBounds handle.toNat (.live value)
        nextFree := nextFree
        liveCount := t.liveCount + 1 })

def live? (t : HandleTable) (handle : UInt32) : Option Value :=
  match t.slots[handle.toNat]? with
  | some (.live value) => some value
  | _ => none

def isLive (t : HandleTable) (handle : UInt32) : Bool := (t.live? handle).isSome

def get (t : HandleTable) (handle : UInt32) : Value := (t.live? handle).getD .undefined

/-- Like `get`, but in a strict table a handle that is not live is a fault. -/
def tryGet (t : HandleTable) (handle : UInt32) : Except Fault Value :=
  match t.live? handle with
  | some value => .ok value
  | none => if t.strict then .error (.deadHandle handle) else .ok .undefined

def cloneRef (t : HandleTable) (handle : UInt32) : Except Fault (UInt32 × HandleTable) := do
  let value ← t.tryGet handle
  return t.alloc value

/-- Makes a slot vacant and yields the value it held. The first four are never released. -/
def release (t : HandleTable) (handle : UInt32) : Except Fault (Option Value × HandleTable) :=
  if handle < reserved then .ok (none, t)
  else
    match t.live? handle with
    | some value => .ok (some value, { t with
        slots := t.slots.setIfInBounds handle.toNat (.vacant t.nextFree)
        nextFree := handle
        liveCount := t.liveCount - 1 })
    | none => if t.strict then .error (.deadHandle handle) else .ok (none, t)

def take (t : HandleTable) (handle : UInt32) : Except Fault (Value × HandleTable) := do
  let value ← t.tryGet handle
  let (_, t) ← t.release handle
  return (value, t)

end HandleTable

end GuestBridge

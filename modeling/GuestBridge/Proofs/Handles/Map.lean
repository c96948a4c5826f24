import GuestBridge.HandleTable
/-!
What a table of handles is to its users: a map from handles to values and the stack of the handles
that were released.
-/

set_option autoImplicit false

namespace GuestBridge

structure HandleMap where
  value : UInt32 → Option Value
  /-- The handles that wait to be given out again, the one released last first. -/
  released : List UInt32
  /-- The next handle when none waits. -/
  size : Nat
  strict : Bool

namespace HandleMap

def empty (strict : Bool) : HandleMap where
  value handle := ([.undefined, .null, .bool true, .bool false] : List Value)[handle.toNat]?
  released := []
  size := 4
  strict := strict

def put (m : HandleMap) (handle : UInt32) (value : Option Value) : HandleMap :=
  { m with value := fun other => if other = handle then value else m.value other }

def alloc (m : HandleMap) (value : Value) : UInt32 × HandleMap :=
  match HandleTable.sentinel? value with
  | some handle => (handle, m)
  | none =>
    match m.released with
    | handle :: rest => (handle, { m.put handle (some value) with released := rest })
    | [] =>
      let handle := UInt32.ofNat m.size
      (handle, { m.put handle (some value) with size := m.size + 1 })

def get (m : HandleMap) (handle : UInt32) : Value := (m.value handle).getD .undefined

def tryGet (m : HandleMap) (handle : UInt32) : Except Fault Value :=
  match m.value handle with
  | some value => .ok value
  | none => if m.strict then .error (.deadHandle handle) else .ok .undefined

def cloneRef (m : HandleMap) (handle : UInt32) : Except Fault (UInt32 × HandleMap) := do
  return m.alloc (← m.tryGet handle)

def release (m : HandleMap) (handle : UInt32) : Except Fault (Option Value × HandleMap) :=
  if handle < HandleTable.reserved then .ok (none, m)
  else
    match m.value handle with
    | some value => .ok (some value, { m.put handle none with released := handle :: m.released })
    | none => if m.strict then .error (.deadHandle handle) else .ok (none, m)

def take (m : HandleMap) (handle : UInt32) : Except Fault (Value × HandleMap) := do
  let value ← m.tryGet handle
  let (_, m) ← m.release handle
  return (value, m)

end HandleMap

inductive HandleOp
  | alloc (value : Value)
  | get (handle : UInt32)
  | tryGet (handle : UInt32)
  | cloneRef (handle : UInt32)
  | take (handle : UInt32)
  | release (handle : UInt32)

inductive HandleAnswer
  | handle (result : Except Fault UInt32)
  | value (result : Except Fault Value)
  /-- A release answers with the value that it dropped. -/
  | dropped (result : Except Fault (Option Value))

/-- The outcome of an operation that, when it fails, leaves everything as it was. -/
def HandleAnswer.of {α β : Type} (answer : Except Fault α → HandleAnswer) (before : β) :
    Except Fault (α × β) → HandleAnswer × β
  | .ok (a, after) => (answer (.ok a), after)
  | .error fault => (answer (.error fault), before)

def HandleTable.perform (t : HandleTable) : HandleOp → HandleAnswer × HandleTable
  | .alloc value => HandleAnswer.of .handle t (.ok (t.alloc value))
  | .get handle => (.value (.ok (t.get handle)), t)
  | .tryGet handle => (.value (t.tryGet handle), t)
  | .cloneRef handle => HandleAnswer.of .handle t (t.cloneRef handle)
  | .take handle => HandleAnswer.of .value t (t.take handle)
  | .release handle => HandleAnswer.of .dropped t (t.release handle)

def HandleMap.perform (m : HandleMap) : HandleOp → HandleAnswer × HandleMap
  | .alloc value => HandleAnswer.of .handle m (.ok (m.alloc value))
  | .get handle => (.value (.ok (m.get handle)), m)
  | .tryGet handle => (.value (m.tryGet handle), m)
  | .cloneRef handle => HandleAnswer.of .handle m (m.cloneRef handle)
  | .take handle => HandleAnswer.of .value m (m.take handle)
  | .release handle => HandleAnswer.of .dropped m (m.release handle)

def HandleTable.run (t : HandleTable) : List HandleOp → List HandleAnswer × HandleTable
  | [] => ([], t)
  | op :: rest =>
    let (answer, t) := t.perform op
    let (answers, t) := t.run rest
    (answer :: answers, t)

def HandleMap.run (m : HandleMap) : List HandleOp → List HandleAnswer × HandleMap
  | [] => ([], m)
  | op :: rest =>
    let (answer, m) := m.perform op
    let (answers, m) := m.run rest
    (answer :: answers, m)

namespace HandleOp

/-- The value that an operation stores; those with a permanent handle are not stored. -/
def stored? (m : HandleMap) : HandleOp → Option Value
  | .alloc value => (some value).filter fun v => (HandleTable.sentinel? v).isNone
  | .cloneRef handle => (m.value handle).filter fun v => (HandleTable.sentinel? v).isNone
  | _ => none

/-- The handle that an operation takes away. -/
def ended? : HandleOp → Option UInt32
  | .take handle | .release handle => some handle
  | _ => none

end HandleOp

/-- How many of the operations store a value. -/
def HandleMap.allocations (m : HandleMap) : List HandleOp → Nat
  | [] => 0
  | op :: rest => (if (op.stored? m).isSome then 1 else 0) + (m.perform op).2.allocations rest

end GuestBridge

import GuestBridge.Bridge.Access
/-!
What the fixed operations of the bridge do. Those that convert text, bytes or handles on the way in
store a failure in the guest's exception slot and yield zero; other failures end the guest's call.
-/

set_option autoImplicit false

namespace GuestBridge.BridgeAction

variable {σ : Type}

def wordOfBool (b : Bool) : List Core := [.word (if b then 1 else 0)]

def stringNew (call : GuestCaller σ) (offset length : UInt32) : BridgeAction σ (List Core) := do
  let _ ← bound
  let v ← orRaise call (do return .string (← readText offset length)) .undefined
  return [.word (← alloc v)]

/-- Pointer and length of a string value; zeros for anything else. -/
def stringGet (call : GuestCaller σ) (returnPointer handle : UInt32) :
    BridgeAction σ (List Core) := do
  let _ ← bound
  let (pointer, length) ← match ← peek handle with
    | .string s => passText call s
    | _ => pure (0, 0)
  writePair returnPointer pointer length
  return []

def bytesNew (call : GuestCaller σ) (offset length : UInt32) : BridgeAction σ (List Core) := do
  let _ ← bound
  let read : BridgeAction σ Value := do
    let data ← readBytes offset length
    return .bytes (← inRealm (·.freshIdentity)) data
  let v ← orRaise call read .undefined
  return [.word (← alloc v)]

def bytesGet (call : GuestCaller σ) (returnPointer handle : UInt32) :
    BridgeAction σ (List Core) := do
  let _ ← bound
  let (pointer, length) ← match ← peek handle with
    | .bytes _ data => passBytes call data
    | _ => pure (0, 0)
  writePair returnPointer pointer length
  return []

/-- Whether the value is a number, as a word, and eight bytes further on the number or zero. -/
def numberGet (returnPointer handle : UInt32) : BridgeAction σ (List Core) := do
  let _ ← bound
  let x? := (← peek handle).asNumber?
  writeWord returnPointer (if x?.isSome then 1 else 0)
  writeDouble (returnPointer + 8) (x?.getD .zero)
  return []

/-- One for true, zero for false, two for anything else. -/
def boolGet (handle : UInt32) : BridgeAction σ (List Core) := do
  match ← peek handle with
  | .bool b => return wordOfBool b
  | _ => return [.word 2]

def testValue (test : Value → Bool) (handle : UInt32) : BridgeAction σ (List Core) := do
  return wordOfBool (test (← peek handle))

def objectCloneRef (call : GuestCaller σ) (handle : UInt32) : BridgeAction σ (List Core) := do
  let _ ← bound
  return [.word (← orRaise call (cloneRef handle) 0)]

def objectDropRef (call : GuestCaller σ) (handle : UInt32) : BridgeAction σ (List Core) := do
  let _ ← bound
  orRaise call (release handle) ()
  return []

def debugString (call : GuestCaller σ) (returnPointer handle : UInt32) :
    BridgeAction σ (List Core) := do
  let _ ← bound
  let (pointer, length) ← passText call (← peek handle).debugText
  writePair returnPointer pointer length
  return []

/-- A general error with a message from memory, or with none if that cannot be read. -/
def errorNew (call : GuestCaller σ) (offset length : UInt32) : BridgeAction σ (List Core) := do
  let _ ← bound
  let message ← orRaise call (readText offset length) ""
  let v ← inRealm (·.newError (.general message))
  return [.word (← alloc v)]

def throwMessage (offset length : UInt32) : BridgeAction σ (List Core) := do
  let _ ← bound
  throw (.guestThrow (← readText offset length))

def closureNew (code destructor data metaWord : UInt32) : BridgeAction σ (List Core) := do
  let i ← inRealm (·.newClosure .guest code destructor data metaWord)
  return [.word (← alloc (.function i))]

/-- Releases a handle and gives up the guest's reference to the closure behind it; one if that ran
the destructor. -/
def closureDrop (call : GuestCaller σ) (handle : UInt32) : BridgeAction σ (List Core) := do
  let _ ← bound
  let v ← orRaise call (take handle) .undefined
  let outcome ← Action.attempt do
    match v with
    | .function i => return wordOfBool (← (closureCalls call).dropReference i)
    | .undefined => return wordOfBool false
    | v =>
      raise call (v.notA "a closure")
      return wordOfBool false
  letGo v
  Action.conclude outcome

/-- Calls the function behind a handle on the value behind another. -/
def functionCall (call : GuestCaller σ) (function argument : UInt32) :
    BridgeAction σ (List Core) := do
  let _ ← bound
  match ← peek function with
  | .function i =>
    hold (.function i)
    let outcome ← Action.attempt do
      let v ← peek argument
      hold v
      return [.word (← alloc (← invokeClosure call i v))]
    letGo (.function i)
    Action.conclude outcome
  | v =>
    raise call (v.notA "a function")
    return [.word 0]

/-- A guest's call of a fixed operation. The machine has checked the types of the arguments. -/
def serveIntrinsic (call : GuestCaller σ) : Intrinsic → List Core → BridgeAction σ (List Core)
  | .stringNew, [.word a, .word b] => stringNew call a b
  | .stringGet, [.word a, .word b] => stringGet call a b
  | .bytesNew, [.word a, .word b] => bytesNew call a b
  | .bytesGet, [.word a, .word b] => bytesGet call a b
  | .numberNew, [.double x] => do return [.word (← alloc (.number x))]
  | .numberGet, [.word a, .word b] => numberGet a b
  | .boolGet, [.word a] => boolGet a
  | .isUndefined, [.word a] => testValue Value.isUndefined a
  | .isNull, [.word a] => testValue Value.isNull a
  | .isObject, [.word a] => testValue Value.isObject a
  | .isString, [.word a] => testValue Value.isString a
  | .isFunction, [.word a] => testValue Value.isFunction a
  | .objectCloneRef, [.word a] => objectCloneRef call a
  | .objectDropRef, [.word a] => objectDropRef call a
  | .debugString, [.word a, .word b] => debugString call a b
  | .errorNew, [.word a, .word b] => errorNew call a b
  | .throw, [.word a, .word b] => throwMessage a b
  | .closureNew, [.word a, .word b, .word c, .word d] => closureNew a b c d
  | .closureDrop, [.word a] => closureDrop call a
  | .functionCall, [.word a, .word b] => functionCall call a b
  | _, _ => throw .declined

end GuestBridge.BridgeAction

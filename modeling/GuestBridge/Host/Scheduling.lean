import GuestBridge.Capability
/-!
Work for later: timers, microtasks, promises and the clock.
-/

set_option autoImplicit false

namespace GuestBridge.Host.Scheduling

def functionArgument (args : List Value) (i : Nat) : HostCall Nat :=
  let v := args.getD i .undefined
  match v.asFunction? with
  | some callback => return callback
  | none => throw (v.notA "a function")

def promiseArgument (args : List Value) (i : Nat) : HostCall Nat :=
  let v := args.getD i .undefined
  match v.asPromise? with
  | some p => return p
  | none => throw (v.notA "a promise")

/-- The argument as a number; anything else counts as zero. -/
def numberArgument (args : List Value) (i : Nat) : Double :=
  ((args.getD i .undefined).asNumber?).getD .zero

/-- Changes the event loop and lets go of the callback that this yields. -/
def setTimeout (args : List Value) : HostCall Value := do
  let callback ← functionArgument args 0
  HostCall.changeRealm (·.hold (.function callback))
  let id ← HostCall.inRealm fun r =>
    let (id, events) := r.events.setTimeout callback (numberArgument args 1).toUInt64
    (id, { r with events := events })
  return .number (Double.ofUInt32 id)

/-- Cancels a timer and lets go of its callback; an id without a timer is ignored. -/
def cancelTimer (r : Realm) (id : UInt32) : Realm :=
  match r.events.clearTimeout id with
  | (some timer, events) => { r with events := events }.letGo (.function timer.callback)
  | (none, events) => { r with events := events }

def clearTimeout (args : List Value) : HostCall Value := do
  HostCall.changeRealm (cancelTimer · (numberArgument args 0).toUInt32)
  return .undefined

def queueMicrotask (args : List Value) : HostCall Value := do
  let callback ← functionArgument args 0
  HostCall.changeRealm fun r =>
    let r := r.hold (.function callback)
    { r with events := r.events.queue ⟨callback, .undefined, none⟩ }
  return .undefined

/-- A promise is handed back as it is; anything else becomes the value of a new one. -/
def promiseResolve (args : List Value) : HostCall Value := do
  let v := args.getD 0 .undefined
  match v with
  | .promise _ => HostCall.sharing v
  | v =>
    let p ← HostCall.inRealm (·.newPromise (.pending []))
    HostCall.changeRealm fun r => (r.hold v).resolve p v
    return .promise p

def promiseThen (args : List Value) : HostCall Value := do
  let p ← promiseArgument args 0
  let callback ← functionArgument args 1
  HostCall.changeRealm (·.hold (.function callback))
  return .promise (← HostCall.inRealm (·.andThen p callback))

/-- Virtual milliseconds. -/
def performanceNow (_ : List Value) : HostCall Value := do
  return .number (Double.ofUInt64 (← HostCall.getRealm).events.now)

def capabilities : List Capability := [
  ⟨"set_timeout", [.handle, .i32], .i32, true, setTimeout⟩,
  ⟨"clear_timeout", [.i32], .unit, false, clearTimeout⟩,
  ⟨"queue_microtask", [.handle], .unit, true, queueMicrotask⟩,
  ⟨"promise_resolve", [.handle], .handle, false, promiseResolve⟩,
  ⟨"promise_then", [.handle, .handle], .handle, true, promiseThen⟩,
  ⟨"performance_now", [], .f64, false, performanceNow⟩]

end GuestBridge.Host.Scheduling

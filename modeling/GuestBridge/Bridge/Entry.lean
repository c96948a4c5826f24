import GuestBridge.Bridge.Run
/-!
The ways into a bridge from the host: starting a guest, calling what it exports and the functions
it handed out, and giving it turns for its microtasks and timers. Destructors of closures that
became unreachable on the way run before these return.
-/

set_option autoImplicit false

namespace GuestBridge.BridgeAction

variable {σ : Type}

/-- Runs the destructors of the guest's closures that became unreachable; yields how many. Without
any there is no need for a guest. -/
def drain : BridgeAction σ Nat := do
  let b ← get
  if b.host.realm.closures.guest.finalizers.isEmpty then return 0
  let _ ← bound
  drainBatches callGuest b.limits.turns

/-- A call's own failure goes before that of a destructor drained after it. -/
def settleCall {α : Type} (outcome : Except Fault α) : BridgeAction σ α := do
  let drained ← Action.attempt drain
  let a ← Action.conclude outcome
  let _ ← Action.conclude drained
  return a

/-- The function behind an export, which has to be of a type if it is there. -/
def typedExport? (m : GuestModule σ) (name : String) (type : Signature) :
    Except Fault (Option (GuestFunction σ)) :=
  match m.function? name with
  | none => .ok none
  | some f => if f.type = type then .ok (some f) else .error .declined

def typedExport (m : GuestModule σ) (name : String) (type : Signature) :
    Except Fault (GuestFunction σ) := do
  match ← typedExport? m name type with
  | some f => return f
  | none => throw .declined

def bindExports (m : GuestModule σ) (names : ExportNames) : Except Fault (BoundExports σ) := do
  let malloc ← typedExport m names.malloc ⟨[.i32, .i32], [.i32]⟩
  let realloc? ← typedExport? m names.realloc ⟨[.i32, .i32, .i32, .i32], [.i32]⟩
  let free? ← typedExport? m names.free ⟨[.i32, .i32, .i32], []⟩
  let exnStore ← typedExport m names.exnStore ⟨[.i32], []⟩
  let start? ← typedExport? m names.start ⟨[], []⟩
  return ⟨malloc, realloc?, free?, exnStore, start?, m.table? names.table⟩

/-- Makes an instance of a module. Its exports are bound, and the bridge is active, before the
start export runs. -/
def instantiate (m : GuestModule σ) : BridgeAction σ Unit := do
  let b ← get
  let names := b.settings.exports
  Action.conclude (m.surface.checkExports names)
  let linked ← match link b.registry b.settings.imports m.surface with
    | .ok linked => pure linked
    | .error cause => throw (.unresolved cause)
  modify fun b => { b with capabilities := linked.capabilities }
  unless intrinsicsTyped m.surface b.settings.imports do throw .declined
  let (pages, maxPages) := (m.memory? names.memory).getD (0, 0)
  changeMachine fun _ => ⟨m.initialMemory pages, maxPages, m.initial, linked.bindings⟩
  match m.onCreation with
  | some code => code.run (serveImport callGuest)
  | none => pure ()
  if (m.memory? names.memory).isNone then throw (.missingExport names.memory)
  let exports ← Action.conclude (bindExports m names)
  modify fun b => { b with bound := some exports, active := some m, views := b.views.reset }
  match exports.start? with
  | some start => callUnit callGuest start []
  | none => pure ()
  let _ ← drain

inductive Source (σ : Type)
  | module (m : GuestModule σ)
  /-- No bytes, or bytes that are not a module. -/
  | unloadable

def start (source : Source σ) : BridgeAction σ (BoundExports σ) := do
  unless (← get).isActive do
    match source with
    | .module m => instantiate m
    | .unloadable => throw .declined
  bound

def exportedFunction (name : String) : BridgeAction σ (GuestFunction σ) := do
  match (← get).active with
  | none => throw .notInitialized
  | some m =>
    match m.function? name with
    | some f => return f
    | none => throw (.unknownExport name)

def callTyped (name : String) (type : Signature) (args : List Core) :
    BridgeAction σ (List Core) := do
  let f ← exportedFunction name
  unless f.type = type do throw .declined
  settleCall (← Action.attempt (callGuest f args))

/-- Calls an export with arguments that the machine checks. -/
def callDynamic (name : String) (args : List Core) : BridgeAction σ (List Core) := do
  let f ← exportedFunction name
  settleCall (← Action.attempt do
    unless f.type.params = args.map Core.type do throw .declined
    callGuest f args)

/-- Calls the function behind a handle with a value that the caller gives up, and yields a value
that the caller takes over. The function is held until the destructors have run. -/
def invoke (handle : UInt32) (argument : Value) : BridgeAction σ Value := do
  match ← peek handle with
  | .function i =>
    if (← get).bound.isNone then
      letGo argument
      throw .notInitialized
    hold (.function i)
    let outcome ← Action.attempt do
      let result ← Action.attempt (invokeClosure callGuest i argument)
      match ← Action.attempt drain with
      | .ok _ => Action.conclude result
      | .error fault =>
        match result with
        | .ok v => letGo v
        | .error _ => pure ()
        throw fault
    letGo (.function i)
    Action.conclude outcome
  | v =>
    letGo argument
    throw (.host (v.notA "a function"))

/-- Runs a microtask. A result settles the derived promise if there is one; a failure rejects it
instead of being reported. -/
def runMicrotask (task : Microtask) : BridgeAction σ Unit := do
  let outcome ← Action.attempt do
    let _ ← bound
    invokeClosure callGuest task.callback task.argument
  match task.settles, outcome with
  | some p, .ok v =>
    changeRealm fun r => (r.resolve p v).letGo (.promise p)
    letGo (.function task.callback)
  | _, .error .exhausted => throw .exhausted
  | some p, .error fault =>
    changeRealm fun r => (r.reject p (.general fault.message)).letGo (.promise p)
    letGo (.function task.callback)
  | none, .ok v =>
    letGo v
    letGo (.function task.callback)
  | none, .error fault =>
    letGo (.function task.callback)
    throw fault

def runMicrotasksWithin : Nat → BridgeAction σ Nat
  | 0 => throw .exhausted
  | turns + 1 => do
    let task? ← inRealm fun r =>
      let (task?, events) := r.events.popMicrotask
      (task?, { r with events := events })
    match task? with
    | none => return 0
    | some task =>
      runMicrotask task
      return (← runMicrotasksWithin turns) + 1

/-- Drains the queue of microtasks, and then the destructors that have become due. -/
def runMicrotasks : BridgeAction σ Nat := do
  let ran ← runMicrotasksWithin (← get).limits.turns
  let _ ← drain
  return ran

def fire (timer : Timer) : BridgeAction σ Unit := do
  let outcome ← Action.attempt do
    let _ ← bound
    letGo (← invokeClosure callGuest timer.callback .undefined)
  letGo (.function timer.callback)
  Action.conclude outcome

/-- Fires the timers due by the deadline in their order, each followed by the microtasks. -/
def fireDue (deadline : UInt64) : Nat → BridgeAction σ Nat
  | 0 => throw .exhausted
  | turns + 1 => do
    let timer? ← inRealm fun r =>
      let (timer?, events) := r.events.popDue deadline
      (timer?, { r with events := events })
    match timer? with
    | none => return 0
    | some timer =>
      fire timer
      let _ ← runMicrotasks
      return (← fireDue deadline turns) + 1

def runTimers (milliseconds : Nat) : BridgeAction σ Nat := do
  let b ← get
  let deadline := b.host.realm.events.deadlineAfter milliseconds
  let _ ← runMicrotasks
  let fired ← fireDue deadline b.limits.turns
  changeRealm fun r => { r with events := r.events.advanceTo deadline }
  return fired

def freeBuffer (pointer size align : UInt32) : BridgeAction σ Unit := do
  match (← bound).free? with
  | some free => callUnit callGuest free [pointer, size, align]
  | none => pure ()

def memorySize : BridgeAction σ Nat := do
  let _ ← bound
  return (← get).machine.memory.size

def grow (pages : Nat) : BridgeAction σ Nat := do
  let _ ← bound
  match ← growMemory pages with
  | some old => return old
  | none => throw .declined

end GuestBridge.BridgeAction

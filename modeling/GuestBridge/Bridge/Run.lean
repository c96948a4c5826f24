import GuestBridge.Bridge.Intrinsics
import GuestBridge.Bridge.Thunk
/-!
Running guest code. A call of an import leads back into the bridge, which may call the guest again;
each such level uses up one unit of depth.
-/

set_option autoImplicit false

namespace GuestBridge

variable {σ : Type}

/-- Adds pages to the memory of the machine; yields the old number of pages if they fit. -/
def Machine.grow (m : Machine σ) (pages : Nat) : Option Nat × Machine σ :=
  let old := m.memory.size / Memory.pageSize
  if old + pages ≤ m.maxPages then
    (some old, { m with memory := m.memory.resize ((old + pages) * Memory.pageSize) })
  else (none, m)

namespace BridgeAction

def changeMachine (f : Machine σ → Machine σ) : BridgeAction σ Unit :=
  modify fun b => { b with machine := f b.machine }

def growMemory (pages : Nat) : BridgeAction σ (Option Nat) := do
  let b ← get
  let (old, machine) := b.machine.grow pages
  set { b with machine := machine }
  return old

def record (entry : JournalEntry) : BridgeAction σ Unit :=
  modify fun b => { b with host := { b.host with journal := b.host.journal.push entry } }

end BridgeAction

/-- Runs guest code on the machine of the bridge, with `serve` for its imports. -/
def Code.run {α : Type} (serve : Nat → List Core → BridgeAction σ (List Core)) :
    Code σ α → BridgeAction σ α
  | .yield a => return a
  | .trap t => throw (.trap t)
  | .read next => do (next (← get).machine.state).run serve
  | .write s next => do
    BridgeAction.changeMachine fun m => { m with state := s }
    next.run serve
  | .call index args next => do (next (← serve index args)).run serve
  | .size next => do (next (← get).machine.memory.size).run serve
  | .grow pages next => do (next (← BridgeAction.growMemory pages)).run serve
  | .load offset length next => do
    let m := (← get).machine.memory
    if offset + length ≤ m.size then (next (m.slice offset length)).run serve
    else throw (.trap .memoryOutOfBounds)
  | .store offset data next => do
    let m := (← get).machine.memory
    if offset + data.length ≤ m.size then
      BridgeAction.setMemory (m.store offset data)
      next.run serve
    else throw (.trap .memoryOutOfBounds)
  | .note name words next => do
    BridgeAction.record (.words name words)
    next.run serve

def serveImport (call : GuestCaller σ) (index : Nat) (args : List Core) :
    BridgeAction σ (List Core) := do
  match (← get).machine.bindings[index]? with
  | some (.intrinsic op) => BridgeAction.serveIntrinsic call op args
  | some (.capability index) => BridgeAction.dispatch call index args
  | none => throw .declined

/-- Calls a guest function; calls between guest and host may nest `depth` deep. -/
def callWithin : Nat → GuestCaller σ
  | 0, _, _ => throw .exhausted
  | depth + 1, f, args => (f.body args).run (serveImport (callWithin depth))

def callGuest (f : GuestFunction σ) (args : List Core) : BridgeAction σ (List Core) := do
  callWithin (← get).limits.depth f args

end GuestBridge

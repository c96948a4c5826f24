import GuestBridge.Closure
/-!
A guest whose closures follow scripts: each invocation of a table entry takes the next script for
that entry, does its steps on closures, and ends as the script says. Invocations within invocations
are bounded by the number of scripts.
-/

set_option autoImplicit false

namespace GuestBridge.Sample.Scripted

inductive Step
  | invoke (closure : Nat) (argument : UInt32)
  | dropReference (closure : Nat)
  /-- Lets go of the reference that the table of closures holds. -/
  | release (closure : Nat)
  deriving DecidableEq, Repr

/-- How a script ends. -/
inductive Ending
  | argument
  | handle (h : UInt32)
  | failure (message : String)
  deriving DecidableEq, Repr

structure Script where
  steps : List Step
  ending : Ending
  deriving DecidableEq, Repr

/-- What a step came to. -/
inductive StepResult
  /-- The closure was released before. -/
  | nothing
  | handle (h : UInt32)
  | flag (b : Bool)
  | fault (f : Fault)
  deriving DecidableEq, Repr

inductive LogEntry
  | invoke (code data metaWord argument : UInt32)
  | destroy (destructor data metaWord : UInt32)
  | step (step : Step) (result : StepResult)
  deriving DecidableEq, Repr

structure State where
  closures : Closures
  /-- For each closure, whether the table still holds it. -/
  table : Array Bool
  /-- Scripts by table entry. -/
  scripts : List (UInt32 × List Script)
  failingDestructors : List UInt32
  log : List LogEntry
  deriving DecidableEq, Repr

instance : HasClosures State where
  closures := State.closures
  setClosures s closures := { s with closures := closures }

def initial (scripts : List (UInt32 × List Script)) (failingDestructors : List UInt32) : State :=
  ⟨.empty, #[], scripts, failingDestructors, []⟩

/-- How many scripts are left. -/
def State.scriptCount (s : State) : Nat := s.scripts.foldl (fun n entry => n + entry.2.length) 0

def write (entry : LogEntry) : Action State Unit :=
  modify fun s => { s with log := s.log ++ [entry] }

/-- The next script of a table entry, taken off its queue. -/
def nextScript (code : UInt32) : Action State (Option Script) := do
  let s ← get
  match (s.scripts.find? fun entry => entry.1 == code).map (·.2) with
  | some (script :: rest) =>
    let scripts := s.scripts.map fun (c, queue) => (c, if c == code then rest else queue)
    set { s with scripts := scripts }
    return some script
  | _ => return none

def create (code destructor data metaWord : UInt32) : Action State Nat := do
  let s ← get
  let (i, closures) := s.closures.create .guest code destructor data metaWord
  set { s with closures := closures, table := s.table.push true }
  return i

/-- Holds a closure for the duration of an operation on it, if the table holds it at all. -/
def whileHeld (i : Nat) (act : Action State StepResult) : Action State StepResult := do
  let s ← get
  if s.table.getD i false then
    set { s with closures := s.closures.hold i }
    let outcome ← Action.attempt act
    modify fun s => { s with closures := s.closures.release i }
    match outcome with
    | .ok result => return result
    | .error .exhausted => throw .exhausted
    | .error f => return .fault f
  else return .nothing

def perform (calls : ClosureCalls State) : Step → Action State StepResult
  | .invoke i argument => whileHeld i do return .handle (← calls.invoke i argument)
  | .dropReference i => whileHeld i do return .flag (← calls.dropReference i)
  | .release i => do
    let s ← get
    if s.table.getD i false then
      set { s with closures := s.closures.release i, table := s.table.setIfInBounds i false }
      return .flag true
    return .flag false

def follow (calls : ClosureCalls State) : List Step → Action State Unit
  | [] => return
  | step :: rest => do
    write (.step step (← perform calls step))
    follow calls rest

def destroy (destructor data metaWord : UInt32) : Action State Unit := do
  write (.destroy destructor data metaWord)
  if (← get).failingDestructors.contains destructor then
    throw (.standIn s!"mock: destructor {destructor} failed")

/-- Runs one invocation with `calls` for those within it. -/
def invocation (calls : ClosureCalls State) (code data metaWord argument : UInt32) :
    Action State UInt32 := do
  write (.invoke code data metaWord argument)
  match ← nextScript code with
  | none => return argument
  | some script =>
    follow calls script.steps
    match script.ending with
    | .argument => return argument
    | .handle h => return h
    | .failure message => throw (.standIn ("mock: " ++ message))

/-- The guest, with invocations nested at most `depth` deep. -/
def guest : Nat → ClosureCalls State
  | 0 => ⟨fun _ _ _ _ => throw .exhausted, destroy⟩
  | depth + 1 =>
    ⟨fun code data metaWord argument => invocation (guest depth) code data metaWord argument,
      destroy⟩

/-- A step from outside. Each level of nesting uses up a script, so the depth is enough. -/
def run (step : Step) : Action State StepResult := do
  perform (guest ((← get).scriptCount + 2)) step

end GuestBridge.Sample.Scripted

import GuestBridge.Closure
import GuestBridge.Element
import GuestBridge.EventLoop
import GuestBridge.Promise
/-!
The realm owns what host values refer to: closures, promises, elements and the event loop. Every
value that is kept somewhere is held, and let go of when it is dropped. What nothing holds any more
goes away, and lets go of what it held itself.
-/

set_option autoImplicit false

namespace GuestBridge

structure Realm where
  closures : Closures
  promises : Pool Promise
  elements : Elements
  events : EventLoop
  /-- The number by which the next array, object or error is told from the others. -/
  nextIdentity : Nat
  deriving DecidableEq, Repr

namespace Realm

def empty : Realm := ⟨.empty, .empty, .empty, .empty, 0⟩

instance : Inhabited Realm := ⟨empty⟩

instance : HasClosures Realm where
  closures := closures
  setClosures r closures := { r with closures := closures }

def freshIdentity (r : Realm) : Nat × Realm :=
  (r.nextIdentity, { r with nextIdentity := r.nextIdentity + 1 })

def newError (r : Realm) (failure : Failure) : Value × Realm :=
  let (identity, r) := r.freshIdentity
  (.error identity failure, r)

def newClosure (r : Realm) (account : Account) (code destructor data metaWord : UInt32) :
    Nat × Realm :=
  let (i, closures) := r.closures.create account code destructor data metaWord
  (i, { r with closures := closures })

/-- A new promise that the caller holds. A promise made with a value keeps it even if that value is
a promise. -/
def newPromise (r : Realm) (promise : Promise) : Nat × Realm :=
  let (p, promises) := r.promises.add promise 1
  (p, { r with promises := promises })

def newElement (r : Realm) (tag : String) : Nat × Realm :=
  let (i, elements) := r.elements.create tag
  (i, { r with elements := elements })

def hold (r : Realm) : Value → Realm
  | .function i => { r with closures := r.closures.hold i }
  | .promise p => { r with promises := r.promises.hold p }
  | .element e => { r with elements := r.elements.hold e }
  | _ => r

def isPending (r : Realm) (p : Nat) : Bool := (r.promises.get? p).any Promise.isPending

/-- Follows promises that are fulfilled with promises. Such a promise was made with its value, so
that the value is older than it; this bounds the walk. -/
def followPromise (r : Realm) (asking q : Nat) : Target :=
  match r.promises.get? q with
  | some (.settled (.fulfilled (.promise inner))) =>
    if inner = asking then .itself
    else if inner < q then r.followPromise asking inner
    else .itself
  | some (.settled (.fulfilled v)) => .value v
  | some (.settled (.rejected f)) => .failure f
  | _ => .waiting q
termination_by q

/-- What the promise `asking` has to become when it is resolved with a value. -/
def target (r : Realm) (asking : Nat) : Value → Target
  | .promise q => if q = asking then .itself else r.followPromise asking q
  | v => .value v

/-- One step of settling or of letting go. -/
inductive Job
  | letGo (v : Value)
  /-- Uses up the value. -/
  | resolve (promise : Nat) (v : Value)
  | reject (promise : Nat) (f : Failure)
  /-- Uses up what the reaction holds. -/
  | react (reaction : Reaction) (outcome : Outcome)

/-- The values that a reaction holds. -/
def Job.ofReaction : Reaction → List Job
  | .call callback derived => [.letGo (.function callback), .letGo (.promise derived)]
  | .forward derived => [.letGo (.promise derived)]

/-- The values that a promise holds. -/
def Job.ofPromise : Promise → List Job
  | .pending reactions => reactions.flatMap ofReaction
  | .settled (.fulfilled v) => [.letGo v]
  | .settled (.rejected _) => []

def chainingCycle : Failure := .typeError "chaining cycle detected for promise"

/-- Settles a pending promise; its reactions follow in the order of their registration. -/
def settle (r : Realm) (p : Nat) (outcome : Outcome) : Realm × List Job :=
  match r.promises.get? p with
  | some (.pending reactions) =>
    ({ r with promises := r.promises.modify p fun _ => .settled outcome },
      reactions.map fun reaction => .react reaction outcome)
  | _ => (r, [])

/-- Adds a reaction to a pending promise. -/
def addReaction (r : Realm) (p : Nat) (reaction : Reaction) : Realm :=
  { r with promises := r.promises.modify p (Promise.withReaction reaction) }

/-- A job done, and the jobs that it leaves to be done before all others. -/
def doJob (r : Realm) : Job → Realm × List Job
  | .letGo (.function i) => ({ r with closures := r.closures.release i }, [])
  | .letGo (.promise p) =>
    let (gone, promises) := r.promises.release p
    ({ r with promises := promises }, (gone.map Job.ofPromise).getD [])
  | .letGo (.element e) =>
    let (gone, elements) := r.elements.release e
    ({ r with elements := elements },
      (gone.map fun e => e.children.map fun c => Job.letGo (.element c)).getD [])
  | .letGo _ => (r, [])
  | .reject p f => r.settle p (.rejected f)
  | .resolve p v =>
    if r.isPending p then
      match r.target p v with
      | .itself =>
        let (r, jobs) := r.settle p (.rejected chainingCycle)
        (r, jobs ++ [.letGo v])
      | .waiting q => ((r.addReaction q (.forward p)).hold (.promise p), [.letGo v])
      | .failure f =>
        let (r, jobs) := r.settle p (.rejected f)
        (r, jobs ++ [.letGo v])
      | .value w =>
        let (r, jobs) := (r.hold w).settle p (.fulfilled w)
        (r, jobs ++ [.letGo v])
    else (r, [.letGo v])
  | .react (.call callback derived) (.fulfilled v) =>
    let r := r.hold v
    ({ r with events := r.events.queue ⟨callback, v, some derived⟩ }, [])
  | .react (.call callback derived) (.rejected f) =>
    (r, [.reject derived f, .letGo (.promise derived), .letGo (.function callback)])
  | .react (.forward derived) (.fulfilled v) =>
    (r.hold v, [.resolve derived v, .letGo (.promise derived)])
  | .react (.forward derived) (.rejected f) =>
    (r, [.reject derived f, .letGo (.promise derived)])

end Realm

end GuestBridge

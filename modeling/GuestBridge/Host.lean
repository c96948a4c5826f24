import GuestBridge.Extensions
import GuestBridge.Realm.Settling
import GuestBridge.Realm.Snapshot
/-!
The host behind the bridge: the realm of its objects, the state its facilities keep, and a journal
for whoever watches. A host function borrows its arguments and yields a value that its caller is to
hold.
-/

set_option autoImplicit false

namespace GuestBridge

inductive ConsoleLevel
  | log
  | warn
  | error
  deriving DecidableEq, Repr

structure Clipboard where
  text : String
  denied : Bool
  deriving DecidableEq, Repr

structure Graphics where
  adapters : List String
  powerPreference : Option String
  canvasFormat : String
  /-- In ascending order of the index. -/
  bindGroups : List (UInt32 × List UInt32)
  deriving DecidableEq, Repr

inductive Facility
  | console
  | document
  | clipboard
  | graphics
  /-- What the scripted host functions are to answer. -/
  | answer
  deriving DecidableEq, Repr

/-- An answer of a scripted host function. -/
inductive Answer
  | value (v : Value)
  | failure (f : Failure)
  deriving DecidableEq, Repr

/-- What a facility keeps; the document keeps its body element. -/
abbrev Facility.State : Facility → Type
  | .console => Array (ConsoleLevel × String)
  | .document => Nat
  | .clipboard => Clipboard
  | .graphics => Graphics
  | .answer => Answer

/-- A line in the journal: what was done, with words or with values. -/
inductive JournalEntry
  | words (name : String) (words : List UInt32)
  | values (name : String) (values : List Snapshot)
  deriving DecidableEq, Repr

structure Host where
  realm : Realm
  extensions : Extensions Facility Facility.State
  journal : Array JournalEntry

namespace Host

def empty : Host := ⟨.empty, .empty, #[]⟩

instance : Inhabited Host := ⟨empty⟩

instance : HasClosures Host where
  closures h := h.realm.closures
  setClosures h closures := { h with realm := { h.realm with closures := closures } }

end Host

/-- What a host function does: it ends with a value or a failure, and what it did to the host
before a failure stays done. -/
abbrev HostCall := ExceptT Failure (StateM Host)

namespace HostCall

def changeRealm (f : Realm → Realm) : HostCall Unit :=
  modify fun h => { h with realm := f h.realm }

/-- Runs an operation of the realm that has a result. -/
def inRealm {α : Type} (f : Realm → α × Realm) : HostCall α := do
  let h ← get
  let (a, realm) := f h.realm
  set { h with realm := realm }
  return a

def getRealm : HostCall Realm := return (← get).realm

/-- The state of a facility, which is there from now on. -/
def facility (kind : Facility) (initial : kind.State) : HostCall kind.State := do
  let h ← get
  let (state, extensions) := h.extensions.getOrInsert kind initial
  set { h with extensions := extensions }
  return state

def setFacility (kind : Facility) (state : kind.State) : HostCall Unit :=
  modify fun h => { h with extensions := h.extensions.set kind state }

/-- A value that is already kept elsewhere, to be kept once more. -/
def sharing (v : Value) : HostCall Value := do
  changeRealm (·.hold v)
  return v

def newPromise (promise : Promise) : HostCall Value := do
  return .promise (← inRealm (·.newPromise promise))

end HostCall

end GuestBridge

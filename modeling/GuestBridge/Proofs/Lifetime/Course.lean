import GuestBridge.Proofs.Closures
/-!
Courses of events among closures. A course says what is done one thing after the other; a call of
the guest is answered by a course of its own, which may go back to any closure, and by an outcome.
A guest that decides as it goes along comes, in any one run, to some such course. Playing a course
keeps a history, the latest event first.
-/

set_option autoImplicit false

namespace GuestBridge.Lifetime

inductive Course
  | done
  | create (account : Account) (code destructor data metaWord : UInt32) (rest : Course)
  | keep (closure : Nat) (rest : Course)
  /-- One place less, if there is one besides the operations in progress. -/
  | letGo (closure : Nat) (rest : Course)
  /-- An invocation. The guest answers it by `during` and `outcome`, and a call of the destructor
  at its end by `destruction` and `destroyed`. -/
  | invoke (closure : Nat) (argument : UInt32) (during : Course) (outcome : Except Fault UInt32)
      (destruction : Course) (destroyed : Except Fault Unit) (rest : Course)
  | dropReference (closure : Nat) (destruction : Course) (destroyed : Except Fault Unit)
      (rest : Course)
  | drain (account : Account) (rest : Course)

/-- What an onlooker notes. A `call` is named by how much had happened before it. -/
inductive Event
  | created (k : Closure)
  | entered (closure : Nat) (code data metaWord argument : UInt32)
  /-- The guest is done with it, when the closure has so many references. -/
  | left (closure references : Nat)
  | dropping (closure references : Nat)
  | dropped (call closure : Nat) (result : Except Fault Bool)
  | destroying (call closure : Nat) (destructor data metaWord : UInt32)
  | destroyed (call : Nat) (outcome : Except Fault Unit)
  /-- The last place on the host side has let go of the closure, which put these destructor calls
  on the queue of its account. -/
  | gone (closure : Nat) (queued : List Finalizer)
  | drained (account : Account) (finalizers : List Finalizer)

structure State where
  closures : Closures
  /-- How many operations on each closure are in progress. -/
  busy : Nat → Nat
  history : List Event

instance : HasClosures State where
  closures := State.closures
  setClosures s closures := { s with closures := closures }

namespace State

def initial : State := ⟨.empty, fun _ => 0, []⟩

def note (s : State) (event : Event) : State := { s with history := event :: s.history }

def setBusy (s : State) (i n : Nat) : State :=
  { s with busy := fun j => if j = i then n else s.busy j }

def hold (s : State) (i : Nat) : State := { s with closures := s.closures.hold i }

def release (s : State) (i : Nat) : State :=
  let account := (s.closures.get i).account
  let after : State := { s with closures := s.closures.release i }
  let queued := (after.closures.ledger account).finalizers.drop
    (s.closures.ledger account).finalizers.length
  if after.closures.pool.contains i then after else after.note (.gone i queued)

def begin (s : State) (i : Nat) : State := (s.hold i).setBusy i (s.busy i + 1)

def finish (s : State) (i : Nat) : State := (s.setBusy i (s.busy i - 1)).release i

def create (s : State) (account : Account) (code destructor data metaWord : UInt32) : State :=
  let number := (s.closures.ledger account).created
  let (_, closures) := s.closures.create account code destructor data metaWord
  ({ s with closures := closures } : State).note
    (.created ⟨account, number, code, destructor, data, metaWord, 1, false⟩)

def drain (s : State) (account : Account) : State :=
  let (finalizers, closures) := s.closures.takeFinalizers account
  ({ s with closures := closures } : State).note (.drained account finalizers)

def spare (s : State) (i : Nat) : Nat :=
  ((s.closures.pool.held? i).map Held.holders).getD 0 - s.busy i

end State

/-- The guest as an operation on closure `i` finds it. -/
def guest (call i : Nat) (during : State → State) (outcome : Except Fault UInt32)
    (destruction : State → State) (destroyed : Except Fault Unit) : ClosureCalls State where
  run code data metaWord argument := fun s =>
    let s := during (s.note (.entered i code data metaWord argument))
    (outcome, s.note (.left i (s.closures.get i).references))
  destroy destructor data metaWord := fun s =>
    let s := destruction (s.note (.destroying call i destructor data metaWord))
    (destroyed, s.note (.destroyed call destroyed))

def invoked (s : State) (i : Nat) (argument : UInt32) (during : State → State)
    (outcome : Except Fault UInt32) (destruction : State → State)
    (destroyed : Except Fault Unit) : State :=
  let calls := guest s.history.length i during outcome destruction destroyed
  ((calls.invoke i argument).perform (s.begin i)).2.finish i

def referenceDropped (s : State) (i : Nat) (destruction : State → State)
    (destroyed : Except Fault Unit) : State :=
  let call := s.history.length
  let calls := guest call i id (.error .exhausted) destruction destroyed
  let s := (s.begin i).note (.dropping i (s.closures.get i).references)
  let (result, s) := (calls.dropReference i).perform s
  (s.note (.dropped call i result)).finish i

/-- The state that a course leads to. An operation on a closure that nothing holds is none. -/
def Course.play : Course → State → State
  | .done, s => s
  | .create account code destructor data metaWord rest, s =>
    rest.play (s.create account code destructor data metaWord)
  | .keep i rest, s => rest.play (s.hold i)
  | .letGo i rest, s => rest.play (if 0 < s.spare i then s.release i else s)
  | .invoke i argument during outcome destruction destroyed rest, s =>
    rest.play (if s.closures.pool.contains i then
      invoked s i argument during.play outcome destruction.play destroyed else s)
  | .dropReference i destruction destroyed rest, s =>
    rest.play (if s.closures.pool.contains i then
      referenceDropped s i destruction.play destroyed else s)
  | .drain account rest, s => rest.play (s.drain account)

/-! What a history tells. -/

def births : List Event → List Closure
  | [] => []
  | .created k :: past => births past ++ [k]
  | _ :: past => births past

def active (i : Nat) : List Event → Nat
  | [] => 0
  | .entered j .. :: past => active i past + if j = i then 1 else 0
  | .left j _ :: past => active i past - if j = i then 1 else 0
  | _ :: past => active i past

def drops (i : Nat) : List Event → Nat
  | [] => 0
  | .dropping j references :: past => drops i past + if j = i ∧ 0 < references then 1 else 0
  | _ :: past => drops i past

def destructions (i : Nat) : List Event → Nat
  | [] => 0
  | .destroying _ j .. :: past => destructions i past + if j = i then 1 else 0
  | _ :: past => destructions i past

def departures (i : Nat) : List Event → Nat
  | [] => 0
  | .gone j _ :: past => departures i past + if j = i then 1 else 0
  | _ :: past => departures i past

/-- The destructor calls that are left to an account: one for each of its closures that the last
place let go of before the destructor was called, with the words of its creation. -/
def leftovers (account : Account) : List Event → List Finalizer
  | [] => []
  | .gone i _ :: past =>
    leftovers account past ++
      (((births past)[i]?.filter fun k => k.account = account ∧ destructions i past = 0).map
        Closure.finalizer).toList
  | _ :: past => leftovers account past

def taken (account : Account) : List Event → List Finalizer
  | [] => []
  | .drained a finalizers :: past => taken account past ++ if a = account then finalizers else []
  | _ :: past => taken account past

/-- All destructor calls that were ever put on the queue of an account. -/
def State.everQueued (s : State) (account : Account) : List Finalizer :=
  taken account s.history ++ (s.closures.ledger account).finalizers

def Event.underflows : Event → Bool
  | .left _ 0 => true
  | _ => false

/-- No invocation ends when there is no reference left to take away. -/
def NoUnderflow (history : List Event) : Prop := ∀ event ∈ history, event.underflows = false

instance (history : List Event) : Decidable (NoUnderflow history) :=
  inferInstanceAs (Decidable (∀ event ∈ history, event.underflows = false))

end GuestBridge.Lifetime

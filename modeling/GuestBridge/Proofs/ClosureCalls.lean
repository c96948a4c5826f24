import GuestBridge.Closure
import GuestBridge.Proofs.Action
/-!
What invoking a closure and giving up a reference come to, step by step, for any guest.
-/

set_option autoImplicit false

namespace GuestBridge

namespace Closure

/-- During an invocation: one reference more, and the data word out of reach. -/
def entered (k : Closure) : Closure := { k with references := k.references + 1, data := 0 }

def unreferenced (k : Closure) : Closure := { k with references := k.references - 1 }

def withData (data : UInt32) (k : Closure) : Closure := { k with data := data }

def ended (k : Closure) : Closure := { k with inert := true }

end Closure

namespace ClosureCalls

variable {σ : Type} [HasClosures σ]

/-- The closure with this number, as it is in a state. -/
def closureOf (s : σ) (i : Nat) : Closure := (HasClosures.closures s).get i

/-- A state after one closure in it has changed. -/
def changed (s : σ) (i : Nat) (f : Closure → Closure) : σ :=
  HasClosures.setClosures s ((HasClosures.closures s).modify i f)

@[simp] theorem perform_look (i : Nat) (s : σ) :
    (look i).perform s = (.ok (closureOf s i), s) := rfl

@[simp] theorem perform_change (i : Nat) (f : Closure → Closure) (s : σ) :
    (change i f).perform s = (.ok ⟨⟩, changed s i f) := rfl

theorem perform_finish (calls : ClosureCalls σ) (i : Nat) (data : UInt32) (s : σ) :
    (calls.finish i data).perform s =
      if (closureOf s i).inert then (.ok (), s)
      else
        (calls.destroy (closureOf s i).destructor data (closureOf s i).metaWord).perform
          (changed s i Closure.ended) := by
  simp only [finish, Action.perform_bind, perform_look, Action.perform_ite, Action.perform_pure,
    perform_change]
  rfl

/-- The state after the guest is done with an invocation: one reference less. -/
def afterRun (calls : ClosureCalls σ) (i : Nat) (argument : UInt32) (s : σ) : σ :=
  let entered := changed s i Closure.entered
  let k := closureOf entered i
  let run := calls.run k.code (closureOf s i).data k.metaWord argument
  changed (run.perform entered).2 i Closure.unreferenced

private theorem invoke_eq (calls : ClosureCalls σ) (i : Nat) (argument : UInt32) :
    calls.invoke i argument = (do
      let before ← look i
      change i Closure.entered
      let k ← look i
      let outcome ← Action.attempt (calls.run k.code before.data k.metaWord argument)
      change i Closure.unreferenced
      let after ← look i
      let destroyed ←
        if after.references = 0 then Action.attempt (calls.finish i before.data)
        else do
          change i (Closure.withData before.data)
          pure (.ok ())
      let handle ← Action.conclude outcome
      Action.conclude destroyed
      return handle) := rfl

omit [HasClosures σ] in
/-- Which of two failures is reported makes no difference to the state. -/
private theorem state_conclusions {α : Type} (outcome : Except Fault α)
    (destroyed : Except Fault Unit) (s : σ) :
    ((do let a ← Action.conclude outcome
         Action.conclude destroyed
         return a : Action σ α).perform s).2 = s := by
  cases outcome <;> cases destroyed <;> rfl

theorem state_invoke (calls : ClosureCalls σ) (i : Nat) (argument : UInt32) (s : σ) :
    ((calls.invoke i argument).perform s).2 =
      if (closureOf (calls.afterRun i argument s) i).references = 0 then
        ((calls.finish i (closureOf s i).data).perform (calls.afterRun i argument s)).2
      else changed (calls.afterRun i argument s) i (Closure.withData (closureOf s i).data) := by
  rw [invoke_eq]
  simp only [Action.perform_bind (look i), Action.perform_bind (change i _),
    Action.perform_bind (Action.attempt _), perform_look, perform_change, Action.perform_attempt,
    Action.perform_ite, afterRun]
  split
  · next none =>
    exact (state_conclusions ..).trans (if_pos none).symm
  · next some =>
    exact (state_conclusions ..).trans (if_neg some).symm

/-- When the guest fails, nothing that comes after makes a difference to the outcome. -/
theorem outcome_invoke_error (calls : ClosureCalls σ) (i : Nat) (argument : UInt32) (s : σ)
    {fault : Fault}
    (failed : ((calls.run (closureOf (changed s i Closure.entered) i).code (closureOf s i).data
      (closureOf (changed s i Closure.entered) i).metaWord argument).perform
        (changed s i Closure.entered)).1 = .error fault) :
    ((calls.invoke i argument).perform s).1 = .error fault := by
  rw [invoke_eq]
  simp only [Action.perform_bind (look i), Action.perform_bind (change i _),
    Action.perform_bind (Action.attempt _), perform_look, perform_change, Action.perform_attempt,
    failed, Action.perform_ite]
  split <;> rfl

omit [HasClosures σ] in
private theorem perform_return {α β : Type} (act : Action σ α) (b : β) (s : σ) :
    (do let _ ← act
        return b : Action σ β).perform s =
      ((act.perform s).1.map fun _ => b, (act.perform s).2) := by
  rw [Action.perform_bind]
  rcases act.perform s with ⟨_ | _, _⟩ <;> rfl

theorem perform_dropReference (calls : ClosureCalls σ) (i : Nat) (s : σ) :
    (calls.dropReference i).perform s =
      if (closureOf s i).references = 0 then (.ok false, s)
      else if (closureOf s i).references = 1 then
        let last := changed (changed s i Closure.unreferenced) i (Closure.withData 0)
        let finished := (calls.finish i (closureOf s i).data).perform last
        (finished.1.map fun _ => true, finished.2)
      else (.ok false, changed s i Closure.unreferenced) := by
  simp only [dropReference, Action.perform_bind (look i), perform_look]
  by_cases none : (closureOf s i).references = 0
  · simp only [none, ↓reduceIte, Action.perform_pure]
  · by_cases last : (closureOf s i).references = 1
    · simp only [last, Nat.one_ne_zero, ↓reduceIte, Action.perform_bind (change i _),
        perform_change]
      exact perform_return ..
    · simp only [none, last, ↓reduceIte, Action.perform_bind (change i _), perform_change]
      rfl

end ClosureCalls

end GuestBridge

import GuestBridge.Action
import Mathlib.Order.Defs.Unbundled
/-!
What each way of building an operation comes to when it is performed, and relations between the
states before and after that every step of an operation keeps to.
-/

set_option autoImplicit false

namespace GuestBridge.Action

variable {σ α β : Type}

@[simp] theorem perform_pure (a : α) (s : σ) : (pure a : Action σ α).perform s = (.ok a, s) := rfl

@[simp] theorem perform_conclude (outcome : Except Fault α) (s : σ) :
    (conclude outcome : Action σ α).perform s = (outcome, s) := rfl

@[simp] theorem perform_attempt (act : Action σ α) (s : σ) :
    (attempt act).perform s = (.ok (act.perform s).1, (act.perform s).2) := rfl

/-- The second operation starts where a successful first one ended. -/
@[simp] theorem perform_bind (act : Action σ α) (next : α → Action σ β) (s : σ) :
    (act >>= next).perform s =
      match act.perform s with
      | (.ok a, s') => (next a).perform s'
      | (.error f, s') => (.error f, s') := by
  change (ExceptT.bindCont next (act.perform s).1 : StateM σ (Except Fault β))
    (act.perform s).2 = _
  rcases act.perform s with ⟨_ | _, _⟩ <;> rfl

@[simp] theorem perform_ite (condition : Prop) [Decidable condition] (act other : Action σ α)
    (s : σ) :
    (if condition then act else other).perform s =
      if condition then act.perform s else other.perform s := by
  split <;> rfl

@[simp] theorem perform_get (s : σ) : (get : Action σ σ).perform s = (.ok s, s) := rfl

@[simp] theorem perform_set (s s' : σ) : (set s' : Action σ PUnit).perform s = (.ok ⟨⟩, s') := rfl

@[simp] theorem perform_modify (f : σ → σ) (s : σ) :
    (modify f : Action σ PUnit).perform s = (.ok ⟨⟩, f s) := rfl

@[simp] theorem perform_throw (fault : Fault) (s : σ) :
    (throw fault : Action σ α).perform s = (.error fault, s) := rfl

theorem perform_bind_ok {act : Action σ α} {s : σ} (a : α) (s' : σ)
    (first : act.perform s = (.ok a, s')) {next : α → Action σ β} :
    (act >>= next).perform s = (next a).perform s' := by
  rw [perform_bind, first]

/-- A sequence succeeds if both parts do. -/
theorem bind_eq_ok {act : Action σ α} {next : α → Action σ β} {s s' : σ} {b : β}
    (done : (act >>= next).perform s = (.ok b, s')) :
    ∃ a s₁, act.perform s = (.ok a, s₁) ∧ (next a).perform s₁ = (.ok b, s') := by
  rw [perform_bind] at done
  rcases first : act.perform s with ⟨fault | a, s₁⟩ <;> rw [first] at done
  · cases done
  · exact ⟨a, s₁, rfl, done⟩

/-- What follows matters only where the first operation succeeds. -/
theorem perform_bind_congr {act : Action σ α} {next other : α → Action σ β} {s : σ}
    (same : ∀ a s', act.perform s = (.ok a, s') → (next a).perform s' = (other a).perform s') :
    (act >>= next).perform s = (act >>= other).perform s := by
  rw [perform_bind, perform_bind]
  rcases first : act.perform s with ⟨fault | a, s'⟩
  · rfl
  · exact same a s' first

/-- Wherever the operation begins, it ends in a related state, also when it fails. -/
def Along {ε : Type} (R : σ → σ → Prop) (act : ExceptT ε (StateM σ) α) : Prop :=
  ∀ s, R s (act.run.run s).2

namespace Along

variable {ε : Type} {R : σ → σ → Prop}

theorem mono {R' : σ → σ → Prop} (weaker : ∀ s s', R s s' → R' s s')
    {act : ExceptT ε (StateM σ) α} (along : Along R act) : Along R' act :=
  fun s => weaker s _ (along s)

theorem modify {f : σ → σ} (step : ∀ s, R s (f s)) :
    Along R (modify f : ExceptT ε (StateM σ) PUnit) := step

theorem attempt {act : Action σ α} (along : Along R act) : Along R (Action.attempt act) := along

theorem ended {act : Action σ α} (along : Along R act) {s s' : σ} {outcome : Except Fault α}
    (ended : act.perform s = (outcome, s')) : R s s' := by
  have related : R s (act.perform s).2 := along s
  rwa [ended] at related

/-- The second operation is only of interest where a successful first one ends. -/
theorem bind_ok [IsTrans σ R] {act : ExceptT ε (StateM σ) α}
    {next : α → ExceptT ε (StateM σ) β} (first : Along R act)
    (second : ∀ s a s', act.run.run s = (.ok a, s') → R s' ((next a).run.run s').2) :
    Along R (act >>= next) := by
  intro s
  have begun := first s
  change R s ((ExceptT.bindCont next (act.run.run s).1 : StateM σ (Except ε β))
    (act.run.run s).2).2
  rcases ended : act.run.run s with ⟨fault | a, s'⟩ <;> rw [ended] at begun
  · exact begun
  · exact IsTrans.trans _ _ _ begun (second s a s' ended)

theorem bind [IsTrans σ R] {act : ExceptT ε (StateM σ) α} {next : α → ExceptT ε (StateM σ) β}
    (first : Along R act) (second : ∀ a, Along R (next a)) : Along R (act >>= next) :=
  first.bind_ok fun _ a s' _ => second a s'

/-- What is done after looking at the state may depend on it. -/
theorem get_bind {next : σ → ExceptT ε (StateM σ) α} (all : ∀ s, R s ((next s).run.run s).2) :
    Along R (MonadState.get >>= next) := all

variable [Std.Refl R]

theorem pure (a : α) : Along R (Pure.pure a : ExceptT ε (StateM σ) α) := fun s => Std.Refl.refl s

theorem throw (failure : ε) : Along R (MonadExcept.throw failure : ExceptT ε (StateM σ) α) :=
  fun s => Std.Refl.refl s

/-- What would follow a failure is not done. -/
theorem throw_bind (failure : ε) (next : α → ExceptT ε (StateM σ) β) :
    Along R (MonadExcept.throw failure >>= next) :=
  fun s => Std.Refl.refl s

theorem conclude (outcome : Except Fault α) : Along R (Action.conclude outcome) :=
  fun s => Std.Refl.refl s

theorem get : Along R (MonadState.get : ExceptT ε (StateM σ) σ) := fun s => Std.Refl.refl s

theorem mapM [IsTrans σ R] {f : β → ExceptT ε (StateM σ) α} (each : ∀ b, Along R (f b))
    (bs : List β) : Along R (bs.mapM f) := by
  induction bs with
  | nil => exact .pure _
  | cons b bs ih =>
    rw [List.mapM_cons]
    exact .bind (each b) fun _ => .bind ih fun _ => .pure _

end Along

end GuestBridge.Action

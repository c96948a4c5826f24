import GuestBridge.Bridge.Access
import GuestBridge.Proofs.Action
/-!
What looking at a bridge and changing its realm come to when they are performed.
-/

set_option autoImplicit false

namespace GuestBridge.BridgeAction

variable {σ : Type}

/-- Without a bound guest this fails. It changes nothing either way. -/
theorem perform_bound (b : Bridge σ) : (bound (σ := σ)).perform b =
    (match b.bound with
    | some exports => .ok exports
    | none => .error .notInitialized, b) := by
  simp only [bound, Action.perform_bind, Action.perform_get]
  rcases b.bound with _ | exports <;> rfl

theorem perform_bound_some {exports : BoundExports σ} {b : Bridge σ}
    (present : b.bound = some exports) : (bound (σ := σ)).perform b = (.ok exports, b) := by
  rw [perform_bound, present]

/-- What is seen is the memory as it is now; the views only keep account of the lookup. -/
theorem perform_view {exports : BoundExports σ} {b : Bridge σ} (present : b.bound = some exports)
    (kind : ViewKind) : (view kind).perform b =
      (.ok b.machine.memory, { b with views := b.views.lookup kind b.machine.memory }) := by
  rw [view, Action.perform_bind_ok _ _ (perform_bound_some present)]
  rfl

@[simp] theorem perform_setMemory (m : Memory) (b : Bridge σ) : (setMemory m).perform b =
    (.ok (), { b with machine := { b.machine with memory := m } }) := rfl

@[simp] theorem perform_peek (handle : UInt32) (b : Bridge σ) :
    (peek handle).perform b = (.ok (b.handles.get handle), b) := rfl

@[simp] theorem perform_inRealm {α : Type} (f : Realm → α × Realm) (b : Bridge σ) :
    (inRealm f).perform b = (.ok (f b.host.realm).1,
      { b with host := { b.host with realm := (f b.host.realm).2 } }) := rfl

@[simp] theorem perform_changeRealm (f : Realm → Realm) (b : Bridge σ) :
    (changeRealm f).perform b =
      (.ok (), { b with host := { b.host with realm := f b.host.realm } }) := rfl

end GuestBridge.BridgeAction

import Mathlib
import GuestBridge.Proofs.Handles.Modes
import GuestBridge.Proofs.Handles.Refinement
import GuestBridge.Proofs.Intrinsics.Reporting
/-!
Handles that are dropped as those of closures and are none. The handle is released before the value
behind it is looked at, so that the error which reports the mistake gets the very handle that the
guest has made it with. The permanent handles are never released, and the error gets an unused one.
-/

set_option autoImplicit false

namespace GuestBridge

variable {σ : Type}

namespace HandleTable

variable {t : HandleTable} {handle : UInt32} {value : Value}

/-- The table once a live handle has been taken out of it. -/
def without (t : HandleTable) (handle : UInt32) : HandleTable :=
  if handle < reserved then t
  else { t with
    slots := t.slots.setIfInBounds handle.toNat (.vacant t.nextFree)
    nextFree := handle
    liveCount := t.liveCount - 1 }

theorem take_live (live : t.live? handle = some value) :
    t.take handle = .ok (value, t.without handle) := by
  unfold take without release
  rw [tryGet_live live, live]
  by_cases low : handle < reserved
  · simp only [low, ↓reduceIte]
    rfl
  · simp only [low, ↓reduceIte]
    rfl

/-- What is stored next after a handle has been released gets that handle. -/
theorem alloc_without (high : reserved ≤ handle) (live : t.live? handle = some value)
    {v : Value} (plain : sentinel? v = none) :
    ((t.without handle).alloc v).1 = handle ∧
      ((t.without handle).alloc v).2.live? handle = some v ∧
      ∀ other, other ≠ handle →
        ((t.without handle).alloc v).2.live? other = t.live? other := by
  have inside : handle.toNat < t.slots.size := by
    rw [live?_eq] at live
    obtain ⟨slot, found, -⟩ := Option.bind_eq_some_iff.1 live
    exact (Array.getElem?_eq_some_iff.1 found).1
  have released : t.without handle = _ := if_neg (UInt32.not_lt.2 high)
  have again : handle.toNat < (t.slots.setIfInBounds handle.toNat (.vacant t.nextFree)).size := by
    rwa [Array.size_setIfInBounds]
  rw [released]
  simp only [alloc, plain, Nat.ne_of_lt again, ↓reduceIte]
  refine ⟨trivial, ?_, fun other apart => ?_⟩
  · rw [live?_eq]
    exact congrArg (Option.bind · Slot.value?) (set_self again _)
  · rw [live?_eq, live?_eq]
    exact congrArg (Option.bind · Slot.value?) ((set_other apart _).trans (set_other apart _))

end HandleTable

namespace BridgeAction

open HandleTable (reserved)

variable {exports : BoundExports σ} {b : Bridge σ} {handle : UInt32} {v : Value}

theorem perform_take_live (live : b.handles.live? handle = some v) :
    (take handle).perform b = (.ok v, { b with handles := b.handles.without handle }) := by
  rw [take, Action.perform_bind_ok _ _ (Action.perform_get b), Action.perform_bind,
    Action.perform_conclude, HandleTable.take_live live]
  rfl

/-- What is no closure has been taken out of the table by the time it is found to be none. -/
theorem perform_closureDrop_other (present : b.bound = some exports)
    (live : b.handles.live? handle = some v) (noFunction : v.isFunction = false)
    (there : v ≠ .undefined) (call : GuestCaller σ) :
    (closureDrop call handle).perform b = (do
      let stored ← Action.attempt (raise call (v.notA "a closure"))
      letGo v
      Action.conclude (stored.map fun _ => [.word 0]) : BridgeAction σ (List Core)).perform
        { b with handles := b.handles.without handle } := by
  have attempted : (Action.attempt (take handle)).perform b =
      (.ok (.ok v), { b with handles := b.handles.without handle }) := by
    rw [Action.perform_attempt, perform_take_live live]
  have taken : (orRaise call (take handle) .undefined).perform b =
      (.ok v, { b with handles := b.handles.without handle }) := by
    rw [orRaise, Action.perform_bind_ok _ _ attempted]
    rfl
  have told (s : Bridge σ) : (Action.attempt (do
      raise call (v.notA "a closure")
      return wordOfBool false)).perform s = (Action.attempt (raise call (v.notA "a closure")) >>=
        fun stored => pure (stored.map fun _ => [.word 0])).perform s := by
    rw [Action.perform_attempt, Action.perform_bind, Action.perform_bind, Action.perform_attempt]
    rcases (raise call (v.notA "a closure")).perform s with ⟨fault | done, s'⟩ <;> rfl
  rw [closureDrop, Action.perform_bind_ok _ _ (perform_bound_some present),
    Action.perform_bind_ok _ _ taken]
  cases v with
  | undefined => exact absurd rfl there
  | function closure => cases noFunction
  | _ =>
    rw [Action.perform_bind, told, Action.perform_bind, Action.perform_bind, Action.perform_attempt]
    rfl

/-- The error about a value that is no closure is stored under the handle that the guest has passed,
which stands for the value no longer. Only a permanent handle keeps its value, and then all handles
do. -/
theorem error_takes_dropped_handle (present : b.bound = some exports)
    (live : b.handles.live? handle = some v) (noFunction : v.isFunction = false)
    (there : v ≠ .undefined) :
    let failure : Failure := ⟨"TypeError", v.typeName ++ " is not a closure"⟩
    let raised := ({ b with handles := b.handles.without handle } : Bridge σ).raising failure
    (∀ call, (serveIntrinsic call .closureDrop [.word handle]).perform b = (do
      let stored ← Action.attempt (callUnit call exports.exnStore [raised.1])
      letGo v
      Action.conclude (stored.map fun _ => [.word 0]) : BridgeAction σ (List Core)).perform
        raised.2) ∧
    (reserved ≤ handle → raised.1 = handle ∧
      raised.2.handles.live? handle = some (.error b.host.realm.nextIdentity failure) ∧
      ∀ other, other ≠ handle → raised.2.handles.live? other = b.handles.live? other) ∧
    (handle < reserved → b.handles.Roomy → b.handles.isLive raised.1 = false ∧
      raised.2.handles.live? raised.1 = some (.error b.host.realm.nextIdentity failure) ∧
      ∀ other held, b.handles.live? other = some held →
        raised.2.handles.live? other = some held) := by
  intro failure raised
  refine ⟨fun call => ?_, fun high => ?_, fun low roomy => ?_⟩
  · refine (perform_closureDrop_other present live noFunction there call).trans ?_
    have bound :
        ({ b with handles := b.handles.without handle } : Bridge σ).bound = some exports := present
    have stored : v.notA "a closure" = failure :=
      congrArg (Failure.mk "TypeError") String.append_assoc
    rw [Action.perform_bind, Action.perform_attempt, perform_raise bound, stored,
      Action.perform_bind, Action.perform_attempt]
  · exact HandleTable.alloc_without high live (v := .error _ failure) rfl
  · have kept : b.handles.without handle = b.handles := if_pos low
    have stored := roomy.alloc (v := .error b.host.realm.nextIdentity failure) rfl
    have same : raised = b.raising failure := by
      unfold raised
      rw [kept]
    rw [same]
    exact stored

end BridgeAction

open BridgeAction

/-- A guest that has been given a number, under the first handle there is. -/
def Relay.numbered : Bridge Unit :=
  (Relay.started {} [.numberNew, .closureDrop]).after (.callDynamic "number_new" [.double .zero])

theorem error_takes_dropped_handle_relay :
    Relay.numbered.bound = some Relay.exports ∧
      Relay.numbered.handles.live? 4 = some (.number .zero) ∧
      (Value.number .zero).isFunction = false ∧ Value.number .zero ≠ .undefined ∧
      ∃ told : Bridge Unit,
        told.handles.live? 4 = some (.error 0 ⟨"TypeError", "number is not a closure"⟩) ∧
        ∀ call, (serveIntrinsic call .closureDrop [.word 4]).perform Relay.numbered = (do
          let stored ← Action.attempt (callUnit call Relay.exports.exnStore [4])
          letGo (.number .zero)
          Action.conclude (stored.map fun _ => [.word 0]) : BridgeAction Unit (List Core)).perform
            told := by
  have present : Relay.numbered.bound = some Relay.exports := by rfl
  have live : Relay.numbered.handles.live? 4 = some (.number .zero) := by rfl
  have noFunction : (Value.number .zero).isFunction = false := by rfl
  have there : Value.number .zero ≠ .undefined := nofun
  obtain ⟨performs, high, -⟩ := error_takes_dropped_handle present live noFunction there
  obtain ⟨slot, told, -⟩ := high (by decide)
  rw [slot] at performs
  exact ⟨present, live, noFunction, there, _, told, performs⟩

/-- The guest has the error instead of its number, and one handle as before. -/
theorem dropped_handle_is_error :
    let dropped := (callDynamic "cb_drop" [.word 4]).perform Relay.numbered
    Relay.numbered.Reachable .empty ∧ Relay.numbered.handles.Roomy ∧
      Relay.numbered.handles.live? 4 = some (.number .zero) ∧ dropped.1 = .ok [.word 0] ∧
      dropped.2.handles.live? 4 = some (.error 0 ⟨"TypeError", "number is not a closure"⟩) ∧
      Relay.numbered.handles.liveCount = 1 ∧ dropped.2.handles.liveCount = 1 :=
  ⟨.asked _ (Relay.reachable_started ..), ⟨false, [.alloc (.number .zero)], rfl, by decide⟩,
    rfl, by cbv, by cbv, rfl, by cbv⟩

end GuestBridge

import GuestBridge.Bridge.Entry
import GuestBridge.Proofs.Guests.Passage
/-!
The ways into a bridge from the host, seen from the event loop: all that calls into the guest is a
passage, and microtasks are run in rounds of them. A guest is wired to capabilities of the registry
only, and a bridge is reachable if host code can bring it about by what it may ask of bridges.
-/

set_option autoImplicit false

namespace GuestBridge

variable {σ : Type}

open GuestBridge.Action (Along)

namespace BridgeAction

theorem leads_drain : Along Passage (drain (σ := σ)) := by
  refine .bind .get fun b => ?_
  split
  · exact .pure _
  · exact .bind aside_bound.leads fun _ => leads_drainBatches leads_callGuest _

theorem leads_settleCall {α : Type} (outcome : Except Fault α) :
    Along Passage (settleCall (σ := σ) outcome) :=
  .bind leads_drain.attempt fun _ => .bind (.conclude _) fun _ => .bind (.conclude _) fun _ =>
    .pure _

theorem aside_exportedFunction (name : String) :
    Along Bridge.Aside (exportedFunction (σ := σ) name) := by
  refine .bind .get fun b => ?_
  split
  · exact .throw _
  · split
    · exact .pure _
    · exact .throw _

theorem leads_callTyped (name : String) (type : Signature) (args : List Core) :
    Along Passage (callTyped (σ := σ) name type args) := by
  refine .bind (aside_exportedFunction name).leads fun f => ?_
  dsimp only
  split
  · exact .bind (leads_callGuest f args).attempt fun _ => leads_settleCall _
  · exact .throw_bind _ _

theorem leads_callDynamic (name : String) (args : List Core) :
    Along Passage (callDynamic (σ := σ) name args) := by
  refine .bind (aside_exportedFunction name).leads fun f =>
    .bind (Along.attempt ?_) fun _ => leads_settleCall _
  dsimp only
  split
  · exact leads_callGuest f args
  · exact .throw_bind _ _

theorem leads_letGo (v : Value) : Along Passage (letGo (σ := σ) v) := (aside_letGo v).leads

theorem leads_invoke (handle : UInt32) (argument : Value) :
    Along Passage (invoke (σ := σ) handle argument) := by
  refine .bind (aside_peek handle).leads fun callee => ?_
  split
  · refine .bind .get fun b => ?_
    dsimp only
    split
    · exact .bind (leads_letGo argument) fun _ => .throw_bind _ _
    · refine .bind (aside_hold _).leads fun _ => .bind (Along.attempt ?_) fun _ =>
        .bind (leads_letGo _) fun _ => .conclude _
      refine .bind (leads_invokeClosure leads_callGuest _ _).attempt fun result =>
        .bind leads_drain.attempt fun drained => ?_
      split
      · exact .conclude _
      · split
        · exact .bind (leads_letGo _) fun _ => .throw _
        · exact .throw _
  · exact .bind (leads_letGo argument) fun _ => .throw _

theorem leads_runMicrotask (task : Microtask) : Along Passage (runMicrotask (σ := σ) task) := by
  refine .bind (Along.attempt ?_) fun outcome => ?_
  · exact .bind aside_bound.leads fun _ => leads_invokeClosure leads_callGuest _ _
  · split
    · exact .bind (aside_changeRealm fun r =>
        IsTrans.trans _ _ _ (r.queues_resolve _ _) (Realm.queues_letGo ..)).leads
          fun _ => leads_letGo _
    · exact .throw _
    · exact .bind (aside_changeRealm fun r =>
        IsTrans.trans _ _ _ (r.queues_reject _ _) (Realm.queues_letGo ..)).leads
          fun _ => leads_letGo _
    · exact .bind (leads_letGo _) fun _ => leads_letGo _
    · exact .bind (leads_letGo _) fun _ => .throw _

theorem leads_fire (timer : Timer) : Along Passage (fire (σ := σ) timer) := by
  refine .bind (Along.attempt ?_) fun outcome => .bind (leads_letGo _) fun _ => .conclude _
  exact .bind aside_bound.leads fun _ =>
    .bind (leads_invokeClosure leads_callGuest _ _) fun v => leads_letGo v

theorem leads_freeBuffer (pointer size align : UInt32) :
    Along Passage (freeBuffer (σ := σ) pointer size align) := by
  refine .bind aside_bound.leads fun exports => ?_
  split
  · exact leads_callUnit leads_callGuest _ _
  · exact .pure _

end BridgeAction

/-- Passages one after the other. Between two of them microtasks may be taken off their queue. -/
inductive Rounds : Bridge σ → Bridge σ → Prop
  | done (b : Bridge σ) : Rounds b b
  | passage {b b₁ b' : Bridge σ} (first : Passage b b₁) (onward : Rounds b₁ b') : Rounds b b'
  | taking {b b₁ b' : Bridge σ} (alike : b.Unvisited b₁) (limits : b₁.limits = b.limits)
      (onward : Rounds b₁ b') : Rounds b b'

namespace Rounds

variable {b b' b'' : Bridge σ}

theorem append (first : Rounds b b') (second : Rounds b' b'') : Rounds b b'' := by
  induction first with
  | done b => exact second
  | passage first _ ih => exact .passage first (ih second)
  | taking alike limits _ ih => exact .taking alike limits (ih second)

instance : Std.Refl (Rounds (σ := σ)) := ⟨.done⟩

instance : IsTrans (Bridge σ) Rounds := ⟨fun _ _ _ => append⟩

theorem limits (rounds : Rounds b b') : b'.limits = b.limits := by
  induction rounds with
  | done b => rfl
  | passage first _ ih => exact ih.trans first.limits
  | taking _ limits _ ih => exact ih.trans limits

end Rounds

theorem Action.Along.rounds {α : Type} {act : BridgeAction σ α} (along : Along Passage act) :
    Along Rounds act :=
  along.mono fun _ b' passage => .passage passage (.done b')

namespace BridgeAction

theorem rounds_taking {α : Type} {f : Realm → α × Realm}
    (same : ∀ r : Realm, (f r).2.events.agenda = r.events.agenda) :
    Along Rounds (inRealm (σ := σ) f) :=
  fun b =>
    have alike : b.Unvisited ((inRealm f).perform b).2 := ⟨⟨same _, rfl, rfl, rfl, rfl⟩, rfl⟩
    .taking alike rfl (.done _)

theorem rounds_runMicrotasksWithin (turns : Nat) :
    Along Rounds (runMicrotasksWithin (σ := σ) turns) := by
  induction turns with
  | zero => exact .throw _
  | succ turns ih =>
    refine .bind (rounds_taking fun r => r.events.agenda_popMicrotask) fun task? => ?_
    split
    · exact .pure _
    · exact .bind (leads_runMicrotask _).rounds fun _ => .bind ih fun _ => .pure _

theorem rounds_runMicrotasks : Along Rounds (runMicrotasks (σ := σ)) :=
  .bind .get fun _ => .bind (rounds_runMicrotasksWithin _) fun _ =>
    .bind leads_drain.rounds fun _ => .pure _

end BridgeAction

/-- What host code asks of a bridge that concerns the guest. -/
inductive Request (σ : Type)
  | start (source : BridgeAction.Source σ)
  | callTyped (name : String) (type : Signature) (args : List Core)
  | callDynamic (name : String) (args : List Core)
  | invoke (handle : UInt32) (argument : Value)
  | runMicrotasks
  | runTimers (milliseconds : Nat)
  | drain
  | passText (s : String)
  | freeBuffer (pointer size align : UInt32)

/-- The bridge after a request, whether it succeeds or not. -/
def Bridge.after (b : Bridge σ) : Request σ → Bridge σ
  | .start source => ((BridgeAction.start source).perform b).2
  | .callTyped name type args => ((BridgeAction.callTyped name type args).perform b).2
  | .callDynamic name args => ((BridgeAction.callDynamic name args).perform b).2
  | .invoke handle argument => ((BridgeAction.invoke handle argument).perform b).2
  | .runMicrotasks => (BridgeAction.runMicrotasks.perform b).2
  | .runTimers milliseconds => ((BridgeAction.runTimers milliseconds).perform b).2
  | .drain => (BridgeAction.drain.perform b).2
  | .passText s => ((BridgeAction.passText callGuest s).perform b).2
  | .freeBuffer pointer size align =>
    ((BridgeAction.freeBuffer pointer size align).perform b).2

/-- What host code can bring about with the capabilities of a registry. Besides what it asks of a
bridge, it may change handles, memory, limits and its own facilities as it likes; it has no other
way to the clock and the timers. -/
inductive Bridge.Reachable (registry : Registry) : Bridge σ → Prop
  | created (settings : Settings) (state : σ) : Reachable registry (.create settings registry state)
  | asked {b : Bridge σ} (request : Request σ) (reachable : Reachable registry b) :
      Reachable registry (b.after request)
  | aside {b b' : Bridge σ} (alike : b.Alike b') (reachable : Reachable registry b) :
      Reachable registry b'

end GuestBridge

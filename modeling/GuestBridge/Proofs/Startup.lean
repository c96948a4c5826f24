import GuestBridge.Proofs.Guests.Entry
import Mathlib.Tactic.Common
/-!
Attempts to start a guest, in the order in which they are made.
-/

set_option autoImplicit false

namespace GuestBridge

variable {σ : Type}

open GuestBridge.Action (Along)

/-- The bridge once the exports of an instance are bound. -/
def Bridge.activated (b : Bridge σ) (m : GuestModule σ) (exports : BoundExports σ) : Bridge σ :=
  { b with bound := some exports, active := some m, views := b.views.reset }

namespace BridgeAction

/-- All that goes before: the module is checked and linked, and its instance made. -/
def prepare (m : GuestModule σ) : BridgeAction σ (BoundExports σ) := do
  let b ← get
  let names := b.settings.exports
  Action.conclude (m.surface.checkExports names)
  let linked ← match link b.registry b.settings.imports m.surface with
    | .ok linked => pure linked
    | .error cause => throw (.unresolved cause)
  modify fun b => { b with capabilities := linked.capabilities }
  unless intrinsicsTyped m.surface b.settings.imports do throw .declined
  let (pages, maxPages) := (m.memory? names.memory).getD (0, 0)
  changeMachine fun _ => ⟨m.initialMemory pages, maxPages, m.initial, linked.bindings⟩
  match m.onCreation with
  | some code => code.run (serveImport callGuest)
  | none => pure ()
  if (m.memory? names.memory).isNone then throw (.missingExport names.memory)
  Action.conclude (bindExports m names)

/-- All that comes after: the start export runs, and destructors that are due. -/
def launch (exports : BoundExports σ) : BridgeAction σ Unit := do
  match exports.start? with
  | some start => callUnit callGuest start []
  | none => pure ()
  let _ ← drain

theorem instantiate_eq (m : GuestModule σ) :
    instantiate m = (do
      let exports ← prepare m
      modify fun b => b.activated m exports
      launch exports) := by
  unfold instantiate prepare launch
  rw [bind_assoc]
  refine bind_congr fun b => ?_
  rw [bind_assoc]
  refine bind_congr fun _ => ?_
  rcases link b.registry b.settings.imports m.surface with cause | linked
  · rfl
  simp only [pure_bind, bind_assoc]
  refine bind_congr fun _ => ?_
  cases intrinsicsTyped m.surface b.settings.imports
  · rfl
  rw [if_pos rfl, if_pos rfl, bind_assoc]
  refine bind_congr fun _ => ?_
  rcases m.onCreation with _ | code
  · cases (m.memory? b.settings.exports.memory).isNone <;> rfl
  · dsimp only
    rw [bind_assoc]
    refine bind_congr fun _ => ?_
    cases (m.memory? b.settings.exports.memory).isNone <;> rfl

end BridgeAction

namespace Bridge

/-- The same guest as before, or none as before. -/
structure SameGuest (b b' : Bridge σ) : Prop where
  bound : b'.bound = b.bound
  active : b'.active = b.active

instance : Std.Refl (SameGuest (σ := σ)) := ⟨fun _ => ⟨rfl, rfl⟩⟩

instance : IsTrans (Bridge σ) SameGuest where
  trans _ _ _ first second := ⟨second.bound.trans first.bound, second.active.trans first.active⟩

/-- Exports are bound as long as there is a guest that calls can go to. -/
def Coherent (b : Bridge σ) : Prop := b.bound.isSome = b.isActive

theorem SameGuest.coherent {b b' : Bridge σ} (same : b.SameGuest b') (coherent : b.Coherent) :
    b'.Coherent := by
  unfold Coherent isActive
  rw [same.bound, same.active]
  exact coherent

theorem Alike.sameGuest {b b' : Bridge σ} (alike : b.Alike b') : b.SameGuest b' :=
  ⟨alike.bound, alike.active⟩

end Bridge

theorem Passage.sameGuest {b b' : Bridge σ} (passage : Passage b b') : b.SameGuest b' :=
  ⟨passage.wired.2.2.1, passage.wired.2.2.2⟩

theorem Rounds.sameGuest {b b' : Bridge σ} (rounds : Rounds b b') : b.SameGuest b' := by
  induction rounds with
  | done b => exact Std.Refl.refl b
  | passage first _ ih => exact IsTrans.trans _ _ _ first.sameGuest ih
  | taking alike _ _ ih => exact IsTrans.trans _ _ _ alike.sameGuest ih

theorem Action.Along.sameGuest {α : Type} {act : BridgeAction σ α} (along : Along Passage act) :
    Along Bridge.SameGuest act :=
  along.mono fun _ _ => Passage.sameGuest

namespace BridgeAction

theorem sameGuest_inRealm {α : Type} (f : Realm → α × Realm) :
    Along Bridge.SameGuest (inRealm (σ := σ) f) := fun _ => ⟨rfl, rfl⟩

theorem sameGuest_runMicrotasks : Along Bridge.SameGuest (runMicrotasks (σ := σ)) :=
  rounds_runMicrotasks.mono fun _ _ => Rounds.sameGuest

theorem sameGuest_fireDue (deadline : UInt64) (turns : Nat) :
    Along Bridge.SameGuest (fireDue (σ := σ) deadline turns) := by
  induction turns with
  | zero => exact .throw _
  | succ turns ih =>
    refine .bind (sameGuest_inRealm _) fun timer? => ?_
    split
    · exact .pure _
    · exact .bind (leads_fire _).sameGuest fun _ =>
        .bind sameGuest_runMicrotasks fun _ => .bind ih fun _ => .pure _

theorem sameGuest_runTimers (milliseconds : Nat) :
    Along Bridge.SameGuest (runTimers (σ := σ) milliseconds) :=
  .bind .get fun _ => .bind sameGuest_runMicrotasks fun _ =>
    .bind (sameGuest_fireDue _ _) fun _ => .bind (.modify fun _ => ⟨rfl, rfl⟩) fun _ => .pure _

theorem sameGuest_prepare (m : GuestModule σ) : Along Bridge.SameGuest (prepare m) := by
  refine .bind .get fun b => .bind (.conclude _) fun _ => ?_
  dsimp only
  split
  case h_2 => exact .throw_bind _ _
  case h_1 linked found =>
    rw [pure_bind]
    refine .bind (.modify fun _ => ⟨rfl, rfl⟩) fun _ => ?_
    split
    case isFalse => exact .throw_bind _ _
    case isTrue =>
      refine .bind (.modify fun _ => ⟨rfl, rfl⟩) fun _ => ?_
      have finish : Along Bridge.SameGuest (do
          if (m.memory? b.settings.exports.memory).isNone then
            throw (.missingExport b.settings.exports.memory)
          Action.conclude (bindExports m b.settings.exports) :
            BridgeAction σ (BoundExports σ)) := by
        dsimp only
        split
        · exact .throw_bind _ _
        · exact .conclude _
      split
      · exact .bind (Code.leads_run (leads_serveImport leads_callGuest) _).sameGuest
          fun _ => finish
      · exact finish

theorem leads_launch (exports : BoundExports σ) : Along Passage (launch exports) := by
  unfold launch
  dsimp only
  split
  · exact .bind (leads_callUnit leads_callGuest _ _) fun _ => .bind leads_drain fun _ => .pure _
  · exact .bind leads_drain fun _ => .pure _

end BridgeAction

open BridgeAction

/-- An attempt to start a guest. -/
structure Trial (σ : Type) where
  source : BridgeAction.Source σ
  begun : Bridge σ
  outcome : Except Fault (BoundExports σ)
  ended : Bridge σ

def Bridge.trial (b : Bridge σ) (source : BridgeAction.Source σ) : Trial σ where
  source := source
  begun := b
  outcome := ((start source).perform b).1
  ended := b.after (.start source)

/-- The attempts that are made from a state on, with whatever else host code does between them. -/
inductive Bridge.Attempts : Bridge σ → List (Trial σ) → Prop
  | none {b : Bridge σ} : Attempts b []
  | attempt {b : Bridge σ} {trials : List (Trial σ)} (source : BridgeAction.Source σ)
    (onward : (b.after (.start source)).Attempts trials) : Attempts b (b.trial source :: trials)
  | other {b : Bridge σ} {trials : List (Trial σ)} (request : Request σ)
    (other : ∀ source, request ≠ .start source) (onward : (b.after request).Attempts trials) :
    Attempts b trials
  | aside {b b' : Bridge σ} {trials : List (Trial σ)} (alike : b.Alike b')
    (onward : b'.Attempts trials) : Attempts b trials

namespace Trial

/-- There is no guest after it, as there was none before. -/
structure Refused (t : Trial σ) : Prop where
  idle : t.begun.isActive = false
  failed : ∃ fault, t.outcome = .error fault ∧ (t.source = .unloadable ∨
    ∃ m, t.source = .module m ∧ (prepare m).perform t.begun = (.error fault, t.ended))
  still : t.ended.isActive = false
  unbound : t.ended.bound = none
  calls : ∀ name args, (callDynamic name args).perform t.ended = (.error .notInitialized, t.ended)
  typedCalls : ∀ name type args,
    (callTyped name type args).perform t.ended = (.error .notInitialized, t.ended)

/-- There is a guest after it, and its exports are bound, whatever its start export and the
destructors came to. -/
structure Launched (t : Trial σ) : Prop where
  idle : t.begun.isActive = false
  ran : ∃ m exports b, t.source = .module m ∧ (prepare m).perform t.begun = (.ok exports, b) ∧
    t.outcome = ((launch exports).perform (b.activated m exports)).1.map (fun _ => exports) ∧
      t.ended = ((launch exports).perform (b.activated m exports)).2 ∧
        t.ended.active = some m ∧ t.ended.bound = some exports

/-- Nothing happens, and the exports there are are handed out. -/
structure Repeated (t : Trial σ) : Prop where
  active : t.begun.isActive = true
  same : t.ended = t.begun
  handedOut : ∃ exports, t.begun.bound = some exports ∧ t.outcome = .ok exports

end Trial

namespace Bridge

variable {b : Bridge σ}

theorem coherent_create (settings : Settings) (registry : Registry) (state : σ) :
    (create settings registry state).Coherent := rfl

theorem sameGuest_after {request : Request σ} (other : ∀ source, request ≠ .start source) :
    b.SameGuest (b.after request) := by
  cases request with
  | start source => exact absurd rfl (other source)
  | callTyped name type args => exact (leads_callTyped name type args).sameGuest b
  | callDynamic name args => exact (leads_callDynamic name args).sameGuest b
  | invoke handle argument => exact (leads_invoke handle argument).sameGuest b
  | runMicrotasks => exact sameGuest_runMicrotasks b
  | runTimers milliseconds => exact sameGuest_runTimers milliseconds b
  | drain => exact leads_drain.sameGuest b
  | passText s => exact (leads_passText leads_callGuest s).sameGuest b
  | freeBuffer pointer size align => exact (leads_freeBuffer pointer size align).sameGuest b

theorem isActive_eq_false (idle : b.isActive = false) : b.active = none :=
  Option.not_isSome_iff_eq_none.1 (Bool.eq_false_iff.1 idle)

theorem trial_active (coherent : b.Coherent) (active : b.isActive = true)
    (source : BridgeAction.Source σ) : (b.trial source).Repeated := by
  obtain ⟨exports, bound⟩ := Option.isSome_iff_exists.1 (coherent.trans active)
  have performed : (start source).perform b = (.ok exports, b) := by
    simp only [start, Action.perform_bind, Action.perform_get, active, ↓reduceIte,
      perform_bound_some bound]
  exact ⟨active, congrArg Prod.snd performed, exports, bound, congrArg Prod.fst performed⟩

theorem exportedFunction_idle (idle : b.isActive = false) (name : String) :
    (exportedFunction name).perform b = (.error .notInitialized, b) := by
  simp only [exportedFunction, Action.perform_bind, Action.perform_get, isActive_eq_false idle,
    Action.perform_throw]

end Bridge

theorem Trial.refused_of_idle {t : Trial σ} (idle : t.begun.isActive = false)
    (coherent : t.begun.Coherent) (same : t.begun.SameGuest t.ended)
    (failed : ∃ fault, t.outcome = .error fault ∧ (t.source = .unloadable ∨
      ∃ m, t.source = .module m ∧ (prepare m).perform t.begun = (.error fault, t.ended))) :
    t.Refused := by
  have still : t.ended.isActive = false := by
    unfold Bridge.isActive
    rw [same.active]
    exact idle
  refine ⟨idle, failed, still, ?_, fun name args => ?_, fun name type args => ?_⟩
  · rw [same.bound]
    exact Option.not_isSome_iff_eq_none.1 (Bool.eq_false_iff.1 (coherent.trans idle))
  · rw [callDynamic, Action.perform_bind, Bridge.exportedFunction_idle still]
  · rw [callTyped, Action.perform_bind, Bridge.exportedFunction_idle still]

namespace Bridge

variable {b b₁ : Bridge σ}

theorem perform_start_prepared (idle : b.isActive = false) (m : GuestModule σ) :
    (start (.module m)).perform b = (do
      let exports ← prepare m
      modify fun b : Bridge σ => b.activated m exports
      launch exports
      BridgeAction.bound : BridgeAction σ _).perform b := by
  rw [start, Action.perform_bind_ok _ _ (Action.perform_get b)]
  simp only [idle, Bool.false_eq_true, ↓reduceIte, instantiate_eq, bind_assoc]

theorem perform_start_launched (idle : b.isActive = false) {m : GuestModule σ}
    {exports : BoundExports σ} (prepared : (prepare m).perform b = (.ok exports, b₁)) :
    (start (.module m)).perform b =
      (((launch exports).perform (b₁.activated m exports)).1.map fun _ => exports,
        ((launch exports).perform (b₁.activated m exports)).2) := by
  rw [perform_start_prepared idle, Action.perform_bind_ok exports b₁ prepared,
    Action.perform_bind_ok _ _ (Action.perform_modify _ _), Action.perform_bind]
  rcases launched : (launch exports).perform (b₁.activated m exports) with ⟨fault | _, b₂⟩
  · rfl
  · have kept := (leads_launch exports).sameGuest.ended launched
    exact perform_bound_some kept.bound

theorem trial_idle (coherent : b.Coherent) (idle : b.isActive = false)
    (source : BridgeAction.Source σ) :
    (b.trial source).Refused ∨ (b.trial source).Launched := by
  cases source with
  | unloadable =>
    have performed : (start (.unloadable)).perform b = (.error .declined, b) := by
      simp only [start, Action.perform_bind, Action.perform_get, idle, Bool.false_eq_true,
        ↓reduceIte, Action.perform_throw]
    have ended : (b.trial .unloadable).ended = b := congrArg Prod.snd performed
    refine .inl (Trial.refused_of_idle idle coherent ?_ ?_)
    · rw [ended]
      exact Std.Refl.refl b
    · exact ⟨.declined, congrArg Prod.fst performed, .inl rfl⟩
  | module m =>
    rcases prepared : (prepare m).perform b with ⟨fault | exports, b₁⟩
    · have performed : (start (.module m)).perform b = (.error fault, b₁) := by
        rw [perform_start_prepared idle, Action.perform_bind, prepared]
      have same : b.SameGuest b₁ := (sameGuest_prepare m).ended prepared
      have ended : (b.trial (.module m)).ended = b₁ := congrArg Prod.snd performed
      refine .inl (Trial.refused_of_idle idle coherent ?_ ?_) <;> rw [ended]
      · exact same
      · exact ⟨fault, congrArg Prod.fst performed, .inr ⟨m, rfl, prepared⟩⟩
    · have performed := perform_start_launched idle prepared
      have kept := (leads_launch exports).sameGuest (b₁.activated m exports)
      have ended := congrArg Prod.snd performed
      refine .inr ⟨idle, m, exports, b₁, rfl, prepared, congrArg Prod.fst performed, ended, ?_, ?_⟩
      · exact (congrArg Bridge.active ended).trans kept.active
      · exact (congrArg Bridge.bound ended).trans kept.bound

theorem Coherent.after_start (coherent : b.Coherent) (source : BridgeAction.Source σ) :
    (b.after (.start source)).Coherent := by
  rcases active : b.isActive with _ | _
  · rcases b.trial_idle coherent active source with refused | launched
    · have still : (b.after (.start source)).isActive = false := refused.still
      have unbound : (b.after (.start source)).bound = none := refused.unbound
      rw [Coherent, still, unbound, Option.isSome_none]
    · obtain ⟨m, exports, _, -, -, -, -, there, bound⟩ := launched.ran
      have there : (b.after (.start source)).active = some m := there
      have bound : (b.after (.start source)).bound = some exports := bound
      rw [Coherent, isActive, there, bound, Option.isSome_some, Option.isSome_some]
  · have same : b.after (.start source) = b := (trial_active coherent active source).same
    rw [same]
    exact coherent

theorem Reachable.coherent {registry : Registry} (reachable : b.Reachable registry) :
    b.Coherent := by
  induction reachable with
  | created settings state => exact coherent_create settings registry state
  | @asked b request _ ih =>
    by_cases other : ∀ source, request ≠ .start source
    · exact (sameGuest_after other).coherent ih
    · obtain ⟨source, starts⟩ := not_forall.1 other
      rw [not_not.1 starts]
      exact ih.after_start source
  | aside alike _ ih => exact alike.sameGuest.coherent ih

theorem SameGuest.isActive {b' : Bridge σ} (same : b.SameGuest b') : b'.isActive = b.isActive :=
  congrArg Option.isSome same.active

/-- Once there is a guest, all attempts are in vain. -/
theorem Attempts.repeated {trials : List (Trial σ)} (attempts : b.Attempts trials)
    (coherent : b.Coherent) (active : b.isActive = true) : ∀ t ∈ trials, t.Repeated := by
  induction attempts with
  | none => exact List.forall_mem_nil _
  | @attempt b trials source _ ih =>
    have repeated := trial_active coherent active source
    have same : b.after (.start source) = b := repeated.same
    rw [same] at ih
    exact List.forall_mem_cons.2 ⟨repeated, ih coherent active⟩
  | @other b _ request other _ ih =>
    have same : b.SameGuest (b.after request) := sameGuest_after other
    exact ih (same.coherent coherent) (same.isActive.trans active)
  | aside alike _ ih =>
    have same := alike.sameGuest
    exact ih (same.coherent coherent) (same.isActive.trans active)

end Bridge

/-- Attempts are refused until one comes as far as to bind the exports of its guest. That attempt
decides what guest there is, even if the start export then fails; all later ones hand out its
exports and run nothing. -/
theorem attempts_in_course {registry : Registry} {b : Bridge σ} (reachable : b.Reachable registry)
    {trials : List (Trial σ)} (attempts : b.Attempts trials) :
    ∃ refused launched repeated, trials = refused ++ launched ++ repeated ∧ launched.length ≤ 1 ∧
      (∀ t ∈ refused, t.Refused) ∧ (∀ t ∈ launched, t.Launched) ∧ ∀ t ∈ repeated, t.Repeated := by
  -- Of all that holds where a bridge can come to, the induction needs only this.
  have coherent := reachable.coherent
  clear reachable
  induction attempts with
  | none =>
    have all {p : Trial σ → Prop} : ∀ t ∈ [], p t := List.forall_mem_nil p
    exact ⟨[], [], [], rfl, Nat.zero_le 1, all, all, all⟩
  | @attempt b trials source onward ih =>
    rcases active : b.isActive with _ | _
    · rcases b.trial_idle coherent active source with refused | launched
      · obtain ⟨before, launched, repeated, split, once, all⟩ := ih (coherent.after_start source)
        refine ⟨b.trial source :: before, launched, repeated, congrArg _ split, once, ?_, all.2⟩
        exact List.forall_mem_cons.2 ⟨refused, all.1⟩
      · obtain ⟨m, exports, _, -, -, -, -, there, -⟩ := launched.ran
        have there : (b.after (.start source)).active = some m := there
        have later : (b.after (.start source)).isActive = true := congrArg Option.isSome there
        refine ⟨[], [b.trial source], trials, rfl, Nat.le_refl 1, List.forall_mem_nil _, ?_, ?_⟩
        · exact List.forall_mem_singleton.2 launched
        · exact onward.repeated (coherent.after_start source) later
    · refine ⟨[], [], _, rfl, Nat.zero_le 1, List.forall_mem_nil _, List.forall_mem_nil _, ?_⟩
      exact (Bridge.Attempts.attempt source onward).repeated coherent active
  | other request other _ ih => exact ih ((Bridge.sameGuest_after other).coherent coherent)
  | aside alike _ ih => exact ih (alike.sameGuest.coherent coherent)

/-- A guest of which the start export traps. -/
def faltering : GuestModule Unit where
  imports := []
  exports := [
    ("memory", .memory 1 1),
    ("__bridge_malloc", .func ⟨⟨[.i32, .i32], [.i32]⟩, fun _ => .yield [.word 0]⟩),
    ("__bridge_exn_store", .func ⟨⟨[.i32], []⟩, fun _ => .yield []⟩),
    ("__bridge_start", .func ⟨⟨[], []⟩, fun _ => .trap .unreachable⟩)]
  data := []
  onCreation := none
  initial := ()

/-- One attempt with something that is no module, and two with that guest. -/
theorem attempts_in_course_faltering :
    let b := Bridge.create {} .empty ()
    let first := b.trial .unloadable
    let second := first.ended.trial (.module faltering)
    let third := second.ended.trial (.module faltering)
    b.Reachable .empty ∧ b.Attempts [first, second, third] ∧
      ∃ refused launched repeated, [first, second, third] = refused ++ launched ++ repeated ∧
        launched.length ≤ 1 ∧ (∀ t ∈ refused, t.Refused) ∧ (∀ t ∈ launched, t.Launched) ∧
          ∀ t ∈ repeated, t.Repeated := by
  intro b first second third
  have reachable : b.Reachable .empty := .created {} ()
  have attempts : b.Attempts [first, second, third] :=
    .attempt _ (.attempt _ (.attempt _ .none))
  exact ⟨reachable, attempts, attempts_in_course reachable attempts⟩

/-- The first attempt fails and leaves an active bridge, and the second one succeeds. -/
theorem failed_start_activates :
    let b := Bridge.create {} .empty ()
    let first := b.trial (.module faltering)
    let second := first.ended.trial (.module faltering)
    b.Reachable .empty ∧ b.Attempts [first, second] ∧
      first.outcome = .error (.trap .unreachable) ∧ first.ended.isActive = true ∧
        second.outcome.isOk = true :=
  ⟨.created {} (), .attempt _ (.attempt _ .none), rfl, rfl, rfl⟩

end GuestBridge

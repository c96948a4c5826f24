import GuestBridge.Proofs.Guests.Entry
import GuestBridge.Proofs.Timers.Timely
/-!
Between two firings of timers a guest only schedules and cancels them, and it is there as long as
any are pending. Starting a guest and calling into it keeps to that.
-/

set_option autoImplicit false

namespace GuestBridge

open GuestBridge.Action (Along)
open BridgeAction

/-! Linking. -/

theorem Linked.mem_bindCapability {l : Linked} {c d : Capability}
    (inside : d ∈ (l.bindCapability c).capabilities) : d ∈ l.capabilities ∨ d = c := by
  unfold Linked.bindCapability at inside
  split at inside
  · exact .inl inside
  · exact (List.mem_append.1 inside).imp_right List.mem_singleton.1

theorem linkImport_registered {registry : Registry} {names : ImportNames} {l l' : Linked}
    {i : ImportDecl} (bound : linkImport registry names l i = .ok l')
    (registered : ∀ c ∈ l.capabilities, c ∈ registry.entries) :
    ∀ c ∈ l'.capabilities, c ∈ registry.entries := by
  unfold linkImport at bound
  split at bound
  · cases bound
  · split at bound
    · split at bound
      · cases bound
        exact registered
      · cases bound
    · split at bound
      · cases bound
      · split at bound
        · cases bound
        · next d found =>
          split at bound
          · cases bound
            intro c inside
            rcases Linked.mem_bindCapability inside with old | rfl
            · exact registered c old
            · exact List.mem_of_find?_eq_some found
          · cases bound

/-- Only what is in the registry is ever linked. -/
theorem link_registered {registry : Registry} {names : ImportNames} {s : Surface} {linked : Linked}
    (bound : link registry names s = .ok linked) :
    ∀ c ∈ linked.capabilities, c ∈ registry.entries := by
  have all (imports : List ImportDecl) : ∀ l : Linked,
      imports.foldlM (linkImport registry names) l = .ok linked →
      (∀ c ∈ l.capabilities, c ∈ registry.entries) →
      ∀ c ∈ linked.capabilities, c ∈ registry.entries := by
    induction imports with
    | nil =>
      intro l done registered
      cases done
      exact registered
    | cons i rest ih =>
      intro l done registered
      rw [List.foldlM_cons] at done
      rcases first : linkImport registry names l i with cause | l'
      · rw [first] at done
        cases done
      · rw [first] at done
        exact ih l' done (linkImport_registered first registered)
  exact all s.imports .empty bound nofun

variable {σ : Type}

/-- What guest code does between two firings. -/
theorem Passage.meanwhile {b b' : Bridge σ} (passage : Passage b b')
    (timely : ∀ c ∈ b.capabilities, c.Timely) :
    b.host.realm.events.Meanwhile b'.host.realm.events := by
  induction passage with
  | aside alike => exact .tasks alike.agenda
  | @visit b b₁ b' c args alike linked bound onward ih =>
    have here : ∀ c ∈ b₁.capabilities, c.Timely := alike.capabilities ▸ timely
    have visited : b₁.host.realm.events.Meanwhile (b₁.visited c args).host.realm.events :=
      here c linked args b₁.host
    exact IsTrans.trans _ _ _ (.tasks alike.agenda) (IsTrans.trans _ _ _ visited (ih here))

theorem Rounds.meanwhile {b b' : Bridge σ} (rounds : Rounds b b')
    (timely : ∀ c ∈ b.capabilities, c.Timely) :
    b.host.realm.events.Meanwhile b'.host.realm.events := by
  induction rounds with
  | done b => exact Std.Refl.refl _
  | passage first _ ih =>
    exact IsTrans.trans _ _ _ (first.meanwhile timely) (ih (first.wired.2.1 ▸ timely))
  | taking alike _ _ ih =>
    exact IsTrans.trans _ _ _ (.tasks alike.agenda) (ih (alike.capabilities ▸ timely))

namespace Bridge

/-- Timers wait in their order for a guest that is there, and it can get at them through
capabilities of the registry only. -/
structure Attended (registry : Registry) (b : Bridge σ) : Prop where
  offered : b.registry = registry
  registered : ∀ c ∈ b.capabilities, c ∈ registry.entries
  ready : b.host.realm.events.Ready
  bound : b.host.realm.events.timers ≠ [] → b.bound.isSome = true

/-- What holds of an attended bridge holds from one state to the other. -/
def Attends (registry : Registry) (b b' : Bridge σ) : Prop :=
  b.Attended registry → b'.Attended registry

instance (registry : Registry) : Std.Refl (Attends (σ := σ) registry) :=
  ⟨fun _ attended => attended⟩

instance (registry : Registry) : IsTrans (Bridge σ) (Attends registry) where
  trans _ _ _ first second attended := second (first attended)

theorem attended_create (settings : Settings) (registry : Registry) (state : σ) :
    (create settings registry state).Attended registry :=
  ⟨rfl, nofun, .empty, fun pending => absurd rfl pending⟩

theorem Alike.attends {b b' : Bridge σ} (alike : b.Alike b') (registry : Registry) :
    Attends registry b b' := by
  intro attended
  obtain ⟨timers, -, -⟩ := EventLoop.of_agenda alike.agenda
  constructor
  case offered => exact alike.registry.trans attended.offered
  case registered => exact alike.capabilities ▸ attended.registered
  case ready => exact (EventLoop.Step.tasks alike.agenda).ready attended.ready
  case bound =>
    rw [timers, alike.bound]
    exact attended.bound

end Bridge

section

variable {registry : Registry} (timely : ∀ c ∈ registry.entries, c.Timely)

include timely

theorem Passage.attends {b b' : Bridge σ} (passage : Passage b b') :
    Bridge.Attends registry b b' := by
  induction passage with
  | aside alike => exact alike.attends registry
  | @visit b b₁ b' c args alike linked bound onward ih =>
    intro attended
    have here := alike.attends registry attended
    refine ih ⟨here.offered, here.registered, ?_, fun _ => bound⟩
    obtain ⟨history, -, course⟩ := timely c (here.registered c linked) args b₁.host
    exact course.ready here.ready

theorem Rounds.attends {b b' : Bridge σ} (rounds : Rounds b b') : Bridge.Attends registry b b' := by
  induction rounds with
  | done b => exact Std.Refl.refl b
  | passage first _ ih => exact IsTrans.trans _ _ _ (first.attends timely) ih
  | taking alike _ _ ih => exact IsTrans.trans _ _ _ (alike.attends registry) ih

theorem Action.Along.attends {α : Type} {act : BridgeAction σ α} (along : Along Passage act) :
    Along (Bridge.Attends registry) act :=
  along.mono fun _ _ passage => passage.attends timely

theorem attends_instantiate (m : GuestModule σ) :
    Along (Bridge.Attends registry) (BridgeAction.instantiate m) := by
  have leads {α : Type} {act : BridgeAction σ α} (along : Along Passage act) :
      Along (Bridge.Attends registry) act := along.attends timely
  have drained : Along (Bridge.Attends registry) (do
      let _ ← BridgeAction.drain
      return () : BridgeAction σ Unit) := leads (.bind leads_drain fun _ => .pure _)
  refine .get_bind fun b attended => ?_
  have offered := attended.offered
  refine (?_ : Along (Bridge.Attends registry) _) b attended
  refine .bind (.conclude _) fun _ => ?_
  dsimp only
  split
  case h_2 => exact .throw_bind _ _
  case h_1 linked found =>
    rw [pure_bind]
    refine .bind (.modify fun s attended => ?_) fun _ => ?_
    · exact ⟨attended.offered, offered ▸ link_registered found, attended.ready, attended.bound⟩
    split
    case isFalse => exact .throw_bind _ _
    case isTrue =>
      refine .bind ((alike_changeMachine _).mono fun _ _ alike => alike.attends registry)
        fun _ => ?_
      -- The guest may have code of its own that runs before its exports are bound.
      split
      case' h_1 code _ =>
        refine .bind (leads (code.leads_run (leads_serveImport leads_callGuest))) fun _ => ?_
      all_goals
        split
        · exact .throw_bind _ _
        · refine .bind (.conclude _) fun exports => .bind (.modify fun s attended => ?_) fun _ => ?_
          · exact ⟨attended.offered, attended.registered, attended.ready, fun _ => rfl⟩
          split
          · exact .bind (leads (leads_callUnit leads_callGuest _ _)) fun _ => drained
          · exact drained

theorem attends_start (source : BridgeAction.Source σ) :
    Along (Bridge.Attends registry) (BridgeAction.start source) := by
  have bound : Along (Bridge.Attends registry) (BridgeAction.bound (σ := σ)) :=
    aside_bound.leads.attends timely
  refine .bind .get fun b => ?_
  dsimp only
  split
  · exact bound
  · split
    · exact .bind (attends_instantiate timely _) fun _ => bound
    · exact .throw_bind _ _

end

end GuestBridge

import GuestBridge.Proofs.Timers.Attended
/-!
The calls of host functions by which a guest gets at the timers. What a call does to them is told by
the timers before and after it. Of the functions that the sample host offers, one schedules timers
and one cancels them. A host that keeps records of the calls has on record just those of the guest.
-/

set_option autoImplicit false

namespace GuestBridge

variable {σ : Type}

open Host.Scheduling (timerSetter timerClearer numberArgument)

/-- A guest's call of a host function, and the bridge as it is made. -/
structure HostVisit (σ : Type) where
  function : Capability
  args : List Value
  begun : Bridge σ

namespace HostVisit

def ended (v : HostVisit σ) : Bridge σ := v.begun.visited v.function v.args

/-- The timers that the call has scheduled and those that it has cancelled. -/
def changes (v : HostVisit σ) : List TimerEvent :=
  v.begun.host.realm.events.changes v.ended.host.realm.events

/-- Timers are scheduled by one function, with the callback and the delay that it is called with,
and cancelled by another, those that the index leads to from the id that it is called with. -/
structure Plain (v : HostVisit σ) : Prop where
  scheduled : ∀ t, .scheduled t ∈ v.changes → v.function = timerSetter ∧
    ∃ callback, (v.args.getD 0 .undefined).asFunction? = some callback ∧
      t = v.begun.host.realm.events.newTimer callback (numberArgument v.args 1).toUInt64
  cancelled : ∀ t, .cancelled t ∈ v.changes → v.function = timerClearer ∧
    ((numberArgument v.args 0).toUInt32, t.key) ∈ v.begun.host.realm.events.keys

end HostVisit

namespace EventLoop

variable {e e' : EventLoop}

theorem changes_of_timers (same : e'.timers = e.timers) : e.changes e' = [] := by
  simp [changes, same]

theorem changes_setTimeout {callback : Nat} {delay : UInt64} {event : TimerEvent}
    (inside : event ∈ e.changes (e.setTimeout callback delay).2) :
    event = .scheduled (e.newTimer callback delay) := by
  cases event with
  | scheduled t =>
    obtain ⟨after, before⟩ := mem_changes_scheduled.1 inside
    rw [((e.mem_setTimeout callback delay t).1 after).resolve_right before]
  | cancelled t =>
    obtain ⟨before, after⟩ := mem_changes_cancelled.1 inside
    exact absurd ((e.mem_setTimeout callback delay t).2 (.inr before)) after
  | fired t => exact absurd inside not_mem_changes_fired

theorem changes_clearTimeout {id : UInt32} {event : TimerEvent}
    (inside : event ∈ e.changes (e.clearTimeout id).2) :
    ∃ t, event = .cancelled t ∧ (id, t.key) ∈ e.keys := by
  rcases e.clearTimeout_cases id with ⟨-, unchanged⟩ | ⟨key, present, changed⟩
  · rw [unchanged, changes_of_timers rfl] at inside
    cases inside
  · rw [changed] at inside
    cases event with
    | scheduled t =>
      obtain ⟨after, before⟩ := mem_changes_scheduled.1 inside
      exact absurd (List.mem_filter.1 after).1 before
    | cancelled t =>
      obtain ⟨before, after⟩ := mem_changes_cancelled.1 inside
      have same : t.key = key := by simpa [before] using after
      exact ⟨t, rfl, same ▸ List.mem_of_find?_eq_some present⟩
    | fired t => exact absurd inside not_mem_changes_fired

end EventLoop

namespace HostVisit

variable {v : HostVisit σ} {event : TimerEvent}

theorem changes_setter (setter : v.function = timerSetter) (inside : event ∈ v.changes) :
    ∃ callback, (v.args.getD 0 .undefined).asFunction? = some callback ∧ event = .scheduled
      (v.begun.host.realm.events.newTimer callback (numberArgument v.args 1).toUInt64) := by
  have ended : v.ended.host = ((timerSetter.call v.args).run.run v.begun.host).2 := setter ▸ rfl
  rw [changes, ended, timerSetter, Host.Scheduling.perform_setTimeout] at inside
  split at inside
  · rw [EventLoop.changes_of_timers rfl] at inside
    cases inside
  · next callback found => exact ⟨callback, found, EventLoop.changes_setTimeout inside⟩

theorem changes_clearer (clearer : v.function = timerClearer) (inside : event ∈ v.changes) :
    ∃ t, event = .cancelled t ∧
      ((numberArgument v.args 0).toUInt32, t.key) ∈ v.begun.host.realm.events.keys := by
  have ended : v.ended.host = ((timerClearer.call v.args).run.run v.begun.host).2 := clearer ▸ rfl
  have cleared : v.ended.host.realm.events.agenda =
      (v.begun.host.realm.events.clearTimeout (numberArgument v.args 0).toUInt32).2.agenda := by
    rw [ended]
    exact Host.Scheduling.agenda_cancelTimer v.begun.host.realm _
  rw [changes, EventLoop.changes, (EventLoop.of_agenda cleared).1] at inside
  exact EventLoop.changes_clearTimeout inside

theorem changes_other (sample : v.function ∈ Host.defaults) (setting : v.function ≠ timerSetter)
    (clearing : v.function ≠ timerClearer) : v.changes = [] := by
  have alike := Host.defaults_alike sample setting clearing v.args v.begun.host
  exact EventLoop.changes_of_timers (EventLoop.of_agenda alike).1

theorem plain (sample : v.function ∈ Host.defaults) : v.Plain := by
  by_cases setting : v.function = timerSetter
  · constructor
    case scheduled =>
      intro t inside
      obtain ⟨callback, found, same⟩ := changes_setter setting inside
      exact ⟨setting, callback, found, TimerEvent.scheduled.inj same⟩
    case cancelled =>
      intro t inside
      obtain ⟨callback, -, same⟩ := changes_setter setting inside
      cases same
  · by_cases clearing : v.function = timerClearer
    · constructor
      case scheduled =>
        intro t inside
        obtain ⟨u, same, -⟩ := changes_clearer clearing inside
        cases same
      case cancelled =>
        intro t inside
        obtain ⟨u, same, leads⟩ := changes_clearer clearing inside
        cases same
        exact ⟨clearing, leads⟩
    · have none := changes_other sample setting clearing
      exact ⟨fun t inside => absurd (none ▸ inside) List.not_mem_nil,
        fun t inside => absurd (none ▸ inside) List.not_mem_nil⟩

end HostVisit

/-- Host functions are called one after the other, each of them linked to a guest that is there, and
nothing else happens that concerns the timers or the facilities of the host. -/
inductive Visits : Bridge σ → List (HostVisit σ) → Bridge σ → Prop
  | done {b b' : Bridge σ} (alike : b.Unvisited b') : Visits b [] b'
  | visit {b b' : Bridge σ} {v : HostVisit σ} {later : List (HostVisit σ)}
      (alike : b.Unvisited v.begun) (linked : v.function ∈ v.begun.capabilities)
      (bound : v.begun.bound.isSome = true) (onward : Visits v.ended later b') :
      Visits b (v :: later) b'

namespace Visits

variable {b b' b'' : Bridge σ} {first second : List (HostVisit σ)}

theorem after_unvisited (alike : b.Unvisited b') (visits : Visits b' first b'') :
    Visits b first b'' := by
  cases visits with
  | done last => exact .done (IsTrans.trans _ _ _ alike last)
  | visit begun linked bound onward =>
    exact .visit (IsTrans.trans _ _ _ alike begun) linked bound onward

theorem append (visits : Visits b first b') (others : Visits b' second b'') :
    Visits b (first ++ second) b'' := by
  induction visits with
  | done alike => exact others.after_unvisited alike
  | visit alike linked bound _ ih => exact .visit alike linked bound (ih others)

theorem wired (visits : Visits b first b') : b'.capabilities = b.capabilities := by
  induction visits with
  | done alike => exact alike.capabilities
  | visit alike _ _ _ ih => exact ih.trans alike.capabilities

end Visits

/-- The host keeps records of the calls of a function among its facilities: each call adds its
entries. -/
def Capability.Recorded {α : Type} (records : Extensions Facility Facility.State → List α)
    (entries : Capability → List Value → List α) (c : Capability) : Prop :=
  ∀ args h, records ((c.call args).run.run h).2.extensions = records h.extensions ++ entries c args

def HostVisit.entries {α : Type} (entries : Capability → List Value → List α) (v : HostVisit σ) :
    List α :=
  entries v.function v.args

section

variable {α : Type} {records : Extensions Facility Facility.State → List α}
  {entries : Capability → List Value → List α}

/-- What the host has on record are the calls that guests have made, and no others. -/
theorem Visits.recorded {b b' : Bridge σ} {visits : List (HostVisit σ)}
    (visited : Visits b visits b')
    (recorded : ∀ c ∈ b.capabilities, c.Recorded records entries) :
    records b'.host.extensions =
      records b.host.extensions ++ visits.flatMap (HostVisit.entries entries) := by
  induction visited with
  | done alike => rw [alike.facilities, List.flatMap_nil, List.append_nil]
  | @visit b b' v later alike linked _ _ ih =>
    have here : ∀ c ∈ v.begun.capabilities, c.Recorded records entries :=
      alike.capabilities ▸ recorded
    have called := here v.function linked v.args v.begun.host
    rw [ih here, List.flatMap_cons, ← List.append_assoc, ← alike.facilities]
    exact congrArg (· ++ _) called

end

/-- The texts on the console. -/
def Host.announcements (x : Extensions Facility Facility.State) : List String :=
  ((x.get? .console).getD #[]).toList.map (·.2)

namespace Capability

/-- A host function that puts its name on the console before it does what it is to do. -/
def announced (c : Capability) : Capability :=
  { c with call := fun args => do
      let lines ← HostCall.facility .console #[]
      HostCall.setFacility .console (lines.push (.log, c.name))
      c.call args }

theorem serves_announced {c : Capability} (serves : c.Serves) : c.announced.Serves :=
  fun args => .bind (HostCall.along_facility (by decide) _) fun _ =>
    .bind (HostCall.along_setFacility (by decide) _) fun _ => serves args

theorem recorded_announced {c : Capability} (silent : ∀ args h,
    Host.announcements ((c.call args).run.run h).2.extensions = Host.announcements h.extensions) :
    c.announced.Recorded Host.announcements fun c _ => [c.name] := by
  intro args h
  let found := h.extensions.getOrInsert .console #[]
  let noted := found.2.set .console (found.1.push (.log, c.name))
  have called : Host.announcements ((c.announced.call args).run.run h).2.extensions =
      Host.announcements noted := silent args { h with extensions := noted }
  rw [called, Host.announcements, Extensions.get?_set, Option.getD_some, Array.toList_push,
    List.map_append, Extensions.fst_getOrInsert]
  rfl

end Capability

/-- A host can have it on record when timers are scheduled and cancelled. -/
theorem Host.Scheduling.recorded_timers : ∀ c ∈ [timerSetter, timerClearer],
    c.announced.Timely ∧ c.announced.Recorded Host.announcements fun c _ => [c.name] := by
  intro c inside
  have serves : c.Serves := fun args => abide c (offers_timers.subset inside) args
  refine ⟨(Capability.serves_announced serves).timely, Capability.recorded_announced ?_⟩
  intro args h
  simp only [List.mem_cons, List.not_mem_nil, or_false] at inside
  rcases inside with rfl | rfl
  · rw [timerSetter, perform_setTimeout]
    split <;> rfl
  · rfl

theorem Passage.visits {b b' : Bridge σ} (passage : Passage b b') :
    ∃ visits, Visits b visits b' := by
  induction passage with
  | aside alike => exact ⟨[], .done alike.toUnvisited⟩
  | @visit b b₁ b' c args alike linked bound onward ih =>
    obtain ⟨later, visits⟩ := ih
    exact ⟨⟨c, args, b₁⟩ :: later, .visit alike.toUnvisited linked bound visits⟩

theorem Rounds.visits {b b' : Bridge σ} (rounds : Rounds b b') : ∃ visits, Visits b visits b' := by
  induction rounds with
  | done b => exact ⟨[], .done (Std.Refl.refl b)⟩
  | passage first _ ih =>
    obtain ⟨before, visits⟩ := first.visits
    obtain ⟨later, others⟩ := ih
    exact ⟨before ++ later, visits.append others⟩
  | taking alike _ _ ih =>
    obtain ⟨later, others⟩ := ih
    exact ⟨later, others.after_unvisited alike⟩

namespace EventLoop

variable {e e₁ e' : EventLoop} {happened history : List TimerEvent}

theorem Effects.of_agenda (same : e₁.agenda = e.agenda) (queued : e.Queued)
    (onward : e₁.Effects history e') : e.Effects history e' := by
  have step : e.Step [] e₁ := .tasks same
  exact .step (step.effect queued) (step.queued queued) onward

end EventLoop

/-- What the calls do to the timers, one after the other. -/
theorem Visits.effects {b b' : Bridge σ} {visits : List (HostVisit σ)}
    (visited : Visits b visits b')
    (timely : ∀ c ∈ b.capabilities, c.Timely) (queued : b.host.realm.events.Queued)
    {history : List TimerEvent} {e : EventLoop}
    (onward : b'.host.realm.events.Queued → b'.host.realm.events.Effects history e) :
    b.host.realm.events.Effects (visits.flatMap HostVisit.changes ++ history) e := by
  induction visited with
  | done alike =>
    have step : EventLoop.Step _ [] _ := .tasks alike.agenda
    exact .of_agenda alike.agenda queued (onward (step.queued queued))
  | @visit b b' v later alike linked bound _ ih =>
    have step : EventLoop.Step _ [] _ := .tasks alike.agenda
    have here : ∀ c ∈ v.begun.capabilities, c.Timely := alike.capabilities ▸ timely
    have begun := step.queued queued
    obtain ⟨within, quiet, course⟩ := here v.function linked v.args v.begun.host
    have ended : v.ended.host.realm.events.Queued := course.queued begun
    rw [List.flatMap_cons, List.append_assoc]
    exact .of_agenda alike.agenda queued
      (.step (course.net quiet begun) ended (ih here ended onward))

end GuestBridge

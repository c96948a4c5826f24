import GuestBridge.Proofs.Timers.Agenda
import GuestBridge.Proofs.Timers.Queue
/-!
The course that timers take. Guests schedule and cancel them while the queue is worked off, and the
clock moves only when one fires. Whatever the order of these events, nothing is pending that is due
before the clock, timers fire in their order, and each is pending from the moment it is scheduled
until it is cancelled or fires.
-/

set_option autoImplicit false

namespace GuestBridge

/-- Something that happens to a timer. -/
inductive TimerEvent
  | scheduled (t : Timer)
  | cancelled (t : Timer)
  | fired (t : Timer)

def TimerEvent.fired? : TimerEvent → Option Timer
  | .fired t => some t
  | _ => none

theorem TimerEvent.mem_fired {history : List TimerEvent} {t : Timer} :
    t ∈ history.filterMap fired? ↔ .fired t ∈ history := by
  simp only [List.mem_filterMap]
  constructor
  · rintro ⟨event, inside, same⟩
    cases event with
    | fired u =>
      cases same
      exact inside
    | _ => cases same
  · exact fun inside => ⟨.fired t, inside, rfl⟩

namespace EventLoop

/-- What may happen to the timers at once, with the events that this counts as. -/
inductive Step : EventLoop → List TimerEvent → EventLoop → Prop
  /-- Nothing but to the microtasks. -/
  | tasks {e e' : EventLoop} (same : e'.agenda = e.agenda) : Step e [] e'
  | scheduled (e : EventLoop) (callback : Nat) (delay : UInt64) :
      Step e [.scheduled (e.newTimer callback delay)] (e.setTimeout callback delay).2
  | cancelled {e e' : EventLoop} {id : UInt32} {t : Timer}
      (found : e.clearTimeout id = (some t, e')) : Step e [.cancelled t] e'
  /-- No timer is cancelled by an id that none has. -/
  | missed {e e' : EventLoop} {id : UInt32} (absent : e.clearTimeout id = (none, e')) : Step e [] e'
  | fired {e e' : EventLoop} {deadline : UInt64} {t : Timer}
      (due : e.popDue deadline = (some t, e')) : Step e [.fired t] e'

inductive Course : EventLoop → List TimerEvent → EventLoop → Prop
  | done (e : EventLoop) : Course e [] e
  | step {e e₁ e' : EventLoop} {happened history : List TimerEvent} (first : Step e happened e₁)
      (onward : Course e₁ history e') : Course e (happened ++ history) e'

/-- The timers are in order, and none is due before the clock. -/
structure Ready (e : EventLoop) : Prop where
  queued : e.Queued
  ahead : ∀ t ∈ e.timers, e.now ≤ t.key.due

theorem Ready.empty : EventLoop.empty.Ready := ⟨.empty, nofun⟩

/-- What a step does, read off its events. -/
structure Effect (e : EventLoop) (happened : List TimerEvent) (e' : EventLoop) : Prop where
  pending : ∀ t, t ∈ e'.timers ↔
    (t ∈ e.timers ∨ .scheduled t ∈ happened) ∧ .cancelled t ∉ happened ∧ .fired t ∉ happened
  new : ∀ t, .scheduled t ∈ happened → e.scheduled ≤ t.key.order ∧ e.now ≤ t.key.due
  ended : ∀ t, .cancelled t ∈ happened ∨ .fired t ∈ happened → t ∈ e.timers
  once : ∀ t, .fired t ∈ happened → .cancelled t ∉ happened
  counted : e.scheduled ≤ e'.scheduled
  still : (∀ t, .fired t ∉ happened) → e'.now = e.now
  moved : ∀ t, .fired t ∈ happened → e'.now = max e.now t.key.due
  first : ∀ t, .fired t ∈ happened → ∀ u ∈ e'.timers, t.key.before u.key = true
  order : Ascending (happened.filterMap TimerEvent.fired?)

/-- Nothing happened that would count. -/
theorem Effect.idle {e e' : EventLoop} (timers : e'.timers = e.timers) (now : e'.now = e.now)
    (counted : e'.scheduled = e.scheduled) : e.Effect [] e' where
  pending t := by
    simp only [timers, List.not_mem_nil, or_false, not_false_eq_true, and_self, and_true]
  new := nofun
  ended := by simp only [List.not_mem_nil, or_self, false_imp_iff, implies_true]
  once := nofun
  counted := Nat.le_of_eq counted.symm
  still _ := now
  moved := nofun
  first := nofun
  order := .nil

/-- The clock does not go back. -/
theorem Effect.clock {e e' : EventLoop} {happened : List TimerEvent}
    (effect : e.Effect happened e') :
    e.now ≤ e'.now := by
  by_cases moved : ∃ u, .fired u ∈ happened
  · obtain ⟨u, here⟩ := moved
    rw [effect.moved u here]
    exact e.le_advanced u.key.due
  · exact UInt64.le_of_eq (effect.still fun u here => moved ⟨u, here⟩).symm

theorem Effect.reached {e e' : EventLoop} {happened : List TimerEvent}
    (effect : e.Effect happened e') {t : Timer} (fired : .fired t ∈ happened) :
    t.key.due ≤ e'.now := by
  rw [effect.moved t fired]
  change t.key.due ≤ if e.now ≤ t.key.due then t.key.due else e.now
  split
  · exact UInt64.le_refl _
  · next past => exact UInt64.le_of_lt (UInt64.not_le.1 past)

theorem clearTimeout_some {e e' : EventLoop} {id : UInt32} {t : Timer} (queued : e.Queued)
    (found : e.clearTimeout id = (some t, e')) :
    t ∈ e.timers ∧ (∀ u, u ∈ e'.timers ↔ u ∈ e.timers ∧ u ≠ t) ∧ e'.now = e.now ∧
      e'.scheduled = e.scheduled := by
  rcases e.clearTimeout_cases id with ⟨-, unchanged⟩ | ⟨key, -, changed⟩
  · rw [unchanged] at found
    cases found
  · rw [changed] at found
    obtain ⟨search, rfl⟩ := Prod.mk.inj found
    have inside := List.mem_of_find?_eq_some search
    have same := List.find?_some search
    rw [beq_iff_eq] at same
    refine ⟨inside, fun u => ?_, rfl, rfl⟩
    simp only [List.mem_filter, bne_iff_ne, ← same]
    refine and_congr_right fun pending => not_congr ⟨fun alike => ?_, congrArg Timer.key⟩
    exact queued.eq_of_order pending inside (congrArg TimerKey.order alike)

theorem clearTimeout_none {e e' : EventLoop} {id : UInt32}
    (absent : e.clearTimeout id = (none, e')) :
    e'.timers = e.timers ∧ e'.now = e.now ∧ e'.scheduled = e.scheduled := by
  rcases e.clearTimeout_cases id with ⟨-, unchanged⟩ | ⟨key, -, changed⟩
  · rw [unchanged] at absent
    cases absent
    exact ⟨rfl, rfl, rfl⟩
  · rw [changed] at absent
    obtain ⟨search, rfl⟩ := Prod.mk.inj absent
    refine ⟨List.filter_eq_self.2 fun u pending => ?_, rfl, rfl⟩
    simpa only [bne_iff_ne, beq_iff_eq] using List.find?_eq_none.1 search u pending

theorem popDue_some {e e' : EventLoop} {deadline : UInt64} {t : Timer}
    (due : e.popDue deadline = (some t, e')) :
    e.timers = t :: e'.timers ∧ t.key.due ≤ deadline ∧ e'.now = max e.now t.key.due ∧
      e'.scheduled = e.scheduled := by
  rcases e.popDue_cases deadline with ⟨unchanged, -⟩ | ⟨u, rest, timers, early, changed⟩
  · rw [unchanged] at due
    cases due
  · rw [changed] at due
    cases due
    exact ⟨timers, early, rfl, rfl⟩

theorem popDue_none {e e' : EventLoop} {deadline : UInt64}
    (none : e.popDue deadline = (none, e')) : e' = e := by
  rcases e.popDue_cases deadline with ⟨unchanged, -⟩ | ⟨u, rest, -, -, changed⟩
  · rw [unchanged] at none
    exact (Prod.mk.inj none).2.symm
  · rw [changed] at none
    cases none

namespace Step

variable {e e' : EventLoop} {happened : List TimerEvent}

theorem queued (step : e.Step happened e') (queued : e.Queued) : e'.Queued := by
  cases step with
  | tasks same =>
    obtain ⟨timers, -, counted⟩ := of_agenda same
    exact queued.sublist (timers ▸ List.Sublist.refl _) counted
  | scheduled callback delay => exact queued.setTimeout callback delay
  | @cancelled _ id _ found =>
    have kept := queued.clearTimeout id
    rwa [found] at kept
  | @missed _ id absent =>
    have kept := queued.clearTimeout id
    rwa [absent] at kept
  | @fired _ deadline _ due =>
    have kept := queued.popDue deadline
    rwa [due] at kept

theorem effect (step : e.Step happened e') (queued : e.Queued) : e.Effect happened e' := by
  cases step with
  | tasks same =>
    obtain ⟨timers, now, counted⟩ := of_agenda same
    exact .idle timers now counted
  | scheduled callback delay =>
    constructor
    case pending =>
      intro t
      rw [mem_setTimeout]
      simp [or_comm]
    case new =>
      intro t new
      simp only [List.mem_singleton, TimerEvent.scheduled.injEq] at new
      rw [new]
      exact ⟨Nat.le_refl _, le_later e.now delay⟩
    case counted => exact Nat.le_succ _
    case still => exact fun _ => rfl
    case order => exact .nil
    all_goals simp
  | cancelled found =>
    obtain ⟨inside, left, now, counted⟩ := clearTimeout_some queued found
    constructor
    case pending => simp [left]
    case ended => simp [inside]
    case counted => exact Nat.le_of_eq counted.symm
    case still => exact fun _ => now
    case order => exact .nil
    all_goals simp
  | missed absent =>
    obtain ⟨timers, now, counted⟩ := clearTimeout_none absent
    exact .idle timers now counted
  | @fired _ _ t due =>
    obtain ⟨timers, -, now, counted⟩ := popDue_some due
    have ascending := queued.ascending
    have once := queued.nodup
    rw [timers] at ascending once
    constructor
    case pending =>
      intro u
      simp only [timers, List.mem_cons, TimerEvent.fired.injEq, reduceCtorEq,
        List.not_mem_nil, or_false, not_false_eq_true, true_and]
      constructor
      · exact fun behind => ⟨.inr behind, fun same => (List.nodup_cons.1 once).1 (same ▸ behind)⟩
      · exact fun ⟨either, apart⟩ => either.resolve_left apart
    case ended => simp [timers]
    case counted => exact Nat.le_of_eq counted.symm
    case moved =>
      intro u here
      simp only [List.mem_singleton, TimerEvent.fired.injEq] at here
      exact here ▸ now
    case first =>
      intro u here
      simp only [List.mem_singleton, TimerEvent.fired.injEq] at here
      exact here ▸ (List.pairwise_cons.1 ascending).1
    case order => exact List.pairwise_singleton _ _
    all_goals simp

theorem ready (step : e.Step happened e') (ready : e.Ready) : e'.Ready := by
  have effect := step.effect ready.queued
  refine ⟨step.queued ready.queued, fun t inside => ?_⟩
  -- Both what was pending and what is new is due no earlier than the clock was.
  have late : e.now ≤ t.key.due := by
    rcases ((effect.pending t).1 inside).1 with old | new
    · exact ready.ahead t old
    · exact (effect.new t new).2
  by_cases moved : ∃ u, .fired u ∈ happened
  · obtain ⟨u, here⟩ := moved
    rw [effect.moved u here]
    have behind := TimerKey.due_le_of_before (effect.first u here t inside)
    change (if e.now ≤ u.key.due then u.key.due else e.now) ≤ t.key.due
    split
    · exact behind
    · exact late
  · rw [effect.still fun u here => moved ⟨u, here⟩]
    exact late

end Step

/-- Effects one after the other, between timers that are in order. -/
inductive Effects : EventLoop → List TimerEvent → EventLoop → Prop
  | done (e : EventLoop) : Effects e [] e
  | step {e e₁ e' : EventLoop} {happened history : List TimerEvent}
      (effect : e.Effect happened e₁) (queued : e₁.Queued) (onward : Effects e₁ history e') :
      Effects e (happened ++ history) e'

namespace Effects

variable {e e' : EventLoop} {history : List TimerEvent}

theorem counted (effects : e.Effects history e') : e.scheduled ≤ e'.scheduled := by
  induction effects with
  | done e => exact Nat.le_refl _
  | step effect _ _ ih => exact Nat.le_trans effect.counted ih

/-- As long as nothing fires, time stands still. -/
theorem still (effects : e.Effects history e') (quiet : ∀ t, .fired t ∉ history) :
    e'.now = e.now := by
  induction effects with
  | done e => rfl
  | step effect _ _ ih =>
    have rest := ih fun t here => quiet t (List.mem_append_right _ here)
    exact rest.trans (effect.still fun t here => quiet t (List.mem_append_left _ here))

/-- What is scheduled comes after everything that was scheduled before, and is not due before the
clock. -/
theorem new (effects : e.Effects history e') {t : Timer} (scheduled : .scheduled t ∈ history) :
    e.scheduled ≤ t.key.order ∧ e.now ≤ t.key.due := by
  induction effects with
  | done e => cases scheduled
  | step effect _ _ ih =>
    rcases List.mem_append.1 scheduled with here | there
    · exact effect.new t here
    · obtain ⟨counted, ahead⟩ := ih there
      exact ⟨Nat.le_trans effect.counted counted, UInt64.le_trans effect.clock ahead⟩

/-- Only a timer that is there can be cancelled or fire. -/
theorem scheduled_of_ended (effects : e.Effects history e') {t : Timer}
    (ended : .cancelled t ∈ history ∨ .fired t ∈ history) :
    t ∈ e.timers ∨ .scheduled t ∈ history := by
  induction effects with
  | done e => exact ended.elim nofun nofun
  | @step _ _ _ happened history effect _ _ ih =>
    simp only [List.mem_append] at ended ⊢
    have now_or_later : (.cancelled t ∈ happened ∨ .fired t ∈ happened) ∨
        (.cancelled t ∈ history ∨ .fired t ∈ history) := by
      rcases ended with (now | later) | (now | later)
      · exact .inl (.inl now)
      · exact .inr (.inl later)
      · exact .inl (.inr now)
      · exact .inr (.inr later)
    rcases now_or_later with now | later
    · exact .inl (effect.ended t now)
    · rcases ih later with there | new
      · exact ((effect.pending t).1 there).1.imp_right .inl
      · exact .inr (.inr new)

/-- A timer that is cancelled or fires at first is not scheduled later on. -/
theorem not_scheduled_again {happened : List TimerEvent} {e₁ : EventLoop}
    (effect : e.Effect happened e₁) (onward : e₁.Effects history e') (queued : e.Queued) {t : Timer}
    (ended : .cancelled t ∈ happened ∨ .fired t ∈ happened) :
    t ∉ e₁.timers ∧ .scheduled t ∉ history := by
  refine ⟨fun inside => ?_, fun new => ?_⟩
  · obtain ⟨-, alive, unfired⟩ := (effect.pending t).1 inside
    exact ended.elim alive unfired
  · have known := queued.known t (effect.ended t ended)
    have later := (onward.new new).1
    have counted := effect.counted
    omega

/-- Pending is what was pending or was scheduled and has neither been cancelled nor fired. -/
theorem mem_timers (effects : e.Effects history e') (queued : e.Queued) (t : Timer) :
    t ∈ e'.timers ↔
      (t ∈ e.timers ∨ .scheduled t ∈ history) ∧ .cancelled t ∉ history ∧ .fired t ∉ history := by
  induction effects with
  | done e =>
    simp only [List.not_mem_nil, or_false, not_false_eq_true, and_self, and_true]
  | step effect next onward ih =>
    have again := not_scheduled_again effect onward queued (t := t)
    rw [ih next, effect.pending]
    simp only [List.mem_append, not_or]
    constructor
    · rintro ⟨(⟨there, alive, unfired⟩ | new), alive', unfired'⟩
      · exact ⟨there.imp_right .inl, ⟨alive, alive'⟩, unfired, unfired'⟩
      · exact ⟨.inr (.inr new), ⟨fun ended => (again (.inl ended)).2 new, alive'⟩,
          fun ended => (again (.inr ended)).2 new, unfired'⟩
    · rintro ⟨(there | here | new), ⟨alive, alive'⟩, unfired, unfired'⟩
      · exact ⟨.inl ⟨.inl there, alive, unfired⟩, alive', unfired'⟩
      · exact ⟨.inl ⟨.inr here, alive, unfired⟩, alive', unfired'⟩
      · exact ⟨.inr new, alive', unfired'⟩

/-- What fires is not cancelled, neither before nor after. -/
theorem not_cancelled_of_fired (effects : e.Effects history e') (queued : e.Queued) {t : Timer}
    (fired : .fired t ∈ history) : .cancelled t ∉ history := by
  induction effects with
  | done e => cases fired
  | @step _ _ _ happened history effect next onward ih =>
    have again := not_scheduled_again effect onward queued (t := t)
    intro cancelled
    rcases List.mem_append.1 fired with here | there
    · rcases List.mem_append.1 cancelled with here' | there'
      · exact effect.once t here here'
      · exact (onward.scheduled_of_ended (.inl there')).elim (again (.inr here)).1
          (again (.inr here)).2
    · rcases List.mem_append.1 cancelled with here' | there'
      · exact (onward.scheduled_of_ended (.inr there)).elim (again (.inl here')).1
          (again (.inl here')).2
      · exact ih next there there'

/-- What fires comes after a key that everything pending comes after, if that key is not ahead of
the clock. -/
theorem before_fired (effects : e.Effects history e') {key : TimerKey}
    (known : key.order < e.scheduled) (past : key.due ≤ e.now)
    (behind : ∀ u ∈ e.timers, key.before u.key = true) {t : Timer} (fired : .fired t ∈ history) :
    key.before t.key = true := by
  rcases effects.scheduled_of_ended (.inr fired) with there | scheduled
  · exact behind t there
  · obtain ⟨later, ahead⟩ := effects.new scheduled
    rw [TimerKey.before_iff]
    rcases UInt64.lt_or_eq_of_le (UInt64.le_trans past ahead) with less | same
    · exact .inl less
    · exact .inr ⟨same, Nat.lt_of_lt_of_le known later⟩

/-- Timers fire in their order. -/
theorem fired_ascending (effects : e.Effects history e') (queued : e.Queued) :
    Ascending (history.filterMap TimerEvent.fired?) := by
  induction effects with
  | done e => exact List.Pairwise.nil
  | @step _ _ _ happened history effect next onward ih =>
    rw [List.filterMap_append]
    refine List.pairwise_append.2 ⟨effect.order, ih next, fun t here u there => ?_⟩
    rw [TimerEvent.mem_fired] at here there
    have known := queued.known t (effect.ended t (.inr here))
    exact onward.before_fired (Nat.lt_of_lt_of_le known effect.counted) (effect.reached here)
      (effect.first t here) there

end Effects

namespace Course

variable {e e' e'' : EventLoop} {history later : List TimerEvent}

theorem single {happened : List TimerEvent} (step : e.Step happened e') : e.Course happened e' := by
  have course := Course.step step (.done e')
  rwa [List.append_nil] at course

theorem append (first : e.Course history e') (second : e'.Course later e'') :
    e.Course (history ++ later) e'' := by
  induction first with
  | done e => exact second
  | step first _ ih => exact List.append_assoc .. ▸ .step first (ih second)

theorem ready (course : e.Course history e') (ready : e.Ready) : e'.Ready := by
  induction course with
  | done e => exact ready
  | step first _ ih => exact ih (first.ready ready)

theorem queued (course : e.Course history e') (queued : e.Queued) : e'.Queued := by
  induction course with
  | done e => exact queued
  | step first _ ih => exact ih (first.queued queued)

theorem effects (course : e.Course history e') (queued : e.Queued) : e.Effects history e' := by
  induction course with
  | done e => exact .done e
  | step first _ ih =>
    exact .step (first.effect queued) (first.queued queued) (ih (first.queued queued))

end Course

/-- What has become of the timers in between, if none has fired. -/
def changes (e e' : EventLoop) : List TimerEvent :=
  (e'.timers.filter (· ∉ e.timers)).map .scheduled ++
    (e.timers.filter (· ∉ e'.timers)).map .cancelled

section

variable {e e' : EventLoop}

theorem mem_changes_scheduled {t : Timer} :
    .scheduled t ∈ e.changes e' ↔ t ∈ e'.timers ∧ t ∉ e.timers := by
  simp [changes]

theorem mem_changes_cancelled {t : Timer} :
    .cancelled t ∈ e.changes e' ↔ t ∈ e.timers ∧ t ∉ e'.timers := by
  simp [changes]

theorem not_mem_changes_fired {t : Timer} : .fired t ∉ e.changes e' := by
  simp [changes]

theorem fired?_changes : (e.changes e').filterMap TimerEvent.fired? = [] :=
  List.eq_nil_iff_forall_not_mem.2 fun _ fired =>
    not_mem_changes_fired (TimerEvent.mem_fired.1 fired)

/-- However often timers were scheduled and cancelled on the way, it comes to that. -/
theorem Course.net {history : List TimerEvent} (course : e.Course history e')
    (quiet : ∀ t, .fired t ∉ history) (queued : e.Queued) : e.Effect (e.changes e') e' := by
  have effects := course.effects queued
  constructor
  case pending =>
    intro t
    rw [mem_changes_scheduled, mem_changes_cancelled]
    have unfired : .fired t ∉ e.changes e' := not_mem_changes_fired
    tauto
  case new =>
    intro t scheduled
    obtain ⟨after, before⟩ := mem_changes_scheduled.1 scheduled
    exact effects.new (((effects.mem_timers queued t).1 after).1.resolve_left before)
  case ended =>
    rintro t (cancelled | fired)
    · exact (mem_changes_cancelled.1 cancelled).1
    · exact absurd fired not_mem_changes_fired
  case once => exact fun t fired => absurd fired not_mem_changes_fired
  case counted => exact effects.counted
  case still => exact fun _ => effects.still quiet
  case moved => exact fun t fired => absurd fired not_mem_changes_fired
  case first => exact fun t fired => absurd fired not_mem_changes_fired
  case order =>
    have none : (e.changes e').filterMap TimerEvent.fired? = [] := fired?_changes
    exact none ▸ .nil

end

end EventLoop

end GuestBridge

import GuestBridge.Proofs.Timers.Visits
import GuestBridge.Sample.Ticker
/-!
Letting virtual time pass, from end to end. Whatever the guest does in its callbacks, in microtasks
and in destructors, each timer that comes due by the deadline and is not cancelled before fires
once, in order and at its time; a failure on the way loses none of the others.
-/

set_option autoImplicit false

namespace GuestBridge

variable {σ : Type}

open GuestBridge.Action (Along)
open BridgeAction

def Bridge.withEvents (b : Bridge σ) (e : EventLoop) : Bridge σ :=
  { b with host := { b.host with realm := { b.host.realm with events := e } } }

namespace BridgeAction

/-- One turn of the event loop: the callback of a timer, then the microtasks. -/
def turn (timer : Timer) : BridgeAction σ Unit := do
  fire timer
  let _ ← runMicrotasks

theorem rounds_turn (timer : Timer) : Along Rounds (turn (σ := σ) timer) :=
  .bind (leads_fire timer).rounds fun _ => .bind rounds_runMicrotasks fun _ => .pure _

theorem perform_fireDue_none {b : Bridge σ} {deadline : UInt64} {e : EventLoop}
    (none : b.host.realm.events.popDue deadline = (none, e)) (turns : Nat) :
    (fireDue deadline (turns + 1)).perform b = (.ok 0, b) := by
  obtain rfl := EventLoop.popDue_none none
  simp only [fireDue, Action.perform_bind, perform_inRealm, none, Action.perform_pure]

theorem perform_fireDue_some {b : Bridge σ} {deadline : UInt64} {t : Timer} {e : EventLoop}
    (due : b.host.realm.events.popDue deadline = (some t, e)) (turns : Nat) :
    (fireDue deadline (turns + 1)).perform b = (do
      turn t
      return (← fireDue deadline turns) + 1 : BridgeAction σ Nat).perform (b.withEvents e) := by
  simp only [fireDue, turn, Action.perform_bind, perform_inRealm, due, Bridge.withEvents,
    Action.perform_pure]
  rcases (fire t).perform _ with ⟨_ | _, after⟩
  · rfl
  · rcases h : runMicrotasks.perform after with ⟨_ | _, settled⟩ <;> simp only [h]

end BridgeAction

/-- A timer that fires, and the bridge as its callback begins. -/
structure Firing (σ : Type) where
  timer : Timer
  begun : Bridge σ

def Bridge.firingsBy (deadline : UInt64) : Nat → Bridge σ → List (Firing σ)
  | 0, _ => []
  | turns + 1, b =>
    match b.host.realm.events.popDue deadline with
    | (none, _) => []
    | (some t, e) =>
      let begun := b.withEvents e
      ⟨t, begun⟩ ::
        match (turn t).perform begun with
        | (.ok _, after) => after.firingsBy deadline turns
        | (.error _, _) => []

/-- The timers that fire while time passes. The microtasks that are waiting run before them. -/
def Bridge.firings (b : Bridge σ) (milliseconds : Nat) : List (Firing σ) :=
  match runMicrotasks.perform b with
  | (.ok _, after) =>
    after.firingsBy (b.host.realm.events.deadlineAfter milliseconds) b.limits.turns
  | (.error _, _) => []

/-- When all timers have fired, the clock moves on to the deadline. -/
def Bridge.concluded (deadline : UInt64) (b : Bridge σ) : Except Fault Nat → Bridge σ
  | .ok _ => b.withEvents (b.host.realm.events.advanceTo deadline)
  | .error _ => b

theorem perform_runTimers (milliseconds : Nat) (b : Bridge σ) :
    (runTimers milliseconds).perform b =
      match runMicrotasks.perform b with
      | (.ok _, after) =>
        let deadline := b.host.realm.events.deadlineAfter milliseconds
        let ran := (fireDue deadline b.limits.turns).perform after
        (ran.1, ran.2.concluded deadline ran.1)
      | (.error fault, after) => (.error fault, after) := by
  simp only [runTimers, Action.perform_bind, Action.perform_get]
  rcases runMicrotasks.perform b with ⟨fault | n, after⟩
  · rfl
  · dsimp only
    rcases (fireDue _ b.limits.turns).perform after with ⟨fault | fired, last⟩ <;> rfl

/-- How the event loop goes round: microtasks run, the first timer fires that is due by the
deadline, microtasks run again, and so on until no timer is due. A failure ends it anywhere. -/
inductive Loop (deadline : UInt64) :
    Nat → Bridge σ → List (Firing σ) → Except Fault Nat → Bridge σ → Prop
  | unsettled {turns : Nat} {b b' : Bridge σ} {fault : Fault}
      (tasks : runMicrotasks.perform b = (.error fault, b')) :
      Loop deadline turns b [] (.error fault) b'
  | spent {b b' : Bridge σ} {n : Nat} (tasks : runMicrotasks.perform b = (.ok n, b')) :
      Loop deadline 0 b [] (.error .exhausted) b'
  | ended {turns : Nat} {b b' : Bridge σ} {n : Nat} {e : EventLoop}
      (tasks : runMicrotasks.perform b = (.ok n, b'))
      (none : b'.host.realm.events.popDue deadline = (none, e)) :
      Loop deadline (turns + 1) b [] (.ok 0) b'
  | failed {turns : Nat} {b b₁ b' : Bridge σ} {n : Nat} {f : Firing σ} {e : EventLoop}
      {fault : Fault}
      (tasks : runMicrotasks.perform b = (.ok n, b₁))
      (due : b₁.host.realm.events.popDue deadline = (some f.timer, e))
      (begun : f.begun = b₁.withEvents e)
      (fired : (fire f.timer).perform f.begun = (.error fault, b')) :
      Loop deadline (turns + 1) b [f] (.error fault) b'
  | fired {turns : Nat} {b b₁ b₂ b' : Bridge σ} {n : Nat} {f : Firing σ} {e : EventLoop}
      {later : List (Firing σ)} {outcome : Except Fault Nat}
      (tasks : runMicrotasks.perform b = (.ok n, b₁))
      (due : b₁.host.realm.events.popDue deadline = (some f.timer, e))
      (begun : f.begun = b₁.withEvents e)
      (fired : (fire f.timer).perform f.begun = (.ok (), b₂))
      (onward : Loop deadline turns b₂ later outcome b') :
      Loop deadline (turns + 1) b (f :: later) (outcome.map (· + 1)) b'

theorem loop_fireDue (deadline : UInt64) (turns : Nat) {b b₁ : Bridge σ} {n : Nat}
    (tasks : runMicrotasks.perform b = (.ok n, b₁)) :
    Loop deadline turns b (b₁.firingsBy deadline turns) ((fireDue deadline turns).perform b₁).1
      ((fireDue deadline turns).perform b₁).2 := by
  induction turns generalizing b b₁ n with
  | zero => exact .spent tasks
  | succ turns ih =>
    rcases due : b₁.host.realm.events.popDue deadline with ⟨_ | t, e⟩
    · simp only [perform_fireDue_none due, Bridge.firingsBy, due]
      exact .ended tasks due
    · simp only [perform_fireDue_some due, Bridge.firingsBy, due, turn, Action.perform_bind]
      rcases fired : (fire t).perform (b₁.withEvents e) with ⟨fault | _, b₂⟩
      · exact .failed (f := ⟨t, _⟩) tasks due rfl fired
      · rcases again : runMicrotasks.perform b₂ with ⟨fault | m, b₃⟩ <;>
          simp only [again, Action.perform_pure]
        · exact .fired (f := ⟨t, _⟩) tasks due rfl fired (.unsettled again)
        · have onward := Loop.fired (f := ⟨t, _⟩) tasks due rfl fired (ih again)
          rcases ended : (fireDue deadline turns).perform b₃ with ⟨fault | k, b'⟩ <;>
            rw [ended] at onward <;> exact onward

theorem loop_runTimers (milliseconds : Nat) (b : Bridge σ) :
    let deadline := b.host.realm.events.deadlineAfter milliseconds
    let ran := (runTimers milliseconds).perform b
    ∃ last, Loop deadline b.limits.turns b (b.firings milliseconds) ran.1 last ∧
      ran.2 = last.concluded deadline ran.1 := by
  intro deadline ran
  have performed : ran = _ := perform_runTimers milliseconds b
  rcases tasks : runMicrotasks.perform b with ⟨fault | n, b₁⟩ <;> rw [tasks] at performed <;>
    simp only [performed, Bridge.firings, tasks]
  · exact ⟨b₁, .unsettled tasks, rfl⟩
  · exact ⟨_, loop_fireDue deadline b.limits.turns tasks, rfl⟩

def Firing.called (f : Firing σ) : Except Fault Value × Bridge σ :=
  (invokeClosure callGuest f.timer.callback .undefined).perform f.begun

/-- The callback is called for a guest that is there, and the clock shows the time of the timer from
the beginning to the end. What the call yields is let go of, and then the callback itself. -/
structure Firing.OnTime (f : Firing σ) : Prop where
  bound : f.begun.bound.isSome = true
  before : f.begun.host.realm.events.now = f.timer.key.due
  after : ((fire f.timer).perform f.begun).2.host.realm.events.now = f.timer.key.due
  returned : ∀ v b, f.called = (.ok v, b) → (fire f.timer).perform f.begun =
    (.ok (), ((letGo (.function f.timer.callback)).perform ((letGo v).perform b).2).2)
  failed : ∀ fault b, f.called = (.error fault, b) → (fire f.timer).perform f.begun =
    (.error fault, ((letGo (.function f.timer.callback)).perform b).2)

theorem Firing.perform_fire {f : Firing σ} (guest : f.begun.bound.isSome = true) :
    (fire f.timer).perform f.begun =
      match f.called with
      | (.ok v, b) =>
        (.ok (), ((letGo (.function f.timer.callback)).perform ((letGo v).perform b).2).2)
      | (.error fault, b) =>
        (.error fault, ((letGo (.function f.timer.callback)).perform b).2) := by
  obtain ⟨exports, present⟩ := Option.isSome_iff_exists.1 guest
  simp only [fire, Action.perform_bind, Action.perform_attempt, perform_bound_some present]
  rcases called : f.called with ⟨fault | v, b⟩ <;> rw [Firing.called] at called <;>
    rw [called] <;> rfl

/-- Something that happens to the timers while time passes. -/
inductive Happening (σ : Type)
  | visit (v : HostVisit σ)
  | firing (f : Firing σ)

namespace Happening

def firing? : Happening σ → Option (Firing σ)
  | .firing f => some f
  | .visit _ => none

def events : Happening σ → List TimerEvent
  | .visit v => v.changes
  | .firing f => [.fired f.timer]

def entries {α : Type} (entries : Capability → List Value → List α) : Happening σ → List α
  | .visit v => v.entries entries
  | .firing _ => []

end Happening

/-- What has become of the timers. -/
def history (happenings : List (Happening σ)) : List TimerEvent :=
  happenings.flatMap Happening.events

theorem history_visits (visits : List (HostVisit σ)) (later : List (Happening σ)) :
    history (visits.map .visit ++ later) = visits.flatMap HostVisit.changes ++ history later := by
  rw [history, List.flatMap_append, List.flatMap_map]
  rfl

theorem firing?_visits (visits : List (HostVisit σ)) (later : List (Happening σ)) :
    (visits.map Happening.visit ++ later).filterMap Happening.firing? =
      later.filterMap Happening.firing? := by
  have none : (visits.map Happening.visit).filterMap Happening.firing? = [] := by
    simp [Happening.firing?]
  rw [List.filterMap_append, none, List.nil_append]

/-- What fires by the history are the timers of the firings. -/
theorem fired_history (happenings : List (Happening σ)) :
    (history happenings).filterMap TimerEvent.fired? =
      (happenings.filterMap Happening.firing?).map (·.timer) := by
  induction happenings with
  | nil => rfl
  | cons happening rest ih =>
    rw [history, List.flatMap_cons, List.filterMap_append]
    cases happening with
    | visit v =>
      have none : v.changes.filterMap TimerEvent.fired? = [] := EventLoop.fired?_changes
      exact (congrArg (· ++ _) none).trans ih
    | firing f => exact congrArg (f.timer :: ·) ih

/-- How the event loop gets from one state to another. Runs of the microtasks and firings of timers
that are due by the deadline take turns; in the course of each the guest calls host functions. -/
inductive Elapses (deadline : UInt64) : Bridge σ → List (Happening σ) → Bridge σ → Prop
  | done (b : Bridge σ) : Elapses deadline b [] b
  | tasks {b b₁ b' : Bridge σ} {outcome : Except Fault Nat} {visits : List (HostVisit σ)}
      {later : List (Happening σ)} (ran : runMicrotasks.perform b = (outcome, b₁))
      (within : Visits b visits b₁) (onward : Elapses deadline b₁ later b') :
      Elapses deadline b (visits.map .visit ++ later) b'
  | firing {b b₁ b' : Bridge σ} {f : Firing σ} {e : EventLoop} {outcome : Except Fault Unit}
      {visits : List (HostVisit σ)} {later : List (Happening σ)}
      (due : b.host.realm.events.popDue deadline = (some f.timer, e))
      (begun : f.begun = b.withEvents e) (fired : (fire f.timer).perform f.begun = (outcome, b₁))
      (within : Visits f.begun visits b₁) (onward : Elapses deadline b₁ later b') :
      Elapses deadline b (.firing f :: (visits.map .visit ++ later)) b'

theorem Elapses.effects {deadline : UInt64} {b b' : Bridge σ} {happenings : List (Happening σ)}
    (elapses : Elapses deadline b happenings b') (timely : ∀ c ∈ b.capabilities, c.Timely)
    (queued : b.host.realm.events.Queued) :
    b.host.realm.events.Effects (history happenings) b'.host.realm.events := by
  induction elapses with
  | done b => exact .done _
  | tasks _ within _ ih =>
    rw [history_visits]
    exact within.effects timely queued (ih (within.wired ▸ timely))
  | firing due begun _ within _ ih =>
    have step := EventLoop.Step.fired due
    have wired := within.wired
    have onward := within.effects (begun ▸ timely) (begun ▸ step.queued queued)
      (ih (wired ▸ begun ▸ timely))
    rw [begun] at onward
    rw [history, List.flatMap_cons]
    refine .step (step.effect queued) (step.queued queued) ?_
    rw [← history, history_visits]
    exact onward

theorem entries_visits {α : Type} (entries : Capability → List Value → List α)
    (visits : List (HostVisit σ)) (later : List (Happening σ)) :
    (visits.map Happening.visit ++ later).flatMap (Happening.entries entries) =
      visits.flatMap (HostVisit.entries entries) ++ later.flatMap (Happening.entries entries) := by
  rw [List.flatMap_append, List.flatMap_map]
  rfl

theorem Elapses.recorded {α : Type} {records : Extensions Facility Facility.State → List α}
    {entries : Capability → List Value → List α} {deadline : UInt64} {b b' : Bridge σ}
    {happenings : List (Happening σ)} (elapses : Elapses deadline b happenings b')
    (recorded : ∀ c ∈ b.capabilities, c.Recorded records entries) :
    records b'.host.extensions =
      records b.host.extensions ++ happenings.flatMap (Happening.entries entries) := by
  induction elapses with
  | done b => exact (List.append_nil _).symm
  | tasks _ within _ ih =>
    rw [ih (within.wired ▸ recorded), within.recorded recorded, entries_visits, List.append_assoc]
  | @firing b b₁ b' f e outcome visits later due begun _ within _ ih =>
    have here : ∀ c ∈ f.begun.capabilities, c.Recorded records entries := begun ▸ recorded
    have same : f.begun.host.extensions = b.host.extensions := begun ▸ rfl
    rw [ih (within.wired ▸ here), within.recorded here, same, List.flatMap_cons, entries_visits,
      List.append_assoc]
    rfl

/-- What working off the timers by a deadline comes to. -/
structure Told (deadline : UInt64) (b : Bridge σ) (firings : List (Firing σ))
    (outcome : Except Fault Nat) (b' : Bridge σ) (happenings : List (Happening σ)) : Prop where
  course : Elapses deadline b happenings b'
  fired : happenings.filterMap Happening.firing? = firings
  onTime : ∀ f ∈ firings, f.OnTime ∧ f.timer.key.due ≤ deadline
  clock : b.host.realm.events.now ≤ deadline → b'.host.realm.events.now ≤ deadline
  finished : ∀ n, outcome = .ok n →
    n = firings.length ∧ ∀ t ∈ b'.host.realm.events.timers, deadline < t.key.due

namespace Told

variable {deadline : UInt64} {b b₁ b' : Bridge σ} {firings : List (Firing σ)}
  {outcome : Except Fault Nat} {visits : List (HostVisit σ)} {happenings : List (Happening σ)}

theorem failed (deadline : UInt64) (b : Bridge σ) (fault : Fault) :
    Told deadline b [] (.error fault) b [] :=
  ⟨.done _, rfl, fun _ inside => absurd inside List.not_mem_nil, id, nofun⟩

theorem nothing_due (ahead : ∀ t ∈ b.host.realm.events.timers, deadline < t.key.due) :
    Told deadline b [] (.ok 0) b [] where
  course := .done _
  fired := rfl
  onTime _ inside := absurd inside List.not_mem_nil
  clock := id
  finished := by
    rintro n ⟨⟩
    exact ⟨rfl, ahead⟩

theorem tasks {ran : Except Fault Nat} (tasks : runMicrotasks.perform b = (ran, b₁))
    (within : Visits b visits b₁) (still : b₁.host.realm.events.now = b.host.realm.events.now)
    (told : Told deadline b₁ firings outcome b' happenings) :
    Told deadline b firings outcome b' (visits.map .visit ++ happenings) where
  course := .tasks tasks within told.course
  fired := (firing?_visits visits happenings).trans told.fired
  onTime := told.onTime
  clock early := told.clock (still ▸ early)
  finished := told.finished

theorem fire {f : Firing σ} {e : EventLoop} {ended : Except Fault Unit}
    (due : b.host.realm.events.popDue deadline = (some f.timer, e))
    (begun : f.begun = b.withEvents e) (onTime : f.OnTime)
    (fired : (BridgeAction.fire f.timer).perform f.begun = (ended, b₁))
    (within : Visits f.begun visits b₁)
    (told : Told deadline b₁ firings outcome b' happenings) :
    Told deadline b (f :: firings) (outcome.map (· + 1)) b'
      (.firing f :: (visits.map .visit ++ happenings)) := by
  have early := (EventLoop.popDue_some due).2.1
  constructor
  case course => exact .firing due begun fired within told.course
  case fired =>
    exact congrArg (f :: ·) ((firing?_visits visits happenings).trans told.fired)
  case onTime =>
    intro f' inside
    rcases List.mem_cons.1 inside with rfl | later
    · exact ⟨onTime, early⟩
    · exact told.onTime f' later
  case clock =>
    intro _
    have now := onTime.after
    rw [fired] at now
    exact told.clock (now ▸ early)
  case finished =>
    intro n done
    rcases outcome with fault | m
    · cases done
    · cases done
      obtain ⟨counted, ahead⟩ := told.finished m rfl
      exact ⟨congrArg (· + 1) counted, ahead⟩

end Told

section

variable {registry : Registry} (timely : ∀ c ∈ registry.entries, c.Timely)

include timely

/-- The clock stands still while guest code runs. -/
theorem Rounds.still {b b' : Bridge σ} (rounds : Rounds b b') (attended : b.Attended registry) :
    b'.host.realm.events.now = b.host.realm.events.now := by
  obtain ⟨history, quiet, course⟩ := rounds.meanwhile fun c linked =>
    timely c (attended.registered c linked)
  exact (course.effects attended.ready.queued).still quiet

/-- A timer that is taken out fires on time, for there is a guest if a timer is pending. -/
theorem Bridge.Attended.fires {b : Bridge σ} (attended : b.Attended registry) {deadline : UInt64}
    {f : Firing σ} {e : EventLoop}
    (due : b.host.realm.events.popDue deadline = (some f.timer, e))
    (begun : f.begun = b.withEvents e) : f.begun.Attended registry ∧ f.OnTime := by
  obtain ⟨t, b₁⟩ := f
  obtain rfl : b₁ = b.withEvents e := begun
  obtain ⟨timers, -, now, -⟩ := EventLoop.popDue_some due
  have bound : b.bound.isSome = true := attended.bound (timers ▸ List.cons_ne_nil _ _)
  have begun : (b.withEvents e).Attended registry :=
    ⟨attended.offered, attended.registered, (EventLoop.Step.fired due).ready attended.ready,
      fun _ => bound⟩
  have before : e.now = t.key.due := by
    have ahead := attended.ready.ahead t (timers ▸ List.mem_cons_self ..)
    rw [now]
    change (if b.host.realm.events.now ≤ t.key.due then _ else _) = _
    rw [if_pos ahead]
  have after := (Rounds.still timely ((leads_fire t).rounds _) begun).trans before
  have performed := Firing.perform_fire (f := ⟨t, b.withEvents e⟩) bound
  refine ⟨begun, bound, before, after, fun v last called => ?_, fun fault last called => ?_⟩ <;>
    rw [performed, called]

theorem loop_told {deadline : UInt64} {turns : Nat} {b b' : Bridge σ} {firings : List (Firing σ)}
    {outcome : Except Fault Nat} (loop : Loop deadline turns b firings outcome b')
    (attended : b.Attended registry) :
    ∃ happenings, Told deadline b firings outcome b' happenings ∧ b'.Attended registry := by
  have settle {b b₁ : Bridge σ} {ran : Except Fault Nat} (attended : b.Attended registry)
      (tasks : runMicrotasks.perform b = (ran, b₁)) : (∃ visits, Visits b visits b₁) ∧
        b₁.host.realm.events.now = b.host.realm.events.now ∧ b₁.Attended registry := by
    have rounds : Rounds b b₁ := rounds_runMicrotasks.ended tasks
    exact ⟨rounds.visits, rounds.still timely attended, rounds.attends timely attended⟩
  have burn {b b₁ : Bridge σ} {timer : Timer} {ended : Except Fault Unit}
      (attended : b.Attended registry) (fired : (fire timer).perform b = (ended, b₁)) :
      (∃ visits, Visits b visits b₁) ∧ b₁.Attended registry := by
    have passage : Passage b b₁ := (leads_fire timer).ended fired
    exact ⟨passage.visits, passage.attends timely attended⟩
  induction loop with
  | @unsettled turns b b' fault tasks =>
    obtain ⟨⟨visits, within⟩, still, after⟩ := settle attended tasks
    exact ⟨_, .tasks tasks within still (.failed deadline b' fault), after⟩
  | @spent b b' n tasks =>
    obtain ⟨⟨visits, within⟩, still, after⟩ := settle attended tasks
    exact ⟨_, .tasks tasks within still (.failed deadline b' .exhausted), after⟩
  | ended tasks none =>
    obtain ⟨⟨visits, within⟩, still, after⟩ := settle attended tasks
    have ahead := after.ready.queued.none_due (congrArg Prod.fst none)
    exact ⟨_, .tasks tasks within still (.nothing_due ahead), after⟩
  | @failed turns b b₁ b' n f e fault tasks due begun fired =>
    obtain ⟨⟨before, settled⟩, still, rested⟩ := settle attended tasks
    obtain ⟨ready, onTime⟩ := rested.fires timely due begun
    obtain ⟨⟨visits, within⟩, after⟩ := burn ready fired
    have told := Told.fire due begun onTime fired within (.failed deadline b' fault)
    exact ⟨_, .tasks tasks settled still told, after⟩
  | @fired turns b b₁ b₂ b' n f e later outcome tasks due begun fired onward ih =>
    obtain ⟨⟨before, settled⟩, still, rested⟩ := settle attended tasks
    obtain ⟨ready, onTime⟩ := rested.fires timely due begun
    obtain ⟨⟨visits, within⟩, after⟩ := burn ready fired
    obtain ⟨happenings, told, last⟩ := ih after
    exact ⟨_, .tasks tasks settled still (.fire due begun onTime fired within told), last⟩

end

theorem Bridge.Attended.concluded {registry : Registry} {deadline : UInt64} {b : Bridge σ}
    (attended : b.Attended registry) {outcome : Except Fault Nat}
    (ahead : ∀ n, outcome = .ok n → ∀ t ∈ b.host.realm.events.timers, deadline < t.key.due) :
    (b.concluded deadline outcome).Attended registry := by
  cases outcome with
  | error fault => exact attended
  | ok n =>
    refine ⟨attended.offered, attended.registered, ⟨?_, fun t inside => ?_⟩, attended.bound⟩
    · exact attended.ready.queued.advanceTo deadline
    · change (if b.host.realm.events.now ≤ deadline then deadline else b.host.realm.events.now) ≤ _
      split
      · exact UInt64.le_of_lt (ahead n rfl t inside)
      · exact attended.ready.ahead t inside

section

variable {registry : Registry} (timely : ∀ c ∈ registry.entries, c.Timely)

include timely

theorem Bridge.Reachable.attended {b : Bridge σ} (reachable : b.Reachable registry) :
    b.Attended registry := by
  induction reachable with
  | created settings state => exact attended_create settings registry state
  | aside alike _ ih => exact alike.attends registry ih
  | @asked b request _ ih =>
    cases request with
    | start source => exact attends_start timely source b ih
    | callTyped name type args => exact (leads_callTyped name type args b).attends timely ih
    | callDynamic name args => exact (leads_callDynamic name args b).attends timely ih
    | invoke handle argument => exact (leads_invoke handle argument b).attends timely ih
    | runMicrotasks => exact (rounds_runMicrotasks b).attends timely ih
    | runTimers milliseconds =>
      obtain ⟨last, loop, ended⟩ := loop_runTimers milliseconds b
      obtain ⟨happenings, told, attended⟩ := loop_told timely loop ih
      change ((runTimers milliseconds).perform b).2.Attended registry
      rw [ended]
      exact attended.concluded fun n done => (told.finished n done).2
    | drain => exact (leads_drain b).attends timely ih
    | passText s => exact (leads_passText leads_callGuest s b).attends timely ih
    | freeBuffer pointer size align =>
      exact (leads_freeBuffer pointer size align b).attends timely ih

end

theorem EventLoop.toNat_deadlineAfter (e : EventLoop) (elapsed : Nat) :
    (e.deadlineAfter elapsed).toNat = min (e.now.toNat + elapsed) (UInt64.size - 1) := by
  have now_lt := e.now.toNat_lt
  have large : UInt64.size = 2 ^ 64 := rfl
  rw [deadlineAfter, toNat_later, UInt64.toNat_ofNat']
  omega

namespace Bridge

def clock (b : Bridge σ) : UInt64 := b.host.realm.events.now

def pending (b : Bridge σ) : List Timer := b.host.realm.events.timers

def deadline (b : Bridge σ) (milliseconds : Nat) : UInt64 :=
  b.host.realm.events.deadlineAfter milliseconds

/-- How time passes for a bridge, told by what happens to its timers. -/
structure Passes (b : Bridge σ) (milliseconds : Nat) (outcome : Except Fault Nat)
    (after : Bridge σ) (happenings : List (Happening σ)) : Prop where
  deadline : (b.deadline milliseconds).toNat =
    min (b.clock.toNat + milliseconds) (UInt64.size - 1)
  /-- Timers fire, and guests call host functions; nothing else happens to the timers. -/
  course : ∃ last : Bridge σ,
    Loop (b.deadline milliseconds) b.limits.turns b (b.firings milliseconds) outcome last ∧
      Elapses (b.deadline milliseconds) b happenings last ∧
      after = last.concluded (b.deadline milliseconds) outcome
  fired : happenings.filterMap Happening.firing? = b.firings milliseconds
  /-- Of the functions of the sample host, one schedules timers and one cancels them. -/
  plain : ∀ v, .visit v ∈ happenings → v.function ∈ Host.defaults → v.Plain
  /-- A host that records the calls finds just these on record. -/
  recorded : ∀ {α : Type} (records : Extensions Facility Facility.State → List α)
    (entries : Capability → List Value → List α),
    (∀ c ∈ b.capabilities, c.Recorded records entries) →
      records after.host.extensions =
        records b.host.extensions ++ happenings.flatMap (Happening.entries entries)
  order : EventLoop.Ascending ((b.firings milliseconds).map (·.timer))
  onTime : ∀ f ∈ b.firings milliseconds,
    f.OnTime ∧ f.timer.key.due ≤ b.deadline milliseconds
  /-- No timer is lost, whether all goes well or not. -/
  left : ∀ t, t ∈ after.pending ↔ (t ∈ b.pending ∨ .scheduled t ∈ history happenings) ∧
    .cancelled t ∉ history happenings ∧ .fired t ∉ history happenings
  ahead : ∀ t ∈ after.pending, after.clock ≤ t.key.due
  completed : ∀ n, outcome = .ok n →
    n = (b.firings milliseconds).length ∧
      (∀ t, .fired t ∈ history happenings ↔ t.key.due ≤ b.deadline milliseconds ∧
        (t ∈ b.pending ∨ .scheduled t ∈ history happenings) ∧
        .cancelled t ∉ history happenings) ∧
      (∀ t ∈ after.pending, b.deadline milliseconds < t.key.due) ∧
      after.clock = b.deadline milliseconds

end Bridge

/-- However long time passes, and whatever the guest does meanwhile: timers fire in their order and
each at its time, those that are due by the deadline and no others, and none is lost when something
fails. -/
theorem timers_fire_by_deadline {registry : Registry} {b : Bridge σ}
    (reachable : b.Reachable registry) (timely : ∀ c ∈ registry.entries, c.Timely)
    (milliseconds : Nat) :
    ∃ happenings, b.Passes milliseconds ((runTimers milliseconds).perform b).1
      ((runTimers milliseconds).perform b).2 happenings := by
  have attended := Bridge.Reachable.attended timely reachable
  obtain ⟨last, loop, ended⟩ := loop_runTimers milliseconds b
  obtain ⟨happenings, told, kept⟩ := loop_told timely loop attended
  have queued := attended.ready.queued
  have linked : ∀ c ∈ b.capabilities, c.Timely :=
    fun c inside => timely c (attended.registered c inside)
  have effects := told.course.effects linked queued
  have concluded := kept.concluded fun n done => (told.finished n done).2
  -- Moving the clock on to the deadline leaves the timers as they are.
  have pending : ((runTimers milliseconds).perform b).2.pending = last.pending := by
    rw [ended]
    rcases ((runTimers milliseconds).perform b).1 with fault | n <;> rfl
  have left := effects.mem_timers queued
  have fired := (fired_history happenings).trans (congrArg (List.map (·.timer)) told.fired)
  refine ⟨happenings, ?_⟩
  constructor
  case deadline => exact EventLoop.toNat_deadlineAfter _ _
  case course => exact ⟨last, loop, told.course, ended⟩
  case fired => exact told.fired
  case plain => exact fun v _ sample => v.plain sample
  case recorded =>
    intro α records entries recorded
    have kept : ((runTimers milliseconds).perform b).2.host.extensions = last.host.extensions := by
      rw [ended]
      rcases ((runTimers milliseconds).perform b).1 with fault | n <;> rfl
    rw [kept]
    exact told.course.recorded recorded
  case order => exact fired ▸ effects.fired_ascending queued
  case onTime => exact told.onTime
  case left =>
    intro t
    rw [pending]
    exact left t
  case ahead =>
    rw [ended]
    exact concluded.ready.ahead
  case completed =>
    intro n done
    obtain ⟨counted, beyond⟩ := told.finished n done
    refine ⟨counted, fun t => ⟨fun here => ⟨?_, ?_, ?_⟩, fun ⟨due, known, alive⟩ => ?_⟩, ?_, ?_⟩
    · have listed := TimerEvent.mem_fired.2 here
      rw [fired] at listed
      obtain ⟨f, inside, rfl⟩ := List.mem_map.1 listed
      exact (told.onTime f inside).2
    · exact effects.scheduled_of_ended (.inr here)
    · exact effects.not_cancelled_of_fired queued here
    · by_contra unfired
      have late := beyond t ((left t).2 ⟨known, alive, unfired⟩)
      exact absurd due (UInt64.not_le.2 late)
    · rw [pending]
      exact beyond
    · have within := told.clock (EventLoop.le_later b.host.realm.events.now _)
      rw [ended, done]
      change (if last.host.realm.events.now ≤ _ then _ else _) = _
      rw [if_pos within]
      rfl

/-- A guest with four timers on the sample host. The last that was scheduled is due first, and two
are due at once, the first of which schedules another one. -/
theorem timers_fire_by_deadline_ticker :
    let registry := Registry.empty.defineAll Host.defaults
    let started := (Bridge.create {} registry ()).after (.start (.module Sample.Ticker.guest))
    let b := started.after (.callTyped "more" ⟨[], []⟩ [])
    b.Reachable registry ∧ (∀ c ∈ registry.entries, c.Timely) ∧
      ∃ happenings, b.Passes 12 ((runTimers 12).perform b).1 ((runTimers 12).perform b).2
        happenings := by
  intro registry started b
  have reachable : b.Reachable registry := .asked _ (.asked _ (.created {} ()))
  have timely : ∀ c ∈ registry.entries, c.Timely := fun c inside =>
    Host.defaults_timely c ((Registry.mem_defineAll inside).resolve_left nofun)
  exact ⟨reachable, timely, timers_fire_by_deadline reachable timely 12⟩

end GuestBridge

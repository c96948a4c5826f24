import GuestBridge.Proofs.Finalizers.Leftover
import GuestBridge.Proofs.Microtasks.Order
/-!
Time that passes in two portions. Whatever is due in the first one happens at the same times, in the
same order and in the same states as if all the time passed at once, and so does the rest in the
second one. In between the clock is moved on and the queues are looked at once more, which comes to
nothing as long as destructors queue no microtasks.
-/

set_option autoImplicit false

namespace GuestBridge

variable {σ : Type}

open BridgeAction

namespace EventLoop

variable {e e' : EventLoop} {first deadline : UInt64} {t : Timer}

theorem popDue_cons {rest : List Timer} (timers : e.timers = t :: rest)
    (early : t.key.due ≤ deadline) : e.popDue deadline = (some t, { e with
      now := max e.now t.key.due
      timers := rest
      keys := eraseId t.id e.keys }) := by
  unfold popDue
  rw [timers]
  exact if_neg (UInt64.not_lt.2 early)

theorem popDue_none_earlier (earlier : first ≤ deadline)
    (nothing : e.popDue deadline = (none, e')) : e.popDue first = (none, e') := by
  obtain rfl := popDue_none nothing
  unfold popDue at nothing ⊢
  split at nothing
  · rfl
  · next t rest timers =>
    split at nothing
    · next late => rw [if_pos (UInt64.lt_of_le_of_lt earlier late)]
    · cases nothing

/-- Moving the clock on makes no timer come due. -/
theorem popDue_advanceTo_none (nothing : e.popDue deadline = (none, e)) (time : UInt64) :
    (e.advanceTo time).popDue deadline = (none, e.advanceTo time) := by
  unfold popDue at nothing ⊢
  dsimp only [advanceTo]
  split at nothing
  · rfl
  · split at nothing
    · next late => rw [if_pos late]
    · cases nothing

theorem advanceTo_advanceTo (e : EventLoop) (earlier : first ≤ deadline) :
    (e.advanceTo first).advanceTo deadline = e.advanceTo deadline := by
  have clock : max (max e.now first) deadline = max e.now deadline := by
    simp only [UInt64.max_def]
    grind
  simp only [advanceTo, clock]

theorem popDue_some_earlier (due : e.popDue deadline = (some t, e')) (first : UInt64) :
    e.popDue first = if t.key.due ≤ first then (some t, e') else (none, e) := by
  unfold popDue at due ⊢
  split at due
  · cases due
  · next u rest timers =>
    split at due
    · cases due
    · cases due
      simp only [← UInt64.not_le, ite_not]

/-- Time that passes without a timer coming due makes no difference to the next one. -/
theorem popDue_advanceTo (nothing : e.popDue first = (none, e))
    (due : e.popDue deadline = (some t, e')) :
    (e.advanceTo first).popDue deadline = (some t, e') := by
  have late : first < t.key.due := by
    rw [popDue_some_earlier due] at nothing
    split at nothing
    · cases nothing
    · next late => exact UInt64.not_le.1 late
  have clock : max (max e.now first) t.key.due = max e.now t.key.due := by
    have reached : first ≤ t.key.due := UInt64.le_of_lt late
    simp only [UInt64.max_def]
    grind
  obtain ⟨timers, early, -, -⟩ := popDue_some due
  have advanced : (e.advanceTo first).timers = t :: e'.timers := timers
  rw [popDue_cons timers early] at due
  rw [popDue_cons advanced early, ← due]
  simp only [advanceTo, clock]

end EventLoop

/-- A call into the guest that is made while time passes, and the bridge as it begins. -/
inductive LoopCall (σ : Type)
  | task (run : TaskRun σ)
  | timer (firing : Firing σ)
  | destructor (attempt : Attempt σ)

/-- A destructor that leaves no microtask where there was none. -/
def LoopCall.Quiet : LoopCall σ → Prop
  | .destructor attempt =>
    attempt.begun.microtasks = [] → (attempt.perform callGuest).2.microtasks = []
  | _ => True

namespace Bridge

def advanced (b : Bridge σ) (deadline : UInt64) : Bridge σ :=
  b.withEvents (b.host.realm.events.advanceTo deadline)

/-- The calls of a run of the microtasks: the tasks, and then the destructors that are due. -/
def microtaskCalls (b : Bridge σ) : List (LoopCall σ) :=
  b.taskRuns.map .task ++
    match (runMicrotasksWithin b.limits.turns).perform b with
    | (.ok _, last) => last.destructions.map .destructor
    | (.error _, _) => []

def turnCalls (b : Bridge σ) (timer : Timer) : List (LoopCall σ) :=
  .timer ⟨timer, b⟩ ::
    match (fire timer).perform b with
    | (.ok _, after) => after.microtaskCalls
    | (.error _, _) => []

def callsBy (deadline : UInt64) : Nat → Bridge σ → List (LoopCall σ)
  | 0, _ => []
  | turns + 1, b =>
    match b.host.realm.events.popDue deadline with
    | (none, _) => []
    | (some timer, e) =>
      (b.withEvents e).turnCalls timer ++
        match (turn timer).perform (b.withEvents e) with
        | (.ok _, after) => after.callsBy deadline turns
        | (.error _, _) => []

def calls (b : Bridge σ) (milliseconds : Nat) : List (LoopCall σ) :=
  b.microtaskCalls ++
    match runMicrotasks.perform b with
    | (.ok _, after) => after.callsBy (b.deadline milliseconds) b.limits.turns
    | (.error _, _) => []

end Bridge

/-- Timers fire until none is due by the deadline, with all the calls that are made. -/
inductive Fires (deadline : UInt64) :
    Nat → Bridge σ → Nat → Bridge σ → List (LoopCall σ) → Prop
  | done {turns : Nat} {b : Bridge σ} {e : EventLoop}
      (none : b.host.realm.events.popDue deadline = (none, e)) : Fires deadline (turns + 1) b 0 b []
  | next {turns n : Nat} {b b₁ b' : Bridge σ} {timer : Timer} {e : EventLoop}
      {later : List (LoopCall σ)} (due : b.host.realm.events.popDue deadline = (some timer, e))
      (turned : (turn timer).perform (b.withEvents e) = (.ok (), b₁))
      (onward : Fires deadline turns b₁ n b' later) :
      Fires deadline (turns + 1) b (n + 1) b' ((b.withEvents e).turnCalls timer ++ later)

namespace Fires

variable {deadline : UInt64} {turns n : Nat} {b b' : Bridge σ} {calls : List (LoopCall σ)}

theorem of_ok (done : (fireDue deadline turns).perform b = (.ok n, b')) :
    Fires deadline turns b n b' (b.callsBy deadline turns) := by
  induction turns generalizing b n with
  | zero => cases done
  | succ turns ih =>
    rcases due : b.host.realm.events.popDue deadline with ⟨_ | timer, e⟩
    · rw [perform_fireDue_none due] at done
      cases done
      simp only [Bridge.callsBy, due]
      exact .done due
    · rw [perform_fireDue_some due] at done
      obtain ⟨_, b₁, turned, rest⟩ := Action.bind_eq_ok done
      obtain ⟨m, last, ran, finished⟩ := Action.bind_eq_ok rest
      cases finished
      simp only [Bridge.callsBy, due, turned]
      exact .next due turned (ih ran)

theorem ok (fires : Fires deadline turns b n b' calls) :
    (fireDue deadline turns).perform b = (.ok n, b') ∧ b.callsBy deadline turns = calls := by
  induction fires with
  | done none => exact ⟨perform_fireDue_none none _, by simp only [Bridge.callsBy, none]⟩
  | next due turned onward ih =>
    obtain ⟨ran, called⟩ := ih
    constructor
    · rw [perform_fireDue_some due, Action.perform_bind_ok _ _ turned,
        Action.perform_bind_ok _ _ ran]
      rfl
    · simp only [Bridge.callsBy, due, turned, called]

theorem spare (fires : Fires deadline turns b n b' calls) :
    Fires deadline (turns + 1) b n b' calls := by
  induction fires with
  | done none => exact .done none
  | next due turned _ ih => exact .next due turned ih

/-- When no timer is left to fire, the next one is due after the deadline. -/
theorem ended (fires : Fires deadline turns b n b' calls) :
    b'.host.realm.events.popDue deadline = (none, b'.host.realm.events) := by
  induction fires with
  | done nothing =>
    obtain rfl := EventLoop.popDue_none nothing
    exact nothing
  | next _ _ _ ih => exact ih

/-- Those that fire by an earlier deadline come first. -/
theorem split {first : UInt64} (earlier : first ≤ deadline)
    (fires : Fires deadline turns b n b' calls) :
    ∃ n₁ n₂ b₁ before after, Fires first turns b n₁ b₁ before ∧
      Fires deadline turns b₁ n₂ b' after ∧ n₁ + n₂ = n ∧ before ++ after = calls := by
  induction fires with
  | @done turns b e nothing =>
    have before := EventLoop.popDue_none_earlier earlier nothing
    exact ⟨0, 0, b, [], [], .done before, .done nothing, rfl, rfl⟩
  | @next turns n b b₁ b' timer e later due turned onward ih =>
    have before := EventLoop.popDue_some_earlier due first
    split at before
    · obtain ⟨n₁, n₂, m, early, late, fired, others, count, called⟩ := ih
      refine ⟨n₁ + 1, n₂, m, _, late, .next before turned fired, others.spare, by omega, ?_⟩
      rw [List.append_assoc, called]
    · exact ⟨0, n + 1, b, [], _, .done before, .next due turned onward, by omega, rfl⟩

/-- Moving the clock on before the next timer fires makes no difference to what follows. -/
theorem advance {first : UInt64} (earlier : first ≤ deadline)
    (nothing : b.host.realm.events.popDue first = (none, b.host.realm.events))
    (fires : Fires deadline turns b n b' calls) :
    ∃ last, Fires deadline turns (b.advanced first) n last calls ∧
      last.advanced deadline = b'.advanced deadline := by
  cases fires with
  | done none =>
    obtain rfl := EventLoop.popDue_none none
    refine ⟨b.advanced first, .done (EventLoop.popDue_advanceTo_none none first), ?_⟩
    exact congrArg b.withEvents (EventLoop.advanceTo_advanceTo _ earlier)
  | next due turned onward =>
    refine ⟨b', .next (EventLoop.popDue_advanceTo nothing due) turned onward, rfl⟩

theorem turns_ne_zero (fires : Fires deadline turns b n b' calls) : turns ≠ 0 := by
  cases fires <;> exact Nat.succ_ne_zero _

theorem limits (fires : Fires deadline turns b n b' calls) : b'.limits = b.limits := by
  induction fires with
  | done none => rfl
  | @next turns n b b₁ b' timer e later due turned onward ih =>
    have rounds : Rounds (b.withEvents e) b₁ := (rounds_turn timer).ended turned
    exact ih.trans rounds.limits

end Fires

structure Bridge.Idle (b : Bridge σ) : Prop where
  microtasks : b.microtasks = []
  finalizers : b.finalizers = []

/-- A run of the microtasks leaves nothing to do, if the destructors after it are quiet. -/
theorem idle_runMicrotasks {n : Nat} {b b' : Bridge σ}
    (done : runMicrotasks.perform b = (.ok n, b')) (quiet : ∀ c ∈ b.microtaskCalls, c.Quiet) :
    b'.Idle := by
  obtain ⟨last, tasks, rests⟩ := rests_runMicrotasks done
  refine ⟨rests.emptied fun attempt inside => quiet (.destructor attempt) ?_,
    clears_runMicrotasks b n b' done⟩
  unfold Bridge.microtaskCalls
  rw [tasks]
  exact List.mem_append_right _ (List.mem_map_of_mem inside)

theorem idle_turn {timer : Timer} {b b' : Bridge σ}
    (turned : (turn timer).perform b = (.ok (), b')) (quiet : ∀ c ∈ b.turnCalls timer, c.Quiet) :
    b'.Idle := by
  obtain ⟨_, after, fired, rest⟩ := Action.bind_eq_ok turned
  obtain ⟨n, last, ran, finished⟩ := Action.bind_eq_ok rest
  cases finished
  refine idle_runMicrotasks ran fun c inside => quiet c ?_
  unfold Bridge.turnCalls
  rw [fired]
  exact List.mem_cons_of_mem _ inside

theorem Fires.idle {deadline : UInt64} {turns n : Nat} {b b' : Bridge σ}
    {calls : List (LoopCall σ)} (fires : Fires deadline turns b n b' calls) (idle : b.Idle)
    (quiet : ∀ c ∈ calls, c.Quiet) : b'.Idle := by
  induction fires with
  | done none => exact idle
  | next due turned onward ih =>
    exact ih (idle_turn turned fun c inside => quiet c (List.mem_append_left _ inside))
      fun c inside => quiet c (List.mem_append_right _ inside)

theorem Bridge.Idle.rests {b : Bridge σ} (idle : b.Idle) (turns : b.limits.turns ≠ 0) :
    runMicrotasks.perform b = (.ok 0, b) ∧ b.microtaskCalls = [] := by
  obtain ⟨others, more⟩ := Nat.exists_eq_succ_of_ne_zero turns
  have tasks : (runMicrotasksWithin b.limits.turns).perform b = (.ok 0, b) := by
    rw [more]
    exact perform_runMicrotasksWithin_nil idle.microtasks others
  have drained : drain.perform b = (.ok 0, b) := by
    rw [perform_drain, idle.finalizers]
    rfl
  constructor
  · rw [perform_runMicrotasks tasks]
    simp only [Action.perform_bind, Action.perform_conclude, drained, Action.perform_pure]
  · have none : b.taskRuns = [] := by
      unfold Bridge.taskRuns
      rw [more]
      simp only [Bridge.taskRunsWithin, idle.microtasks]
    have undestroyed : b.destructions = [] :=
      List.length_eq_zero_iff.1 (handedOn_drain drained).1.symm
    simp only [Bridge.microtaskCalls, none, tasks, undestroyed, List.map_nil, List.append_nil]

theorem runTimers_ok {milliseconds n : Nat} {b b' : Bridge σ} :
    (runTimers milliseconds).perform b = (.ok n, b') ↔
      ∃ ran b₁ last, runMicrotasks.perform b = (.ok ran, b₁) ∧
        (fireDue (b.deadline milliseconds) b.limits.turns).perform b₁ = (.ok n, last) ∧
        b' = last.advanced (b.deadline milliseconds) := by
  rw [perform_runTimers]
  constructor
  · intro done
    rcases cleared : runMicrotasks.perform b with ⟨fault | ran, b₁⟩ <;> rw [cleared] at done
    · cases done
    · rcases fired : (fireDue (b.deadline milliseconds) b.limits.turns).perform b₁ with
        ⟨fault | m, last⟩ <;>
        simp only [Bridge.deadline] at fired done <;> rw [fired] at done <;> cases done
      exact ⟨ran, b₁, last, rfl, fired, rfl⟩
  · rintro ⟨ran, b₁, last, cleared, fired, rfl⟩
    rw [cleared]
    simp only [Bridge.deadline] at fired ⊢
    rw [fired]
    rfl

section

variable {registry : Registry} (timely : ∀ c ∈ registry.entries, c.Timely)

include timely

/-- The clock never passes the deadline while timers fire. -/
theorem Fires.clock {deadline : UInt64} {turns n : Nat} {b b' : Bridge σ}
    {calls : List (LoopCall σ)} (fires : Fires deadline turns b n b' calls)
    (attended : b.Attended registry) (within : b.clock ≤ deadline) : b'.clock ≤ deadline := by
  induction fires with
  | done none => exact within
  | @next turns n b b₁ b' timer e later due turned onward ih =>
    obtain ⟨begun, onTime⟩ := attended.fires timely (f := ⟨timer, b.withEvents e⟩) due rfl
    have rounds : Rounds (b.withEvents e) b₁ := (rounds_turn timer).ended turned
    have still : b₁.clock = timer.key.due := (rounds.still timely begun).trans onTime.before
    exact ih (rounds.attends timely begun) (still ▸ (EventLoop.popDue_some due).2.1)

end

theorem Bridge.deadline_add {b b₁ : Bridge σ} {first : Nat}
    (clock : b₁.clock = b.deadline first) (second : Nat) :
    b₁.deadline second = b.deadline (first + second) := by
  have now : b₁.clock.toNat = min (b.clock.toNat + first) (UInt64.size - 1) := by
    rw [clock]
    exact EventLoop.toNat_deadlineAfter _ _
  have late : (b₁.deadline second).toNat = min (b₁.clock.toNat + second) (UInt64.size - 1) :=
    EventLoop.toNat_deadlineAfter _ _
  have whole : (b.deadline (first + second)).toNat =
      min (b.clock.toNat + (first + second)) (UInt64.size - 1) := EventLoop.toNat_deadlineAfter _ _
  refine UInt64.toNat_inj.1 ?_
  omega

theorem Bridge.deadline_mono (b : Bridge σ) {first second : Nat} (shorter : first ≤ second) :
    b.deadline first ≤ b.deadline second := by
  rw [UInt64.le_iff_toNat_le, Bridge.deadline, Bridge.deadline, EventLoop.toNat_deadlineAfter,
    EventLoop.toNat_deadlineAfter]
  omega

/-- Two portions of time come to the same as all of it at once: the same calls into the guest, each
of them in the same state, and the same bridge in the end. -/
theorem time_passes_in_portions {registry : Registry} {b : Bridge σ}
    (reachable : b.Reachable registry) (timely : ∀ c ∈ registry.entries, c.Timely)
    (first second : Nat) {n : Nat} {b' : Bridge σ}
    (whole : (runTimers (first + second)).perform b = (.ok n, b'))
    (quiet : ∀ c ∈ b.calls (first + second), c.Quiet) :
    ∃ n₁ n₂ b₁, (runTimers first).perform b = (.ok n₁, b₁) ∧
      (runTimers second).perform b₁ = (.ok n₂, b') ∧ n₁ + n₂ = n ∧
      b.calls first ++ b₁.calls second = b.calls (first + second) := by
  obtain ⟨ran, begun, last, cleared, fired, rfl⟩ := runTimers_ok.1 whole
  have rounds : Rounds b begun := rounds_runMicrotasks.ended cleared
  have attended : b.Attended registry := Bridge.Reachable.attended timely reachable
  have here : begun.Attended registry := rounds.attends timely attended
  have earlier : b.deadline first ≤ b.deadline (first + second) :=
    b.deadline_mono (Nat.le_add_right first second)
  -- The whole is cut where the first timer fires that is due after the first portion.
  obtain ⟨n₁, n₂, middle, before, after, early, late, count, called⟩ :=
    (Fires.of_ok fired).split earlier
  have calls (milliseconds : Nat) : b.calls milliseconds = b.microtaskCalls ++
      begun.callsBy (b.deadline milliseconds) b.limits.turns := by
    simp only [Bridge.calls, cleared]
  rw [calls, ← called] at quiet
  have idle : middle.Idle :=
    early.idle (idle_runMicrotasks cleared fun c inside => quiet c (List.mem_append_left _ inside))
      fun c inside => quiet c (List.mem_append_right _ (List.mem_append_left _ inside))
  -- In between, the clock is moved on, and there is nothing else to do.
  obtain ⟨last', onward, same⟩ := late.advance earlier early.ended
  have limits : (middle.advanced (b.deadline first)).limits = b.limits :=
    early.limits.trans rounds.limits
  have clock : (middle.advanced (b.deadline first)).clock = b.deadline first := by
    have start : begun.clock ≤ b.deadline first := by
      rw [show begun.clock = b.clock from rounds.still timely attended]
      exact EventLoop.le_later _ _
    exact if_pos (early.clock timely here start)
  have deadline := Bridge.deadline_add clock second
  obtain ⟨rested, none⟩ := Bridge.Idle.rests (b := middle.advanced (b.deadline first))
    ⟨idle.microtasks, idle.finalizers⟩ (limits ▸ early.turns_ne_zero)
  refine ⟨n₁, n₂, middle.advanced (b.deadline first), ?_, ?_, count, ?_⟩
  · exact runTimers_ok.2 ⟨ran, begun, middle, cleared, early.ok.1, rfl⟩
  · refine runTimers_ok.2 ⟨0, _, last', rested, ?_, ?_⟩
    · rw [deadline, limits]
      exact onward.ok.1
    · rw [deadline, same]
  · rw [calls, calls, ← called, early.ok.2, Bridge.calls, rested, none]
    simp only [deadline, limits, onward.ok.2, List.nil_append, List.append_assoc]

namespace Waking

/-- A host function that has a closure called five milliseconds later. -/
def wake : Capability where
  name := "wake"
  params := [.handle]
  result := .unit
  fallible := true
  call args := do
    let callback ← Host.Scheduling.functionArgument args 0
    HostCall.changeRealm fun r =>
      { r.hold (.function callback) with events := (r.events.setTimeout callback 5).2 }
    return .undefined

/-- A guest that has a closure woken, which has another one woken in its turn. Each is destroyed
when it has been called. -/
def guest : GuestModule Unit :=
  let hand (data : UInt32) (next : Code Unit (List Core)) : Code Unit (List Core) :=
    .call 0 [.word 0, .word 1, .word data, .word 0] fun made =>
      .call 2 made fun _ => .call 1 made fun _ => next
  let entry : GuestFunction Unit := ⟨closureType, fun args =>
    if args.head? = some (.word 1) then hand 0 (.yield [.word 0]) else .yield [.word 0]⟩
  let quiet : GuestFunction Unit := ⟨destructorType, fun _ => .yield []⟩
  { imports := [
      ⟨"__bridge", "closure_new", .func, some Intrinsic.closureNew.signature⟩,
      ⟨"__bridge", "object_drop_ref", .func, some Intrinsic.objectDropRef.signature⟩,
      ⟨"host", "wake", .func, some wake.signature⟩]
    exports := [
      ("memory", .memory 1 1),
      ("__indirect_function_table", .table [some entry, some quiet]),
      ("__bridge_malloc", .func ⟨⟨[.i32, .i32], [.i32]⟩, fun _ => .yield [.word 0]⟩),
      ("__bridge_exn_store", .func ⟨⟨[.i32], []⟩, fun _ => .yield []⟩),
      ("__bridge_start", .func ⟨⟨[], []⟩, fun _ => hand 1 (.yield [])⟩)]
    data := []
    onCreation := none
    initial := () }

def host : Registry := ⟨[wake]⟩

def started : Bridge Unit := (Bridge.create {} host ()).after (.start (.module guest))

theorem timely : ∀ c ∈ host.entries, c.Timely := by
  have serves : wake.Serves := fun args =>
    .bind (Host.Scheduling.along_functionArgument args 0) fun callback =>
      .bind (HostCall.along_timed fun r => .setTimeout r.events callback 5) fun _ => .pure _
  exact List.forall_mem_singleton.2 serves.timely

theorem fires_two : ((runTimers (6 + 4)).perform started).1 = .ok 2 := by cbv

theorem quiet : ∀ c ∈ started.calls (6 + 4), c.Quiet := by
  have checked : (started.calls (6 + 4)).all (fun
      | .destructor attempt => (attempt.perform callGuest).2.microtasks.isEmpty
      | _ => true) = true := by cbv
  intro c inside
  have here := List.all_eq_true.1 checked c inside
  cases c with
  | destructor attempt => exact fun _ => List.isEmpty_iff.1 here
  | _ => trivial

end Waking

/-- The first closure is called in the first portion and the other one in the second. -/
theorem time_passes_in_portions_waking :
    let b := Waking.started
    b.Reachable Waking.host ∧ (∀ c ∈ Waking.host.entries, c.Timely) ∧
      ∃ b', (runTimers (6 + 4)).perform b = (.ok 2, b') ∧ (∀ c ∈ b.calls (6 + 4), c.Quiet) ∧
        ∃ n₁ n₂ b₁, (runTimers 6).perform b = (.ok n₁, b₁) ∧
          (runTimers 4).perform b₁ = (.ok n₂, b') ∧ n₁ + n₂ = 2 ∧
          b.calls 6 ++ b₁.calls 4 = b.calls (6 + 4) := by
  intro b
  have reachable : b.Reachable Waking.host := .asked _ (.created {} ())
  have outcome : ((runTimers (6 + 4)).perform b).1 = .ok 2 := Waking.fires_two
  rcases whole : (runTimers (6 + 4)).perform b with ⟨result, b'⟩
  rw [whole] at outcome
  obtain rfl : result = .ok 2 := outcome
  exact ⟨reachable, Waking.timely, b', rfl, Waking.quiet,
    time_passes_in_portions reachable Waking.timely 6 4 whole Waking.quiet⟩

end GuestBridge

import GuestBridge.Proofs.Microtasks
/-!
Microtasks run in the order in which they were queued, each of them once, and those that are queued
meanwhile run after all others. A task that settles a promise ends well in any case, for a failure
becomes that of the promise. Any other failure ends the run, and all the tasks behind it wait for
the next one.
-/

set_option autoImplicit false

namespace GuestBridge

variable {σ : Type}

open GuestBridge.Action (Along)
open BridgeAction

/-- Guest code queues microtasks behind those that wait, if host functions do nothing else. -/
theorem Passage.microtasks {b b' : Bridge σ} (passage : Passage b b')
    (orderly : ∀ c ∈ b.capabilities, c.Orderly) : b.microtasks <+: b'.microtasks := by
  induction passage with
  | aside alike => exact alike.tasks
  | @visit b b₁ b' c args alike linked bound onward ih =>
    have here : ∀ c ∈ b₁.capabilities, c.Orderly := alike.capabilities ▸ orderly
    have visited : b₁.microtasks <+: (b₁.visited c args).microtasks := here c linked args b₁.host
    exact (alike.tasks.trans visited).trans (ih here)

namespace Bridge

def withMicrotasks (b : Bridge σ) (tasks : List Microtask) : Bridge σ :=
  b.withEvents { b.host.realm.events with microtasks := tasks }

def withRealm (b : Bridge σ) (f : Realm → Realm) : Bridge σ :=
  { b with host := { b.host with realm := f b.host.realm } }

end Bridge

namespace BridgeAction

def callTask (task : Microtask) : BridgeAction σ Value := do
  let _ ← bound
  invokeClosure callGuest task.callback task.argument

theorem perform_runMicrotasksWithin_nil {b : Bridge σ} (none : b.microtasks = []) (turns : Nat) :
    (runMicrotasksWithin (turns + 1)).perform b = (.ok 0, b) := by
  change b.host.realm.events.microtasks = [] at none
  simp only [runMicrotasksWithin, Action.perform_bind, perform_inRealm, EventLoop.popMicrotask,
    none, Action.perform_pure]

theorem perform_runMicrotasksWithin_cons {b : Bridge σ} {task : Microtask} {rest : List Microtask}
    (queue : b.microtasks = task :: rest) (turns : Nat) :
    (runMicrotasksWithin (turns + 1)).perform b = (do
      runMicrotask task
      return (← runMicrotasksWithin turns) + 1 : BridgeAction σ Nat).perform
        (b.withMicrotasks rest) := by
  change b.host.realm.events.microtasks = task :: rest at queue
  simp only [runMicrotasksWithin, Action.perform_bind, perform_inRealm, EventLoop.popMicrotask,
    queue, Bridge.withMicrotasks, Bridge.withEvents]

theorem perform_runMicrotasks {b last : Bridge σ} {tasks : Except Fault Nat}
    (ran : (runMicrotasksWithin b.limits.turns).perform b = (tasks, last)) :
    runMicrotasks.perform b =
      (do
        let n ← Action.conclude tasks
        let _ ← drain
        return n : BridgeAction σ Nat).perform last := by
  simp only [runMicrotasks, Action.perform_bind, Action.perform_get, ran, Action.perform_conclude]

end BridgeAction

/-- A microtask that runs, and the bridge as it begins. -/
structure TaskRun (σ : Type) where
  task : Microtask
  begun : Bridge σ

namespace TaskRun

variable (run : TaskRun σ)

def called : Except Fault Value × Bridge σ := (callTask run.task).perform run.begun

def ended : Except Fault Unit × Bridge σ := (runMicrotask run.task).perform run.begun

def after : Bridge σ := run.ended.2

def queued : List Microtask := run.after.microtasks.drop run.begun.microtasks.length

/-- What becomes of a task by what its closure comes to. A guest that ran for too long is stopped
for good. -/
structure Settled : Prop where
  resolved : ∀ p v, run.task.settles = some p → run.called.1 = .ok v →
    run.ended = (.ok (), run.called.2.withRealm fun r =>
      ((r.resolve p v).letGo (.promise p)).letGo (.function run.task.callback))
  rejected : ∀ p fault, run.task.settles = some p → run.called.1 = .error fault →
    fault ≠ .exhausted → run.ended = (.ok (), run.called.2.withRealm fun r =>
      ((r.reject p (.general fault.message)).letGo (.promise p)).letGo
        (.function run.task.callback))
  completed : ∀ v, run.task.settles = none → run.called.1 = .ok v →
    run.ended = (.ok (), run.called.2.withRealm fun r =>
      (r.letGo v).letGo (.function run.task.callback))
  failed : ∀ fault, run.task.settles = none → run.called.1 = .error fault →
    run.ended.1 = .error fault
  exhausted : run.called.1 = .error .exhausted → run.ended.1 = .error .exhausted
  /-- The tasks that wait stay as they are, and more may follow them. -/
  waiting : run.after.microtasks = run.begun.microtasks ++ run.queued

end TaskRun

theorem TaskRun.settled {run : TaskRun σ} (orderly : ∀ c ∈ run.begun.capabilities, c.Orderly) :
    run.Settled := by
  rcases known : run.called with ⟨outcome, after⟩
  have called : (callTask run.task).perform run.begun = (outcome, after) := known
  have performed : run.ended = (runMicrotask run.task).perform run.begun := rfl
  unfold callTask at called
  rw [runMicrotask, Action.perform_bind, Action.perform_attempt, called] at performed
  constructor
  case resolved =>
    rintro p v settles ok
    obtain rfl : outcome = .ok v := by rw [known] at ok; exact ok
    rw [performed, known]
    simp only [settles]
    rfl
  case rejected =>
    intro p fault settles failed going
    obtain rfl : outcome = .error fault := by rw [known] at failed; exact failed
    rw [performed, known]
    simp only [settles]
    rfl
  case completed =>
    intro v settles ok
    obtain rfl : outcome = .ok v := by rw [known] at ok; exact ok
    rw [performed, known]
    simp only [settles]
    rfl
  case failed =>
    intro fault settles failed
    obtain rfl : outcome = .error fault := by rw [known] at failed; exact failed
    rw [performed]
    cases fault <;> simp only [settles] <;> rfl
  case exhausted =>
    intro failed
    obtain rfl : outcome = .error .exhausted := by rw [known] at failed; exact failed
    rw [performed]
    cases settles : run.task.settles <;> rfl
  case waiting =>
    have grows : run.begun.microtasks <+: run.after.microtasks :=
      (leads_runMicrotask run.task run.begun).microtasks orderly
    exact (List.prefix_iff_eq_append.1 grows).symm

/-- A task that settles a promise fails only when the guest is stopped for good. -/
theorem TaskRun.Settled.fault_of_error {run : TaskRun σ} (settled : run.Settled) {fault : Fault}
    (error : run.ended.1 = .error fault) :
    run.called.1 = .error fault ∧ (run.task.settles = none ∨ fault = .exhausted) := by
  rcases promise : run.task.settles with _ | p <;> rcases known : run.called.1 with cause | v
  · rw [settled.failed cause promise known] at error
    cases error
    exact ⟨rfl, .inl rfl⟩
  · rw [settled.completed v promise known] at error
    cases error
  · by_cases stopped : cause = .exhausted
    · subst stopped
      rw [settled.exhausted known] at error
      cases error
      exact ⟨rfl, .inr rfl⟩
    · rw [settled.rejected p cause promise known stopped] at error
      cases error
  · rw [settled.resolved p v promise known] at error
    cases error

/-- Tasks are taken from the front of the queue and run, one after the other, as long as none
fails. -/
inductive Worked : Bridge σ → List (TaskRun σ) → Bridge σ → Prop
  | done (b : Bridge σ) : Worked b [] b
  | next {b last : Bridge σ} {task : Microtask} {rest : List Microtask} {run : TaskRun σ}
      {later : List (TaskRun σ)} (queue : b.microtasks = task :: rest)
      (begun : run = ⟨task, b.withMicrotasks rest⟩) (going : later ≠ [] → run.ended.1 = .ok ())
      (onward : Worked run.after later last) : Worked b (run :: later) last

/-- No task is lost, and none overtakes another. -/
theorem Worked.order {b last : Bridge σ} {runs : List (TaskRun σ)} (worked : Worked b runs last)
    (settled : ∀ run ∈ runs, run.Settled) :
    runs.map (·.task) ++ last.microtasks = b.microtasks ++ runs.flatMap (·.queued) := by
  induction worked with
  | done b => simp
  | @next b last task rest run later queue begun going onward ih =>
    have waiting : run.after.microtasks = rest ++ run.queued := by
      rw [(settled run List.mem_cons_self).waiting, begun]
      rfl
    have others := ih fun run' inside => settled run' (List.mem_cons_of_mem _ inside)
    calc run.task :: later.map (·.task) ++ last.microtasks
        = task :: (run.after.microtasks ++ later.flatMap (·.queued)) := by
          rw [List.cons_append, others, begun]
      _ = b.microtasks ++ (run :: later).flatMap (·.queued) := by
          rw [waiting, queue, List.flatMap_cons, List.cons_append, List.append_assoc]

inductive TasksEnd (turns : Nat) (runs : List (TaskRun σ)) (last : Bridge σ) :
    Except Fault Nat → Prop
  | cleared (none : last.microtasks = []) : TasksEnd turns runs last (.ok runs.length)
  /-- A task that settles no promise has failed. -/
  | failed {run : TaskRun σ} {fault : Fault} (final : runs.getLast? = some run)
      (unanswered : run.task.settles = none) (error : run.called.1 = .error fault) :
      TasksEnd turns runs last (.error fault)
  | stopped {run : TaskRun σ} (final : runs.getLast? = some run)
      (error : run.called.1 = .error .exhausted) : TasksEnd turns runs last (.error .exhausted)
  | spent (all : runs.length = turns) : TasksEnd turns runs last (.error .exhausted)

theorem TasksEnd.cons {turns : Nat} {runs : List (TaskRun σ)} {last : Bridge σ}
    {outcome : Except Fault Nat} (ended : TasksEnd turns runs last outcome) (run : TaskRun σ) :
    TasksEnd (turns + 1) (run :: runs) last (outcome.map (· + 1)) := by
  have final {r : TaskRun σ} (final : runs.getLast? = some r) :
      (run :: runs).getLast? = some r := by
    rw [List.getLast?_cons, final]
    rfl
  cases ended with
  | cleared none => exact .cleared none
  | failed last unanswered error => exact .failed (final last) unanswered error
  | stopped last error => exact .stopped (final last) error
  | spent all => exact .spent (congrArg (· + 1) all)

namespace Bridge

def taskRunsWithin : Nat → Bridge σ → List (TaskRun σ)
  | 0, _ => []
  | turns + 1, b =>
    match b.microtasks with
    | [] => []
    | task :: rest =>
      let run : TaskRun σ := ⟨task, b.withMicrotasks rest⟩
      run ::
        match run.ended.1 with
        | .ok _ => run.after.taskRunsWithin turns
        | .error _ => []

end Bridge

section

variable {b : Bridge σ} {task : Microtask} {rest : List Microtask} {run : TaskRun σ}
  (queue : b.microtasks = task :: rest) (begun : run = ⟨task, b.withMicrotasks rest⟩)

include queue begun

theorem runMicrotasksWithin_failed {fault : Fault} (error : run.ended.1 = .error fault)
    (turns : Nat) : b.taskRunsWithin (turns + 1) = [run] ∧
      (runMicrotasksWithin (turns + 1)).perform b = (.error fault, run.after) := by
  subst begun
  constructor
  · simp only [Bridge.taskRunsWithin, queue, error]
  · rw [perform_runMicrotasksWithin_cons queue, Action.perform_bind]
    rcases performed : (runMicrotask task).perform (b.withMicrotasks rest) with ⟨outcome, after⟩
    simp only [TaskRun.after, TaskRun.ended, performed] at error ⊢
    rw [error]

theorem runMicrotasksWithin_next (ok : run.ended.1 = .ok ()) (turns : Nat) :
    b.taskRunsWithin (turns + 1) = run :: run.after.taskRunsWithin turns ∧
      (runMicrotasksWithin (turns + 1)).perform b =
        (((runMicrotasksWithin turns).perform run.after).1.map (· + 1),
          ((runMicrotasksWithin turns).perform run.after).2) := by
  subst begun
  constructor
  · simp only [Bridge.taskRunsWithin, queue, ok]
  · rw [perform_runMicrotasksWithin_cons queue, Action.perform_bind]
    rcases performed : (runMicrotask task).perform (b.withMicrotasks rest) with ⟨outcome, after⟩
    simp only [TaskRun.after, TaskRun.ended, performed] at ok ⊢
    rw [ok]
    dsimp only
    rw [Action.perform_bind]
    rcases (runMicrotasksWithin turns).perform after with ⟨fault | n, last⟩ <;> rfl

end

theorem runMicrotasksWithin_worked (turns : Nat) (b : Bridge σ)
    (orderly : ∀ c ∈ b.capabilities, c.Orderly) :
    let runs := b.taskRunsWithin turns
    let ran := (runMicrotasksWithin turns).perform b
    Worked b runs ran.2 ∧ (∀ run ∈ runs, run.Settled) ∧ TasksEnd turns runs ran.2 ran.1 := by
  induction turns generalizing b with
  | zero => exact ⟨.done b, fun _ inside => absurd inside List.not_mem_nil, .spent rfl⟩
  | succ turns ih =>
    rcases queue : b.microtasks with _ | ⟨task, rest⟩
    · simp only [perform_runMicrotasksWithin_nil queue, Bridge.taskRunsWithin, queue]
      exact ⟨.done b, fun _ inside => absurd inside List.not_mem_nil, .cleared queue⟩
    · obtain ⟨run, begun⟩ : ∃ run : TaskRun σ, run = ⟨task, b.withMicrotasks rest⟩ := ⟨_, rfl⟩
      have settled : run.Settled := TaskRun.settled (by rw [begun]; exact orderly)
      rcases ended : run.ended.1 with fault | ⟨⟩
      · obtain ⟨runs, ran⟩ := runMicrotasksWithin_failed queue begun ended turns
        rw [runs, ran]
        refine ⟨.next queue begun (absurd rfl) (.done _), List.forall_mem_singleton.2 settled, ?_⟩
        obtain ⟨error, unanswered | rfl⟩ := settled.fault_of_error ended
        · exact .failed rfl unanswered error
        · exact .stopped rfl error
      · obtain ⟨runs, ran⟩ := runMicrotasksWithin_next queue begun ended turns
        have wired : run.after.capabilities = b.capabilities := by
          have passage : Passage run.begun run.after := leads_runMicrotask run.task run.begun
          rw [passage.wired.2.1, begun]
          rfl
        obtain ⟨worked, others, last⟩ := ih run.after (wired ▸ orderly)
        rw [runs, ran]
        exact ⟨.next queue begun (fun _ => ended) worked, List.forall_mem_cons.2 ⟨settled, others⟩,
          last.cons run⟩

def Bridge.taskRuns (b : Bridge σ) : List (TaskRun σ) := b.taskRunsWithin b.limits.turns

/-- A run of the microtasks from its beginning to its end, where `last` is the bridge after the
last task and `tasks` what the tasks have come to. -/
structure Bridge.WorksOff (b last : Bridge σ) (tasks outcome : Except Fault Nat)
    (after : Bridge σ) : Prop where
  worked : Worked b b.taskRuns last
  settled : ∀ run ∈ b.taskRuns, run.Settled
  /-- The tasks that run and those that are left are those that waited, and after them those that
  were queued, in this order. -/
  order : b.taskRuns.map (·.task) ++ last.microtasks =
    b.microtasks ++ b.taskRuns.flatMap (·.queued)
  ended : TasksEnd b.limits.turns b.taskRuns last tasks
  /-- When all have run, the destructors are called that have become due. -/
  drained : ∀ n, tasks = .ok n →
    drain.perform last = ((drain.perform last).1, after) ∧
      outcome = (drain.perform last).1.map fun _ => n
  left : ∀ fault, tasks = .error fault → outcome = .error fault ∧ after = last

/-- Whatever the tasks do: they run in the order in which they were queued and once each, a failure
becomes that of the promise if there is one, and otherwise it leaves the tasks behind it waiting
in their order. -/
theorem microtasks_run_in_order (b : Bridge σ) (orderly : ∀ c ∈ b.capabilities, c.Orderly) :
    ∃ last tasks, (runMicrotasksWithin b.limits.turns).perform b = (tasks, last) ∧
      b.WorksOff last tasks (runMicrotasks.perform b).1 (runMicrotasks.perform b).2 := by
  obtain ⟨worked, settled, ended⟩ := runMicrotasksWithin_worked b.limits.turns b orderly
  rcases ran : (runMicrotasksWithin b.limits.turns).perform b with ⟨tasks, last⟩
  rw [ran] at worked ended
  have performed := perform_runMicrotasks ran
  refine ⟨last, tasks, rfl, worked, settled, worked.order settled, ended, ?_, ?_⟩
  · rintro n rfl
    rw [performed]
    simp only [Action.perform_bind, Action.perform_conclude]
    rcases drain.perform last with ⟨fault | m, after⟩ <;> exact ⟨rfl, rfl⟩
  · rintro fault rfl
    rw [performed]
    exact ⟨rfl, rfl⟩

namespace Mixed

/-- A guest whose closures fail, or queue another one, or just return, by their data. The first of
its microtasks settles a promise; the others do not. -/
def guest : GuestModule Unit :=
  let create (data : UInt32) (next : List Core → Code Unit (List Core)) : Code Unit (List Core) :=
    .call 0 [.word 0, .word 1, .word data, .word 0] next
  let queue (data : UInt32) (next : Code Unit (List Core)) : Code Unit (List Core) :=
    create data fun made => .call 1 made fun _ => next
  let entry : GuestFunction Unit := ⟨closureType, fun args =>
    if args.head? = some (.word 1) then .trap .unreachable
    else if args.head? = some (.word 2) then queue 0 (.yield [.word 0])
    else .yield [.word 0]⟩
  let quiet : GuestFunction Unit := ⟨destructorType, fun _ => .yield []⟩
  { imports := [
      ⟨"__bridge", "closure_new", .func, some Intrinsic.closureNew.signature⟩,
      ⟨"host", "queue", .func, some ⟨[.i32], []⟩⟩,
      ⟨"host", "wrap", .func, some ⟨[.i32], [.i32]⟩⟩,
      ⟨"host", "chain", .func, some ⟨[.i32, .i32], [.i32]⟩⟩]
    exports := [
      ("memory", .memory 1 1),
      ("__indirect_function_table", .table [some entry, some quiet]),
      ("__bridge_malloc", .func ⟨⟨[.i32, .i32], [.i32]⟩, fun _ => .yield [.word 0]⟩),
      ("__bridge_exn_store", .func ⟨⟨[.i32], []⟩, fun _ => .yield []⟩),
      ("__bridge_start", .func ⟨⟨[], []⟩, fun _ =>
        .call 2 [.word 0] fun promise => create 2 fun reacting =>
          .call 3 (promise ++ reacting) fun _ => queue 2 (queue 1 (queue 0 (.yield [])))⟩)]
    data := []
    onCreation := none
    initial := () }

def host : Registry := ⟨[
  ⟨"queue", [.handle], .unit, true, Host.Scheduling.queueMicrotask⟩,
  ⟨"wrap", [.handle], .handle, false, Host.Scheduling.promiseResolve⟩,
  ⟨"chain", [.handle, .handle], .handle, true, Host.Scheduling.promiseThen⟩]⟩

def started : Bridge Unit := (Bridge.create {} host ()).after (.start (.module guest))

theorem orderly : ∀ c ∈ started.capabilities, c.Orderly := by
  have serves : ∀ c ∈ host.entries, c.Serves := by
    simp only [host, List.forall_mem_cons]
    exact ⟨Host.Scheduling.along_queueMicrotask, Host.Scheduling.along_promiseResolve,
      Host.Scheduling.along_promiseThen, nofun⟩
  have reachable : started.Reachable host := .asked _ (.created {} ())
  have attended := Bridge.Reachable.attended (fun c inside => (serves c inside).timely) reachable
  exact fun c linked => (serves c (attended.registered c linked)).orderly

theorem runs_three : started.taskRuns.map (·.task.settles) = [some 1, none, none] := by cbv

theorem leaves_three :
    (runMicrotasks.perform started).2.microtasks.map (·.callback) = [3, 4, 5] := by cbv

end Mixed

/-- The first task settles a promise, the first two queue other tasks, and the third one fails. One
task is left of those that waited, and the two that have joined them come after it. -/
theorem microtasks_run_in_order_mixed :
    let b := Mixed.started
    let ran := runMicrotasks.perform b
    b.taskRuns.map (·.task.settles) = [some 1, none, none] ∧
      ran.2.microtasks.map (·.callback) = [3, 4, 5] ∧ (∀ c ∈ b.capabilities, c.Orderly) ∧
      ∃ last tasks, (runMicrotasksWithin b.limits.turns).perform b = (tasks, last) ∧
        b.WorksOff last tasks ran.1 ran.2 :=
  ⟨Mixed.runs_three, Mixed.leaves_three, Mixed.orderly, microtasks_run_in_order _ Mixed.orderly⟩

end GuestBridge

import GuestBridge.Host.Defaults
import GuestBridge.Proofs.Finalizers.Draining
import GuestBridge.Proofs.Timers.Run
/-!
What is left on the queue of microtasks when they have been run. The tasks leave nothing, whatever
they queue themselves. The destructors that are called after them may queue more, which then waits
for the next run, while timers may fire before it.
-/

set_option autoImplicit false

namespace GuestBridge

variable {σ : Type}

open BridgeAction

namespace Bridge

/-- The tasks that are waiting. -/
def microtasks (b : Bridge σ) : List Microtask := b.host.realm.events.microtasks

end Bridge

/-- Calls of destructors one after the other, each of which begins with the microtasks that the one
before has left. -/
def HandedOn (call : GuestCaller σ) (queue : List Microtask) :
    List (Attempt σ) → List Microtask → Prop
  | [], last => last = queue
  | a :: rest, last =>
    a.begun.microtasks = queue ∧ HandedOn call (a.perform call).2.microtasks rest last

namespace HandedOn

variable {call : GuestCaller σ}

theorem append {queue middle last : List Microtask} {made more : List (Attempt σ)}
    (first : HandedOn call queue made middle) (second : HandedOn call middle more last) :
    HandedOn call queue (made ++ more) last := by
  induction made generalizing queue with
  | nil =>
    obtain rfl : middle = queue := first
    exact second
  | cons a rest ih => exact ⟨first.1, ih first.2⟩

/-- Destructors that queue nothing hand an empty queue on. -/
theorem empty {made : List (Attempt σ)} {last : List Microtask}
    (handed : HandedOn call [] made last)
    (quiet : ∀ a ∈ made, a.begun.microtasks = [] → (a.perform call).2.microtasks = []) :
    last = [] := by
  induction made with
  | nil => exact handed
  | cons a rest ih =>
    obtain ⟨begun, onward⟩ := handed
    have left := quiet a List.mem_cons_self begun
    rw [left] at onward
    exact ih onward fun a' inside => quiet a' (List.mem_cons_of_mem a inside)

end HandedOn

/-- Nothing but the calls themselves changes the queue while a batch is worked off. -/
theorem handedOn_runFinalizers (call : GuestCaller σ) {batch : List Finalizer} {n : Nat}
    {b b' : Bridge σ} (done : (runFinalizers call batch).perform b = (.ok n, b')) :
    HandedOn call b.microtasks (b.attempts call batch) b'.microtasks := by
  induction batch generalizing b n with
  | nil =>
    cases done
    rfl
  | cons f rest ih =>
    obtain ⟨_, after, destroyed, others⟩ := Action.bind_eq_ok done
    obtain ⟨m, last, ran, finished⟩ := Action.bind_eq_ok others
    cases finished
    have tried : (Attempt.mk f b).perform call = (.ok (), after) := destroyed
    have made : b.attempts call (f :: rest) = ⟨f, b⟩ :: after.attempts call rest := by
      simp only [Bridge.attempts, tried]
    rw [made]
    refine ⟨rfl, ?_⟩
    rw [tried]
    exact ih ran

theorem handedOn_drainBatches (call : GuestCaller σ) {turns n : Nat} {b b' : Bridge σ}
    (done : (drainBatches call turns).perform b = (.ok n, b')) :
    HandedOn call b.microtasks (b.drainAttempts call turns) b'.microtasks := by
  induction turns generalizing b n with
  | zero => cases done
  | succ turns ih =>
    obtain ⟨batch, relieved, taken, worked⟩ := Action.bind_eq_ok done
    obtain ⟨rfl, rfl⟩ : b.finalizers = batch ∧ b.relieved = relieved := by
      cases taken
      exact ⟨rfl, rfl⟩
    rw [Bridge.drainAttempts]
    split at worked
    · next none =>
      rw [if_pos none]
      cases worked
      rfl
    · next queued =>
      rw [if_neg queued]
      obtain ⟨m, after, ran, onward⟩ := Action.bind_eq_ok worked
      obtain ⟨k, last, rested, finished⟩ := Action.bind_eq_ok onward
      cases finished
      rw [ran]
      exact (handedOn_runFinalizers call ran).append (ih rested)

/-- The destructors that a bridge calls when it drains their queue. -/
def Bridge.destructions (b : Bridge σ) : List (Attempt σ) :=
  b.drainAttempts callGuest b.limits.turns

/-- A drain that succeeds has made all the calls that are due. -/
theorem handedOn_drain {n : Nat} {b b' : Bridge σ} (done : drain.perform b = (.ok n, b')) :
    n = b.destructions.length ∧ HandedOn callGuest b.microtasks b.destructions b'.microtasks := by
  rw [perform_drain] at done
  split at done
  · next empty =>
    have none : b.destructions = [] := by
      unfold Bridge.destructions
      rcases b.limits.turns with _ | turns <;> simp only [Bridge.drainAttempts, empty, ↓reduceIte]
    cases done
    rw [none]
    exact ⟨rfl, rfl⟩
  · split at done
    · have run := drainBatches_run callGuest b.limits.turns b
      rw [done] at run
      exact ⟨(run.completed n rfl).1, handedOn_drainBatches callGuest done⟩
    · cases done

/-- Tasks are run until there are none, those that are queued meanwhile among them. -/
theorem microtasks_runMicrotasksWithin {turns n : Nat} {b b' : Bridge σ}
    (done : (runMicrotasksWithin turns).perform b = (.ok n, b')) : b'.microtasks = [] := by
  induction turns generalizing b n with
  | zero => cases done
  | succ turns ih =>
    obtain ⟨task?, b₁, popped, rest⟩ := Action.bind_eq_ok done
    rw [perform_inRealm] at popped
    rcases queue : b.host.realm.events.microtasks with _ | ⟨task, later⟩ <;>
      simp only [EventLoop.popMicrotask, queue, Prod.mk.injEq, Except.ok.injEq] at popped <;>
      obtain ⟨rfl, rfl⟩ := popped
    · cases rest
      exact queue
    · obtain ⟨_, b₂, -, rest⟩ := Action.bind_eq_ok rest
      obtain ⟨m, b₃, ran, rest⟩ := Action.bind_eq_ok rest
      cases rest
      exact ih ran

/-- How a successful run of microtasks ends: none is left at first, and then the destructors are
called that are due. -/
structure Rests (b₁ b' : Bridge σ) : Prop where
  cleared : b₁.microtasks = []
  drained : drain.perform b₁ = (.ok b₁.destructions.length, b')
  /-- What is left in the end has been queued by destructors. -/
  handed : HandedOn callGuest [] b₁.destructions b'.microtasks
  /-- Nothing is left unless one of them queues something. -/
  emptied : (∀ a ∈ b₁.destructions,
    a.begun.microtasks = [] → (a.perform callGuest).2.microtasks = []) → b'.microtasks = []

theorem rests_runMicrotasks {n : Nat} {b b' : Bridge σ}
    (done : runMicrotasks.perform b = (.ok n, b')) :
    ∃ b₁, (runMicrotasksWithin b.limits.turns).perform b = (.ok n, b₁) ∧ Rests b₁ b' := by
  obtain ⟨_, _, looked, rest⟩ := Action.bind_eq_ok done
  cases looked
  obtain ⟨ran, b₁, tasks, rest⟩ := Action.bind_eq_ok rest
  obtain ⟨k, _, drained, rest⟩ := Action.bind_eq_ok rest
  cases rest
  have none := microtasks_runMicrotasksWithin tasks
  obtain ⟨rfl, handed⟩ := handedOn_drain drained
  rw [none] at handed
  exact ⟨b₁, tasks, none, drained, handed, handed.empty⟩

theorem EventLoop.microtasks_popDue (e : EventLoop) (deadline : UInt64) :
    (e.popDue deadline).2.microtasks = e.microtasks := by
  rcases e.popDue_cases deadline with ⟨unchanged, -⟩ | ⟨t, rest, -, -, changed⟩
  · rw [unchanged]
  · rw [changed]

/-- Timers fire one after the other. Each time the microtasks are run first, and the callback begins
with what that run has left. -/
inductive FireRested (deadline : UInt64) : Bridge σ → List (Firing σ) → Prop
  | done (b : Bridge σ) : FireRested deadline b []
  | next {b b₁ b₂ : Bridge σ} {n : Nat} {f : Firing σ} {e : EventLoop} {later : List (Firing σ)}
      (tasks : (runMicrotasksWithin b.limits.turns).perform b = (.ok n, b₁)) (rests : Rests b₁ b₂)
      (due : b₂.host.realm.events.popDue deadline = (some f.timer, e))
      (begun : f.begun = b₂.withEvents e) (left : f.begun.microtasks = b₂.microtasks)
      (onward : FireRested deadline ((fire f.timer).perform f.begun).2 later) :
      FireRested deadline b (f :: later)

theorem FireRested.cons {deadline : UInt64} {b b₁ : Bridge σ} {n : Nat} {f : Firing σ}
    {e : EventLoop} {later : List (Firing σ)} (tasks : runMicrotasks.perform b = (.ok n, b₁))
    (due : b₁.host.realm.events.popDue deadline = (some f.timer, e))
    (begun : f.begun = b₁.withEvents e)
    (onward : FireRested deadline ((fire f.timer).perform f.begun).2 later) :
    FireRested deadline b (f :: later) := by
  obtain ⟨cleared, ran, rests⟩ := rests_runMicrotasks tasks
  have same := b₁.host.realm.events.microtasks_popDue deadline
  rw [due] at same
  exact .next ran rests due begun (begun ▸ same) onward

theorem Loop.rested {deadline : UInt64} {turns : Nat} {b b' : Bridge σ} {firings : List (Firing σ)}
    {outcome : Except Fault Nat} (loop : Loop deadline turns b firings outcome b') :
    FireRested deadline b firings := by
  induction loop with
  | unsettled | spent | ended => exact .done _
  | failed tasks due begun fired => exact .cons tasks due begun (.done _)
  | @fired turns b b₁ b₂ b' n f e later outcome tasks due begun fired _ ih =>
    have after : ((fire f.timer).perform f.begun).2 = b₂ := congrArg Prod.snd fired
    exact .cons tasks due begun (after ▸ ih)

/-- A run of microtasks leaves what the destructors after it queue, and nothing else, whatever the
guest does. Before each timer that fires while time passes there is such a run, and the callback
begins with what it has left. -/
theorem microtasks_left_by_destructors :
    (∀ (b : Bridge σ) n b', runMicrotasks.perform b = (.ok n, b') →
      ∃ b₁, (runMicrotasksWithin b.limits.turns).perform b = (.ok n, b₁) ∧ Rests b₁ b') ∧
    ∀ (b : Bridge σ) milliseconds,
      let deadline := b.host.realm.events.deadlineAfter milliseconds
      let ran := (runTimers milliseconds).perform b
      FireRested deadline b (b.firings milliseconds) ∧
        ∃ last, Loop deadline b.limits.turns b (b.firings milliseconds) ran.1 last ∧
          ran.2 = last.concluded deadline ran.1 := by
  refine ⟨fun b n b' => rests_runMicrotasks, fun b milliseconds => ?_⟩
  obtain ⟨last, loop, ended⟩ := loop_runTimers milliseconds b
  exact ⟨loop.rested, last, loop, ended⟩

namespace Lingering

/-- A host function that has a closure called as soon as time passes. -/
def soon : Capability where
  name := "soon"
  params := [.handle]
  result := .unit
  fallible := true
  call args := do
    let callback ← Host.Scheduling.functionArgument args 0
    HostCall.changeRealm fun r =>
      { r.hold (.function callback) with events := (r.events.setTimeout callback 0).2 }
    return .undefined

/-- A guest that queues a closure of which the destructor queues another one, and has a third one
called when time passes. -/
def guest : GuestModule Unit :=
  let hand (destructor : UInt32) (index : Nat) (next : Code Unit (List Core)) :
      Code Unit (List Core) :=
    .call 0 [.word 0, .word destructor, .word 1, .word 0] fun made =>
      .call index made fun _ => .call 1 made fun _ => next
  let entry : GuestFunction Unit := ⟨closureType, fun _ => .yield [.word 0]⟩
  let quiet : GuestFunction Unit := ⟨destructorType, fun _ => .yield []⟩
  let busy : GuestFunction Unit := ⟨destructorType, fun _ => hand 1 2 (.yield [])⟩
  { imports := [
      ⟨"__bridge", "closure_new", .func, some Intrinsic.closureNew.signature⟩,
      ⟨"__bridge", "object_drop_ref", .func, some Intrinsic.objectDropRef.signature⟩,
      ⟨"host", "queue_microtask", .func, some ⟨[.i32], []⟩⟩,
      ⟨"host", "soon", .func, some soon.signature⟩]
    exports := [
      ("memory", .memory 1 1),
      ("__indirect_function_table", .table [some entry, some quiet, some busy]),
      ("__bridge_malloc", .func ⟨⟨[.i32, .i32], [.i32]⟩, fun _ => .yield [.word 0]⟩),
      ("__bridge_exn_store", .func ⟨⟨[.i32], []⟩, fun _ => .yield []⟩),
      ("__bridge_start", .func ⟨⟨[], []⟩, fun _ => hand 2 2 (hand 1 3 (.yield []))⟩)]
    data := []
    onCreation := none
    initial := () }

/-- The sample host, with that function. -/
def host : Registry := Registry.empty.defineAll (soon :: Host.defaults)

def started : Bridge Unit :=
  (Bridge.create {} host ()).after (.start (.module guest))

theorem ran_one : (runMicrotasks.perform started).1 = .ok 1 := by cbv

theorem fires_once :
    (started.firings 0).map (·.begun.microtasks) = [[⟨2, .undefined, none⟩]] := by cbv

end Lingering

/-- A task is run, and another one is left; the callback of the timer begins before it. -/
theorem destructor_leaves_microtask :
    let b := Lingering.started
    let ran := runMicrotasks.perform b
    b.Reachable Lingering.host ∧
      ran.1 = .ok 1 ∧ ran.2.microtasks = [⟨2, .undefined, none⟩] ∧
      (b.firings 0).map (·.begun.microtasks) = [[⟨2, .undefined, none⟩]] :=
  ⟨.asked _ (.created {} ()), Lingering.ran_one, by cbv, Lingering.fires_once⟩

theorem microtasks_left_by_destructors_lingering :
    let b := Lingering.started
    let deadline := b.host.realm.events.deadlineAfter 0
    let ran := (runTimers 0).perform b
    (∃ b', runMicrotasks.perform b = (.ok 1, b') ∧ ∃ b₁,
      (runMicrotasksWithin b.limits.turns).perform b = (.ok 1, b₁) ∧ Rests b₁ b') ∧
      (b.firings 0).length = 1 ∧ FireRested deadline b (b.firings 0) ∧
      ∃ last, Loop deadline b.limits.turns b (b.firings 0) ran.1 last ∧
        ran.2 = last.concluded deadline ran.1 := by
  intro b deadline ran
  obtain ⟨runs, fires⟩ := microtasks_left_by_destructors (σ := Unit)
  have once : (b.firings 0).length = 1 := by
    have lengths := congrArg List.length Lingering.fires_once
    rwa [List.length_map] at lengths
  have outcome : (runMicrotasks.perform b).1 = .ok 1 := Lingering.ran_one
  rcases first : runMicrotasks.perform b with ⟨result, b'⟩
  rw [first] at outcome
  obtain rfl : result = .ok 1 := outcome
  exact ⟨⟨b', rfl, runs b 1 b' first⟩, once, fires b 0⟩

end GuestBridge

import GuestBridge.Proofs.Intrinsics.Reporting
import Mathlib
/-!
Draining the queue of destructor calls. They are made in the order in which they were queued, those
that join the queue meanwhile after the others, until none is left or one fails. A failure ends the
drain: what was taken off the queue together with the failing call and comes after it is neither
called nor queued again.
-/

set_option autoImplicit false

namespace GuestBridge

variable {σ : Type}

open BridgeAction

/-- A destructor call that is made, and the bridge as it begins. -/
structure Attempt (σ : Type) where
  finalizer : Finalizer
  begun : Bridge σ

namespace Attempt

def perform (call : GuestCaller σ) (a : Attempt σ) : Except Fault Unit × Bridge σ :=
  ((closureCalls call).destroy a.finalizer.destructor a.finalizer.data a.finalizer.metaWord).perform
    a.begun

def Succeeds (call : GuestCaller σ) (a : Attempt σ) : Prop := (a.perform call).1 = .ok ()

end Attempt

namespace Bridge

def finalizers (b : Bridge σ) : List Finalizer := b.host.realm.closures.guest.finalizers

/-- The bridge with all of them taken off the queue. -/
def relieved (b : Bridge σ) : Bridge σ :=
  let closures := (b.host.realm.closures.takeFinalizers .guest).2
  { b with host := { b.host with realm := { b.host.realm with closures := closures } } }

/-- The calls of a batch that are made: none after one that fails. -/
def attempts (call : GuestCaller σ) : List Finalizer → Bridge σ → List (Attempt σ)
  | [], _ => []
  | f :: rest, b =>
    let attempt : Attempt σ := ⟨f, b⟩
    attempt ::
      match attempt.perform call with
      | (.ok _, after) => after.attempts call rest
      | (.error _, _) => []

/-- The states in which a batch is taken off the queue while it is drained. -/
def drainRounds (call : GuestCaller σ) : Nat → Bridge σ → List (Bridge σ)
  | 0, _ => []
  | turns + 1, b =>
    if b.finalizers.isEmpty then []
    else
      b :: match (runFinalizers call b.finalizers).perform b.relieved with
        | (.ok _, after) => after.drainRounds call turns
        | (.error _, _) => []

def drainAttempts (call : GuestCaller σ) : Nat → Bridge σ → List (Attempt σ)
  | 0, _ => []
  | turns + 1, b =>
    if b.finalizers.isEmpty then []
    else
      b.relieved.attempts call b.finalizers ++
        match (runFinalizers call b.finalizers).perform b.relieved with
        | (.ok _, after) => after.drainAttempts call turns
        | (.error _, _) => []

end Bridge

variable (call : GuestCaller σ)

theorem perform_runFinalizers_cons (f : Finalizer) (rest : List Finalizer) (b : Bridge σ) :
    (runFinalizers call (f :: rest)).perform b =
      match (Attempt.mk f b).perform call with
      | (.ok _, after) =>
        (((runFinalizers call rest).perform after).1.map (· + 1),
          ((runFinalizers call rest).perform after).2)
      | (.error fault, after) => (.error fault, after) := by
  simp only [runFinalizers, Action.perform_bind, Attempt.perform]
  rcases ((closureCalls call).destroy f.destructor f.data f.metaWord).perform b with
    ⟨fault | _, after⟩
  · rfl
  · dsimp only
    rcases (runFinalizers call rest).perform after with ⟨fault | n, last⟩ <;> rfl

structure BatchRun (batch : List Finalizer) (b : Bridge σ) (outcome : Except Fault Nat)
    (after : Bridge σ) : Prop where
  completed : ∀ n, outcome = .ok n → n = batch.length ∧
    (b.attempts call batch).map (·.finalizer) = batch ∧ ∀ a ∈ b.attempts call batch, a.Succeeds call
  failed : ∀ fault, outcome = .error fault → ∃ done last lost,
    b.attempts call batch = done ++ [last] ∧ (∀ a ∈ done, a.Succeeds call) ∧
      last.perform call = (.error fault, after) ∧
      batch = (b.attempts call batch).map (·.finalizer) ++ lost

theorem runFinalizers_run (batch : List Finalizer) (b : Bridge σ) :
    BatchRun call batch b ((runFinalizers call batch).perform b).1
      ((runFinalizers call batch).perform b).2 := by
  induction batch generalizing b with
  | nil =>
    refine ⟨fun n done => ?_, nofun⟩
    cases done
    exact ⟨rfl, rfl, fun _ inside => absurd inside List.not_mem_nil⟩
  | cons f rest ih =>
    rw [perform_runFinalizers_cons]
    rcases tried : (Attempt.mk f b).perform call with ⟨fault | _, after⟩
    · have made : b.attempts call (f :: rest) = [⟨f, b⟩] := by
        simp only [Bridge.attempts, tried]
      refine ⟨nofun, fun fault' failed => ?_⟩
      cases failed
      exact ⟨[], ⟨f, b⟩, rest, made, fun _ inside => absurd inside List.not_mem_nil, tried,
        made ▸ rfl⟩
    · have made : b.attempts call (f :: rest) = ⟨f, b⟩ :: after.attempts call rest := by
        simp only [Bridge.attempts, tried]
      have first : (Attempt.mk f b).Succeeds call := congrArg Prod.fst tried
      obtain ⟨completed, failed⟩ := ih after
      dsimp only
      rcases outcome : ((runFinalizers call rest).perform after).1 with fault | n
      · refine ⟨nofun, fun fault' same => ?_⟩
        cases same
        obtain ⟨done, last, lost, attempts, succeeded, ended, split⟩ := failed fault outcome
        refine ⟨⟨f, b⟩ :: done, last, lost, ?_, ?_, ended, ?_⟩
        · rw [made, attempts, List.cons_append]
        · exact List.forall_mem_cons.2 ⟨first, succeeded⟩
        · rw [made, List.map_cons, List.cons_append, ← split]
      · refine ⟨fun n' same => ?_, nofun⟩
        cases same
        obtain ⟨counted, attempts, succeeded⟩ := completed n outcome
        rw [made, List.map_cons, attempts]
        exact ⟨congrArg (· + 1) counted, rfl, List.forall_mem_cons.2 ⟨first, succeeded⟩⟩

theorem perform_drainBatches_succ (turns : Nat) (b : Bridge σ) :
    (drainBatches call (turns + 1)).perform b =
      if b.finalizers.isEmpty then (.ok 0, b.relieved)
      else
        match (runFinalizers call b.finalizers).perform b.relieved with
        | (.ok ran, after) =>
          (((drainBatches call turns).perform after).1.map (· + ran),
            ((drainBatches call turns).perform after).2)
        | (.error fault, after) => (.error fault, after) := by
  rw [drainBatches]
  refine (Action.perform_bind_ok b.finalizers b.relieved rfl).trans ?_
  split
  · rfl
  · simp only [Action.perform_bind]
    rcases (runFinalizers call b.finalizers).perform b.relieved with ⟨fault | ran, after⟩
    · rfl
    · dsimp only
      rcases (drainBatches call turns).perform after with ⟨fault | n, last⟩ <;> rfl

/-- The calls are those of the batches, one batch after the other. -/
theorem drainAttempts_eq (turns : Nat) (b : Bridge σ) :
    b.drainAttempts call turns = (b.drainRounds call turns).flatMap fun taken =>
      taken.relieved.attempts call taken.finalizers := by
  induction turns generalizing b with
  | zero => rfl
  | succ turns ih =>
    rw [Bridge.drainAttempts, Bridge.drainRounds]
    split
    · rfl
    · rw [List.flatMap_cons]
      rcases (runFinalizers call b.finalizers).perform b.relieved with ⟨fault | n, after⟩
      · rfl
      · exact congrArg _ (ih after)

/-- What draining the queue comes to, batch by batch. -/
structure DrainRun (rounds : List (Bridge σ)) (made : List (Attempt σ)) (b : Bridge σ)
    (outcome : Except Fault Nat) (after : Bridge σ) : Prop where
  batches : made = rounds.flatMap fun taken => taken.relieved.attempts call taken.finalizers
  /-- Everything queued is called, and nothing is left. -/
  completed : ∀ n, outcome = .ok n → n = made.length ∧ (∀ a ∈ made, a.Succeeds call) ∧
    b.finalizers <+: made.map (·.finalizer) ∧ after.finalizers = []
  /-- The last call has failed, unless there were too many turns. What was taken off the queue with
  it and comes after it is not called, and the queue is left as that call has left it. -/
  failed : ∀ fault, outcome = .error fault → (fault = .exhausted ∧ ∀ a ∈ made, a.Succeeds call) ∨
    ∃ done last, made = done ++ [last] ∧ (∀ a ∈ done, a.Succeeds call) ∧
      last.perform call = (.error fault, after) ∧
      ∃ whole taken lost, rounds = whole ++ [taken] ∧
        (∀ s ∈ whole, (s.relieved.attempts call s.finalizers).map (·.finalizer) = s.finalizers) ∧
        taken.finalizers =
          (taken.relieved.attempts call taken.finalizers).map (·.finalizer) ++ lost

theorem drainBatches_run (turns : Nat) (b : Bridge σ) :
    DrainRun call (b.drainRounds call turns) (b.drainAttempts call turns) b
      ((drainBatches call turns).perform b).1 ((drainBatches call turns).perform b).2 := by
  induction turns generalizing b with
  | zero =>
    refine ⟨rfl, nofun, fun fault same => ?_⟩
    cases same
    exact .inl ⟨rfl, fun _ inside => absurd inside List.not_mem_nil⟩
  | succ turns ih =>
    have batches := drainAttempts_eq call (turns + 1) b
    rw [Bridge.drainAttempts, Bridge.drainRounds] at batches
    rw [perform_drainBatches_succ, Bridge.drainAttempts, Bridge.drainRounds]
    split
    · next empty =>
      refine ⟨rfl, fun n same => ?_, nofun⟩
      cases same
      rw [List.isEmpty_iff.1 empty]
      exact ⟨rfl, fun _ inside => absurd inside List.not_mem_nil, List.nil_prefix, rfl⟩
    · next queued =>
      rw [if_neg queued, if_neg queued] at batches
      have batch := runFinalizers_run call b.finalizers b.relieved
      rcases ran : (runFinalizers call b.finalizers).perform b.relieved with ⟨fault | n, after⟩ <;>
        rw [ran] at batch batches
      · -- The rest of this batch is lost, and no other batch is begun.
        refine ⟨batches, nofun, fun fault' same => .inr ?_⟩
        cases same
        obtain ⟨done, last, lost, made, succeeded, ended, split⟩ := batch.failed fault rfl
        exact ⟨done, last, by rw [List.append_nil, made], succeeded, ended, [], b, lost, rfl,
          fun _ inside => absurd inside List.not_mem_nil, split⟩
      · -- This batch is made whole; what was queued meanwhile is left to the turns that remain.
        obtain ⟨counted, whole, succeeded⟩ := batch.completed n rfl
        obtain ⟨-, completed, failed⟩ := ih after
        have length : (b.relieved.attempts call b.finalizers).length = n := by
          rw [counted, ← congrArg List.length whole, List.length_map]
        refine ⟨batches, ?_, ?_⟩ <;> dsimp only <;>
          rcases outcome : ((drainBatches call turns).perform after).1 with fault | m
        · nofun
        · intro n' same
          cases same
          obtain ⟨counted', all, -, empty⟩ := completed m outcome
          refine ⟨?_, List.forall_mem_append.2 ⟨succeeded, all⟩, ?_, empty⟩
          · rw [List.length_append, length, counted', Nat.add_comm]
          · rw [List.map_append, whole]
            exact List.prefix_append ..
        · intro fault' same
          cases same
          rcases failed fault outcome with ⟨exhausted, all⟩ | ⟨done, last, made, all, ended, gone⟩
          · exact .inl ⟨exhausted, List.forall_mem_append.2 ⟨succeeded, all⟩⟩
          · obtain ⟨others, taken, lost, rounds, complete, split⟩ := gone
            refine .inr ⟨b.relieved.attempts call b.finalizers ++ done, last, ?_,
              List.forall_mem_append.2 ⟨succeeded, all⟩, ended, b :: others, taken, lost, ?_,
              List.forall_mem_cons.2 ⟨whole, complete⟩, split⟩
            · rw [made, List.append_assoc]
            · rw [rounds, List.cons_append]
        · nofun

/-- A drain that succeeds leaves nothing on the queue. -/
theorem finalizers_drainBatches {turns n : Nat} {b b' : Bridge σ}
    (drained : (drainBatches call turns).perform b = (.ok n, b')) : b'.finalizers = [] := by
  have run := drainBatches_run call turns b
  rw [drained] at run
  exact (run.completed n rfl).2.2.2

theorem perform_drain (b : Bridge σ) : (drain (σ := σ)).perform b =
    if b.finalizers.isEmpty then (.ok 0, b)
    else if b.bound.isSome then (drainBatches callGuest b.limits.turns).perform b
    else (.error .notInitialized, b) := by
  by_cases empty : b.finalizers.isEmpty = true
  · have queue : b.host.realm.closures.guest.finalizers.isEmpty = true := empty
    simp only [drain, Action.perform_bind, Action.perform_get, queue, empty, ↓reduceIte,
      Action.perform_pure]
  · have queue : ¬ b.host.realm.closures.guest.finalizers.isEmpty = true := empty
    simp only [drain, Action.perform_bind, Action.perform_get, queue, empty, ↓reduceIte,
      perform_bound, Bool.false_eq_true]
    rcases b.bound with _ | exports <;> rfl

/-- A bridge with a guest drains the queue in order: all of it if no call fails, and up to the one
that fails otherwise. -/
theorem drain_attempts {b : Bridge σ} (guest : b.bound.isSome = true) :
    DrainRun callGuest (b.drainRounds callGuest b.limits.turns)
      (b.drainAttempts callGuest b.limits.turns) b (drain.perform b).1 (drain.perform b).2 := by
  rw [perform_drain]
  split
  · next empty =>
    have none : b.drainRounds callGuest b.limits.turns = [] := by
      rcases b.limits.turns with _ | turns <;> simp only [Bridge.drainRounds, empty, ↓reduceIte]
    rw [drainAttempts_eq, none]
    refine ⟨rfl, fun n same => ?_, nofun⟩
    cases same
    have queue := List.isEmpty_iff.1 empty
    exact ⟨rfl, fun _ inside => absurd inside List.not_mem_nil, queue ▸ List.nil_prefix, queue⟩
  · exact drainBatches_run callGuest b.limits.turns b

/-- A guest that has made two closures, of which the destructor of the first fails. The host has
released both. -/
def careless : Bridge Unit :=
  let destructor (body : Code Unit (List Core)) : GuestFunction Unit :=
    ⟨destructorType, fun _ => body⟩
  let guest := Relay.tabled [.closureNew]
    [some (destructor (.trap .unreachable)), some (destructor (.yield []))]
  let made := (((Bridge.create {} .empty ()).after (.start (.module guest))).after
    (.callDynamic "closure_new" [.word 0, .word 0, .word 1, .word 0])).after
    (.callDynamic "closure_new" [.word 0, .word 1, .word 2, .word 0])
  ((release 5).perform ((release 4).perform made).2).2

theorem careless_reachable : careless.Reachable .empty :=
  .aside (aside_release 5 _).toAlike (.aside (aside_release 4 _).toAlike
    (.asked _ (.asked _ (.asked _ (.created {} ())))))

theorem drain_attempts_careless : careless.bound.isSome = true ∧
    DrainRun callGuest (careless.drainRounds callGuest careless.limits.turns)
      (careless.drainAttempts callGuest careless.limits.turns) careless
      (drain.perform careless).1 (drain.perform careless).2 :=
  have guest : careless.bound.isSome = true := by cbv
  ⟨guest, drain_attempts guest⟩

/-- The second call is queued at first; it is made neither by the drain that fails nor by the next
one. -/
theorem failing_destructor_loses_others :
    let first := drain.perform careless
    let second := drain.perform first.2
    let turns := careless.limits.turns
    let made := careless.drainAttempts callGuest turns ++ first.2.drainAttempts callGuest turns
    careless.Reachable .empty ∧ careless.finalizers = [⟨0, 0, 1, 0⟩, ⟨1, 1, 2, 0⟩] ∧
      first.1 = .error (.trap .unreachable) ∧ first.2.finalizers = [] ∧ second.1 = .ok 0 ∧
      made.map (·.finalizer) = [⟨0, 0, 1, 0⟩] :=
  ⟨careless_reachable, by cbv, by cbv, by cbv, by cbv, by cbv⟩

end GuestBridge

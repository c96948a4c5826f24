import GuestBridge.Realm
/-!
Settling promises and letting go of values. Each is a cascade of small jobs, the jobs that one
leaves being done before those that were waiting. A cascade ends: a job settles a promise, or
removes something that nothing holds, or leaves less to do than it was.
-/

set_option autoImplicit false

namespace GuestBridge.Realm

/-- How many promises are still pending. -/
def unsettled (r : Realm) : Nat := r.promises.count Promise.isPending

/-- How many promises and elements there are. -/
def population (r : Realm) : Nat :=
  r.promises.count (fun _ => true) + r.elements.count (fun _ => true)

/-- A bound on the jobs that come of a job while nothing settles and nothing goes away. -/
def Job.weight : Job → Nat
  | .letGo _ => 1
  | .reject .. => 1
  | .resolve .. => 2
  | .react .. => 4

def Job.totalWeight : List Job → Nat
  | [] => 0
  | job :: rest => job.weight + totalWeight rest

theorem Job.totalWeight_append (a b : List Job) :
    totalWeight (a ++ b) = totalWeight a + totalWeight b := by
  induction a with
  | nil => simp [totalWeight]
  | cons job rest ih => simp [totalWeight, ih, Nat.add_assoc]

@[simp] theorem unsettled_hold (r : Realm) (v : Value) : (r.hold v).unsettled = r.unsettled := by
  cases v <;> simp [hold, unsettled, Pool.count_hold]

@[simp] theorem population_hold (r : Realm) (v : Value) :
    (r.hold v).population = r.population := by
  cases v <;> simp [hold, population, Pool.count_hold]

@[simp] theorem isPending_hold (r : Realm) (v : Value) (p : Nat) :
    (r.hold v).isPending p = r.isPending p := by
  cases v <;> simp [hold, isPending]

theorem unsettled_addReaction (r : Realm) (p : Nat) (reaction : Reaction) :
    (r.addReaction p reaction).unsettled = r.unsettled := by
  refine Pool.count_modify fun a => ?_
  cases a <;> rfl

theorem population_addReaction (r : Realm) (p : Nat) (reaction : Reaction) :
    (r.addReaction p reaction).population = r.population := by
  simp only [addReaction, population]
  rw [Pool.count_modify (f := Promise.withReaction reaction) (fun _ => rfl)]

theorem unsettled_settle {r : Realm} {p : Nat} (waiting : r.isPending p = true)
    (outcome : Outcome) : (r.settle p outcome).1.unsettled < r.unsettled := by
  simp only [isPending, Pool.get?, Option.any_map, Option.any_eq_true_iff_get] at waiting
  obtain ⟨some_, pending⟩ := waiting
  obtain ⟨h, found⟩ := Option.isSome_iff_exists.1 some_
  simp only [found, Option.get_some] at pending
  unfold settle
  cases thing : h.thing with
  | settled o => simp [thing, Promise.isPending] at pending
  | pending reactions =>
    simp only [Pool.get?, found, Option.map_some, thing, unsettled, Pool.modify]
    have := Pool.count_put found (some ⟨.settled outcome, h.holders⟩) Promise.isPending
    simp only [thing, Promise.isPending, Option.any_some, ↓reduceIte, Bool.false_eq_true] at this
    omega

theorem settle_of_not_pending {r : Realm} {p : Nat} (settled : r.isPending p = false)
    (outcome : Outcome) : r.settle p outcome = (r, []) := by
  unfold settle
  split
  · next reactions found => simp [isPending, found, Promise.isPending] at settled
  · rfl

/-- Settles a promise, or shrinks the realm, or leaves less to do. -/
def Advances (r r' : Realm) (before after : Nat) : Prop :=
  r'.unsettled < r.unsettled ∨
    r'.unsettled = r.unsettled ∧
      (r'.population < r.population ∨ r'.population = r.population ∧ after < before)

theorem doJob_advances (r : Realm) (job : Job) :
    Advances r (r.doJob job).1 job.weight (Job.totalWeight (r.doJob job).2) := by
  cases job with
  | letGo v =>
    cases v with
    | promise p =>
      simp only [doJob]
      rcases released : r.promises.release p with ⟨gone, promises⟩
      cases gone with
      | none =>
        have pending := Pool.count_release_none released Promise.isPending
        have all := Pool.count_release_none released fun _ => true
        simp [Advances, unsettled, population, pending, all, Job.totalWeight, Job.weight]
      | some a =>
        have pending := Pool.count_release_some released Promise.isPending
        have all := Pool.count_release_some released fun _ => true
        simp only [↓reduceIte] at all
        simp only [Advances, unsettled, population]
        omega
    | element e =>
      simp only [doJob]
      rcases released : r.elements.release e with ⟨gone, elements⟩
      cases gone with
      | none =>
        have all := Pool.count_release_none released fun _ => true
        simp [Advances, unsettled, population, all, Job.totalWeight, Job.weight]
      | some a =>
        have all := Pool.count_release_some released fun _ => true
        simp only [↓reduceIte] at all
        refine .inr ⟨rfl, .inl ?_⟩
        simp only [population]
        omega
    | _ => simp [doJob, Advances, unsettled, population, Job.totalWeight, Job.weight]
  | reject p f =>
    by_cases waiting : r.isPending p = true
    · exact .inl (unsettled_settle waiting _)
    · simp only [doJob, settle_of_not_pending (Bool.eq_false_iff.2 waiting)]
      exact .inr ⟨rfl, .inr ⟨rfl, by simp [Job.totalWeight, Job.weight]⟩⟩
  | resolve p v =>
    simp only [doJob]
    split
    · next waiting =>
      split
      · exact .inl (unsettled_settle waiting _)
      · refine .inr ⟨?_, .inr ⟨?_, by simp [Job.totalWeight, Job.weight]⟩⟩
        · simp [unsettled_addReaction]
        · simp [population_addReaction]
      · exact .inl (unsettled_settle waiting _)
      · next w _ =>
        have := unsettled_settle (r := r.hold w) (by simpa using waiting) (.fulfilled w)
        exact .inl (by simpa using this)
    · exact .inr ⟨rfl, .inr ⟨rfl, by simp [Job.totalWeight, Job.weight]⟩⟩
  | react reaction outcome =>
    cases reaction <;> cases outcome <;>
      simp [doJob, Advances, Job.totalWeight, Job.weight]
    all_goals exact .inr ⟨unsettled_hold .., .inr (population_hold ..)⟩

/-- Does all jobs and all that come of them. -/
def run (r : Realm) (jobs : List Job) : Realm :=
  match jobs with
  | [] => r
  | job :: rest => (r.doJob job).1.run ((r.doJob job).2 ++ rest)
termination_by (r.unsettled, r.population, Job.totalWeight jobs)
decreasing_by
  have step := r.doJob_advances job
  simp only [Job.totalWeight_append, Prod.lex_def]
  have whole : Job.totalWeight (job :: rest) = job.weight + Job.totalWeight rest := by
    simp [Job.totalWeight]
  simp only [Advances] at step
  omega

/-- One place less keeps the value. -/
def letGo (r : Realm) (v : Value) : Realm := r.run [.letGo v]

/-- Fulfils a promise with a value that the caller gives up, or has it settle as that value does
when it is a promise. A promise that is settled already stays as it is. -/
def resolve (r : Realm) (p : Nat) (v : Value) : Realm := r.run [.resolve p v]

def reject (r : Realm) (p : Nat) (f : Failure) : Realm := r.run [.reject p f]

/-- Has a closure, which the caller gives up, run when the promise is fulfilled. The derived
promise, which the caller holds, settles as the closure's result. -/
def andThen (r : Realm) (p : Nat) (callback : Nat) : Nat × Realm :=
  let (derived, promises) := r.promises.add (.pending []) 2
  let r := { r with promises := promises }
  match r.promises.get? p with
  | some (.settled outcome) => (derived, r.run [.react (.call callback derived) outcome])
  | _ => (derived, r.addReaction p (.call callback derived))

end GuestBridge.Realm

import GuestBridge.Proofs.Promises.Settlement
import GuestBridge.Proofs.Promises.Turns
/-!
How each promise there has ever been was settled. This is kept by somebody who looks at all promises
after every job that may make some of them go away, and who forgets nothing.
-/

set_option autoImplicit false

namespace GuestBridge

/-- How a promise is settled, if it is. -/
def Promise.outcome? : Promise → Option Outcome
  | .pending _ => none
  | .settled outcome => some outcome

/-- How promises were settled, those that have gone away since among them. -/
abbrev Chronicle := Nat → Option Outcome

/-- Nothing is forgotten. -/
def Chronicle.Extends (known later : Chronicle) : Prop :=
  ∀ p outcome, known p = some outcome → later p = some outcome

theorem Chronicle.Extends.refl (known : Chronicle) : known.Extends known := fun _ _ same => same

theorem Chronicle.Extends.trans {a b c : Chronicle} (first : a.Extends b) (second : b.Extends c) :
    a.Extends c :=
  fun p outcome same => second p outcome (first p outcome same)

namespace Realm

/-- A look at the realm: what is settled now is entered. -/
def enter (known : Chronicle) (r : Realm) : Chronicle := fun p =>
  ((r.promises.get? p).bind Promise.outcome?).or (known p)

/-- What is known after a cascade, with a look after every job. -/
def chronicle (known : Chronicle) (r : Realm) (jobs : List Job) : Chronicle :=
  match jobs with
  | [] => known
  | job :: rest =>
    chronicle (enter known (r.doJob job).1) (r.doJob job).1 ((r.doJob job).2 ++ rest)
termination_by (r.unsettled, r.population, Job.totalWeight jobs)
decreasing_by
  have step := r.doJob_advances job
  simp only [Job.totalWeight_append, Prod.lex_def]
  have whole : Job.totalWeight (job :: rest) = job.weight + Job.totalWeight rest := by
    simp [Job.totalWeight]
  simp only [Advances] at step
  omega

/-- What each job keeps, a cascade keeps, what is known of promises included. -/
theorem chronicle_induction {P : Chronicle → Realm → List Job → Prop}
    (step : ∀ known r job rest, P known r (job :: rest) →
      P (enter known (r.doJob job).1) (r.doJob job).1 ((r.doJob job).2 ++ rest))
    {known : Chronicle} {r : Realm} {jobs : List Job} (start : P known r jobs) :
    P (chronicle known r jobs) (r.run jobs) [] := by
  fun_induction chronicle known r jobs with
  | case1 known r =>
    rw [run]
    exact start
  | case2 known r job rest ih =>
    rw [run]
    exact ih (step known r job rest start)

theorem enter_settled {known : Chronicle} {r : Realm} {p : Nat} {outcome : Outcome}
    (found : r.promises.get? p = some (.settled outcome)) : enter known r p = some outcome := by
  unfold enter
  rw [found]
  rfl

theorem enter_pending {known : Chronicle} {r : Realm} {p : Nat} {reactions : List Reaction}
    (found : r.promises.get? p = some (.pending reactions)) : enter known r p = known p := by
  unfold enter
  rw [found]
  rfl

theorem enter_absent {known : Chronicle} {r : Realm} {p : Nat}
    (gone : r.promises.get? p = none) : enter known r p = known p := by
  unfold enter
  rw [gone]
  rfl

/-- What is known agrees with the promises that are there, and is known of no others than there
have been. -/
structure Faithful (known : Chronicle) (r : Realm) : Prop where
  settled : ∀ {p outcome}, r.promises.get? p = some (.settled outcome) → known p = some outcome
  pending : ∀ {p reactions}, r.promises.get? p = some (.pending reactions) → known p = none
  made : ∀ {p outcome}, known p = some outcome → p < r.promises.size

namespace Faithful

variable {known : Chronicle} {r r' : Realm}

theorem of_known (faithful : Faithful known r) {p : Nat} {outcome : Outcome}
    (same : known p = some outcome) {promise : Promise} (there : r.promises.get? p = some promise) :
    promise = .settled outcome := by
  cases promise with
  | pending reactions =>
    rw [faithful.pending there] at same
    cases same
  | settled other =>
    rw [faithful.settled there] at same
    cases same
    rfl

theorem of_unknown (faithful : Faithful known r) {p : Nat} (unknown : known p = none)
    {promise : Promise} (there : r.promises.get? p = some promise) : r.isPending p = true := by
  cases promise with
  | pending reactions => exact isPending_eq_true.2 ⟨reactions, there⟩
  | settled outcome =>
    rw [faithful.settled there] at unknown
    cases unknown

theorem outcome (faithful : Faithful known r) {p : Nat} {promise : Promise}
    (there : r.promises.get? p = some promise) : known p = promise.outcome? := by
  cases promise with
  | pending reactions => exact faithful.pending there
  | settled outcome => exact faithful.settled there

/-- A second look shows nothing new. -/
theorem enter_eq (faithful : Faithful known r) {p : Nat}
    (same : r'.promises.get? p = r.promises.get? p) : enter known r' p = known p := by
  rcases found : r.promises.get? p with _ | ⟨reactions⟩ | outcome
  · exact enter_absent (same.trans found)
  · exact enter_pending (same.trans found)
  · rw [enter_settled (same.trans found), faithful.settled found]

/-- A look forgets nothing, and what is known stays right, when settled promises stay as they are
and none comes back. -/
theorem enter (faithful : Faithful known r)
    (becomes : ∀ p, p < r.promises.size →
      ∃ outcome, Becomes outcome (r.promises.get? p) (r'.promises.get? p))
    (size : r.promises.size ≤ r'.promises.size) :
    Faithful (Realm.enter known r') r' ∧ known.Extends (Realm.enter known r') := by
  have extends_ : known.Extends (Realm.enter known r') := by
    intro p outcome same
    obtain ⟨other, becomes⟩ := becomes p (faithful.made same)
    rcases now : r'.promises.get? p with _ | ⟨reactions⟩ | settled
    · rw [enter_absent now, same]
    · rw [enter_pending now, same]
    · rw [enter_settled now]
      rcases before : r.promises.get? p with _ | ⟨reactions⟩ | earlier
      · rw [before, now] at becomes
        exact becomes.elim
      · rw [faithful.pending before] at same
        cases same
      · rw [before, now] at becomes
        rw [faithful.settled before] at same
        have still : settled = earlier := becomes
        rw [still, same]
  refine ⟨⟨enter_settled, fun {p reactions} now => ?_, fun {p outcome} same => ?_⟩, extends_⟩
  · rw [enter_pending now]
    by_contra other
    obtain ⟨outcome, same⟩ := Option.ne_none_iff_exists'.1 other
    obtain ⟨settled, becomes⟩ := becomes p (faithful.made same)
    rcases before : r.promises.get? p with _ | ⟨reactions'⟩ | earlier
    · rw [before, now] at becomes
      exact becomes.elim
    · rw [faithful.pending before] at same
      cases same
    · rw [before, now] at becomes
      exact becomes.elim
  · rcases now : r'.promises.get? p with _ | promise
    · rw [enter_absent now] at same
      exact Nat.lt_of_lt_of_le (faithful.made same) size
    · exact lt_size_of_get? now

theorem doJob (faithful : Faithful known r) (job : Job) :
    Faithful (Realm.enter known (r.doJob job).1) (r.doJob job).1 ∧
      known.Extends (Realm.enter known (r.doJob job).1) := by
  obtain ⟨outcome, evolves⟩ := r.evolves_doJob job
  exact faithful.enter (fun p _ => ⟨outcome, evolves p⟩) (Nat.le_of_eq (size_doJob r job).symm)

end Faithful

end Realm

end GuestBridge

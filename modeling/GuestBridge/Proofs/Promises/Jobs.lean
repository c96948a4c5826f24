import GuestBridge.Realm.Settling
import GuestBridge.Proofs.Pool
/-!
What each job of a cascade does to the promises and to the queue of microtasks, and the induction
that carries an invariant through a whole cascade.
-/

set_option autoImplicit false

namespace GuestBridge

/-- A value that is not a promise. -/
def Value.Plain (v : Value) : Prop := ∀ p, v ≠ .promise p

/-- Nothing that was settled by a cascade holds a promise. -/
def Outcome.Plain : Outcome → Prop
  | .fulfilled v => v.Plain
  | .rejected _ => True

/-- The promise that a reaction settles. -/
def Reaction.derived : Reaction → Nat
  | .call _ derived => derived
  | .forward derived => derived

namespace Realm

/-- Two realms with the same promises and the same microtasks. -/
structure Alike (r r' : Realm) : Prop where
  promises : r'.promises = r.promises
  events : r'.events = r.events

theorem Alike.refl (r : Realm) : Alike r r := ⟨rfl, rfl⟩

/-- The realm with a promise settled. -/
def settled (r : Realm) (p : Nat) (outcome : Outcome) : Realm :=
  { r with promises := r.promises.modify p fun _ => .settled outcome }

section Steps

variable {r : Realm} {p : Nat}

theorem alike_hold {v : Value} (plain : v.Plain) : Alike r (r.hold v) := by
  cases v with
  | promise q => exact (plain q rfl).elim
  | _ => exact ⟨rfl, rfl⟩

theorem get?_hold (r : Realm) (v : Value) (q : Nat) :
    (r.hold v).promises.get? q = r.promises.get? q := by
  cases v with
  | promise p => exact Pool.get?_hold _ p q
  | _ => rfl

theorem events_hold (r : Realm) (v : Value) : (r.hold v).events = r.events := by
  cases v <;> rfl

theorem isPending_eq_true : r.isPending p = true ↔
    ∃ reactions, r.promises.get? p = some (.pending reactions) := by
  unfold isPending
  rcases r.promises.get? p with _ | ⟨reactions⟩ | outcome
  · simp
  · simp [Promise.isPending]
  · simp [Promise.isPending]

theorem settle_pending {reactions : List Reaction}
    (found : r.promises.get? p = some (.pending reactions)) (outcome : Outcome) :
    r.settle p outcome =
      (r.settled p outcome, reactions.map fun reaction => .react reaction outcome) := by
  unfold settle settled
  rw [found]

/-- What a value comes to in the end is not a promise. -/
theorem followPromise_plain {asking q : Nat} {w : Value}
    (found : r.followPromise asking q = .value w) : w.Plain := by
  induction q using Nat.strongRecOn with
  | ind q ih =>
    rw [followPromise] at found
    split at found
    · next inner _ =>
      split at found
      · cases found
      · split at found
        · next smaller => exact ih inner smaller found
        · cases found
    · next v notPromise _ =>
      cases found
      exact fun x same => notPromise x same
    · cases found
    · cases found

theorem target_plain {v w : Value} (found : r.target p v = .value w) : w.Plain := by
  unfold target at found
  split at found
  · split at found
    · cases found
    · exact followPromise_plain found
  · next notPromise =>
    cases found
    exact fun x same => notPromise x same

/-- Every promise that a promise was made with is there. -/
def Closed (r : Realm) : Prop :=
  ∀ q x, r.promises.get? q = some (.settled (.fulfilled (.promise x))) →
    ∃ promise, r.promises.get? x = some promise

theorem followPromise_waiting (closed : r.Closed) {asking q waiting : Nat}
    (found : r.followPromise asking q = .waiting waiting)
    (there : ∃ promise, r.promises.get? q = some promise) : r.isPending waiting = true := by
  induction q using Nat.strongRecOn with
  | ind q ih =>
    rw [followPromise] at found
    split at found
    · next inner here =>
      split at found
      · cases found
      · split at found
        · next smaller => exact ih inner smaller found (closed q inner here)
        · cases found
    · cases found
    · cases found
    · next notFulfilled notRejected =>
      cases found
      obtain ⟨promise, here⟩ := there
      cases promise with
      | pending reactions => exact isPending_eq_true.2 ⟨reactions, here⟩
      | settled outcome =>
        cases outcome with
        | fulfilled v => exact (notFulfilled v here).elim
        | rejected f => exact (notRejected f here).elim

theorem target_waiting (closed : r.Closed) {v : Value} {waiting : Nat}
    (there : ∀ q, v = .promise q → ∃ promise, r.promises.get? q = some promise)
    (found : r.target p v = .waiting waiting) : r.isPending waiting = true := by
  unfold target at found
  split at found
  · next q =>
    split at found
    · cases found
    · exact followPromise_waiting closed found (there q rfl)
  · cases found

/-- A resolution does nothing to a settled promise; it settles a pending one, or else has it wait
for another. -/
theorem resolve_cases (r : Realm) (p : Nat) (v : Value) :
    (r.isPending p = false ∧ r.doJob (.resolve p v) = (r, [.letGo v])) ∨
    (∃ reactions outcome base, r.promises.get? p = some (.pending reactions) ∧ outcome.Plain ∧
      Alike r base ∧ (v.Plain → outcome = .fulfilled v) ∧
      r.doJob (.resolve p v) = (base.settled p outcome,
        (reactions.map fun reaction => .react reaction outcome) ++ [.letGo v])) ∨
    (∃ q, r.isPending p = true ∧ ¬ v.Plain ∧ r.target p v = .waiting q ∧
      r.doJob (.resolve p v) =
        ((r.addReaction q (.forward p)).hold (.promise p), [.letGo v])) := by
  simp only [doJob]
  by_cases waiting : r.isPending p = true
  · rw [if_pos waiting]
    obtain ⟨reactions, here⟩ := isPending_eq_true.1 waiting
    -- A plain value is its own target.
    have itself : v.Plain → r.target p v = .value v := by
      intro plain
      unfold target
      split
      · next q => exact (plain q rfl).elim
      · rfl
    rcases found : r.target p v with w | f | q | _
    · right; left
      have alike := alike_hold (r := r) (target_plain found)
      refine ⟨reactions, .fulfilled w, r.hold w, here, target_plain found, alike, ?_, ?_⟩
      · intro plain
        rw [itself plain] at found
        cases found
        rfl
      · simp only
        rw [settle_pending (alike.promises ▸ here)]
    · right; left
      refine ⟨reactions, .rejected f, r, here, trivial, ⟨rfl, rfl⟩, ?_, ?_⟩
      · intro plain
        rw [itself plain] at found
        cases found
      · simp only
        rw [settle_pending here]
    · right; right
      refine ⟨q, waiting, ?_, rfl, rfl⟩
      intro plain
      rw [itself plain] at found
      cases found
    · right; left
      refine ⟨reactions, .rejected chainingCycle, r, here, trivial, ⟨rfl, rfl⟩, ?_, ?_⟩
      · intro plain
        rw [itself plain] at found
        cases found
      · simp only
        rw [settle_pending here]
  · left
    rw [if_neg waiting]
    exact ⟨Bool.eq_false_iff.2 waiting, rfl⟩

/-- Letting go of anything but a promise leaves promises and microtasks alone. -/
theorem letGo_plain (r : Realm) {v : Value} (plain : v.Plain) :
    Alike r (r.doJob (.letGo v)).1 ∧
      ∀ job ∈ (r.doJob (.letGo v)).2, ∃ w : Value, w.Plain ∧ job = .letGo w := by
  cases v with
  | promise q => exact (plain q rfl).elim
  | function i => exact ⟨⟨rfl, rfl⟩, fun job inside => absurd inside List.not_mem_nil⟩
  | element e =>
    refine ⟨⟨rfl, rfl⟩, fun job inside => ?_⟩
    simp only [doJob] at inside
    generalize (r.elements.release e).1 = gone at inside
    rcases gone with _ | element
    · exact absurd inside List.not_mem_nil
    · obtain ⟨c, -, same⟩ := List.mem_map.1 inside
      have plain : (Value.element c).Plain := fun _ => Value.noConfusion
      exact ⟨.element c, plain, same.symm⟩
  | _ => exact ⟨⟨rfl, rfl⟩, fun job inside => absurd inside List.not_mem_nil⟩

theorem Job.ofPromise_letGo (promise : Promise) :
    ∀ job ∈ ofPromise promise, ∃ w, job = .letGo w := by
  intro job inside
  rcases promise with ⟨reactions⟩ | ⟨w⟩ | ⟨f⟩
  · obtain ⟨reaction, -, member⟩ := List.mem_flatMap.1 inside
    cases reaction with
    | call callback derived =>
      rcases List.mem_cons.1 member with same | last
      · exact ⟨_, same⟩
      · exact ⟨_, List.mem_singleton.1 last⟩
    | forward derived => exact ⟨_, List.mem_singleton.1 member⟩
  · exact ⟨w, List.mem_singleton.1 inside⟩
  · exact absurd inside List.not_mem_nil

/-- Letting go leads to nothing but letting go. -/
theorem letGo_jobs (r : Realm) (v : Value) :
    ∀ job ∈ (r.doJob (.letGo v)).2, ∃ w, job = .letGo w := by
  intro job inside
  by_cases plain : v.Plain
  · obtain ⟨w, -, same⟩ := (letGo_plain r plain).2 job inside
    exact ⟨w, same⟩
  · cases v with
    | promise p =>
      simp only [doJob] at inside
      generalize (r.promises.release p).1 = gone at inside
      rcases gone with _ | promise
      · exact absurd inside List.not_mem_nil
      · exact Job.ofPromise_letGo promise job inside
    | _ => exact (plain fun _ => Value.noConfusion).elim

theorem letGo_promise {promise : Promise} {n : Nat}
    (found : r.promises.held? p = some ⟨promise, n⟩) :
    r.doJob (.letGo (.promise p)) = ({ r with promises := (r.promises.release p).2 },
      if n ≤ 1 then Job.ofPromise promise else []) := by
  have gone := Pool.release_fst r.promises p
  rw [found, Option.bind_some] at gone
  simp only [doJob, gone]
  split <;> rfl

theorem reject_cases (r : Realm) (p : Nat) (f : Failure) :
    (r.isPending p = false ∧ r.doJob (.reject p f) = (r, [])) ∨
    (∃ reactions, r.promises.get? p = some (.pending reactions) ∧
      r.doJob (.reject p f) = (r.settled p (.rejected f),
        reactions.map fun reaction => .react reaction (.rejected f))) := by
  by_cases waiting : r.isPending p = true
  · obtain ⟨reactions, here⟩ := isPending_eq_true.1 waiting
    exact .inr ⟨reactions, here, settle_pending here _⟩
  · have not := Bool.eq_false_iff.2 waiting
    exact .inl ⟨not, settle_of_not_pending not _⟩

end Steps

/-- What each job keeps, given that it is the next one, a cascade keeps to its end. -/
theorem run_induction {P : Realm → List Job → Prop}
    (step : ∀ r job rest, P r (job :: rest) → P (r.doJob job).1 ((r.doJob job).2 ++ rest))
    {r : Realm} {jobs : List Job} (start : P r jobs) : P (r.run jobs) [] := by
  fun_induction run r jobs with
  | case1 r => exact start
  | case2 r job rest ih => exact ih (step r job rest start)

end Realm

end GuestBridge

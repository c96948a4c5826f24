import GuestBridge.Proofs.Promises.Holders
/-!
A cascade settles promises in one way only: whatever it settles comes to the same outcome. What
was settled before stays as it was.
-/

set_option autoImplicit false

namespace GuestBridge.Realm

/-- What a cascade with one outcome may make of a promise; it may go away in any case. -/
def Becomes (outcome : Outcome) : Option Promise → Option Promise → Prop
  | _, none => True
  | some (.pending _), some (.pending _) => True
  | some (.pending _), some (.settled now) => now = outcome
  | some (.settled before), some (.settled now) => now = before
  | _, _ => False

def Evolves (outcome : Outcome) (r r' : Realm) : Prop :=
  ∀ q, Becomes outcome (r.promises.get? q) (r'.promises.get? q)

/-- A job that settles promises, if at all, with one outcome. -/
def Job.Carries (outcome : Outcome) : Job → Prop
  | .letGo _ => True
  | .resolve _ v => v.Plain ∧ outcome = .fulfilled v
  | .reject _ f => outcome = .rejected f
  | .react _ mine => mine = outcome ∧ outcome.Plain

theorem Becomes.refl (outcome : Outcome) (promise : Option Promise) :
    Becomes outcome promise promise := by
  rcases promise with _ | reactions | now
  · trivial
  · trivial
  · exact rfl

theorem Becomes.trans {outcome : Outcome} {a b c : Option Promise} (first : Becomes outcome a b)
    (second : Becomes outcome b c) : Becomes outcome a c := by
  rcases c with _ | ⟨reactions⟩ | now
  · rcases a with _ | _ | _ <;> trivial
  · rcases b with _ | ⟨reactions'⟩ | middle
    · exact second.elim
    · rcases a with _ | _ | _
      · exact first
      · trivial
      · exact first
    · exact second.elim
  · rcases b with _ | ⟨reactions'⟩ | middle
    · exact second.elim
    · rcases a with _ | _ | _
      · exact first
      · exact second
      · exact first.elim
    · have same : now = middle := second
      rw [same]
      exact first

namespace Evolves

variable {outcome : Outcome} {r s t : Realm}

theorem refl (outcome : Outcome) (r : Realm) : Evolves outcome r r :=
  fun _ => Becomes.refl outcome _

theorem trans (first : Evolves outcome r s) (second : Evolves outcome s t) : Evolves outcome r t :=
  fun q => (first q).trans (second q)

theorem of_same (same : ∀ q, s.promises.get? q = r.promises.get? q) : Evolves outcome r s := by
  intro q
  rw [same]
  exact Becomes.refl outcome _

theorem of_settled {p : Nat} {reactions : List Reaction}
    (found : r.promises.get? p = some (.pending reactions)) {base : Realm}
    (alike : Alike r base) : Evolves outcome r (base.settled p outcome) := by
  intro q
  unfold settled
  simp only [Pool.get?_modify, alike.promises]
  by_cases same : q = p
  · subst same
    rw [if_pos rfl, found]
    exact rfl
  · rw [if_neg same]
    exact Becomes.refl outcome _

/-- Another reaction leaves a promise pending. -/
theorem of_addReaction (r : Realm) (p : Nat) (reaction : Reaction) (v : Value) :
    Evolves outcome r ((r.addReaction p reaction).hold v) := by
  intro q
  rw [get?_hold]
  unfold addReaction
  simp only [Pool.get?_modify]
  split
  · next here =>
    subst here
    rcases r.promises.get? q with _ | reactions | now
    · trivial
    · trivial
    · exact rfl
  · exact Becomes.refl outcome _

theorem of_release (r : Realm) (p : Nat) :
    Evolves outcome r { r with promises := (r.promises.release p).2 } := by
  intro q
  rcases Pool.get?_release r.promises p q with same | ⟨-, gone⟩
  · simp only [same]
    exact Becomes.refl outcome _
  · simp only [gone]
    rcases r.promises.get? q with _ | reactions | now <;> trivial

/-- A promise that is not pending does not become so. -/
theorem not_pending (evolves : Evolves outcome r s) {p : Nat} (quiet : r.isPending p = false) :
    s.isPending p = false := by
  have next := evolves p
  unfold isPending at quiet ⊢
  rcases before : r.promises.get? p with _ | ⟨reactions⟩ | earlier
  · rw [before] at next
    rcases after : s.promises.get? p with _ | ⟨reactions⟩ | now
    · rfl
    · rw [after] at next
      exact next.elim
    · rfl
  · rw [before] at quiet
    cases quiet
  · rw [before] at next
    rcases after : s.promises.get? p with _ | ⟨reactions⟩ | now
    · rfl
    · rw [after] at next
      exact next.elim
    · rfl

end Evolves

section Cascade

variable {outcome : Outcome} {r : Realm}

theorem evolves_letGo (r : Realm) (v : Value) : Evolves outcome r (r.doJob (.letGo v)).1 := by
  by_cases plain : v.Plain
  · exact .of_same fun q => by rw [(letGo_plain r plain).1.promises]
  · cases v with
    | promise p => exact .of_release r p
    | _ => exact (plain fun _ => Value.noConfusion).elim

/-- The outcome of a resolution is the one that everything after it has. -/
theorem resolve_carries (r : Realm) (p : Nat) (v : Value) :
    ∃ outcome, (v.Plain → outcome = .fulfilled v) ∧
      Evolves outcome r (r.doJob (.resolve p v)).1 ∧
      ∀ job ∈ (r.doJob (.resolve p v)).2, job.Carries outcome := by
  rcases r.resolve_cases p v with ⟨-, done⟩ |
    ⟨reactions, outcome, base, found, plain, alike, mine, done⟩ | ⟨q, -, -, -, done⟩
  · refine ⟨.fulfilled v, fun _ => rfl, ?_, fun job inside => ?_⟩
    · rw [done]
      exact .refl _ r
    · rw [done] at inside
      rw [List.mem_singleton.1 inside]
      trivial
  · refine ⟨outcome, mine, ?_, fun job inside => ?_⟩
    · rw [done]
      exact .of_settled found alike
    · rw [done] at inside
      rcases List.mem_append.1 inside with new | last
      · obtain ⟨reaction, -, same⟩ := List.mem_map.1 new
        rw [← same]
        exact ⟨rfl, plain⟩
      · rw [List.mem_singleton.1 last]
        trivial
  · refine ⟨.fulfilled v, fun _ => rfl, ?_, fun job inside => ?_⟩
    · rw [done]
      exact .of_addReaction r q (.forward p) (.promise p)
    · rw [done] at inside
      rw [List.mem_singleton.1 inside]
      trivial

theorem doJob_carries {job : Job} (carries : job.Carries outcome) :
    Evolves outcome r (r.doJob job).1 ∧ ∀ other ∈ (r.doJob job).2, other.Carries outcome := by
  cases job with
  | letGo v =>
    refine ⟨evolves_letGo r v, fun other inside => ?_⟩
    obtain ⟨w, same⟩ := letGo_jobs r v other inside
    rw [same]
    trivial
  | resolve p v =>
    obtain ⟨plain, same⟩ := carries
    obtain ⟨mine, settles, evolves, after⟩ := r.resolve_carries p v
    rw [same, ← settles plain]
    exact ⟨evolves, after⟩
  | reject p f =>
    have same : outcome = .rejected f := carries
    rw [same]
    rcases r.reject_cases p f with ⟨-, done⟩ | ⟨reactions, found, done⟩
    · rw [done]
      exact ⟨.refl _ r, fun other inside => absurd inside List.not_mem_nil⟩
    · rw [done]
      refine ⟨.of_settled found ⟨rfl, rfl⟩, fun other inside => ?_⟩
      obtain ⟨reaction, -, form⟩ := List.mem_map.1 inside
      rw [← form]
      exact ⟨rfl, trivial⟩
  | react reaction mine =>
    obtain ⟨same, plain⟩ := carries
    subst same
    cases reaction with
    | call callback derived =>
      cases mine with
      | fulfilled v =>
        exact ⟨.of_same (get?_hold r v), fun other inside => absurd inside List.not_mem_nil⟩
      | rejected f =>
        refine ⟨.refl _ r, fun other inside => ?_⟩
        simp only [doJob, List.mem_cons, List.not_mem_nil, or_false] at inside
        rcases inside with form | form | form <;> rw [form] <;> trivial
    | forward derived =>
      cases mine with
      | fulfilled v =>
        refine ⟨.of_same (get?_hold r v), fun other inside => ?_⟩
        simp only [doJob, List.mem_cons, List.not_mem_nil, or_false] at inside
        rcases inside with form | form
        · rw [form]
          exact ⟨plain, rfl⟩
        · rw [form]
          trivial
      | rejected f =>
        refine ⟨.refl _ r, fun other inside => ?_⟩
        simp only [doJob, List.mem_cons, List.not_mem_nil, or_false] at inside
        rcases inside with form | form <;> rw [form] <;> trivial

/-- Each job by itself comes to one outcome. -/
theorem evolves_doJob (r : Realm) (job : Job) : ∃ outcome, Evolves outcome r (r.doJob job).1 := by
  cases job with
  | letGo v => exact ⟨.fulfilled .undefined, evolves_letGo r v⟩
  | resolve p v =>
    obtain ⟨outcome, -, evolves, -⟩ := r.resolve_carries p v
    exact ⟨outcome, evolves⟩
  | reject p f =>
    have carries : Job.Carries (.rejected f) (.reject p f) := rfl
    exact ⟨.rejected f, (doJob_carries carries).1⟩
  | react reaction outcome =>
    refine ⟨.fulfilled .undefined, ?_⟩
    cases reaction with
    | call callback derived =>
      cases outcome with
      | fulfilled v => exact .of_same (get?_hold r v)
      | rejected f => exact .refl _ r
    | forward derived =>
      cases outcome with
      | fulfilled v => exact .of_same (get?_hold r v)
      | rejected f => exact .refl _ r

/-- A cascade of jobs with one outcome. -/
theorem run_evolves {jobs : List Job} (carries : ∀ job ∈ jobs, job.Carries outcome) :
    Evolves outcome r (r.run jobs) := by
  suffices whole : Evolves outcome r (r.run jobs) ∧ ∀ job ∈ ([] : List Job), job.Carries outcome by
    exact whole.1
  refine run_induction
    (P := fun now jobs => Evolves outcome r now ∧ ∀ job ∈ jobs, job.Carries outcome)
    (fun now job rest before => ?_) ⟨.refl _ r, carries⟩
  obtain ⟨evolves, carry⟩ := before
  obtain ⟨further, after⟩ := doJob_carries (r := now) (carry job (List.mem_cons_self ..))
  refine ⟨evolves.trans further, fun other inside => ?_⟩
  rcases List.mem_append.1 inside with new | old
  · exact after other new
  · exact carry other (List.mem_cons_of_mem _ old)

/-- A cascade that begins with one job. -/
theorem evolves_cascade {job : Job} (first : Evolves outcome r (r.doJob job).1)
    (after : ∀ other ∈ (r.doJob job).2, other.Carries outcome) :
    Evolves outcome r (r.run [job]) := by
  rw [run, List.append_nil]
  exact first.trans (run_evolves after)

end Cascade

end GuestBridge.Realm

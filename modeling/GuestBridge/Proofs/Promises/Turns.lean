import GuestBridge.Proofs.Promises.Registering
/-!
What one job does to the promises, said once: it settles a promise, has one wait for another, hands
an outcome on, or leaves all promises as they are, save one that goes away.
-/

set_option autoImplicit false

namespace GuestBridge.Realm

/-- The promise that a job is to settle at once. -/
def Job.aim? : Job → Option Nat
  | .resolve p _ | .reject p _ => some p
  | _ => none

def Job.LetsGo (job : Job) : Prop := ∃ v, job = .letGo v

/-- A job done in the first realm, the realm after it and the jobs it leaves. -/
inductive Turn (r : Realm) : Job → Realm → List Job → Prop
  | settles {job : Job} {r' : Realm} {p : Nat} {reactions : List Reaction} {outcome : Outcome}
      {last : List Job} (aim : job.aim? = some p)
      (found : r.promises.get? p = some (.pending reactions)) (plain : outcome.Plain)
      (fits : ∀ mine, job.Carries mine → outcome = mine)
      (now : ∀ q, r'.promises.get? q =
        if q = p then some (.settled outcome) else r.promises.get? q)
      (drops : ∀ other ∈ last, other.LetsGo) :
      Turn r job r' ((reactions.map fun reaction => .react reaction outcome) ++ last)
  | waits {r' : Realm} {p q : Nat} {v : Value} (pending : r.isPending p = true)
      (promise : ¬ v.Plain) (found : r.target p v = .waiting q)
      (now : ∀ x, r'.promises.get? x = if x = q then
        (r.promises.get? x).map (Promise.withReaction (.forward p)) else r.promises.get? x) :
      Turn r (.resolve p v) r' [.letGo v]
  | hands {reaction : Reaction} {outcome : Outcome} {r' : Realm} {job : Job} {last : List Job}
      (aim : job.aim? = some reaction.derived) (fits : outcome.Plain → job.Carries outcome)
      (skips : ∀ callback derived, reaction = .call callback derived →
        ∃ f, outcome = .rejected f)
      (now : ∀ q, r'.promises.get? q = r.promises.get? q)
      (drops : ∀ other ∈ last, other.LetsGo) :
      Turn r (.react reaction outcome) r' (job :: .letGo (.promise reaction.derived) :: last)
  | fades {job : Job} {r' : Realm} {jobs : List Job}
      (late : ∀ p, job.aim? = some p → r.isPending p = false)
      (last : ∀ derived outcome, job ≠ .react (.forward derived) outcome)
      (now : ∀ q, r'.promises.get? q = r.promises.get? q ∨ r'.promises.get? q = none)
      (drops : ∀ other ∈ jobs, other.LetsGo) : Turn r job r' jobs

theorem turn_letGo (r : Realm) (v : Value) :
    Turn r (.letGo v) (r.doJob (.letGo v)).1 (r.doJob (.letGo v)).2 := by
  refine .fades (fun _ aim => nomatch aim) (fun _ _ => Job.noConfusion) (fun q => ?_)
    (letGo_jobs r v)
  by_cases plain : v.Plain
  · exact .inl (by rw [(letGo_plain r plain).1.promises])
  · cases v with
    | promise p =>
      rcases Pool.get?_release r.promises p q with same | ⟨-, gone⟩
      · exact .inl same
      · exact .inr gone
    | _ => exact (plain fun _ => Value.noConfusion).elim

theorem letsGo_singleton (v : Value) : ∀ job ∈ [Job.letGo v], job.LetsGo := by
  intro job inside
  exact ⟨v, List.mem_singleton.1 inside⟩

/-- A promise that is resolved with one whose result is not known comes to wait. -/
theorem doJob_resolve_waiting {r : Realm} {p w : Nat} {v : Value}
    (pending : r.isPending p = true) (found : r.target p v = .waiting w) :
    (∀ x, (r.doJob (.resolve p v)).1.promises.get? x = if x = w then
      (r.promises.get? x).map (Promise.withReaction (.forward p)) else r.promises.get? x) ∧
    (r.doJob (.resolve p v)).2 = [.letGo v] := by
  simp only [doJob, pending, ↓reduceIte, found, and_true]
  intro x
  rw [get?_hold]
  unfold addReaction
  rw [Pool.get?_modify]
  by_cases same : x = w
  · rw [if_pos same, if_pos same, same]
  · rw [if_neg same, if_neg same]

theorem turn_resolve (r : Realm) (p : Nat) (v : Value) :
    Turn r (.resolve p v) (r.doJob (.resolve p v)).1 (r.doJob (.resolve p v)).2 := by
  rcases r.resolve_cases p v with ⟨settled, done⟩ |
    ⟨reactions, outcome, base, found, plain, alike, mine, done⟩ | ⟨q, pending, promise, found, done⟩
  · rw [done]
    refine .fades (fun x aim => ?_) (fun _ _ => Job.noConfusion) (fun q => .inl rfl)
      (letsGo_singleton v)
    cases aim
    exact settled
  · rw [done]
    refine .settles rfl found plain (fun other carries => ?_)
      (Delivering.get?_settled found alike outcome)
      (letsGo_singleton v)
    rw [mine carries.1, carries.2]
  · obtain ⟨now, jobs⟩ := doJob_resolve_waiting pending found
    rw [jobs]
    exact .waits pending promise found now

theorem turn_reject (r : Realm) (p : Nat) (f : Failure) :
    Turn r (.reject p f) (r.doJob (.reject p f)).1 (r.doJob (.reject p f)).2 := by
  have none : ∀ other ∈ ([] : List Job), other.LetsGo :=
    fun other inside => absurd inside List.not_mem_nil
  rcases r.reject_cases p f with ⟨settled, done⟩ | ⟨reactions, found, done⟩
  · rw [done]
    refine .fades (fun x aim => ?_) (fun _ _ => Job.noConfusion) (fun q => .inl rfl) none
    cases aim
    exact settled
  · rw [done]
    have turn : Turn r (.reject p f) (r.settled p (.rejected f))
        ((reactions.map fun reaction => .react reaction (.rejected f)) ++ []) :=
      .settles rfl found trivial (fun other carries => Eq.symm carries)
        (Delivering.get?_settled found (.refl r) _) none
    rwa [List.append_nil] at turn

theorem turn_react (r : Realm) (reaction : Reaction) (outcome : Outcome) :
    Turn r (.react reaction outcome) (r.doJob (.react reaction outcome)).1
      (r.doJob (.react reaction outcome)).2 := by
  have none : ∀ other ∈ ([] : List Job), other.LetsGo :=
    fun other inside => absurd inside List.not_mem_nil
  cases reaction with
  | call callback derived =>
    cases outcome with
    | fulfilled v =>
      exact .fades (fun _ aim => nomatch aim) (fun _ _ same => nomatch same)
        (fun q => .inl (get?_hold r v q)) none
    | rejected f =>
      exact .hands rfl (fun _ => rfl) (fun _ _ _ => ⟨f, rfl⟩) (fun q => rfl)
        (letsGo_singleton (.function callback))
  | forward derived =>
    cases outcome with
    | fulfilled v =>
      have turn : Turn r (.react (.forward derived) (.fulfilled v)) (r.hold v)
          [.resolve derived v, .letGo (.promise derived)] :=
        .hands rfl (fun plain => ⟨plain, rfl⟩) (fun _ _ same => nomatch same) (get?_hold r v) none
      exact turn
    | rejected f =>
      exact .hands rfl (fun _ => rfl) (fun _ _ same => nomatch same) (fun q => rfl) none

theorem turn (r : Realm) (job : Job) : Turn r job (r.doJob job).1 (r.doJob job).2 := by
  cases job with
  | letGo v => exact turn_letGo r v
  | resolve p v => exact turn_resolve r p v
  | reject p f => exact turn_reject r p f
  | react reaction outcome => exact turn_react r reaction outcome

end GuestBridge.Realm

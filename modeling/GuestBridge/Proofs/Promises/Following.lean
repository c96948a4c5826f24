import GuestBridge.Proofs.Promises.Stored
/-!
A promise that adopts another settles as that one does. While the adopted promise is pending it has
the other among its reactions; once it is settled, a job is on its way that settles the other alike;
and nothing else settles it.
-/

set_option autoImplicit false

namespace GuestBridge.Realm

/-- A job that settles the promise, or leaves one to be done that does. -/
def Job.Settles (p : Nat) : Job → Prop
  | .resolve q _ | .reject q _ => q = p
  | .react (.forward derived) _ => derived = p
  | .react (.call _ derived) (.rejected _) => derived = p
  | _ => False

/-- A job is on its way that settles the promise. The last one keeps the promise until then. -/
def Coming (p : Nat) (outcome : Outcome) (jobs : List Job) : Prop :=
  .react (.forward p) outcome ∈ jobs ∨
    ∃ job rest, jobs = job :: .letGo (.promise p) :: rest ∧ job.aim? = some p

/-- A promise that settles as another one does, and in no other way. -/
structure Following (p w : Nat) (known : Chronicle) (r : Realm) (jobs : List Job) : Prop where
  only : ∀ x reactions, r.promises.get? x = some (.pending reactions) →
    .forward p ∈ reactions → x = w
  agree : ∀ outcome, known p = some outcome → known w = some outcome
  carried : ∀ job ∈ jobs, job.Settles p → ∃ outcome, known w = some outcome ∧ job.Carries outcome
  awaited : known p = none →
    (known w = none ∧ ∀ reactions, r.promises.get? w = some (.pending reactions) →
      .forward p ∈ reactions) ∨
    ∃ outcome, known w = some outcome ∧ Coming p outcome jobs

/-- The promise derives from one that is rejected. -/
def Spoiled (known : Chronicle) (regs : List Registration) (p : Nat) : Prop :=
  ∃ reg ∈ regs, reg.derived = p ∧ ∃ f, known reg.promise = some (.rejected f)

theorem Spoiled.mono {known later : Chronicle} {regs more : List Registration} {p : Nat}
    (spoiled : Spoiled known regs p) (extends_ : known.Extends later)
    (grown : ∀ reg ∈ regs, reg ∈ more) : Spoiled later more p := by
  obtain ⟨reg, member, derived, f, rejected⟩ := spoiled
  exact ⟨reg, grown reg member, derived, f, extends_ _ _ rejected⟩

section Turns

variable {p w : Nat} {owned : Nat → Nat} {regs : List Registration} {taken : List Microtask}
  {known : Chronicle} {r r' : Realm} {job : Job} {jobs rest : List Job}

theorem Job.settles_of_aim (aim : job.aim? = some p) : job.Settles p := by
  cases job with
  | resolve q v => exact Option.some.inj aim
  | reject q f => exact Option.some.inj aim
  | _ => cases aim

theorem Job.aim_of_settles {q : Nat} (aim : job.aim? = some q) (settles : job.Settles p) :
    q = p := by
  cases job with
  | resolve x v => exact (Option.some.inj aim).symm.trans settles
  | reject x f => exact (Option.some.inj aim).symm.trans settles
  | _ => cases aim

theorem Job.LetsGo.not_settles (drops : job.LetsGo) : ¬ job.Settles p := by
  obtain ⟨v, rfl⟩ := drops
  exact id

/-- A callback that is skipped because of a rejection spoils the promise that derives from it. -/
theorem Delivering.spoils (delivering : Delivering regs taken r jobs) {x callback : Nat}
    {reactions : List Reaction} (found : r.promises.get? x = some (.pending reactions))
    (waits : .call callback p ∈ reactions) {f : Failure} (rejected : known x = some (.rejected f)) :
    Spoiled known regs p := by
  have calls : .call callback p ∈ reactions.filter Reaction.isCall :=
    List.mem_filter.2 ⟨waits, rfl⟩
  rw [delivering.waiting x reactions found] at calls
  obtain ⟨reg, mine, same⟩ := List.mem_map.1 calls
  obtain ⟨member, promise⟩ := Registration.mem_on.1 mine
  cases same
  exact ⟨reg, member, rfl, f, promise ▸ rejected⟩

theorem enter_unsettled (faithful : Faithful known r) {x : Nat}
    (same : r'.promises.get? x = r.promises.get? x ∨ r'.promises.get? x = none ∨
      ∃ before after, r.promises.get? x = some (.pending before) ∧
        r'.promises.get? x = some (.pending after)) : enter known r' x = known x := by
  rcases same with same | gone | ⟨before, after, -, now⟩
  · exact faithful.enter_eq same
  · exact enter_absent gone
  · exact enter_pending now

section Waiting

variable {x q : Nat} (now : ∀ y, r'.promises.get? y = if y = q then
  (r.promises.get? y).map (Promise.withReaction (.forward x)) else r.promises.get? y)

include now

theorem enter_waiting (faithful : Faithful known r) : enter known r' = known := by
  funext y
  apply enter_unsettled faithful
  rw [now]
  split
  · rcases r.promises.get? y with _ | ⟨reactions⟩ | outcome
    · exact .inl rfl
    · exact .inr (.inr ⟨reactions, _, rfl, rfl⟩)
    · exact .inl rfl
  · exact .inl rfl

/-- A pending promise was pending before, and has the same promises waiting for it but for one. -/
theorem pending_waiting {y : Nat} {reactions : List Reaction}
    (found : r'.promises.get? y = some (.pending reactions)) :
    ∃ before, r.promises.get? y = some (.pending before) ∧
      ∀ p, p ≠ x → (.forward p ∈ reactions ↔ .forward p ∈ before) := by
  rw [now] at found
  split at found
  · obtain ⟨before, there, form⟩ := Option.map_eq_some_iff.1 found
    cases before with
    | settled outcome => cases form
    | pending before =>
      cases form
      refine ⟨before, there, fun p other => ?_⟩
      rw [List.mem_append, List.mem_singleton]
      have apart : Reaction.forward p ≠ .forward x := fun equal =>
        other (Reaction.forward.inj equal)
      exact ⟨fun inside => inside.resolve_right apart, .inl⟩
  · exact ⟨reactions, found, fun _ _ => .rfl⟩

end Waiting

namespace Following

variable (following : Following p w known r (job :: rest))
  (proper : Proper owned regs taken known r (job :: rest))

include following proper

theorem fades (late : ∀ q, job.aim? = some q → r.isPending q = false)
    (last : ∀ derived outcome, job ≠ .react (.forward derived) outcome)
    (now : ∀ q, r'.promises.get? q = r.promises.get? q ∨ r'.promises.get? q = none)
    (drops : ∀ other ∈ jobs, other.LetsGo) :
    Following p w (enter known r') r' (jobs ++ rest) := by
  have same : enter known r' = known := funext fun x =>
    enter_unsettled proper.faithful ((now x).imp_right .inl)
  rw [same]
  have still : ∀ x reactions, r'.promises.get? x = some (.pending reactions) →
      r.promises.get? x = some (.pending reactions) := by
    intro x reactions found
    rcases now x with same | gone
    · exact same ▸ found
    · rw [gone] at found
      cases found
  constructor
  case only =>
    exact fun x reactions found waits => following.only x reactions (still x _ found) waits
  case agree => exact following.agree
  case carried =>
    intro other inside settles
    rcases List.mem_append.1 inside with new | old
    · exact absurd settles (drops other new).not_settles
    · exact following.carried other (List.mem_cons_of_mem _ old) settles
  case awaited =>
    intro unknown
    rcases following.awaited unknown with ⟨quiet, waits⟩ | ⟨outcome, settled, coming⟩
    · exact .inl ⟨quiet, fun reactions found => waits reactions (still w reactions found)⟩
    · refine .inr ⟨outcome, settled, ?_⟩
      rcases coming with inside | ⟨first, others, shape, aim⟩
      · rcases List.mem_cons.1 inside with here | later
        · exact absurd here.symm (last p outcome)
        · exact .inl (List.mem_append_right _ later)
      · -- The promise is still there, so that the job is not late.
        obtain ⟨rfl, rfl⟩ := List.cons.inj shape
        have mentioned : 0 < r.holders p := by
          rw [proper.balanced.count p, Job.allMention_cons, Job.allMention_cons]
          simp only [Job.mentions, Value.mentions, ↓reduceIte]
          omega
        obtain ⟨promise, there⟩ := present_of_holders mentioned
        have pending := proper.faithful.of_unknown unknown there
        rw [late p aim] at pending
        cases pending

theorem waits {x q : Nat} {v : Value} (shape : job = .resolve x v) (promise : ¬ v.Plain)
    (now : ∀ y, r'.promises.get? y = if y = q then
      (r.promises.get? y).map (Promise.withReaction (.forward x)) else r.promises.get? y) :
    Following p w (enter known r') r' ([.letGo v] ++ rest) := by
  have other : x ≠ p := by
    intro same
    obtain ⟨outcome, -, carries⟩ := following.carried job (List.mem_cons_self ..)
      (by rw [shape, same]; rfl)
    rw [shape] at carries
    exact promise carries.1
  rw [enter_waiting now proper.faithful]
  constructor
  case only =>
    intro y reactions found inside
    obtain ⟨before, there, alike⟩ := pending_waiting now found
    exact following.only y before there ((alike p other.symm).1 inside)
  case agree => exact following.agree
  case carried =>
    intro other inside settles
    rcases List.mem_cons.1 inside with here | old
    · rw [here] at settles
      exact settles.elim
    · exact following.carried other (List.mem_cons_of_mem _ old) settles
  case awaited =>
    intro unknown
    rcases following.awaited unknown with ⟨quiet, waits⟩ | ⟨outcome, settled, coming⟩
    · refine .inl ⟨quiet, fun reactions found => ?_⟩
      obtain ⟨before, there, alike⟩ := pending_waiting now found
      exact (alike p other.symm).2 (waits before there)
    · refine .inr ⟨outcome, settled, .inl ?_⟩
      rcases coming with inside | ⟨first, others, form, aim⟩
      · rcases List.mem_cons.1 inside with here | later
        · rw [shape] at here
          cases here
        · exact List.mem_append_right _ later
      · obtain ⟨rfl, -⟩ := List.cons.inj form
        rw [shape] at aim
        exact absurd (Option.some.inj aim) other

theorem hands {reaction : Reaction} {outcome : Outcome} {next : Job} {last : List Job}
    (shape : job = .react reaction outcome) (aim : next.aim? = some reaction.derived)
    (fits : outcome.Plain → next.Carries outcome)
    (skips : ∀ callback derived, reaction = .call callback derived → ∃ f, outcome = .rejected f)
    (now : ∀ q, r'.promises.get? q = r.promises.get? q)
    (drops : ∀ other ∈ last, other.LetsGo) :
    Following p w (enter known r') r'
      ((next :: .letGo (.promise reaction.derived) :: last) ++ rest) := by
  have same : enter known r' = known := funext fun x => proper.faithful.enter_eq (now x)
  rw [same]
  constructor
  case only => exact fun x reactions found => following.only x reactions (now x ▸ found)
  case agree => exact following.agree
  case carried =>
    intro other inside settles
    simp only [List.cons_append, List.mem_cons, List.mem_append] at inside
    rcases inside with first | second | new | old
    · -- The job before settled the same promise, by way of this one.
      rw [first] at settles ⊢
      have derived := Job.aim_of_settles aim settles
      have before : job.Settles p := by
        rw [shape]
        cases reaction with
        | forward d => exact derived
        | call callback d =>
          obtain ⟨f, rfl⟩ := skips callback d rfl
          exact derived
      obtain ⟨mine, settled, carries⟩ := following.carried job (List.mem_cons_self ..) before
      rw [shape] at carries
      obtain ⟨rfl, plain⟩ := carries
      exact ⟨outcome, settled, fits plain⟩
    · rw [second] at settles
      exact settles.elim
    · exact absurd settles (drops other new).not_settles
    · exact following.carried other (List.mem_cons_of_mem _ old) settles
  case awaited =>
    intro unknown
    rcases following.awaited unknown with ⟨quiet, waits⟩ | ⟨mine, settled, coming⟩
    · exact .inl ⟨quiet, fun reactions found => waits reactions (now w ▸ found)⟩
    · refine .inr ⟨mine, settled, ?_⟩
      rcases coming with inside | ⟨first, others, form, aims⟩
      · rcases List.mem_cons.1 inside with here | later
        · rw [shape] at here
          cases here
          exact .inr ⟨next, last ++ rest, rfl, aim⟩
        · exact .inl (List.mem_append_right _ later)
      · obtain ⟨rfl, -⟩ := List.cons.inj form
        rw [shape] at aims
        cases aims

/-- A promise is settled. If it is the adopted one, its reaction goes among the jobs; if it is the
one that follows, then with the outcome that is known. -/
theorem settles {q : Nat} {reactions : List Reaction} {outcome : Outcome} {last : List Job}
    (aim : job.aim? = some q) (found : r.promises.get? q = some (.pending reactions))
    (plain : outcome.Plain) (fits : ∀ mine, job.Carries mine → outcome = mine)
    (now : ∀ x, r'.promises.get? x = if x = q then some (.settled outcome) else r.promises.get? x)
    (drops : ∀ other ∈ last, other.LetsGo) (clean : ¬ Spoiled (enter known r') regs p) :
    Following p w (enter known r') r'
      (((reactions.map fun reaction => .react reaction outcome) ++ last) ++ rest) := by
  have unknown := proper.faithful.pending found
  have here : enter known r' q = some outcome := enter_settled (by rw [now, if_pos rfl])
  have elsewhere : ∀ x, x ≠ q → enter known r' x = known x := fun x other =>
    proper.faithful.enter_eq (by rw [now, if_neg other])
  have extends_ : known.Extends (enter known r') := by
    intro x mine settled
    rw [elsewhere x, settled]
    intro same
    rw [same, unknown] at settled
    cases settled
  -- What is known of `w` already is the outcome of every job that settles `p`.
  have earlier : ∀ other ∈ job :: rest, other.Settles p →
      ∃ outcome, enter known r' w = some outcome ∧ other.Carries outcome := by
    intro other inside settles
    obtain ⟨mine, settled, carries⟩ := following.carried other inside settles
    exact ⟨mine, extends_ _ _ settled, carries⟩
  constructor
  case only =>
    intro x others pending waits
    rw [now] at pending
    split at pending
    · cases pending
    · exact following.only x others pending waits
  case agree =>
    intro mine settled
    by_cases same : p = q
    · obtain ⟨other, known', carries⟩ := following.carried job (List.mem_cons_self ..)
        (Job.settles_of_aim (same ▸ aim))
      rw [same, here, fits other carries] at settled
      rw [extends_ _ _ known', settled]
    · rw [elsewhere p same] at settled
      exact extends_ _ _ (following.agree mine settled)
  case carried =>
    intro other inside settles
    rcases List.mem_append.1 inside with new | old
    · rcases List.mem_append.1 new with reacts | drop
      · obtain ⟨reaction, waits, rfl⟩ := List.mem_map.1 reacts
        cases reaction with
        | forward derived =>
          obtain rfl : derived = p := settles
          rw [← following.only q reactions found waits, here]
          exact ⟨outcome, rfl, rfl, plain⟩
        | call callback derived =>
          cases outcome with
          | fulfilled v => exact settles.elim
          | rejected f =>
            obtain rfl : derived = p := settles
            exact absurd (proper.delivering.spoils found waits here) clean
      · exact absurd settles (drops other drop).not_settles
    · exact earlier other (List.mem_cons_of_mem _ old) settles
  case awaited =>
    intro still
    have apart : p ≠ q := by
      intro same
      rw [same, here] at still
      cases still
    rw [elsewhere p apart] at still
    rcases following.awaited still with ⟨quiet, waits⟩ | ⟨mine, settled, coming⟩
    · by_cases same : w = q
      · subst same
        exact .inr ⟨outcome, here, .inl (List.mem_append_left _ (List.mem_append_left _
          (List.mem_map.2 ⟨.forward p, waits reactions found, rfl⟩)))⟩
      · refine .inl ⟨(elsewhere w same).trans quiet, fun others pending => waits others ?_⟩
        rwa [now, if_neg same] at pending
    · refine .inr ⟨mine, extends_ _ _ settled, .inl ?_⟩
      rcases coming with inside | ⟨first, others, form, aims⟩
      · rcases List.mem_cons.1 inside with first | later
        · rw [← first] at aim
          cases aim
        · exact List.mem_append_right _ later
      · obtain ⟨rfl, -⟩ := List.cons.inj form
        rw [aim] at aims
        exact absurd (Option.some.inj aims).symm apart

/-- Whatever a job does, the promise goes on following, unless a rejection comes in between. -/
theorem doJob (clean : ¬ Spoiled (enter known (r.doJob job).1) regs p) :
    Following p w (enter known (r.doJob job).1) (r.doJob job).1 ((r.doJob job).2 ++ rest) := by
  have turn := r.turn job
  generalize (r.doJob job).1 = r' at turn clean
  generalize (r.doJob job).2 = jobs at turn
  cases turn with
  | settles aim found plain fits now drops =>
    exact following.settles proper aim found plain fits now drops clean
  | waits pending promise found now => exact following.waits proper rfl promise now
  | hands aim fits skips now drops => exact following.hands proper rfl aim fits skips now drops
  | fades late last now drops => exact following.fades proper late last now drops

end Following

/-- When nothing is left to be done, the same is known of both. -/
theorem Following.same (following : Following p w known r []) : known p = known w := by
  rcases settled : known p with _ | outcome
  · rcases following.awaited settled with ⟨quiet, -⟩ | ⟨outcome, -, coming⟩
    · exact quiet.symm
    · rcases coming with inside | ⟨job, rest, shape, -⟩
      · exact absurd inside List.not_mem_nil
      · cases shape
  · exact (following.agree outcome settled).symm

theorem known_doJob (faithful : Faithful known r) (job : Job) {x : Nat} {outcome : Outcome}
    (settled : enter known (r.doJob job).1 x = some outcome) :
    known x = some outcome ∨ outcome.Plain := by
  have turn := r.turn job
  generalize (r.doJob job).1 = r' at turn settled
  generalize (r.doJob job).2 = jobs at turn
  cases turn with
  | @settles _ _ q reactions mine last aim found plain fits now drops =>
    by_cases same : x = q
    · rw [enter_settled (by rw [now, if_pos same])] at settled
      cases settled
      exact .inr plain
    · rw [faithful.enter_eq (by rw [now, if_neg same])] at settled
      exact .inl settled
  | waits pending promise found now => exact .inl (enter_waiting now faithful ▸ settled)
  | hands aim fits skips now drops => exact .inl (faithful.enter_eq (now x) ▸ settled)
  | fades late last now drops =>
    exact .inl (enter_unsettled faithful ((now x).imp_right .inl) ▸ settled)

theorem Widens.enter_eq (widens : Widens r r') (faithful : Faithful known r) {x : Nat}
    (lower : x < r.promises.size) : enter known r' x = known x := by
  apply enter_unsettled faithful
  rcases widens x with same | ⟨last, -⟩ | ⟨reactions, callback, before, now⟩
  · exact .inl same
  · exact absurd last (Nat.ne_of_lt lower)
  · exact .inr (.inr ⟨_, _, before, now⟩)

theorem Widens.waiting (widens : Widens r r') {x : Nat} {reactions : List Reaction}
    (found : r'.promises.get? x = some (.pending reactions)) (waits : .forward p ∈ reactions) :
    ∃ before, r.promises.get? x = some (.pending before) ∧ .forward p ∈ before := by
  rcases widens x with same | ⟨-, promise, now, newborn⟩ | ⟨before, callback, there, now⟩
  · exact ⟨reactions, same ▸ found, waits⟩
  · rw [now] at found
    cases found
    rw [show reactions = [] from newborn] at waits
    exact absurd waits List.not_mem_nil
  · rw [now] at found
    cases found
    rcases List.mem_append.1 waits with old | new
    · exact ⟨before, there, old⟩
    · cases List.mem_singleton.1 new

theorem Following.widens (following : Following p w known r []) (faithful : Faithful known r)
    (widens : Widens r r') (lowerP : p < r.promises.size) (lowerW : w < r.promises.size)
    (others : ∀ job ∈ jobs, ¬ job.Settles p) : Following p w (enter known r') r' jobs := by
  have sameP := widens.enter_eq faithful lowerP
  have sameW := widens.enter_eq faithful lowerW
  constructor
  case only =>
    intro x reactions found waits
    obtain ⟨before, there, old⟩ := widens.waiting found waits
    exact following.only x before there old
  case agree =>
    intro outcome settled
    rw [sameP] at settled
    rw [sameW]
    exact following.agree outcome settled
  case carried => exact fun job inside settles => absurd settles (others job inside)
  case awaited =>
    intro unknown
    rw [sameP] at unknown
    rw [sameW]
    rw [following.same] at unknown
    refine .inl ⟨unknown, fun reactions found => ?_⟩
    have waits : ∀ before, r.promises.get? w = some (.pending before) →
        .forward p ∈ before := by
      rcases following.awaited (following.same.trans unknown) with ⟨-, waits⟩ | ⟨_, settled, -⟩
      · exact waits
      · rw [unknown] at settled
        cases settled
    rcases widens w with same | ⟨last, -⟩ | ⟨before, callback, there, now⟩
    · exact waits reactions (same ▸ found)
    · exact absurd last (Nat.ne_of_lt lowerW)
    · rw [now] at found
      cases found
      exact List.mem_append_left _ (waits before there)

end Turns

end GuestBridge.Realm

import GuestBridge.Proofs.Callbacks.Places
/-!
A cascade takes a callback from its promise to the queue when the promise is fulfilled, and lets go
of it when the promise is rejected; it leaves every other callback in its place. What is said of a
closure and of the number of its places goes through a cascade with it.
-/

set_option autoImplicit false

namespace GuestBridge

namespace Realm

/-- A job done that does not let go of the callback leaves it in its place or moves it on. -/
structure Steady (i : Nat) (regs : List Registration) (r : Realm) (job : Job) (r' : Realm)
    (jobs : List Job) : Prop where
  kept : r'.keeps i + (jobs.map (Job.keeps i)).sum + r'.rejections regs i =
    r.keeps i + job.keeps i + r.rejections regs i
  places : r'.keeps i + (jobs.map (Job.keeps i)).sum + (jobs.map (Job.drops i)).sum =
    r.keeps i + job.keeps i + job.drops i
  closures : r.closures.Aside i r'.closures
  stored : r'.Spares i
  spares : ∀ other ∈ jobs, other.Spares i

section Steps

variable {i : Nat} {regs : List Registration} {r base : Realm} {p : Nat}

theorem steady_settled {job : Job} {reactions : List Reaction} {outcome : Outcome}
    (homes : r.Homes regs) (found : r.promises.get? p = some (.pending reactions))
    (spares : r.Spares i) (same : Same r base) (aside : r.closures.Aside i base.closures)
    (spared : outcome.Spares i) (bare : job.keeps i = 0 ∧ job.drops i = 0) (last : Option Value)
    (passed : ∀ v, last = some v → v ≠ .function i) :
    Steady i regs r job (base.settled p outcome)
      ((reactions.map fun reaction => .react reaction outcome) ++ (last.map Job.letGo).toList) := by
  have there : base.promises.get? p = some (.pending reactions) :=
    (same.promises p).trans found
  obtain ⟨n, here⟩ := Pool.held?_of_get? there
  have total := Pool.total_modify here (fun _ => .settled outcome) (Promise.keeps i)
  have keeps : (base.settled p outcome).keeps i + reactions.countP (Reaction.calls i) =
      r.keeps i := by
    rw [← same.keeps]
    change base.onTimers i + base.onTasks i + (base.promises.modify p _).total _ + _ =
      base.onTimers i + base.onTasks i + base.promises.total _
    simp only [Promise.keeps] at total
    omega
  have homes' : base.Homes regs := fun q others here => homes q others (same.promises q ▸ here)
  have rejections := rejections_settled homes' there outcome i
  rw [same.rejections] at rejections
  have end_ : ((last.map Job.letGo).toList.map (Job.keeps i)).sum = 0 ∧
      ((last.map Job.letGo).toList.map (Job.drops i)).sum = 0 := by
    rcases last with _ | v
    · exact ⟨rfl, rfl⟩
    · exact ⟨rfl, by simp [Job.drops, passed v rfl]⟩
  constructor
  case kept =>
    rw [List.map_append, List.sum_append, keeps_reactions, end_.1, rejections, bare.1]
    split <;> omega
  case places =>
    rw [List.map_append, List.sum_append, List.map_append, List.sum_append, keeps_reactions,
      drops_reactions, end_.1, end_.2, bare.1, bare.2]
    split <;> omega
  case closures => exact aside
  case stored =>
    refine ⟨fun q settled here => ?_, (same.spares spares).passed⟩
    rw [Delivering.get?_settled there (.refl base) outcome, same.promises] at here
    split at here
    · cases here
      exact spared
    · exact spares.stored q settled here
  case spares =>
    intro other inside
    rcases List.mem_append.1 inside with reacts | final
    · obtain ⟨reaction, -, rfl⟩ := List.mem_map.1 reacts
      exact spared
    · rcases last with _ | v
      · cases final
      · rw [List.mem_singleton.1 final]
        trivial

theorem Steady.of_same {job : Job} {jobs : List Job} (same : Same r base)
    (aside : r.closures.Aside i base.closures) (spares : r.Spares i)
    (keeps : (jobs.map (Job.keeps i)).sum = job.keeps i)
    (drops : (jobs.map (Job.drops i)).sum = job.drops i)
    (passed : ∀ other ∈ jobs, other.Spares i) : Steady i regs r job base jobs where
  kept := by rw [same.keeps, same.rejections, keeps]
  places := by rw [same.keeps, keeps, drops]
  closures := aside
  stored := same.spares spares
  spares := passed

/-- With its last hold a promise goes away, so that it is none that the callback needs. -/
theorem Retains.apart_of_last {promise : Promise} {n : Nat}
    (here : r.promises.held? p = some ⟨promise, n⟩) (last : n ≤ 1)
    (retains : ({ r with promises := (r.promises.release p).2 } : Realm).Retains regs i) :
    ∀ reg ∈ regs, reg.callback = i → reg.promise ≠ p := by
  intro reg member mine same
  have there := retains reg member mine
  have gone := (Pool.held?_release r.promises p p).trans (if_pos rfl)
  rw [here, Option.bind_some, Pool.Held.released, if_pos last] at gone
  simp only [Pool.get?, same, gone, Option.map_none] at there
  cases there

/-- No callback waits with a promise that it was not registered on. -/
theorem Homes.keeps_eq_zero (homes : r.Homes regs) {promise : Promise}
    (found : r.promises.get? p = some promise)
    (free : ∀ reg ∈ regs, reg.callback = i → reg.promise ≠ p) : promise.keeps i = 0 := by
  cases promise with
  | settled outcome => rfl
  | pending reactions =>
    rw [Promise.keeps, homes p reactions found i, List.countP_eq_zero]
    intro reg member waits
    have both := of_decide_eq_true waits
    exact free reg member both.1 both.2

/-- One place less holds the promise. If that was the last one, the callback was not registered on
it. -/
theorem steady_letGo_promise (homes : r.Homes regs) (spares : r.Spares i)
    (retains : (r.doJob (.letGo (.promise p))).1.Retains regs i) :
    Steady i regs r (.letGo (.promise p)) (r.doJob (.letGo (.promise p))).1
      (r.doJob (.letGo (.promise p))).2 := by
  rcases here : r.promises.held? p with _ | ⟨promise, n⟩
  · have nothing : r.doJob (.letGo (.promise p)) = (r, []) := by
      simp only [doJob, Pool.release, here]
      rfl
    rw [nothing]
    exact .of_same (.refl r) (.refl i _) spares rfl rfl (List.forall_mem_nil _)
  have found := Pool.get?_of_held? here
  rw [letGo_promise here] at retains ⊢
  have free (last : n ≤ 1) := retains.apart_of_last here last
  have total := Pool.total_release here (Promise.keeps i)
  have none (last : n ≤ 1) : promise.keeps i = 0 := homes.keeps_eq_zero found (free last)
  have jobs : ∀ job ∈ (if n ≤ 1 then Job.ofPromise promise else []), job.LetsGo := by
    intro job inside
    split at inside
    · exact Job.ofPromise_letGo promise job inside
    · cases inside
  have drops : ((if n ≤ 1 then Job.ofPromise promise else []).map (Job.drops i)).sum = 0 := by
    split
    · next last =>
      rw [drops_ofPromise fun outcome same => spares.stored p outcome (same ▸ found), none last]
    · rfl
  have keeps : ({ r with promises := (r.promises.release p).2 } : Realm).keeps i = r.keeps i := by
    change r.onTimers i + r.onTasks i + (r.promises.release p).2.total _ =
      r.onTimers i + r.onTasks i + r.promises.total _
    simp only at total
    split at total
    · next last =>
      have := none last
      omega
    · omega
  have now (q : Nat) := Pool.get?_release r.promises p q
  have still (reg : Registration) (member : reg ∈ regs) (mine : reg.callback = i) :
      (r.promises.release p).2.get? reg.promise = r.promises.get? reg.promise := by
    by_cases last : n ≤ 1
    · exact (now reg.promise).resolve_right fun gone => free last reg member mine gone.1
    · exact Pool.get?_release_several here last reg.promise
  constructor
  case kept =>
    have rejections : ({ r with promises := (r.promises.release p).2 } : Realm).rejections regs i =
        r.rejections regs i :=
      rejections_congr fun reg member mine => isRejected_congr (still reg member mine)
    rw [keeps, rejections, Job.sum_eq_zero fun job inside => (jobs job inside).keeps i]
    rfl
  case places =>
    rw [keeps, drops, Job.sum_eq_zero fun job inside => (jobs job inside).keeps i]
    rfl
  case closures => exact .refl i _
  case stored =>
    refine ⟨fun q outcome settled => ?_, spares.passed⟩
    rcases now q with same | ⟨-, gone⟩
    · exact spares.stored q outcome (same ▸ settled)
    · change (r.promises.release p).2.get? q = _ at settled
      rw [gone] at settled
      cases settled
  case spares => exact fun job inside => (jobs job inside).spares i

theorem steady_letGo {v : Value} (apart : v ≠ .function i) (homes : r.Homes regs)
    (spares : r.Spares i) (retains : (r.doJob (.letGo v)).1.Retains regs i) :
    Steady i regs r (.letGo v) (r.doJob (.letGo v)).1 (r.doJob (.letGo v)).2 := by
  have none : Job.drops i (.letGo v) = 0 := if_neg apart
  cases v with
  | promise p => exact steady_letGo_promise homes spares retains
  | function j =>
    exact .of_same (.of_alike ⟨rfl, rfl⟩)
      (Closures.aside_release (fun same => apart (congrArg Value.function same)) _) spares rfl
      none.symm (List.forall_mem_nil _)
  | element e =>
    have jobs : ∀ job ∈ (r.doJob (.letGo (.element e))).2, ∃ c, job = .letGo (.element c) := by
      intro job inside
      simp only [doJob] at inside
      generalize (r.elements.release e).1 = gone at inside
      rcases gone with _ | element
      · cases inside
      · obtain ⟨c, -, same⟩ := List.mem_map.1 inside
        exact ⟨c, same.symm⟩
    refine .of_same (.of_alike ⟨rfl, rfl⟩) (.refl i _) spares (Job.sum_eq_zero fun job inside => ?_)
      ((Job.sum_eq_zero fun job inside => ?_).trans none.symm) fun job inside => ?_
    all_goals
      obtain ⟨c, rfl⟩ := jobs job inside
      trivial
  | _ => exact .of_same (.of_alike ⟨rfl, rfl⟩) (.refl i _) spares rfl rfl (List.forall_mem_nil _)

/-- What a promise is settled with was passed to it, or is what another promise settled with. -/
theorem target_spares (spares : r.Spares i) {v w : Value} (apart : v ≠ .function i)
    (found : r.target p v = .value w) : w ≠ .function i := by
  have follow (q : Nat) (met : r.followPromise p q = .value w) : w ≠ .function i := by
    induction q using Nat.strongRecOn with
    | ind q ih =>
      rw [followPromise] at met
      split at met
      · next inner _ =>
        split at met
        · cases met
        · split at met
          · next smaller => exact ih inner smaller met
          · cases met
      · next x _ stored =>
        cases met
        exact spares.stored q _ stored
      · cases met
      · cases met
  unfold target at found
  split at found
  · split at found
    · cases found
    · exact follow _ found
  · cases found
    exact apart

/-- A promise that comes to wait for another has a reaction with it that is no callback. -/
theorem steady_waiting (r : Realm) (regs : List Registration) (p q : Nat) {v : Value}
    (apart : v ≠ .function i) (spares : r.Spares i) :
    Steady i regs r (.resolve p v) ((r.addReaction q (.forward p)).hold (.promise p))
      [.letGo v] := by
  have same := Same.hold (r.addReaction q (.forward p)) (.promise p)
  have keeps : ((r.addReaction q (.forward p)).hold (.promise p)).keeps i = r.keeps i := by
    rw [same.keeps, keeps_addReaction]
    simp [Reaction.calls]
  have drops : Job.drops i (.letGo v) = 0 := if_neg apart
  constructor
  case kept =>
    rw [keeps, same.rejections, rejections_addReaction]
    rfl
  case places =>
    rw [keeps]
    exact congrArg (r.keeps i + 0 + ·) (congrArg (· + 0) drops)
  case closures => exact .refl i _
  case stored => exact same.spares (spares.addReaction q _)
  case spares => exact fun job inside => (letsGo_singleton v job inside).spares i

theorem steady_resolve {v : Value} (apart : v ≠ .function i) (homes : r.Homes regs)
    (spares : r.Spares i) :
    Steady i regs r (.resolve p v) (r.doJob (.resolve p v)).1 (r.doJob (.resolve p v)).2 := by
  have last : ∀ w, some v = some w → w ≠ .function i := fun w same => Option.some.inj same ▸ apart
  have none : Job.drops i (.letGo v) = 0 := if_neg apart
  simp only [doJob]
  by_cases waiting : r.isPending p = true
  · rw [if_pos waiting]
    obtain ⟨reactions, found⟩ := isPending_eq_true.1 waiting
    rcases met : r.target p v with w | f | q | _
    · dsimp only
      have away : (Outcome.fulfilled w).Spares i := target_spares spares apart met
      rw [settle_pending ((get?_hold r w p).trans found)]
      exact steady_settled homes found spares (.hold r w) (aside_hold (v := w) away r) away
        ⟨rfl, rfl⟩ (some v) last
    · dsimp only
      rw [settle_pending found]
      exact steady_settled homes found spares (.refl r) (.refl i _) (.rejected _ i)
        ⟨rfl, rfl⟩ (some v) last
    · exact steady_waiting r regs p q apart spares
    · dsimp only
      rw [settle_pending found]
      exact steady_settled homes found spares (.refl r) (.refl i _) (.rejected _ i)
        ⟨rfl, rfl⟩ (some v) last
  · rw [if_neg waiting]
    refine .of_same (.refl r) (.refl i _) spares rfl ?_ fun job inside => ?_
    · exact (congrArg (· + 0) none)
    · rw [List.mem_singleton.1 inside]
      trivial

theorem steady_reject (f : Failure) (homes : r.Homes regs) (spares : r.Spares i) :
    Steady i regs r (.reject p f) (r.doJob (.reject p f)).1 (r.doJob (.reject p f)).2 := by
  rcases r.reject_cases p f with ⟨-, done⟩ | ⟨reactions, found, done⟩
  · rw [done]
    exact .of_same (.refl r) (.refl i _) spares rfl rfl (List.forall_mem_nil _)
  · rw [done]
    have steady : Steady i regs r (.reject p f) _ _ :=
      steady_settled homes found spares (.refl r) (.refl i _) (.rejected f i) ⟨rfl, rfl⟩
        none fun _ same => absurd same.symm (Option.some_ne_none _)
    rwa [Option.map_none, Option.toList_none, List.append_nil] at steady

theorem steady_queued {v : Value} (apart : v ≠ .function i) (callback derived : Nat)
    (spares : r.Spares i) :
    Steady i regs r (.react (.call callback derived) (.fulfilled v))
      (r.doJob (.react (.call callback derived) (.fulfilled v))).1 [] := by
  have events := events_hold r v
  have promises : (r.hold v).promises.total (Promise.keeps i) = r.onPromises i := by
    cases v with
    | promise q => exact Pool.total_hold ..
    | _ => rfl
  have queue : (r.doJob (.react (.call callback derived) (.fulfilled v))).1.events =
      r.events.queue ⟨callback, v, some derived⟩ := by
    rw [← events]
    rfl
  have keeps : (r.doJob (.react (.call callback derived) (.fulfilled v))).1.keeps i =
      r.keeps i + if callback = i then 1 else 0 := by
    have tasks : (r.events.microtasks ++ [(⟨callback, v, some derived⟩ : Microtask)]).countP
        (fun task => task.callback = i) = r.onTasks i + if callback = i then 1 else 0 := by
      simp [List.countP_append, List.countP_singleton, onTasks]
    unfold Realm.keeps
    change _ + _ + (r.hold v).promises.total _ = _
    rw [promises, onTimers, onTasks, queue]
    change r.onTimers i + (r.events.microtasks ++ [_]).countP _ + _ = _
    omega
  have calls : Job.keeps i (.react (.call callback derived) (.fulfilled v)) =
      if callback = i then 1 else 0 := by
    simp [Job.keeps, Reaction.calls]
  constructor
  case kept =>
    have rejections :
        (r.doJob (.react (.call callback derived) (.fulfilled v))).1.rejections regs i =
          r.rejections regs i :=
      rejections_congr fun reg _ _ => isRejected_congr (get?_hold r v reg.promise)
    rw [keeps, calls, rejections]
    rfl
  case places =>
    rw [keeps, calls]
    rfl
  case closures => exact aside_hold apart r
  case stored =>
    refine ⟨fun q outcome settled => spares.stored q outcome ?_, fun task inside => ?_⟩
    · rw [← get?_hold r v q]
      exact settled
    · rw [queue] at inside
      rcases List.mem_append.1 inside with old | new
      · exact spares.passed task old
      · rw [List.mem_singleton.1 new]
        exact apart
  case spares => exact List.forall_mem_nil _

theorem steady_react {reaction : Reaction} {outcome : Outcome} (apart : outcome.Spares i)
    (spares : r.Spares i) :
    Steady i regs r (.react reaction outcome) (r.doJob (.react reaction outcome)).1
      (r.doJob (.react reaction outcome)).2 := by
  cases reaction with
  | call callback derived =>
    cases outcome with
    | fulfilled v => exact steady_queued apart callback derived spares
    | rejected f =>
      refine .of_same (.refl r) (.refl i _) spares rfl ?_ ?_
      · simp [doJob, Job.drops, Reaction.calls]
      · simp [doJob, Job.Spares]
  | forward derived =>
    cases outcome with
    | fulfilled v =>
      refine .of_same (.hold r v) (aside_hold apart r) spares rfl rfl ?_
      have away : v ≠ .function i := apart
      simpa [doJob, Job.Spares] using away
    | rejected f =>
      refine .of_same (.refl r) (.refl i _) spares rfl rfl ?_
      simp [doJob, Job.Spares]

/-- Whatever a job does, it leaves a callback in its place or moves it on, unless it lets go of
it. -/
theorem steady_doJob {job : Job} (other : job ≠ .letGo (.function i)) (homes : r.Homes regs)
    (spares : r.Spares i) (apart : job.Spares i) (retains : (r.doJob job).1.Retains regs i) :
    Steady i regs r job (r.doJob job).1 (r.doJob job).2 := by
  cases job with
  | letGo v =>
    exact steady_letGo (fun same => other (congrArg Job.letGo same)) homes spares retains
  | resolve p v => exact steady_resolve apart homes spares
  | reject p f => exact steady_reject f homes spares
  | react reaction outcome => exact steady_react apart spares

end Steps

end Realm

/-- What is said of a closure and of the number of places that keep it. It goes by what happens to
the closure itself, and to each place that lets go of it. -/
structure Custodian (i : Nat) (state : Closures → Nat → Prop) : Prop where
  aside : ∀ c c' n, c.Aside i c' → state c n → state c' n
  release : ∀ c n, state c (n + 1) → state (c.release i) n

/-- In the middle of a cascade a callback has been kept so and so often altogether, its places as
well as its ends counted, and the closure is in a state that goes with its places. -/
structure Tended (i ended whole : Nat) (state : Closures → Nat → Prop) (regs : List Registration)
    (r : Realm) (jobs : List Realm.Job) : Prop where
  kept : r.keeps i + (jobs.map (Realm.Job.keeps i)).sum + r.rejections regs i + ended = whole
  closure : state r.closures
    (r.keeps i + (jobs.map (Realm.Job.keeps i)).sum + (jobs.map (Realm.Job.drops i)).sum)
  stored : r.Spares i
  spares : ∀ job ∈ jobs, job.Spares i

namespace Tended

open Realm

variable {i ended whole : Nat} {state : Closures → Nat → Prop} {regs : List Registration}
  {r : Realm} {job : Job} {rest : List Job}

theorem release (custodian : Custodian i state)
    (tended : Tended i ended whole state regs r (.letGo (.function i) :: rest)) :
    Tended i ended whole state regs (r.doJob (.letGo (.function i))).1
      ((r.doJob (.letGo (.function i))).2 ++ rest) := by
  have drops : Job.drops i (.letGo (.function i)) = 1 := if_pos rfl
  have kept := tended.kept
  have closure := tended.closure
  rw [List.map_cons, List.sum_cons] at kept
  rw [List.map_cons, List.sum_cons, List.map_cons, List.sum_cons, drops] at closure
  constructor
  case kept => exact (congrArg (r.keeps i + · + _ + _) (Nat.zero_add _).symm).trans kept
  case closure =>
    refine custodian.release _ _ ?_
    have count : r.keeps i + (rest.map (Job.keeps i)).sum + (rest.map (Job.drops i)).sum + 1 =
        r.keeps i + (Job.keeps i (.letGo (.function i)) + (rest.map (Job.keeps i)).sum) +
          (1 + (rest.map (Job.drops i)).sum) := by
      change _ = r.keeps i + (0 + _) + _
      omega
    exact count ▸ closure
  case stored => exact ⟨tended.stored.stored, tended.stored.passed⟩
  case spares => exact fun other inside => tended.spares other (List.mem_cons_of_mem _ inside)

theorem steady (custodian : Custodian i state)
    (tended : Tended i ended whole state regs r (job :: rest)) {r' : Realm} {jobs : List Job}
    (steady : Steady i regs r job r' jobs) :
    Tended i ended whole state regs r' (jobs ++ rest) := by
  have kept := tended.kept
  have closure := tended.closure
  have sum := steady.kept
  have places := steady.places
  rw [List.map_cons, List.sum_cons] at kept
  rw [List.map_cons, List.sum_cons, List.map_cons, List.sum_cons] at closure
  constructor
  case kept =>
    rw [List.map_append, List.sum_append]
    omega
  case closure =>
    have count : r'.keeps i + ((jobs ++ rest).map (Job.keeps i)).sum +
        ((jobs ++ rest).map (Job.drops i)).sum = r.keeps i +
          (job.keeps i + (rest.map (Job.keeps i)).sum) +
            (job.drops i + (rest.map (Job.drops i)).sum) := by
      rw [List.map_append, List.sum_append, List.map_append, List.sum_append]
      omega
    rw [count]
    exact custodian.aside _ _ _ steady.closures closure
  case stored => exact steady.stored
  case spares =>
    intro other inside
    rcases List.mem_append.1 inside with new | old
    · exact steady.spares other new
    · exact tended.spares other (List.mem_cons_of_mem _ old)

theorem doJob (custodian : Custodian i state) (homes : r.Homes regs)
    (retains : (r.doJob job).1.Retains regs i)
    (tended : Tended i ended whole state regs r (job :: rest)) :
    Tended i ended whole state regs (r.doJob job).1 ((r.doJob job).2 ++ rest) := by
  by_cases mine : job = .letGo (.function i)
  · subst mine
    exact tended.release custodian
  · exact tended.steady custodian (steady_doJob mine homes tended.stored
      (tended.spares job (List.mem_cons_self ..)) retains)

end Tended

end GuestBridge

import GuestBridge.Proofs.Promises.Delivery
/-!
A new promise and a new registration: what they leave as it was, and where the callback goes.
-/

set_option autoImplicit false

namespace GuestBridge

namespace Registration

variable {regs : List Registration} {reg : Registration} {tasks : List Microtask}

theorem on_concat (regs : List Registration) (reg : Registration) (q : Nat) :
    on (regs ++ [reg]) q = on regs q ++ if reg.promise = q then [reg] else [] := by
  unfold on
  rw [List.filter_append]
  by_cases mine : reg.promise = q
  · simp [mine]
  · simp [mine]

theorem due_concat_other {q : Nat} (other : reg.promise ≠ q) (outcome : Outcome) :
    due (regs ++ [reg]) q outcome = due regs q outcome := by
  cases outcome with
  | fulfilled v =>
    simp only [due]
    rw [on_concat, if_neg other, List.append_nil]
  | rejected f => rfl

/-- A new registration owns none of the microtasks that there are. -/
theorem ofPromise_concat (fresh : ∀ task ∈ tasks, task.settles ≠ some reg.derived) (q : Nat) :
    ofPromise (regs ++ [reg]) q tasks = ofPromise regs q tasks := by
  unfold ofPromise
  apply List.filter_congr
  intro task inside
  refine decide_eq_decide.2 ⟨fun owned => ?_, fun owned => ?_⟩
  · obtain ⟨other, member, settles⟩ := owned
    rw [on_concat] at member
    rcases List.mem_append.1 member with old | new
    · exact ⟨other, old, settles⟩
    · split at new
      · rw [List.mem_singleton.1 new] at settles
        exact absurd settles (fresh task inside)
      · exact absurd new List.not_mem_nil
  · obtain ⟨other, member, settles⟩ := owned
    refine ⟨other, ?_, settles⟩
    rw [on_concat]
    exact List.mem_append_left _ member

theorem Distinct.concat (distinct : Distinct regs)
    (fresh : ∀ other ∈ regs, other.derived ≠ reg.derived) : Distinct (regs ++ [reg]) := by
  unfold Distinct
  rw [List.map_append]
  refine List.nodup_append.2 ⟨distinct, List.nodup_singleton _, ?_⟩
  intro d inside d' last same
  obtain ⟨other, member, is⟩ := List.mem_map.1 inside
  rw [List.mem_singleton.1 last] at same
  exact fresh other member (is.trans same)

theorem Delivered.concat {q : Nat} {promise : Option Promise}
    (delivered : Delivered regs q tasks promise)
    (fresh : ∀ task ∈ tasks, task.settles ≠ some reg.derived) (other : reg.promise ≠ q) :
    Delivered (regs ++ [reg]) q tasks promise := by
  have same : ofPromise (regs ++ [reg]) q tasks = ofPromise regs q tasks :=
    ofPromise_concat fresh q
  unfold Delivered at delivered ⊢
  rw [same]
  rcases promise with _ | ⟨reactions⟩ | outcome
  · rcases delivered with none | ⟨v, all⟩
    · exact .inl none
    · exact .inr ⟨v, all.trans (due_concat_other other _).symm⟩
  · exact delivered
  · exact delivered.trans (due_concat_other other outcome).symm

end Registration

namespace Realm

section Registering

variable {regs : List Registration} {taken : List Microtask} {r : Realm} {p callback derived : Nat}

/-- The promises with one more at the end. -/
def added (r : Realm) (promise : Promise) (holders : Nat) : Realm :=
  { r with promises := (r.promises.add promise holders).2 }

theorem get?_size (r : Realm) : r.promises.get? r.promises.size = none := by
  unfold Pool.get?
  rw [Pool.held?_eq_none_of_size_le (Nat.le_refl _)]
  rfl

theorem Delivering.added (delivering : Delivering regs taken r [])
    (old : ∀ reg ∈ regs, reg.promise < r.promises.size ∧ reg.derived < r.promises.size)
    {promise : Promise} (bare : ∀ reactions, promise = .pending reactions → reactions = [])
    (holders : Nat) : Delivering regs taken (r.added promise holders) [] := by
  have now : ∀ q, (r.added promise holders).promises.get? q =
      if q = r.promises.size then some promise else r.promises.get? q :=
    Pool.get?_add r.promises promise holders
  have nobody : Registration.on regs r.promises.size = [] := by
    apply List.filter_eq_nil_iff.2
    intro reg member mine
    have same : reg.promise = r.promises.size := of_decide_eq_true mine
    have := (old reg member).1
    omega
  constructor
  case distinct => exact delivering.distinct
  case known => exact delivering.known
  case waiting =>
    intro q reactions here
    rw [now] at here
    split at here
    · next same =>
      rw [bare reactions (Option.some.inj here), same, nobody]
      rfl
    · exact delivering.waiting q reactions here
  case delivered =>
    intro q
    rw [now]
    split
    · next same =>
      have none : Registration.ofPromise regs q (allTasks taken r []) = [] := by
        have before := delivering.delivered q
        rw [same, get?_size] at before
        rw [same]
        rcases before with empty | ⟨v, all⟩
        · exact empty
        · rw [all]
          simp only [Registration.due, nobody, List.map_nil]
      cases promise with
      | pending reactions => exact none
      | settled outcome =>
        apply none.trans
        rw [same]
        cases outcome with
        | fulfilled v =>
          simp only [Registration.due, nobody, List.map_nil]
        | rejected f => rfl
    · exact delivering.delivered q
  case rejected =>
    intro reg member f here pending
    have lower := old reg member
    rw [now, if_neg (by omega)] at here
    unfold isPending at pending
    rw [now, if_neg (by omega)] at pending
    exact delivering.rejected reg member f here pending

theorem Delivering.unsettled (delivering : Delivering regs taken r [])
    (fresh : ∀ reg ∈ regs, reg.derived ≠ derived) :
    ∀ task ∈ allTasks taken r [], task.settles ≠ some derived := by
  intro task inside settles
  obtain ⟨reg, member, same⟩ := delivering.known task inside
  exact fresh reg member (Option.some.inj (same.symm.trans settles))

/-- A callback is registered on a pending promise and waits there. -/
theorem Delivering.register_pending (delivering : Delivering regs taken r [])
    {reactions : List Reaction} (found : r.promises.get? p = some (.pending reactions))
    (fresh : ∀ reg ∈ regs, reg.derived ≠ derived) :
    Delivering (regs ++ [⟨p, callback, derived⟩]) taken
      (r.addReaction p (.call callback derived)) [] := by
  have now : ∀ q, (r.addReaction p (.call callback derived)).promises.get? q =
      if q = p then some (.pending (reactions ++ [.call callback derived]))
      else r.promises.get? q := by
    intro q
    unfold addReaction
    simp only [Pool.get?_modify, found]
    rfl
  have unsettled := delivering.unsettled fresh
  constructor
  case distinct =>
    exact delivering.distinct.concat fresh
  case known =>
    intro task inside
    obtain ⟨reg, member, settles⟩ := delivering.known task inside
    exact ⟨reg, List.mem_append_left _ member, settles⟩
  case waiting =>
    intro q others here
    rw [now] at here
    rw [Registration.on_concat]
    by_cases same : q = p
    · subst same
      rw [if_pos rfl] at here
      cases here
      rw [if_pos rfl, List.filter_append, delivering.waiting q reactions found, List.map_append]
      rfl
    · rw [if_neg same] at here
      rw [if_neg (Ne.symm same), List.append_nil]
      exact delivering.waiting q others here
  case delivered =>
    intro q
    rw [now]
    have before := delivering.delivered q
    by_cases same : q = p
    · subst same
      rw [if_pos rfl]
      rw [found] at before
      exact (Registration.ofPromise_concat unsettled q).trans before
    · rw [if_neg same]
      exact before.concat unsettled (Ne.symm same)
  case rejected =>
    intro reg member f here pending
    rw [now] at here
    have pendingBefore : r.isPending reg.derived = true := by
      unfold isPending at pending ⊢
      rw [now] at pending
      split at pending
      · next same =>
        rw [same, found]
        rfl
      · exact pending
    split at here
    · cases here
    · next other =>
      rcases List.mem_append.1 member with old | new
      · exact delivering.rejected reg old f here pendingBefore
      · rw [List.mem_singleton.1 new] at other
        exact absurd rfl other

theorem tasks_call (taken : List Microtask) (r : Realm) (callback derived : Nat)
    (outcome : Outcome) :
    allTasks taken r [.react (.call callback derived) outcome] =
      allTasks taken r [] ++ (Job.react (.call callback derived) outcome).task?.toList := by
  unfold allTasks
  cases outcome with
  | fulfilled v => exact (congrArg (· ++ _) (List.append_nil _).symm)
  | rejected f => exact (List.append_nil _).symm

/-- A callback that is registered on a settled promise is none of another promise. -/
theorem Delivering.tasks_register (delivering : Delivering regs taken r [])
    (fresh : ∀ reg ∈ regs, reg.derived ≠ derived) (callback : Nat) (outcome : Outcome) {q : Nat}
    (other : q ≠ p) :
    Registration.ofPromise (regs ++ [⟨p, callback, derived⟩]) q
        (allTasks taken r [.react (.call callback derived) outcome]) =
      Registration.ofPromise regs q (allTasks taken r []) := by
  have distinct : Registration.Distinct (regs ++ [⟨p, callback, derived⟩]) :=
    delivering.distinct.concat fresh
  have last : (⟨p, callback, derived⟩ : Registration) ∈
      regs ++ [⟨p, callback, derived⟩] := List.mem_append_right _ (List.mem_singleton.2 rfl)
  have none : Registration.ofPromise (regs ++ [⟨p, callback, derived⟩]) q
      (Job.react (.call callback derived) outcome).task?.toList = [] := by
    apply List.filter_eq_nil_iff.2
    intro task inside owned
    have settles : task.settles = some derived := by
      cases outcome with
      | fulfilled v => rw [List.mem_singleton.1 inside]
      | rejected f => exact absurd inside List.not_mem_nil
    obtain ⟨reg, mine, is⟩ := of_decide_eq_true owned
    have alike : reg.derived = derived := Option.some.inj (is.symm.trans settles)
    have equal := Registration.eq_of_derived distinct (Registration.mem_on.1 mine).1 last alike
    rw [equal] at mine
    exact other (Registration.mem_on.1 mine).2.symm
  rw [tasks_call, Registration.ofPromise_append, none, List.append_nil,
    Registration.ofPromise_concat (delivering.unsettled fresh)]

/-- A callback is registered on a settled promise: its job is to be done at once. -/
theorem Delivering.register_settled (delivering : Delivering regs taken r [])
    {outcome : Outcome} (found : r.promises.get? p = some (.settled outcome))
    (fresh : ∀ reg ∈ regs, reg.derived ≠ derived) :
    Delivering (regs ++ [⟨p, callback, derived⟩]) taken r
      [.react (.call callback derived) outcome] := by
  have unsettled := delivering.unsettled fresh
  have distinct : Registration.Distinct (regs ++ [⟨p, callback, derived⟩]) :=
    delivering.distinct.concat fresh
  have last : (⟨p, callback, derived⟩ : Registration) ∈
      regs ++ [⟨p, callback, derived⟩] := List.mem_append_right _ (List.mem_singleton.2 rfl)
  have tasks := tasks_call taken r callback derived outcome
  constructor
  case distinct => exact distinct
  case known =>
    intro task inside
    rw [tasks] at inside
    rcases List.mem_append.1 inside with old | new
    · obtain ⟨reg, member, settles⟩ := delivering.known task old
      exact ⟨reg, List.mem_append_left _ member, settles⟩
    · cases outcome with
      | fulfilled v =>
        rw [List.mem_singleton.1 new]
        exact ⟨_, last, rfl⟩
      | rejected f => exact absurd new List.not_mem_nil
  case waiting =>
    intro q others here
    rw [Registration.on_concat]
    by_cases same : q = p
    · rw [same, found] at here
      cases here
    · rw [if_neg (Ne.symm same), List.append_nil]
      exact delivering.waiting q others here
  case delivered =>
    intro q
    have before := delivering.delivered q
    rw [tasks]
    by_cases same : q = p
    · subst same
      rw [found] at before ⊢
      change Registration.ofPromise _ q _ = Registration.due _ q outcome
      rw [Registration.ofPromise_append, Registration.ofPromise_concat unsettled, before]
      cases outcome with
      | fulfilled v =>
        have mine : Registration.Owns (regs ++ [⟨q, callback, derived⟩]) q
            ⟨callback, v, some derived⟩ :=
          ⟨_, Registration.mem_on.2 ⟨last, rfl⟩, rfl⟩
        simp only [Registration.due, Registration.on_concat, ↓reduceIte, List.map_append]
        apply congrArg (_ ++ ·)
        exact List.filter_eq_self.2 fun task inside => by
          rw [List.mem_singleton.1 inside]
          exact decide_eq_true mine
      | rejected f => rfl
    · have others : Registration.Delivered (regs ++ [⟨p, callback, derived⟩]) q
          (allTasks taken r []) (r.promises.get? q) := before.concat unsettled (Ne.symm same)
      rw [← tasks]
      apply others.congr
      rw [delivering.tasks_register fresh callback outcome same,
        Registration.ofPromise_concat unsettled]
  case rejected =>
    intro reg member f here pending
    rcases List.mem_append.1 member with old | new
    · obtain ⟨job, inside, -⟩ := delivering.rejected reg old f here pending
      exact absurd inside List.not_mem_nil
    · rw [List.mem_singleton.1 new] at here ⊢
      rw [found] at here
      cases here
      exact ⟨_, List.mem_singleton.2 rfl, rfl⟩

/-- No job makes a promise. -/
theorem size_doJob (r : Realm) (job : Job) :
    (r.doJob job).1.promises.size = r.promises.size := by
  cases job with
  | letGo v =>
    cases v with
    | promise p => exact Pool.size_release ..
    | _ => rfl
  | resolve p v =>
    rcases r.resolve_cases p v with ⟨-, done⟩ |
      ⟨reactions, outcome, base, -, -, alike, -, done⟩ | ⟨q, -, -, -, done⟩
    · rw [done]
    · rw [done]
      exact (Pool.size_modify ..).trans (congrArg Pool.size alike.promises)
    · rw [done]
      exact (Pool.size_hold ..).trans (Pool.size_modify ..)
  | reject p f =>
    rcases r.reject_cases p f with ⟨-, done⟩ | ⟨reactions, -, done⟩
    · rw [done]
    · rw [done]
      exact Pool.size_modify ..
  | react reaction outcome =>
    have same : ∀ v : Value, (r.hold v).promises.size = r.promises.size := by
      intro v
      cases v with
      | promise q => exact Pool.size_hold ..
      | _ => rfl
    cases reaction with
    | call callback derived =>
      cases outcome with
      | fulfilled v => exact same v
      | rejected f => rfl
    | forward derived =>
      cases outcome with
      | fulfilled v => exact same v
      | rejected f => rfl

theorem size_run (r : Realm) (jobs : List Job) : (r.run jobs).promises.size = r.promises.size :=
  run_induction (P := fun now _ => now.promises.size = r.promises.size)
    (fun now job _ before => (size_doJob now job).trans before) rfl

end Registering

namespace Balanced

variable {r : Realm} {owned owned' : Nat → Nat} {jobs jobs' : List Job}

/-- What a caller passes on is there. -/
theorem there_of_owned (balanced : Balanced r owned jobs) {q : Nat} (mine : 0 < owned q) :
    ∃ promise, r.promises.get? q = some promise := by
  apply present_of_holders
  rw [balanced.count q]
  omega

/-- Another promise, and the mentions that it takes over from jobs. -/
theorem added (balanced : Balanced r owned jobs) {promise : Promise} {holders : Nat}
    (plain : ∀ job ∈ jobs', job.Plain)
    (moves : ∀ q, owned' q + promise.mentions q + Job.allMention jobs' q =
      owned q + Job.allMention jobs q + if r.promises.size = q then holders else 0) :
    Balanced (r.added promise holders) owned' jobs' where
  count := by
    intro q
    have before := balanced.count q
    have moved := moves q
    have mentions : (r.added promise holders).mentions q = r.mentions q + promise.mentions q := by
      have sum := Pool.total_add r.promises promise holders (Promise.mentions q)
      unfold Realm.mentions Realm.added
      simp only
      omega
    have held : (r.added promise holders).holders q =
        r.holders q + if r.promises.size = q then holders else 0 :=
      Pool.holders_add ..
    omega
  plain := plain

/-- The promise that a registration leads to: a job holds it, and so does the caller. -/
theorem registering (balanced : Balanced r owned []) :
    Balanced (r.added (.pending []) 2) (fun q => owned q + if r.promises.size = q then 1 else 0)
      [.letGo (.promise r.promises.size)] := by
  refine balanced.added (fun job inside => ?_) fun q => ?_
  · rw [List.mem_singleton.1 inside]
    trivial
  · change (owned q + if r.promises.size = q then 1 else 0) + 0 +
      ((if r.promises.size = q then 1 else 0) + 0) =
      owned q + 0 + if r.promises.size = q then 2 else 0
    split <;> omega

/-- A reaction of a pending promise takes over what a job held. -/
theorem addCall {derived : Nat} (balanced : Balanced r owned [.letGo (.promise derived)]) {p : Nat}
    (waiting : r.isPending p = true) (callback : Nat) :
    Balanced (r.addReaction p (.call callback derived)) owned [] := by
  apply balanced.next (fun job inside => absurd inside List.not_mem_nil)
  intro q
  rw [holders_addReaction, mentions_addReaction waiting]
  change _ + _ + (if derived = q then 1 else 0) = _ + (_ + if derived = q then 1 else 0) + 0
  omega

/-- So does the job that a rejected promise makes of it. -/
theorem rejecting {derived : Nat} (balanced : Balanced r owned [.letGo (.promise derived)])
    (callback : Nat) (f : Failure) :
    Balanced r owned [.react (.call callback derived) (.rejected f)] := by
  refine ⟨balanced.count, fun job inside => ?_⟩
  rw [List.mem_singleton.1 inside]
  trivial

/-- A value that is held for a job. -/
theorem hold (balanced : Balanced r owned []) {v : Value}
    (there : ∀ p, v = .promise p → ∃ promise, r.promises.get? p = some promise) (job : Job)
    (plain : job.Plain) (uses : ∀ q, job.mentions q = v.mentions q) :
    Balanced (r.hold v) owned [job] where
  count := by
    intro q
    have before := balanced.count q
    rw [holders_hold there, mentions_hold, Job.allMention_cons, uses, before]
    change owned q + r.mentions q + 0 + v.mentions q =
      owned q + r.mentions q + (v.mentions q + 0)
    omega
  plain := by
    intro other inside
    rw [List.mem_singleton.1 inside]
    exact plain

/-- A job that holds nothing. -/
theorem bare (balanced : Balanced r owned []) (job : Job) (plain : job.Plain)
    (none : ∀ q, job.mentions q = 0) : Balanced r owned [job] where
  count := by
    intro q
    have before := balanced.count q
    rw [Job.allMention_cons, none, before]
    rfl
  plain := by
    intro other inside
    rw [List.mem_singleton.1 inside]
    exact plain

theorem keep (balanced : Balanced r owned []) {p : Nat} (mine : 0 < owned p) :
    Balanced (r.hold (.promise p)) (fun q => owned q + if p = q then 1 else 0) [] where
  count := by
    intro q
    have before := balanced.count q
    have there := balanced.there_of_owned mine
    rw [holders_hold (fun x same => by cases same; exact there), mentions_hold, before]
    change owned q + _ + 0 + (if p = q then 1 else 0) = _ + _ + 0
    omega
  plain := balanced.plain

/-- A caller hands a promise over to the job that lets go of it. -/
theorem giveUp (balanced : Balanced r owned []) {p : Nat} (mine : 0 < owned p) :
    Balanced r (fun q => owned q - if p = q then 1 else 0) [.letGo (.promise p)] where
  count := by
    intro q
    rw [balanced.count q]
    change owned q + _ + 0 = (owned q - if p = q then 1 else 0) + _ + ((if p = q then 1 else 0) + 0)
    split
    · next same =>
      rw [← same]
      omega
    · omega
  plain := by
    intro other inside
    rw [List.mem_singleton.1 inside]
    trivial

end Balanced

section Begin

variable {regs : List Registration} {taken : List Microtask} {r r' : Realm} {jobs : List Job}

/-- What is held may differ, but nothing else of promises and microtasks does. -/
structure Same (r r' : Realm) : Prop where
  promises : ∀ q, r'.promises.get? q = r.promises.get? q
  size : r'.promises.size = r.promises.size
  events : r'.events = r.events

theorem Same.refl (r : Realm) : Same r r := ⟨fun _ => rfl, rfl, rfl⟩

theorem Same.of_alike (alike : Alike r r') : Same r r' :=
  ⟨fun q => by rw [alike.promises], by rw [alike.promises], alike.events⟩

theorem Same.hold (r : Realm) (v : Value) : Same r (r.hold v) where
  promises := get?_hold r v
  size := by
    cases v with
    | promise p => exact Pool.size_hold ..
    | _ => rfl
  events := events_hold r v

/-- A cascade begins with jobs that queue nothing themselves. -/
theorem Delivering.begin (delivering : Delivering regs taken r []) (same : Same r r')
    (quiet : jobs.filterMap Job.task? = []) : Delivering regs taken r' jobs := by
  have promises := same.promises
  have tasks : allTasks taken r' jobs = allTasks taken r [] := by
    unfold allTasks
    rw [same.events, quiet]
    rfl
  constructor
  case distinct => exact delivering.distinct
  case known => exact tasks ▸ delivering.known
  case waiting =>
    intro q reactions here
    exact delivering.waiting q reactions (promises q ▸ here)
  case delivered =>
    intro q
    rw [tasks, promises]
    exact delivering.delivered q
  case rejected =>
    intro reg member f here pending
    have before : r.isPending reg.derived = true := by
      unfold isPending at pending ⊢
      rw [← promises]
      exact pending
    obtain ⟨job, inside, -⟩ := delivering.rejected reg member f (promises _ ▸ here) before
    exact absurd inside List.not_mem_nil

theorem get?_added (r : Realm) (promise : Promise) (holders q : Nat) :
    (r.added promise holders).promises.get? q =
      if q = r.promises.size then some promise else r.promises.get? q :=
  Pool.get?_add r.promises promise holders q

theorem size_added (r : Realm) (promise : Promise) (holders : Nat) :
    (r.added promise holders).promises.size = r.promises.size + 1 :=
  Pool.size_add ..

theorem lt_size_of_get? {q : Nat} {promise : Promise} (found : r.promises.get? q = some promise) :
    q < r.promises.size := by
  obtain ⟨n, here⟩ := Pool.held?_of_get? found
  exact Pool.lt_size_of_held? here

/-- A callback is kept with a pending promise, and goes to work on a settled one. -/
theorem andThen_pending {p : Nat} {reactions : List Reaction}
    (found : r.promises.get? p = some (.pending reactions)) (callback : Nat) :
    r.andThen p callback = (r.promises.size,
      (r.added (.pending []) 2).addReaction p (.call callback r.promises.size)) := by
  have still : (r.added (.pending []) 2).promises.get? p = some (.pending reactions) := by
    rw [get?_added, if_neg (Nat.ne_of_lt (lt_size_of_get? found)), found]
  unfold Realm.added at still
  simp only [andThen, Pool.add] at still ⊢
  rw [still]
  rfl

theorem andThen_fst (r : Realm) (p callback : Nat) :
    (r.andThen p callback).1 = r.promises.size := by
  simp only [andThen]
  split <;> rfl

theorem andThen_settled {p : Nat} {outcome : Outcome}
    (found : r.promises.get? p = some (.settled outcome)) (callback : Nat) :
    r.andThen p callback = (r.promises.size,
      (r.added (.pending []) 2).run [.react (.call callback r.promises.size) outcome]) := by
  have still : (r.added (.pending []) 2).promises.get? p = some (.settled outcome) := by
    rw [get?_added, if_neg (Nat.ne_of_lt (lt_size_of_get? found)), found]
  unfold Realm.added at still
  simp only [andThen, Pool.add] at still ⊢
  rw [still]
  rfl

/-- The microtask of a callback on a fulfilled promise takes over what was kept for it. -/
theorem Balanced.queued {owned : Nat → Nat} {derived : Nat} {v : Value}
    (balanced : r.Balanced owned [.letGo (.promise derived)])
    (there : ∀ x, v = .promise x → ∃ promise, r.promises.get? x = some promise) (callback : Nat) :
    (r.run [.react (.call callback derived) (.fulfilled v)]).Balanced owned [] := by
  have ran : r.run [.react (.call callback derived) (.fulfilled v)] =
      { r.hold v with events := (r.hold v).events.queue ⟨callback, v, some derived⟩ } := by
    rw [Realm.run]
    change Realm.run _ [] = _
    rw [Realm.run]
    rfl
  rw [ran]
  apply balanced.next (fun job inside => absurd inside List.not_mem_nil)
  intro q
  have queued := mentions_queue (r.hold v) ⟨callback, v, some derived⟩ q
  have task : Microtask.mentions q ⟨callback, v, some derived⟩ =
      v.mentions q + if derived = q then 1 else 0 := by
    simp only [Microtask.mentions, Option.some.injEq]
  rw [mentions_hold, task] at queued
  change (r.hold v).holders q + r.mentions q + (if derived = q then 1 else 0) =
    r.holders q + _ + 0
  rw [queued, holders_hold there]
  omega

end Begin

end Realm

end GuestBridge

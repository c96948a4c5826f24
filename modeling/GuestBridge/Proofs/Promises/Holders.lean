import GuestBridge.Proofs.Promises.Jobs
/-!
Who holds a promise. The count kept for it is the number of places that mention it: the callers
from outside, other promises, microtasks, and the jobs of a cascade that are still to be done.
-/

set_option autoImplicit false

namespace GuestBridge

def Value.mentions (q : Nat) : Value → Nat
  | .promise p => if p = q then 1 else 0
  | _ => 0

def Promise.mentions (q : Nat) : Promise → Nat
  | .pending reactions => reactions.countP fun reaction => reaction.derived = q
  | .settled (.fulfilled v) => v.mentions q
  | .settled (.rejected _) => 0

def Microtask.mentions (q : Nat) (task : Microtask) : Nat :=
  task.argument.mentions q + if task.settles = some q then 1 else 0

theorem Value.mentions_plain {v : Value} (plain : v.Plain) (q : Nat) : v.mentions q = 0 := by
  cases v with
  | promise p => exact (plain p rfl).elim
  | _ => rfl

namespace Realm

/-- What a job uses up. -/
def Job.mentions (q : Nat) : Job → Nat
  | .letGo v => v.mentions q
  | .resolve _ v => v.mentions q
  | .reject .. => 0
  | .react reaction _ => if reaction.derived = q then 1 else 0

def Job.allMention (jobs : List Job) (q : Nat) : Nat := (jobs.map (mentions q)).sum

/-- A job that hands on an outcome has no promise for it. -/
def Job.Plain : Job → Prop
  | .react _ outcome => outcome.Plain
  | _ => True

theorem Job.allMention_append (a b : List Job) (q : Nat) :
    allMention (a ++ b) q = allMention a q + allMention b q := by
  unfold allMention
  rw [List.map_append, List.sum_append]

theorem Job.allMention_cons (job : Job) (rest : List Job) (q : Nat) :
    allMention (job :: rest) q = job.mentions q + allMention rest q := rfl

theorem Job.sum_eq_zero {f : Job → Nat} {jobs : List Job} (none : ∀ job ∈ jobs, f job = 0) :
    (jobs.map f).sum = 0 := by
  induction jobs with
  | nil => rfl
  | cons job rest ih =>
    rw [List.map_cons, List.sum_cons, none job (List.mem_cons_self ..),
      ih fun other inside => none other (List.mem_cons_of_mem _ inside)]

theorem Job.allMention_eq_zero {jobs : List Job} {q : Nat}
    (none : ∀ job ∈ jobs, job.mentions q = 0) : allMention jobs q = 0 := sum_eq_zero none

theorem Job.allMention_reactions (reactions : List Reaction) (outcome : Outcome) (q : Nat) :
    allMention (reactions.map fun reaction => .react reaction outcome) q =
      reactions.countP fun reaction => reaction.derived = q := by
  induction reactions with
  | nil => rfl
  | cons reaction rest ih =>
    rw [List.map_cons, allMention_cons, ih, List.countP_cons]
    simp only [mentions, decide_eq_true_eq]
    omega

theorem Job.allMention_ofReaction (reaction : Reaction) (q : Nat) :
    allMention (ofReaction reaction) q = if reaction.derived = q then 1 else 0 := by
  cases reaction with
  | call callback derived =>
    change 0 + ((if derived = q then 1 else 0) + 0) = if derived = q then 1 else 0
    omega
  | forward derived => rfl

/-- A promise that goes away leaves what it mentions to be let go. -/
theorem Job.allMention_ofPromise (promise : Promise) (q : Nat) :
    allMention (ofPromise promise) q = promise.mentions q := by
  cases promise with
  | settled outcome =>
    cases outcome with
    | fulfilled v => rfl
    | rejected f => rfl
  | pending reactions =>
    simp only [ofPromise, Promise.mentions]
    induction reactions with
    | nil => rfl
    | cons reaction rest ih =>
      rw [List.flatMap_cons, allMention_append, ih, allMention_ofReaction, List.countP_cons]
      simp only [decide_eq_true_eq]
      omega

/-- How many places hold a promise, by the count that is kept. -/
def holders (r : Realm) (q : Nat) : Nat := ((r.promises.held? q).map Held.holders).getD 0

/-- How many places in the realm mention a promise. -/
def mentions (r : Realm) (q : Nat) : Nat :=
  r.promises.total (Promise.mentions q) + (r.events.microtasks.map (Microtask.mentions q)).sum

section Counts

variable {r r' : Realm} {p q : Nat}

theorem Alike.holders (alike : Alike r r') (q : Nat) : r'.holders q = r.holders q := by
  unfold Realm.holders
  rw [alike.promises]

theorem Alike.mentions (alike : Alike r r') (q : Nat) : r'.mentions q = r.mentions q := by
  unfold Realm.mentions
  rw [alike.promises, alike.events]

theorem present_of_holders (some : 0 < r.holders q) :
    ∃ promise, r.promises.get? q = Option.some promise :=
  Pool.contains_iff.1 (Pool.contains_of_holders some)

theorem holders_settled (r : Realm) (p : Nat) (outcome : Outcome) (q : Nat) :
    (r.settled p outcome).holders q = r.holders q :=
  Pool.holders_modify ..

theorem mentions_settled {reactions : List Reaction}
    (found : r.promises.get? p = some (.pending reactions)) (outcome : Outcome) (q : Nat) :
    (r.settled p outcome).mentions q + reactions.countP (fun reaction => reaction.derived = q) =
      r.mentions q + Promise.mentions q (.settled outcome) := by
  obtain ⟨n, here⟩ := Pool.held?_of_get? found
  have changed : (r.promises.modify p fun _ => .settled outcome).total (Promise.mentions q) +
      reactions.countP (fun reaction => reaction.derived = q) =
      r.promises.total (Promise.mentions q) + Promise.mentions q (.settled outcome) :=
    Pool.total_modify here _ _
  unfold Realm.mentions settled
  simp only
  omega

theorem Outcome.mentions_plain {outcome : Outcome} (plain : outcome.Plain) (q : Nat) :
    Promise.mentions q (.settled outcome) = 0 := by
  cases outcome with
  | fulfilled v => exact Value.mentions_plain plain q
  | rejected f => rfl

theorem holders_addReaction (r : Realm) (p : Nat) (reaction : Reaction) (q : Nat) :
    (r.addReaction p reaction).holders q = r.holders q :=
  Pool.holders_modify ..

theorem mentions_addReaction (waiting : r.isPending p = true) (reaction : Reaction) (q : Nat) :
    (r.addReaction p reaction).mentions q =
      r.mentions q + if reaction.derived = q then 1 else 0 := by
  obtain ⟨reactions, found⟩ := isPending_eq_true.1 waiting
  obtain ⟨n, here⟩ := Pool.held?_of_get? found
  have changed := Pool.total_modify here (Promise.withReaction reaction) (Promise.mentions q)
  simp only [Promise.withReaction, Promise.mentions, List.countP_append, List.countP_singleton,
    decide_eq_true_eq] at changed
  unfold Realm.mentions addReaction
  simp only
  omega

/-- A hold counts, if there is something to hold. -/
theorem holders_hold {v : Value}
    (there : ∀ p, v = .promise p → ∃ promise, r.promises.get? p = some promise) (q : Nat) :
    (r.hold v).holders q = r.holders q + v.mentions q := by
  cases v with
  | promise p => exact Pool.holders_hold (Pool.contains_iff.2 (there p rfl)) q
  | _ => rfl

theorem mentions_hold (r : Realm) (v : Value) (q : Nat) : (r.hold v).mentions q = r.mentions q := by
  cases v with
  | promise p =>
    unfold Realm.mentions hold
    rw [Pool.total_hold]
  | _ => rfl

theorem holders_release (r : Realm) (p q : Nat) :
    ({ r with promises := (r.promises.release p).2 } : Realm).holders q =
      r.holders q - if p = q then 1 else 0 :=
  Pool.holders_release r.promises p q

theorem mentions_release {promise : Promise} {n : Nat}
    (found : r.promises.held? p = some ⟨promise, n⟩) (q : Nat) :
    ({ r with promises := (r.promises.release p).2 } : Realm).mentions q +
        (if n ≤ 1 then promise.mentions q else 0) = r.mentions q := by
  have sum := Pool.total_release found (Promise.mentions q)
  unfold Realm.mentions
  simp only at sum ⊢
  omega

theorem mentions_queue (r : Realm) (task : Microtask) (q : Nat) :
    ({ r with events := r.events.queue task } : Realm).mentions q =
      r.mentions q + task.mentions q := by
  unfold Realm.mentions EventLoop.queue
  simp only [List.map_append, List.sum_append, List.map_cons, List.map_nil, List.sum_cons,
    List.sum_nil]
  omega

/-- What a promise mentions is mentioned in the realm. -/
theorem le_mentions {promise : Promise} (found : r.promises.get? p = some promise) (q : Nat) :
    promise.mentions q ≤ r.mentions q := by
  obtain ⟨n, here⟩ := Pool.held?_of_get? found
  have most := Pool.le_total here (Promise.mentions q)
  unfold Realm.mentions
  simp only at most
  omega

end Counts

/-- The counts are right, in the middle of a cascade, with so many callers from outside. -/
structure Balanced (r : Realm) (owned : Nat → Nat) (jobs : List Job) : Prop where
  count : ∀ q, r.holders q = owned q + r.mentions q + Job.allMention jobs q
  plain : ∀ job ∈ jobs, job.Plain

namespace Balanced

variable {r : Realm} {owned : Nat → Nat} {job : Job} {jobs rest : List Job}

theorem there (balanced : Balanced r owned (job :: rest)) {q : Nat}
    (mentioned : 0 < job.mentions q) : ∃ promise, r.promises.get? q = some promise := by
  apply present_of_holders
  rw [balanced.count q, Job.allMention_cons]
  omega

theorem closed (balanced : Balanced r owned jobs) : r.Closed := by
  intro q x found
  have some := le_mentions found x
  simp only [Promise.mentions, Value.mentions, ↓reduceIte] at some
  apply present_of_holders
  rw [balanced.count x]
  omega

/-- The counts stay right when a job moves as many mentions as it moves holders. -/
theorem next (balanced : Balanced r owned (job :: rest)) {r' : Realm} {jobs' : List Job}
    (plain : ∀ other ∈ jobs', other.Plain)
    (moves : ∀ q, r'.holders q + r.mentions q + job.mentions q =
      r.holders q + r'.mentions q + Job.allMention jobs' q) :
    Balanced r' owned (jobs' ++ rest) where
  count := by
    intro q
    have before := balanced.count q
    have moved := moves q
    rw [Job.allMention_cons] at before
    rw [Job.allMention_append]
    omega
  plain := by
    intro other inside
    rcases List.mem_append.1 inside with new | old
    · exact plain other new
    · exact balanced.plain other (List.mem_cons_of_mem _ old)

/-- The reactions of a promise pass to the jobs that settling it makes of them. -/
theorem settle (balanced : Balanced r owned (job :: rest)) {p : Nat} {reactions : List Reaction}
    (found : r.promises.get? p = some (.pending reactions)) {outcome : Outcome}
    (plain : outcome.Plain) {base : Realm} (alike : Alike r base) (v : Option Value)
    (uses : ∀ q, job.mentions q = (v.map (Value.mentions q)).getD 0) :
    Balanced (base.settled p outcome) owned
      (((reactions.map fun reaction => .react reaction outcome) ++
        (v.map Job.letGo).toList) ++ rest) := by
  refine balanced.next (fun other inside => ?_) fun q => ?_
  · rcases List.mem_append.1 inside with new | last
    · obtain ⟨reaction, -, same⟩ := List.mem_map.1 new
      subst same
      exact plain
    · rcases v with _ | v
      · exact absurd last List.not_mem_nil
      · rw [List.mem_singleton.1 last]
        trivial
  · have changed := mentions_settled (alike.promises ▸ found) outcome q
    rw [alike.mentions, Outcome.mentions_plain plain] at changed
    have last : Job.allMention (v.map Job.letGo).toList q = (v.map (Value.mentions q)).getD 0 := by
      cases v <;> rfl
    rw [holders_settled, alike.holders, Job.allMention_append, Job.allMention_reactions, uses, last]
    omega

theorem doJob_letGo {v : Value} (balanced : Balanced r owned (.letGo v :: rest)) :
    Balanced (r.doJob (.letGo v)).1 owned ((r.doJob (.letGo v)).2 ++ rest) := by
  by_cases plain : v.Plain
  · obtain ⟨alike, after⟩ := letGo_plain r plain
    have nothing : ∀ q, Job.allMention (r.doJob (.letGo v)).2 q = 0 := by
      intro q
      apply Job.allMention_eq_zero
      intro other inside
      obtain ⟨w, plain, form⟩ := after other inside
      rw [form]
      exact Value.mentions_plain plain q
    refine balanced.next (fun other inside => ?_) fun q => ?_
    · obtain ⟨w, -, form⟩ := after other inside
      rw [form]
      trivial
    · have none : Job.mentions q (.letGo v) = 0 := Value.mentions_plain plain q
      rw [alike.holders, alike.mentions, nothing, none]
  · have promise : ∃ p, v = .promise p := by
      cases v with
      | promise p => exact ⟨p, rfl⟩
      | _ => exact (plain fun _ other => nomatch other).elim
    obtain ⟨p, rfl⟩ := promise
    have mentioned : Job.mentions p (.letGo (.promise p)) = 1 := if_pos rfl
    obtain ⟨promise, found⟩ := balanced.there (q := p) (by omega)
    obtain ⟨n, here⟩ := Pool.held?_of_get? found
    rw [letGo_promise here]
    simp only
    refine balanced.next (fun other inside => ?_) fun q => ?_
    · obtain ⟨w, same⟩ := letGo_jobs r (.promise p) other (by rw [letGo_promise here]; exact inside)
      rw [same]
      trivial
    · have fewer := mentions_release here q
      have count := balanced.count q
      rw [Job.allMention_cons] at count
      have itself : Job.mentions q (.letGo (.promise p)) = if p = q then 1 else 0 := rfl
      have left : Job.allMention (if n ≤ 1 then Job.ofPromise promise else []) q =
          if n ≤ 1 then promise.mentions q else 0 := by
        split
        · exact Job.allMention_ofPromise promise q
        · rfl
      rw [holders_release, left, itself]
      rw [itself] at count
      omega

theorem doJob_resolve {p : Nat} {v : Value} (balanced : Balanced r owned (.resolve p v :: rest)) :
    Balanced (r.doJob (.resolve p v)).1 owned ((r.doJob (.resolve p v)).2 ++ rest) := by
  rcases r.resolve_cases p v with ⟨-, done⟩ |
    ⟨reactions, outcome, base, found, plain, alike, -, done⟩ | ⟨q, waiting, -, found, done⟩
  · rw [done]
    refine balanced.next (fun other inside => ?_) fun q => rfl
    rw [List.mem_singleton.1 inside]
    trivial
  · rw [done]
    exact balanced.settle found plain alike (some v) fun q => rfl
  · rw [done]
    have there : ∀ x, v = .promise x → ∃ promise, r.promises.get? x = some promise := by
      intro x same
      apply balanced.there (q := x)
      rw [same]
      simp [Job.mentions, Value.mentions]
    have pending := target_waiting balanced.closed there found
    refine balanced.next (fun other inside => ?_) fun x => ?_
    · rw [List.mem_singleton.1 inside]
      trivial
    · have held : ∀ y, Value.promise p = .promise y →
          ∃ promise, (r.addReaction q (.forward p)).promises.get? y = some promise := by
        intro y same
        cases same
        obtain ⟨mine, here⟩ := isPending_eq_true.1 waiting
        unfold addReaction
        simp only [Pool.get?_modify, here]
        split
        · next same =>
          subst same
          rw [here]
          exact ⟨_, rfl⟩
        · exact ⟨_, rfl⟩
      rw [holders_hold held, holders_addReaction, mentions_hold, mentions_addReaction pending]
      change _ + Value.mentions x (.promise p) + _ + _ = _ + (_ + Value.mentions x (.promise p)) + _
      have last : Job.allMention [.letGo v] x = Job.mentions x (.resolve p v) := rfl
      rw [last]
      omega

theorem doJob_react {reaction : Reaction} {outcome : Outcome}
    (balanced : Balanced r owned (.react reaction outcome :: rest)) :
    Balanced (r.doJob (.react reaction outcome)).1 owned
      ((r.doJob (.react reaction outcome)).2 ++ rest) := by
  have plain : outcome.Plain := balanced.plain _ (List.mem_cons_self ..)
  cases reaction with
  | call callback derived =>
    cases outcome with
    | fulfilled v =>
      have alike := alike_hold (r := r) plain
      apply balanced.next (fun other inside => absurd inside List.not_mem_nil)
      intro q
      have same : (r.hold v).holders q = r.holders q := alike.holders q
      have task : Microtask.mentions q ⟨callback, v, some derived⟩ =
          if derived = q then 1 else 0 := by
        simp only [Microtask.mentions, Value.mentions_plain plain, Option.some.injEq, Nat.zero_add]
      have queued := mentions_queue (r.hold v) ⟨callback, v, some derived⟩ q
      rw [alike.mentions, task] at queued
      change (r.hold v).holders q + r.mentions q + (if derived = q then 1 else 0) =
        r.holders q + ({ r.hold v with events := _ } : Realm).mentions q + 0
      rw [queued, same]
      omega
    | rejected f =>
      refine balanced.next (fun other inside => ?_) fun q => ?_
      · simp only [doJob, List.mem_cons, List.not_mem_nil, or_false] at inside
        rcases inside with same | same | same <;> rw [same] <;> trivial
      · change r.holders q + r.mentions q + (if derived = q then 1 else 0) =
          r.holders q + r.mentions q + (0 + ((if derived = q then 1 else 0) + (0 + 0)))
        omega
  | forward derived =>
    cases outcome with
    | fulfilled v =>
      have alike := alike_hold (r := r) plain
      refine balanced.next (fun other inside => ?_) fun q => ?_
      · simp only [doJob, List.mem_cons, List.not_mem_nil, or_false] at inside
        rcases inside with same | same <;> rw [same] <;> trivial
      · have same : (r.hold v).holders q = r.holders q := alike.holders q
        have kept : (r.hold v).mentions q = r.mentions q := alike.mentions q
        have none := Value.mentions_plain plain q
        change (r.hold v).holders q + r.mentions q + (if derived = q then 1 else 0) =
          r.holders q + (r.hold v).mentions q +
            (v.mentions q + ((if derived = q then 1 else 0) + 0))
        omega
    | rejected f =>
      refine balanced.next (fun other inside => ?_) fun q => ?_
      · simp only [doJob, List.mem_cons, List.not_mem_nil, or_false] at inside
        rcases inside with same | same <;> rw [same] <;> trivial
      · change r.holders q + r.mentions q + (if derived = q then 1 else 0) =
          r.holders q + r.mentions q + (0 + ((if derived = q then 1 else 0) + 0))
        omega

theorem doJob_reject {p : Nat} {f : Failure} (balanced : Balanced r owned (.reject p f :: rest)) :
    Balanced (r.doJob (.reject p f)).1 owned ((r.doJob (.reject p f)).2 ++ rest) := by
  rcases r.reject_cases p f with ⟨-, done⟩ | ⟨reactions, found, done⟩
  · rw [done]
    exact balanced.next (fun other inside => absurd inside List.not_mem_nil) fun q => rfl
  · rw [done]
    have plain : (Outcome.rejected f).Plain := trivial
    have after := balanced.settle found plain (.refl r) none fun q => rfl
    simpa using after

theorem doJob (balanced : Balanced r owned (job :: rest)) :
    Balanced (r.doJob job).1 owned ((r.doJob job).2 ++ rest) := by
  cases job with
  | letGo v => exact balanced.doJob_letGo
  | resolve p v => exact balanced.doJob_resolve
  | reject p f => exact balanced.doJob_reject
  | react reaction outcome => exact balanced.doJob_react

/-- A cascade leaves the counts right. -/
theorem run (balanced : Balanced r owned jobs) : Balanced (r.run jobs) owned [] :=
  run_induction (P := fun r jobs => Balanced r owned jobs) (fun _ _ _ before => before.doJob)
    balanced

end Balanced

end Realm

end GuestBridge

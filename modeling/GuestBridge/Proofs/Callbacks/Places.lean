import GuestBridge.Proofs.Closures
import GuestBridge.Proofs.Promises.Turns
/-!
Where callbacks are kept: with a timer, with a queued microtask, or as a reaction of a promise that
is still pending. How often that is, what was registered on promises that are rejected, and what
jobs leave of the closures.
-/

set_option autoImplicit false

namespace GuestBridge

def Reaction.calls (i : Nat) : Reaction → Bool
  | .call callback _ => callback = i
  | .forward _ => false

/-- How often a callback waits with a promise. -/
def Promise.keeps (i : Nat) : Promise → Nat
  | .pending reactions => reactions.countP (Reaction.calls i)
  | .settled _ => 0

def Promise.isRejected : Promise → Bool
  | .settled (.rejected _) => true
  | _ => false

/-- The closure is not what the promise settled with. -/
def Outcome.Spares (i : Nat) : Outcome → Prop
  | .fulfilled v => v ≠ .function i
  | .rejected _ => True

theorem Outcome.Spares.rejected (f : Failure) (i : Nat) : (Outcome.rejected f).Spares i := trivial

namespace Closures

/-- Closures may go away and leave destructor calls behind, and none is made. -/
structure Fewer (c c' : Closures) : Prop where
  size : c'.pool.size = c.pool.size
  things : ∀ j k, c'.pool.get? j = some k → c.pool.get? j = some k
  created : ∀ account, (c'.ledger account).created = (c.ledger account).created
  calls : ∀ account, ∀ f ∈ (c'.ledger account).finalizers, f ∈ (c.ledger account).finalizers ∨
    ∃ j k, c.pool.get? j = some k ∧ k.account = account ∧ f.closure = k.number

/-- Nothing happens to one closure, whatever happens to others. -/
structure Aside (i : Nat) (c c' : Closures) : Prop extends Fewer c c' where
  same : c'.pool.held? i = c.pool.held? i
  /-- No destructor is queued under a number that no other closure has. -/
  finalizers : ∀ account number,
    (∀ j k, j ≠ i → c.pool.get? j = some k → k.account = account → k.number ≠ number) →
    (c'.ledger account).finalizers.filter (fun f => f.closure = number) =
      (c.ledger account).finalizers.filter fun f => f.closure = number

variable {i j : Nat}

theorem Fewer.refl (c : Closures) : c.Fewer c :=
  ⟨rfl, fun _ _ here => here, fun _ => rfl, fun _ _ queued => .inl queued⟩

theorem Fewer.trans {c c' c'' : Closures} (first : c.Fewer c') (second : c'.Fewer c'') :
    c.Fewer c'' where
  size := second.size.trans first.size
  things j k here := first.things j k (second.things j k here)
  created account := (second.created account).trans (first.created account)
  calls account f queued := by
    rcases second.calls account f queued with old | ⟨j, k, there, mine, number⟩
    · exact first.calls account f old
    · exact .inr ⟨j, k, first.things j k there, mine, number⟩

theorem Aside.refl (i : Nat) (c : Closures) : c.Aside i c := ⟨.refl c, rfl, fun _ _ _ => rfl⟩

theorem fewer_hold (c : Closures) (j : Nat) : c.Fewer (c.hold j) where
  size := Pool.size_hold ..
  things x k here := (Pool.get?_hold c.pool j x).symm.trans here
  created account := by rw [ledger_hold]
  calls account f queued := .inl (by rwa [ledger_hold] at queued)

theorem release_absent {c : Closures} (absent : c.pool.held? j = none) : c.release j = c := by
  unfold release Pool.release
  rw [absent]

theorem fewer_release (c : Closures) (j : Nat) : c.Fewer (c.release j) := by
  have pool := c.pool_release j
  constructor
  case size => rw [pool, Pool.size_release]
  case things =>
    intro x l here
    rw [pool] at here
    rcases Pool.get?_release c.pool j x with same | ⟨-, gone⟩
    · exact same.symm.trans here
    · rw [gone] at here
      cases here
  case created =>
    intro account
    rcases found : c.pool.held? j with _ | ⟨k, n⟩
    · rw [release_absent found]
    · rw [ledger_release found]
      split <;> rfl
  case calls =>
    intro account f queued
    rcases found : c.pool.held? j with _ | ⟨k, n⟩
    · rw [release_absent found] at queued
      exact .inl queued
    · rw [ledger_release found] at queued
      split at queued
      · next last =>
        rcases List.mem_append.1 queued with old | new
        · exact .inl old
        · rw [List.mem_singleton.1 new]
          exact .inr ⟨j, k, Pool.get?_of_held? found, last.2.2.2.symm, rfl⟩
      · exact .inl queued

theorem aside_hold (apart : j ≠ i) (c : Closures) : c.Aside i (c.hold j) where
  toFewer := c.fewer_hold j
  same := (Pool.held?_hold ..).trans (if_neg apart.symm)
  finalizers account number _ := by rw [ledger_hold]

theorem aside_release (apart : j ≠ i) (c : Closures) : c.Aside i (c.release j) where
  toFewer := c.fewer_release j
  same := by rw [c.pool_release j, Pool.held?_release, if_neg apart.symm]
  finalizers := by
    intro account number others
    rcases found : c.pool.held? j with _ | ⟨k, n⟩
    · rw [release_absent found]
    · rw [ledger_release found]
      split
      · next last =>
        have other := others j k apart (Pool.get?_of_held? found) last.2.2.2.symm
        have none : [k.finalizer].filter (fun f => f.closure = number) = [] := by
          simpa [Closure.finalizer] using other
        rw [List.filter_append, none, List.append_nil]
      · rfl

end Closures

namespace Realm

def onTimers (r : Realm) (i : Nat) : Nat := r.events.timers.countP fun t => t.callback = i

def onTasks (r : Realm) (i : Nat) : Nat := r.events.microtasks.countP fun task => task.callback = i

def onPromises (r : Realm) (i : Nat) : Nat := r.promises.total (Promise.keeps i)

/-- In how many places a callback is kept. -/
def keeps (r : Realm) (i : Nat) : Nat := r.onTimers i + r.onTasks i + r.onPromises i

def isRejected (r : Realm) (p : Nat) : Bool := (r.promises.get? p).any Promise.isRejected

/-- How often a callback was registered on a promise that is rejected. -/
def rejections (r : Realm) (regs : List Registration) (i : Nat) : Nat :=
  regs.countP fun reg => reg.callback = i ∧ r.isRejected reg.promise

/-- Callbacks wait with the promises that they were registered on. -/
def Homes (r : Realm) (regs : List Registration) : Prop :=
  ∀ p reactions, r.promises.get? p = some (.pending reactions) → ∀ i,
    reactions.countP (Reaction.calls i) =
      regs.countP fun reg => reg.callback = i ∧ reg.promise = p

/-- The promises that a callback was registered on are all still there. -/
def Retains (r : Realm) (regs : List Registration) (i : Nat) : Prop :=
  ∀ reg ∈ regs, reg.callback = i → (r.promises.get? reg.promise).isSome

/-- A callback is only a callback: it is not kept as a value. -/
structure Spares (r : Realm) (i : Nat) : Prop where
  stored : ∀ q outcome, r.promises.get? q = some (.settled outcome) → outcome.Spares i
  passed : ∀ task ∈ r.events.microtasks, task.argument ≠ .function i

namespace Job

/-- Callbacks that a job passes on. -/
def keeps (i : Nat) : Job → Nat
  | .react reaction (.fulfilled _) => if reaction.calls i then 1 else 0
  | _ => 0

/-- Callbacks that a job lets go of in the end. -/
def drops (i : Nat) : Job → Nat
  | .react reaction (.rejected _) => if reaction.calls i then 1 else 0
  | .letGo v => if v = .function i then 1 else 0
  | _ => 0

def Spares (i : Nat) : Job → Prop
  | .resolve _ v => v ≠ .function i
  | .react _ outcome => outcome.Spares i
  | _ => True

end Job

section Steps

variable {i : Nat} {regs : List Registration} {r base : Realm} {p : Nat}

theorem Same.keeps (same : Same r base) (i : Nat) : base.keeps i = r.keeps i := by
  unfold Realm.keeps onTimers onTasks onPromises
  rw [Pool.total_congr same.size same.promises, same.events]

theorem isRejected_congr {r' : Realm} (same : r'.promises.get? p = r.promises.get? p) :
    r'.isRejected p = r.isRejected p := by
  unfold isRejected
  rw [same]

/-- Same rejections if the same promises are rejected, as far as the callback was registered. -/
theorem rejections_congr {r' : Realm}
    (same : ∀ reg ∈ regs, reg.callback = i →
      r'.isRejected reg.promise = r.isRejected reg.promise) :
    r'.rejections regs i = r.rejections regs i := by
  refine List.countP_congr fun reg member => ?_
  by_cases mine : reg.callback = i
  · rw [same reg member mine]
  · simp [mine]

theorem Same.rejections (same : Same r base) (regs : List Registration) (i : Nat) :
    base.rejections regs i = r.rejections regs i :=
  rejections_congr fun reg _ _ => isRejected_congr (same.promises reg.promise)

theorem Same.spares (same : Same r base) (spares : r.Spares i) : base.Spares i where
  stored q outcome settled := spares.stored q outcome (same.promises q ▸ settled)
  passed := same.events ▸ spares.passed

/-! One reaction more, if the promise is pending. -/

theorem get?_addReaction (r : Realm) (p : Nat) (reaction : Reaction) (q : Nat) :
    (r.addReaction p reaction).promises.get? q =
      if q = p then (r.promises.get? p).map (Promise.withReaction reaction)
      else r.promises.get? q :=
  Pool.get?_modify ..

theorem keeps_addReaction (r : Realm) (p : Nat) (reaction : Reaction) (i : Nat) :
    (r.addReaction p reaction).keeps i =
      r.keeps i + if r.isPending p ∧ reaction.calls i then 1 else 0 := by
  have total : (r.promises.modify p (Promise.withReaction reaction)).total (Promise.keeps i) =
      r.promises.total (Promise.keeps i) + if r.isPending p ∧ reaction.calls i then 1 else 0 := by
    unfold isPending Pool.get?
    rcases here : r.promises.held? p with _ | ⟨promise, n⟩
    · simp [Pool.modify, here]
    · have changed := Pool.total_modify here (Promise.withReaction reaction) (Promise.keeps i)
      cases promise with
      | pending reactions =>
        simp only [Promise.withReaction, Promise.keeps, List.countP_append,
          List.countP_singleton] at changed
        simp only [Option.map_some, Option.any_some, Promise.isPending, true_and]
        omega
      | settled outcome =>
        simp only [Option.map_some, Option.any_some, Promise.isPending, Bool.false_eq_true,
          false_and, ↓reduceIte]
        exact Nat.add_right_cancel changed
  exact (congrArg (r.onTimers i + r.onTasks i + ·) total).trans (Nat.add_assoc ..).symm

theorem isRejected_addReaction (r : Realm) (p : Nat) (reaction : Reaction) (q : Nat) :
    (r.addReaction p reaction).isRejected q = r.isRejected q := by
  unfold isRejected
  rw [get?_addReaction]
  split
  · next same =>
    subst same
    rcases r.promises.get? q with _ | ⟨reactions⟩ | outcome <;> rfl
  · rfl

theorem rejections_addReaction (r : Realm) (p : Nat) (reaction : Reaction)
    (regs : List Registration) (i : Nat) :
    (r.addReaction p reaction).rejections regs i = r.rejections regs i :=
  rejections_congr fun reg _ _ => r.isRejected_addReaction p reaction reg.promise

theorem Spares.addReaction (spares : r.Spares i) (p : Nat) (reaction : Reaction) :
    (r.addReaction p reaction).Spares i := by
  refine ⟨fun q outcome settled => ?_, spares.passed⟩
  rw [get?_addReaction] at settled
  split at settled
  · next same =>
    rcases found : r.promises.get? p with _ | ⟨reactions⟩ | other
    · rw [found] at settled
      cases settled
    · rw [found] at settled
      cases settled
    · rw [found] at settled
      cases settled
      exact spares.stored p outcome found
  · exact spares.stored q outcome settled

theorem aside_hold {v : Value} (apart : v ≠ .function i) (r : Realm) :
    r.closures.Aside i (r.hold v).closures := by
  cases v with
  | function j => exact Closures.aside_hold (fun same => apart (congrArg Value.function same)) _
  | _ => exact .refl i _

theorem keeps_reactions (reactions : List Reaction) (outcome : Outcome) (i : Nat) :
    ((reactions.map fun reaction => Job.react reaction outcome).map (Job.keeps i)).sum =
      if Promise.isRejected (.settled outcome) then 0
      else reactions.countP (Reaction.calls i) := by
  induction reactions with
  | nil => split <;> rfl
  | cons reaction rest ih =>
    rw [List.map_cons, List.map_cons, List.sum_cons, ih, List.countP_cons]
    cases outcome with
    | fulfilled v => exact Nat.add_comm _ _
    | rejected f => rfl

theorem drops_reactions (reactions : List Reaction) (outcome : Outcome) (i : Nat) :
    ((reactions.map fun reaction => Job.react reaction outcome).map (Job.drops i)).sum =
      if Promise.isRejected (.settled outcome) then reactions.countP (Reaction.calls i)
      else 0 := by
  induction reactions with
  | nil => split <;> rfl
  | cons reaction rest ih =>
    rw [List.map_cons, List.map_cons, List.sum_cons, ih, List.countP_cons]
    cases outcome with
    | fulfilled v => rfl
    | rejected f => exact Nat.add_comm _ _

/-- A count in two parts. -/
theorem countP_split {α : Type} {whole one other : α → Bool} (l : List α)
    (split : ∀ a,
      (if whole a then 1 else 0) = (if one a then 1 else 0) + if other a then 1 else 0) :
    l.countP whole = l.countP one + l.countP other := by
  induction l with
  | nil => rfl
  | cons a rest ih =>
    rw [List.countP_cons, List.countP_cons, List.countP_cons, ih, split a]
    omega

/-- A promise settled as rejected accounts for the callbacks that waited with it. -/
theorem rejections_settled (homes : r.Homes regs) {reactions : List Reaction}
    (found : r.promises.get? p = some (.pending reactions)) (outcome : Outcome) (i : Nat) :
    (r.settled p outcome).rejections regs i = r.rejections regs i +
      if Promise.isRejected (.settled outcome) then reactions.countP (Reaction.calls i) else 0 := by
  have now (q : Nat) : (r.settled p outcome).isRejected q =
      if q = p then Promise.isRejected (.settled outcome) else r.isRejected q := by
    unfold isRejected
    rw [Delivering.get?_settled found (.refl r) outcome]
    split <;> rfl
  have before : r.isRejected p = false := by
    unfold isRejected
    rw [found]
    rfl
  unfold rejections
  simp only [now]
  cases outcome with
  | fulfilled v =>
    refine List.countP_congr fun reg _ => ?_
    by_cases mine : reg.promise = p
    · simp [mine, before, Promise.isRejected]
    · simp [mine]
  | rejected f =>
    have waited := homes p reactions found i
    rw [Promise.isRejected, if_pos rfl, waited]
    refine countP_split regs fun reg => ?_
    by_cases mine : reg.promise = p
    · simp [mine, before]
    · simp [mine]

/-- A promise that goes away gives up the callbacks that wait with it. -/
theorem drops_ofPromise {promise : Promise}
    (spares : ∀ outcome, promise = .settled outcome → outcome.Spares i) :
    ((Job.ofPromise promise).map (Job.drops i)).sum = promise.keeps i := by
  cases promise with
  | settled outcome =>
    cases outcome with
    | fulfilled v =>
      have apart : v ≠ .function i := spares _ rfl
      simp [Job.ofPromise, Job.drops, apart, Promise.keeps]
    | rejected f => rfl
  | pending reactions =>
    simp only [Job.ofPromise, Promise.keeps]
    clear spares
    induction reactions with
    | nil => rfl
    | cons reaction rest ih =>
      have here : ((Job.ofReaction reaction).map (Job.drops i)).sum =
          if reaction.calls i then 1 else 0 := by
        cases reaction <;> simp [Job.ofReaction, Job.drops, Reaction.calls]
      rw [List.flatMap_cons, List.map_append, List.sum_append, ih, here, List.countP_cons]
      omega

theorem Job.LetsGo.keeps {job : Job} (letsGo : job.LetsGo) (i : Nat) : job.keeps i = 0 := by
  obtain ⟨v, rfl⟩ := letsGo
  rfl

theorem Job.LetsGo.spares {job : Job} (letsGo : job.LetsGo) (i : Nat) : job.Spares i := by
  obtain ⟨v, rfl⟩ := letsGo
  trivial

/-- What has gone away does not come back. -/
theorem Turn.gone {job : Job} {r' : Realm} {jobs : List Job} (turn : Turn r job r' jobs) {q : Nat}
    (gone : r.promises.get? q = none) : r'.promises.get? q = none := by
  cases turn with
  | settles _ found _ _ now _ =>
    rw [now, if_neg, gone]
    rintro rfl
    rw [found] at gone
    cases gone
  | waits _ _ _ now =>
    rw [now, gone]
    split <;> rfl
  | hands _ _ _ now _ => exact (now q).trans gone
  | fades _ _ now _ => exact (now q).elim (·.trans gone) id

theorem Retains.before {r' : Realm} (retains : r'.Retains regs i)
    (gone : ∀ reg ∈ regs, r.promises.get? reg.promise = none →
      r'.promises.get? reg.promise = none) :
    r.Retains regs i := by
  intro reg member mine
  have there := retains reg member mine
  rcases found : r.promises.get? reg.promise with _ | promise
  · rw [gone reg member found] at there
    cases there
  · rfl

/-- Callbacks stay with the promises that they were registered on. -/
theorem Turn.homes {job : Job} {r' : Realm} {jobs : List Job} (turn : Turn r job r' jobs)
    (homes : r.Homes regs) : r'.Homes regs := by
  intro q reactions here i
  cases turn with
  | settles _ _ _ _ now _ =>
    rw [now] at here
    split at here
    · cases here
    · exact homes q reactions here i
  | waits _ _ _ now =>
    rw [now] at here
    split at here
    · rcases found : r.promises.get? q with _ | ⟨before⟩ | outcome
      · rw [found] at here
        cases here
      · rw [found] at here
        cases here
        rw [List.countP_append, homes q before found i]
        rfl
      · rw [found] at here
        cases here
    · exact homes q reactions here i
  | hands _ _ _ now _ => exact homes q reactions (now q ▸ here) i
  | fades _ _ now _ =>
    rcases now q with same | gone
    · exact homes q reactions (same ▸ here) i
    · rw [gone] at here
      cases here

theorem fewer_hold (r : Realm) (v : Value) : r.closures.Fewer (r.hold v).closures := by
  cases v with
  | function j => exact Closures.fewer_hold _ j
  | _ => exact .refl _

theorem fewer_doJob (r : Realm) (job : Job) : r.closures.Fewer (r.doJob job).1.closures := by
  have settle (r : Realm) (outcome : Outcome) (p : Nat) :
      (r.settle p outcome).1.closures = r.closures := by
    unfold Realm.settle
    split <;> rfl
  cases job with
  | letGo v =>
    cases v with
    | function j => exact Closures.fewer_release _ j
    | _ => exact .refl _
  | resolve p v =>
    simp only [doJob]
    split
    · split
      all_goals simp only [settle]
      · exact .refl _
      · exact .refl _
      · exact .refl _
      · exact r.fewer_hold _
    · exact .refl _
  | reject p f =>
    simp only [doJob, settle]
    exact .refl _
  | react reaction outcome =>
    rcases reaction with ⟨callback, derived⟩ | derived <;> rcases outcome with v | f
    · exact r.fewer_hold v
    · exact .refl _
    · exact r.fewer_hold v
    · exact .refl _

theorem fewer_run (r : Realm) (jobs : List Job) : r.closures.Fewer (r.run jobs).closures :=
  run_induction (P := fun now _ => r.closures.Fewer now.closures)
    (fun now job _ before => before.trans (now.fewer_doJob job)) (.refl _)

end Steps

end Realm

end GuestBridge

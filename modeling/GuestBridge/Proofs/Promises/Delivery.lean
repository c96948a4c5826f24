import GuestBridge.Proofs.Promises.Settlement
import Mathlib.Data.List.Nodup
/-!
What becomes of the callbacks that were registered on promises. In the middle of a cascade a
callback is in one place: it waits on its promise, or it is among the jobs, or its microtask has
been queued.
-/

set_option autoImplicit false

namespace GuestBridge

/-- A closure that was to run when a promise is fulfilled, and the promise for its result. -/
structure Registration where
  promise : Nat
  callback : Nat
  derived : Nat
  deriving DecidableEq, Repr

namespace Registration

def reaction (reg : Registration) : Reaction := .call reg.callback reg.derived

def task (reg : Registration) (v : Value) : Microtask := ⟨reg.callback, v, some reg.derived⟩

def on (regs : List Registration) (p : Nat) : List Registration :=
  regs.filter fun reg => reg.promise = p

/-- Whether a microtask comes from a registration on a promise. -/
def Owns (regs : List Registration) (p : Nat) (task : Microtask) : Prop :=
  ∃ reg ∈ on regs p, task.settles = some reg.derived

instance (regs : List Registration) (p : Nat) (task : Microtask) : Decidable (Owns regs p task) :=
  inferInstanceAs (Decidable (∃ reg ∈ on regs p, task.settles = some reg.derived))

def ofPromise (regs : List Registration) (p : Nat) (tasks : List Microtask) : List Microtask :=
  tasks.filter (Owns regs p)

/-- Registrations are told apart by the promises they led to. -/
def Distinct (regs : List Registration) : Prop := (regs.map derived).Nodup

/-- The microtasks that a promise leads to when it settles: one for each registration, in their
order and with its value, when it is fulfilled, and none when it is rejected. -/
def due (regs : List Registration) (p : Nat) : Outcome → List Microtask
  | .fulfilled v => (on regs p).map (·.task v)
  | .rejected _ => []

/-- A promise has led to the microtasks that it had to lead to so far. One that has gone away was
settled before, or was not. -/
def Delivered (regs : List Registration) (p : Nat) (tasks : List Microtask) :
    Option Promise → Prop
  | some (.pending _) => ofPromise regs p tasks = []
  | some (.settled outcome) => ofPromise regs p tasks = due regs p outcome
  | none => ofPromise regs p tasks = [] ∨
      ∃ v, ofPromise regs p tasks = due regs p (.fulfilled v)

section Tasks

variable {regs : List Registration} {p : Nat}

theorem mem_on {reg : Registration} : reg ∈ on regs p ↔ reg ∈ regs ∧ reg.promise = p := by
  simp [on]

theorem ofPromise_append (regs : List Registration) (p : Nat) (a b : List Microtask) :
    ofPromise regs p (a ++ b) = ofPromise regs p a ++ ofPromise regs p b :=
  List.filter_append ..

theorem eq_of_derived (distinct : Distinct regs) {a b : Registration} (one : a ∈ regs)
    (other : b ∈ regs) (same : a.derived = b.derived) : a = b :=
  List.inj_on_of_nodup_map distinct one other same

theorem mem_due {task : Microtask} {outcome : Outcome} (inside : task ∈ due regs p outcome) :
    ∃ reg ∈ on regs p, task.settles = some reg.derived := by
  cases outcome with
  | fulfilled v =>
    obtain ⟨reg, member, form⟩ := List.mem_map.1 inside
    exact ⟨reg, member, form ▸ rfl⟩
  | rejected f => exact absurd inside List.not_mem_nil

/-- The microtasks of one promise are those of no other. -/
theorem ofPromise_due (distinct : Distinct regs) (p q : Nat) (outcome : Outcome) :
    ofPromise regs q (due regs p outcome) = if q = p then due regs p outcome else [] := by
  by_cases same : q = p
  · subst same
    rw [if_pos rfl]
    apply List.filter_eq_self.2
    intro task inside
    exact decide_eq_true (mem_due inside)
  · rw [if_neg same]
    apply List.filter_eq_nil_iff.2
    intro task inside owned
    obtain ⟨reg, member, settles⟩ := mem_due inside
    obtain ⟨other, mine, settles'⟩ := of_decide_eq_true owned
    have alike : reg.derived = other.derived := Option.some.inj (settles.symm.trans settles')
    have equal := eq_of_derived distinct (mem_on.1 member).1 (mem_on.1 mine).1 alike
    subst equal
    exact same ((mem_on.1 mine).2.symm.trans (mem_on.1 member).2)

/-- Microtasks that come of one promise, put in between others. -/
theorem ofPromise_insert (distinct : Distinct regs) (p q : Nat) (outcome : Outcome)
    (a b : List Microtask) :
    ofPromise regs q (a ++ (due regs p outcome ++ b)) =
      ofPromise regs q a ++ ((if q = p then due regs p outcome else []) ++ ofPromise regs q b) := by
  rw [ofPromise_append, ofPromise_append, ofPromise_due distinct]

theorem Delivered.congr {a b : List Microtask} {promise : Option Promise}
    (delivered : Delivered regs p a promise) (same : ofPromise regs p a = ofPromise regs p b) :
    Delivered regs p b promise := by
  unfold Delivered at delivered ⊢
  rw [← same]
  exact delivered

theorem Delivered.gone {tasks : List Microtask} {promise : Option Promise}
    (delivered : Delivered regs p tasks promise) : Delivered regs p tasks none := by
  rcases promise with _ | ⟨reactions⟩ | ⟨⟨v⟩ | ⟨f⟩⟩
  · exact delivered
  · exact .inl delivered
  · exact .inr ⟨v, delivered⟩
  · exact .inl delivered

end Tasks

end Registration

def Reaction.isCall : Reaction → Bool
  | .call .. => true
  | .forward _ => false

namespace Realm

def Job.task? : Job → Option Microtask
  | .react (.call callback derived) (.fulfilled v) => some ⟨callback, v, some derived⟩
  | _ => none

def Job.Rejects (d : Nat) : Job → Prop
  | .reject p _ => p = d
  | .react (.call _ derived) (.rejected _) => derived = d
  | _ => False

/-- All microtasks there have been, those taken off the queue first, and those to come. -/
def allTasks (taken : List Microtask) (r : Realm) (jobs : List Job) : List Microtask :=
  taken ++ r.events.microtasks ++ jobs.filterMap Job.task?

/-- The state of the registrations in the middle of a cascade. -/
structure Delivering (regs : List Registration) (taken : List Microtask) (r : Realm)
    (jobs : List Job) : Prop where
  distinct : Registration.Distinct regs
  known : ∀ task ∈ allTasks taken r jobs, ∃ reg ∈ regs, task.settles = some reg.derived
  waiting : ∀ p reactions, r.promises.get? p = some (.pending reactions) →
    reactions.filter Reaction.isCall = (Registration.on regs p).map Registration.reaction
  delivered : ∀ p, Registration.Delivered regs p (allTasks taken r jobs) (r.promises.get? p)
  /-- What derives from a rejected promise is settled, or about to be. -/
  rejected : ∀ reg ∈ regs, ∀ f, r.promises.get? reg.promise = some (.settled (.rejected f)) →
    r.isPending reg.derived = true → ∃ job ∈ jobs, job.Rejects reg.derived

namespace Delivering

variable {regs : List Registration} {taken : List Microtask} {r r' : Realm} {job : Job}
  {jobs jobs' rest : List Job} {p : Nat}

/-- Promises may go away, and a job that rejects may leave it to another. -/
theorem still (delivering : Delivering regs taken r (job :: rest))
    (fades : ∀ q, r'.promises.get? q = r.promises.get? q ∨ r'.promises.get? q = none)
    (tasks : allTasks taken r' (jobs' ++ rest) = allTasks taken r (job :: rest))
    (rejects : ∀ d, job.Rejects d → r'.isPending d = true → ∃ other ∈ jobs', other.Rejects d) :
    Delivering regs taken r' (jobs' ++ rest) where
  distinct := delivering.distinct
  known := tasks ▸ delivering.known
  waiting := by
    intro q reactions found
    rcases fades q with same | gone
    · exact delivering.waiting q reactions (same ▸ found)
    · rw [gone] at found
      cases found
  delivered := by
    intro q
    rw [tasks]
    rcases fades q with same | gone
    · rw [same]
      exact delivering.delivered q
    · rw [gone]
      exact (delivering.delivered q).gone
  rejected := by
    intro reg member f found pending
    have before : r.promises.get? reg.promise = some (.settled (.rejected f)) := by
      rcases fades reg.promise with same | gone
      · rw [← same]
        exact found
      · rw [gone] at found
        cases found
    have pendingBefore : r.isPending reg.derived = true := by
      rcases fades reg.derived with same | gone
      · unfold isPending at pending ⊢
        rw [← same]
        exact pending
      · unfold isPending at pending
        rw [gone] at pending
        cases pending
    obtain ⟨other, inside, doomed⟩ := delivering.rejected reg member f before pendingBefore
    rcases List.mem_cons.1 inside with first | later
    · subst first
      obtain ⟨next, new, doomed⟩ := rejects reg.derived doomed pending
      exact ⟨next, List.mem_append_left _ new, doomed⟩
    · exact ⟨other, List.mem_append_right _ later, doomed⟩

theorem tasks_of_calls (reactions : List Reaction) (v : Value) :
    (reactions.map fun reaction => Job.react reaction (.fulfilled v)).filterMap Job.task? =
      ((reactions.filter Reaction.isCall).map fun reaction =>
        Job.react reaction (.fulfilled v)).filterMap Job.task? := by
  induction reactions with
  | nil => rfl
  | cons reaction rest ih =>
    cases reaction with
    | call callback derived =>
      rw [List.filter_cons_of_pos rfl]
      exact congrArg (List.cons ⟨callback, v, some derived⟩) ih
    | forward derived =>
      have not : ¬ (Reaction.forward derived).isCall = true := Bool.noConfusion
      rw [List.filter_cons_of_neg not]
      exact ih

theorem tasks_of_reactions (delivering : Delivering regs taken r jobs) {reactions : List Reaction}
    (found : r.promises.get? p = some (.pending reactions)) (outcome : Outcome) :
    (reactions.map fun reaction => Job.react reaction outcome).filterMap Job.task? =
      Registration.due regs p outcome := by
  cases outcome with
  | fulfilled v =>
    rw [tasks_of_calls, delivering.waiting p reactions found, List.map_map, List.filterMap_map]
    exact congrFun List.filterMap_eq_map' _
  | rejected f =>
    apply List.filterMap_eq_nil_iff.2
    intro job inside
    obtain ⟨reaction, -, same⟩ := List.mem_map.1 inside
    rw [← same]
    cases reaction <;> rfl

theorem tasks_quiet (taken : List Microtask) (r : Realm) (rest : List Job)
    (quiet : job.task? = none) :
    allTasks taken r (job :: rest) =
      (taken ++ r.events.microtasks) ++ rest.filterMap Job.task? := by
  unfold allTasks
  rw [List.filterMap_cons_none quiet]

/-- The microtasks that are new come before those of the jobs that follow. -/
theorem tasks_settled (delivering : Delivering regs taken r jobs) {reactions : List Reaction}
    (found : r.promises.get? p = some (.pending reactions)) {base : Realm} (alike : Alike r base)
    (outcome : Outcome) {last : List Job} (rest : List Job)
    (lastQuiet : last.filterMap Job.task? = []) :
    allTasks taken (base.settled p outcome)
      (((reactions.map fun reaction => .react reaction outcome) ++ last) ++ rest) =
      (taken ++ r.events.microtasks) ++
        (Registration.due regs p outcome ++ rest.filterMap Job.task?) := by
  unfold allTasks settled
  rw [List.filterMap_append, List.filterMap_append, lastQuiet, List.append_nil,
    delivering.tasks_of_reactions found]
  simp only [alike.events]

theorem tasks_forward (taken : List Microtask) (r : Realm) (rest : List Job) {last : List Job}
    (quiet : job.task? = none) (lastQuiet : last.filterMap Job.task? = []) (q derived : Nat)
    (v : Value) :
    allTasks taken ((r.addReaction q (.forward derived)).hold v) (last ++ rest) =
      allTasks taken r (job :: rest) := by
  have events : ((r.addReaction q (.forward derived)).hold v).events = r.events := events_hold _ v
  unfold allTasks
  rw [events, List.filterMap_append, lastQuiet, List.nil_append, List.filterMap_cons_none quiet]

theorem tasks_idle (taken : List Microtask) (rest : List Job)
    (tasks : r'.events.microtasks ++ jobs'.filterMap Job.task? =
      r.events.microtasks ++ job.task?.toList) :
    allTasks taken r' (jobs' ++ rest) = allTasks taken r (job :: rest) := by
  have first : (job :: rest).filterMap Job.task? =
      job.task?.toList ++ rest.filterMap Job.task? := by
    rcases found : job.task? with _ | task
    · exact List.filterMap_cons_none found
    · exact List.filterMap_cons_some found
  unfold allTasks
  rw [first, List.filterMap_append, List.append_assoc, List.append_assoc,
    ← List.append_assoc r'.events.microtasks, tasks, List.append_assoc]

theorem tasks_letGo (taken : List Microtask) (r : Realm) (v : Value) (rest : List Job) :
    allTasks taken (r.doJob (.letGo v)).1 ((r.doJob (.letGo v)).2 ++ rest) =
      allTasks taken r (.letGo v :: rest) := by
  have quiet : (r.doJob (.letGo v)).2.filterMap Job.task? = [] := by
    apply List.filterMap_eq_nil_iff.2
    intro job inside
    obtain ⟨w, same⟩ := letGo_jobs r v job inside
    rw [same]
    rfl
  have events : (r.doJob (.letGo v)).1.events = r.events := by cases v <;> rfl
  unfold allTasks
  rw [events, List.filterMap_append, quiet]
  rfl

theorem tasks_react (taken : List Microtask) (r : Realm) (reaction : Reaction) (outcome : Outcome)
    (rest : List Job) :
    allTasks taken (r.doJob (.react reaction outcome)).1
        ((r.doJob (.react reaction outcome)).2 ++ rest) =
      allTasks taken r (.react reaction outcome :: rest) := by
  cases reaction with
  | call callback derived =>
    cases outcome with
    | fulfilled v =>
      apply tasks_idle taken rest
      change ((r.hold v).events.queue _).microtasks ++ [] = _
      rw [events_hold, List.append_nil]
      rfl
    | rejected f => exact tasks_idle taken rest rfl
  | forward derived =>
    cases outcome with
    | fulfilled v =>
      apply tasks_idle taken rest
      change (r.hold v).events.microtasks ++ [] = _
      rw [events_hold]
      rfl
    | rejected f => exact tasks_idle taken rest rfl

/-- Only pending promises lead to microtasks. -/
theorem doJob_tasks (delivering : Delivering regs taken r (job :: rest))
    (past : r.isPending p = false) :
    Registration.ofPromise regs p (allTasks taken (r.doJob job).1 ((r.doJob job).2 ++ rest)) =
      Registration.ofPromise regs p (allTasks taken r (job :: rest)) := by
  -- What is new when another promise is settled comes of that one.
  have settled : ∀ (q : Nat) (reactions : List Reaction) (base : Realm) (outcome : Outcome)
      (last : List Job), r.promises.get? q = some (.pending reactions) → Alike r base →
      last.filterMap Job.task? = [] → job.task? = none →
      Registration.ofPromise regs p (allTasks taken (base.settled q outcome)
        (((reactions.map fun reaction => .react reaction outcome) ++ last) ++ rest)) =
      Registration.ofPromise regs p (allTasks taken r (job :: rest)) := by
    intro q reactions base outcome last found alike lastQuiet quiet
    have other : p ≠ q := by
      intro same
      rw [same, isPending_eq_true.2 ⟨reactions, found⟩] at past
      cases past
    rw [delivering.tasks_settled found alike outcome rest lastQuiet, tasks_quiet taken r rest quiet,
      Registration.ofPromise_insert delivering.distinct, if_neg other, List.nil_append,
      ← Registration.ofPromise_append]
  cases job with
  | letGo v => rw [tasks_letGo]
  | react reaction outcome => rw [tasks_react]
  | resolve q v =>
    rcases r.resolve_cases q v with ⟨-, done⟩ |
      ⟨reactions, outcome, base, found, -, alike, -, done⟩ | ⟨x, -, -, -, done⟩
    · rw [done]
      rfl
    · rw [done]
      exact settled q reactions base outcome [.letGo v] found alike rfl rfl
    · rw [done]
      exact congrArg _ (tasks_forward taken r rest rfl rfl x q (.promise q))
  | reject q f =>
    rcases r.reject_cases q f with ⟨-, done⟩ | ⟨reactions, found, done⟩
    · rw [done]
      rfl
    · rw [done]
      have after := settled q reactions r (.rejected f) [] found (.refl r) rfl rfl
      rwa [List.append_nil] at after

theorem get?_settled {base : Realm} {reactions : List Reaction}
    (found : r.promises.get? p = some (.pending reactions)) (alike : Alike r base)
    (outcome : Outcome) (q : Nat) :
    (base.settled p outcome).promises.get? q =
      if q = p then some (.settled outcome) else r.promises.get? q := by
  unfold settled
  simp only [Pool.get?_modify, alike.promises, found]
  rfl

/-- A promise is settled: its callbacks pass from its reactions to the jobs. -/
theorem settle (delivering : Delivering regs taken r (job :: rest)) {reactions : List Reaction}
    (found : r.promises.get? p = some (.pending reactions)) {base : Realm} (alike : Alike r base)
    (outcome : Outcome) (last : List Job) (quiet : job.task? = none)
    (lastQuiet : last.filterMap Job.task? = []) (only : ∀ d, job.Rejects d → d = p) :
    Delivering regs taken (base.settled p outcome)
      (((reactions.map fun reaction => .react reaction outcome) ++ last) ++ rest) := by
  have now := get?_settled found alike outcome
  have distinct := delivering.distinct
  have before := tasks_quiet taken r rest quiet
  have after := delivering.tasks_settled found alike outcome rest lastQuiet
  constructor
  case distinct => exact distinct
  case known =>
    intro task inside
    have known := delivering.known task
    rw [before] at known
    rw [after] at inside
    rcases List.mem_append.1 inside with old | inside
    · exact known (List.mem_append_left _ old)
    · rcases List.mem_append.1 inside with new | later
      · obtain ⟨reg, member, settles⟩ := Registration.mem_due new
        exact ⟨reg, (Registration.mem_on.1 member).1, settles⟩
      · exact known (List.mem_append_right _ later)
  case waiting =>
    intro q others here
    rw [now] at here
    split at here
    · cases here
    · exact delivering.waiting q others here
  case delivered =>
    intro q
    have old := delivering.delivered q
    rw [before] at old
    rw [now, after]
    have inserted := Registration.ofPromise_insert distinct p q outcome
      (taken ++ r.events.microtasks) (rest.filterMap Job.task?)
    by_cases same : q = p
    · subst same
      rw [found] at old
      have none := (Registration.ofPromise_append ..).symm.trans old
      obtain ⟨first, second⟩ := List.append_eq_nil_iff.1 none
      rw [if_pos rfl, first, second, List.nil_append, List.append_nil] at inserted
      rw [if_pos rfl]
      exact inserted
    · rw [if_neg same, List.nil_append, ← Registration.ofPromise_append] at inserted
      rw [if_neg same]
      exact old.congr inserted.symm
  case rejected =>
    intro reg member f here pending
    have other : reg.derived ≠ p := by
      intro same
      unfold isPending at pending
      rw [now, if_pos same] at pending
      cases pending
    have pendingBefore : r.isPending reg.derived = true := by
      unfold isPending at pending ⊢
      rw [now, if_neg other] at pending
      exact pending
    rw [now] at here
    split at here
    · next same =>
      -- The callback was waiting here, and its job is among the new ones.
      have calls := delivering.waiting p reactions found
      have waits : reg.reaction ∈ reactions.filter Reaction.isCall := by
        rw [calls]
        exact List.mem_map.2 ⟨reg, Registration.mem_on.2 ⟨member, same⟩, rfl⟩
      have mine := (List.mem_filter.1 waits).1
      cases here
      exact ⟨.react reg.reaction (.rejected f), List.mem_append_left _ (List.mem_append_left _
        (List.mem_map.2 ⟨reg.reaction, mine, rfl⟩)), rfl⟩
    · obtain ⟨doomer, inside, doomed⟩ := delivering.rejected reg member f here pendingBefore
      rcases List.mem_cons.1 inside with first | later
      · subst first
        exact absurd (only reg.derived doomed) other
      · exact ⟨doomer, List.mem_append_right _ later, doomed⟩

/-- Waiting for another promise is no registration. -/
theorem forward (delivering : Delivering regs taken r (job :: rest)) {q : Nat} {last : List Job}
    (quiet : job.task? = none) (lastQuiet : last.filterMap Job.task? = [])
    (harmless : ∀ d, ¬ job.Rejects d) (derived : Nat) (v : Value) :
    Delivering regs taken ((r.addReaction q (.forward derived)).hold v) (last ++ rest) := by
  have tasks := tasks_forward taken r rest quiet lastQuiet q derived v
  have now : ∀ x, ((r.addReaction q (.forward derived)).hold v).promises.get? x =
      (r.promises.get? x).map fun promise =>
        if x = q then promise.withReaction (.forward derived) else promise := by
    intro x
    rw [get?_hold]
    unfold addReaction
    simp only [Pool.get?_modify]
    by_cases here : x = q
    · subst here
      simp only [↓reduceIte]
    · simp only [here, ↓reduceIte, Option.map_id']
  have pendingIff : ∀ x, ((r.addReaction q (.forward derived)).hold v).isPending x =
      r.isPending x := by
    intro x
    unfold isPending
    rw [now]
    rcases r.promises.get? x with _ | ⟨reactions⟩ | outcome
    · rfl
    · simp only [Option.map_some, Option.any_some]
      split <;> rfl
    · simp only [Option.map_some, Option.any_some]
      split <;> rfl
  constructor
  case distinct => exact delivering.distinct
  case known => exact tasks ▸ delivering.known
  case waiting =>
    intro x reactions here
    rw [now] at here
    obtain ⟨promise, found, same⟩ := Option.map_eq_some_iff.1 here
    cases promise with
    | pending before =>
      have old := delivering.waiting x before found
      split at same
      · cases same
        rw [List.filter_append, old]
        exact List.append_nil _
      · cases same
        exact old
    | settled outcome =>
      split at same <;> cases same
  case delivered =>
    intro x
    rw [tasks, now]
    have old := delivering.delivered x
    rcases found : r.promises.get? x with _ | ⟨reactions⟩ | outcome
    · rw [found] at old
      exact old
    · rw [found] at old
      simp only [Option.map_some]
      split <;> exact old
    · rw [found] at old
      simp only [Option.map_some]
      split <;> exact old
  case rejected =>
    intro reg member f here pending
    rw [pendingIff] at pending
    have before : r.promises.get? reg.promise = some (.settled (.rejected f)) := by
      rw [now] at here
      obtain ⟨promise, found, same⟩ := Option.map_eq_some_iff.1 here
      cases promise with
      | pending reactions => split at same <;> cases same
      | settled outcome =>
        split at same <;> cases same <;> exact found
    obtain ⟨other, inside, doomed⟩ := delivering.rejected reg member f before pending
    rcases List.mem_cons.1 inside with first | later
    · exact absurd (first ▸ doomed) (harmless _)
    · exact ⟨other, List.mem_append_right _ later, doomed⟩

theorem idle (delivering : Delivering regs taken r (job :: rest)) {r' : Realm} {jobs' : List Job}
    (promises : ∀ q, r'.promises.get? q = r.promises.get? q)
    (tasks : allTasks taken r' (jobs' ++ rest) = allTasks taken r (job :: rest))
    (rejects : ∀ d, job.Rejects d → r.isPending d = true → ∃ other ∈ jobs', other.Rejects d) :
    Delivering regs taken r' (jobs' ++ rest) := by
  apply delivering.still (fun q => .inl (promises q)) tasks
  intro d doomed pending
  apply rejects d doomed
  unfold isPending at pending ⊢
  rw [← promises d]
  exact pending

theorem doJob (delivering : Delivering regs taken r (job :: rest)) :
    Delivering regs taken (r.doJob job).1 ((r.doJob job).2 ++ rest) := by
  cases job with
  | letGo v =>
    refine delivering.still (fun q => ?_) (tasks_letGo taken r v rest) fun d doomed => doomed.elim
    by_cases plain : v.Plain
    · exact .inl (by rw [(letGo_plain r plain).1.promises])
    · cases v with
      | promise p =>
        rcases Pool.get?_release r.promises p q with same | ⟨-, gone⟩
        · exact .inl same
        · exact .inr gone
      | _ => exact (plain fun _ => Value.noConfusion).elim
  | resolve p v =>
    rcases r.resolve_cases p v with ⟨-, done⟩ |
      ⟨reactions, outcome, base, found, -, alike, -, done⟩ | ⟨q, -, -, -, done⟩
    · rw [done]
      exact delivering.idle (fun q => rfl) rfl fun d doomed => doomed.elim
    · rw [done]
      exact delivering.settle found alike outcome [.letGo v] rfl rfl fun d doomed => doomed.elim
    · rw [done]
      exact delivering.forward rfl rfl (fun d doomed => doomed) p (.promise p)
  | reject p f =>
    rcases r.reject_cases p f with ⟨not, done⟩ | ⟨reactions, found, done⟩
    · rw [done]
      apply delivering.idle (fun q => rfl) rfl
      intro d doomed pending
      have same : p = d := doomed
      rw [← same, not] at pending
      cases pending
    · rw [done]
      have after := delivering.settle found (.refl r) (.rejected f) [] rfl rfl
        fun d doomed => Eq.symm doomed
      rwa [List.append_nil] at after
  | react reaction outcome =>
    have tasks := tasks_react taken r reaction outcome rest
    cases reaction with
    | call callback derived =>
      cases outcome with
      | fulfilled v => exact delivering.idle (get?_hold r v) tasks fun d doomed => doomed.elim
      | rejected f =>
        apply delivering.idle (fun q => rfl) tasks
        intro d doomed _
        exact ⟨.reject derived f, List.mem_cons_self .., doomed⟩
    | forward derived =>
      cases outcome with
      | fulfilled v => exact delivering.idle (get?_hold r v) tasks fun d doomed => doomed.elim
      | rejected f => exact delivering.idle (fun q => rfl) tasks fun d doomed => doomed.elim

theorem run (delivering : Delivering regs taken r jobs) :
    Delivering regs taken (r.run jobs) [] :=
  run_induction (P := fun r jobs => Delivering regs taken r jobs)
    (fun _ _ _ before => before.doJob) delivering

/-- Once a promise is not pending, cascades queue none of its callbacks. -/
theorem run_tasks (delivering : Delivering regs taken r jobs) (past : r.isPending p = false) :
    Registration.ofPromise regs p (allTasks taken (r.run jobs) []) =
      Registration.ofPromise regs p (allTasks taken r jobs) := by
  suffices whole : Delivering regs taken (r.run jobs) [] ∧ (r.run jobs).isPending p = false ∧
      Registration.ofPromise regs p (allTasks taken (r.run jobs) []) =
        Registration.ofPromise regs p (allTasks taken r jobs) by
    exact whole.2.2
  refine run_induction (P := fun now left => Delivering regs taken now left ∧
      now.isPending p = false ∧ Registration.ofPromise regs p (allTasks taken now left) =
        Registration.ofPromise regs p (allTasks taken r jobs))
    (fun now job rest before => ?_) ⟨delivering, past, rfl⟩
  obtain ⟨still, quiet, same⟩ := before
  obtain ⟨outcome, evolves⟩ := evolves_doJob now job
  exact ⟨still.doJob, evolves.not_pending quiet, (still.doJob_tasks quiet).trans same⟩

end Delivering

end Realm

end GuestBridge

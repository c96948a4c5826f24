import GuestBridge.Proofs.Promises.Jobs
/-!
What there is to do. Everything in a realm and every job has a price, which is what may come of it
at most; each job that is done makes the sum smaller. So a cascade has no more jobs than the sum is
when it begins.
-/

set_option autoImplicit false

namespace GuestBridge

/-- What goes away with a release goes out of every sum. -/
theorem Pool.total_release_fst {α : Type} (p : Pool α) (i : Nat) (f : α → Nat) :
    (p.release i).2.total f + ((p.release i).1.map f).getD 0 = p.total f := by
  rcases found : p.held? i with _ | h
  · simp only [release, found]
    rfl
  · rw [release_fst, found, Option.bind_some, ← total_release found f]
    split <;> rfl

/-- Each reaction of a promise is a job once, or leaves two to be let go. -/
def Promise.effort : Promise → Nat
  | .pending reactions => 4 * reactions.length + 1
  | .settled _ => 1

def Element.effort (e : Element) : Nat := e.children.length + 1

/-- What it may cost more to be resolved with a promise: a reaction that is left on it. -/
def Value.detour : Value → Nat
  | .promise _ => 4
  | _ => 0

theorem Value.detour_plain {v : Value} (plain : v.Plain) : v.detour = 0 := by
  cases v with
  | promise p => exact (plain p rfl).elim
  | _ => rfl

theorem Value.detour_promise {v : Value} (promise : ¬ v.Plain) : v.detour = 4 := by
  cases v with
  | promise p => rfl
  | _ => exact (promise fun _ => Value.noConfusion).elim

namespace Realm

def effort (r : Realm) : Nat :=
  r.promises.total Promise.effort + r.elements.total Element.effort

def Job.price : Job → Nat
  | .letGo _ => 1
  | .reject .. => 1
  | .resolve _ v => v.detour + 2
  | .react (.forward _) (.fulfilled v) => v.detour + 4
  | .react .. => 4

def Job.prices (jobs : List Job) : Nat := (jobs.map price).sum

namespace Job

theorem prices_append (a b : List Job) : prices (a ++ b) = prices a + prices b := by
  rw [prices, prices, prices, List.map_append, List.sum_append]

theorem prices_cons (job : Job) (rest : List Job) :
    prices (job :: rest) = job.price + prices rest := rfl

theorem price_react (reaction : Reaction) {outcome : Outcome} (plain : outcome.Plain) :
    (Job.react reaction outcome).price = 4 := by
  cases reaction with
  | call callback derived => rfl
  | forward derived =>
    cases outcome with
    | rejected f => rfl
    | fulfilled v => exact congrArg (· + 4) (Value.detour_plain plain)

theorem prices_reactions (reactions : List Reaction) {outcome : Outcome} (plain : outcome.Plain) :
    prices (reactions.map fun reaction => .react reaction outcome) = 4 * reactions.length := by
  induction reactions with
  | nil => rfl
  | cons reaction rest ih =>
    rw [List.map_cons, prices_cons, price_react reaction plain, ih, List.length_cons]
    omega

/-- An element that goes away leaves its children to be let go. -/
theorem prices_ofElement_le (e : Element) :
    prices (e.children.map fun c => .letGo (.element c)) ≤ e.effort := by
  refine Nat.le_succ_of_le ?_
  induction e.children with
  | nil => exact Nat.zero_le 0
  | cons c rest ih =>
    rw [List.map_cons, prices_cons, List.length_cons, Nat.add_comm]
    exact Nat.succ_le_succ ih

/-- A promise that goes away leaves less than it cost. -/
theorem prices_ofPromise_le (promise : Promise) : prices (ofPromise promise) ≤ promise.effort := by
  cases promise with
  | settled outcome =>
    cases outcome with
    | fulfilled v => exact Nat.le_refl 1
    | rejected f => exact Nat.zero_le 1
  | pending reactions =>
    change prices (reactions.flatMap ofReaction) ≤ 4 * reactions.length + 1
    induction reactions with
    | nil => exact Nat.zero_le 1
    | cons reaction rest ih =>
      have two : prices (ofReaction reaction) ≤ 2 := by
        cases reaction with
        | call callback derived => exact Nat.le_refl 2
        | forward derived => exact Nat.le_succ 1
      rw [List.flatMap_cons, prices_append, List.length_cons]
      omega

/-- What a release takes out pays for the jobs that it leaves. -/
theorem prices_released {α : Type} (p : Pool α) (i : Nat) (cost : α → Nat)
    (leaves : α → List Job) (le : ∀ a, prices (leaves a) ≤ cost a) :
    (p.release i).2.total cost + prices (((p.release i).1.map leaves).getD []) ≤ p.total cost := by
  have fewer := p.total_release_fst i cost
  generalize (p.release i).1 = gone at fewer ⊢
  rcases gone with _ | a
  · exact Nat.le_of_eq fewer
  · exact Nat.le_trans (Nat.add_le_add_left (le a) _) (Nat.le_of_eq fewer)

end Job

section Steps

variable {r : Realm}

theorem effort_hold (r : Realm) (v : Value) : (r.hold v).effort = r.effort := by
  cases v with
  | promise p => exact congrArg (· + _) (Pool.total_hold ..)
  | element e => exact congrArg (_ + ·) (Pool.total_hold ..)
  | _ => rfl

/-- A pending promise costs what its reactions are going to cost. -/
theorem effort_settle (r : Realm) (p : Nat) {outcome : Outcome} (plain : outcome.Plain) :
    (r.settle p outcome).1.effort + Job.prices (r.settle p outcome).2 ≤ r.effort := by
  by_cases pending : r.isPending p = true
  · obtain ⟨reactions, found⟩ := isPending_eq_true.1 pending
    obtain ⟨n, held⟩ := Pool.held?_of_get? found
    have changed := Pool.total_modify held (fun _ => .settled outcome) Promise.effort
    rw [settle_pending found, Job.prices_reactions reactions plain]
    change (r.promises.modify p _).total Promise.effort + r.elements.total Element.effort +
      4 * reactions.length ≤ r.promises.total Promise.effort + r.elements.total Element.effort
    change _ + (4 * reactions.length + 1) = _ + 1 at changed
    omega
  · rw [settle_of_not_pending (Bool.eq_false_iff.2 pending)]
    exact Nat.le_refl _

theorem effort_addReaction (r : Realm) (p : Nat) (reaction : Reaction) :
    (r.addReaction p reaction).effort ≤ r.effort + 4 := by
  change (r.promises.modify p _).total Promise.effort + r.elements.total Element.effort ≤
    r.promises.total Promise.effort + r.elements.total Element.effort + 4
  rcases held : r.promises.held? p with _ | ⟨promise, n⟩
  · have same : r.promises.modify p (Promise.withReaction reaction) = r.promises := by
      unfold Pool.modify
      rw [held]
    rw [same]
    exact Nat.le_add_right ..
  · have changed := Pool.total_modify held (Promise.withReaction reaction) Promise.effort
    have more : (promise.withReaction reaction).effort ≤ promise.effort + 4 := by
      cases promise with
      | settled outcome => exact Nat.le_add_right ..
      | pending reactions =>
        simp only [Promise.withReaction, Promise.effort, List.length_append,
          List.length_singleton]
        omega
    simp only at changed
    omega

/-- What goes away costs no less than what it leaves to be let go. -/
theorem effort_letGo (r : Realm) (v : Value) :
    (r.doJob (.letGo v)).1.effort + Job.prices (r.doJob (.letGo v)).2 ≤ r.effort := by
  cases v with
  | promise p =>
    have fewer := Job.prices_released r.promises p Promise.effort Job.ofPromise
      Job.prices_ofPromise_le
    change (r.promises.release p).2.total Promise.effort + r.elements.total Element.effort +
      Job.prices (((r.promises.release p).1.map Job.ofPromise).getD []) ≤
        r.promises.total Promise.effort + r.elements.total Element.effort
    omega
  | element e =>
    have fewer := Job.prices_released r.elements e Element.effort
      (fun e => e.children.map fun c => .letGo (.element c)) Job.prices_ofElement_le
    change r.promises.total Promise.effort + (r.elements.release e).2.total Element.effort +
      Job.prices (((r.elements.release e).1.map fun e =>
        e.children.map fun c => Job.letGo (.element c)).getD []) ≤
          r.promises.total Promise.effort + r.elements.total Element.effort
    omega
  | _ => exact Nat.le_refl _

/-- Only a promise is waited for. -/
theorem waiting_not_plain {p q : Nat} {v : Value} (found : r.target p v = .waiting q) :
    ¬ v.Plain := by
  intro plain
  cases v with
  | promise x => exact plain x rfl
  | _ => cases found

theorem effort_resolve (r : Realm) (p : Nat) (v : Value) :
    (r.doJob (.resolve p v)).1.effort + Job.prices (r.doJob (.resolve p v)).2 <
      r.effort + (Job.resolve p v).price := by
  have settles (base : Realm) (same : base.effort = r.effort) {outcome : Outcome}
      (plain : outcome.Plain) : (base.settle p outcome).1.effort +
        Job.prices ((base.settle p outcome).2 ++ [.letGo v]) < r.effort + (v.detour + 2) := by
    have last : Job.prices [.letGo v] = 1 := rfl
    have settled := base.effort_settle p plain
    rw [Job.prices_append, last]
    omega
  change _ < r.effort + (v.detour + 2)
  simp only [doJob]
  split
  · split
    · exact settles r rfl trivial
    · next q found =>
      have detour := Value.detour_promise (waiting_not_plain found)
      have more := r.effort_addReaction q (.forward p)
      rw [effort_hold]
      change _ + 1 < _
      omega
    · exact settles r rfl trivial
    · next w found => exact settles _ (r.effort_hold w) (target_plain found)
  · change r.effort + 1 < _
    omega

theorem effort_react (r : Realm) (reaction : Reaction) (outcome : Outcome) :
    (r.doJob (.react reaction outcome)).1.effort +
        Job.prices (r.doJob (.react reaction outcome)).2 <
      r.effort + (Job.react reaction outcome).price := by
  cases reaction with
  | call callback derived =>
    cases outcome with
    | fulfilled v =>
      change (r.hold v).effort + 0 < r.effort + 4
      rw [effort_hold]
      omega
    | rejected f =>
      change r.effort + 3 < r.effort + 4
      omega
  | forward derived =>
    cases outcome with
    | fulfilled v =>
      change (r.hold v).effort + (v.detour + 2 + 1) < r.effort + (v.detour + 4)
      rw [effort_hold]
      omega
    | rejected f =>
      change r.effort + 2 < r.effort + 4
      omega

/-- Every job leaves less to do than there was. -/
theorem effort_doJob (r : Realm) (job : Job) :
    (r.doJob job).1.effort + Job.prices (r.doJob job).2 < r.effort + job.price := by
  cases job with
  | letGo v => exact Nat.lt_succ_of_le (effort_letGo r v)
  | resolve p v => exact effort_resolve r p v
  | reject p f => exact Nat.lt_succ_of_le (effort_settle r p trivial)
  | react reaction outcome => exact effort_react r reaction outcome

end Steps

end Realm

end GuestBridge

import GuestBridge.Proofs.Promises.Following
/-!
Adoption, whatever the callers do: a promise that is resolved with another one comes to the result
of that one, and to a failure if it would have to wait for itself.
-/

set_option autoImplicit false

namespace GuestBridge

/-- Operations on this very promise that settle it or have it adopt another. -/
def PromiseOp.ActsOn (p : Nat) : PromiseOp → Prop
  | .resolve q _ | .reject q _ => q = p
  | _ => False

/-- How a promise is settled at once that is resolved with such a value. -/
def Target.outcome? : Target → Option Outcome
  | .value v => some (.fulfilled v)
  | .failure f => some (.rejected f)
  | .itself => some (.rejected Realm.chainingCycle)
  | .waiting _ => none

namespace Realm

variable {p q : Nat} {known : Chronicle} {r r' : Realm} {job : Job} {jobs rest : List Job}

/-- A job by which the promise may come to wait for another, or has waited. -/
def Job.Directs (p : Nat) : Job → Prop
  | .resolve q _ => q = p
  | .react (.forward derived) _ => derived = p
  | _ => False

theorem Job.Directs.settles (directs : job.Directs p) : job.Settles p := by
  cases job with
  | letGo v => exact directs
  | resolve x v => exact directs
  | reject x f => exact directs.elim
  | react reaction outcome =>
    cases reaction with
    | call callback derived => exact directs.elim
    | forward derived => exact directs

theorem Job.mentions_resolve (p q : Nat) : 0 < Job.mentions q (.resolve p (.promise q)) := by
  simp only [Job.mentions, Value.mentions, ↓reduceIte]
  exact Nat.one_pos

/-- No promise hands its outcome on to this one. -/
structure Alone (p : Nat) (r : Realm) (jobs : List Job) : Prop where
  free : ∀ x reactions, r.promises.get? x = some (.pending reactions) → .forward p ∉ reactions
  idle : ∀ job ∈ jobs, ¬ job.Directs p

theorem Alone.doJob (alone : Alone p r (job :: rest)) :
    Alone p (r.doJob job).1 ((r.doJob job).2 ++ rest) := by
  have later : ∀ other ∈ rest, ¬ other.Directs p := fun other inside =>
    alone.idle other (List.mem_cons_of_mem _ inside)
  have dropped : ∀ {last : List Job}, (∀ other ∈ last, other.LetsGo) →
      ∀ other ∈ last, ¬ other.Directs p := fun drops other inside directs =>
    (drops other inside).not_settles directs.settles
  have mine := alone.idle job (List.mem_cons_self ..)
  have turn := r.turn job
  generalize (r.doJob job).1 = r' at turn
  generalize (r.doJob job).2 = jobs at turn
  cases turn with
  | @settles _ _ q reactions outcome last aim found plain fits now drops =>
    refine ⟨fun x others pending => ?_, fun other inside => ?_⟩
    · rw [now] at pending
      split at pending
      · cases pending
      · exact alone.free x others pending
    · rcases List.mem_append.1 inside with new | old
      · rcases List.mem_append.1 new with reacts | drop
        · obtain ⟨reaction, waits, rfl⟩ := List.mem_map.1 reacts
          cases reaction with
          | call callback derived => exact id
          | forward derived =>
            rintro rfl
            exact alone.free q reactions found waits
        · exact dropped drops other drop
      · exact later other old
  | @waits _ x q v pending promise found now =>
    refine ⟨fun y reactions there waits => ?_, fun other inside => ?_⟩
    · obtain ⟨before, found, alike⟩ := pending_waiting now there
      exact alone.free y before found ((alike p fun same => mine same.symm).1 waits)
    · rcases List.mem_cons.1 inside with here | old
      · rw [here]
        exact id
      · exact later other old
  | @hands reaction outcome _ next last aim fits skips now drops =>
    refine ⟨fun x reactions found => alone.free x reactions (now x ▸ found),
      fun other inside => ?_⟩
    simp only [List.cons_append, List.mem_cons, List.mem_append] at inside
    rcases inside with first | second | new | old
    · rw [first]
      intro directs
      have derived := Job.aim_of_settles aim directs.settles
      cases reaction with
      | forward d => exact mine derived
      | call callback d =>
        -- A callback that is skipped leads to a rejection, and to no waiting.
        obtain ⟨f, rfl⟩ := skips callback d rfl
        have carries := fits trivial
        cases next with
        | resolve x v => cases carries.2
        | reject x g => exact directs
        | letGo v => exact directs
        | react reaction outcome => cases aim
    · rw [second]
      exact id
    · exact dropped drops other new
    · exact later other old
  | fades late last now drops =>
    refine ⟨fun x reactions found => ?_, fun other inside => ?_⟩
    · rcases now x with same | gone
      · exact alone.free x reactions (same ▸ found)
      · rw [gone] at found
        cases found
    · rcases List.mem_append.1 inside with new | old
      · exact dropped drops other new
      · exact later other old

theorem Alone.widens (alone : Alone p r []) (widens : Widens r r')
    (others : ∀ job ∈ jobs, ¬ job.Settles p) : Alone p r' jobs where
  free := by
    intro x reactions found waits
    obtain ⟨before, there, old⟩ := widens.waiting found waits
    exact alone.free x before there old
  idle := fun job inside directs => others job inside directs.settles

/-- A resolution settles a pending promise with what the value stands for. -/
theorem get?_resolve (pending : r.isPending p = true) {v : Value} {outcome : Outcome}
    (found : (r.target p v).outcome? = some outcome) :
    (r.doJob (.resolve p v)).1.promises.get? p = some (.settled outcome) := by
  obtain ⟨reactions, here⟩ := isPending_eq_true.1 pending
  have settled : ∀ base : Realm, base.promises.get? p = some (.pending reactions) →
      (base.settle p outcome).1.promises.get? p = some (.settled outcome) := by
    intro base there
    rw [settle_pending there, Delivering.get?_settled there (.refl base), if_pos rfl]
  simp only [doJob, pending, ↓reduceIte]
  cases target : r.target p v with
  | value w =>
    rw [target] at found
    cases found
    exact settled _ ((get?_hold r w p).trans here)
  | failure f =>
    rw [target] at found
    cases found
    exact settled r here
  | waiting w =>
    rw [target] at found
    cases found
  | itself =>
    rw [target] at found
    cases found
    exact settled r here

/-- A promise is on the way to the result of another one: it has it, or it follows the promise that
this result waits for. Only the rejection of a promise it derives from comes before. -/
inductive Adopting (p q : Nat) (regs : List Registration) (known : Chronicle) (r : Realm)
    (jobs : List Job) : Prop
  | settled {x : Nat} {outcome : Outcome} (leads : known.Leads q x)
      (there : known x = some outcome) (here : known p = some outcome) (plain : outcome.Plain)
  | follows {w : Nat} (leads : known.Leads q w) (lowerP : p < r.promises.size)
      (lowerW : w < r.promises.size) (plain : ∀ outcome, known w = some outcome → outcome.Plain)
      (following : Following p w known r jobs)
  | spoiled (spoiled : Spoiled known regs p)

namespace Adopting

variable {owned : Nat → Nat} {regs more : List Registration} {taken : List Microtask}

theorem doJob (adopting : Adopting p q regs known r (job :: rest))
    (proper : Proper owned regs taken known r (job :: rest)) :
    Adopting p q regs (enter known (r.doJob job).1) (r.doJob job).1
      ((r.doJob job).2 ++ rest) := by
  have extends_ := (proper.faithful.doJob job).2
  cases adopting with
  | settled leads there here plain =>
    exact .settled (leads.mono extends_) (extends_ _ _ there) (extends_ _ _ here) plain
  | spoiled spoiled => exact .spoiled (spoiled.mono extends_ fun _ member => member)
  | @follows w leads lowerP lowerW plain following =>
    by_cases spoiled : Spoiled (enter known (r.doJob job).1) regs p
    · exact .spoiled spoiled
    · refine .follows (leads.mono extends_) (size_doJob r job ▸ lowerP) (size_doJob r job ▸ lowerW)
        (fun outcome settled => ?_) (following.doJob proper spoiled)
      rcases known_doJob proper.faithful job settled with before | plainly
      · exact plain outcome before
      · exact plainly

/-- The state at the beginning of an operation on other promises. -/
theorem widens (adopting : Adopting p q regs known r []) (faithful : Faithful known r)
    (wide : Widens r r') (size : r.promises.size ≤ r'.promises.size)
    (extends_ : known.Extends (enter known r')) (grown : ∀ reg ∈ regs, reg ∈ more)
    (others : ∀ job ∈ jobs, ¬ job.Settles p) : Adopting p q more (enter known r') r' jobs := by
  cases adopting with
  | settled leads there here plain =>
    exact .settled (leads.mono extends_) (extends_ _ _ there) (extends_ _ _ here) plain
  | spoiled spoiled => exact .spoiled (spoiled.mono extends_ grown)
  | @follows w leads lowerP lowerW plain following =>
    refine .follows (leads.mono extends_) (Nat.lt_of_lt_of_le lowerP size)
      (Nat.lt_of_lt_of_le lowerW size) (fun outcome settled => ?_)
      (following.widens faithful wide lowerP lowerW others)
    rw [wide.enter_eq faithful lowerW] at settled
    exact plain outcome settled

/-- Between operations there is nothing on the way. -/
theorem result (adopting : Adopting p q regs known r []) (clean : ¬ Spoiled known regs p)
    (outcome : Outcome) : known p = some outcome ↔ known.Result q outcome := by
  cases adopting with
  | @settled x mine leads there here plain =>
    refine Chronicle.result_iff leads (here.trans there.symm) (fun other same => ?_) outcome
    rw [there] at same
    cases same
    exact plain
  | follows leads lowerP lowerW plain following =>
    exact Chronicle.result_iff leads following.same plain outcome
  | spoiled spoiled => exact absurd spoiled clean

/-- The resolution itself. Nothing waits to hand its outcome on to the promise so far. -/
theorem begins (alone : Alone p r [])
    (proper : Proper owned regs taken known r [.resolve p (.promise q)])
    (pending : r.isPending p = true) :
    Adopting p q regs (enter known (r.doJob (.resolve p (.promise q))).1)
      (r.doJob (.resolve p (.promise q))).1 (r.doJob (.resolve p (.promise q))).2 := by
  have faithful := proper.faithful
  have extends_ := (faithful.doJob (.resolve p (.promise q))).2
  have reaches := reaches_target faithful proper.ordered p q
  have settles : ∀ outcome, (r.target p (.promise q)).outcome? = some outcome →
      enter known (r.doJob (.resolve p (.promise q))).1 p = some outcome := fun outcome found =>
    enter_settled (get?_resolve pending found)
  rcases found : r.target p (.promise q) with v | f | w | _
  · rw [found] at reaches settles
    obtain ⟨x, leads, there⟩ := reaches
    exact .settled (leads.mono extends_) (extends_ _ _ there) (settles _ rfl) (target_plain found)
  · rw [found] at reaches settles
    obtain ⟨x, leads, there⟩ := reaches
    exact .settled (leads.mono extends_) (extends_ _ _ there) (settles _ rfl) trivial
  · rw [found] at reaches
    have waiting := target_waiting proper.balanced.closed (fun x same => by
      cases same
      exact proper.balanced.there (Job.mentions_resolve p q)) found
    obtain ⟨mine, foundP⟩ := isPending_eq_true.1 pending
    obtain ⟨others, foundW⟩ := isPending_eq_true.1 waiting
    obtain ⟨now, jobs⟩ := doJob_resolve_waiting pending found
    have nowW : (r.doJob (.resolve p (.promise q))).1.promises.get? w =
        some (.pending (others ++ [.forward p])) := by
      rw [now, if_pos rfl, foundW]
      rfl
    have unknownW : enter known (r.doJob (.resolve p (.promise q))).1 w = none :=
      (enter_pending nowW).trans (faithful.pending foundW)
    refine .follows (reaches.mono extends_) (size_doJob r _ ▸ lt_size_of_get? foundP)
      (size_doJob r _ ▸ lt_size_of_get? foundW) (fun outcome settled => ?_) ?_
    · rw [unknownW] at settled
      cases settled
    rw [jobs]
    constructor
    case only =>
      intro x reactions there waits
      by_contra other
      rw [now, if_neg other] at there
      exact alone.free x reactions there waits
    case agree =>
      intro outcome settled
      rw [enter_waiting now faithful, faithful.pending foundP] at settled
      cases settled
    case carried =>
      intro job inside settles
      rw [List.mem_singleton.1 inside] at settles
      exact settles.elim
    case awaited =>
      refine fun _ => .inl ⟨unknownW, fun reactions there => ?_⟩
      rw [nowW] at there
      cases there
      exact List.mem_append_right _ (List.mem_singleton.2 rfl)
  · rw [found] at reaches settles
    have here := settles _ rfl
    exact .settled (reaches.mono extends_) here here trivial

end Adopting

end Realm

namespace Session

variable {s : Session} {p : Nat} {op : PromiseOp}

/-- Only an operation on the promise itself begins with a job that settles it. -/
theorem cascade_others (s : Session) (other : ¬ op.ActsOn p) :
    ∀ job ∈ (s.cascade op).2, ¬ job.Settles p := by
  intro job inside
  cases op with
  | resolve x v =>
    simp only [cascade] at inside
    split at inside
    · rw [List.mem_singleton.1 inside]
      exact other
    · exact absurd inside List.not_mem_nil
  | reject x f =>
    simp only [cascade] at inside
    split at inside
    · rw [List.mem_singleton.1 inside]
      exact other
    · exact absurd inside List.not_mem_nil
  | letGo x =>
    simp only [cascade] at inside
    split at inside
    · rw [List.mem_singleton.1 inside]
      exact id
    · exact absurd inside List.not_mem_nil
  | _ => exact absurd inside List.not_mem_nil

theorem Sound.registered_step (sound : s.Sound) (op : PromiseOp) :
    ∀ reg ∈ s.registered, reg ∈ (s.step op).registered := by
  intro reg member
  rcases (sound.move op).registered with same | ⟨x, callback, mine, done, same⟩
  · exact same ▸ member
  · exact same ▸ List.mem_append_left _ member

end Session

namespace Watched.Sound

open Realm

variable {w : Watched} {p q : Nat} {op : PromiseOp}

theorem alone_step (sound : w.Sound) (alone : Alone p w.session.realm [])
    (other : ¬ op.ActsOn p) : Alone p (w.step op).session.realm [] :=
  sound.step_induction op (P := fun _ r jobs => Alone p r jobs)
    (alone.widens (sound.session.widens op) (w.session.cascade_others other))
    fun _ _ _ _ _ before => before.doJob

theorem alone_run (sound : w.Sound) (alone : Alone p w.session.realm []) {ops : List PromiseOp}
    (others : ∀ op ∈ ops, ¬ op.ActsOn p) : Alone p (w.run ops).session.realm [] :=
  sound.run_induction (P := fun w => Alone p w.session.realm [])
    (fun _ op sound inside before => sound.alone_step before (others op inside)) alone

theorem adopting_step (sound : w.Sound)
    (adopting : Adopting p q w.session.registered w.known w.session.realm [])
    (other : ¬ op.ActsOn p) :
    Adopting p q (w.step op).session.registered (w.step op).known (w.step op).session.realm [] :=
  sound.step_induction op (P := fun known r jobs =>
      Adopting p q (w.step op).session.registered known r jobs)
    (adopting.widens sound.faithful (sound.session.widens op) (sound.session.size_cascade_le op)
      (sound.begins op).2 (sound.session.registered_step op) (w.session.cascade_others other))
    fun _ _ _ _ proper before => before.doJob proper

theorem adopting_run (sound : w.Sound)
    (adopting : Adopting p q w.session.registered w.known w.session.realm [])
    {ops : List PromiseOp} (others : ∀ op ∈ ops, ¬ op.ActsOn p) :
    Adopting p q (w.run ops).session.registered (w.run ops).known (w.run ops).session.realm [] :=
  sound.run_induction
    (P := fun w => Adopting p q w.session.registered w.known w.session.realm [])
    (fun _ op sound inside before => sound.adopting_step before (others op inside)) adopting

theorem plain_step (sound : w.Sound) (lower : p < w.session.realm.promises.size)
    (plain : ∀ outcome, w.known p = some outcome → outcome.Plain) (op : PromiseOp) :
    ∀ outcome, (w.step op).known p = some outcome → outcome.Plain :=
  sound.step_induction op (P := fun known _ _ => ∀ outcome, known p = some outcome → outcome.Plain)
    (fun outcome settled => by
      rw [(sound.session.widens op).enter_eq sound.faithful lower] at settled
      exact plain outcome settled)
    fun _ _ job _ proper before outcome settled => by
      rcases known_doJob proper.faithful job settled with earlier | plainly
      · exact before outcome earlier
      · exact plainly

theorem size_step_le (sound : w.Sound) (op : PromiseOp) :
    w.session.realm.promises.size ≤ (w.step op).session.realm.promises.size :=
  (sound.session.move op).size_le sound.session

/-- Only a promise that was made with one has one for its value. -/
theorem plain_run (sound : w.Sound) (lower : p < w.session.realm.promises.size)
    (plain : ∀ outcome, w.known p = some outcome → outcome.Plain) (ops : List PromiseOp) :
    ∀ outcome, (w.run ops).known p = some outcome → outcome.Plain :=
  (sound.run_induction (P := fun w => p < w.session.realm.promises.size ∧
      ∀ outcome, w.known p = some outcome → outcome.Plain)
    (fun _ op sound _ before => ⟨Nat.lt_of_lt_of_le before.1 (sound.size_step_le op),
      sound.plain_step before.1 before.2 op⟩) ⟨lower, plain⟩).2

section Resolving

variable (sound : w.Sound) (ownedP : 0 < w.session.owned p) (ownedQ : 0 < w.session.owned q)
  (pending : w.session.realm.isPending p = true)

include ownedP ownedQ in
/-- How a resolution with a promise begins. -/
theorem cascade_resolve : w.session.cascade (.resolve p (.promise q)) =
    (w.session.realm.hold (.promise q), [.resolve p (.promise q)]) :=
  if_pos ⟨ownedP, decide_eq_true ownedQ⟩

include sound ownedP ownedQ pending

theorem adopts (alone : Alone p w.session.realm []) :
    Adopting p q (w.step (.resolve p (.promise q))).session.registered
      (w.step (.resolve p (.promise q))).known
      (w.step (.resolve p (.promise q))).session.realm [] := by
  refine sound.first_induction (cascade_resolve ownedP ownedQ)
    (P := fun known r jobs => Adopting p q _ known r jobs) (fun proper => ?_)
    fun _ _ _ _ proper before => before.doJob proper
  have held : Widens w.session.realm (w.session.realm.hold (.promise q)) :=
    .of_same (get?_hold _ _)
  have still : Alone p (w.session.realm.hold (.promise q)) [] :=
    alone.widens held fun job inside => absurd inside List.not_mem_nil
  exact .begins still proper ((isPending_hold _ _ p).trans pending)

/-- A promise that the way from the other one leads to is not to wait for itself. -/
theorem rejects_cycle (leads : w.known.Leads q p) :
    (w.step (.resolve p (.promise q))).session.promise? p =
      some (.settled (.rejected chainingCycle)) := by
  have known : (w.step (.resolve p (.promise q))).known p = some (.rejected chainingCycle) := by
    refine sound.first_induction (cascade_resolve ownedP ownedQ)
      (P := fun known _ _ => known p = some (.rejected chainingCycle)) (fun proper => ?_)
      fun _ _ job _ proper before => (proper.faithful.doJob job).2 _ _ before
    have waiting := (isPending_hold w.session.realm (.promise q) p).trans pending
    have ahead := (sound.begins (.resolve p (.promise q))).2
    rw [cascade_resolve ownedP ownedQ] at ahead
    have itself := target_itself proper.faithful proper.ordered proper.balanced.closed waiting
      (leads.mono ahead) (proper.balanced.there (Job.mentions_resolve p q))
    exact enter_settled (get?_resolve waiting (itself ▸ rfl))
  have after := sound.step (.resolve p (.promise q))
  have still : 0 < (w.step (.resolve p (.promise q))).session.owned p := by
    change 0 < (w.session.step (.resolve p (.promise q))).owned p
    simp only [Session.step]
    split <;> exact ownedP
  obtain ⟨promise, there⟩ := after.session.balanced.there_of_owned still
  rw [after.faithful.of_known known there] at there
  exact there

end Resolving

end Watched.Sound

namespace Watched

/-- After any operations, a pending promise is resolved with another one. A way that leads back to
it is met with a rejection. And from then on, if callers do nothing else to it and no promise that
it derives from is rejected, it is settled exactly if the other one has a result, and like that.
A promise that was once pending is never fulfilled with a promise. -/
theorem adopted_promise_settles_alike (closures : Closures) (elements : Elements)
    (before : List PromiseOp) {w : Watched} (reached : w = (start closures elements).run before)
    {p q : Nat} (pending : w.session.realm.isPending p = true) (ownedP : 0 < w.session.owned p)
    (ownedQ : 0 < w.session.owned q) :
    (∀ ops x promise, (w.run ops).session.promise? x = some promise →
      (w.run ops).known x = promise.outcome?) ∧
    (w.known.Leads q p → (w.step (.resolve p (.promise q))).session.promise? p =
      some (.settled (.rejected Realm.chainingCycle))) ∧
    (∀ more after, after = (w.step (.resolve p (.promise q))).run more →
      (∀ op ∈ before ++ more, ¬ op.ActsOn p) →
      ¬ Realm.Spoiled after.known after.session.registered p →
      ∀ outcome, after.known p = some outcome ↔ after.known.Result q outcome) ∧
    ∀ x, w.session.realm.isPending x = true →
      ∀ ops v, (w.run ops).known x = some (.fulfilled v) → v.Plain := by
  have sound : w.Sound := reached ▸ (start_sound closures elements).run before
  refine ⟨fun ops x promise there => ?_, sound.rejects_cycle ownedP ownedQ pending,
    fun more after same others clean outcome => ?_, fun x waiting ops v settled => ?_⟩
  · exact (sound.run ops).faithful.outcome there
  · have nothing : Realm.Alone p (start closures elements).session.realm [] :=
      ⟨fun _ _ found => (nomatch found), fun _ inside => absurd inside List.not_mem_nil⟩
    have alone : Realm.Alone p w.session.realm [] := reached ▸
      (start_sound closures elements).alone_run nothing fun op inside =>
        others op (List.mem_append_left _ inside)
    have adopting := (sound.step (.resolve p (.promise q))).adopting_run
      (sound.adopts ownedP ownedQ pending alone)
      fun op inside => others op (List.mem_append_right _ inside)
    rw [← same] at adopting
    exact adopting.result clean outcome
  · obtain ⟨reactions, found⟩ := Realm.isPending_eq_true.1 waiting
    refine sound.plain_run (Realm.lt_size_of_get? found) (fun outcome same => ?_) ops _ settled
    rw [sound.faithful.pending found] at same
    cases same

/-- A promise is resolved with a second one that was made with a third, which is settled later. -/
theorem adopted_promise_settles_alike_stored :
    ∃ w, w = (start .empty .empty).run [.new, .new, .resolved (.promise 1)] ∧
      w.session.realm.isPending 0 = true ∧ 0 < w.session.owned 0 ∧ 0 < w.session.owned 2 ∧
      ∃ after, after = (w.step (.resolve 0 (.promise 2))).run [.resolve 1 (.bool true)] ∧
        ¬ Realm.Spoiled after.known after.session.registered 0 ∧
        ∀ outcome, after.known 0 = some outcome ↔ after.known.Result 2 outcome := by
  have pending : ((start .empty .empty).run
      [.new, .new, .resolved (.promise 1)]).session.realm.isPending 0 = true := by decide
  -- No callback is registered, so that nothing derives from anything.
  have clean : ∀ known, ¬ Realm.Spoiled known [] 0 := fun known ⟨reg, member, _⟩ =>
    absurd member List.not_mem_nil
  refine ⟨_, rfl, pending, by decide, by decide, _, rfl, clean _, ?_⟩
  refine (adopted_promise_settles_alike .empty .empty _ rfl pending (by decide) (by decide)).2.2.1
    _ _ rfl (fun op inside => ?_) (clean _)
  simp only [List.cons_append, List.nil_append, List.mem_cons, List.not_mem_nil, or_false] at inside
  rcases inside with rfl | rfl | rfl | rfl
  · exact id
  · exact id
  · exact id
  · exact Nat.one_ne_zero

end Watched

end GuestBridge

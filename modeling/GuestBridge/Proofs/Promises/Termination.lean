import GuestBridge.Proofs.Promises.Effort
import GuestBridge.Proofs.Promises.Watching
/-!
Settling comes to an end. A resolution goes from promise to promise and never back, since a promise
that was made with another one is younger. A cascade has no more jobs than there is to do when it
begins, and settles each promise that was pending then at most once.
-/

set_option autoImplicit false

namespace GuestBridge

namespace Realm

/-! From promise to promise. -/

/-- The promise was made with another one. -/
def Stores (r : Realm) (q x : Nat) : Prop :=
  r.promises.get? q = some (.settled (.fulfilled (.promise x)))

/-- One step of a resolution: what the promise comes to, or the promise to go on with. -/
def stride (r : Realm) (asking q : Nat) : Target ⊕ Nat :=
  if q = asking then .inl .itself
  else match r.promises.get? q with
    | some (.settled (.fulfilled (.promise x))) => .inr x
    | some (.settled (.fulfilled v)) => .inl (.value v)
    | some (.settled (.rejected f)) => .inl (.failure f)
    | _ => .inl (.waiting q)

/-- The way of a resolution, step by step, to where it stops. Nothing bounds it. -/
inductive Follows (r : Realm) (asking : Nat) : Nat → List Nat → Target → Prop
  | stops {q : Nat} {target : Target} (last : r.stride asking q = .inl target) :
      Follows r asking q [q] target
  | goesOn {q x : Nat} {way : List Nat} {target : Target} (next : r.stride asking q = .inr x)
      (rest : Follows r asking x way target) : Follows r asking q (q :: way) target

section Ways

variable {r : Realm} {asking q : Nat} {way : List Nat} {target : Target}

theorem stride_inr {x : Nat} (next : r.stride asking q = .inr x) :
    q ≠ asking ∧ r.Stores q x := by
  unfold stride at next
  split at next
  · cases next
  · next other =>
    split at next
    · next found =>
      cases next
      exact ⟨other, found⟩
    all_goals cases next

theorem Follows.unique {way' : List Nat} {target' : Target} (one : r.Follows asking q way target)
    (two : r.Follows asking q way' target') : way = way' ∧ target = target' := by
  induction one generalizing way' with
  | stops last =>
    cases two with
    | stops last' =>
      rw [last] at last'
      cases last'
      exact ⟨rfl, rfl⟩
    | goesOn next rest =>
      rw [last] at next
      cases next
  | goesOn next rest ih =>
    cases two with
    | stops last =>
      rw [next] at last
      cases last
    | goesOn next' rest' =>
      rw [next] at next'
      cases next'
      obtain ⟨rfl, same⟩ := ih rest'
      exact ⟨rfl, same⟩

theorem Follows.le (ordered : r.Ordered) (follows : r.Follows asking q way target) :
    ∀ x ∈ way, x ≤ q := by
  induction follows with
  | stops last =>
    intro x inside
    exact Nat.le_of_eq (List.mem_singleton.1 inside)
  | @goesOn q next way target step rest ih =>
    have older := ordered q next (stride_inr step).2
    intro x inside
    rcases List.mem_cons.1 inside with rfl | behind
    · exact Nat.le_refl x
    · exact Nat.le_trans (ih x behind) (Nat.le_of_lt older)

theorem Follows.descends (ordered : r.Ordered) (follows : r.Follows asking q way target) :
    way.Pairwise (· > ·) := by
  induction follows with
  | stops last => exact List.pairwise_singleton ..
  | @goesOn q next way target step rest ih =>
    have older := ordered q next (stride_inr step).2
    refine List.pairwise_cons.2 ⟨fun x behind => ?_, ih⟩
    exact Nat.lt_of_le_of_lt (rest.le ordered x behind) older

/-- Where the walk of a resolution goes on, its bound is none. -/
theorem followPromise_stride (ordered : r.Ordered) (other : q ≠ asking) :
    r.followPromise asking q =
      match r.stride asking q with
      | .inl target => target
      | .inr x => r.target asking (.promise x) := by
  rw [followPromise, stride, if_neg other]
  rcases found : r.promises.get? q with _ | ⟨reactions⟩ | ⟨v | f⟩
  · rfl
  · rfl
  · cases v with
    | promise x => simp only [if_pos (ordered q x found), target]
    | _ => rfl
  · rfl

/-- The way leads to what the promise has to become. -/
theorem follows_target (ordered : r.Ordered) (asking q : Nat) :
    ∃ way, r.Follows asking q way (r.target asking (.promise q)) := by
  induction q using Nat.strongRecOn with
  | ind q ih =>
    by_cases same : q = asking
    · have step : r.stride asking q = .inl .itself := if_pos same
      have ends : r.target asking (.promise q) = .itself := if_pos same
      exact ⟨[q], ends ▸ .stops step⟩
    · have ends : r.target asking (.promise q) = r.followPromise asking q := if_neg same
      rw [ends, followPromise_stride ordered same]
      rcases step : r.stride asking q with target | x
      · exact ⟨[q], .stops step⟩
      · obtain ⟨way, rest⟩ := ih x (ordered q x (stride_inr step).2)
        exact ⟨q :: way, .goesOn step rest⟩

/-- Nothing that was made with a promise leads back to itself, or on for ever. -/
theorem wellFounded_stores (ordered : r.Ordered) : WellFounded fun x q => r.Stores q x :=
  Subrelation.wf (fun {x q} stores => ordered q x stores) Nat.lt_wfRel.wf

end Ways

/-! From job to job. -/

/-- The jobs of a cascade in turn, each with the realm that it is done in. -/
inductive Course : Realm → List Job → List (Realm × Job) → Realm → Prop
  | ends (r : Realm) : Course r [] [] r
  | goesOn {r r' : Realm} {job : Job} {rest : List Job} {turns : List (Realm × Job)}
      (later : Course (r.doJob job).1 ((r.doJob job).2 ++ rest) turns r') :
      Course r (job :: rest) ((r, job) :: turns) r'

/-- The promise that a job settles. -/
def settlement? (r : Realm) (job : Job) : Option Nat :=
  job.aim?.filter fun p => r.isPending p && !(r.doJob job).1.isPending p

def settlements (turns : List (Realm × Job)) : List Nat :=
  turns.filterMap fun turn => turn.1.settlement? turn.2

section Jobs

variable {r : Realm} {job : Job} {p q : Nat}

theorem settlement?_eq_some : r.settlement? job = some p ↔
    job.aim? = some p ∧ r.isPending p = true ∧ (r.doJob job).1.isPending p = false := by
  rw [settlement?, Option.filter_eq_some_iff, Bool.and_eq_true, Bool.not_eq_true']

theorem isPending_congr {r' : Realm} (same : r'.promises.get? q = r.promises.get? q) :
    r'.isPending q = r.isPending q := by
  rw [isPending, isPending, same]

/-- A promise goes on pending when another one comes to wait for it. -/
theorem isPending_waits {r' : Realm} {x y : Nat}
    (now : ∀ q, r'.promises.get? q = if q = y then
      (r.promises.get? q).map (Promise.withReaction (.forward x)) else r.promises.get? q)
    (pending : r.isPending q = true) : r'.isPending q = true := by
  obtain ⟨reactions, found⟩ := isPending_eq_true.1 pending
  rw [isPending_eq_true, now, found]
  split
  · exact ⟨_, rfl⟩
  · exact ⟨_, rfl⟩

/-- A job that settles a promise gives it an outcome, and leaves all others as they are. -/
theorem get?_of_settlement (settles : r.settlement? job = some p) :
    (∃ outcome, (r.doJob job).1.promises.get? p = some (.settled outcome)) ∧
      ∀ q, q ≠ p → (r.doJob job).1.promises.get? q = r.promises.get? q := by
  obtain ⟨aim, pending, after⟩ := settlement?_eq_some.1 settles
  have turn := r.turn job
  generalize (r.doJob job).1 = r' at turn after ⊢
  generalize (r.doJob job).2 = jobs at turn
  cases turn with
  | @settles _ _ q reactions outcome last aim' found plain fits now drops =>
    obtain rfl : q = p := Option.some.inj (aim'.symm.trans aim)
    refine ⟨⟨outcome, ?_⟩, fun x other => ?_⟩
    · rw [now, if_pos rfl]
    · rw [now, if_neg other]
  | waits pending' promise found now =>
    rw [isPending_waits now pending] at after
    cases after
  | hands aim' fits skips now drops => cases aim
  | fades late last now drops =>
    rw [late p aim] at pending
    cases pending

/-- A pending promise stays so, or is settled, or goes away. -/
theorem pending_doJob (job : Job) (pending : r.isPending q = true) :
    r.settlement? job = some q ∨ (r.doJob job).1.isPending q = true ∨
      (r.doJob job).1.promises.get? q = none := by
  rw [settlement?_eq_some]
  have turn := r.turn job
  generalize (r.doJob job).1 = r' at turn ⊢
  generalize (r.doJob job).2 = jobs at turn
  cases turn with
  | @settles _ _ p reactions outcome last aim found plain fits now drops =>
    by_cases same : q = p
    · subst same
      have settled : r'.promises.get? q = some (.settled outcome) := by rw [now, if_pos rfl]
      have quiet : r'.isPending q = false := by
        rw [isPending, settled]
        rfl
      exact .inl ⟨aim, pending, quiet⟩
    · have still : r'.promises.get? q = r.promises.get? q := by rw [now, if_neg same]
      exact .inr (.inl ((isPending_congr still).trans pending))
  | waits pending' promise found now => exact .inr (.inl (isPending_waits now pending))
  | hands aim fits skips now drops => exact .inr (.inl ((isPending_congr (now q)).trans pending))
  | fades late last now drops =>
    rcases now q with still | gone
    · exact .inr (.inl ((isPending_congr still).trans pending))
    · exact .inr (.inr gone)

theorem not_pending_doJob (quiet : r.isPending q = false) :
    (r.doJob job).1.isPending q = false := by
  obtain ⟨outcome, evolves⟩ := r.evolves_doJob job
  exact evolves.not_pending quiet

theorem gone_doJob (gone : r.promises.get? q = none) : (r.doJob job).1.promises.get? q = none := by
  obtain ⟨outcome, evolves⟩ := r.evolves_doJob job
  have next := evolves q
  rw [gone] at next
  rcases found : (r.doJob job).1.promises.get? q with _ | promise
  · rfl
  · rw [found] at next
    cases promise <;> exact next.elim

end Jobs

theorem settlements_cons (r : Realm) (job : Job) (turns : List (Realm × Job)) :
    settlements ((r, job) :: turns) = (r.settlement? job).toList ++ settlements turns := by
  rw [settlements, settlements, List.filterMap_cons]
  cases r.settlement? job <;> rfl

/-- What a cascade comes to that takes some turns. -/
structure Cascade (r : Realm) (jobs : List Job) (turns : List (Realm × Job)) (r' : Realm) :
    Prop where
  course : Course r jobs turns r'
  few : turns.length ≤ r.effort + Job.prices jobs
  /-- A job that settles settles one promise, which was pending. -/
  single : ∀ s job p, (s, job) ∈ turns → s.settlement? job = some p → s.isPending p = true ∧
    (∃ outcome, (s.doJob job).1.promises.get? p = some (.settled outcome)) ∧
    ∀ q, q ≠ p → (s.doJob job).1.promises.get? q = s.promises.get? q
  once : (settlements turns).Nodup
  settled : ∀ p ∈ settlements turns, r.isPending p = true ∧ r'.isPending p = false
  others : ∀ p, r.isPending p = true → p ∉ settlements turns →
    r'.isPending p = true ∨ r'.promises.get? p = none
  /-- A resolution goes from each promise on its way to an older one. -/
  ways : ∀ s job p q, (s, job) ∈ turns → job = .resolve p (.promise q) →
    ∃ way, s.Follows p q way (s.target p (.promise q)) ∧ way.Pairwise (· > ·)

namespace Course

variable {r r' : Realm} {jobs : List Job} {turns : List (Realm × Job)} {p : Nat}

theorem of_run (r : Realm) (jobs : List Job) : ∃ turns, Course r jobs turns (r.run jobs) := by
  fun_induction run r jobs with
  | case1 r => exact ⟨[], .ends r⟩
  | case2 r job rest ih =>
    obtain ⟨turns, later⟩ := ih
    exact ⟨(r, job) :: turns, .goesOn later⟩

theorem length_le (course : Course r jobs turns r') :
    turns.length ≤ r.effort + Job.prices jobs := by
  induction course with
  | ends r => exact Nat.zero_le _
  | @goesOn r r' job rest turns later ih =>
    have less := r.effort_doJob job
    rw [Job.prices_append] at ih
    rw [List.length_cons, Job.prices_cons]
    omega

theorem quiet (course : Course r jobs turns r') (quiet : r.isPending p = false) :
    r'.isPending p = false := by
  induction course with
  | ends r => exact quiet
  | goesOn later ih => exact ih (not_pending_doJob quiet)

theorem gone (course : Course r jobs turns r') (gone : r.promises.get? p = none) :
    r'.promises.get? p = none := by
  induction course with
  | ends r => exact gone
  | goesOn later ih => exact ih (gone_doJob gone)

theorem settled (course : Course r jobs turns r') :
    ∀ p ∈ settlements turns, r.isPending p = true ∧ r'.isPending p = false := by
  induction course with
  | ends r => exact nofun
  | @goesOn r r' job rest turns later ih =>
    intro p inside
    rw [settlements_cons] at inside
    rcases List.mem_append.1 inside with first | next
    · obtain ⟨-, pending, quiet⟩ := settlement?_eq_some.1 (Option.mem_toList.1 first)
      exact ⟨pending, later.quiet quiet⟩
    · obtain ⟨pending, quiet⟩ := ih p next
      refine ⟨?_, quiet⟩
      by_contra before
      rw [not_pending_doJob (Bool.eq_false_iff.2 before)] at pending
      cases pending

theorem once (course : Course r jobs turns r') : (settlements turns).Nodup := by
  induction course with
  | ends r => exact List.nodup_nil
  | @goesOn r r' job rest turns later ih =>
    rw [settlements_cons]
    rcases first : r.settlement? job with _ | p
    · exact ih
    · refine List.nodup_cons.2 ⟨fun again => ?_, ih⟩
      obtain ⟨-, -, quiet⟩ := settlement?_eq_some.1 first
      rw [(later.settled p again).1] at quiet
      cases quiet

theorem others (course : Course r jobs turns r') (pending : r.isPending p = true)
    (never : p ∉ settlements turns) : r'.isPending p = true ∨ r'.promises.get? p = none := by
  induction course with
  | ends r => exact .inl pending
  | @goesOn r r' job rest turns later ih =>
    rw [settlements_cons, List.mem_append, not_or] at never
    rcases pending_doJob job pending with first | still | gone
    · exact absurd (Option.mem_toList.2 first) never.1
    · exact ih still never.2
    · exact .inr (later.gone gone)

theorem ordered (course : Course r jobs turns r') (ordered : r.Ordered) :
    ∀ turn ∈ turns, turn.1.Ordered := by
  induction course with
  | ends r => exact nofun
  | @goesOn r r' job rest turns later ih =>
    intro turn inside
    rcases List.mem_cons.1 inside with rfl | next
    · exact ordered
    · exact ih (ordered.turn (r.turn job)) turn next

end Course

/-- Every cascade in a realm where promises are older than those made with them comes to an end. -/
theorem exists_cascade {r : Realm} (ordered : r.Ordered) (jobs : List Job) :
    ∃ turns, Cascade r jobs turns (r.run jobs) := by
  obtain ⟨turns, course⟩ := Course.of_run r jobs
  refine ⟨turns, course, course.length_le, fun s job p inside settles => ?_, course.once,
    course.settled, fun p => course.others, fun s job p q inside resolves => ?_⟩
  · exact ⟨(settlement?_eq_some.1 settles).2.1, get?_of_settlement settles⟩
  · have older := course.ordered ordered _ inside
    obtain ⟨way, follows⟩ := follows_target older p q
    exact ⟨way, follows, follows.descends older⟩

end Realm

namespace Watched

/-- After any operations, whatever promises there are and however they wait for each other: what a
promise was made with is older, so that a resolution stops after each of them once at most; and the
jobs that resolving, rejecting and registering lead to come to an end. They are no more than there
was to do before, and each promise that was pending is settled by one of them at most. -/
theorem settling_ends (closures : Closures) (elements : Elements) (before : List PromiseOp) :
    let r := ((start closures elements).run before).session.realm
    (WellFounded fun x q => r.Stores q x) ∧
    (∀ asking q, ∃ way, r.Follows asking q way (r.target asking (.promise q)) ∧
      way.Pairwise (· > ·) ∧
      ∀ way' target, r.Follows asking q way' target →
        way' = way ∧ target = r.target asking (.promise q)) ∧
    (∀ p v, ∃ turns, Realm.Cascade (r.hold v) [.resolve p v] turns ((r.hold v).resolve p v)) ∧
    (∀ p f, ∃ turns, Realm.Cascade r [.reject p f] turns (r.reject p f)) ∧
    ∀ p callback,
      let s := r.hold (.function callback)
      (∀ reactions, r.promises.get? p = some (.pending reactions) → (s.andThen p callback).2 =
        (s.added (.pending []) 2).addReaction p (.call callback r.promises.size)) ∧
      ∀ outcome, r.promises.get? p = some (.settled outcome) →
        ∃ turns, Realm.Cascade (s.added (.pending []) 2)
          [.react (.call callback r.promises.size) outcome] turns (s.andThen p callback).2 := by
  intro r
  have sound : ((start closures elements).run before).Sound :=
    (start_sound closures elements).run before
  have ordered : r.Ordered := sound.ordered
  refine ⟨Realm.wellFounded_stores ordered, fun asking q => ?_, fun p v => ?_,
    fun p f => Realm.exists_cascade ordered _, fun p callback => ⟨fun reactions found => ?_,
      fun outcome found => ?_⟩⟩
  · obtain ⟨way, follows⟩ := Realm.follows_target ordered asking q
    exact ⟨way, follows, follows.descends ordered, fun way' target other => other.unique follows⟩
  · have held : Realm.Widens r (r.hold v) := .of_same (Realm.get?_hold r v)
    exact Realm.exists_cascade (ordered.widens held) _
  · have here : (r.hold (.function callback)).promises.get? p = some (.pending reactions) := found
    exact congrArg Prod.snd (Realm.andThen_pending here callback)
  · have newborn : (Promise.pending []).Newborn r.promises.size := rfl
    have added : Realm.Widens r ((r.hold (.function callback)).added (.pending []) 2) :=
      .added (.hold r _) newborn 2
    have here : (r.hold (.function callback)).promises.get? p = some (.settled outcome) := found
    rw [Realm.andThen_settled here]
    exact Realm.exists_cascade (ordered.widens added) _

end Watched

end GuestBridge

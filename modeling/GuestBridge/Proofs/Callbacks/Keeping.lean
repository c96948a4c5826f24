import GuestBridge.Proofs.Callbacks.Custody
/-!
What holds of all callbacks in custody, in the middle of a cascade too: each is kept in one place or
has been let go of, and its closure is in the state that goes with that. A cascade keeps it so, and
every operation is a small change and a cascade.
-/

set_option autoImplicit false

namespace GuestBridge

theorem EventLoop.Queues.queued {e e' : EventLoop} (queues : e.Queues e') (queued : e.Queued) :
    e'.Queued := by
  obtain ⟨timers, -, scheduled⟩ := EventLoop.of_agenda queues.agenda
  exact queued.sublist (timers ▸ List.Sublist.refl _) scheduled

namespace Custody

open Realm

/-- A number that is a callback's, or nobody's yet. -/
def Reserved (s : Custody) (i : Nat) : Prop :=
  s.realm.closures.pool.size ≤ i ∨ ∃ h ∈ s.handed, h.callback = i

/-- How often such a number is to be kept or let go of in all, and the state of closures that goes
with it. -/
inductive Tends (s : Custody) : Nat → Nat → (Closures → Nat → Prop) → Prop
  | handed {h : Handed} (member : h ∈ s.handed) :
      Tends s h.callback 1 (Closures.Kept h (s.past h))
  | unmade {i : Nat} (beyond : s.realm.closures.pool.size ≤ i) : Tends s i 0 (Closures.Unmade i)

/-- What holds with so many jobs to do. -/
structure Sound (s : Custody) (jobs : List Job) : Prop where
  homes : s.realm.Homes s.registered
  known : ∀ reg ∈ s.registered, reg.promise < s.realm.promises.size ∧
    reg.callback < s.realm.closures.pool.size
  made : ∀ h ∈ s.handed, h.callback < s.realm.closures.pool.size
  queued : s.realm.events.Queued
  numbered : s.realm.closures.Numbered s.drained
  tended : ∀ i whole state, s.Tends i whole state → s.Retains i →
    Tended i (s.ended i) whole state s.registered s.realm jobs

variable {s t : Custody} {job : Job} {jobs rest : List Job} {i whole : Nat}
  {state : Closures → Nat → Prop}

theorem Tends.custodian (tends : s.Tends i whole state) : Custodian i state := by
  cases tends with
  | handed => exact Closures.custodian_kept _ _
  | unmade => exact Closures.custodian_unmade i

theorem Tends.reserved (tends : s.Tends i whole state) : s.Reserved i := by
  cases tends with
  | handed member => exact .inr ⟨_, member, rfl⟩
  | unmade beyond => exact .inl beyond

/-- Who tends a number depends on what was handed over and drained. -/
theorem Tends.before (tends : t.Tends i whole state) (handed : t.handed = s.handed)
    (size : t.realm.closures.pool.size = s.realm.closures.pool.size)
    (drained : t.drained = s.drained) : s.Tends i whole state := by
  cases tends with
  | @handed h member =>
    have past : t.past h = s.past h := by
      unfold past
      rw [drained]
    rw [past]
    exact .handed (handed ▸ member)
  | unmade beyond => exact .unmade (size ▸ beyond)

theorem apart_of_mayPass {v : Value} (may : s.mayPass v = true) (reserved : s.Reserved i) :
    v ≠ .function i := by
  rintro rfl
  simp only [mayPass, Bool.and_eq_true, decide_eq_true_eq, List.all_eq_true, bne_iff_ne] at may
  rcases reserved with beyond | ⟨h, member, same⟩
  · exact Nat.not_lt.2 beyond may.1
  · exact may.2 h member same

theorem Sound.doJob (sound : s.Sound (job :: rest)) :
    { s with realm := (s.realm.doJob job).1 }.Sound ((s.realm.doJob job).2 ++ rest) := by
  have fewer := s.realm.fewer_doJob job
  have turn := s.realm.turn job
  constructor
  case homes => exact turn.homes sound.homes
  case known =>
    intro reg member
    have known := sound.known reg member
    exact ⟨(size_doJob s.realm job).symm ▸ known.1, fewer.size.symm ▸ known.2⟩
  case made => exact fun h member => fewer.size.symm ▸ sound.made h member
  case queued => exact (s.realm.queues_doJob job).queued sound.queued
  case numbered => exact sound.numbered.fewer fewer
  case tended =>
    intro i whole state tends retains
    have before : s.Retains i := Retains.before retains fun _ _ gone => turn.gone gone
    exact (sound.tended i whole state (tends.before rfl fewer.size rfl) before).doJob
      tends.custodian sound.homes retains

theorem Sound.run (sound : s.Sound jobs) : { s with realm := s.realm.run jobs }.Sound [] :=
  run_induction (P := fun r jobs => { s with realm := r }.Sound jobs)
    (fun r job rest (sound : { s with realm := r }.Sound (job :: rest)) => sound.doJob) sound

/-! Changes between operations. -/

/-- What a change does to a number: it may come to a place, or pass from a place to the jobs. -/
structure Moves (s t : Custody) (jobs : List Job) (come i : Nat) : Prop where
  kept : t.realm.keeps i + (jobs.map (Job.keeps i)).sum + t.letGo i =
    s.realm.keeps i + s.letGo i + come
  places : t.realm.keeps i + (jobs.map (Job.keeps i)).sum + (jobs.map (Job.drops i)).sum =
    s.realm.keeps i + come
  closures : s.realm.closures.Aside i t.realm.closures
  stored : t.realm.Spares i
  spares : ∀ job ∈ jobs, job.Spares i

theorem Moves.tended {come : Nat} (moves : s.Moves t jobs come i) (custodian : Custodian i state)
    (kept : s.realm.keeps i + s.letGo i + come = whole)
    (closure : state s.realm.closures (s.realm.keeps i + come)) :
    Tended i (t.ended i) whole state t.registered t.realm jobs where
  kept := by
    have sum := moves.kept
    have parts : t.letGo i = t.ended i + t.realm.rejections t.registered i := rfl
    omega
  closure := by
    rw [moves.places]
    exact custodian.aside _ _ _ moves.closures closure
  stored := moves.stored
  spares := moves.spares

/-- What a change leaves of the rest. -/
structure Leads (s t : Custody) : Prop where
  registered : s.registered ⊆ t.registered
  gone : ∀ reg ∈ s.registered, s.realm.promises.get? reg.promise = none →
    t.realm.promises.get? reg.promise = none
  homes : t.realm.Homes t.registered
  known : ∀ reg ∈ t.registered, reg.promise < t.realm.promises.size ∧
    reg.callback < t.realm.closures.pool.size
  queued : t.realm.events.Queued
  fewer : s.realm.closures.Fewer t.realm.closures
  drained : t.drained = s.drained

theorem Leads.retains (leads : s.Leads t) (retains : t.Retains i) : s.Retains i := by
  refine Realm.Retains.before (fun reg member mine => ?_) leads.gone
  exact retains reg (leads.registered member) mine

theorem Sound.tended_kept (sound : s.Sound []) (tends : s.Tends i whole state)
    (retains : s.Retains i) :
    s.realm.keeps i + s.letGo i + 0 = whole ∧ state s.realm.closures (s.realm.keeps i + 0) := by
  have tended := sound.tended i whole state tends retains
  have kept := tended.kept
  have parts : s.letGo i = s.ended i + s.realm.rejections s.registered i := rfl
  have none : (([] : List Job).map (Job.keeps i)).sum = 0 := rfl
  exact ⟨by omega, tended.closure⟩

/-- Changes that leave each callback in its place, or pass it to the jobs that drop it. -/
theorem Sound.lead (sound : s.Sound []) (leads : s.Leads t) (handed : t.handed = s.handed)
    (moves : ∀ i, s.Reserved i → s.realm.Spares i → s.Moves t jobs 0 i) : t.Sound jobs := by
  have size := leads.fewer.size
  constructor
  case homes => exact leads.homes
  case known => exact leads.known
  case made => exact fun h member => size.symm ▸ sound.made h (handed ▸ member)
  case queued => exact leads.queued
  case numbered => exact leads.drained ▸ sound.numbered.fewer leads.fewer
  case tended =>
    intro i whole state tends retains
    have before := tends.before handed size leads.drained
    have stored := (sound.tended i whole state before (leads.retains retains)).stored
    obtain ⟨kept, closure⟩ := sound.tended_kept before (leads.retains retains)
    exact (moves i before.reserved stored).tended tends.custodian kept closure

theorem spares_make (r : Realm) (k : Blueprint) : (r.make k).2.Spares i ↔ r.Spares i :=
  ⟨fun spares => ⟨spares.stored, spares.passed⟩, fun spares => ⟨spares.stored, spares.passed⟩⟩

/-- A closure more. -/
theorem Sound.make (sound : s.Sound []) (k : Blueprint) : (s.step (.make k)).Sound [] := by
  have size : (s.realm.make k).2.closures.pool.size = s.realm.closures.pool.size + 1 :=
    Closures.size_make ..
  constructor
  case homes => exact sound.homes
  case known =>
    intro reg member
    exact ⟨(sound.known reg member).1, size ▸ Nat.lt_succ_of_lt (sound.known reg member).2⟩
  case made => exact fun h member => size ▸ Nat.lt_succ_of_lt (sound.made h member)
  case queued => exact sound.queued
  case numbered => exact sound.numbered.make k
  case tended =>
    intro i whole state tends retains
    cases tends with
    | @handed h member =>
      have tended := sound.tended _ _ _ (.handed member) retains
      exact ⟨tended.kept, tended.closure.make k, (spares_make _ k).2 tended.stored, tended.spares⟩
    | unmade beyond =>
      have before : s.realm.closures.pool.size ≤ i :=
        Nat.le_of_succ_le (Nat.le_trans (Nat.le_of_eq size.symm) beyond)
      have tended := sound.tended _ _ _ (.unmade before) retains
      exact ⟨tended.kept, ⟨beyond, tended.closure.2⟩, (spares_make _ k).2 tended.stored,
        tended.spares⟩

/-- A callback is made and put in a place. -/
theorem Sound.place (sound : s.Sound []) (k : Blueprint) (leads : (s.handOver k).Leads t)
    (handed : t.handed = (s.handOver k).handed)
    (moves : ∀ i, s.Reserved i → s.realm.Spares i →
      (s.handOver k).Moves t jobs (if s.realm.closures.pool.size = i then 1 else 0) i) :
    t.Sound jobs := by
  have more := sound.make k
  have newer : (s.handOver k).realm.closures.pool.size = s.realm.closures.pool.size + 1 :=
    Closures.size_make ..
  have size : t.realm.closures.pool.size = s.realm.closures.pool.size + 1 :=
    leads.fewer.size.trans newer
  -- For the numbers that there were, and those that there still are not.
  have others (i whole : Nat) (state : Closures → Nat → Prop)
      (tends : (s.step (.make k)).Tends i whole state) (reserved : s.Reserved i)
      (retains : t.Retains i) (apart : s.realm.closures.pool.size ≠ i) :
      Tended i (t.ended i) whole state t.registered t.realm jobs := by
    have before : (s.step (.make k)).Retains i := leads.retains retains
    obtain ⟨kept, closure⟩ := more.tended_kept tends before
    have stored : s.realm.Spares i :=
      (spares_make _ k).1 (more.tended i whole state tends before).stored
    have moves := moves i reserved stored
    rw [if_neg apart] at moves
    exact moves.tended tends.custodian kept closure
  constructor
  case homes => exact leads.homes
  case known => exact leads.known
  case made =>
    intro h member
    rw [size]
    rw [handed] at member
    rcases List.mem_append.1 member with old | new
    · exact Nat.lt_succ_of_lt (sound.made h old)
    · rw [List.mem_singleton.1 new]
      exact Nat.lt_succ_self _
  case queued => exact leads.queued
  case numbered => exact leads.drained ▸ more.numbered.fewer leads.fewer
  case tended =>
    intro i whole state tends retains
    cases tends with
    | unmade beyond =>
      rw [size] at beyond
      exact others i 0 _ (.unmade (Nat.le_trans (Nat.le_of_eq newer) beyond))
        (.inl (Nat.le_of_succ_le beyond)) retains (Nat.ne_of_lt beyond)
    | @handed h member =>
      have past : t.past h = s.past h := by
        unfold Custody.past
        rw [leads.drained]
        rfl
      rw [past]
      rw [handed] at member
      rcases List.mem_append.1 member with old | new
      · exact others h.callback 1 _ (.handed old) (.inr ⟨h, old, rfl⟩) retains
          (Nat.ne_of_gt (sound.made h old))
      · rw [List.mem_singleton.1 new]
        -- Nothing was registered for the new one before it was made.
        have nobody : s.Retains s.realm.closures.pool.size := by
          intro reg member mine
          exact absurd (sound.known reg member).2 (Nat.not_lt.2 (Nat.le_of_eq mine.symm))
        have tends : s.Tends s.realm.closures.pool.size 0 _ := .unmade (Nat.le_refl _)
        obtain ⟨none, -, nowhere⟩ := sound.tended_kept tends nobody
        have moves := moves _ tends.reserved (sound.tended _ _ _ tends nobody).stored
        rw [if_pos rfl] at moves
        have places : (s.handOver k).realm.keeps s.realm.closures.pool.size + 1 = 1 :=
          congrArg (· + 1) nowhere
        have custodian := Closures.custodian_kept (s.next k) (s.past (s.next k))
        exact moves.tended custodian (congrArg (· + 1) none) (places.symm ▸ sound.numbered.kept k)

end Custody

end GuestBridge

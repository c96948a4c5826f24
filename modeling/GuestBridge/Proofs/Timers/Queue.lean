import GuestBridge.EventLoop
import Mathlib.Data.List.Pairwise
import Mathlib.Data.List.Perm.Basic
/-!
The queue of timers in the order in which they come due: what scheduling, cancelling and taking
the first one do to it, and that the order is kept.
-/

set_option autoImplicit false

namespace GuestBridge

namespace TimerKey

theorem before_iff {a b : TimerKey} :
    a.before b = true ↔ a.due < b.due ∨ a.due = b.due ∧ a.order < b.order := by
  simp only [before, Bool.or_eq_true, decide_eq_true_eq, Bool.and_eq_true, beq_iff_eq]

theorem due_le_of_before {a b : TimerKey} (first : a.before b = true) : a.due ≤ b.due := by
  rcases before_iff.1 first with less | ⟨same, -⟩
  · exact UInt64.le_of_lt less
  · exact same ▸ UInt64.le_refl _

theorem before_trans {a b c : TimerKey} (ab : a.before b = true) (bc : b.before c = true) :
    a.before c = true := by
  rw [before_iff] at *
  rcases ab with ab | ⟨ab, less⟩
  · rcases bc with bc | ⟨bc, -⟩
    · exact .inl (UInt64.lt_trans ab bc)
    · exact .inl (bc ▸ ab)
  · rcases bc with bc | ⟨bc, more⟩
    · exact .inl (ab ▸ bc)
    · exact .inr ⟨ab.trans bc, Nat.lt_trans less more⟩

/-- Of two timers scheduled at different times, one comes before the other. -/
theorem before_of_not_before {a b : TimerKey} (apart : a.order ≠ b.order)
    (other : a.before b = false) : b.before a = true := by
  have none : ¬ (a.due < b.due ∨ a.due = b.due ∧ a.order < b.order) := by
    rw [← before_iff, other]
    exact Bool.false_ne_true
  rw [before_iff, UInt64.lt_iff_toNat_lt]
  rw [UInt64.lt_iff_toNat_lt, ← UInt64.toNat_inj] at none
  rw [← UInt64.toNat_inj]
  omega

end TimerKey

namespace EventLoop

theorem insertTimer_perm (t : Timer) (timers : List Timer) :
    (insertTimer t timers).Perm (t :: timers) := by
  induction timers with
  | nil => exact .refl _
  | cons u rest ih =>
    simp only [insertTimer]
    split
    · exact (ih.cons u).trans (.swap t u rest)
    · exact .refl _

/-- The earlier of two timers stands first. -/
def Ascending (timers : List Timer) : Prop :=
  timers.Pairwise fun t u => t.key.before u.key = true

theorem insertTimer_ascending {t : Timer} {timers : List Timer} (ascending : Ascending timers)
    (fresh : ∀ u ∈ timers, u.key.order ≠ t.key.order) : Ascending (insertTimer t timers) := by
  induction timers with
  | nil => exact List.pairwise_singleton ..
  | cons u rest ih =>
    obtain ⟨first, sorted⟩ := List.pairwise_cons.1 ascending
    simp only [insertTimer]
    split
    · next earlier =>
      refine List.pairwise_cons.2
        ⟨fun v inside => ?_, ih sorted fun v inside => fresh v (List.mem_cons_of_mem _ inside)⟩
      rcases List.mem_cons.1 ((insertTimer_perm t rest).mem_iff.1 inside) with new | old
      · exact new ▸ earlier
      · exact first v old
    · next later =>
      have before : t.key.before u.key = true :=
        TimerKey.before_of_not_before (fresh u (List.mem_cons_self ..))
          (Bool.eq_false_iff.2 later)
      refine List.pairwise_cons.2 ⟨fun v inside => ?_, ascending⟩
      rcases List.mem_cons.1 inside with same | behind
      · exact same ▸ before
      · exact TimerKey.before_trans before (first v behind)

/-- The first timer is due no later than the others. -/
theorem Ascending.due_le {t : Timer} {rest : List Timer} (ascending : Ascending (t :: rest)) :
    ∀ u ∈ t :: rest, t.key.due ≤ u.key.due := by
  intro u inside
  rcases List.mem_cons.1 inside with same | behind
  · exact same ▸ UInt64.le_refl _
  · exact TimerKey.due_le_of_before ((List.pairwise_cons.1 ascending).1 u behind)

theorem toNat_later (time delay : UInt64) :
    (later time delay).toNat = min (time.toNat + delay.toNat) (UInt64.size - 1) := by
  have large : UInt64.size = 2 ^ 64 := rfl
  have time_lt := time.toNat_lt
  have delay_lt := delay.toNat_lt
  unfold later
  split
  · next fits =>
    rw [UInt64.toNat_add, Nat.mod_eq_of_lt (by omega)]
    omega
  · next high =>
    have top : (0xffffffffffffffff : UInt64).toNat = 2 ^ 64 - 1 := by decide
    rw [top]
    omega

theorem le_later (time delay : UInt64) : time ≤ later time delay := by
  have time_lt := time.toNat_lt
  have large : UInt64.size = 2 ^ 64 := rfl
  rw [UInt64.le_iff_toNat_le, toNat_later]
  omega

/-- The timer that a callback is scheduled as. -/
def newTimer (e : EventLoop) (callback : Nat) (delay : UInt64) : Timer :=
  ⟨⟨later e.now delay, e.scheduled⟩, e.nextId, callback⟩

theorem timers_setTimeout (e : EventLoop) (callback : Nat) (delay : UInt64) :
    (e.setTimeout callback delay).2.timers = insertTimer (e.newTimer callback delay) e.timers := rfl

theorem keys_setTimeout (e : EventLoop) (callback : Nat) (delay : UInt64) :
    (e.setTimeout callback delay).2.keys =
      (e.nextId, (e.newTimer callback delay).key) :: eraseId e.nextId e.keys := rfl

theorem mem_setTimeout (e : EventLoop) (callback : Nat) (delay : UInt64) (u : Timer) :
    u ∈ (e.setTimeout callback delay).2.timers ↔ u = e.newTimer callback delay ∨ u ∈ e.timers := by
  rw [timers_setTimeout, (insertTimer_perm _ _).mem_iff, List.mem_cons]

/-- Cancelling takes timers away at most, and moves nothing else. -/
theorem clearTimeout_cases (e : EventLoop) (id : UInt32) :
    (e.keys.find? (fun entry => entry.1 == id) = none ∧ e.clearTimeout id = (none, e)) ∨
    ∃ key, e.keys.find? (fun entry => entry.1 == id) = some (id, key) ∧
      e.clearTimeout id = (e.timers.find? fun t => t.key == key, { e with
        timers := e.timers.filter fun t => t.key != key
        keys := eraseId id e.keys }) := by
  rcases found : e.keys.find? (fun entry => entry.1 == id) with _ | ⟨other, key⟩
  · exact .inl ⟨found, by simp only [clearTimeout, found]⟩
  · have same := List.find?_some found
    simp only [beq_iff_eq] at same
    subst same
    exact .inr ⟨key, found, by simp only [clearTimeout, found]⟩

theorem popDue_cases (e : EventLoop) (deadline : UInt64) :
    (e.popDue deadline = (none, e) ∧ ∀ t, e.timers.head? = some t → deadline < t.key.due) ∨
    ∃ t rest, e.timers = t :: rest ∧ t.key.due ≤ deadline ∧
      e.popDue deadline = (some t, { e with
        now := max e.now t.key.due
        timers := rest
        keys := eraseId t.id e.keys }) := by
  unfold popDue
  rcases e.timers with _ | ⟨t, rest⟩
  · exact .inl ⟨rfl, fun t first => nomatch first⟩
  · simp only [List.head?_cons, Option.some.injEq]
    by_cases ahead : deadline < t.key.due
    · exact .inl ⟨by simp only [ahead, ↓reduceIte], fun u same => same ▸ ahead⟩
    · exact .inr ⟨t, rest, rfl, UInt64.not_lt.1 ahead, by simp only [ahead, ↓reduceIte]⟩

/-- The clock only moves forward. -/
theorem le_advanced (e : EventLoop) (time : UInt64) : e.now ≤ (e.advanceTo time).now := by
  change e.now ≤ if e.now ≤ time then time else e.now
  split
  · next ahead => exact ahead
  · exact UInt64.le_refl _

/-- What holds of the timers whatever the clock shows: they are in order, and each has a place of
its own in the order of scheduling. -/
structure Queued (e : EventLoop) : Prop where
  ascending : Ascending e.timers
  known : ∀ t ∈ e.timers, t.key.order < e.scheduled
  distinct : e.timers.Pairwise fun t u => t.key.order ≠ u.key.order

namespace Queued

variable {e : EventLoop}

theorem empty : EventLoop.empty.Queued :=
  ⟨List.Pairwise.nil, fun _ inside => absurd inside List.not_mem_nil, List.Pairwise.nil⟩

theorem nodup (queued : e.Queued) : e.timers.Nodup :=
  queued.distinct.imp fun apart same => apart (congrArg (fun t : Timer => t.key.order) same)

theorem eq_of_order (queued : e.Queued) {t u : Timer} (ht : t ∈ e.timers) (hu : u ∈ e.timers)
    (same : t.key.order = u.key.order) : t = u := by
  have symmetric : Std.Symm fun t u : Timer => t.key.order ≠ u.key.order :=
    ⟨fun _ _ apart => apart.symm⟩
  by_contra apart
  exact queued.distinct.forall ht hu apart same

theorem setTimeout (queued : e.Queued) (callback : Nat) (delay : UInt64) :
    (e.setTimeout callback delay).2.Queued := by
  have fresh : ∀ u ∈ e.timers, u.key.order ≠ (e.newTimer callback delay).key.order :=
    fun u inside => Nat.ne_of_lt (queued.known u inside)
  constructor
  case ascending => exact insertTimer_ascending queued.ascending fresh
  case known =>
    intro t inside
    rcases (e.mem_setTimeout callback delay t).1 inside with new | old
    · rw [new]
      exact Nat.lt_succ_self e.scheduled
    · exact Nat.lt_succ_of_lt (queued.known t old)
  case distinct =>
    rw [timers_setTimeout, (insertTimer_perm _ _).pairwise_iff fun apart => apart.symm]
    exact List.pairwise_cons.2 ⟨fun u inside => (fresh u inside).symm, queued.distinct⟩

/-- Some timers gone, the rest are in order. -/
theorem sublist (queued : e.Queued) {e' : EventLoop} (fewer : e'.timers.Sublist e.timers)
    (counted : e'.scheduled = e.scheduled) : e'.Queued where
  ascending := queued.ascending.sublist fewer
  known t inside := counted ▸ queued.known t (fewer.subset inside)
  distinct := queued.distinct.sublist fewer

theorem clearTimeout (queued : e.Queued) (id : UInt32) : (e.clearTimeout id).2.Queued := by
  rcases e.clearTimeout_cases id with ⟨-, unchanged⟩ | ⟨key, -, changed⟩
  · rw [unchanged]
    exact queued
  · rw [changed]
    exact queued.sublist List.filter_sublist rfl

theorem popDue (queued : e.Queued) (deadline : UInt64) : (e.popDue deadline).2.Queued := by
  rcases e.popDue_cases deadline with ⟨unchanged, -⟩ | ⟨t, rest, timers, -, changed⟩
  · rw [unchanged]
    exact queued
  · rw [changed]
    exact queued.sublist (timers ▸ List.sublist_cons_self t rest) rfl

theorem advanceTo (queued : e.Queued) (time : UInt64) : (e.advanceTo time).Queued :=
  queued.sublist (List.Sublist.refl _) rfl

/-- When nothing is taken, nothing is due. -/
theorem none_due (queued : e.Queued) {deadline : UInt64} (none : (e.popDue deadline).1 = none) :
    ∀ t ∈ e.timers, deadline < t.key.due := by
  intro t inside
  rcases e.popDue_cases deadline with ⟨-, ahead⟩ | ⟨u, rest, -, -, taken⟩
  · rcases timers : e.timers with _ | ⟨u, rest⟩
    · rw [timers] at inside
      cases inside
    · have order := queued.ascending
      rw [timers] at order inside ahead
      exact UInt64.lt_of_lt_of_le (ahead u rfl) (order.due_le t inside)
  · rw [taken] at none
    cases none

end Queued

end EventLoop

end GuestBridge

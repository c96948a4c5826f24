import GuestBridge.Proofs.Timers.Queue
import Mathlib.Data.List.Nodup
import Mathlib.Data.List.Range
/-!
Timers seen from outside: scheduled under an id, cancelled by that id, and taken when they are due.
As long as no id is given out twice, the two indexes of the event loop agree, and every timer that
was ever scheduled is in one place: still pending, cancelled, or taken.
-/

set_option autoImplicit false

namespace GuestBridge

/-- What users of the event loop do to its timers. -/
inductive TimerOp
  | schedule (callback : Nat) (delay : UInt64)
  | cancel (id : UInt32)
  /-- Takes the first timer if it is due by the deadline. -/
  | take (deadline : UInt64)
  | advance (time : UInt64)

def TimerOp.isSchedule : TimerOp → Bool
  | .schedule .. => true
  | _ => false

namespace EventLoop

/-- Both indexes describe the same timers. -/
structure Indexed (e : EventLoop) : Prop where
  unique : (e.keys.map Prod.fst).Nodup
  same : ∀ id key, (id, key) ∈ e.keys ↔ ∃ t ∈ e.timers, t.id = id ∧ t.key = key

/-- What an operation has to do, said of the set of pending timers. -/
def Obeys (e : EventLoop) : TimerOp → Prop
  | .schedule callback delay =>
    let (id, after) := e.setTimeout callback delay
    ∃ t : Timer, t.id = id ∧ t.callback = callback ∧ t.key.order = e.scheduled ∧
      t.key.due.toNat = min (e.now.toNat + delay.toNat) (UInt64.size - 1) ∧
      (∀ u ∈ e.timers, u.id ≠ id ∧ u.key.order < t.key.order) ∧
      (∀ u, u ∈ after.timers ↔ u = t ∨ u ∈ e.timers) ∧ after.now = e.now
  | .cancel id =>
    let (gone, after) := e.clearTimeout id
    (gone.isSome = true ↔ ∃ t ∈ e.timers, t.id = id) ∧
      (∀ t, gone = some t → t ∈ e.timers ∧ t.id = id) ∧
      (∀ u, u ∈ after.timers ↔ u ∈ e.timers ∧ u.id ≠ id) ∧ after.now = e.now
  | .take deadline =>
    match e.popDue deadline with
    | (some t, after) =>
      t ∈ e.timers ∧ t.key.due ≤ deadline ∧
        (∀ u ∈ e.timers, u ≠ t → t.key.before u.key = true) ∧
        (∀ u, u ∈ after.timers ↔ u ∈ e.timers ∧ u ≠ t) ∧ after.now = max e.now t.key.due
    | (none, after) => after = e ∧ ∀ u ∈ e.timers, deadline < u.key.due
  | .advance time =>
    (e.advanceTo time).timers = e.timers ∧ (e.advanceTo time).keys = e.keys ∧
      (e.advanceTo time).now = max e.now time

/-- The ids of the timers, which tell them apart. -/
structure Numbered (e : EventLoop) : Prop where
  queued : e.Queued
  indexed : e.Indexed
  number : ∀ t ∈ e.timers, t.id.toNat = t.key.order + 1
  next : e.scheduled < UInt32.size - 1 → e.nextId.toNat = e.scheduled + 1

theorem empty_numbered : EventLoop.empty.Numbered where
  queued := .empty
  indexed := ⟨List.nodup_nil, fun _ _ => ⟨nofun, fun ⟨_, inside, _⟩ => nomatch inside⟩⟩
  number := nofun
  next := fun _ => rfl

theorem mem_eraseId {id other : UInt32} {key : TimerKey} {keys : List (UInt32 × TimerKey)} :
    (other, key) ∈ eraseId id keys ↔ (other, key) ∈ keys ∧ other ≠ id := by
  simp only [eraseId, List.mem_filter, bne_iff_ne, ne_eq]

/-- The id of a new timer is entered once, also where an older timer had it. -/
theorem unique_setTimeout {e : EventLoop} (unique : (e.keys.map Prod.fst).Nodup) (callback : Nat)
    (delay : UInt64) : ((e.setTimeout callback delay).2.keys.map Prod.fst).Nodup := by
  rw [keys_setTimeout, List.map_cons]
  refine List.nodup_cons.2 ⟨fun inside => ?_, unique.sublist (List.filter_sublist.map _)⟩
  obtain ⟨⟨id, key⟩, entry, same⟩ := List.mem_map.1 inside
  exact (mem_eraseId.1 entry).2 same

/-- A timer gone from both indexes. -/
theorem Indexed.erase {e e' : EventLoop} {id : UInt32} (indexed : e.Indexed)
    (keys : e'.keys = eraseId id e.keys)
    (timers : ∀ u, u ∈ e'.timers ↔ u ∈ e.timers ∧ u.id ≠ id) : e'.Indexed := by
  constructor
  case unique =>
    rw [keys]
    exact indexed.unique.sublist (List.filter_sublist.map _)
  case same =>
    intro other key
    rw [keys, mem_eraseId, indexed.same]
    constructor
    · rintro ⟨⟨t, inside, rfl, rfl⟩, apart⟩
      exact ⟨t, (timers t).2 ⟨inside, apart⟩, rfl, rfl⟩
    · rintro ⟨t, inside, rfl, rfl⟩
      exact ⟨⟨t, ((timers t).1 inside).1, rfl, rfl⟩, ((timers t).1 inside).2⟩

namespace Numbered

variable {e : EventLoop}

theorem id_ne_iff (numbered : e.Numbered) {t u : Timer} (ht : t ∈ e.timers) (hu : u ∈ e.timers) :
    u.id ≠ t.id ↔ u ≠ t := by
  refine ⟨fun apart same => apart (congrArg Timer.id same), fun apart same => apart ?_⟩
  have numbers := congrArg UInt32.toNat same
  rw [numbered.number u hu, numbered.number t ht] at numbers
  exact numbered.queued.eq_of_order hu ht (Nat.succ.inj numbers)

theorem key_ne_iff (numbered : e.Numbered) {t u : Timer} (ht : t ∈ e.timers) (hu : u ∈ e.timers) :
    u.key ≠ t.key ↔ u ≠ t := by
  refine ⟨fun apart same => apart (congrArg Timer.key same), fun apart same => apart ?_⟩
  exact numbered.queued.eq_of_order hu ht (congrArg TimerKey.order same)

/-- Some timers gone; the others keep their ids. -/
theorem fewer (numbered : e.Numbered) {e' : EventLoop} (queued : e'.Queued) (indexed : e'.Indexed)
    (subset : e'.timers ⊆ e.timers)
    (counted : e'.scheduled = e.scheduled ∧ e'.nextId = e.nextId) : e'.Numbered where
  queued := queued
  indexed := indexed
  number t inside := numbered.number t (subset inside)
  next := by
    rw [counted.1, counted.2]
    exact numbered.next

/-! Scheduling. -/

theorem fresh (numbered : e.Numbered) (room : e.scheduled < UInt32.size - 1) :
    ∀ u ∈ e.timers, u.id ≠ e.nextId := by
  intro u inside same
  have numbers := congrArg UInt32.toNat same
  rw [numbered.number u inside, numbered.next room] at numbers
  have := numbered.queued.known u inside
  omega

theorem schedule (numbered : e.Numbered) (room : e.scheduled < UInt32.size - 1) (callback : Nat)
    (delay : UInt64) : (e.setTimeout callback delay).2.Numbered := by
  have fresh := numbered.fresh room
  have next := numbered.next room
  constructor
  case queued => exact numbered.queued.setTimeout callback delay
  case indexed =>
    have absent : ∀ key, (e.nextId, key) ∉ e.keys := by
      intro key inside
      obtain ⟨u, pending, same, -⟩ := (numbered.indexed.same _ _).1 inside
      exact fresh u pending same
    constructor
    case unique => exact unique_setTimeout numbered.indexed.unique callback delay
    case same =>
      intro id key
      rw [keys_setTimeout, List.mem_cons, mem_eraseId, numbered.indexed.same]
      constructor
      · rintro (new | ⟨⟨t, inside, rfl, rfl⟩, -⟩)
        · cases new
          exact ⟨_, (e.mem_setTimeout callback delay _).2 (.inl rfl), rfl, rfl⟩
        · exact ⟨t, (e.mem_setTimeout callback delay t).2 (.inr inside), rfl, rfl⟩
      · rintro ⟨t, inside, rfl, rfl⟩
        rcases (e.mem_setTimeout callback delay t).1 inside with rfl | old
        · exact .inl rfl
        · exact .inr ⟨⟨t, old, rfl, rfl⟩, fresh t old⟩
  case number =>
    intro t inside
    rcases (e.mem_setTimeout callback delay t).1 inside with rfl | old
    · exact next
    · exact numbered.number t old
  case next =>
    intro more
    change e.scheduled + 1 < UInt32.size - 1 at more
    change (idAfter e.nextId).toNat = e.scheduled + 1 + 1
    have successor : (e.nextId + 1).toNat = e.scheduled + 1 + 1 := by
      rw [UInt32.toNat_add, next]
      exact Nat.mod_eq_of_lt (by change e.scheduled + 1 + 1 < UInt32.size; omega)
    have nonzero : e.nextId + 1 ≠ 0 := by
      intro zero
      rw [zero] at successor
      exact absurd successor (Nat.succ_ne_zero _).symm
    rw [idAfter, if_neg nonzero, successor]

theorem obeys_schedule (numbered : e.Numbered) (room : e.scheduled < UInt32.size - 1)
    (callback : Nat) (delay : UInt64) : e.Obeys (.schedule callback delay) :=
  ⟨e.newTimer callback delay, rfl, rfl, rfl, toNat_later e.now delay,
    fun u inside => ⟨numbered.fresh room u inside, numbered.queued.known u inside⟩,
    e.mem_setTimeout callback delay, rfl⟩

/-! Cancelling. -/

/-- The index leads to the timer with the id, if there is one, and it alone is taken out. -/
theorem clearTimeout_eq (numbered : e.Numbered) (id : UInt32) :
    ((∀ t ∈ e.timers, t.id ≠ id) ∧ e.clearTimeout id = (none, e)) ∨
    ∃ t ∈ e.timers, t.id = id ∧ e.clearTimeout id = (some t, { e with
      timers := e.timers.erase t
      keys := eraseId id e.keys }) := by
  rcases e.clearTimeout_cases id with ⟨absent, unchanged⟩ | ⟨key, present, changed⟩
  · refine .inl ⟨fun t inside same => ?_, unchanged⟩
    have listed := (numbered.indexed.same id t.key).2 ⟨t, inside, same, rfl⟩
    exact (List.find?_eq_none.1 absent) _ listed (beq_self_eq_true id)
  · obtain ⟨t, inside, same, rfl⟩ :=
      (numbered.indexed.same id key).1 (List.mem_of_find?_eq_some present)
    have found : e.timers.find? (fun u => u.key == t.key) = some t := by
      rcases search : e.timers.find? (fun u => u.key == t.key) with _ | u
      · exact absurd (beq_self_eq_true t.key) ((List.find?_eq_none.1 search) t inside)
      · have alike := List.find?_some search
        have pending := List.mem_of_find?_eq_some search
        have equal : u = t := by
          by_contra apart
          exact (numbered.key_ne_iff inside pending).2 apart (beq_iff_eq.1 alike)
        rw [search, equal]
    have kept : e.timers.filter (fun u => u.key != t.key) = e.timers.erase t := by
      rw [numbered.queued.nodup.erase_eq_filter]
      refine List.filter_congr fun u pending => ?_
      rw [Bool.eq_iff_iff, bne_iff_ne, bne_iff_ne]
      exact numbered.key_ne_iff inside pending
    refine .inr ⟨t, inside, same, ?_⟩
    rw [changed, found, kept]

theorem mem_erase (numbered : e.Numbered) {t : Timer} (inside : t ∈ e.timers) (u : Timer) :
    u ∈ e.timers.erase t ↔ u ∈ e.timers ∧ u.id ≠ t.id := by
  rw [numbered.queued.nodup.mem_erase_iff]
  constructor
  · rintro ⟨apart, pending⟩
    exact ⟨pending, (numbered.id_ne_iff inside pending).2 apart⟩
  · rintro ⟨pending, apart⟩
    exact ⟨(numbered.id_ne_iff inside pending).1 apart, pending⟩

theorem cancel (numbered : e.Numbered) (id : UInt32) : (e.clearTimeout id).2.Numbered := by
  have queued := numbered.queued.clearTimeout id
  rcases numbered.clearTimeout_eq id with ⟨-, unchanged⟩ | ⟨t, inside, rfl, changed⟩
  · rw [unchanged]
    exact numbered
  · rw [changed] at queued ⊢
    exact numbered.fewer queued (numbered.indexed.erase rfl (numbered.mem_erase inside))
      List.erase_subset ⟨rfl, rfl⟩

theorem obeys_cancel (numbered : e.Numbered) (id : UInt32) : e.Obeys (.cancel id) := by
  rcases numbered.clearTimeout_eq id with ⟨absent, unchanged⟩ | ⟨t, inside, rfl, changed⟩
  · simp only [Obeys, unchanged]
    refine ⟨⟨nofun, fun ⟨t, inside, same⟩ => absurd same (absent t inside)⟩, nofun,
      fun u => ⟨fun pending => ⟨pending, absent u pending⟩, And.left⟩, trivial⟩
  · simp only [Obeys, changed]
    refine ⟨⟨fun _ => ⟨t, inside, rfl⟩, fun _ => rfl⟩, ?_, numbered.mem_erase inside, trivial⟩
    intro u same
    cases same
    exact ⟨inside, rfl⟩

/-! Taking the first timer. -/

theorem mem_rest (numbered : e.Numbered) {t : Timer} {rest : List Timer}
    (timers : e.timers = t :: rest) (u : Timer) : u ∈ rest ↔ u ∈ e.timers ∧ u ≠ t := by
  have once := numbered.queued.nodup
  rw [timers] at once ⊢
  constructor
  · intro behind
    exact ⟨List.mem_cons_of_mem _ behind, fun same => (List.nodup_cons.1 once).1 (same ▸ behind)⟩
  · rintro ⟨inside, apart⟩
    exact (List.mem_cons.1 inside).resolve_left apart

theorem take (numbered : e.Numbered) (deadline : UInt64) : (e.popDue deadline).2.Numbered := by
  have queued := numbered.queued.popDue deadline
  rcases e.popDue_cases deadline with ⟨unchanged, -⟩ | ⟨t, rest, timers, -, changed⟩
  · rw [unchanged]
    exact numbered
  · rw [changed] at queued ⊢
    have first : t ∈ e.timers := timers ▸ List.mem_cons_self ..
    have left : ∀ u, u ∈ rest ↔ u ∈ e.timers ∧ u.id ≠ t.id := by
      intro u
      rw [numbered.mem_rest timers]
      exact and_congr_right fun pending => (numbered.id_ne_iff first pending).symm
    exact numbered.fewer queued (numbered.indexed.erase rfl left)
      (fun u inside => ((left u).1 inside).1) ⟨rfl, rfl⟩

theorem obeys_take (numbered : e.Numbered) (deadline : UInt64) : e.Obeys (.take deadline) := by
  rcases e.popDue_cases deadline with ⟨unchanged, -⟩ | ⟨t, rest, timers, due, changed⟩
  · simp only [Obeys, unchanged]
    exact ⟨trivial, numbered.queued.none_due (congrArg Prod.fst unchanged)⟩
  · simp only [Obeys, changed]
    have first : t ∈ e.timers := timers ▸ List.mem_cons_self ..
    have order := numbered.queued.ascending
    rw [timers] at order
    refine ⟨first, due, fun u pending apart => ?_, numbered.mem_rest timers, trivial⟩
    exact (List.pairwise_cons.1 order).1 u ((numbered.mem_rest timers u).2 ⟨pending, apart⟩)

theorem advance (numbered : e.Numbered) (time : UInt64) : (e.advanceTo time).Numbered :=
  numbered.fewer (numbered.queued.advanceTo time)
    ⟨numbered.indexed.unique, numbered.indexed.same⟩ (fun _ inside => inside) ⟨rfl, rfl⟩

end Numbered

end EventLoop

/-- An event loop, and what became of the timers that were scheduled on it. -/
structure TimerRecord where
  loop : EventLoop
  scheduled : List Timer
  taken : List Timer
  cancelled : List Timer

namespace TimerRecord

def start : TimerRecord := ⟨.empty, [], [], []⟩

def step (r : TimerRecord) : TimerOp → TimerRecord
  | .schedule callback delay =>
    { r with
      loop := (r.loop.setTimeout callback delay).2
      scheduled := r.scheduled ++ [r.loop.newTimer callback delay] }
  | .cancel id =>
    { r with
      loop := (r.loop.clearTimeout id).2
      cancelled := r.cancelled ++ (r.loop.clearTimeout id).1.toList }
  | .take deadline =>
    { r with
      loop := (r.loop.popDue deadline).2
      taken := r.taken ++ (r.loop.popDue deadline).1.toList }
  | .advance time => { r with loop := r.loop.advanceTo time }

def run (r : TimerRecord) (ops : List TimerOp) : TimerRecord := ops.foldl step r

/-- Every timer that was scheduled is in exactly one place. -/
structure Accounted (r : TimerRecord) : Prop where
  once : r.scheduled.Nodup
  placed : (r.taken ++ r.cancelled ++ r.loop.timers).Perm r.scheduled

/-- A later record only adds to what is over and done with. -/
structure Extends (r later : TimerRecord) : Prop where
  scheduled : r.scheduled <+: later.scheduled
  taken : r.taken <+: later.taken
  cancelled : r.cancelled <+: later.cancelled
  clock : r.loop.now ≤ later.loop.now

theorem Extends.refl (r : TimerRecord) : r.Extends r :=
  ⟨List.prefix_refl _, List.prefix_refl _, List.prefix_refl _, UInt64.le_refl _⟩

theorem Extends.trans {r s t : TimerRecord} (first : r.Extends s) (second : s.Extends t) :
    r.Extends t :=
  ⟨first.scheduled.trans second.scheduled, first.taken.trans second.taken,
    first.cancelled.trans second.cancelled, UInt64.le_trans first.clock second.clock⟩

theorem run_append (r : TimerRecord) (before after : List TimerOp) :
    r.run (before ++ after) = (r.run before).run after := List.foldl_append

theorem extends_step (r : TimerRecord) (op : TimerOp) : r.Extends (r.step op) := by
  cases op with
  | schedule callback delay =>
    exact ⟨List.prefix_append .., List.prefix_refl _, List.prefix_refl _, UInt64.le_refl _⟩
  | cancel id =>
    refine ⟨List.prefix_refl _, List.prefix_refl _, List.prefix_append .., ?_⟩
    simp only [step]
    rcases r.loop.clearTimeout_cases id with ⟨-, same⟩ | ⟨key, -, same⟩ <;> rw [same] <;>
      exact UInt64.le_refl _
  | take deadline =>
    refine ⟨List.prefix_refl _, List.prefix_append .., List.prefix_refl _, ?_⟩
    simp only [step]
    rcases r.loop.popDue_cases deadline with ⟨same, -⟩ | ⟨t, rest, -, -, same⟩
    · rw [same]
      exact UInt64.le_refl _
    · rw [same]
      exact EventLoop.le_advanced r.loop t.key.due
  | advance time =>
    exact ⟨List.prefix_refl _, List.prefix_refl _, List.prefix_refl _,
      EventLoop.le_advanced r.loop time⟩

theorem extends_run (r : TimerRecord) (ops : List TimerOp) : r.Extends (r.run ops) := by
  induction ops generalizing r with
  | nil => exact .refl r
  | cons op rest ih => exact (r.extends_step op).trans (ih (r.step op))

/-- What holds as long as there are ids left. -/
structure Kept (r : TimerRecord) : Prop where
  numbered : r.loop.Numbered
  orders : r.scheduled.map (fun t => t.key.order) = List.range r.loop.scheduled
  placed : (r.taken ++ r.cancelled ++ r.loop.timers).Perm r.scheduled

theorem start_kept : start.Kept := ⟨EventLoop.empty_numbered, rfl, .refl _⟩

theorem Kept.accounted {r : TimerRecord} (kept : r.Kept) : r.Accounted where
  once := by
    have distinct := List.nodup_range (n := r.loop.scheduled)
    rw [← kept.orders] at distinct
    exact distinct.of_map
  placed := kept.placed

theorem Kept.step {r : TimerRecord} (kept : r.Kept) (op : TimerOp)
    (room : op.isSchedule = true → r.loop.scheduled < UInt32.size - 1) : (r.step op).Kept := by
  cases op with
  | schedule callback delay =>
    constructor
    case numbered => exact kept.numbered.schedule (room rfl) callback delay
    case orders =>
      change (r.scheduled ++ [r.loop.newTimer callback delay]).map _ =
        List.range (r.loop.scheduled + 1)
      rw [List.map_append, kept.orders, List.range_succ]
      rfl
    case placed =>
      have added := EventLoop.insertTimer_perm (r.loop.newTimer callback delay) r.loop.timers
      have whole := (added.append_left (r.taken ++ r.cancelled)).trans List.perm_middle
      exact (whole.trans (kept.placed.cons _)).trans (List.perm_append_singleton ..).symm
  | cancel id =>
    have numbered := kept.numbered.cancel id
    simp only [TimerRecord.step]
    rcases kept.numbered.clearTimeout_eq id with ⟨-, same⟩ | ⟨t, inside, -, same⟩
    · rw [same] at numbered ⊢
      refine ⟨numbered, kept.orders, ?_⟩
      rw [Option.toList_none, List.append_nil]
      exact kept.placed
    · rw [same] at numbered ⊢
      refine ⟨numbered, kept.orders, ?_⟩
      have moved : (r.taken ++ (r.cancelled ++ [t]) ++ r.loop.timers.erase t).Perm
          (r.taken ++ r.cancelled ++ r.loop.timers) := by
        rw [← List.append_assoc, List.append_assoc (r.taken ++ r.cancelled)]
        exact (List.perm_cons_erase inside).symm.append_left _
      exact moved.trans kept.placed
  | take deadline =>
    have numbered := kept.numbered.take deadline
    simp only [TimerRecord.step]
    rcases r.loop.popDue_cases deadline with ⟨same, -⟩ | ⟨t, rest, timers, -, same⟩
    · rw [same] at numbered ⊢
      refine ⟨numbered, kept.orders, ?_⟩
      rw [Option.toList_none, List.append_nil]
      exact kept.placed
    · rw [same] at numbered ⊢
      refine ⟨numbered, kept.orders, ?_⟩
      have placed := kept.placed
      rw [timers] at placed
      have moved : (r.taken ++ [t] ++ r.cancelled ++ rest).Perm
          (r.taken ++ r.cancelled ++ t :: rest) := by
        rw [List.append_assoc r.taken, List.append_assoc r.taken, List.append_assoc r.taken]
        exact List.perm_middle.symm.append_left _
      exact moved.trans placed
  | advance time => exact ⟨kept.numbered.advance time, kept.orders, kept.placed⟩

/-- Only scheduling uses up a number. -/
theorem scheduled_step (r : TimerRecord) (op : TimerOp) :
    (r.step op).loop.scheduled = r.loop.scheduled + if op.isSchedule then 1 else 0 := by
  cases op with
  | schedule callback delay => rfl
  | cancel id =>
    simp only [step]
    rcases r.loop.clearTimeout_cases id with ⟨-, same⟩ | ⟨key, -, same⟩ <;> rw [same] <;> rfl
  | take deadline =>
    simp only [step]
    rcases r.loop.popDue_cases deadline with ⟨same, -⟩ | ⟨t, rest, -, -, same⟩ <;> rw [same] <;> rfl
  | advance time => rfl

theorem Kept.run {r : TimerRecord} (kept : r.Kept) (ops : List TimerOp)
    (room : r.loop.scheduled + ops.countP TimerOp.isSchedule ≤ UInt32.size - 1) :
    (r.run ops).Kept ∧
      (r.run ops).loop.scheduled = r.loop.scheduled + ops.countP TimerOp.isSchedule := by
  induction ops generalizing r with
  | nil => exact ⟨kept, rfl⟩
  | cons op rest ih =>
    have counted := r.scheduled_step op
    rw [List.countP_cons] at room ⊢
    have here : op.isSchedule = true → r.loop.scheduled < UInt32.size - 1 := by
      intro schedules
      rw [if_pos schedules] at room
      omega
    obtain ⟨after, total⟩ := ih (kept.step op here) (by omega)
    refine ⟨after, total.trans ?_⟩
    omega

theorem Kept.obeys {r : TimerRecord} (kept : r.Kept) (op : TimerOp)
    (room : op.isSchedule = true → r.loop.scheduled < UInt32.size - 1) : r.loop.Obeys op := by
  cases op with
  | schedule callback delay => exact kept.numbered.obeys_schedule (room rfl) callback delay
  | cancel id => exact kept.numbered.obeys_cancel id
  | take deadline => exact kept.numbered.obeys_take deadline
  | advance time => exact ⟨rfl, rfl, rfl⟩

/-- Whatever is scheduled, cancelled and taken in whatever order: at every moment the indexes agree,
each timer is in one place, and the next operation does what it has to do; what is cancelled or
taken stays so, and the clock does not go back. -/
theorem timers_in_one_place (ops : List TimerOp)
    (few : ops.countP TimerOp.isSchedule ≤ UInt32.size - 1) :
    ∀ before after, ops = before ++ after →
      (start.run before).loop.Indexed ∧ (start.run before).Accounted ∧
      (start.run before).Extends (start.run ops) ∧
      ∀ op, after.head? = some op → (start.run before).loop.Obeys op := by
  intro before after split
  rw [split, List.countP_append] at few
  obtain ⟨kept, total⟩ := start_kept.run before (by change 0 + _ ≤ _; omega)
  refine ⟨kept.numbered.indexed, kept.accounted, ?_,
    fun op next => kept.obeys op fun schedules => ?_⟩
  · rw [split, run_append]
    exact extends_run _ after
  · cases after with
    | nil => cases next
    | cons first rest =>
      cases next
      rw [List.countP_cons, if_pos schedules] at few
      change _ = 0 + _ at total
      omega

/-- Two timers tie, one is cancelled twice, and the other two are taken. -/
theorem timers_in_one_place_ties :
    let ops : List TimerOp := [.schedule 0 20, .schedule 1 5, .schedule 2 5, .cancel 2, .cancel 2,
      .take 10, .take 10, .advance 15, .take 30]
    ops.countP TimerOp.isSchedule ≤ UInt32.size - 1 ∧
      (start.run ops).taken.map (·.callback) = [2, 0] ∧
      (start.run ops).loop.Indexed ∧ (start.run ops).Accounted := by
  intro ops
  have few : ops.countP TimerOp.isSchedule ≤ UInt32.size - 1 := by decide
  obtain ⟨indexed, accounted, -⟩ := timers_in_one_place ops few ops [] (List.append_nil ops).symm
  exact ⟨few, by decide, indexed, accounted⟩

end TimerRecord

end GuestBridge

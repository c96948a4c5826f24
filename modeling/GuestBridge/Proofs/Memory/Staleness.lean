import GuestBridge.Memory.Views
import GuestBridge.Proofs.Memory.Access
import Mathlib.Data.List.Induction
/-!
When a view is out of date. Whether the view of a kind may be used again depends on the last lookup
of that kind since the views were forgotten, and on nothing else that was done: the memory must be
where it was then, and as large.
-/

set_option autoImplicit false

namespace GuestBridge

/-- The unit in which a view reads and writes. -/
def ViewKind.cell : ViewKind → Memory.Cell
  | .bytes => .byte
  | .words => .word
  | .doubles => .double

namespace Views

/-- What is done with views, each time with some memory as it is at the time. -/
inductive Use
  | look (kind : ViewKind) (m : Memory)
  | ask (kind : ViewKind) (m : Memory)
  | reset
  deriving DecidableEq, Repr

def after (v : Views) : Use → Views
  | .look kind m => (v.view kind m).2
  | .ask _ _ => v
  | .reset => v.reset

def run (v : Views) (uses : List Use) : Views := uses.foldl after v

/-- How many lookups find their view out of date. -/
def staleLooks (v : Views) : List Use → Nat
  | [] => 0
  | .look kind m :: rest =>
      (if v.isStale kind m then 1 else 0) + staleLooks (v.after (.look kind m)) rest
  | use :: rest => staleLooks (v.after use) rest

/-- The last lookup of a kind found this memory, and the views were not forgotten since. -/
def LastSeen (uses : List Use) (kind : ViewKind) (seen : Memory) : Prop :=
  ∃ earlier later, uses = earlier ++ .look kind seen :: later ∧
    ∀ use ∈ later, use ≠ .reset ∧ ∀ m, use ≠ .look kind m

section History

variable {uses : List Use} {use : Use} {kind : ViewKind} {seen : Memory}

theorem not_lastSeen_nil : ¬ LastSeen [] kind seen := by
  intro ⟨earlier, later, whole, _⟩
  simp at whole

/-- The last thing done is the lookup in question, or it leaves the lookup the last one. -/
theorem lastSeen_concat :
    LastSeen (uses ++ [use]) kind seen ↔
      use = .look kind seen ∨
      (use ≠ .reset ∧ ∀ m, use ≠ .look kind m) ∧ LastSeen uses kind seen := by
  constructor
  · intro ⟨earlier, later, whole, quiet⟩
    cases later using List.reverseRecOn with
    | nil => exact .inl (List.head_eq_of_cons_eq (List.append_inj' whole rfl).2)
    | append_singleton front last =>
      rw [← List.cons_append, ← List.append_assoc] at whole
      obtain ⟨same, here⟩ := List.append_inj' whole rfl
      obtain rfl : use = last := List.head_eq_of_cons_eq here
      have kept : ∀ use ∈ front, use ≠ .reset ∧ ∀ m, use ≠ .look kind m :=
        fun use within => quiet use (List.mem_append_left _ within)
      exact .inr ⟨quiet use (by simp), earlier, front, same, kept⟩
  · intro either
    rcases either with rfl | ⟨kept, earlier, later, rfl, quiet⟩
    · exact ⟨uses, [], rfl, by simp⟩
    · refine ⟨earlier, later ++ [use], by simp, fun other within => ?_⟩
      rcases List.mem_append.1 within with before | last
      · exact quiet other before
      · rw [List.mem_singleton.1 last]
        exact kept

end History

section Lookups

variable (v : Views) (kind : ViewKind) (m : Memory)

theorem isStale_eq_false_iff :
    v.isStale kind m = false ↔ v.key? kind = some m.viewKey ∧ m.size ≠ 0 := by
  unfold isStale
  cases v.key? kind with
  | none => simp
  | some key =>
    simp only [Bool.or_eq_false_iff, beq_eq_false_iff_ne, bne_eq_false_iff_eq, Option.some.injEq]
    constructor
    · intro ⟨bytes, same⟩
      exact ⟨same, by rw [same] at bytes; exact bytes⟩
    · intro ⟨same, bytes⟩
      exact ⟨by rw [same]; exact bytes, same⟩

theorem key?_setKey (key : ViewKey) (other : ViewKind) :
    (v.setKey key kind).key? other = if other = kind then some key else v.key? other := by
  cases kind <;> cases other <;> rfl

theorem key?_lookup (other : ViewKind) :
    (v.lookup kind m).key? other = if other = kind then some m.viewKey else v.key? other := by
  unfold lookup
  split
  · exact key?_setKey v kind m.viewKey other
  · rename_i fresh
    have held := (isStale_eq_false_iff v kind m).1 (Bool.eq_false_iff.2 fresh)
    split
    · simp_all
    · rfl

theorem rebuilds_lookup :
    (v.lookup kind m).rebuilds = v.rebuilds + if v.isStale kind m then 1 else 0 := by
  unfold lookup
  split
  · cases kind <;> rfl
  · rfl

/-- Lookups of other kinds do not count. -/
theorem isStale_lookup {other : ViewKind} (apart : other ≠ kind) (m' : Memory) :
    (v.lookup kind m).isStale other m' = v.isStale other m' := by
  unfold isStale
  rw [key?_lookup, if_neg apart]

end Lookups

theorem run_concat (v : Views) (uses : List Use) (use : Use) :
    v.run (uses ++ [use]) = (v.run uses).after use := by
  simp [run]

/-- What is kept for a kind is where its last lookup found the memory. -/
theorem key?_run (uses : List Use) (kind : ViewKind) (key : ViewKey) :
    (empty.run uses).key? kind = some key ↔
      ∃ seen, LastSeen uses kind seen ∧ seen.viewKey = key := by
  induction uses using List.reverseRecOn with
  | nil =>
    have nothing : (empty.run []).key? kind = none := by cases kind <;> rfl
    simp [nothing, not_lastSeen_nil]
  | append_singleton uses use ih =>
    simp only [run_concat, lastSeen_concat]
    cases use with
    | look other m =>
      show ((empty.run uses).lookup other m).key? kind = _ ↔ _
      rw [key?_lookup]
      by_cases same : kind = other
      · subst same
        simp
      · simp [same, Ne.symm same, ih]
    | ask other m =>
      show (empty.run uses).key? kind = _ ↔ _
      simp [ih]
    | reset =>
      have nothing : (empty.run uses).reset.key? kind = none := by cases kind <;> rfl
      simp [after, nothing]

theorem rebuilds_run (v : Views) (uses : List Use) :
    (v.run uses).rebuilds = v.rebuilds + v.staleLooks uses := by
  induction uses generalizing v with
  | nil => rfl
  | cons use rest ih =>
    show ((v.after use).run rest).rebuilds = _
    rw [ih]
    cases use with
    | look kind m =>
      show (v.lookup kind m).rebuilds + _ = _
      rw [rebuilds_lookup, Nat.add_assoc]
      rfl
    | ask kind m => rfl
    | reset => rfl

/-- Whatever was done with the views of whatever memories: a view may be used again just if the
memory is not empty and is as the last lookup of the kind found it; lookups of one kind leave the
others alone; every lookup of a view that was out of date is counted, which no reset undoes; and a
view reaches over the memory as it is at the time of the lookup, to its end and not further. -/
theorem staleness_follows_history (uses : List Use) :
    (∀ kind m, (empty.run uses).isStale kind m = false ↔
      ∃ seen, LastSeen uses kind seen ∧ seen.base = m.base ∧ seen.size = m.size ∧ m.size ≠ 0) ∧
    (∀ kind other m m', kind ≠ other →
      (empty.run (uses ++ [.look other m'])).isStale kind m = (empty.run uses).isStale kind m) ∧
    (empty.run uses).rebuilds = empty.staleLooks uses ∧
    (empty.run (uses ++ [.reset])).rebuilds = (empty.run uses).rebuilds ∧
    ∀ kind m, let view := ((empty.run uses).view kind m).1
      view.kind = kind ∧ view.byteLength = m.size ∧
      ∀ offset, (∃ value, kind.cell.read view.memory offset = .ok value) ↔
        kind.cell.align.toNat ∣ offset.toNat ∧ offset.toNat + kind.cell.width.toNat ≤ m.size := by
  refine ⟨fun kind m => ?_, fun kind other m m' apart => ?_, ?_, ?_, fun kind m => ?_⟩
  · rw [isStale_eq_false_iff, key?_run]
    simp only [Memory.viewKey, ViewKey.mk.injEq]
    constructor
    · intro ⟨⟨seen, last, base, size⟩, bytes⟩
      exact ⟨seen, last, base, size, bytes⟩
    · intro ⟨seen, last, base, size, bytes⟩
      exact ⟨⟨seen, last, base, size⟩, bytes⟩
  · rw [run_concat]
    exact isStale_lookup _ other m' apart m
  · rw [rebuilds_run]
    exact Nat.zero_add _
  · rw [run_concat]
    rfl
  · refine ⟨rfl, rfl, fun offset => ?_⟩
    rw [Memory.Cell.read_iff]
    constructor
    · intro inside
      exact ⟨inside.aligned, inside.room⟩
    · intro ⟨aligned, room⟩
      exact ⟨aligned, room⟩

/-- Back at its former size, a memory is out of date where it was looked up in between. -/
example :
    let small := Memory.zeroed 0 16
    let large := Memory.zeroed 0 32
    let v := empty.run [.look .bytes small, .look .words small, .look .bytes large]
    v.isStale .bytes small = true ∧ v.isStale .words small = false ∧ v.rebuilds = 3 := by
  decide

end Views

end GuestBridge

import GuestBridge.Proofs.Handles.Refinement
/-!
How large a table of handles gets. It has room for the first four and for the most others that were
live at one time, and no more: slots that were released are used again before a new one is made,
whatever else is released or asked for in between.
-/

set_option autoImplicit false

namespace GuestBridge

namespace HandleTable

/-- The most handles that are live at one time while the operations are carried out. -/
structure Peak (t : HandleTable) (ops : List HandleOp) (peak : Nat) : Prop where
  bound : ∀ early, early <+: ops → (t.run early).2.liveCount ≤ peak
  attained : ∃ early, early <+: ops ∧ (t.run early).2.liveCount = peak

def Full (t : HandleTable) : Prop :=
  ∀ handle : UInt32, handle.toNat < t.size → t.isLive handle = true

theorem run_concat (t : HandleTable) (ops : List HandleOp) (op : HandleOp) :
    (t.run (ops ++ [op])).2 = ((t.run ops).2.perform op).2 := by
  induction ops generalizing t with
  | nil => rfl
  | cons first rest ih => exact ih (t.perform first).2

namespace Peak

variable {t : HandleTable} {ops : List HandleOp} {peak : Nat}

theorem start (t : HandleTable) : t.Peak [] t.liveCount where
  bound early first := by
    rw [List.prefix_nil.1 first]
    exact Nat.le_refl _
  attained := ⟨[], List.prefix_refl _, rfl⟩

/-- One more operation sets a new mark or leaves the old one. -/
theorem concat (most : t.Peak ops peak) (op : HandleOp) :
    t.Peak (ops ++ [op]) (max peak (t.run (ops ++ [op])).2.liveCount) where
  bound early before := by
    rcases List.prefix_concat_iff.1 before with whole | earlier
    · rw [whole]
      exact Nat.le_max_right ..
    · exact Nat.le_trans (most.bound early earlier) (Nat.le_max_left ..)
  attained := by
    by_cases higher : peak ≤ (t.run (ops ++ [op])).2.liveCount
    · exact ⟨ops ++ [op], List.prefix_refl _, (Nat.max_eq_right higher).symm⟩
    · obtain ⟨early, before, reached⟩ := most.attained
      refine ⟨early, before.trans (List.prefix_append ops [op]), ?_⟩
      omega

end Peak

end HandleTable

namespace HandleInvariant

variable {t : HandleTable} {m : HandleMap}

theorem size_eq (invariant : HandleInvariant t m) :
    t.size = t.liveCount + m.released.length + 4 := by
  rw [invariant.represents.size, invariant.filled]

theorem full (invariant : HandleInvariant t m) (empty : m.released = []) : t.Full := by
  intro handle inside
  rw [invariant.represents.isLive, Option.isSome_iff_ne_none]
  intro vacant
  have below : handle.toNat < m.size := invariant.represents.size ▸ inside
  have waits : handle ∈ m.released := invariant.sound.inside handle below vacant
  rw [empty] at waits
  exact List.not_mem_nil waits

theorem size_perform (invariant : HandleInvariant t m) (op : HandleOp)
    (room : (op.stored? m).isSome → m.size + 1 < UInt32.size) :
    (m.released = [] ∧ (t.perform op).2.size = t.size + 1 ∧
      (t.perform op).2.liveCount = t.liveCount + 1) ∨
    (t.perform op).2.size = t.size := by
  obtain ⟨-, after⟩ := invariant.perform op room
  have size : t.size = m.size := invariant.represents.size
  have size' : (t.perform op).2.size = (m.perform op).2.size := after.represents.size
  have filled := after.size_eq
  rcases m.perform_cases op with ⟨value, -, plain, -, done⟩ | ⟨handle, -, -, done⟩ | ⟨-, done⟩
  · rw [done] at size' filled
    dsimp only at size' filled
    rcases HandleMap.alloc_stored (m := m) plain with ⟨handle, rest, -, here⟩ | ⟨empty, here⟩
    · rw [here] at size'
      exact .inr (size'.trans size.symm)
    · have whole := invariant.size_eq
      have none : (m.alloc value).2.released = [] := by
        rw [here]
        exact empty
      have grown : (m.alloc value).2.size = m.size + 1 := by
        rw [here]
      rw [empty, List.length_nil] at whole
      rw [none, List.length_nil] at filled
      refine .inl ⟨empty, ?_, ?_⟩ <;> omega
  · rw [done] at size'
    exact .inr (size'.trans size.symm)
  · rw [done] at size'
    exact .inr (size'.trans size.symm)

/-- A table as large as its peak requires stays so. -/
theorem size_perform_peak (invariant : HandleInvariant t m) (op : HandleOp)
    (room : (op.stored? m).isSome → m.size + 1 < UInt32.size) {peak : Nat}
    (size : t.size = 4 + peak) :
    (t.perform op).2.size = 4 + max peak (t.perform op).2.liveCount := by
  have whole := invariant.size_eq
  have whole' := (invariant.perform op room).2.size_eq
  rcases invariant.size_perform op room with ⟨empty, grown, more⟩ | same
  · rw [empty, List.length_nil] at whole
    omega
  · omega

theorem size_run (start : HandleInvariant t m) (least : t.size = 4 + t.liveCount)
    (ops : List HandleOp) (few : m.size + m.allocations ops < UInt32.size) :
    ∃ peak, t.Peak ops peak ∧ (t.run ops).2.size = 4 + peak := by
  induction ops using List.reverseRecOn with
  | nil => exact ⟨t.liveCount, .start t, least⟩
  | append_singleton ops op ih =>
    rw [allocations_append] at few
    obtain ⟨peak, most, size⟩ := ih (by omega)
    obtain ⟨-, invariant, bound⟩ := start.run ops (by omega)
    have room : (op.stored? (m.run ops).2).isSome → (m.run ops).2.size + 1 < UInt32.size := by
      intro stores
      rw [HandleMap.allocations, if_pos stores] at few
      omega
    refine ⟨_, most.concat op, ?_⟩
    rw [HandleTable.run_concat]
    exact invariant.size_perform_peak op room size

end HandleInvariant

namespace HandleTable

/-- Whatever is done to a table, as long as there are handles left: at any time it has four slots
more than handles were ever live at one time, and the next operation makes a new slot only if none
is vacant. -/
theorem table_grows_when_full (capacity : Nat) (strict : Bool) (ops : List HandleOp)
    (few : (HandleMap.empty strict).allocations ops < 2 ^ 32 - 4) :
    ∀ before after, ops = before ++ after →
      (∃ peak, (withCapacity capacity strict).Peak before peak ∧
        ((withCapacity capacity strict).run before).2.size = 4 + peak) ∧
      ∀ op, after.head? = some op →
        let t := ((withCapacity capacity strict).run before).2
        t.size < (t.perform op).2.size → t.Full := by
  intro before after split
  rw [withCapacity_eq]
  have start : HandleInvariant (.empty strict) (.empty strict) := empty_invariant strict
  have fits : (HandleMap.empty strict).size + (HandleMap.empty strict).allocations ops <
      UInt32.size := by
    change 4 + _ < 2 ^ 32
    omega
  rw [split, allocations_append] at fits
  refine ⟨start.size_run rfl before (by omega), fun op next => ?_⟩
  intro t grows
  obtain ⟨-, invariant, bound⟩ := start.run before (by omega)
  have room : (op.stored? ((HandleMap.empty strict).run before).2).isSome →
      ((HandleMap.empty strict).run before).2.size + 1 < UInt32.size := by
    intro stores
    obtain ⟨rest, rfl⟩ := List.head?_eq_some_iff.1 next
    rw [HandleMap.allocations, if_pos stores] at fits
    omega
  rcases invariant.size_perform op room with ⟨empty, -, -⟩ | same
  · exact invariant.full empty
  · exact absurd grows (Nat.not_lt.2 (Nat.le_of_eq same))

/-- Three values are stored, two of them at one time, and handles are released that are not live. -/
theorem table_grows_when_full_reused :
    let ops : List HandleOp := [.alloc (.string "a"), .cloneRef 4, .release 4, .release 4,
      .release 9, .release 2, .alloc (.string "b"), .take 5, .alloc (.string "c")]
    (HandleMap.empty false).allocations ops < 2 ^ 32 - 4 ∧
      ((withCapacity 100 false).run ops).2.size = 6 ∧ (withCapacity 100 false).Peak ops 2 := by
  intro ops
  have few : (HandleMap.empty false).allocations ops < 2 ^ 32 - 4 := by decide
  have size : ((withCapacity 100 false).run ops).2.size = 6 := by decide
  obtain ⟨peak, most, grown⟩ :=
    (table_grows_when_full 100 false ops few ops [] (List.append_nil ops).symm).1
  have two : peak = 2 := by omega
  exact ⟨few, size, two ▸ most⟩

end HandleTable

end GuestBridge

import GuestBridge.Proofs.Handles.Invariant
/-!
The table of handles refines the map: over any run it gives the same answers and goes on
representing the map, as long as the handles do not run out.
-/

set_option autoImplicit false

namespace GuestBridge

open HandleTable (reserved sentinel?)

/-- Two outcomes agree, and their states go together. -/
def Agree {α : Type} : Except Fault (α × HandleTable) → Except Fault (α × HandleMap) → Prop
  | .ok (a, t), .ok (b, m) => a = b ∧ HandleInvariant t m
  | .error f, .error g => f = g
  | _, _ => False

section Step

variable {t : HandleTable} {m : HandleMap}

theorem Agree.answers {α : Type} {result : Except Fault (α × HandleTable)}
    {result' : Except Fault (α × HandleMap)} (agree : Agree result result')
    (invariant : HandleInvariant t m) (answer : Except Fault α → HandleAnswer) :
    (HandleAnswer.of answer t result).1 = (HandleAnswer.of answer m result').1 ∧
      HandleInvariant (HandleAnswer.of answer t result).2 (HandleAnswer.of answer m result').2 := by
  cases result with
  | ok first =>
    cases result' with
    | ok second =>
      obtain ⟨same, after⟩ := agree
      exact ⟨congrArg (fun a => answer (.ok a)) same, after⟩
    | error fault => exact agree.elim
  | error fault =>
    cases result' with
    | ok second => exact agree.elim
    | error fault' =>
      have same : fault = fault' := agree
      subst same
      exact ⟨rfl, invariant⟩

theorem Represents.get (represents : Represents t m) (handle : UInt32) :
    t.get handle = m.get handle := by
  unfold HandleTable.get HandleMap.get
  rw [represents.value]

theorem Represents.tryGet (represents : Represents t m) (handle : UInt32) :
    t.tryGet handle = m.tryGet handle := by
  unfold HandleTable.tryGet HandleMap.tryGet
  rcases found : m.value handle with _ | value
  · simp only [represents.value, represents.strict, found]
  · simp only [represents.value, found]

theorem Represents.isLive (represents : Represents t m) (handle : UInt32) :
    t.isLive handle = (m.value handle).isSome := by
  unfold HandleTable.isLive
  rw [represents.value]

theorem HandleInvariant.alloc (invariant : HandleInvariant t m) (value : Value)
    (room : sentinel? value = none → m.size + 1 < UInt32.size) :
    (t.alloc value).1 = (m.alloc value).1 ∧
      HandleInvariant (t.alloc value).2 (m.alloc value).2 := by
  rcases permanent : sentinel? value with _ | handle
  · rcases waits : m.released with _ | ⟨handle, rest⟩
    · exact invariant.grow permanent waits (room permanent)
    · exact invariant.reuse permanent waits
  · simp only [HandleTable.alloc, HandleMap.alloc, permanent]
    exact ⟨trivial, invariant⟩

theorem HandleInvariant.release_agree (invariant : HandleInvariant t m) (handle : UInt32) :
    Agree (t.release handle) (m.release handle) := by
  unfold HandleTable.release HandleMap.release
  rw [invariant.represents.value]
  by_cases low : handle < reserved
  · rw [if_pos low, if_pos low]
    exact ⟨rfl, invariant⟩
  · rw [if_neg low, if_neg low]
    have high : reserved ≤ handle := UInt32.not_lt.1 low
    rcases present : m.value handle with _ | value
    · simp only [invariant.represents.strict]
      by_cases strict : m.strict = true
      · rw [if_pos strict, if_pos strict]
        exact rfl
      · rw [if_neg strict, if_neg strict]
        exact ⟨rfl, invariant⟩
    · exact ⟨rfl, invariant.release high present⟩

theorem HandleInvariant.cloneRef_agree (invariant : HandleInvariant t m) (handle : UInt32)
    (room : ∀ value, m.value handle = some value → sentinel? value = none →
      m.size + 1 < UInt32.size) :
    Agree (t.cloneRef handle) (m.cloneRef handle) := by
  unfold HandleTable.cloneRef HandleMap.cloneRef
  rw [invariant.represents.tryGet]
  rcases present : m.value handle with _ | value
  · by_cases strict : m.strict = true
    · simp only [HandleMap.tryGet, present, strict, ↓reduceIte]
      exact rfl
    · simp only [HandleMap.tryGet, present, strict, Bool.false_eq_true, ↓reduceIte]
      exact invariant.alloc .undefined fun plain => nomatch plain
  · simp only [HandleMap.tryGet, present]
    exact invariant.alloc value (room value present)

theorem HandleInvariant.take_agree (invariant : HandleInvariant t m) (handle : UInt32) :
    Agree (t.take handle) (m.take handle) := by
  have released := invariant.release_agree handle
  unfold HandleTable.take HandleMap.take
  rw [invariant.represents.tryGet]
  rcases m.tryGet handle with fault | value
  · exact rfl
  · revert released
    rcases t.release handle with fault | ⟨dropped, after⟩ <;>
      rcases m.release handle with fault' | ⟨dropped', after'⟩
    · exact id
    · exact False.elim
    · exact False.elim
    · exact fun agree => ⟨rfl, agree.2⟩

/-- One operation: the answers are the same, and the states still go together. -/
theorem HandleInvariant.perform (invariant : HandleInvariant t m) (op : HandleOp)
    (room : (op.stored? m).isSome → m.size + 1 < UInt32.size) :
    (t.perform op).1 = (m.perform op).1 ∧ HandleInvariant (t.perform op).2 (m.perform op).2 := by
  cases op with
  | alloc value =>
    have agree : Agree (.ok (t.alloc value)) (.ok (m.alloc value)) := by
      refine invariant.alloc value fun plain => room ?_
      simp [HandleOp.stored?, plain, Option.filter]
    exact agree.answers invariant .handle
  | get handle =>
    simp only [HandleTable.perform, HandleMap.perform, invariant.represents.get]
    exact ⟨trivial, invariant⟩
  | tryGet handle =>
    simp only [HandleTable.perform, HandleMap.perform, invariant.represents.tryGet]
    exact ⟨trivial, invariant⟩
  | cloneRef handle =>
    have agree : Agree (t.cloneRef handle) (m.cloneRef handle) := by
      refine invariant.cloneRef_agree handle fun value present plain => room ?_
      simp [HandleOp.stored?, present, plain, Option.filter]
    exact agree.answers invariant .handle
  | take handle => exact (invariant.take_agree handle).answers invariant .value
  | release handle => exact (invariant.release_agree handle).answers invariant .dropped

end Step

namespace HandleMap

variable {m : HandleMap}

theorem alloc_stored {value : Value} (plain : sentinel? value = none) :
    (∃ handle rest, m.released = handle :: rest ∧
      m.alloc value = (handle, { m.put handle (some value) with released := rest })) ∨
    (m.released = [] ∧ m.alloc value = (UInt32.ofNat m.size,
      { m.put (UInt32.ofNat m.size) (some value) with size := m.size + 1 })) := by
  simp only [alloc, plain]
  rcases m.released with _ | ⟨handle, rest⟩
  · exact .inr ⟨rfl, rfl⟩
  · exact .inl ⟨handle, rest, rfl, rfl⟩

theorem alloc_permanent {value : Value} {handle : UInt32}
    (permanent : sentinel? value = some handle) : m.alloc value = (handle, m) := by
  simp only [alloc, permanent]

theorem release_cases (m : HandleMap) (handle : UInt32) :
    (∃ value, m.value handle = some value ∧ m.release handle =
      .ok (some value, { m.put handle none with released := handle :: m.released })) ∨
    m.release handle = .ok (none, m) ∨
    (m.value handle = none ∧ m.strict = true ∧ m.release handle = .error (.deadHandle handle)) := by
  unfold release
  by_cases low : handle < reserved
  · exact .inr (.inl (if_pos low))
  · rw [if_neg low]
    rcases present : m.value handle with _ | value
    · by_cases strict : m.strict = true
      · exact .inr (.inr ⟨rfl, strict, if_pos strict⟩)
      · exact .inr (.inl (if_neg strict))
    · exact .inl ⟨value, rfl, rfl⟩

/-- What an operation does to the map: it stores a value, or it takes a handle away, or it leaves
everything as it is. -/
theorem perform_cases (m : HandleMap) (op : HandleOp) :
    (∃ value, op.stored? m = some value ∧ sentinel? value = none ∧ op.ended? = none ∧
      m.perform op = (.handle (.ok (m.alloc value).1), (m.alloc value).2)) ∨
    (∃ handle, op.stored? m = none ∧ op.ended? = some handle ∧
      (m.perform op).2 = { m.put handle none with released := handle :: m.released }) ∨
    (op.stored? m = none ∧ (m.perform op).2 = m) := by
  cases op with
  | alloc value =>
    rcases permanent : sentinel? value with _ | handle
    · refine .inl ⟨value, ?_, permanent, rfl, rfl⟩
      simp [HandleOp.stored?, permanent, Option.filter]
    · refine .inr (.inr ⟨?_, congrArg Prod.snd (alloc_permanent permanent)⟩)
      simp [HandleOp.stored?, permanent, Option.filter]
  | get handle => exact .inr (.inr ⟨rfl, rfl⟩)
  | tryGet handle => exact .inr (.inr ⟨rfl, rfl⟩)
  | cloneRef handle =>
    rcases present : m.value handle with _ | value
    · refine .inr (.inr ⟨by simp [HandleOp.stored?, present], ?_⟩)
      by_cases strict : m.strict = true
      · simp only [perform, cloneRef, tryGet, present, strict, ↓reduceIte]
        rfl
      · simp only [perform, cloneRef, tryGet, present, strict, Bool.false_eq_true, ↓reduceIte]
        rfl
    · have cloned : m.cloneRef handle = .ok (m.alloc value) := by
        simp only [cloneRef, tryGet, present]
        rfl
      rcases permanent : sentinel? value with _ | other
      · refine .inl ⟨value, ?_, permanent, rfl, ?_⟩
        · simp [HandleOp.stored?, present, permanent, Option.filter]
        · simp only [perform, cloned]
          rfl
      · refine .inr (.inr ⟨?_, ?_⟩)
        · simp [HandleOp.stored?, present, permanent, Option.filter]
        · simp only [perform, cloned, alloc_permanent permanent]
          rfl
  | take handle =>
    rcases looked : m.tryGet handle with fault | value
    · refine .inr (.inr ⟨rfl, ?_⟩)
      simp only [perform, take, looked]
      rfl
    · rcases m.release_cases handle with ⟨dropped, -, released⟩ | released | ⟨-, -, released⟩
      · refine .inr (.inl ⟨handle, rfl, rfl, ?_⟩)
        simp only [perform, take, looked, released]
        rfl
      · refine .inr (.inr ⟨rfl, ?_⟩)
        simp only [perform, take, looked, released]
        rfl
      · refine .inr (.inr ⟨rfl, ?_⟩)
        simp only [perform, take, looked, released]
        rfl
  | release handle =>
    rcases m.release_cases handle with ⟨dropped, -, released⟩ | released | ⟨-, -, released⟩
    · refine .inr (.inl ⟨handle, rfl, rfl, ?_⟩)
      simp only [perform, released]
      rfl
    · refine .inr (.inr ⟨rfl, ?_⟩)
      simp only [perform, released]
      rfl
    · refine .inr (.inr ⟨rfl, ?_⟩)
      simp only [perform, released]
      rfl

/-- The map grows by at most the values stored. -/
theorem size_perform_le (m : HandleMap) (op : HandleOp) :
    (m.perform op).2.size ≤ m.size + if (op.stored? m).isSome then 1 else 0 := by
  rcases m.perform_cases op with ⟨value, stored, plain, -, done⟩ | ⟨handle, -, -, done⟩ | ⟨-, done⟩
  · rw [done, stored]
    rcases alloc_stored plain with ⟨handle, rest, -, here⟩ | ⟨-, here⟩
    · rw [here]
      exact Nat.le_succ m.size
    · rw [here]
      exact Nat.le_refl _
  · rw [done]
    exact Nat.le_add_right ..
  · rw [done]
    exact Nat.le_add_right ..

end HandleMap

section Run

variable {t : HandleTable} {m : HandleMap}

/-- Over a whole run, as long as there are handles left. -/
theorem HandleInvariant.run (invariant : HandleInvariant t m) (ops : List HandleOp)
    (few : m.size + m.allocations ops < UInt32.size) :
    (t.run ops).1 = (m.run ops).1 ∧ HandleInvariant (t.run ops).2 (m.run ops).2 ∧
      (m.run ops).2.size ≤ m.size + m.allocations ops := by
  induction ops generalizing t m with
  | nil => exact ⟨rfl, invariant, Nat.le_refl _⟩
  | cons op rest ih =>
    simp only [HandleMap.allocations] at few ⊢
    have grown := m.size_perform_le op
    have room : (op.stored? m).isSome → m.size + 1 < UInt32.size := by
      intro stores
      rw [if_pos stores] at few
      omega
    obtain ⟨answer, after⟩ := invariant.perform op room
    obtain ⟨answers, final, bound⟩ := ih after (by omega)
    simp only [HandleTable.run, HandleMap.run]
    refine ⟨?_, final, by omega⟩
    rw [answer, answers]

theorem allocations_append (m : HandleMap) (before after : List HandleOp) :
    m.allocations (before ++ after) =
      m.allocations before + (m.run before).2.allocations after := by
  induction before generalizing m with
  | nil => exact (Nat.zero_add _).symm
  | cons op rest ih =>
    simp only [List.cons_append, HandleMap.allocations, HandleMap.run, ih]
    omega

/-- What a table and its map have in common at any time. -/
structure Mirrors (t : HandleTable) (m : HandleMap) : Prop where
  represents : Represents t m
  undefined : m.value 0 = some .undefined
  null : m.value 1 = some .null
  yes : m.value 2 = some (.bool true)
  no : m.value 3 = some (.bool false)
  isLive : ∀ handle, t.isLive handle = (m.value handle).isSome
  liveCount : t.liveCount = {handle | 4 ≤ handle ∧ t.isLive handle = true}.ncard

/-- What an operation on a table does, with the handles that wait in the map. -/
structure Careful (t : HandleTable) (m : HandleMap) (op : HandleOp) : Prop where
  /-- A value is stored under the handle released last, or else a new one; either is unused. -/
  stored : ∀ value, op.stored? m = some value → ∃ handle,
    (t.perform op).1 = .handle (.ok handle) ∧
    (match m.released with
      | last :: _ => handle = last
      | [] => handle.toNat = t.size) ∧
    4 ≤ handle ∧ t.isLive handle = false ∧ (t.perform op).2.live? handle = some value
  kept : ∀ handle value, t.live? handle = some value → op.ended? ≠ some handle →
    (t.perform op).2.live? handle = some value
  others : ∀ handle, op.ended? ≠ some handle → (t.perform op).1 ≠ .handle (.ok handle) →
    (t.perform op).2.live? handle = t.live? handle

theorem HandleInvariant.mirrors (invariant : HandleInvariant t m) : Mirrors t m where
  represents := invariant.represents
  undefined := invariant.sound.fixed 0 (by decide)
  null := invariant.sound.fixed 1 (by decide)
  yes := invariant.sound.fixed 2 (by decide)
  no := invariant.sound.fixed 3 (by decide)
  isLive := invariant.represents.isLive
  liveCount := by
    simp only [invariant.represents.isLive]
    exact invariant.counted

/-- An operation that stores nothing. -/
theorem Careful.of_spared {op : HandleOp} (none : op.stored? m = none)
    (spared : ∀ other, op.ended? ≠ some other → (t.perform op).2.live? other = t.live? other) :
    Careful t m op where
  stored := by
    intro value stores
    rw [none] at stores
    cases stores
  kept := by
    intro other value present other_spared
    rw [spared other other_spared, present]
  others := fun other other_spared _ => spared other other_spared

/-- The handle of a value that is stored was unused, and all other handles are left alone. -/
theorem HandleInvariant.alloc_careful (invariant : HandleInvariant t m) {value : Value}
    (plain : HandleTable.sentinel? value = none) :
    (match m.released with
      | last :: _ => (m.alloc value).1 = last
      | [] => (m.alloc value).1.toNat = t.size) ∧
    reserved ≤ (m.alloc value).1 ∧ m.value (m.alloc value).1 = none ∧
      (m.alloc value).2.value = (m.put (m.alloc value).1 (some value)).value := by
  have sound := invariant.sound
  rcases HandleMap.alloc_stored (m := m) plain with ⟨handle, rest, waits, here⟩ | ⟨empty, here⟩
  · obtain ⟨high, -, absent⟩ := sound.waiting handle (waits ▸ List.mem_cons_self ..)
    rw [here, waits]
    exact ⟨rfl, high, absent, rfl⟩
  · have size : t.size = m.size := invariant.represents.size
    rw [here, empty]
    refine ⟨sound.next_toNat.trans size.symm, ?_, ?_, rfl⟩
    · rw [reserved_le_iff, sound.next_toNat]
      exact sound.room
    · exact sound.beyond _ (Nat.le_of_eq sound.next_toNat.symm)

theorem HandleInvariant.careful (invariant : HandleInvariant t m) (op : HandleOp)
    (room : (op.stored? m).isSome → m.size + 1 < UInt32.size) : Careful t m op := by
  obtain ⟨answer, after⟩ := invariant.perform op room
  have live := invariant.represents.value
  have still := after.represents.value
  rcases m.perform_cases op with ⟨value, stores, plain, none, done⟩ | ⟨ended, none, ends, done⟩ |
    ⟨none, done⟩
  · obtain ⟨unused, high, absent, changed⟩ := invariant.alloc_careful plain
    rw [done] at answer still
    simp only [changed] at still
    constructor
    case stored =>
      intro value' stores'
      have same : value = value' := Option.some.inj (stores.symm.trans stores')
      subst same
      refine ⟨(m.alloc value).1, answer, unused, high, ?_, ?_⟩
      · rw [invariant.represents.isLive, absent]
        rfl
      · rw [still, HandleMap.put_self]
    case kept =>
      intro other value' present _
      rw [live] at present
      have different : other ≠ (m.alloc value).1 := by
        intro same
        rw [same, absent] at present
        cases present
      rw [still, HandleMap.put_other different, present]
    case others =>
      intro other _ different
      rw [answer] at different
      have different : other ≠ (m.alloc value).1 := fun same => different (same ▸ rfl)
      rw [still, live, HandleMap.put_other different]
  · apply Careful.of_spared none
    intro other spared
    rw [ends] at spared
    have different : other ≠ ended := fun same => spared (same ▸ rfl)
    rw [still, live, done]
    exact HandleMap.put_other different _
  · apply Careful.of_spared none
    intro other _
    rw [still, live, done]

/-- For all handles and all values, in either mode: a table gives the answers of the map, mirrors it
all the time, and each operation touches its own handle only. -/
theorem handle_table_refines_map (strict : Bool) (ops : List HandleOp)
    (few : (HandleMap.empty strict).allocations ops < 2 ^ 32 - 4) :
    ((HandleTable.empty strict).run ops).1 = ((HandleMap.empty strict).run ops).1 ∧
    ∀ before after, ops = before ++ after →
      Mirrors ((HandleTable.empty strict).run before).2 ((HandleMap.empty strict).run before).2 ∧
      ∀ op, after.head? = some op →
        Careful ((HandleTable.empty strict).run before).2
          ((HandleMap.empty strict).run before).2 op := by
  have start := empty_invariant strict
  have fits : (HandleMap.empty strict).size + (HandleMap.empty strict).allocations ops <
      UInt32.size := by
    change 4 + _ < 2 ^ 32
    omega
  refine ⟨(start.run ops fits).1, fun before after split => ?_⟩
  rw [split, allocations_append] at fits
  obtain ⟨-, invariant, bound⟩ := start.run before (by omega)
  refine ⟨invariant.mirrors, fun op next => invariant.careful op fun stores => ?_⟩
  cases after with
  | nil => cases next
  | cons first rest =>
    cases next
    rw [HandleMap.allocations, if_pos stores] at fits
    omega

/-- A handle released twice is given out once, and the permanent ones are never given out. -/
theorem handle_table_refines_map_released_twice :
    let ops : List HandleOp := [.alloc (.string "a"), .cloneRef 4, .release 4, .release 4,
      .release 2, .alloc (.string "b"), .alloc (.bool true), .take 5]
    (HandleMap.empty false).allocations ops < 2 ^ 32 - 4 ∧
      ((HandleTable.empty false).run ops).1 = ((HandleMap.empty false).run ops).1 := by
  intro ops
  have few : (HandleMap.empty false).allocations ops < 2 ^ 32 - 4 := by decide
  exact ⟨few, (handle_table_refines_map false ops few).1⟩

end Run

namespace HandleTable

variable {t : HandleTable}

/-- The table came about by operations on an empty one, and there is a handle left to give out. -/
def Roomy (t : HandleTable) : Prop :=
  ∃ strict ops, t = ((empty strict).run ops).2 ∧
    (HandleMap.empty strict).size + (HandleMap.empty strict).allocations ops + 1 < UInt32.size

theorem Roomy.alloc (roomy : t.Roomy) {v : Value} (plain : sentinel? v = none) :
    t.isLive (t.alloc v).1 = false ∧ (t.alloc v).2.live? (t.alloc v).1 = some v ∧
      ∀ other held, t.live? other = some held → (t.alloc v).2.live? other = some held := by
  obtain ⟨strict, ops, rfl, room⟩ := roomy
  obtain ⟨-, invariant, most⟩ := (empty_invariant strict).run ops (by omega)
  have careful := invariant.careful (.alloc v) fun _ => by omega
  have stores : (HandleOp.alloc v).stored? ((HandleMap.empty strict).run ops).2 = some v := by
    simp [HandleOp.stored?, plain, Option.filter]
  obtain ⟨handle, answer, -, -, unused, here⟩ := careful.stored v stores
  have given : (((empty strict).run ops).2.alloc v).1 = handle :=
    Except.ok.inj (HandleAnswer.handle.inj answer)
  rw [given]
  exact ⟨unused, here, fun other held present => careful.kept other held present nofun⟩

end HandleTable

end GuestBridge

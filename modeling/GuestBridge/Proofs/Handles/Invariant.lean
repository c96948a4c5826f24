import GuestBridge.Proofs.Handles.Map
import Mathlib.Data.Set.Card
/-!
How the slots of a table spell out a map of handles, and that every operation keeps it so.
-/

set_option autoImplicit false

namespace GuestBridge

open HandleTable (reserved sentinel?)

/-- The list of vacant slots that begins at `next` and ends at the size of the table. -/
def Threaded (slots : Array Slot) : UInt32 → List UInt32 → Prop
  | next, [] => next.toNat = slots.size
  | next, handle :: rest =>
    next = handle ∧ ∃ after, slots[handle.toNat]? = some (.vacant after) ∧
      Threaded slots after rest

/-- The table is one of the slots and the list through them that the map speaks of. -/
structure Represents (t : HandleTable) (m : HandleMap) : Prop where
  value : ∀ handle, t.live? handle = m.value handle
  released : Threaded t.slots t.nextFree m.released
  size : t.size = m.size
  strict : t.strict = m.strict

/-- Every handle has one use: it is permanent, given out, released, or still to come. -/
structure HandleMap.Sound (m : HandleMap) : Prop where
  fixed : ∀ handle, handle < reserved → m.value handle = (HandleMap.empty m.strict).value handle
  distinct : m.released.Nodup
  waiting : ∀ handle ∈ m.released,
    reserved ≤ handle ∧ handle.toNat < m.size ∧ m.value handle = none
  inside : ∀ handle, handle.toNat < m.size → m.value handle = none → handle ∈ m.released
  beyond : ∀ handle, m.size ≤ handle.toNat → m.value handle = none
  room : 4 ≤ m.size
  fits : m.size < UInt32.size

/-- The handles that were given out. -/
def HandleMap.given (m : HandleMap) : Set UInt32 :=
  {handle | reserved ≤ handle ∧ (m.value handle).isSome}

structure HandleInvariant (t : HandleTable) (m : HandleMap) : Prop where
  represents : Represents t m
  sound : m.Sound
  counted : t.liveCount = m.given.ncard
  filled : t.liveCount + m.released.length + 4 = m.size

instance handlesFinite : Finite UInt32 :=
  Finite.of_injective (fun h => (⟨h.toNat, h.toNat_lt⟩ : Fin (2 ^ 32))) fun _ _ same =>
    UInt32.toNat_inj.1 (Fin.mk.inj same)

theorem reserved_le_iff (handle : UInt32) : reserved ≤ handle ↔ 4 ≤ handle.toNat :=
  UInt32.le_iff_toNat_le

theorem lt_reserved_iff (handle : UInt32) : handle < reserved ↔ handle.toNat < 4 :=
  UInt32.lt_iff_toNat_lt

theorem empty_invariant (strict : Bool) : HandleInvariant (.empty strict) (.empty strict) where
  represents := {
    value := by
      intro handle
      simp only [HandleTable.live?, HandleTable.empty, HandleMap.empty]
      rcases handle.toNat with _ | _ | _ | _ | n <;> rfl
    released := rfl
    size := rfl
    strict := rfl }
  sound := {
    fixed := fun _ _ => rfl
    distinct := List.nodup_nil
    waiting := fun _ inside => absurd inside List.not_mem_nil
    inside := by
      intro handle below absent
      have := List.getElem?_eq_none_iff.1 absent
      exact absurd below (Nat.not_lt.2 this)
    beyond := fun handle above => List.getElem?_eq_none_iff.2 above
    room := Nat.le_refl 4
    fits := show 4 < UInt32.size by decide }
  counted := by
    have nothing : (HandleMap.empty strict).given = ∅ := by
      apply Set.eq_empty_of_forall_notMem
      intro handle inside
      have above := (reserved_le_iff handle).1 inside.1
      have absent : (HandleMap.empty strict).value handle = none :=
        List.getElem?_eq_none_iff.2 above
      have := inside.2
      rw [absent] at this
      cases this
    rw [nothing, Set.ncard_empty]
    rfl
  filled := rfl

namespace HandleMap

variable {m : HandleMap}

theorem put_self (m : HandleMap) (handle : UInt32) (value : Option Value) :
    (m.put handle value).value handle = value :=
  if_pos rfl

theorem put_other {handle other : UInt32} (different : other ≠ handle) (value : Option Value) :
    (m.put handle value).value other = m.value other :=
  if_neg different

theorem given_put_some {handle : UInt32} (above : reserved ≤ handle) (value : Value) :
    (m.put handle (some value)).given = insert handle m.given := by
  ext other
  by_cases same : other = handle
  · subst same
    simp [given, above, put_self]
  · simp [given, same, put_other same]

theorem given_put_none (handle : UInt32) : (m.put handle none).given = m.given \ {handle} := by
  ext other
  by_cases same : other = handle
  · subst same
    simp [given, put_self]
  · simp [given, same, put_other same]

namespace Sound

theorem below (sound : m.Sound) {handle : UInt32} {value : Value}
    (present : m.value handle = some value) : handle.toNat < m.size := by
  by_cases above : m.size ≤ handle.toNat
  · rw [sound.beyond handle above] at present
    cases present
  · omega

theorem next_toNat (sound : m.Sound) : (UInt32.ofNat m.size).toNat = m.size :=
  UInt32.toNat_ofNat_of_lt sound.fits

/-- A new handle, when none waits. -/
theorem grow (sound : m.Sound) (none : m.released = []) (room : m.size + 1 < UInt32.size)
    (value : Value) :
    ({ m.put (UInt32.ofNat m.size) (some value) with size := m.size + 1 } : HandleMap).Sound := by
  have next := sound.next_toNat
  have wide := sound.room
  have different : ∀ handle : UInt32, handle.toNat ≠ m.size → handle ≠ UInt32.ofNat m.size := by
    intro handle other same
    rw [same, next] at other
    exact other rfl
  refine ⟨?_, sound.distinct, ?_, ?_, ?_, Nat.le_succ_of_le wide, room⟩
  · intro handle low
    have few := (lt_reserved_iff handle).1 low
    refine (put_other (different handle ?_) _).trans (sound.fixed handle low)
    omega
  · intro handle inside
    have inside : handle ∈ m.released := inside
    rw [none] at inside
    exact absurd inside List.not_mem_nil
  · intro handle below absent
    by_cases same : handle = UInt32.ofNat m.size
    · subst same
      have : some value = Option.none := (put_self m _ (some value)).symm.trans absent
      cases this
    · have other : handle.toNat ≠ m.size := by
        intro equal
        apply same
        rw [← equal, UInt32.ofNat_toNat]
      refine sound.inside handle ?_ ((put_other same (some value)).symm.trans absent)
      have : handle.toNat < m.size + 1 := below
      omega
  · intro handle above
    have above : m.size + 1 ≤ handle.toNat := above
    refine (put_other (different handle ?_) _).trans (sound.beyond handle ?_)
    · omega
    · omega

/-- The handle that was released last is given out again. -/
theorem reuse (sound : m.Sound) {handle : UInt32} {rest : List UInt32}
    (waits : m.released = handle :: rest) (value : Value) :
    ({ m.put handle (some value) with released := rest } : HandleMap).Sound := by
  have distinct := sound.distinct
  rw [waits] at distinct
  obtain ⟨apart, distinct⟩ := List.nodup_cons.1 distinct
  obtain ⟨above, below, -⟩ := sound.waiting handle (waits ▸ List.mem_cons_self ..)
  have above := (reserved_le_iff handle).1 above
  refine ⟨?_, distinct, ?_, ?_, ?_, sound.room, sound.fits⟩
  · intro other low
    refine (put_other ?_ _).trans (sound.fixed other low)
    intro same
    subst same
    have := (lt_reserved_iff other).1 low
    omega
  · intro other inside
    have different : other ≠ handle := fun same => apart (same ▸ inside)
    obtain ⟨high, low, absent⟩ := sound.waiting other (waits ▸ List.mem_cons_of_mem _ inside)
    exact ⟨high, low, (put_other different _).trans absent⟩
  · intro other low absent
    by_cases same : other = handle
    · subst same
      have : some value = none := (put_self m _ (some value)).symm.trans absent
      cases this
    · have inside := sound.inside other low ((put_other same (some value)).symm.trans absent)
      rw [waits] at inside
      exact (List.mem_cons.1 inside).resolve_left same
  · intro other high
    have high : m.size ≤ other.toNat := high
    refine (put_other ?_ _).trans (sound.beyond other high)
    intro same
    subst same
    omega

theorem release (sound : m.Sound) {handle : UInt32} {value : Value} (above : reserved ≤ handle)
    (present : m.value handle = some value) :
    ({ m.put handle none with released := handle :: m.released } : HandleMap).Sound := by
  have high := (reserved_le_iff handle).1 above
  have below := sound.below present
  have apart : handle ∉ m.released := by
    intro inside
    rw [(sound.waiting handle inside).2.2] at present
    cases present
  refine ⟨?_, List.nodup_cons.2 ⟨apart, sound.distinct⟩, ?_, ?_, ?_, sound.room, sound.fits⟩
  · intro other low
    refine (put_other ?_ _).trans (sound.fixed other low)
    intro same
    subst same
    have := (lt_reserved_iff other).1 low
    omega
  · intro other inside
    rcases List.mem_cons.1 inside with same | before
    · subst same
      exact ⟨above, below, put_self ..⟩
    · obtain ⟨atLeast, less, absent⟩ := sound.waiting other before
      refine ⟨atLeast, less, (put_other ?_ _).trans absent⟩
      intro same
      exact apart (same ▸ before)
  · intro other less absent
    by_cases same : other = handle
    · exact same ▸ List.mem_cons_self ..
    · refine List.mem_cons_of_mem _ (sound.inside other less ?_)
      exact (put_other same none).symm.trans absent
  · intro other atLeast
    have atLeast : m.size ≤ other.toNat := atLeast
    refine (put_other ?_ _).trans (sound.beyond other atLeast)
    intro same
    subst same
    omega

end Sound

end HandleMap

section Slots

variable {slots slots' : Array Slot} {next : UInt32} {released : List UInt32}

/-- Slots off the list may change. -/
theorem Threaded.congr (threaded : Threaded slots next released) (size : slots'.size = slots.size)
    (same : ∀ handle ∈ released, slots'[handle.toNat]? = slots[handle.toNat]?) :
    Threaded slots' next released := by
  induction released generalizing next with
  | nil => exact threaded.trans size.symm
  | cons handle rest ih =>
    obtain ⟨first, after, vacant, tail⟩ := threaded
    have below : ∀ other ∈ rest, slots'[other.toNat]? = slots[other.toNat]? :=
      fun other inside => same other (List.mem_cons_of_mem _ inside)
    refine ⟨first, after, ?_, ih tail below⟩
    rw [same handle (List.mem_cons_self ..)]
    exact vacant

theorem set_self {handle : UInt32} (inside : handle.toNat < slots.size) (slot : Slot) :
    (slots.setIfInBounds handle.toNat slot)[handle.toNat]? = some slot := by
  rw [Array.getElem?_setIfInBounds_self, if_pos inside]

theorem set_other {handle other : UInt32} (different : other ≠ handle) (slot : Slot) :
    (slots.setIfInBounds handle.toNat slot)[other.toNat]? = slots[other.toNat]? := by
  refine Array.getElem?_setIfInBounds_ne fun same => different ?_
  exact UInt32.toNat_inj.1 same.symm

end Slots

section Operations

variable {t : HandleTable} {m : HandleMap}

/-- What a slot contributes to the map. -/
def Slot.value? : Slot → Option Value
  | .live value => some value
  | .vacant _ => none

theorem live?_eq (t : HandleTable) (handle : UInt32) :
    t.live? handle = t.slots[handle.toNat]?.bind Slot.value? := by
  unfold HandleTable.live?
  rcases t.slots[handle.toNat]? with _ | _ | _ <;> rfl

/-- A change of one slot is a change of the map at one handle. -/
theorem Represents.change {t' : HandleTable} {handle : UInt32} (represents : Represents t m)
    (slot : Slot) (here : t'.slots[handle.toNat]? = some slot)
    (elsewhere : ∀ other, other ≠ handle → t'.slots[other.toNat]? = t.slots[other.toNat]?)
    (other : UInt32) : t'.live? other = (m.put handle slot.value?).value other := by
  by_cases same : other = handle
  · rw [same, HandleMap.put_self, live?_eq, here]
    rfl
  · rw [HandleMap.put_other same, live?_eq, elsewhere other same, ← live?_eq]
    exact represents.value other

/-- Nothing waits: the value goes into a new slot. -/
theorem HandleInvariant.grow (invariant : HandleInvariant t m) {value : Value}
    (plain : sentinel? value = none) (none : m.released = [])
    (room : m.size + 1 < UInt32.size) :
    (t.alloc value).1 = (m.alloc value).1 ∧
      HandleInvariant (t.alloc value).2 (m.alloc value).2 := by
  obtain ⟨represents, sound, counted, filled⟩ := invariant
  have threaded := represents.released
  rw [none] at threaded
  have last : t.nextFree.toNat = t.slots.size := threaded
  have size : t.slots.size = m.size := represents.size
  have next : t.nextFree = UInt32.ofNat m.size := by
    rw [← size, ← last, UInt32.ofNat_toNat]
  have after : (t.nextFree + 1).toNat = m.size + 1 := by
    rw [UInt32.toNat_add, last, size]
    exact Nat.mod_eq_of_lt room
  have fresh : UInt32.ofNat m.size ∉ m.given := by
    intro inside
    have absent := sound.beyond (UInt32.ofNat m.size) (Nat.le_of_eq sound.next_toNat.symm)
    have := inside.2
    rw [absent] at this
    cases this
  have high : reserved ≤ UInt32.ofNat m.size := by
    rw [reserved_le_iff, sound.next_toNat]
    exact sound.room
  simp only [HandleTable.alloc, HandleMap.alloc, plain, none, last, ↓reduceIte]
  refine ⟨next, ⟨?_, ?_, ?_, represents.strict⟩, sound.grow none room value, ?_, ?_⟩
  · refine fun other => (represents.change (.live value) ?_ ?_ other)
    · change (t.slots.push _)[_]? = _
      rw [← next, last, Array.getElem?_push_size]
    · intro other different
      refine Array.getElem?_push.trans (if_neg fun same => different ?_)
      rw [← next]
      exact UInt32.toNat_inj.1 (same.trans last.symm)
  · change Threaded (t.slots.push (.live value)) (t.nextFree + 1) m.released
    rw [none]
    change (t.nextFree + 1).toNat = (t.slots.push (.live value)).size
    rw [after, Array.size_push, size]
  · change (t.slots.push (.live value)).size = m.size + 1
    rw [Array.size_push, size]
  · change t.liveCount + 1 = (m.put (UInt32.ofNat m.size) (some value)).given.ncard
    rw [HandleMap.given_put_some high, Set.ncard_insert_of_notMem fresh, counted]
  · change t.liveCount + 1 + m.released.length + 4 = m.size + 1
    omega

/-- The list is not empty: the value goes into the slot at its front. -/
theorem HandleInvariant.reuse (invariant : HandleInvariant t m) {value : Value}
    (plain : sentinel? value = none) {handle : UInt32} {rest : List UInt32}
    (waits : m.released = handle :: rest) :
    (t.alloc value).1 = (m.alloc value).1 ∧
      HandleInvariant (t.alloc value).2 (m.alloc value).2 := by
  obtain ⟨represents, sound, counted, filled⟩ := invariant
  have threaded := represents.released
  rw [waits] at threaded
  obtain ⟨first, after, vacant, tail⟩ := threaded
  obtain ⟨high, low, absent⟩ := sound.waiting handle (waits ▸ List.mem_cons_self ..)
  have size : t.slots.size = m.size := represents.size
  have inside : handle.toNat < t.slots.size := size ▸ low
  have reused : ¬ handle.toNat = t.slots.size := Nat.ne_of_lt inside
  have distinct := sound.distinct
  rw [waits] at distinct
  have apart := (List.nodup_cons.1 distinct).1
  have fresh : handle ∉ m.given := by
    intro inside
    have := inside.2
    rw [absent] at this
    cases this
  simp only [HandleTable.alloc, HandleMap.alloc, plain, waits, first, reused, ↓reduceIte, vacant]
  refine ⟨trivial, ⟨?_, ?_, ?_, represents.strict⟩, sound.reuse waits value, ?_, ?_⟩
  · exact represents.change (.live value) (set_self inside _) fun other different =>
      set_other different _
  · refine tail.congr Array.size_setIfInBounds fun other member => set_other ?_ _
    intro same
    exact apart (same ▸ member)
  · change (t.slots.setIfInBounds _ _).size = m.size
    rw [Array.size_setIfInBounds, size]
  · change t.liveCount + 1 = (m.put handle (some value)).given.ncard
    rw [HandleMap.given_put_some high, Set.ncard_insert_of_notMem fresh, counted]
  · change t.liveCount + 1 + rest.length + 4 = m.size
    rw [waits, List.length_cons] at filled
    omega

/-- A live slot goes to the front of the list. -/
theorem HandleInvariant.release (invariant : HandleInvariant t m) {handle : UInt32} {value : Value}
    (high : reserved ≤ handle) (present : m.value handle = some value) :
    HandleInvariant
      { t with
        slots := t.slots.setIfInBounds handle.toNat (.vacant t.nextFree)
        nextFree := handle
        liveCount := t.liveCount - 1 }
      { m.put handle none with released := handle :: m.released } := by
  obtain ⟨represents, sound, counted, filled⟩ := invariant
  have size : t.slots.size = m.size := represents.size
  have inside : handle.toNat < t.slots.size := size ▸ sound.below present
  have member : handle ∈ m.given := ⟨high, by rw [present]; rfl⟩
  have fewer := Set.ncard_sdiff_singleton_add_one member
  refine ⟨⟨?_, ?_, ?_, represents.strict⟩, sound.release high present, ?_, ?_⟩
  · exact represents.change (.vacant t.nextFree) (set_self inside _) fun other different =>
      set_other different _
  · refine ⟨rfl, t.nextFree, set_self inside _, ?_⟩
    refine represents.released.congr Array.size_setIfInBounds fun other waits => set_other ?_ _
    intro same
    rw [same] at waits
    rw [(sound.waiting handle waits).2.2] at present
    cases present
  · change (t.slots.setIfInBounds _ _).size = m.size
    rw [Array.size_setIfInBounds, size]
  · change t.liveCount - 1 = (m.put handle none).given.ncard
    rw [HandleMap.given_put_none]
    omega
  · change t.liveCount - 1 + (m.released.length + 1) + 4 = m.size
    omega

end Operations

end GuestBridge

import GuestBridge.Proofs.Handles.Refinement
/-!
The list of vacant slots as it stands in the slots themselves. Its end is marked with the size of
the table, and the table grows only while the list is empty, so that no slot ever holds the mark of
an earlier size. Following the links therefore leads through all vacant slots and out of the table.
-/

set_option autoImplicit false

namespace GuestBridge

section Links

variable {slots : Array Slot} {next handle : UInt32} {path other : List UInt32}

/-- The list is at its end, or its first slot is vacant and says where it goes on. -/
theorem Threaded.cases (threaded : Threaded slots next path) :
    (path = [] ∧ next.toNat = slots.size) ∨
      ∃ after rest, path = next :: rest ∧ slots[next.toNat]? = some (.vacant after) ∧
        Threaded slots after rest := by
  cases path with
  | nil => exact .inl ⟨rfl, threaded⟩
  | cons handle rest =>
    obtain ⟨rfl, after, vacant, tail⟩ := threaded
    exact .inr ⟨after, rest, rfl, vacant, tail⟩

theorem lt_size_of_vacant {i : Nat} (vacant : slots[i]? = some (.vacant next)) :
    i < slots.size :=
  (Array.getElem?_eq_some_iff.1 vacant).1

/-- There is only one way to follow the links. -/
theorem Threaded.unique (threaded : Threaded slots next path)
    (also : Threaded slots next other) : other = path := by
  -- A vacant slot is inside the table, so that no way ends where another goes on.
  induction path generalizing next other with
  | nil =>
    have last : next.toNat = slots.size := threaded
    rcases also.cases with ⟨empty, -⟩ | ⟨after, rest, -, vacant, -⟩
    · exact empty
    · have inside := lt_size_of_vacant vacant
      omega
  | cons handle rest ih =>
    obtain ⟨rfl, after, vacant, tail⟩ := threaded
    rcases also.cases with ⟨-, last⟩ | ⟨after', rest', rfl, vacant', tail'⟩
    · have inside := lt_size_of_vacant vacant
      omega
    · rw [vacant] at vacant'
      cases vacant'
      rw [ih tail tail']

theorem Threaded.vacant_of_mem (threaded : Threaded slots next path) (member : handle ∈ path) :
    ∃ after, slots[handle.toNat]? = some (.vacant after) := by
  induction path generalizing next with
  | nil => cases member
  | cons first rest ih =>
    obtain ⟨rfl, after, vacant, tail⟩ := threaded
    rcases List.mem_cons.1 member with rfl | later
    · exact ⟨after, vacant⟩
    · exact ih tail later

end Links

namespace HandleTable

def Vacant (t : HandleTable) (i : Nat) : Prop :=
  ∃ next, t.slots[i]? = some (.vacant next)

/-- Stores a value in the slot at the front of the list, or in a new slot when the list is at its
end. Where the front is neither, because it lies outside the table or is live, nothing is done. -/
def allocListed? (t : HandleTable) (value : Value) : Option (UInt32 × HandleTable) :=
  match sentinel? value with
  | some handle => some (handle, t)
  | none =>
    if t.nextFree.toNat = t.slots.size then
      some (t.nextFree, { t with
        slots := t.slots.push (.live value)
        nextFree := t.nextFree + 1
        liveCount := t.liveCount + 1 })
    else
      match t.slots[t.nextFree.toNat]? with
      | some (.vacant next) => some (t.nextFree, { t with
          slots := t.slots.setIfInBounds t.nextFree.toNat (.live value)
          nextFree := next
          liveCount := t.liveCount + 1 })
      | _ => none

/-- The vacant slots of a table and the list through them, which is the given path. -/
structure Intact (t : HandleTable) (path : List UInt32) : Prop where
  /-- From the first link on, the links lead along the path to the end of the table. -/
  followed : ∀ other, Threaded t.slots t.nextFree other ↔ other = path
  once : path.Nodup
  visited : ∀ i, i ∈ path.map UInt32.toNat ↔ t.Vacant i
  spared : ∀ handle ∈ path, 4 ≤ handle
  filled : t.liveCount + {i | t.Vacant i}.ncard + 4 = t.size
  undefined : t.slots[0]? = some (.live .undefined)
  null : t.slots[1]? = some (.live .null)
  yes : t.slots[2]? = some (.live (.bool true))
  no : t.slots[3]? = some (.live (.bool false))

variable {t : HandleTable} {path : List UInt32}

theorem slot_of_live? {handle : UInt32} {value : Value} (live : t.live? handle = some value) :
    t.slots[handle.toNat]? = some (.live value) := by
  rw [live?_eq] at live
  obtain ⟨slot, found, holds⟩ := Option.bind_eq_some_iff.1 live
  cases slot with
  | live held =>
    cases holds
    exact found
  | vacant next => cases holds

theorem live?_of_vacant {handle : UInt32} (vacant : t.Vacant handle.toNat) :
    t.live? handle = none := by
  obtain ⟨next, found⟩ := vacant
  rw [live?_eq, found]
  rfl

theorem ncard_vacant (once : path.Nodup) (visited : ∀ i, i ∈ path.map UInt32.toNat ↔ t.Vacant i) :
    {i | t.Vacant i}.ncard = path.length := by
  have distinct : (path.map UInt32.toNat).Nodup := once.map fun _ _ => UInt32.toNat_inj.1
  have listed : {i | t.Vacant i} = ((path.map UInt32.toNat).toFinset : Set Nat) := by
    ext i
    rw [Finset.mem_coe, List.mem_toFinset, visited]
    rfl
  rw [listed, Set.ncard_coe_finset, List.toFinset_card_of_nodup distinct, List.length_map]

/-- With a list that ends or goes on at a vacant slot, a value is stored as the list says. -/
theorem allocListed?_eq (threaded : Threaded t.slots t.nextFree path) (value : Value) :
    t.allocListed? value = some (t.alloc value) := by
  unfold allocListed? alloc
  rcases sentinel? value with _ | handle
  · rcases threaded.cases with ⟨-, last⟩ | ⟨after, rest, -, vacant, -⟩
    · simp only [last, ↓reduceIte]
    · have inside := lt_size_of_vacant vacant
      simp only [Nat.ne_of_lt inside, vacant, ↓reduceIte]
  · rfl

end HandleTable

namespace HandleInvariant

variable {t : HandleTable} {m : HandleMap}

theorem visited (invariant : HandleInvariant t m) (i : Nat) :
    i ∈ m.released.map UInt32.toNat ↔ t.Vacant i := by
  constructor
  · intro member
    obtain ⟨handle, waits, rfl⟩ := List.mem_map.1 member
    exact invariant.represents.released.vacant_of_mem waits
  · rintro ⟨next, vacant⟩
    have size : t.slots.size = m.size := invariant.represents.size
    have fits := invariant.sound.fits
    have inside : i < t.slots.size := lt_size_of_vacant vacant
    have index : (UInt32.ofNat i).toNat = i := UInt32.toNat_ofNat_of_lt (by omega)
    have absent : m.value (UInt32.ofNat i) = none := by
      rw [← invariant.represents.value]
      apply HandleTable.live?_of_vacant
      rw [index]
      exact ⟨next, vacant⟩
    have waits := invariant.sound.inside (UInt32.ofNat i) (by omega) absent
    exact List.mem_map.2 ⟨UInt32.ofNat i, waits, index⟩

theorem intact (invariant : HandleInvariant t m) : t.Intact m.released := by
  have threaded := invariant.represents.released
  have mirrors := invariant.mirrors
  have held {handle : UInt32} {value : Value} (present : m.value handle = some value) :
      t.slots[handle.toNat]? = some (.live value) :=
    HandleTable.slot_of_live? ((invariant.represents.value handle).trans present)
  constructor
  case followed =>
    intro other
    constructor
    · exact threaded.unique
    · rintro rfl
      exact threaded
  case once => exact invariant.sound.distinct
  case visited => exact invariant.visited
  case spared => exact fun handle waits => (invariant.sound.waiting handle waits).1
  case filled =>
    rw [HandleTable.ncard_vacant invariant.sound.distinct invariant.visited,
      invariant.represents.size]
    exact invariant.filled
  case undefined => exact held mirrors.undefined
  case null => exact held mirrors.null
  case yes => exact held mirrors.yes
  case no => exact held mirrors.no

end HandleInvariant

namespace HandleTable

/-- Whatever is done to a table, as long as there are handles left: the list leads once through
every vacant slot and through no other, and every value is stored where the list says. -/
theorem free_list_intact (capacity : Nat) (strict : Bool) (ops : List HandleOp)
    (few : (HandleMap.empty strict).allocations ops < 2 ^ 32 - 4) :
    let t := ((withCapacity capacity strict).run ops).2
    ∃ path, t.Intact path ∧ ∀ value, t.allocListed? value = some (t.alloc value) := by
  intro t
  have fits : (HandleMap.empty strict).size + (HandleMap.empty strict).allocations ops <
      UInt32.size := by
    change 4 + _ < 2 ^ 32
    omega
  obtain ⟨-, invariant, -⟩ := (empty_invariant strict).run ops fits
  rw [← withCapacity_eq capacity strict] at invariant
  exact ⟨_, invariant.intact, allocListed?_eq invariant.represents.released⟩

/-- Handles are released twice, never given out and permanent, and the table grows in between. -/
theorem free_list_intact_released_twice :
    let ops : List HandleOp := [.alloc (.string "a"), .cloneRef 4, .release 4, .release 4,
      .alloc (.string "b"), .alloc (.string "c"), .release 5, .release 9, .take 4, .release 2]
    let t := ((withCapacity 100 false).run ops).2
    (HandleMap.empty false).allocations ops < 2 ^ 32 - 4 ∧ t.Intact [4, 5] ∧
      {i | t.Vacant i}.ncard = 2 ∧ t.size = 7 := by
  intro ops t
  have few : (HandleMap.empty false).allocations ops < 2 ^ 32 - 4 := by decide
  obtain ⟨path, intact, -⟩ := free_list_intact 100 false ops few
  have last : Threaded t.slots 7 [] := show (7 : UInt32).toNat = t.slots.size by decide
  have threaded : Threaded t.slots t.nextFree [4, 5] :=
    ⟨by decide, 5, by decide, rfl, 7, by decide, last⟩
  have same : [4, 5] = path := (intact.followed _).1 threaded
  have intact : t.Intact [4, 5] := same ▸ intact
  have live : t.liveCount = 1 := by decide
  have size : t.size = 7 := by decide
  have filled := intact.filled
  exact ⟨few, intact, by omega, size⟩

end HandleTable

end GuestBridge

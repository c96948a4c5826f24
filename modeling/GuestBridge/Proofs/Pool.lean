import GuestBridge.Pool
import Mathlib.Algebra.Ring.Nat
/-!
What each operation of a pool does to its entries: one equation for the entry at any number.
-/

set_option autoImplicit false

namespace GuestBridge.Pool

variable {α : Type}

theorem size_put (p : Pool α) (i : Nat) (entry : Option (Held α)) :
    (p.put i entry).size = p.size := by
  simp only [put, size, Array.size_setIfInBounds]

@[simp] theorem size_modify (p : Pool α) (i : Nat) (f : α → α) : (p.modify i f).size = p.size := by
  unfold modify
  split
  · exact size_put ..
  · rfl

@[simp] theorem size_hold (p : Pool α) (i : Nat) : (p.hold i).size = p.size := by
  unfold hold
  split
  · exact size_put ..
  · rfl

@[simp] theorem size_release (p : Pool α) (i : Nat) : (p.release i).2.size = p.size := by
  unfold release
  split
  · split <;> exact size_put ..
  · rfl

theorem size_add (p : Pool α) (thing : α) (holders : Nat) :
    (p.add thing holders).2.size = p.size + 1 := by
  simp only [add, size, Array.size_push]

theorem lt_size_of_held? {p : Pool α} {i : Nat} {h : Held α} (found : p.held? i = some h) :
    i < p.size := by
  have place := getElem?_of_held? found
  exact (Array.getElem?_eq_some_iff.1 place).1

theorem held?_eq_none_of_size_le {p : Pool α} {i : Nat} (beyond : p.size ≤ i) :
    p.held? i = none := by
  unfold size at beyond
  simp only [held?, Array.getElem?_eq_none beyond, Option.join_none]

theorem held?_put {p : Pool α} {i : Nat} (inside : i < p.size) (entry : Option (Held α)) (j : Nat) :
    (p.put i entry).held? j = if j = i then entry else p.held? j := by
  unfold size at inside
  simp only [put, held?, Array.getElem?_setIfInBounds, inside, ↓reduceIte]
  by_cases same : j = i
  · subst same
    simp
  · have apart : i ≠ j := fun equal => same equal.symm
    simp only [same, apart, ↓reduceIte]

theorem held?_add (p : Pool α) (thing : α) (holders j : Nat) :
    (p.add thing holders).2.held? j =
      if j = p.size then some ⟨thing, holders⟩ else p.held? j := by
  simp only [add, held?, size, Array.getElem?_push]
  by_cases last : j = p.entries.size
  · simp only [last, ↓reduceIte, Option.join_some]
  · simp only [last, ↓reduceIte]

theorem held?_modify (p : Pool α) (i : Nat) (f : α → α) (j : Nat) :
    (p.modify i f).held? j =
      if j = i then (p.held? i).map fun h => ⟨f h.thing, h.holders⟩ else p.held? j := by
  unfold modify
  split
  · next h found =>
    rw [held?_put (lt_size_of_held? found), found]
    rfl
  · next absent =>
    split
    · next same => rw [same, absent]; rfl
    · rfl

theorem modify_modify (p : Pool α) (i : Nat) (f g : α → α) :
    (p.modify i f).modify i g = p.modify i (g ∘ f) := by
  cases found : p.held? i with
  | none => simp only [modify, found]
  | some h =>
    have again := held?_put (lt_size_of_held? found) (some ⟨f h.thing, h.holders⟩) i
    rw [if_pos rfl] at again
    simp only [modify, found, again]
    simp only [put, Array.setIfInBounds_setIfInBounds, Function.comp_apply]

theorem modify_id (p : Pool α) (i : Nat) : p.modify i id = p := by
  cases found : p.held? i with
  | none => simp only [modify, found]
  | some h =>
    obtain ⟨inside, value⟩ := Array.getElem?_eq_some_iff.1 (getElem?_of_held? found)
    simp only [modify, found, put, Array.setIfInBounds, inside, ↓reduceDIte, id_eq]
    apply congrArg Pool.mk
    rw [show some ⟨h.thing, h.holders⟩ = p.entries[i] from value.symm]
    exact Array.set_getElem_self ..

theorem held?_hold (p : Pool α) (i j : Nat) :
    (p.hold i).held? j =
      if j = i then (p.held? i).map fun h => ⟨h.thing, h.holders + 1⟩ else p.held? j := by
  unfold hold
  split
  · next h found =>
    rw [held?_put (lt_size_of_held? found), found]
    rfl
  · next absent =>
    split
    · next same => rw [same, absent]; rfl
    · rfl

/-- The entry that a release leaves: one holder less, or nothing. -/
def Held.released (h : Held α) : Option (Held α) :=
  if h.holders ≤ 1 then none else some ⟨h.thing, h.holders - 1⟩

theorem held?_release (p : Pool α) (i j : Nat) :
    (p.release i).2.held? j =
      if j = i then (p.held? i).bind Held.released else p.held? j := by
  unfold release
  split
  · next h found =>
    simp only [found, Option.bind_some, Held.released]
    split <;> exact held?_put (lt_size_of_held? found) ..
  · next absent =>
    split
    · next same => rw [same, absent]; rfl
    · rfl

/-- A release hands the thing back when its only holder lets go. -/
theorem release_fst (p : Pool α) (i : Nat) :
    (p.release i).1 =
      (p.held? i).bind fun h => if h.holders ≤ 1 then some h.thing else none := by
  unfold release
  split
  · next h found =>
    simp only [found, Option.bind_some]
    split <;> rfl
  · next absent => rw [absent]; rfl

/-! Sums over all things that are held. -/

/-- The sum of `f` over the things in a pool. -/
def total (p : Pool α) (f : α → Nat) : Nat :=
  (p.entries.toList.map fun entry => (entry.map fun h => f h.thing).getD 0).sum

theorem sum_set {l : List Nat} {i n : Nat} (old : l[i]? = some n) (new : Nat) :
    (l.set i new).sum + n = l.sum + new := by
  induction l generalizing i with
  | nil => cases old
  | cons first rest ih =>
    cases i with
    | zero =>
      have same : first = n := Option.some.inj old
      rw [List.set_cons_zero, List.sum_cons, List.sum_cons, same]
      omega
    | succ i =>
      have behind := ih (i := i) old
      rw [List.set_cons_succ, List.sum_cons, List.sum_cons]
      omega

theorem total_put {p : Pool α} {i : Nat} {h : Held α} (found : p.held? i = some h)
    (entry : Option (Held α)) (f : α → Nat) :
    (p.put i entry).total f + f h.thing =
      p.total f + (entry.map fun h => f h.thing).getD 0 := by
  have place := getElem?_of_held? found
  have old : (p.entries.toList.map fun entry => (entry.map fun h => f h.thing).getD 0)[i]? =
      some (f h.thing) := by
    rw [List.getElem?_map, Array.getElem?_toList, place]
    rfl
  have sum := sum_set old ((entry.map fun h => f h.thing).getD 0)
  simp only [total, put, Array.toList_setIfInBounds, List.map_set]
  exact sum

theorem le_total {p : Pool α} {i : Nat} {h : Held α} (found : p.held? i = some h) (f : α → Nat) :
    f h.thing ≤ p.total f := by
  have without := total_put found none f
  simp only [Option.map_none, Option.getD_none] at without
  omega

theorem total_add (p : Pool α) (thing : α) (holders : Nat) (f : α → Nat) :
    (p.add thing holders).2.total f = p.total f + f thing := by
  simp only [total, add, Array.toList_push, List.map_append, List.sum_append, List.map_cons,
    List.map_nil, List.sum_cons, List.sum_nil, Option.map_some, Option.getD_some, Nat.add_zero]

theorem total_modify {p : Pool α} {i : Nat} {h : Held α} (found : p.held? i = some h) (g : α → α)
    (f : α → Nat) : (p.modify i g).total f + f h.thing = p.total f + f (g h.thing) := by
  have changed := total_put found (some ⟨g h.thing, h.holders⟩) f
  simp only [modify, found]
  exact changed

theorem total_hold (p : Pool α) (i : Nat) (f : α → Nat) : (p.hold i).total f = p.total f := by
  unfold hold
  split
  · next h found =>
    have changed := total_put found (some ⟨h.thing, h.holders + 1⟩) f
    simp only [Option.map_some, Option.getD_some] at changed
    omega
  · rfl

theorem total_eq (p : Pool α) (f : α → Nat) :
    p.total f = ((List.range p.size).map fun i => ((p.get? i).map f).getD 0).sum := by
  refine congrArg List.sum (List.ext_getElem? fun i => ?_)
  by_cases inside : i < p.size
  · have entry : p.entries[i]? = some p.entries[i] := Array.getElem?_eq_getElem inside
    simp only [List.getElem?_map, Array.getElem?_toList, List.getElem?_range inside, get?, held?,
      entry, Option.map_some, Option.join_some, Option.map_map]
    rfl
  · have entry : p.entries[i]? = none := Array.getElem?_eq_none (Nat.le_of_not_lt inside)
    have beyond : (List.range p.size)[i]? = none :=
      List.getElem?_eq_none (by simpa using Nat.le_of_not_lt inside)
    simp only [List.getElem?_map, Array.getElem?_toList, entry, beyond, Option.map_none]

/-- Sums go by what is in a pool, whoever holds it. -/
theorem total_congr {p p' : Pool α} (size : p'.size = p.size)
    (same : ∀ i, p'.get? i = p.get? i) (f : α → Nat) : p'.total f = p.total f := by
  rw [total_eq, total_eq, size]
  simp only [same]

/-- The last release takes the thing out of every sum. -/
theorem total_release {p : Pool α} {i : Nat} {h : Held α} (found : p.held? i = some h)
    (f : α → Nat) :
    (p.release i).2.total f + (if h.holders ≤ 1 then f h.thing else 0) = p.total f := by
  unfold release
  simp only [found]
  by_cases last : h.holders ≤ 1
  · have removed := total_put found none f
    simp only [last, ↓reduceIte]
    simpa using removed
  · have fewer := total_put found (some ⟨h.thing, h.holders - 1⟩) f
    simp only [Option.map_some, Option.getD_some] at fewer
    simp only [last, ↓reduceIte]
    omega

/-! What is in a pool, whoever holds it. -/

theorem get?_of_held? {p : Pool α} {i : Nat} {h : Held α} (found : p.held? i = some h) :
    p.get? i = some h.thing := by
  unfold get?
  rw [found]
  rfl

theorem held?_of_get? {p : Pool α} {i : Nat} {a : α} (found : p.get? i = some a) :
    ∃ n, p.held? i = some ⟨a, n⟩ := by
  unfold get? at found
  obtain ⟨⟨thing, n⟩, here, same⟩ := Option.map_eq_some_iff.1 found
  subst same
  exact ⟨n, here⟩

theorem get?_modify (p : Pool α) (i : Nat) (f : α → α) (j : Nat) :
    (p.modify i f).get? j = if j = i then (p.get? i).map f else p.get? j := by
  unfold get?
  rw [held?_modify]
  split
  · rcases p.held? i with _ | h <;> rfl
  · rfl

theorem get?_add (p : Pool α) (thing : α) (holders j : Nat) :
    (p.add thing holders).2.get? j = if j = p.size then some thing else p.get? j := by
  unfold get?
  rw [held?_add]
  split <;> rfl

/-- A release leaves a thing as it is or removes it. -/
theorem get?_release (p : Pool α) (i j : Nat) :
    (p.release i).2.get? j = p.get? j ∨ (j = i ∧ (p.release i).2.get? j = none) := by
  unfold get?
  rw [held?_release]
  by_cases same : j = i
  · subst same
    rw [if_pos rfl]
    rcases p.held? j with _ | h
    · exact .inl rfl
    · rw [Option.bind_some]
      unfold Held.released
      split
      · exact .inr ⟨rfl, rfl⟩
      · exact .inl rfl
  · rw [if_neg same]
    exact .inl rfl

/-- A release that is not the last one leaves every thing where it is. -/
theorem get?_release_several {p : Pool α} {i : Nat} {h : Held α} (found : p.held? i = some h)
    (several : ¬ h.holders ≤ 1) (j : Nat) : (p.release i).2.get? j = p.get? j := by
  unfold get?
  rw [held?_release]
  split
  · next same =>
    rw [same, found, Option.bind_some, Held.released, if_neg several]
    rfl
  · rfl

theorem contains_iff {p : Pool α} {i : Nat} :
    p.contains i = true ↔ ∃ a, p.get? i = some a := by
  unfold contains get?
  rcases p.held? i with _ | h
  · simp
  · simp

theorem get?_of_not_contains {p : Pool α} {i : Nat} (gone : p.contains i = false) :
    p.get? i = none := by
  rcases found : p.get? i with _ | a
  · rfl
  · rw [contains_iff.2 ⟨a, found⟩] at gone
    cases gone

theorem lt_size_of_contains {p : Pool α} {i : Nat} (there : p.contains i = true) :
    i < p.size := by
  obtain ⟨h, found⟩ := Option.isSome_iff_exists.1 there
  exact lt_size_of_held? found

@[simp] theorem contains_modify (p : Pool α) (i : Nat) (f : α → α) (j : Nat) :
    (p.modify i f).contains j = p.contains j := by
  unfold contains
  rw [held?_modify]
  split
  · next same =>
    rw [same]
    exact Option.isSome_map
  · rfl

@[simp] theorem contains_hold (p : Pool α) (i j : Nat) :
    (p.hold i).contains j = p.contains j := by
  unfold contains
  rw [held?_hold]
  split
  · next same =>
    rw [same]
    exact Option.isSome_map
  · rfl

theorem contains_add (p : Pool α) (thing : α) (holders j : Nat) :
    (p.add thing holders).2.contains j = (decide (j = p.size) || p.contains j) := by
  unfold contains
  rw [held?_add]
  by_cases last : j = p.size
  · simp [last]
  · simp [last]

/-! How many places hold a thing, by the count that is kept. -/

def holders (p : Pool α) (i : Nat) : Nat := ((p.held? i).map Held.holders).getD 0

theorem contains_of_holders {p : Pool α} {i : Nat} (some : 0 < p.holders i) :
    p.contains i = true := by
  unfold holders at some
  unfold contains
  rcases found : p.held? i with _ | h
  · rw [found] at some
    cases some
  · rfl

theorem holders_modify (p : Pool α) (i : Nat) (f : α → α) (j : Nat) :
    (p.modify i f).holders j = p.holders j := by
  unfold holders
  rw [held?_modify]
  split
  · next same =>
    rw [same]
    rcases p.held? i with _ | h <;> rfl
  · rfl

/-- A hold counts, if there is something to hold. -/
theorem holders_hold {p : Pool α} {i : Nat} (there : p.contains i = true) (j : Nat) :
    (p.hold i).holders j = p.holders j + if i = j then 1 else 0 := by
  obtain ⟨h, found⟩ := Option.isSome_iff_exists.1 there
  unfold holders
  rw [held?_hold]
  by_cases same : j = i
  · rw [if_pos same, if_pos same.symm, same, found]
    rfl
  · rw [if_neg same, if_neg (Ne.symm same), Nat.add_zero]

theorem holders_add (p : Pool α) (thing : α) (n j : Nat) :
    (p.add thing n).2.holders j = p.holders j + if p.size = j then n else 0 := by
  unfold holders
  rw [held?_add]
  by_cases last : j = p.size
  · rw [if_pos last, if_pos last.symm, held?_eq_none_of_size_le (Nat.le_of_eq last.symm)]
    exact (Nat.zero_add n).symm
  · rw [if_neg last, if_neg (Ne.symm last), Nat.add_zero]

theorem holders_release (p : Pool α) (i j : Nat) :
    (p.release i).2.holders j = p.holders j - if i = j then 1 else 0 := by
  unfold holders
  rw [held?_release]
  by_cases same : j = i
  · rw [if_pos same, if_pos same.symm, same]
    rcases p.held? i with _ | h
    · rfl
    · rw [Option.bind_some]
      unfold Held.released
      split
      · next few =>
        change 0 = h.holders - 1
        omega
      · rfl
  · rw [if_neg same, if_neg (Ne.symm same), Nat.sub_zero]

end GuestBridge.Pool

import GuestBridge.Proofs.Elements.Links
import Mathlib.Data.List.Perm.Subperm
import Mathlib.Order.WellFounded
/-!
Walks through the tree. No path is longer than there are elements, so that the bound on a walk is
never what ends it: each walk does at an element what it does there, and the same at what comes
next.
-/

set_option autoImplicit false

namespace GuestBridge

section Texts

theorem foldl_append (a : String) (texts : List String) :
    texts.foldl (· ++ ·) a = a ++ String.join texts := by
  unfold String.join
  induction texts generalizing a with
  | nil => exact String.append_empty.symm
  | cons b rest ih =>
    rw [List.foldl_cons, List.foldl_cons, ih, ih ("" ++ b), String.empty_append,
      String.append_assoc]

theorem join_cons (a : String) (texts : List String) :
    String.join (a :: texts) = a ++ String.join texts := by
  rw [String.join, List.foldl_cons, String.empty_append, foldl_append]

theorem join_flatMap {α : Type} (texts : α → List String) (l : List α) :
    String.join (l.flatMap texts) = String.join (l.map fun a => String.join (texts a)) := by
  induction l with
  | nil => rfl
  | cons a rest ih =>
    rw [List.flatMap_cons, List.map_cons, join_cons, ← ih, String.join, List.foldl_append]
    exact foldl_append ..

end Texts

namespace Elements

variable {es : Elements} {i j c e : Nat}

/-- From an element upwards to another one, or nowhere. -/
abbrev Reaches (es : Elements) (e i : Nat) : Prop := Relation.ReflTransGen es.Above e i

theorem contains_of_mem_ancestryWithin {n : Nat} (there : es.contains i = true)
    (inside : j ∈ es.ancestryWithin n i) : es.contains j = true := by
  induction n generalizing i with
  | zero => exact absurd inside List.not_mem_nil
  | succ n ih =>
    unfold ancestryWithin at inside
    rcases above : es.parent? i with _ | e
    · rw [above] at inside
      exact List.mem_singleton.1 inside ▸ there
    · rw [above] at inside
      rcases List.mem_cons.1 inside with same | later
      · exact same ▸ there
      · exact ih (Above.there above) later

theorem reaches_of_mem_ancestryWithin {n : Nat} (inside : j ∈ es.ancestryWithin n i) :
    es.Reaches j i := by
  induction n generalizing i with
  | zero => exact absurd inside List.not_mem_nil
  | succ n ih =>
    unfold ancestryWithin at inside
    rcases List.mem_cons.1 inside with same | later
    · exact same ▸ .refl
    · rcases above : es.parent? i with _ | e
      · rw [above] at later
        exact absurd later List.not_mem_nil
      · rw [above] at later
        exact (ih later).tail above

theorem ancestryWithin_step (es : Elements) (n i : Nat) : es.ancestryWithin (n + 1) i =
    i :: ((es.parent? i).map (es.ancestryWithin n)).getD [] := rfl

/-- One step more makes no difference to a walk that has ended. -/
theorem ancestryWithin_succ {n : Nat} (ended : (es.ancestryWithin (n + 1) i).length ≤ n) :
    es.ancestryWithin (n + 1) i = es.ancestryWithin n i := by
  induction n generalizing i with
  | zero => cases ended
  | succ n ih =>
    rw [ancestryWithin_step es (n + 1)] at ended ⊢
    rw [ancestryWithin_step es n]
    rcases above : es.parent? i with _ | e
    · rfl
    · rw [above] at ended
      exact congrArg (i :: ·) (ih (Nat.le_of_succ_le_succ ended))

section Grounded

variable (grounded : WellFounded es.Above)

include grounded

/-- No element is above itself. -/
theorem not_above_itself (e : Nat) : ¬ Relation.TransGen es.Above e e := fun cycle =>
  grounded.transGen.asymmetric e e cycle cycle

theorem nodup_ancestryWithin (n i : Nat) : (es.ancestryWithin n i).Nodup := by
  induction n generalizing i with
  | zero => exact List.nodup_nil
  | succ n ih =>
    unfold ancestryWithin
    rcases above : es.parent? i with _ | e
    · exact List.pairwise_singleton _ i
    · refine List.nodup_cons.2 ⟨fun inside => ?_, ih e⟩
      exact not_above_itself grounded i
        (.tail' (reaches_of_mem_ancestryWithin (n := n) inside) above)

/-- A path has no more elements than there ever were. -/
theorem length_ancestryWithin_le (there : es.contains i = true) (n : Nat) :
    (es.ancestryWithin n i).length ≤ es.size := by
  have inside : es.ancestryWithin n i ⊆ List.range es.size := fun j member =>
    List.mem_range.2 (Pool.lt_size_of_contains (contains_of_mem_ancestryWithin there member))
  have most := (List.subperm_of_subset (nodup_ancestryWithin grounded n i) inside).length_le
  rwa [List.length_range] at most

theorem ancestryWithin_of_size_le (there : es.contains i = true) {n : Nat} (enough : es.size ≤ n) :
    es.ancestryWithin n i = es.ancestry i := by
  induction n, enough using Nat.le_induction with
  | base => rfl
  | succ n enough ih =>
    rw [ancestryWithin_succ
      (Nat.le_trans (length_ancestryWithin_le grounded there (n + 1)) enough), ih]

theorem ancestry_eq (there : es.contains i = true) :
    es.ancestry i = i :: ((es.parent? i).map es.ancestry).getD [] := by
  rw [← ancestryWithin_of_size_le grounded there (Nat.le_succ es.size)]
  rfl

/-- The walk upwards passes by everything that is above. -/
theorem mem_ancestry (there : es.contains i = true) : j ∈ es.ancestry i ↔ es.Reaches j i := by
  refine ⟨reaches_of_mem_ancestryWithin, fun reaches => ?_⟩
  induction reaches with
  | refl =>
    rw [ancestry_eq grounded there]
    exact List.mem_cons_self ..
  | tail _ above ih =>
    rw [ancestry_eq grounded there, show es.parent? _ = some _ from above]
    exact List.mem_cons_of_mem _ (ih (Above.there above))

theorem length_ancestry_of_above (there : es.contains c = true) (above : es.Above e c) :
    (es.ancestry c).length = (es.ancestry e).length + 1 := by
  rw [ancestry_eq grounded there, show es.parent? c = some e from above]
  rfl

end Grounded

namespace Tidy

variable {owned : Nat → Nat} {going : List Nat} (tidy : Tidy es owned going)

include tidy

omit tidy in
theorem preorderWithin_step (es : Elements) (d i : Nat) :
    es.preorderWithin (d + 1) i = i :: (es.children i).flatMap (es.preorderWithin d) := rfl

/-- The way down from an element is as long as the way up from it leaves room for. -/
theorem preorderWithin_succ (there : es.contains i = true) {d : Nat}
    (room : es.size < d + (es.ancestry i).length) :
    es.preorderWithin (d + 1) i = es.preorderWithin d i := by
  induction d generalizing i with
  | zero =>
    have most := length_ancestryWithin_le tidy.grounded there es.size
    unfold ancestry at room
    omega
  | succ d ih =>
    rw [preorderWithin_step es (d + 1), preorderWithin_step es d]
    refine congrArg (i :: ·) (List.flatMap_congr fun c child => ?_)
    have below := tidy.there child
    apply ih below
    rw [length_ancestry_of_above tidy.grounded below ((tidy.linked i c).1 child)]
    omega

theorem preorderWithin_of_size_le (there : es.contains i = true) {n : Nat} (enough : es.size ≤ n) :
    es.preorderWithin n i = es.preorder i := by
  induction n, enough using Nat.le_induction with
  | base => rfl
  | succ n enough ih =>
    rw [tidy.preorderWithin_succ there, ih]
    rw [ancestry_eq tidy.grounded there, List.length_cons]
    omega

theorem preorder_eq (there : es.contains i = true) :
    es.preorder i = i :: (es.children i).flatMap es.preorder := by
  rw [← tidy.preorderWithin_of_size_le there (Nat.le_succ es.size)]
  rfl

/-- The own text, and then the content of each child. -/
theorem textContent_eq (there : es.contains i = true) :
    es.textContent i =
      (es.get i).text ++ String.join ((es.children i).map es.textContent) := by
  unfold textContent
  rw [tidy.preorder_eq there, List.map_cons, join_cons, List.map_flatMap, join_flatMap]

/-- The element itself, or what is found first below one of its children. -/
theorem findById_eq (there : es.contains i = true) (id : String) :
    es.findById i id = if (es.get i).id = id then some i
      else (es.children i).findSome? fun c => es.findById c id := by
  unfold findById
  rw [tidy.preorder_eq there, List.find?_cons, List.find?_flatMap]
  split
  · next same => rw [if_pos (beq_iff_eq.1 same)]
  · next other => rw [if_neg (beq_eq_false_iff_ne.1 other)]

end Tidy

end Elements

end GuestBridge

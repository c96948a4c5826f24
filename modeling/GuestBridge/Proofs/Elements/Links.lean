import GuestBridge.Element
import GuestBridge.Proofs.Pool
import Mathlib.Logic.Relation
/-!
The two ways in which elements are linked: an element lists its children, and each of them names it
as its parent. Both have to say the same, no element may be above itself, and the holders of an
element are counted.
-/

set_option autoImplicit false

namespace GuestBridge.Elements

variable {es es' : Elements} {c e i j : Nat}

/-- The children of an element; one that is gone has none. -/
def children (es : Elements) (e : Nat) : List Nat := (es.get e).children

/-- The first element is the parent of the second. -/
def Above (es : Elements) (e c : Nat) : Prop := es.parent? c = some e

/-- How often the elements list an element among their children. -/
def mentions (es : Elements) (c : Nat) : Nat := es.total fun element => element.children.count c

theorem get_of_get? {element : Element} (found : es.get? i = some element) :
    es.get i = element := by
  unfold get
  rw [found]
  rfl

theorem get_of_gone (gone : es.contains i = false) : es.get i = default := by
  unfold get
  rw [Pool.get?_of_not_contains gone]
  rfl

theorem get_modify (there : es.contains i = true) (f : Element → Element) (j : Nat) :
    get (es.modify i f) j = if j = i then f (es.get i) else es.get j := by
  obtain ⟨element, found⟩ := Pool.contains_iff.1 there
  rw [get_of_get? found]
  unfold get
  rw [Pool.get?_modify, found]
  split <;> rfl

@[simp] theorem get_hold (es : Elements) (i j : Nat) : get (es.hold i) j = es.get j := by
  unfold get
  rw [Pool.get?_hold]

theorem above_iff : es.Above e c ↔ (es.get c).parent = some e ∧ es.contains e = true := by
  unfold Above parent?
  exact Option.filter_eq_some_iff

theorem Above.there (above : es.Above e c) : es.contains e = true := (above_iff.1 above).2

theorem count_le_mentions (es : Elements) (e c : Nat) :
    (es.children e).count c ≤ es.mentions c := by
  rcases found : es.held? e with _ | h
  · have gone : es.get e = default := get_of_gone (by rw [Pool.contains, found]; rfl)
    unfold children
    rw [gone]
    exact Nat.zero_le _
  · unfold children
    rw [get_of_get? (Pool.get?_of_held? found)]
    exact Pool.le_total found fun element => element.children.count c

theorem mentions_modify (there : es.contains i = true) (f : Element → Element) (c : Nat) :
    mentions (es.modify i f) c + (es.children i).count c =
      es.mentions c + (f (es.get i)).children.count c := by
  obtain ⟨h, found⟩ := Option.isSome_iff_exists.1 there
  have same := get_of_get? (Pool.get?_of_held? found)
  unfold children
  rw [same]
  exact Pool.total_modify found f _

theorem mentions_hold (es : Elements) (i c : Nat) : mentions (es.hold i) c = es.mentions c :=
  Pool.total_hold ..

/-- What holds of the elements while callers hold some and others are being let go. -/
structure Tidy (es : Elements) (owned : Nat → Nat) (going : List Nat) : Prop where
  count : ∀ c, es.holders c = owned c + es.mentions c + going.count c
  once : ∀ e, (es.children e).Nodup
  linked : ∀ e c, c ∈ es.children e ↔ es.Above e c
  grounded : WellFounded es.Above
  /-- A parent that is gone keeps its number. -/
  named : ∀ c e, (es.get c).parent = some e → e < es.size

namespace Tidy

variable {owned : Nat → Nat} {going : List Nat}

theorem there (tidy : Tidy es owned going) (child : c ∈ es.children e) :
    es.contains c = true := by
  apply Pool.contains_of_holders
  have listed := List.count_pos_iff.2 child
  have most := es.count_le_mentions e c
  rw [tidy.count c]
  omega

theorem there_of_going (tidy : Tidy es owned going) (inside : c ∈ going) :
    es.contains c = true := by
  apply Pool.contains_of_holders
  have listed := List.count_pos_iff.2 inside
  rw [tidy.count c]
  omega

/-- Nothing about the links changes. -/
theorem of_same (tidy : Tidy es owned going) {owned' : Nat → Nat} {going' : List Nat}
    (children : ∀ e, es'.children e = es.children e) (above : ∀ e c, es'.Above e c ↔ es.Above e c)
    (named : ∀ c e, (es'.get c).parent = some e → e < es'.size)
    (count : ∀ c, es'.holders c = owned' c + es'.mentions c + going'.count c) :
    Tidy es' owned' going' where
  count := count
  once e := children e ▸ tidy.once e
  linked e c := by rw [children, above, tidy.linked]
  grounded := Subrelation.wf (fun {e c} now => (above e c).1 now) tidy.grounded
  named := named

end Tidy

theorem empty_tidy : Tidy .empty (fun _ => 0) [] where
  count _ := rfl
  once _ := List.nodup_nil
  linked _ _ := ⟨fun inside => absurd inside List.not_mem_nil, fun above => nomatch above⟩
  grounded := ⟨fun c => .intro c fun _ above => nomatch above⟩
  named _ _ same := nomatch same

end GuestBridge.Elements

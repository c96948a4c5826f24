import GuestBridge.Proofs.Elements.Moves
/-!
Document order. An element comes before all that is below it, and it comes with all that is below it
before its later siblings and what is below those. The walk downwards comes by the elements in this
order, so that the text of an element is read in it and a look-up finds the first one with an id.
-/

set_option autoImplicit false

namespace GuestBridge.Elements

variable {es : Elements} {owned : Nat → Nat} {a b c d e : Nat}

/-- The first element comes before the second in document order. -/
inductive Precedes (es : Elements) (a b : Nat) : Prop
  | above (up : Relation.TransGen es.Above a b)
  /-- They are at or below two children of one element. -/
  | beside {e c d : Nat} (listed : [c, d].Sublist (es.children e)) (left : es.Reaches c a)
      (right : es.Reaches d b)

/-- An element and all that is below it, in document order. -/
structure InOrder (es : Elements) (e : Nat) (l : List Nat) : Prop where
  sorted : l.Pairwise es.Precedes
  all : ∀ d, d ∈ l ↔ es.Reaches e d

/-- Of the elements with this id that are connected to a root, it comes first. -/
structure FirstById (es : Elements) (root : Nat) (id : String) (d : Nat) : Prop where
  connected : es.Reaches root d
  named : (es.get d).id = id
  first : ∀ other, es.Reaches root other → (es.get other).id = id → other ≠ d →
    es.Precedes d other

theorem reaches_total (first : es.Reaches a c) (second : es.Reaches b c) :
    es.Reaches a b ∨ es.Reaches b a := by
  -- Upwards there is one way to go only.
  have unique : Relator.RightUnique (Function.swap es.Above) :=
    fun _ _ _ one other => Above.unique one other
  rcases Relation.ReflTransGen.total_of_right_unique unique (Relation.reflTransGen_swap.2 first)
    (Relation.reflTransGen_swap.2 second) with up | down
  · exact .inr (Relation.reflTransGen_swap.1 up)
  · exact .inl (Relation.reflTransGen_swap.1 down)

theorem not_sublist_swap {l : List Nat} (once : l.Nodup) (first : [c, d].Sublist l) :
    ¬ [d, c].Sublist l := by
  induction l with
  | nil => exact fun _ => nomatch first
  | cons x rest ih =>
    obtain ⟨fresh, once⟩ := List.nodup_cons.1 once
    intro second
    cases first with
    | cons _ first =>
      cases second with
      | cons _ second => exact ih once first second
      | cons_cons _ second => exact fresh (first.subset (.tail _ (.head _)))
    | cons_cons _ first =>
      cases second with
      | cons _ second => exact fresh (second.subset (.tail _ (.head _)))
      | cons_cons _ second => exact fresh (List.singleton_sublist.1 first)

namespace Tidy

variable (tidy : Tidy es owned [])

include tidy

/-- What is below one child of an element is below no other. -/
theorem sibling_unique (left : es.Above e c) (right : es.Above e d) (viaLeft : es.Reaches c a)
    (viaRight : es.Reaches d a) : c = d := by
  have apart {c d : Nat} (left : es.Above e c) (right : es.Above e d) (down : es.Reaches c d) :
      c = d := by
    rcases Relation.ReflTransGen.cases_tail down with same | ⟨p, reached, above⟩
    · exact same.symm
    · rw [Above.unique above right] at reached
      exact (not_above_itself tidy.grounded c (.tail' reached left)).elim
  rcases reaches_total viaLeft viaRight with down | down
  · exact apart left right down
  · exact (apart right left down).symm

theorem ne_of_listed (listed : [c, d].Sublist (es.children e)) : c ≠ d := by
  have apart := (tidy.once e).sublist listed
  exact (List.pairwise_cons.1 apart).1 d (List.mem_singleton.2 rfl)

theorem above_of_listed (listed : [c, d].Sublist (es.children e)) :
    es.Above e c ∧ es.Above e d :=
  ⟨(tidy.linked e c).1 (listed.subset (.head _)),
    (tidy.linked e d).1 (listed.subset (.tail _ (.head _)))⟩

/-- Neither of two elements below different siblings is below the other. -/
theorem not_reaches_of_beside (listed : [c, d].Sublist (es.children e)) (left : es.Reaches c a)
    (right : es.Reaches d b) : ¬ es.Reaches a b ∧ ¬ es.Reaches b a := by
  obtain ⟨first, second⟩ := tidy.above_of_listed listed
  have other := tidy.ne_of_listed listed
  exact ⟨fun down => other (tidy.sibling_unique first second (left.trans down) right),
    fun down => other (tidy.sibling_unique first second left (right.trans down))⟩

/-- If the siblings of one pair are above those of the other, or among them, the pairs are in the
same order. -/
theorem not_beside_of_reaches {e' c' d' : Nat} (listed : [c, d].Sublist (es.children e))
    (left : es.Reaches c a) (right : es.Reaches d b) (listed' : [c', d'].Sublist (es.children e'))
    (left' : es.Reaches c' b) (right' : es.Reaches d' a) : ¬ es.Reaches e e' := by
  intro down
  obtain ⟨first, second⟩ := tidy.above_of_listed listed
  obtain ⟨first', second'⟩ := tidy.above_of_listed listed'
  rcases Relation.ReflTransGen.cases_head down with rfl | ⟨x, above, reached⟩
  · rw [← tidy.sibling_unique first second' left right',
      ← tidy.sibling_unique second first' right left'] at listed'
    exact not_sublist_swap (tidy.once e) listed listed'
  · -- One child of the upper element would have both elements below it.
    have one := tidy.sibling_unique first above left ((reached.tail second').trans right')
    have two := tidy.sibling_unique second above right ((reached.tail first').trans left')
    exact tidy.ne_of_listed listed (one.trans two.symm)

theorem precedes_asymm (first : es.Precedes a b) : ¬ es.Precedes b a := by
  intro second
  cases first with
  | above up =>
    cases second with
    | above down => exact not_above_itself tidy.grounded a (up.trans down)
    | beside listed left right =>
      exact (tidy.not_reaches_of_beside listed left right).2 up.to_reflTransGen
  | @beside e c d listed left right =>
    cases second with
    | above down => exact (tidy.not_reaches_of_beside listed left right).2 down.to_reflTransGen
    | @beside e' c' d' listed' left' right' =>
      have upper : es.Reaches e a := .head (tidy.above_of_listed listed).1 left
      have upper' : es.Reaches e' a := .head (tidy.above_of_listed listed').2 right'
      rcases reaches_total upper upper' with down | down
      · exact tidy.not_beside_of_reaches listed left right listed' left' right' down
      · exact tidy.not_beside_of_reaches listed' left' right' listed left right down

/-! The walk downwards. -/

theorem mem_preorder (there : es.contains e = true) : d ∈ es.preorder e ↔ es.Reaches e d := by
  refine ⟨tidy.reaches_of_mem_preorderWithin, fun reaches => ?_⟩
  induction reaches using Relation.ReflTransGen.head_induction_on with
  | refl =>
    rw [tidy.preorder_eq there]
    exact List.mem_cons_self ..
  | head above _ ih =>
    have child := (tidy.linked _ _).2 above
    rw [tidy.preorder_eq there]
    exact List.mem_cons_of_mem _ (List.mem_flatMap.2 ⟨_, child, ih (tidy.there child)⟩)

/-- The walk comes by the elements in document order. By induction downwards: the element comes
before all others, and what is below one child before what is below a later one. -/
theorem sorted_preorder (there : es.contains e = true) :
    (es.preorder e).Pairwise es.Precedes := by
  induction e using tidy.downwards.induction with
  | _ e ih =>
    rw [tidy.preorder_eq there, List.pairwise_cons, List.pairwise_flatMap]
    refine ⟨fun d inside => ?_, fun c child => ih c child (tidy.there child), ?_⟩
    · obtain ⟨c, child, listed⟩ := List.mem_flatMap.1 inside
      exact .above (.head' ((tidy.linked e c).1 child) (tidy.reaches_of_mem_preorderWithin listed))
    · rw [List.pairwise_iff_forall_sublist]
      exact fun listed a left b right =>
        .beside listed (tidy.reaches_of_mem_preorderWithin left)
          (tidy.reaches_of_mem_preorderWithin right)

theorem inOrder_preorder (there : es.contains e = true) : es.InOrder e (es.preorder e) :=
  ⟨tidy.sorted_preorder there, fun _ => tidy.mem_preorder there⟩

/-- There is one way only to list them in document order. -/
theorem eq_preorder (there : es.contains e = true) {l : List Nat} (inOrder : es.InOrder e l) :
    l = es.preorder e := by
  have once {l : List Nat} (sorted : l.Pairwise es.Precedes) : l.Nodup := by
    refine sorted.imp fun {a b} before => ?_
    rintro rfl
    exact tidy.precedes_asymm before before
  have walk := tidy.inOrder_preorder there
  have same : l.Perm (es.preorder e) :=
    (List.perm_ext_iff_of_nodup (once inOrder.sorted) (once walk.sorted)).2 fun d =>
      (inOrder.all d).trans (walk.all d).symm
  exact same.eq_of_pairwise (fun _ _ _ _ first second => (tidy.precedes_asymm first second).elim)
    inOrder.sorted walk.sorted

/-! Look-ups. -/

theorem findById_eq_none (there : es.contains e = true) (id : String) :
    es.findById e id = none ↔ ∀ d, es.Reaches e d → (es.get d).id ≠ id := by
  unfold findById
  rw [List.find?_eq_none]
  simp only [tidy.mem_preorder there, beq_iff_eq, ne_eq]

theorem firstById_of_findById (there : es.contains e = true) {id : String}
    (found : es.findById e id = some d) : es.FirstById e id d := by
  obtain ⟨named, before, after, split, others⟩ := List.find?_eq_some_iff_append.1 found
  have sorted := tidy.sorted_preorder there
  rw [split] at sorted
  constructor
  case connected =>
    rw [← tidy.mem_preorder there, split]
    exact List.mem_append_right _ (List.mem_cons_self ..)
  case named => exact beq_iff_eq.1 named
  case first =>
    intro other connected same apart
    rw [← tidy.mem_preorder there, split] at connected
    rcases List.mem_append.1 connected with earlier | later
    · have unlike := others other earlier
      rw [same, beq_self_eq_true] at unlike
      cases unlike
    · rcases List.mem_cons.1 later with here | behind
      · exact absurd here apart
      · exact (List.pairwise_cons.1 (List.pairwise_append.1 sorted).2.1).1 other behind

theorem findById_eq_some (there : es.contains e = true) (id : String) :
    es.findById e id = some d ↔ es.FirstById e id d := by
  refine ⟨tidy.firstById_of_findById there, fun first => ?_⟩
  rcases found : es.findById e id with _ | other
  · exact absurd first.named ((tidy.findById_eq_none there id).1 found d first.connected)
  · have least := tidy.firstById_of_findById there found
    by_contra apart
    have apart : other ≠ d := fun same => apart (congrArg some same)
    exact tidy.precedes_asymm (least.first d first.connected first.named (Ne.symm apart))
      (first.first other least.connected least.named apart)

end Tidy

end GuestBridge.Elements

import GuestBridge.Proofs.Elements.Order
/-!
A text in place of all content. The former children are let go of: what nobody else holds goes away
with them, and what somebody holds stays, together with all that is below it.
-/

set_option autoImplicit false

namespace GuestBridge.Elements

variable {before es after : Elements} {owned : Nat → Nat} {going : List Nat} {c d e i j : Nat}

/-- Some of what is at or below the elements that are let go of has gone, and nothing else has
changed. -/
structure Pruned (before after : Elements) (going : List Nat) : Prop where
  there : ∀ d, after.contains d = true → before.contains d = true
  same : ∀ d, after.contains d = true → after.get d = before.get d
  gone : ∀ d, before.contains d = true → after.contains d = false →
    ∃ i ∈ going, before.Reaches i d

/-- An element has all below it that it had, whatever has become of its own parent. -/
structure SameBelow (before after : Elements) (c : Nat) : Prop where
  there : ∀ d, before.Reaches c d → after.contains d = true
  own : ∀ d, before.Reaches c d →
    after.get d = { before.get d with parent := (after.get d).parent }
  parent : ∀ d, before.Reaches c d → d ≠ c → after.parent? d = before.parent? d
  preorder : after.preorder c = before.preorder c

/-- All content of an element has given way to a text. -/
structure Replaced (before after : Elements) (owned : Nat → Nat) (e : Nat) (text : String) :
    Prop where
  there : after.contains e = true
  own : after.get e = { before.get e with text := text, children := [] }
  content : after.textContent e = text
  freed : ∀ c ∈ before.children e, after.parent? c = none
  kept : ∀ c ∈ before.children e, after.contains c = true → SameBelow before after c
  /-- Whatever callers hold is still there. -/
  held : ∀ c, 0 < owned c → after.contains c = true
  elsewhere : ∀ d, ¬ before.Reaches e d →
    after.contains d = before.contains d ∧ after.get d = before.get d

/-! Letting go. -/

theorem release_cases (es : Elements) (i d : Nat) :
    ((es.release i).2.contains d = es.contains d ∧ Elements.get (es.release i).2 d = es.get d) ∨
      (d = i ∧ (es.release i).2.contains d = false) := by
  have contains (p : Elements) : p.contains d = (p.get? d).isSome := Option.isSome_map.symm
  unfold get
  rw [contains, contains]
  rcases Pool.get?_release es i d with same | ⟨here, gone⟩
  · exact .inl ⟨by rw [same], by rw [same]⟩
  · exact .inr ⟨here, by rw [gone]; rfl⟩

theorem Pruned.refl (es : Elements) (going : List Nat) : Pruned es es going where
  there _ there := there
  same _ _ := rfl
  gone d there gone := by rw [there] at gone; cases gone

theorem Pruned.release (pruned : Pruned before es going)
    (below : ∃ g ∈ going, before.Reaches g i) : Pruned before (es.release i).2 going where
  there d there := by
    rcases release_cases es i d with ⟨stays, -⟩ | ⟨-, gone⟩
    · exact pruned.there d (stays ▸ there)
    · rw [gone] at there
      cases there
  same d there := by
    rcases release_cases es i d with ⟨stays, same⟩ | ⟨-, gone⟩
    · exact same.trans (pruned.same d (stays ▸ there))
    · rw [gone] at there
      cases there
  gone d there gone := by
    rcases release_cases es i d with ⟨stays, -⟩ | ⟨here, -⟩
    · exact pruned.gone d there (stays ▸ gone)
    · exact here ▸ below

/-- A child of what is still there is a child it had before. -/
theorem Pruned.reaches (pruned : Pruned before after going) (tidy : Tidy before owned going)
    (there : after.contains i = true) (child : c ∈ after.children i)
    (below : ∃ g ∈ going, before.Reaches g i) : ∃ g ∈ going, before.Reaches g c := by
  obtain ⟨g, inside, reaches⟩ := below
  have listed : c ∈ before.children i := by
    unfold children at child ⊢
    rwa [pruned.same i there] at child
  exact ⟨g, inside, reaches.tail ((tidy.linked i c).1 listed)⟩

/-- Whatever goes in a cascade was below what the cascade began with. -/
theorem Tidy.pruned {r : Realm} (tidy : Tidy r.elements owned going) :
    Pruned r.elements (r.run (going.map (.letGo <| .element ·))).elements going := by
  have whole := Realm.run_induction
    (P := fun now jobs => ∃ left, jobs = left.map (.letGo <| .element ·) ∧
      Tidy now.elements owned left ∧ Pruned r.elements now.elements going ∧
      ∀ i ∈ left, ∃ g ∈ going, r.elements.Reaches g i)
    (fun now job rest before => by
      obtain ⟨left, same, inner, pruned, below⟩ := before
      cases left with
      | nil => cases same
      | cons i left =>
        obtain ⟨rfl, rfl⟩ := List.cons.inj same
        obtain ⟨more, jobs, children, after⟩ := inner.doJob
        have here := below i (List.mem_cons_self ..)
        have there := inner.there_of_going (List.mem_cons_self ..)
        refine ⟨more ++ left, by rw [jobs, List.map_append], after, pruned.release here, ?_⟩
        intro c inside
        rcases List.mem_append.1 inside with child | later
        · exact pruned.reaches tidy there (children child) here
        · exact below c (List.mem_cons_of_mem _ later))
    ⟨going, rfl, tidy, .refl _ _, fun i inside => ⟨i, inside, .refl⟩⟩
  obtain ⟨left, -, -, pruned, -⟩ := whole
  exact pruned

/-! The new text. -/

section Text

variable {text : String} (tidy : Tidy es owned []) (there : es.contains e = true)
  (pruned : Pruned (es.setText e text).1 after (es.children e)) (tidyAfter : Tidy after owned [])

include tidy there pruned

/-- What is there in the end is as the new text has left it. -/
theorem Pruned.get_of_setText (still : after.contains d = true) : after.get d =
    if d = e then { es.get e with text := text, children := [] }
    else { es.get d with parent := if d ∈ es.children e then none else (es.get d).parent } :=
  (pruned.same d still).trans (tidy.get_setText there text d)

theorem Pruned.above_of_gone (here : es.contains d = true) (gone : after.contains d = false) :
    Relation.TransGen es.Above e d := by
  obtain ⟨c, child, reaches⟩ := pruned.gone d ((contains_setText ..).trans here) gone
  have within : es.Reaches c d :=
    Relation.ReflTransGen.mono
      (fun _ _ above => ((tidy.above_setText there text _ _).1 above).1) c d reaches
  exact .head' ((tidy.linked e c).1 child) within

theorem Pruned.parent?_of_setText (still : after.contains d = true) (other : d ∉ es.children e)
    (parent : ∀ q, es.Above q d → after.contains q = true) : after.parent? d = es.parent? d := by
  have same : (after.get d).parent = (es.get d).parent := by
    rw [pruned.get_of_setText tidy there still]
    by_cases here : d = e
    · rw [if_pos here, here]
    · rw [if_neg here, if_neg other]
  refine Option.ext fun q => ?_
  change after.Above q d ↔ es.Above q d
  rw [above_iff, above_iff, same]
  refine and_congr_right fun named => ⟨fun now => ?_, fun before => ?_⟩
  · exact (contains_setText ..).symm.trans (pruned.there q now)
  · exact parent q (above_iff.2 ⟨named, before⟩)

include tidyAfter

/-- A former child that is still there keeps what is below it, since it still holds that. -/
theorem Pruned.sameBelow (child : c ∈ es.children e) (still : after.contains c = true) :
    SameBelow es after c := by
  have above := (tidy.linked e c).1 child
  -- Above and below an element there are no two ways.
  have apart {d : Nat} (reaches : es.Reaches c d) : d ≠ e := fun same =>
    not_above_itself tidy.grounded e (.head' above (same ▸ reaches))
  have get {d : Nat} (reaches : es.Reaches c d) (still : after.contains d = true) :=
    (pruned.get_of_setText tidy there still).trans (if_neg (apart reaches))
  have stays : ∀ d, es.Reaches c d → after.contains d = true := by
    intro d reaches
    induction reaches with
    | refl => exact still
    | @tail q d reaches below ih =>
      have listed : d ∈ after.children q := by
        unfold children
        rw [get reaches ih]
        exact (tidy.linked q d).2 below
      exact tidyAfter.there listed
  have children : ∀ d, es.Reaches c d → after.children d = es.children d := by
    intro d reaches
    unfold Elements.children
    rw [get reaches (stays d reaches)]
  constructor
  case there => exact stays
  case own =>
    intro d reaches
    rw [get reaches (stays d reaches)]
  case parent =>
    intro d reaches other
    rcases Relation.ReflTransGen.cases_tail reaches with same | ⟨q, between, below⟩
    · exact absurd same other
    · refine pruned.parent?_of_setText tidy there (stays d reaches) (fun listed => ?_) ?_
      · exact apart between (Above.unique below ((tidy.linked e d).1 listed))
      · intro p above
        exact Above.unique below above ▸ stays q between
  case preorder =>
    rw [← tidyAfter.preorderWithin_of_size_le still (Nat.le_max_left after.size es.size),
      ← tidy.preorderWithin_of_size_le (tidy.there child) (Nat.le_max_right after.size es.size)]
    exact preorderWithin_congr fun d inside =>
      children d (tidy.reaches_of_mem_preorderWithin inside)

end Text

theorem Tidy.replaced {r : Realm} (tidy : Tidy r.elements owned [])
    (there : r.elements.contains e = true) (text : String) :
    Replaced r.elements (Host.Page.replaceContent r e text).elements owned e text := by
  have before := tidy.setText there text
  have pruned := Tidy.pruned (r := { r with elements := (r.elements.setText e text).1 }) before
  have tidyAfter := Tidy.run (r := { r with elements := (r.elements.setText e text).1 }) before
  change Pruned _ (Host.Page.replaceContent r e text).elements (r.elements.children e) at pruned
  change Tidy (Host.Page.replaceContent r e text).elements owned [] at tidyAfter
  generalize (Host.Page.replaceContent r e text).elements = after at pruned tidyAfter ⊢
  have still : after.contains e = true := by
    by_contra gone
    exact not_above_itself tidy.grounded e
      (pruned.above_of_gone tidy there there (Bool.eq_false_iff.2 gone))
  have own := (pruned.get_of_setText tidy there still).trans (if_pos rfl)
  have childless : after.children e = [] := congrArg Element.children own
  constructor
  case there => exact still
  case own => exact own
  case content =>
    rw [tidyAfter.textContent_eq still, childless, own]
    exact String.append_empty
  case freed =>
    intro c child
    have parent : (after.get c).parent = none := by
      by_cases stays : after.contains c = true
      · have apart : c ≠ e := fun same =>
          not_above_itself tidy.grounded e (.single ((tidy.linked e e).1 (same ▸ child)))
        rw [pruned.get_of_setText tidy there stays, if_neg apart, if_pos child]
      · rw [get_of_gone (Bool.eq_false_iff.2 stays)]
        rfl
    unfold parent?
    rw [parent]
    rfl
  case kept => exact fun c => pruned.sameBelow tidy there tidyAfter
  case held =>
    intro c mine
    apply Pool.contains_of_holders
    rw [tidyAfter.count c]
    omega
  case elsewhere =>
    intro d outside
    have stays : after.contains d = r.elements.contains d := by
      rcases here : r.elements.contains d with _ | _
      · refine Bool.eq_false_iff.2 fun now => ?_
        rw [← contains_setText r.elements e text, pruned.there d now] at here
        cases here
      · by_contra gone
        exact outside (pruned.above_of_gone tidy there here
          (Bool.eq_false_iff.2 gone)).to_reflTransGen
    refine ⟨stays, ?_⟩
    rcases here : after.contains d with _ | _
    · rw [get_of_gone here, get_of_gone (stays ▸ here)]
    · have apart : d ≠ e := fun same => outside (same ▸ .refl)
      have unlisted : d ∉ r.elements.children e := fun child =>
        outside (.single ((tidy.linked e d).1 child))
      rw [pruned.get_of_setText tidy there here, if_neg apart, if_neg unlisted]

end GuestBridge.Elements

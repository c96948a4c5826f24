import GuestBridge.Proofs.Elements.Walks
import Mathlib.Data.List.Nodup
/-!
What each change to the elements does to their links.
-/

set_option autoImplicit false

namespace GuestBridge.Elements

variable {es es' : Elements} {c e i j p : Nat} {owned : Nat → Nat} {going : List Nat}

/-- Whatever keeps the names of parents, and what is there, keeps who is above whom. -/
theorem above_congr (parent : (es'.get c).parent = (es.get c).parent)
    (there : es'.contains e = es.contains e) : es'.Above e c ↔ es.Above e c := by
  rw [above_iff, above_iff, parent, there]

namespace Tidy

variable (tidy : Tidy es owned going)

include tidy

theorem setId (there : es.contains i = true) (id : String) : Tidy (es.setId i id) owned going := by
  have get : ∀ j, (es.setId i id).get j =
      if j = i then { es.get i with id := id } else es.get j := get_modify there _
  have parent : ∀ j, ((es.setId i id).get j).parent = (es.get j).parent := by
    intro j
    rw [get]
    split
    · next same => rw [same]
    · rfl
  have children : ∀ j, (es.setId i id).children j = es.children j := by
    intro j
    unfold Elements.children
    rw [get]
    split
    · next same => rw [same]
    · rfl
  apply tidy.of_same children
  · exact fun e c => above_congr (parent c) (Pool.contains_modify ..)
  · intro c e named
    rw [parent] at named
    exact (Pool.size_modify es i _).symm ▸ tidy.named c e named
  · intro c
    have mentions := mentions_modify there (fun element => { element with id := id }) c
    have holders := Pool.holders_modify es i (fun element => { element with id := id }) c
    have before := tidy.count c
    unfold Elements.setId
    change _ = es.mentions c + (es.children i).count c at mentions
    omega

theorem keep (there : es.contains i = true) :
    Tidy (es.hold i) (fun c => owned c + if i = c then 1 else 0) going := by
  refine tidy.of_same (fun e => ?_) (fun e c => ?_) (fun c e named => ?_) fun c => ?_
  · unfold Elements.children
    rw [get_hold]
  · exact above_congr (congrArg Element.parent (get_hold es i c)) (Pool.contains_hold ..)
  · rw [get_hold] at named
    exact (Pool.size_hold es i).symm ▸ tidy.named c e named
  · rw [Pool.holders_hold there, mentions_hold, tidy.count]
    omega

theorem create (tag : String) :
    Tidy (es.create tag).2 (fun c => owned c + if es.size = c then 1 else 0) going := by
  have get : ∀ j, (es.create tag).2.get j =
      if j = es.size then ⟨tag.map Char.toUpper, "", "", [], none⟩ else es.get j := by
    intro j
    unfold Elements.get Elements.create
    rw [Pool.get?_add]
    split <;> rfl
  have last : es.get es.size = default :=
    get_of_gone (Bool.eq_false_iff.2 fun there =>
      absurd (Pool.lt_size_of_contains there) (Nat.lt_irrefl _))
  have children : ∀ j, (es.create tag).2.children j = es.children j := by
    intro j
    unfold Elements.children
    rw [get]
    split
    · next same =>
      rw [same, last]
      rfl
    · rfl
  have parent : ∀ j, ((es.create tag).2.get j).parent = (es.get j).parent := by
    intro j
    rw [get]
    split
    · next same =>
      rw [same, last]
      rfl
    · rfl
  apply tidy.of_same children
  · intro e c
    rw [above_iff, above_iff, parent]
    unfold Elements.create
    rw [Pool.contains_add]
    -- No element has had the new one for its parent, not even one that is gone.
    refine and_congr_right fun named => ?_
    have older := Nat.ne_of_lt (tidy.named c e named)
    simp only [older, decide_false, Bool.false_or]
  · intro c e named
    rw [parent] at named
    have older := tidy.named c e named
    unfold Elements.create
    rw [Pool.size_add]
    omega
  · intro c
    have before := tidy.count c
    have holders := Pool.holders_add es ⟨tag.map Char.toUpper, "", "", [], none⟩ 1 c
    have mentions : (es.create tag).2.mentions c = es.mentions c :=
      Pool.total_add es ⟨tag.map Char.toUpper, "", "", [], none⟩ 1 _
    rw [mentions]
    unfold Elements.create
    omega

end Tidy

theorem Above.unique {a b : Nat} (first : es.Above a c) (second : es.Above b c) : a = b :=
  Option.some.inj (first.symm.trans second)

/-! Letting go. -/

/-- Several places hold the element, and one of them lets go of it. -/
theorem Tidy.release_shared (tidy : Tidy es owned (i :: going)) {h : Held Element}
    (found : es.held? i = some h) (many : 1 < h.holders) :
    Tidy (es.release i).2 owned going := by
  have held : ∀ j, (es.release i).2.held? j =
      if j = i then some ⟨h.thing, h.holders - 1⟩ else es.held? j := by
    intro j
    rw [Pool.held?_release, found, Option.bind_some, Pool.Held.released,
      if_neg (Nat.not_le_of_lt many)]
  have get : ∀ j, Elements.get (es.release i).2 j = es.get j := by
    intro j
    unfold Elements.get Pool.get?
    rw [held]
    split
    · next same =>
      rw [same, found]
      rfl
    · rfl
  have there : ∀ j, (es.release i).2.contains j = es.contains j := by
    intro j
    unfold Pool.contains
    rw [held]
    split
    · next same =>
      rw [same, found]
      rfl
    · rfl
  refine tidy.of_same (fun e => ?_) (fun e c => ?_) (fun c e named => ?_) fun c => ?_
  · unfold children
    rw [get]
  · exact above_congr (congrArg Element.parent (get c)) (there e)
  · rw [get] at named
    rw [Pool.size_release]
    exact tidy.named c e named
  · have before := tidy.count c
    have sum := Pool.total_release found fun element => element.children.count c
    rw [if_neg (Nat.not_le_of_lt many)] at sum
    change mentions (es.release i).2 c + 0 = es.mentions c at sum
    rw [List.count_cons] at before
    simp only [beq_iff_eq] at before
    rw [Pool.holders_release]
    omega

/-- The last place that holds the element lets go of it. -/
theorem Tidy.release_last (tidy : Tidy es owned (i :: going)) {h : Held Element}
    (found : es.held? i = some h) (last : h.holders ≤ 1) :
    Tidy (es.release i).2 owned (es.children i ++ going) := by
  have held : ∀ j, (es.release i).2.held? j = if j = i then none else es.held? j := by
    intro j
    rw [Pool.held?_release, found, Option.bind_some, Pool.Held.released, if_pos last]
  have get : ∀ j, Elements.get (es.release i).2 j = if j = i then default else es.get j := by
    intro j
    unfold Elements.get Pool.get?
    rw [held]
    split <;> rfl
  have children : ∀ j, Elements.children (es.release i).2 j =
      if j = i then [] else es.children j := by
    intro j
    unfold Elements.children
    rw [get]
    split <;> rfl
  have alone : owned i = 0 ∧ es.mentions i = 0 := by
    have before := tidy.count i
    unfold Pool.holders at before
    rw [found, List.count_cons_self] at before
    change h.holders = _ at before
    omega
  have above : ∀ e c, Above (es.release i).2 e c ↔ es.Above e c ∧ e ≠ i ∧ c ≠ i := by
    intro e c
    rw [above_iff, above_iff, get]
    unfold Pool.contains
    rw [held]
    by_cases first : c = i
    · simp only [first, ↓reduceIte, ne_eq, not_true_eq_false, and_false, iff_false]
      rintro ⟨⟨⟩, -⟩
    · by_cases second : e = i
      · simp [first, second]
      · simp [first, second]
  constructor
  case count =>
    intro c
    have before := tidy.count c
    have sum := Pool.total_release found fun element => element.children.count c
    rw [if_pos last, ← get_of_get? (Pool.get?_of_held? found)] at sum
    change mentions (es.release i).2 c + (es.children i).count c = es.mentions c at sum
    rw [List.count_cons] at before
    simp only [beq_iff_eq] at before
    rw [Pool.holders_release, List.count_append]
    omega
  case once =>
    intro e
    rw [children]
    split
    · exact List.nodup_nil
    · exact tidy.once e
  case linked =>
    intro e c
    rw [children, above]
    split
    · next here => simp [here]
    · next other =>
      rw [tidy.linked]
      refine ⟨fun now => ⟨now, other, fun same => ?_⟩, And.left⟩
      -- Nothing lists an element that only the one who lets go of it holds.
      have listed := List.count_pos_iff.2 ((tidy.linked e c).2 now)
      have most := es.count_le_mentions e c
      rw [same] at listed most
      omega
  case grounded => exact Subrelation.wf (fun {_ _} now => ((above _ _).1 now).1) tidy.grounded
  case named =>
    intro c e named
    rw [get] at named
    rw [Pool.size_release]
    split at named
    · cases named
    · exact tidy.named c e named

/-! A text instead of all content. -/

/-- Elements without the parent they had. -/
def orphan (es : Elements) (l : List Nat) : Elements :=
  l.foldl (fun es c => es.modify c fun e => { e with parent := none }) es

theorem size_orphan (es : Elements) (l : List Nat) : (es.orphan l).size = es.size := by
  induction l generalizing es with
  | nil => rfl
  | cons c rest ih => exact (ih _).trans (Pool.size_modify ..)

theorem contains_orphan (es : Elements) (l : List Nat) (j : Nat) :
    (es.orphan l).contains j = es.contains j := by
  induction l generalizing es with
  | nil => rfl
  | cons c rest ih => exact (ih _).trans (Pool.contains_modify ..)

theorem holders_orphan (es : Elements) (l : List Nat) (j : Nat) :
    (es.orphan l).holders j = es.holders j := by
  induction l generalizing es with
  | nil => rfl
  | cons c rest ih => exact (ih _).trans (Pool.holders_modify ..)

theorem get_orphan {l : List Nat} (there : ∀ c ∈ l, es.contains c = true) (j : Nat) :
    (es.orphan l).get j =
      { es.get j with parent := if j ∈ l then none else (es.get j).parent } := by
  induction l generalizing es with
  | nil => rfl
  | cons c rest ih =>
    have here := there c (List.mem_cons_self ..)
    have others : ∀ d ∈ rest, (es.modify c fun e => { e with parent := none }).contains d = true :=
      fun d inside => by
        rw [Pool.contains_modify]
        exact there d (List.mem_cons_of_mem _ inside)
    change (orphan (es.modify c fun e => { e with parent := none }) rest).get j = _
    rw [ih others, get_modify here]
    by_cases same : j = c
    · rw [if_pos same, same]
      simp
    · rw [if_neg same]
      simp [same]

theorem children_orphan {l : List Nat} (there : ∀ c ∈ l, es.contains c = true) (j : Nat) :
    (es.orphan l).children j = es.children j := by
  unfold children
  rw [get_orphan there]

theorem mentions_orphan {l : List Nat} (there : ∀ c ∈ l, es.contains c = true) (j : Nat) :
    (es.orphan l).mentions j = es.mentions j := by
  induction l generalizing es with
  | nil => rfl
  | cons c rest ih =>
    have here := there c (List.mem_cons_self ..)
    have others : ∀ d ∈ rest, (es.modify c fun e => { e with parent := none }).contains d = true :=
      fun d inside => by
        rw [Pool.contains_modify]
        exact there d (List.mem_cons_of_mem _ inside)
    have same := mentions_modify here (fun e => { e with parent := none }) j
    change _ = es.mentions j + (es.children c).count j at same
    refine (ih others).trans ?_
    omega

theorem contains_setText (es : Elements) (i : Nat) (text : String) (j : Nat) :
    (es.setText i text).1.contains j = es.contains j :=
  (Pool.contains_modify ..).trans (contains_orphan ..)

namespace Tidy

section Text

variable (tidy : Tidy es owned []) (there : es.contains i = true) (text : String)

include tidy there

theorem get_setText (j : Nat) : (es.setText i text).1.get j =
    if j = i then { es.get i with text := text, children := [] }
    else { es.get j with parent := if j ∈ es.children i then none else (es.get j).parent } := by
  have present : ∀ c ∈ es.children i, es.contains c = true := fun c child => tidy.there child
  have unlisted : i ∉ es.children i := fun child =>
    not_above_itself tidy.grounded i (.single ((tidy.linked i i).1 child))
  change Elements.get ((es.orphan (es.children i)).modify i _) j = _
  rw [get_modify ((contains_orphan ..).trans there), get_orphan present, get_orphan present,
    if_neg unlisted]

theorem children_setText (j : Nat) :
    Elements.children (es.setText i text).1 j = if j = i then [] else es.children j := by
  unfold Elements.children
  rw [tidy.get_setText there]
  split <;> rfl

/-- The links that are left are those to other elements' children. -/
theorem above_setText (e c : Nat) :
    (es.setText i text).1.Above e c ↔ es.Above e c ∧ e ≠ i := by
  have parent : ((es.setText i text).1.get c).parent =
      if c ∈ es.children i then none else (es.get c).parent := by
    rw [tidy.get_setText there]
    split
    · next same =>
      rw [same, if_neg fun child =>
        not_above_itself tidy.grounded i (.single ((tidy.linked i i).1 child))]
    · rfl
  rw [above_iff, above_iff, parent, contains_setText]
  by_cases child : c ∈ es.children i
  · rw [if_pos child]
    refine ⟨fun both => (nomatch both.1), fun ⟨now, other⟩ => absurd ?_ other⟩
    exact Above.unique (above_iff.2 now) ((tidy.linked i c).1 child)
  · rw [if_neg child]
    refine ⟨fun now => ⟨now, fun same => child ?_⟩, And.left⟩
    exact (tidy.linked i c).2 (same ▸ above_iff.2 now)

/-- The former children are about to be let go. -/
theorem setText : Tidy (es.setText i text).1 owned (es.setText i text).2 where
  count := by
    intro c
    have present : ∀ c ∈ es.children i, es.contains c = true := fun c child => tidy.there child
    have still : (es.orphan (es.children i)).contains i = true := (contains_orphan ..).trans there
    have before := tidy.count c
    have sum := mentions_modify still (fun e => { e with text := text, children := [] }) c
    rw [mentions_orphan present, children_orphan present] at sum
    change ((es.orphan (es.children i)).modify i _).holders c =
      _ + mentions ((es.orphan (es.children i)).modify i _) c + (es.children i).count c
    rw [Pool.holders_modify, holders_orphan]
    simp only [List.count_nil] at sum before
    omega
  once := by
    intro e
    rw [tidy.children_setText there]
    split
    · exact List.nodup_nil
    · exact tidy.once e
  linked := by
    intro e c
    rw [tidy.children_setText there, tidy.above_setText there, ← tidy.linked]
    split
    · next here => simp [here]
    · next other => simp [other]
  grounded := Subrelation.wf (fun {_ _} now => ((tidy.above_setText there text _ _).1 now).1)
    tidy.grounded
  named := by
    intro c e named
    have size : (es.setText i text).1.size = es.size :=
      (Pool.size_modify ..).trans (size_orphan ..)
    rw [tidy.get_setText there] at named
    rw [size]
    split at named
    · next same => exact tidy.named i e named
    · by_cases child : c ∈ es.children i
      · rw [if_pos child] at named
        cases named
      · rw [if_neg child] at named
        exact tidy.named c e named

end Text

end Tidy

/-! A child moved to another parent. -/

/-- An element taken out of its parent's list, to be put into another. -/
def detached (es : Elements) (c : Nat) : Elements :=
  match es.parent? c with
  | some old => es.modify old fun e => { e with children := e.children.filter (· != c) }
  | none => es.hold c

def attached (es : Elements) (p c : Nat) : Elements :=
  (es.modify c fun e => { e with parent := some p }).modify p
    fun e => { e with children := e.children ++ [c] }

theorem append_eq (es : Elements) (p c : Nat) : es.append p c =
    if c ∈ es.ancestry p then .error containsParent else .ok ((es.detached c).attached p c) := by
  unfold append detached attached
  by_cases inside : c ∈ es.ancestry p
  · rw [if_pos inside, if_pos (List.contains_iff_mem.2 inside)]
  · rw [if_neg inside]
    refine (if_neg fun contained => inside (List.contains_iff_mem.1 contained)).trans ?_
    rcases es.parent? c with _ | old <;> rfl

theorem size_detached (es : Elements) (c : Nat) : (es.detached c).size = es.size := by
  unfold detached
  split
  · exact Pool.size_modify ..
  · exact Pool.size_hold ..

theorem contains_detached (es : Elements) (c j : Nat) :
    (es.detached c).contains j = es.contains j := by
  unfold detached
  split
  · exact Pool.contains_modify ..
  · exact Pool.contains_hold ..

namespace Tidy

section Detaching

variable (tidy : Tidy es owned [])

include tidy

/-- Only its parent lists an element. -/
theorem get_detached (c j : Nat) : (es.detached c).get j =
    { es.get j with children := (es.children j).filter (· != c) } := by
  have unlisted : ¬ es.Above j c → (es.children j).filter (· != c) = es.children j := by
    intro other
    refine List.filter_eq_self.2 fun d child => bne_iff_ne.2 fun same => other ?_
    exact (tidy.linked j c).1 (same ▸ child)
  unfold detached
  rcases above : es.parent? c with _ | old
  · rw [get_hold, unlisted (fun now => by rw [Above, above] at now; cases now)]
    rfl
  · rw [get_modify (Above.there above)]
    split
    · next same =>
      rw [same]
      rfl
    · next other =>
      rw [unlisted fun now => other (Above.unique now above)]
      rfl

/-- Whoever is to be the new parent holds the child already. -/
theorem holders_detached (there : es.contains c = true) (j : Nat) :
    (es.detached c).holders j = owned j + (es.detached c).mentions j + if c = j then 1 else 0 := by
  have before := tidy.count j
  unfold detached
  rcases above : es.parent? c with _ | old
  · rw [Pool.holders_hold there, mentions_hold]
    simp only [List.count_nil] at before
    omega
  · have sum := mentions_modify (Above.there above)
      (fun e => { e with children := e.children.filter (· != c) }) j
    have listed := (tidy.linked old c).2 above
    have removed : ((es.children old).filter (· != c)).count j + (if c = j then 1 else 0) =
        (es.children old).count j := by
      by_cases same : c = j
      · subst same
        have gone : c ∉ (es.children old).filter (· != c) := fun inside =>
          bne_iff_ne.1 (List.mem_filter.1 inside).2 rfl
        rw [if_pos rfl, List.count_eq_one_of_mem (tidy.once old) listed,
          List.count_eq_zero_of_not_mem gone]
      · rw [if_neg same, Nat.add_zero]
        exact List.count_filter (bne_iff_ne.2 (Ne.symm same))
    rw [Pool.holders_modify]
    change _ = owned j + mentions (es.modify old _) j + _
    change _ = es.mentions j + ((es.children old).filter (· != c)).count j at sum
    simp only [List.count_nil] at before
    omega

end Detaching

section Appending

variable (tidy : Tidy es owned []) (thereP : es.contains p = true) (thereC : es.contains c = true)

include tidy thereP thereC

theorem get_appended (j : Nat) : ((es.detached c).attached p c).get j =
    { es.get j with
      children := (es.children j).filter (· != c) ++ if j = p then [c] else []
      parent := if j = c then some p else (es.get j).parent } := by
  have still :
      ((es.detached c).modify c fun e => { e with parent := some p }).contains p = true := by
    rw [Pool.contains_modify, contains_detached, thereP]
  unfold attached
  rw [get_modify still, get_modify ((contains_detached ..).trans thereC),
    get_modify ((contains_detached ..).trans thereC), tidy.get_detached, tidy.get_detached,
    tidy.get_detached]
  by_cases first : j = p
  · subst first
    by_cases second : j = c
    · subst second
      simp
    · simp [second]
  · by_cases second : j = c
    · subst second
      simp [first]
    · simp [first, second]

theorem children_appended (j : Nat) : ((es.detached c).attached p c).children j =
    (es.children j).filter (· != c) ++ if j = p then [c] else [] := by
  unfold Elements.children
  rw [tidy.get_appended thereP thereC]
  rfl

theorem above_appended (e j : Nat) : ((es.detached c).attached p c).Above e j ↔
    if j = c then e = p else es.Above e j := by
  have there : ((es.detached c).attached p c).contains e = es.contains e := by
    unfold attached
    rw [Pool.contains_modify, Pool.contains_modify, contains_detached]
  rw [above_iff, above_iff, tidy.get_appended thereP thereC, there]
  by_cases same : j = c
  · simp only [same, ↓reduceIte, Option.some.injEq]
    exact ⟨fun now => now.1.symm, fun now => ⟨now.symm, now ▸ thereP⟩⟩
  · simp only [same, ↓reduceIte]

/-- A child that is not above its new parent closes no circle. -/
theorem grounded_appended (apart : ¬ es.Reaches c p) :
    WellFounded ((es.detached c).attached p c).Above := by
  have above := tidy.above_appended thereP thereC
  -- Whatever is not below the child has the ancestors that it had.
  have outside : ∀ j, ¬ es.Reaches c j → Acc ((es.detached c).attached p c).Above j := by
    intro j
    induction j using tidy.grounded.induction with
    | _ j ih =>
      intro other
      refine .intro j fun e now => ?_
      have notChild : j ≠ c := fun same => other (same ▸ .refl)
      rw [above, if_neg notChild] at now
      exact ih e now fun reaches => other (reaches.tail now)
  refine ⟨fun j => ?_⟩
  induction j using tidy.grounded.induction with
  | _ j ih =>
    refine .intro j fun e now => ?_
    rw [above] at now
    split at now
    · rw [now]
      exact outside p apart
    · exact ih e now

theorem append (apart : ¬ es.Reaches c p) : Tidy ((es.detached c).attached p c) owned [] where
  count := by
    intro j
    have held := tidy.holders_detached thereC j
    have present : (es.detached c).contains c = true := (contains_detached ..).trans thereC
    have still :
        ((es.detached c).modify c fun e => { e with parent := some p }).contains p = true := by
      rw [Pool.contains_modify, contains_detached, thereP]
    have named := mentions_modify present (fun e => { e with parent := some p }) j
    have listed := mentions_modify still (fun e => { e with children := e.children ++ [c] }) j
    change _ = _ + ((Elements.children _ p) ++ [c]).count j at listed
    rw [List.count_append, List.count_singleton] at listed
    change _ = _ + ((es.detached c).children c).count j at named
    simp only [beq_iff_eq] at listed
    unfold attached
    rw [Pool.holders_modify, Pool.holders_modify]
    simp only [List.count_nil]
    omega
  once := by
    intro e
    rw [tidy.children_appended thereP thereC]
    have rest := (tidy.once e).filter (· != c)
    split
    · refine rest.append (List.pairwise_singleton _ _) fun d left right => ?_
      exact bne_iff_ne.1 (List.mem_filter.1 left).2 (List.mem_singleton.1 right)
    · rwa [List.append_nil]
  linked := by
    intro e j
    rw [tidy.children_appended thereP thereC, tidy.above_appended thereP thereC,
      List.mem_append, List.mem_filter, tidy.linked]
    by_cases same : j = c
    · subst same
      by_cases here : e = p <;> simp [here]
    · by_cases here : e = p <;> simp [here, same]
  grounded := tidy.grounded_appended thereP thereC apart
  named := by
    intro j e named
    have size : ((es.detached c).attached p c).size = es.size := by
      unfold attached
      rw [Pool.size_modify, Pool.size_modify, size_detached]
    rw [size]
    rw [tidy.get_appended thereP thereC] at named
    simp only at named
    split at named
    · cases named
      exact Pool.lt_size_of_contains thereP
    · exact tidy.named j e named

end Appending

end Tidy

end GuestBridge.Elements

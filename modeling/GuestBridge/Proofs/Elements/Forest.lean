import GuestBridge.Host.Page
import GuestBridge.Proofs.Elements.Changes
import GuestBridge.Proofs.Promises.Jobs
/-!
Callers that make elements, move them, replace their content and drop them again, in any order. The
elements are a forest at any time, so that every walk through them ends.
-/

set_option autoImplicit false

namespace GuestBridge

namespace Elements

/-- The links agree with each other, nothing is above itself, and no walk upwards or downwards goes
on for ever. Each walk does at an element what there is to be done there, and goes on. -/
structure Forest (es : Elements) : Prop where
  once : ∀ e, (es.children e).Nodup
  linked : ∀ e c, c ∈ es.children e ↔ es.parent? c = some e
  acyclic : ∀ e, ¬ Relation.TransGen es.Above e e
  upwards : WellFounded es.Above
  downwards : WellFounded fun c e => c ∈ es.children e
  ancestry : ∀ e, es.contains e = true →
    es.ancestry e = e :: ((es.parent? e).map es.ancestry).getD []
  textContent : ∀ e, es.contains e = true →
    es.textContent e = (es.get e).text ++ String.join ((es.children e).map es.textContent)
  findById : ∀ e, es.contains e = true → ∀ id,
    es.findById e id = if (es.get e).id = id then some e
      else (es.children e).findSome? fun c => es.findById c id

variable {es : Elements} {owned : Nat → Nat} {going : List Nat}

/-- From parent to child the way up gets longer, and it cannot get longer than all elements. -/
theorem Tidy.downwards (tidy : Tidy es owned going) :
    WellFounded fun c e => c ∈ es.children e := by
  refine Subrelation.wf (fun {c e} child => ?_)
    (measure fun e => es.size - (es.ancestry e).length).wf
  have below := tidy.there child
  have longer := length_ancestry_of_above tidy.grounded below ((tidy.linked e c).1 child)
  have most := length_ancestryWithin_le tidy.grounded below es.size
  change es.size - (es.ancestry c).length < es.size - (es.ancestry e).length
  change (es.ancestry c).length ≤ es.size at most
  omega

theorem Tidy.forest (tidy : Tidy es owned going) : es.Forest where
  once := tidy.once
  linked := tidy.linked
  acyclic := not_above_itself tidy.grounded
  upwards := tidy.grounded
  downwards := tidy.downwards
  ancestry _ there := ancestry_eq tidy.grounded there
  textContent _ there := tidy.textContent_eq there
  findById _ there := tidy.findById_eq there

/-- A job that lets go of an element: with its last holder it goes away, and then it lets go of its
children. -/
theorem Tidy.doJob {r : Realm} {i : Nat} (tidy : Tidy r.elements owned (i :: going)) :
    ∃ left, (r.doJob (.letGo (.element i))).2 = left.map (.letGo <| .element ·) ∧
      left ⊆ r.elements.children i ∧
      Tidy (r.doJob (.letGo (.element i))).1.elements owned (left ++ going) := by
  obtain ⟨h, found⟩ := Option.isSome_iff_exists.1 (tidy.there_of_going (List.mem_cons_self ..))
  have gone := Pool.release_fst r.elements i
  rw [found, Option.bind_some] at gone
  simp only [Realm.doJob, gone]
  by_cases last : h.holders ≤ 1
  · refine ⟨r.elements.children i, ?_, fun _ child => child, tidy.release_last found last⟩
    rw [if_pos last, children, get_of_get? (Pool.get?_of_held? found)]
    rfl
  · refine ⟨[], ?_, List.nil_subset _, tidy.release_shared found (Nat.lt_of_not_le last)⟩
    rw [if_neg last]
    rfl

/-- A caller gives up what a job is to let go of. -/
theorem Tidy.owe (tidy : Tidy es owned going) {e : Nat} (mine : 0 < owned e) :
    Tidy es (fun c => owned c - if e = c then 1 else 0) (e :: going) := by
  refine ⟨fun c => ?_, tidy.once, tidy.linked, tidy.grounded, tidy.named⟩
  have before := tidy.count c
  rw [List.count_cons]
  simp only [beq_iff_eq]
  by_cases same : e = c
  · subst same
    rw [if_pos rfl]
    omega
  · rw [if_neg same]
    exact before

theorem Tidy.run {r : Realm} (tidy : Tidy r.elements owned going) :
    Tidy (r.run (going.map (.letGo <| .element ·))).elements owned [] := by
  have whole := Realm.run_induction
    (P := fun r jobs => ∃ going, jobs = going.map (.letGo <| .element ·) ∧
      Tidy r.elements owned going)
    (fun r job rest before => by
      obtain ⟨going, same, tidy⟩ := before
      cases going with
      | nil => cases same
      | cons i going =>
        obtain ⟨rfl, rfl⟩ := List.cons.inj same
        obtain ⟨left, jobs, -, after⟩ := tidy.doJob
        exact ⟨left ++ going, by rw [jobs, List.map_append], after⟩)
    ⟨going, rfl, tidy⟩
  obtain ⟨left, nothing, after⟩ := whole
  rwa [List.map_eq_nil_iff.1 nothing.symm] at after

end Elements

/-- What callers may do with elements. An operation on an element that is gone is none. -/
inductive ElementOp
  | new (tag : String)
  | append (parent child : Nat)
  | setText (element : Nat) (text : String)
  | setId (element : Nat) (id : String)
  /-- Holds the element once more. -/
  | keep (element : Nat)
  | letGo (element : Nat)

/-- A realm, and how often callers hold each of its elements. -/
structure Grove where
  realm : Realm
  owned : Nat → Nat

namespace Grove

def elements (g : Grove) : Elements := g.realm.elements

/-- No elements yet. -/
def start (realm : Realm) : Grove := ⟨{ realm with elements := .empty }, fun _ => 0⟩

def step (g : Grove) : ElementOp → Grove
  | .new tag =>
    let (e, realm) := g.realm.newElement tag
    ⟨realm, fun c => g.owned c + if e = c then 1 else 0⟩
  | .append p c =>
    if g.elements.contains p ∧ g.elements.contains c then
      match g.elements.append p c with
      | .ok elements => { g with realm := { g.realm with elements := elements } }
      | .error _ => g
    else g
  | .setText e text =>
    if g.elements.contains e then { g with realm := Host.Page.replaceContent g.realm e text } else g
  | .setId e id =>
    if g.elements.contains e then
      { g with realm := { g.realm with elements := g.elements.setId e id } }
    else g
  | .keep e =>
    if g.elements.contains e then
      ⟨g.realm.hold (.element e), fun c => g.owned c + if e = c then 1 else 0⟩
    else g
  | .letGo e =>
    if 0 < g.owned e then
      ⟨g.realm.letGo (.element e), fun c => g.owned c - if e = c then 1 else 0⟩
    else g

def run (g : Grove) (ops : List ElementOp) : Grove := ops.foldl step g

def Tidy (g : Grove) : Prop := g.elements.Tidy g.owned []

variable {g : Grove}

theorem start_tidy (realm : Realm) : (start realm).Tidy := Elements.empty_tidy

theorem Tidy.step (tidy : g.Tidy) (op : ElementOp) : (g.step op).Tidy := by
  cases op with
  | new tag => exact Elements.Tidy.create tidy tag
  | append p c =>
    simp only [Grove.step]
    split
    · next there =>
      rw [Elements.append_eq]
      by_cases inside : c ∈ g.elements.ancestry p
      · rw [if_pos inside]
        exact tidy
      · rw [if_neg inside]
        rw [Elements.mem_ancestry tidy.grounded there.1] at inside
        exact Elements.Tidy.append tidy there.1 there.2 inside
    · exact tidy
  | setText e text =>
    simp only [Grove.step]
    split
    · next there =>
      have emptied := Elements.Tidy.setText tidy there text
      exact Elements.Tidy.run (r := { g.realm with elements := (g.elements.setText e text).1 })
        emptied
    · exact tidy
  | setId e id =>
    simp only [Grove.step]
    split
    · next there => exact Elements.Tidy.setId tidy there id
    · exact tidy
  | keep e =>
    simp only [Grove.step]
    split
    · next there => exact Elements.Tidy.keep tidy there
    · exact tidy
  | letGo e =>
    simp only [Grove.step]
    split
    · next mine =>
      exact Elements.Tidy.run (Elements.Tidy.owe tidy mine)
    · exact tidy

theorem Tidy.run (tidy : g.Tidy) (ops : List ElementOp) : (g.run ops).Tidy := by
  induction ops generalizing g with
  | nil => exact tidy
  | cons op rest ih => exact ih (tidy.step op)

/-- A child is moved to the end of the children of its new parent, unless it contains that one. -/
structure Appended (before after : Grove) (p c : Nat) : Prop where
  refused : before.elements.Reaches c p → after = before
  moved : before.elements.contains p = true → before.elements.contains c = true →
    ¬ before.elements.Reaches c p → ∀ e, after.elements.children e =
      (before.elements.children e).filter (· != c) ++ if e = p then [c] else []

theorem Tidy.appended (tidy : g.Tidy) (p c : Nat) : g.Appended (g.step (.append p c)) p c where
  refused reaches := by
    simp only [Grove.step]
    split
    · next there =>
      rw [Elements.append_eq, if_pos ((Elements.mem_ancestry tidy.grounded there.1).2 reaches)]
    · rfl
  moved thereP thereC apart e := by
    rw [← Elements.mem_ancestry tidy.grounded thereP] at apart
    simp only [Grove.step, thereP, thereC, and_self, ↓reduceIte, Elements.append_eq, apart]
    exact Elements.Tidy.children_appended tidy thereP thereC e

/-- After any operations, the elements are a forest. What an element may be appended to is decided
by who is above whom, and the child is then in its new place only. -/
theorem elements_form_forest (realm : Realm) (ops : List ElementOp) :
    ((start realm).run ops).elements.Forest ∧
      ∀ p c, ((start realm).run ops).Appended (((start realm).run ops).step (.append p c)) p c := by
  have tidy := (start_tidy realm).run ops
  exact ⟨Elements.Tidy.forest tidy, tidy.appended⟩

end Grove

end GuestBridge

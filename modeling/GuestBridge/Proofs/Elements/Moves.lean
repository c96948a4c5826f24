import GuestBridge.Proofs.Elements.Forest
/-!
One element moved to another parent, seen from every element. Whatever is above the new parent may
not go below it; any other element comes with all that is below it, and only two lists of children
change.
-/

set_option autoImplicit false

namespace GuestBridge

namespace Elements

variable {es : Elements} {owned : Nat → Nat} {c e p : Nat}

/-- `c` with all below it has become the last child of `p`, and nothing else has changed. -/
structure Moved (before after : Elements) (p c : Nat) : Prop where
  parent : after.parent? c = some p
  last : after.children p = (before.children p).filter (· != c) ++ [c]
  left : ∀ q, before.parent? c = some q → q ≠ p →
    after.children q = (before.children q).filter (· != c)
  children : ∀ e, e ≠ p → before.parent? c ≠ some e → after.children e = before.children e
  parents : ∀ e, e ≠ c → after.parent? e = before.parent? e
  own : ∀ e, (after.get e).tag = (before.get e).tag ∧ (after.get e).id = (before.get e).id ∧
    (after.get e).text = (before.get e).text
  there : ∀ e, after.contains e = before.contains e
  below : ∀ e, before.Reaches c e → after.children e = before.children e
  preorder : after.preorder c = before.preorder c

theorem contains_appended (es : Elements) (p c e : Nat) :
    ((es.detached c).attached p c).contains e = es.contains e := by
  unfold attached
  rw [Pool.contains_modify, Pool.contains_modify, contains_detached]

theorem size_appended (es : Elements) (p c : Nat) :
    ((es.detached c).attached p c).size = es.size := by
  unfold attached
  rw [Pool.size_modify, Pool.size_modify, size_detached]

/-- A walk downwards depends on no other elements than those it comes by. -/
theorem preorderWithin_congr {es' : Elements} {n : Nat}
    (same : ∀ d ∈ es.preorderWithin n e, es'.children d = es.children d) :
    es'.preorderWithin n e = es.preorderWithin n e := by
  induction n generalizing e with
  | zero => rfl
  | succ n ih =>
    rw [Tidy.preorderWithin_step] at same
    rw [Tidy.preorderWithin_step, Tidy.preorderWithin_step, same e (List.mem_cons_self ..)]
    refine congrArg (e :: ·) (List.flatMap_congr fun d child => ih fun i inside => same i ?_)
    exact List.mem_cons_of_mem _ (List.mem_flatMap.2 ⟨d, child, inside⟩)

theorem Moved.hold {before after : Elements} (moved : Moved before after p c) (i : Nat) :
    Moved before (after.hold i) p c := by
  have get := get_hold after i
  have children : ∀ e, Elements.children (after.hold i) e = after.children e := fun e =>
    congrArg Element.children (get e)
  have parent : ∀ e, Elements.parent? (after.hold i) e = after.parent? e := by
    intro e
    have there : Pool.contains (after.hold i) = after.contains :=
      funext fun j => Pool.contains_hold ..
    unfold parent?
    rw [get, there]
  constructor
  case parent => rw [parent, moved.parent]
  case last => rw [children, moved.last]
  case left => exact fun q former other => (children q).trans (moved.left q former other)
  case children => exact fun e other elsewhere =>
    (children e).trans (moved.children e other elsewhere)
  case parents => exact fun e other => (parent e).trans (moved.parents e other)
  case own => exact fun e => (get e).symm ▸ moved.own e
  case there => exact fun e => (Pool.contains_hold ..).trans (moved.there e)
  case below => exact fun e reached => (children e).trans (moved.below e reached)
  case preorder =>
    rw [← moved.preorder]
    unfold Elements.preorder
    rw [Pool.size_hold]
    exact preorderWithin_congr fun d _ => children d

namespace Tidy

variable (tidy : Tidy es owned [])

include tidy

theorem reaches_of_mem_preorderWithin {n d : Nat} (inside : d ∈ es.preorderWithin n e) :
    es.Reaches e d := by
  induction n generalizing e with
  | zero => exact absurd inside List.not_mem_nil
  | succ n ih =>
    rw [Tidy.preorderWithin_step] at inside
    rcases List.mem_cons.1 inside with same | later
    · exact same ▸ .refl
    · obtain ⟨i, child, listed⟩ := List.mem_flatMap.1 later
      exact .head ((tidy.linked e i).1 child) (ih listed)

/-- Neither the new parent nor the former one is below the child. -/
theorem children_below (thereP : es.contains p = true) (thereC : es.contains c = true)
    (apart : ¬ es.Reaches c p) (below : es.Reaches c e) :
    ((es.detached c).attached p c).children e = es.children e := by
  have other : e ≠ p := fun same => apart (same ▸ below)
  have unlisted : c ∉ es.children e := fun listed =>
    not_above_itself tidy.grounded c (.tail' below ((tidy.linked e c).1 listed))
  rw [tidy.children_appended thereP thereC, if_neg other, List.append_nil]
  exact List.filter_eq_self.2 fun d child => bne_iff_ne.2 fun same => unlisted (same ▸ child)

theorem moved (thereP : es.contains p = true) (thereC : es.contains c = true)
    (apart : ¬ es.Reaches c p) : Moved es ((es.detached c).attached p c) p c := by
  have children := tidy.children_appended thereP thereC
  have get := tidy.get_appended thereP thereC
  have above := tidy.above_appended thereP thereC
  constructor
  case parent => exact (above p c).2 (by rw [if_pos rfl])
  case last => rw [children, if_pos rfl]
  case left =>
    intro q _ other
    rw [children, if_neg other, List.append_nil]
  case children =>
    intro e other elsewhere
    rw [children, if_neg other, List.append_nil]
    refine List.filter_eq_self.2 fun d child => bne_iff_ne.2 fun same => elsewhere ?_
    exact (tidy.linked e c).1 (same ▸ child)
  case parents =>
    intro e other
    refine Option.ext fun q => ?_
    have named := above q e
    rwa [if_neg other] at named
  case own =>
    intro e
    rw [get]
    exact ⟨rfl, rfl, rfl⟩
  case there => exact contains_appended es p c
  case below => exact fun e => tidy.children_below thereP thereC apart
  case preorder =>
    unfold Elements.preorder
    rw [size_appended]
    exact preorderWithin_congr fun d listed =>
      tidy.children_below thereP thereC apart (tidy.reaches_of_mem_preorderWithin listed)

end Tidy

end Elements

/-- What appending a child comes to as a host function: a failure leaves the host as it was. -/
theorem Host.Page.perform_appendChild (host : Host) (p c : Nat) :
    (appendChild [.element p, .element c]).run.run host =
      match host.realm.elements.append p c with
      | .ok elements =>
        (.ok (.element c), { host with realm := { host.realm with elements := elements.hold c } })
      | .error failure => (.error failure, host) := by
  have begun : (appendChild [.element p, .element c]).run.run host =
      ((match host.realm.elements.append p c with
        | .ok elements => do
          HostCall.changeRealm fun r => { r with elements := elements }
          HostCall.sharing (.element c)
        | .error failure => throw failure : HostCall Value).run.run host) := rfl
  rw [begun]
  cases host.realm.elements.append p c <;> rfl

namespace Grove

open Elements Host.Page

def Reachable (es : Elements) : Prop :=
  ∃ realm ops, ((start realm).run ops).elements = es

/-- In any forest that callers have made, a child is refused exactly when it is the new parent or
above it, and then everything stays as it was. Any other child becomes the last one of the new
parent, together with all below it, and nothing else changes. -/
theorem append_moves_one_subtree {es : Elements} (reachable : Reachable es) {p c : Nat}
    (thereP : es.contains p = true) (thereC : es.contains c = true) :
    (es.append p c =
        .error ⟨"HierarchyRequestError", "The new child element contains the parent."⟩ ↔
      es.Reaches c p) ∧
    (¬ es.Reaches c p → ∃ after, es.append p c = .ok after ∧ Moved es after p c) ∧
    ∀ host : Host, host.realm.elements = es →
      (es.Reaches c p →
        (appendChild [.element p, .element c]).run.run host =
          (.error ⟨"HierarchyRequestError", "The new child element contains the parent."⟩, host)) ∧
      (¬ es.Reaches c p →
        ∃ after, (appendChild [.element p, .element c]).run.run host = (.ok (.element c), after) ∧
          Moved es after.realm.elements p c) := by
  obtain ⟨realm, ops, rfl⟩ := reachable
  have tidy : ((start realm).run ops).elements.Tidy _ [] := (start_tidy realm).run ops
  generalize ((start realm).run ops).elements = es at tidy thereP thereC ⊢
  have refused : es.Reaches c p → es.append p c = .error containsParent := fun reaches => by
    rw [append_eq, if_pos ((mem_ancestry tidy.grounded thereP).2 reaches)]
  have accepted : ¬ es.Reaches c p → es.append p c = .ok ((es.detached c).attached p c) := by
    intro apart
    rw [append_eq, if_neg fun inside => apart ((mem_ancestry tidy.grounded thereP).1 inside)]
  have moved := tidy.moved thereP thereC
  refine ⟨⟨fun failed => ?_, refused⟩, fun apart => ⟨_, accepted apart, moved apart⟩, ?_⟩
  · by_contra apart
    rw [accepted apart] at failed
    cases failed
  · rintro host rfl
    refine ⟨fun reaches => ?_, fun apart => ?_⟩
    · rw [perform_appendChild, refused reaches]
      rfl
    · rw [perform_appendChild, accepted apart]
      exact ⟨_, rfl, (moved apart).hold c⟩

/-- A list of two entries, one of them with something in it, and an empty list. -/
def lists : List ElementOp :=
  [.new "ul", .new "li", .new "li", .new "b", .new "ol", .append 0 1, .append 0 2, .append 1 3]

/-- An entry with something in it goes from the front of one list to another list. -/
theorem append_moves_one_subtree_lists :
    let es := ((start .empty).run lists).elements
    Reachable es ∧ es.contains 4 = true ∧ es.contains 1 = true ∧
      ∃ after, es.append 4 1 = .ok after ∧ Moved es after 4 1 := by
  intro es
  have reachable : Reachable es := ⟨.empty, lists, rfl⟩
  have thereP : es.contains 4 = true := by decide +kernel
  have thereC : es.contains 1 = true := by decide +kernel
  obtain ⟨refused, moved, -⟩ := append_moves_one_subtree reachable thereP thereC
  have accepted : es.append 4 1 ≠
      .error ⟨"HierarchyRequestError", "The new child element contains the parent."⟩ := by
    decide +kernel
  exact ⟨reachable, thereP, thereC, moved fun reaches => accepted (refused.2 reaches)⟩

end Grove

end GuestBridge

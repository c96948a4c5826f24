import GuestBridge.Fault
import GuestBridge.Pool
/-!
The element tree. An element holds its children and only names its parent, so a parent that nothing
else holds goes away and leaves its children without one. Tree walks are bounded by the number of
elements there ever were, which no path through a forest exceeds.
-/

set_option autoImplicit false

namespace GuestBridge

structure Element where
  tag : String
  id : String
  /-- The element's own text, before that of its children. -/
  text : String
  children : List Nat
  parent : Option Nat
  deriving DecidableEq, Repr, Inhabited

abbrev Elements := Pool Element

namespace Elements

def get (es : Elements) (i : Nat) : Element := (es.get? i).getD default

/-- Tags are kept in upper case; only ASCII letters have one here. -/
def create (es : Elements) (tag : String) : Nat × Elements :=
  es.add ⟨tag.map Char.toUpper, "", "", [], none⟩ 1

/-- The parent, if it is still there. -/
def parent? (es : Elements) (i : Nat) : Option Nat := (es.get i).parent.filter es.contains

/-- The element and its descendants in preorder. -/
def preorderWithin (es : Elements) : Nat → Nat → List Nat
  | 0, _ => []
  | depth + 1, i => i :: (es.get i).children.flatMap (es.preorderWithin depth)

def preorder (es : Elements) (i : Nat) : List Nat := es.preorderWithin es.size i

def textContent (es : Elements) (i : Nat) : String :=
  String.join ((es.preorder i).map fun j => (es.get j).text)

def findById (es : Elements) (root : Nat) (id : String) : Option Nat :=
  (es.preorder root).find? fun j => (es.get j).id == id

def ancestryWithin (es : Elements) : Nat → Nat → List Nat
  | 0, _ => []
  | depth + 1, i => i :: ((es.parent? i).map (es.ancestryWithin depth)).getD []

def ancestry (es : Elements) (i : Nat) : List Nat := es.ancestryWithin es.size i

def setId (es : Elements) (i : Nat) (id : String) : Elements :=
  es.modify i fun e => { e with id := id }

/-- Replaces all content by a text. The second result lists the former children, which the element
holds no longer. -/
def setText (es : Elements) (i : Nat) (text : String) : Elements × List Nat :=
  let children := (es.get i).children
  let orphaned := children.foldl (fun es c => es.modify c fun e => { e with parent := none }) es
  (orphaned.modify i fun e => { e with text := text, children := [] }, children)

def containsParent : Failure :=
  ⟨"HierarchyRequestError", "The new child element contains the parent."⟩

/-- Moves `child` with all below it to the end of the children of `parent`. -/
def append (es : Elements) (parent child : Nat) : Except Failure Elements :=
  if (es.ancestry parent).contains child then .error containsParent
  else
    let es := match es.parent? child with
      | some old => es.modify old fun e => { e with children := e.children.filter (· != child) }
      | none => es.hold child
    let es := es.modify child fun e => { e with parent := some parent }
    .ok (es.modify parent fun e => { e with children := e.children ++ [child] })

end Elements

end GuestBridge

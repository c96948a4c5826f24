import GuestBridge.Capability
import GuestBridge.Intrinsic
import GuestBridge.Surface
/-!
Binding the imports of a module: to the fixed operations of the bridge, or to capabilities. A
capability that is imported more than once is bound once.
-/

set_option autoImplicit false

namespace GuestBridge

inductive Binding
  | intrinsic (i : Intrinsic)
  /-- A place in the list of linked capabilities. -/
  | capability (index : Nat)
  deriving DecidableEq, Repr

structure Linked where
  /-- Every imported capability once, in the order of first import. -/
  capabilities : List Capability
  bindings : List Binding

namespace Linked

def empty : Linked := ⟨[], []⟩

def bind (l : Linked) (b : Binding) : Linked := { l with bindings := l.bindings ++ [b] }

def bindCapability (l : Linked) (c : Capability) : Linked :=
  match l.capabilities.findIdx? fun d => d.name == c.name with
  | some index => l.bind (.capability index)
  | none =>
    { l with capabilities := l.capabilities ++ [c] }.bind (.capability l.capabilities.length)

end Linked

/-- Binds one import, or says what is wrong with it. The machine checks the signatures of the fixed
operations later. -/
def linkImport (registry : Registry) (names : ImportNames) (l : Linked) (i : ImportDecl) :
    Except UnresolvedImport Linked :=
  if i.kind ≠ .func then .error (.notFunction i.space i.name)
  else if i.space = names.intrinsics then
    match Intrinsic.ofName? i.name with
    | some op => .ok (l.bind (.intrinsic op))
    | none => .error (.notFound i.space i.name)
  else if i.space ≠ names.host then .error (.notFound i.space i.name)
  else
    match registry.get? i.name with
    | none => .error (.notFound i.space i.name)
    | some c =>
      if i.signature = some c.signature then .ok (l.bindCapability c)
      else .error (.signature i.space i.name (i.signature.getD ⟨[], []⟩) c.signature)

def link (registry : Registry) (names : ImportNames) (s : Surface) :
    Except UnresolvedImport Linked :=
  s.imports.foldlM (linkImport registry names) .empty

def intrinsicsTyped (s : Surface) (names : ImportNames) : Bool :=
  (s.importsFrom names.intrinsics).all fun i =>
    match Intrinsic.ofName? i.name with
    | some op => i.signature == some op.signature
    | none => true

end GuestBridge

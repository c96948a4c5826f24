import GuestBridge.Realm
/-!
What a value looks like at one moment, with everything it refers to written out.
-/

set_option autoImplicit false

namespace GuestBridge

inductive Snapshot
  /-- A value that refers to nothing. -/
  | plain (v : Value)
  | function (number references : Nat) (inert : Bool)
  /-- With the text of the whole subtree, and the tags of the children and the parent. -/
  | element (tag id text : String) (children : List String) (parent : Option String)
  | pending
  | fulfilled (result : Snapshot)
  | rejected (failure : Failure)
  deriving DecidableEq, Repr

namespace Realm

def elementSnapshot (r : Realm) (e : Nat) : Snapshot :=
  let node := r.elements.get e
  .element node.tag node.id (r.elements.textContent e)
    (node.children.map fun c => (r.elements.get c).tag)
    ((r.elements.parent? e).map fun p => (r.elements.get p).tag)

/-- A promise that a promise is fulfilled with is the older of the two. -/
def promiseSnapshot (r : Realm) (p : Nat) : Snapshot :=
  match r.promises.get? p with
  | some (.settled (.rejected f)) => .rejected f
  | some (.settled (.fulfilled v)) =>
    match v with
    | .promise q => if q < p then .fulfilled (r.promiseSnapshot q) else .pending
    | .function i =>
      let k := r.closures.get i
      .fulfilled (.function k.number k.references k.inert)
    | .element e => .fulfilled (r.elementSnapshot e)
    | v => .fulfilled (.plain v)
  | _ => .pending
termination_by p

def snapshot (r : Realm) : Value → Snapshot
  | .promise p => r.promiseSnapshot p
  | .function i =>
    let k := r.closures.get i
    .function k.number k.references k.inert
  | .element e => r.elementSnapshot e
  | v => .plain v

end Realm

end GuestBridge

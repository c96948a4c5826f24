/-!
Core signatures: the machine types that a guest function takes and yields, and their text.
-/

set_option autoImplicit false

namespace GuestBridge

inductive CoreType
  | i32
  | i64
  | f32
  | f64
  | v128
  | funcref
  | externref
  deriving DecidableEq, Repr, Inhabited

/-- Reference types share one name. -/
def CoreType.text : CoreType → String
  | .i32 => "i32"
  | .i64 => "i64"
  | .f32 => "f32"
  | .f64 => "f64"
  | .v128 => "v128"
  | .funcref | .externref => "ref"

def CoreType.isReference : CoreType → Bool
  | .funcref | .externref => true
  | _ => false

structure Signature where
  params : List CoreType
  results : List CoreType
  deriving DecidableEq, Repr, Inhabited

def Signature.text (s : Signature) : String :=
  let list (types : List CoreType) := ", ".intercalate (types.map CoreType.text)
  "(" ++ list s.params ++ ") -> (" ++ list s.results ++ ")"

end GuestBridge

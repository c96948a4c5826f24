import GuestBridge.Double.Shortest
import GuestBridge.Fault
import GuestBridge.Text.Quoted
/-!
Host values. Arrays, plain objects, adapters and errors carry the number they are told apart by;
functions, elements and promises are named by their place in the realm that owns them.
-/

set_option autoImplicit false

namespace GuestBridge

inductive Value
  | undefined
  | null
  | bool (b : Bool)
  | number (x : Double)
  | string (s : String)
  | bytes (identity : Nat) (data : List UInt8)
  | words (identity : Nat) (data : List UInt32)
  | object (identity : Nat) (className : String)
  | adapter (identity : Nat) (name : String)
  | error (identity : Nat) (failure : Failure)
  | function (closure : Nat)
  | element (element : Nat)
  | promise (promise : Nat)
  deriving DecidableEq, Repr, Inhabited

namespace Value

def isUndefined : Value → Bool
  | .undefined => true
  | _ => false

def isNull : Value → Bool
  | .null => true
  | _ => false

def isString : Value → Bool
  | .string _ => true
  | _ => false

def isFunction : Value → Bool
  | .function _ => true
  | _ => false

/-- Whether the value has an identity of its own: every kind that is not a primitive. -/
def isObject : Value → Bool
  | .undefined | .null | .bool _ | .number _ | .string _ => false
  | _ => true

def asString? : Value → Option String
  | .string s => some s
  | _ => none

def asNumber? : Value → Option Double
  | .number x => some x
  | _ => none

def asBool? : Value → Option Bool
  | .bool b => some b
  | _ => none

def asWords? : Value → Option (List UInt32)
  | .words _ data => some data
  | _ => none

def asFunction? : Value → Option Nat
  | .function closure => some closure
  | _ => none

def asElement? : Value → Option Nat
  | .element e => some e
  | _ => none

def asPromise? : Value → Option Nat
  | .promise p => some p
  | _ => none

/-- The name used in type errors; an error goes by its own name. -/
def typeName : Value → String
  | .undefined => "undefined"
  | .null => "null"
  | .bool _ => "boolean"
  | .number _ => "number"
  | .string _ => "string"
  | .bytes .. => "Uint8Array"
  | .words .. => "Uint32Array"
  | .object _ className => className
  | .adapter .. => "GPUAdapter"
  | .error _ failure => failure.name
  | .function _ => "function"
  | .element _ => "HTMLElement"
  | .promise _ => "Promise"

def debugText : Value → String
  | .bool b => if b then "true" else "false"
  | .number x => x.text
  | .string s => Text.quoted s
  | .bytes _ data => s!"Uint8Array({data.length})"
  | .words _ data => s!"Uint32Array({data.length})"
  | .function closure => s!"Function(closure {closure})"
  | .error _ failure => failure.text
  | v => v.typeName

/-- Primitives are the same when they are equal, numbers as numbers; all else when it is one and
the same thing. -/
def same : Value → Value → Bool
  | .undefined, .undefined => true
  | .null, .null => true
  | .bool a, .bool b => a == b
  | .number a, .number b => a.equals b
  | .string a, .string b => a == b
  | .bytes a _, .bytes b _ => a == b
  | .words a _, .words b _ => a == b
  | .object a _, .object b _ => a == b
  | .adapter a _, .adapter b _ => a == b
  | .error a _, .error b _ => a == b
  | .function a, .function b => a == b
  | .element a, .element b => a == b
  | .promise a, .promise b => a == b
  | _, _ => false

/-- The failure of an operation that wanted a value of another kind. -/
def notA (v : Value) (wanted : String) : Failure :=
  .typeError (v.typeName ++ " is not " ++ wanted)

end Value

end GuestBridge

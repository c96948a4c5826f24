import GuestBridge.Host
/-!
Host functions that a guest may import: how each parameter and the result cross the boundary, and
hence the core signature to import them with.
-/

set_option autoImplicit false

namespace GuestBridge

inductive ParamKind
  /-- A word, which the host sees as a signed number. -/
  | i32
  | f64
  /-- A word; zero is false. -/
  | bool
  /-- A handle, which stays the guest's. -/
  | handle
  /-- Pointer and length of text in guest memory. -/
  | text
  /-- Pointer and length of bytes in guest memory. -/
  | bytes
  /-- A word that is an index into a table of texts. -/
  | choice (table : List String)
  /-- Pointer and count of words in guest memory. -/
  | words
  deriving DecidableEq, Repr

inductive ResultKind
  | unit
  | i32
  | f64
  | bool
  /-- A fresh handle that the guest owns. -/
  | handle
  /-- Like a handle, but zero for `undefined` and for `null`. -/
  | optionalHandle
  /-- Text in guest memory; pointer and length go to a return pointer, the first parameter. -/
  | text
  /-- The index of a text in a table, or the size of the table if it is not there. -/
  | choice (table : List String)
  deriving DecidableEq, Repr

def tableText (table : List String) : String :=
  "Enum([" ++ ", ".intercalate (table.map Text.quoted) ++ "])"

namespace ParamKind

def coreTypes : ParamKind → List CoreType
  | .i32 | .bool | .handle | .choice _ => [.i32]
  | .f64 => [.f64]
  | .text | .bytes | .words => [.i32, .i32]

def debugText : ParamKind → String
  | .i32 => "I32"
  | .f64 => "F64"
  | .bool => "Bool"
  | .handle => "Handle"
  | .text => "Str"
  | .bytes => "Bytes"
  | .choice table => tableText table
  | .words => "U32Array"

end ParamKind

namespace ResultKind

def usesReturnPointer : ResultKind → Bool
  | .text => true
  | _ => false

def coreTypes : ResultKind → List CoreType
  | .unit | .text => []
  | .i32 | .bool | .handle | .optionalHandle | .choice _ => [.i32]
  | .f64 => [.f64]

def debugText : ResultKind → String
  | .unit => "Unit"
  | .i32 => "I32"
  | .f64 => "F64"
  | .bool => "Bool"
  | .handle => "Handle"
  | .optionalHandle => "OptionalHandle"
  | .text => "Str"
  | .choice table => tableText table

end ResultKind

structure Capability where
  name : String
  params : List ParamKind
  result : ResultKind
  /-- Whether a failure goes to the guest's exception slot instead of ending the guest's call. -/
  fallible : Bool
  call : List Value → HostCall Value

namespace Capability

def signature (c : Capability) : Signature where
  params := (if c.result.usesReturnPointer then [.i32] else []) ++ c.params.flatMap (·.coreTypes)
  results := c.result.coreTypes

def debugText (c : Capability) : String :=
  "Capability \x7b name: " ++ Text.quoted c.name ++ ", params: ["
    ++ ", ".intercalate (c.params.map (·.debugText)) ++ "], ret: " ++ c.result.debugText
    ++ ", fallible: " ++ (if c.fallible then "true" else "false") ++ " \x7d"

/-- A host function that is there to be declared and does nothing. -/
def idle (name : String) (params : List ParamKind) (result : ResultKind) (fallible : Bool) :
    Capability :=
  ⟨name, params, result, fallible, fun _ => return .undefined⟩

end Capability

/-- Capabilities by name; a later definition replaces an earlier one. -/
structure Registry where
  entries : List Capability

namespace Registry

def empty : Registry := ⟨[]⟩

def define (r : Registry) (c : Capability) : Registry :=
  ⟨r.entries.filter (fun d => d.name != c.name) ++ [c]⟩

def defineAll (r : Registry) (cs : List Capability) : Registry := cs.foldl define r

def get? (r : Registry) (name : String) : Option Capability :=
  r.entries.find? fun c => c.name == name

def contains (r : Registry) (name : String) : Bool := (r.get? name).isSome

/-- In ascending order of code points. -/
def names (r : Registry) : List String :=
  (r.entries.map (·.name)).mergeSort fun a b => a ≤ b

end Registry

end GuestBridge

import GuestBridge.Signature
/-!
The fixed operations that every guest may import.
-/

set_option autoImplicit false

namespace GuestBridge

inductive Intrinsic
  | stringNew
  | stringGet
  | bytesNew
  | bytesGet
  | numberNew
  | numberGet
  | boolGet
  | isUndefined
  | isNull
  | isObject
  | isString
  | isFunction
  | objectCloneRef
  | objectDropRef
  | debugString
  | errorNew
  | throw
  | closureNew
  | closureDrop
  | functionCall
  deriving DecidableEq, Repr

namespace Intrinsic

def all : List Intrinsic := [
  .stringNew, .stringGet, .bytesNew, .bytesGet, .numberNew, .numberGet, .boolGet, .isUndefined,
  .isNull, .isObject, .isString, .isFunction, .objectCloneRef, .objectDropRef, .debugString,
  .errorNew, .throw, .closureNew, .closureDrop, .functionCall]

/-- The name to import it by. -/
def name : Intrinsic → String
  | .stringNew => "string_new"
  | .stringGet => "string_get"
  | .bytesNew => "bytes_new"
  | .bytesGet => "bytes_get"
  | .numberNew => "number_new"
  | .numberGet => "number_get"
  | .boolGet => "bool_get"
  | .isUndefined => "is_undefined"
  | .isNull => "is_null"
  | .isObject => "is_object"
  | .isString => "is_string"
  | .isFunction => "is_function"
  | .objectCloneRef => "object_clone_ref"
  | .objectDropRef => "object_drop_ref"
  | .debugString => "debug_string"
  | .errorNew => "error_new"
  | .throw => "throw"
  | .closureNew => "closure_new"
  | .closureDrop => "cb_drop"
  | .functionCall => "function_call"

def ofName? (name : String) : Option Intrinsic := all.find? fun i => i.name == name

def signature : Intrinsic → Signature
  | .stringNew | .bytesNew | .errorNew | .functionCall => ⟨[.i32, .i32], [.i32]⟩
  | .stringGet | .bytesGet | .numberGet | .debugString | .throw => ⟨[.i32, .i32], []⟩
  | .numberNew => ⟨[.f64], [.i32]⟩
  | .objectDropRef => ⟨[.i32], []⟩
  | .closureNew => ⟨[.i32, .i32, .i32, .i32], [.i32]⟩
  | .boolGet | .isUndefined | .isNull | .isObject | .isString | .isFunction | .objectCloneRef
  | .closureDrop => ⟨[.i32], [.i32]⟩

end Intrinsic

end GuestBridge

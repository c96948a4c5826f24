import GuestBridge.Signature
/-!
What can go wrong between host and guest. A `Failure` is what a guest finds in its exception slot;
a `Fault` is what an operation of the bridge ends with, and `Fault.asFailure` says how a guest sees
it.
-/

set_option autoImplicit false

namespace GuestBridge

/-- A named failure; the message is carried unchanged to whoever observes it. -/
structure Failure where
  name : String
  message : String
  deriving DecidableEq, Repr, Inhabited

def Failure.text (f : Failure) : String := f.name ++ ": " ++ f.message

def Failure.general (message : String) : Failure := ⟨"Error", message⟩

def Failure.typeError (message : String) : Failure := ⟨"TypeError", message⟩

/-- Why a guest stopped in the middle of an instruction. -/
inductive Trap
  | unreachable
  | divideByZero
  | integerOverflow
  | memoryOutOfBounds
  | tableOutOfBounds
  deriving DecidableEq, Repr

def Trap.message : Trap → String
  | .unreachable => "wasm trap: wasm \x60unreachable\x60 instruction executed"
  | .divideByZero => "wasm trap: integer divide by zero"
  | .integerOverflow => "wasm trap: integer overflow"
  | .memoryOutOfBounds => "wasm trap: out of bounds memory access"
  | .tableOutOfBounds => "wasm trap: undefined element: out of bounds table access"

/-- Why a guest import has nothing to be bound to. -/
inductive UnresolvedImport
  | notFunction (space name : String)
  | notFound (space name : String)
  | signature (space name : String) (found expected : Signature)
  deriving DecidableEq, Repr

def UnresolvedImport.message : UnresolvedImport → String
  | .notFunction space name => "import '" ++ space ++ "::" ++ name ++ "' must be a function"
  | .notFound space name => "import '" ++ space ++ "::" ++ name ++ "' was not found"
  | .signature space name found expected =>
    "import '" ++ space ++ "::" ++ name ++ "' has signature " ++ found.text ++ ", expected "
      ++ expected.text

inductive Fault
  | decode (validUpTo length : Nat)
  | outOfBounds (offset length : UInt32) (size : Nat)
  | misaligned (offset align : UInt32)
  | lengthOverflow
  | host (failure : Failure)
  | deadHandle (handle : UInt32)
  | missingExport (name : String)
  | badTableEntry (index : UInt32)
  | guestThrow (message : String)
  | notInitialized
  | unresolved (cause : UnresolvedImport)
  | unknownExport (name : String)
  | trap (cause : Trap)
  /-- The machine that runs guests declined: wrong types, bytes that do not load, memory that
  cannot grow. -/
  | declined
  /-- A stand-in for a guest failed on purpose. -/
  | standIn (message : String)
  /-- The guest used up the calls or turns it was given. -/
  | exhausted
  deriving DecidableEq, Repr

namespace Fault

def message : Fault → String
  | .decode validUpTo length => s!"invalid utf-8 sequence at byte {validUpTo} of {length}"
  | .outOfBounds offset length size =>
    s!"access of {length} bytes at offset {offset} is out of bounds for memory of {size} bytes"
  | .misaligned offset align => s!"offset {offset} is not aligned to {align} bytes"
  | .lengthOverflow => "length does not fit in guest address space"
  | .host failure => failure.text
  | .deadHandle handle => s!"handle {handle} is not live"
  | .missingExport name => "guest module does not export '" ++ name ++ "'"
  | .badTableEntry index => s!"function table entry {index} is not a callable function"
  | .guestThrow message => "guest threw: " ++ message
  | .notInitialized => "bridge is not initialized"
  | .unresolved cause => cause.message
  | .unknownExport name => "export " ++ name ++ " not found"
  | .trap cause => cause.message
  | .declined => "the machine declined the request"
  | .standIn message => message
  | .exhausted => "the guest ran for too long"

/-- How a guest observes the fault: a host failure as it is, all else under a class of its kind. -/
def asFailure (fault : Fault) : Failure :=
  match fault with
  | .host failure => failure
  | .decode .. => ⟨"TypeError", fault.message⟩
  | .deadHandle _ => ⟨"ReferenceError", fault.message⟩
  | .outOfBounds .. | .misaligned .. => ⟨"RangeError", fault.message⟩
  | _ => ⟨"Error", fault.message⟩

end Fault

end GuestBridge

import GuestBridge.Bridge.Access
/-!
What happens when a guest calls a capability: core arguments become host values, the host function
runs, and its result becomes core results. A failure to convert an argument always goes to the
guest's exception slot, a failure of the host function only if the capability is fallible; the
guest then gets a sentinel for a result.
-/

set_option autoImplicit false

namespace GuestBridge.BridgeAction

variable {σ : Type}

/-- A host result that fits the result kind of its capability. -/
inductive Lowered
  | unit
  | word (w : UInt32)
  | double (x : Double)
  | handle (v : Value)
  /-- Without a text, pointer and length are zero. -/
  | text (s : Option String)
  deriving DecidableEq, Repr

namespace Lowered

def mismatch (v : Value) (wanted : String) : Failure :=
  .typeError ("host returned " ++ v.typeName ++ " where " ++ wanted ++ " was expected")

def ofBool (b : Bool) : Lowered := .word (if b then 1 else 0)

/-- Checks a host result against the result kind. Only `handle` keeps the value. -/
def check : ResultKind → Value → Except Failure Lowered
  | .unit, _ => .ok .unit
  | .i32, .number x => .ok (.word x.toInt32Word)
  | .i32, .bool b => .ok (ofBool b)
  | .f64, .number x => .ok (.double x)
  | .bool, .bool b => .ok (ofBool b)
  | .handle, v => .ok (.handle v)
  | .optionalHandle, .null => .ok (.handle .undefined)
  | .optionalHandle, v => .ok (.handle v)
  | .text, .string s => .ok (.text (some s))
  | .text, .undefined => .ok (.text none)
  | .text, .null => .ok (.text none)
  | .choice table, .string s =>
    .ok (.word (UInt32.ofNat ((table.findIdx? (· == s)).getD table.length)))
  | .i32, v => .error (mismatch v "a number")
  | .f64, v => .error (mismatch v "a number")
  | .bool, v => .error (mismatch v "a boolean")
  | .text, v => .error (mismatch v "a string")
  | .choice _, v => .error (mismatch v "a string")

/-- The result of a call whose failure is in the exception slot. -/
def sentinel : ResultKind → Lowered
  | .unit => .unit
  | .i32 | .bool | .choice _ => .word 0
  | .f64 => .double .zero
  | .handle | .optionalHandle => .handle .undefined
  | .text => .text none

def keepsValue : Lowered → Bool
  | .handle _ => true
  | _ => false

end Lowered

def takeWord : List Core → Except Fault (UInt32 × List Core)
  | .word w :: rest => .ok (w, rest)
  | _ => .error (.host (.typeError "expected an i32 argument"))

def takeDouble : List Core → Except Fault (Double × List Core)
  | .double x :: rest => .ok (x, rest)
  | _ => .error (.host (.typeError "expected an f64 argument"))

def liftArgument (kind : ParamKind) (args : List Core) : BridgeAction σ (Value × List Core) := do
  match kind with
  | .f64 =>
    let (x, rest) ← Action.conclude (takeDouble args)
    return (.number x, rest)
  | .i32 =>
    let (w, rest) ← Action.conclude (takeWord args)
    return (.number (Double.ofInt32Word w), rest)
  | .bool =>
    let (w, rest) ← Action.conclude (takeWord args)
    return (.bool (w != 0), rest)
  | .handle =>
    let (w, rest) ← Action.conclude (takeWord args)
    return (← tryPeek w, rest)
  | .choice table =>
    let (w, rest) ← Action.conclude (takeWord args)
    match table[w.toNat]? with
    | some s => return (.string s, rest)
    | none => throw (.host (.typeError s!"{w} is not a valid enum index"))
  | .text =>
    let (offset, rest) ← Action.conclude (takeWord args)
    let (length, rest) ← Action.conclude (takeWord rest)
    return (.string (← readText offset length), rest)
  | .bytes =>
    let (offset, rest) ← Action.conclude (takeWord args)
    let (length, rest) ← Action.conclude (takeWord rest)
    let data ← readBytes offset length
    return (.bytes (← inRealm (·.freshIdentity)) data, rest)
  | .words =>
    let (offset, rest) ← Action.conclude (takeWord args)
    let (count, rest) ← Action.conclude (takeWord rest)
    let data ← readWords offset count
    return (.words (← inRealm (·.freshIdentity)) data, rest)

/-- The host values of all parameters in order; the first that cannot be converted counts. They
are borrowed from the handle table or new. -/
def liftArguments : List ParamKind → List Core → BridgeAction σ (List Value)
  | [], _ => return []
  | kind :: kinds, args => do
    let (v, rest) ← liftArgument kind args
    return v :: (← liftArguments kinds rest)

def callHost (c : Capability) (args : List Value) : BridgeAction σ (Except Failure Value) := do
  let b ← get
  let (outcome, host) := (c.call args).run.run b.host
  set { b with host := host }
  return outcome

def lower (call : GuestCaller σ) (returnPointer : UInt32) :
    Lowered → BridgeAction σ (List Core)
  | .unit => return []
  | .word w => return [.word w]
  | .double x => return [.double x]
  | .handle v => return [.word (← alloc v)]
  | .text none => do
    writePair returnPointer 0 0
    return []
  | .text (some s) => do
    let (pointer, length) ← passText call s
    writePair returnPointer pointer length
    return []

/-- The host's outcome, checked against the result kind. A value that the guest does not get is
let go of. -/
def checkResult (kind : ResultKind) : Except Failure Value → BridgeAction σ (Except Failure Lowered)
  | .error failure => return .error failure
  | .ok v => do
    let checked := Lowered.check kind v
    unless checked.toOption.any Lowered.keepsValue do letGo v
    return checked

/-- A guest's call of the capability at a place in the list of linked ones. -/
def dispatch (call : GuestCaller σ) (index : Nat) (args : List Core) :
    BridgeAction σ (List Core) := do
  let some c := (← get).capabilities[index]? | throw .declined
  let _ ← bound
  let (returnPointer, args) ←
    if c.result.usesReturnPointer then Action.conclude (takeWord args) else pure (0, args)
  match ← Action.attempt (liftArguments c.params args) with
  | .error fault =>
    raise call fault.asFailure
    lower call returnPointer (.sentinel c.result)
  | .ok values =>
    match ← checkResult c.result (← callHost c values) with
    | .ok lowered => lower call returnPointer lowered
    | .error failure =>
      if c.fallible then
        raise call failure
        lower call returnPointer (.sentinel c.result)
      else throw (.host failure)

end GuestBridge.BridgeAction

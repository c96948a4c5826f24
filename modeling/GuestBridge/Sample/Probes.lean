import GuestBridge.Host.Defaults
/-!
Host functions that show how arguments and results cross the boundary: some fail on purpose, one
writes its arguments into the journal, and some answer what they were told to.
-/

set_option autoImplicit false

namespace GuestBridge.Sample

def modes : List String := ["clear", "load", "discard"]

def failWith (args : List Value) : HostCall Value :=
  throw (.general (((args.getD 0 .undefined).asString?).getD ""))

def journalArguments (args : List Value) : HostCall Value := do
  modify fun h =>
    { h with journal := h.journal.push (.values "args" (args.map h.realm.snapshot)) }
  return .undefined

/-- The type name of a value before a text. -/
def labelled (args : List Value) : HostCall Value :=
  return .string ((args.getD 0 .undefined).typeName ++ ":"
    ++ ((args.getD 1 .undefined).asString?).getD "")

/-- What the host function was told to answer; `undefined` until then. -/
def answer (_ : List Value) : HostCall Value := do
  match (← get).extensions.get? .answer with
  | some (.value v) => HostCall.sharing v
  | some (.failure f) => throw f
  | none => return .undefined

/-- Tells what to answer from now on; the value is held in place of the former one. -/
def setAnswer (new : Answer) (h : Host) : Host :=
  let (old?, extensions) := h.extensions.insert .answer new
  let realm := match old? with
    | some (.value old) => h.realm.letGo old
    | _ => h.realm
  { h with realm := realm, extensions := extensions }

def resultKinds : List (String × ResultKind) := [
  ("unit", .unit), ("i32", .i32), ("f64", .f64), ("bool", .bool), ("handle", .handle),
  ("opt", .optionalHandle), ("str", .text), ("enum", .choice modes)]

def probes : List Capability := [
  ⟨"host_fail", [.text], .unit, true, failWith⟩,
  ⟨"host_crash", [.text], .unit, false, failWith⟩,
  ⟨"args_all", [.i32, .f64, .bool, .handle, .text, .bytes, .choice modes, .words], .unit, false,
    journalArguments⟩,
  ⟨"mix", [.handle, .text], .text, true, labelled⟩,
  ⟨"arg_enum", [.choice modes], .choice modes, false, fun args => return args.getD 0 .undefined⟩]
  ++ resultKinds.map (fun (name, kind) => ⟨"ret_" ++ name, [], kind, false, answer⟩)
  ++ resultKinds.map (fun (name, kind) => ⟨"try_" ++ name, [], kind, true, answer⟩)

/-- The sample host with the probes. -/
def capabilities : List Capability := Host.defaults ++ probes

end GuestBridge.Sample

import GuestBridge.Linking
/-!
A look at a module before anything runs: for each import what it would be bound to, and all exports.
-/

set_option autoImplicit false

namespace GuestBridge

/-- What becomes of an import. -/
inductive ImportStatus
  | intrinsic
  | unknownIntrinsic
  | available
  /-- Available, and its failures go to the guest's exception slot. -/
  | fallible
  | expected (signature : Signature)
  | missing
  /-- From a module that nothing is imported from. -/
  | unresolvable
  deriving DecidableEq, Repr

namespace ImportStatus

def resolved : ImportStatus → Bool
  | .intrinsic | .available | .fallible => true
  | _ => false

def text : ImportStatus → String
  | .intrinsic => "intrinsic"
  | .unknownIntrinsic => "unknown intrinsic"
  | .available => "ok"
  | .fallible => "fallible"
  | .expected signature => "expected " ++ signature.text
  | .missing => "missing"
  | .unresolvable => "unresolvable module"

end ImportStatus

structure InspectedImport where
  space : String
  name : String
  signature : Option Signature
  status : ImportStatus
  deriving DecidableEq, Repr

def InspectedImport.text (i : InspectedImport) : String :=
  "  " ++ i.space ++ "::" ++ i.name ++ ((i.signature.map fun s => " " ++ s.text).getD "") ++ "  ["
    ++ i.status.text ++ "]"

def intrinsicStatus (i : ImportDecl) : ImportStatus :=
  if (Intrinsic.ofName? i.name).isSome then .intrinsic else .unknownIntrinsic

/-- The signature that an import is told with; one that is no function has none of its own. -/
def toldSignature (i : ImportDecl) : Signature := i.signature.getD ⟨[], []⟩

def hostStatus (registry : Registry) (i : ImportDecl) : ImportStatus :=
  match registry.get? i.name with
  | none => .missing
  | some c =>
    if c.signature = toldSignature i then if c.fallible then .fallible else .available
    else .expected c.signature

/-- The imports of a module: fixed operations first, then host functions, then all others. -/
def inspectImports (registry : Registry) (names : ImportNames) (s : Surface) :
    List InspectedImport :=
  (s.importsFrom names.intrinsics).map (fun i => ⟨i.space, i.name, none, intrinsicStatus i⟩)
    ++ (s.importsFrom names.host).map (fun i =>
      ⟨i.space, i.name, some (toldSignature i), hostStatus registry i⟩)
    ++ (s.imports.filter fun i => i.space != names.intrinsics && i.space != names.host).map
      fun i => ⟨i.space, i.name, none, .unresolvable⟩

def ExternKind.title : ExternKind → String
  | .func => "Func"
  | .table => "Table"
  | .memory => "Memory"
  | .global => "Global"
  | .tag => "Tag"

def ExportDecl.text (e : ExportDecl) : String :=
  "  " ++ e.name ++ " " ++ match e.signature with
    | some s => s.text
    | none => "(" ++ e.kind.title ++ ")"

/-- All there is to tell about a module, line by line. -/
def inspect (registry : Registry) (settings : Settings) (s : Surface) : List String :=
  ["imports:"] ++ (inspectImports registry settings.imports s).map (·.text)
    ++ ["exports:"] ++ s.sortedExports.map (·.text)
    ++ match s.checkExports settings.exports with
      | .ok _ => []
      | .error fault => ["error: " ++ fault.message]

end GuestBridge

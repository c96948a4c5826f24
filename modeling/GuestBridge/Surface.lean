import GuestBridge.Fault
import GuestBridge.Settings
/-!
The surface of a guest module: what it imports and what it exports, with the signatures of
functions.
-/

set_option autoImplicit false

namespace GuestBridge

inductive ExternKind
  | func
  | table
  | memory
  | global
  | tag
  deriving DecidableEq, Repr

def ExternKind.text : ExternKind → String
  | .func => "func"
  | .table => "table"
  | .memory => "memory"
  | .global => "global"
  | .tag => "tag"

structure ImportDecl where
  space : String
  name : String
  kind : ExternKind
  /-- Present for functions. -/
  signature : Option Signature
  deriving DecidableEq, Repr

structure ExportDecl where
  name : String
  kind : ExternKind
  /-- Present for functions. -/
  signature : Option Signature
  deriving DecidableEq, Repr

structure Surface where
  /-- In the order of declaration. -/
  imports : List ImportDecl
  exports : List ExportDecl
  deriving DecidableEq, Repr

namespace Surface

def export? (s : Surface) (name : String) : Option ExportDecl :=
  s.exports.find? fun e => e.name == name

def hasExport (s : Surface) (name : String) (kind : ExternKind) : Bool :=
  (s.export? name).any fun e => e.kind == kind

def importsFrom (s : Surface) (space : String) : List ImportDecl :=
  s.imports.filter fun i => i.space == space

/-- In ascending order of names. -/
def sortedExports (s : Surface) : List ExportDecl :=
  s.exports.mergeSort fun a b => a.name ≤ b.name

/-- The module in one line: how much it imports and exports. -/
def debugText (s : Surface) : String :=
  let imports := s.imports.length
  let exports := s.exports.length
  s!"GuestModule \x7b imports: {imports}, exports: {exports} \x7d"

/-- The exports without which a bridge cannot run a guest. -/
def requiredExports (names : ExportNames) : List (String × ExternKind) :=
  [(names.memory, .memory), (names.malloc, .func), (names.exnStore, .func)]

/-- Fails for the first required export that is missing or of another kind. -/
def checkExports (s : Surface) (names : ExportNames) : Except Fault Unit :=
  match (requiredExports names).find? fun (name, kind) => !s.hasExport name kind with
  | some (name, _) => .error (.missingExport name)
  | none => .ok ()

end Surface

end GuestBridge

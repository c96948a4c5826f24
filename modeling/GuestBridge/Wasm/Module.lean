import GuestBridge.Surface
/-!
WebAssembly modules, section by section, and their surface. Functions are numbered with imported
ones first, in the order of import; tables, memories and globals likewise.
-/

set_option autoImplicit false

namespace GuestBridge.Wasm

/-- How small and how large a table or memory may be. -/
structure Bounds where
  low : Nat
  high : Option Nat
  deriving DecidableEq, Repr

structure TableType where
  element : CoreType
  bounds : Bounds
  deriving DecidableEq, Repr

/-- The bounds count pages. -/
structure MemoryType where
  bounds : Bounds
  shared : Bool
  deriving DecidableEq, Repr

structure GlobalType where
  value : CoreType
  mutable : Bool
  deriving DecidableEq, Repr

inductive BlockType
  | empty
  | value (t : CoreType)
  | type (index : Nat)
  deriving DecidableEq, Repr

/-- Where a load or store goes, and how far it says the address is aligned, as a power of two. -/
structure Place where
  align : Nat
  memory : Nat
  deriving DecidableEq, Repr

inductive Arithmetic
  | add
  | sub
  | mul
  deriving DecidableEq, Repr

/-- Instructions, as far as it matters for their types and for the constants of a module. -/
inductive Instruction
  | unreachable
  | nop
  | block (type : BlockType)
  | loop (type : BlockType)
  | conditional (type : BlockType)
  | otherwise
  | done
  | branch (label : Nat)
  | branchIf (label : Nat)
  | branchTable (labels : List Nat) (default : Nat)
  | leave
  | call (function : Nat)
  | callIndirect (type table : Nat)
  | tailCall (function : Nat)
  | tailCallIndirect (type table : Nat)
  | drop
  | select
  | selectOf (types : List CoreType)
  | localGet (index : Nat)
  | localSet (index : Nat)
  | localTee (index : Nat)
  | globalGet (index : Nat)
  | globalSet (index : Nat)
  | tableGet (table : Nat)
  | tableSet (table : Nat)
  | tableSize (table : Nat)
  | tableGrow (table : Nat)
  | tableFill (table : Nat)
  | tableCopy (target source : Nat)
  | tableInit (segment table : Nat)
  | elementDrop (segment : Nat)
  | nullOf (t : CoreType)
  | isNull
  | functionOf (function : Nat)
  /-- Reads or writes memory at an address that stands below what it takes; `width` is the power of
  two of the bytes moved. -/
  | access (takes yields : List CoreType) (width : Nat) (place : Place)
  /-- An access that other threads see as a whole. -/
  | atomic (takes yields : List CoreType) (width : Nat) (place : Place)
  | fence
  | memorySize (memory : Nat)
  | memoryGrow (memory : Nat)
  | memoryInit (segment memory : Nat)
  | dataDrop (segment : Nat)
  | memoryCopy (target source : Nat)
  | memoryFill (memory : Nat)
  | constant (t : CoreType) (n : Int)
  | arithmetic (t : CoreType) (op : Arithmetic)
  /-- Any operation on numbers or vectors that is not among the others. -/
  | operate (takes : List CoreType) (yields : CoreType)
  deriving DecidableEq, Repr

abbrev Expression := List Instruction

inductive ImportType
  /-- By the index of a type. -/
  | func (type : Nat)
  | table (t : TableType)
  | memory (t : MemoryType)
  | global (t : GlobalType)
  /-- By the index of the type of a function that takes what the tag carries. -/
  | tag (type : Nat)
  deriving DecidableEq, Repr

def ImportType.kind : ImportType → ExternKind
  | .func _ => .func
  | .table _ => .table
  | .memory _ => .memory
  | .global _ => .global
  | .tag _ => .tag

structure Import where
  space : String
  name : String
  type : ImportType
  deriving DecidableEq, Repr

structure Export where
  name : String
  kind : ExternKind
  index : Nat
  deriving DecidableEq, Repr

/-- When a segment is copied to where it belongs. -/
inductive Placement
  /-- When an instance is made, to an offset in a table or memory. -/
  | active (index : Nat) (offset : Expression)
  | passive
  | declared
  deriving DecidableEq, Repr

structure ElementSegment where
  placement : Placement
  type : CoreType
  items : List Expression
  deriving DecidableEq, Repr

structure DataSegment where
  placement : Placement
  bytes : List UInt8
  deriving DecidableEq, Repr

structure Body where
  /-- Runs of locals of one type. -/
  locals : List (Nat × CoreType)
  code : Expression
  deriving DecidableEq, Repr

structure Module where
  types : List Signature
  imports : List Import
  /-- The types of the module's own functions, by index. -/
  functions : List Nat
  tables : List TableType
  memories : List MemoryType
  globals : List (GlobalType × Expression)
  exports : List Export
  /-- A function that runs when an instance is made. -/
  start : Option Nat
  elements : List ElementSegment
  /-- How many data segments there are, if a section says so ahead of the code. -/
  dataCount : Option Nat
  bodies : List Body
  data : List DataSegment
  deriving DecidableEq, Repr

namespace Module

/-- The type of each function, by index of a type. -/
def functionTypes (m : Module) : List Nat :=
  m.imports.filterMap (fun i => match i.type with | .func t => some t | _ => none) ++ m.functions

def tableTypes (m : Module) : List TableType :=
  m.imports.filterMap (fun i => match i.type with | .table t => some t | _ => none) ++ m.tables

def memoryTypes (m : Module) : List MemoryType :=
  m.imports.filterMap (fun i => match i.type with | .memory t => some t | _ => none) ++ m.memories

def importedGlobals (m : Module) : List GlobalType :=
  m.imports.filterMap fun i => match i.type with | .global t => some t | _ => none

def globalTypes (m : Module) : List GlobalType :=
  m.importedGlobals ++ m.globals.map (·.1)

/-- All tags are imported. -/
def tagTypes (m : Module) : List Nat :=
  m.imports.filterMap fun i => match i.type with | .tag t => some t | _ => none

def signature? (m : Module) (function : Nat) : Option Signature := do
  m.types[← m.functionTypes[function]?]?

/-- Imports with the numbers of those that are functions, which are counted from `next` on. -/
def numberFunctions : Nat → List Import → List (Import × Option Nat)
  | _, [] => []
  | next, i :: rest =>
    match i.type with
    | .func _ => (i, some next) :: numberFunctions (next + 1) rest
    | _ => (i, none) :: numberFunctions next rest

/-- A function is signed by its number. -/
def importDecl (m : Module) (i : Import) (function : Option Nat) : ImportDecl where
  space := i.space
  name := i.name
  kind := i.type.kind
  signature := function.bind m.signature?

def exportDecl (m : Module) (e : Export) : ExportDecl where
  name := e.name
  kind := e.kind
  signature := if e.kind = .func then m.signature? e.index else none

/-- What a module imports and exports. -/
def surface (m : Module) : Surface where
  imports := (numberFunctions 0 m.imports).map fun (i, function) => m.importDecl i function
  exports := m.exports.map m.exportDecl

end Module

end GuestBridge.Wasm

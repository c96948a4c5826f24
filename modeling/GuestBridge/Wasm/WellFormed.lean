import GuestBridge.Wasm.Section
import GuestBridge.Wasm.Typing
/-!
Which modules can be used: everything that is referred to exists and is of the right type. Bytes
stand for a module only if it can be used.
-/

set_option autoImplicit false

namespace GuestBridge.Wasm

/-- The most pages of a memory. -/
def maxPages : Nat := 65536

/-- The most tables, and the most memories, that a module may have. -/
def maxSpaces : Nat := 100

/-- The most entries of a table at the start. -/
def maxEntries : Nat := 10000000

def Bounds.ordered (b : Bounds) : Bool := b.high.all (b.low ≤ ·)

def TableType.wellFormed (t : TableType) : Bool := t.bounds.ordered && t.bounds.low ≤ maxEntries

def MemoryType.wellFormed (t : MemoryType) : Bool :=
  t.bounds.ordered && t.bounds.low ≤ maxPages && t.bounds.high.all (· ≤ maxPages)
    && (!t.shared || t.bounds.high.isSome)

namespace Module

/-- Functions that are mentioned outside of bodies, which may then refer to them. -/
def mentioned (m : Module) : List Nat :=
  let inExpression (e : Expression) : List Nat :=
    e.filterMap fun i => match i with | .functionOf f => some f | _ => none
  m.exports.filterMap (fun e => if e.kind = .func then some e.index else none)
    ++ m.globals.flatMap (fun g => inExpression g.2)
    ++ m.elements.flatMap fun s => s.items.flatMap inExpression

def context (m : Module) : Context where
  types := m.types.toArray
  functions := m.functionTypes.toArray
  tables := m.tableTypes.toArray
  memories := m.memoryTypes.length
  globals := m.globalTypes.toArray
  elements := (m.elements.map (·.type)).toArray
  dataCount := m.dataCount
  mentioned := m.mentioned

def exportOk (m : Module) (e : Export) : Bool :=
  match e.kind with
  | .func => e.index < m.functionTypes.length
  | .table => e.index < m.tableTypes.length
  | .memory => e.index < m.memoryTypes.length
  | .global => e.index < m.globalTypes.length
  | .tag => e.index < m.tagTypes.length

def elementOk (m : Module) (c : Context) (s : ElementSegment) : Bool :=
  let constant := constantOf c m.importedGlobals
  s.items.all (constant s.type) &&
    match s.placement with
    | .active table offset =>
      m.tableTypes[table]?.any (fun t => t.element = s.type) && constant .i32 offset
    | _ => true

def dataOk (m : Module) (c : Context) (s : DataSegment) : Bool :=
  match s.placement with
  | .active memory offset =>
    memory < m.memoryTypes.length && constantOf c m.importedGlobals .i32 offset
  | _ => true

def bodyOk (m : Module) (c : Context) (type : Nat) (b : Body) : Bool :=
  m.types[type]?.any fun s => b.wellTyped c s

def wellFormed (m : Module) : Bool :=
  let c := m.context
  m.functionTypes.all (· < m.types.length)
    && m.tableTypes.all TableType.wellFormed
    && m.tableTypes.length ≤ maxSpaces
    && m.memoryTypes.all MemoryType.wellFormed
    && m.memoryTypes.length ≤ maxSpaces
    && m.tagTypes.all (fun t => m.types[t]?.any (·.results.isEmpty))
    && m.globals.all (fun (t, e) => constantOf c m.importedGlobals t.value e)
    && m.exports.all m.exportOk
    && (m.exports.map (·.name)).Nodup
    && m.start.all (fun f => m.signature? f = some ⟨[], []⟩)
    && m.elements.all (m.elementOk c)
    && m.dataCount.all (· = m.data.length)
    && m.data.all (m.dataOk c)
    && m.bodies.length = m.functions.length
    && (m.functions.zip m.bodies).all (fun (type, b) => m.bodyOk c type b)

/-- The module that bytes stand for. -/
def load? (bytes : List UInt8) : Option Module := do
  let m ← decode? bytes
  if m.wellFormed then some m else none

end Module

end GuestBridge.Wasm

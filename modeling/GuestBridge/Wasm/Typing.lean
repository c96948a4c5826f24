import GuestBridge.Wasm.Module
/-!
Types of function bodies. A body is read with a stack of open blocks, each with the operands that
stand above its beginning. Behind an instruction that never goes on, a block has as many operands of
any type as are asked for.
-/

set_option autoImplicit false

namespace GuestBridge.Wasm

/-- The most locals, parameters among them, that a function may have. -/
def maxLocals : Nat := 50000

/-- What the code of a module may refer to. -/
structure Context where
  types : Array Signature
  /-- The type of each function, by index of a type. -/
  functions : Array Nat
  tables : Array TableType
  memories : Nat
  globals : Array GlobalType
  elements : Array CoreType
  dataCount : Option Nat
  /-- Functions that the module mentions outside of bodies. -/
  mentioned : List Nat

namespace Context

def signature? (c : Context) (function : Nat) : Option Signature := do
  c.types[← c.functions[function]?]?

end Context

inductive BlockKind
  | plain
  | loop
  | conditional
  deriving DecidableEq, Repr

/-- An operand of which the type may be anything. -/
abbrev Operand := Option CoreType

structure Block where
  kind : BlockKind
  type : Signature
  /-- The last one first. -/
  operands : List Operand
  /-- Nothing gets here. -/
  unreachable : Bool
  deriving DecidableEq, Repr

namespace Block

def start (kind : BlockKind) (type : Signature) : Block :=
  ⟨kind, type, type.params.reverse.map some, false⟩

def label (b : Block) : List CoreType :=
  if b.kind = .loop then b.type.params else b.type.results

end Block

abbrev Check (α : Type) := StateT (List Block) Option α

namespace Check

def push (o : Operand) : Check Unit := fun
  | b :: outer => some ((), { b with operands := o :: b.operands } :: outer)
  | [] => none

def pushAll (types : List CoreType) : Check Unit := types.forM fun t => push (some t)

def popAny : Check Operand := fun
  | b :: outer =>
    match b.operands with
    | o :: rest => some (o, { b with operands := rest } :: outer)
    | [] => if b.unreachable then some (none, b :: outer) else none
  | [] => none

def pop (t : CoreType) : Check Operand := do
  let o ← popAny
  if o.all (· == t) then return o else failure

def popAll (types : List CoreType) : Check (List Operand) := do
  return (← types.reverse.mapM pop).reverse

def apply (takes yields : List CoreType) : Check Unit := do
  let _ ← popAll takes
  pushAll yields

def require {α : Type} (a? : Option α) : Check α :=
  match a? with
  | some a => pure a
  | none => failure

def giveUp : Check Unit := fun
  | b :: outer => some ((), { b with operands := [], unreachable := true } :: outer)
  | [] => none

def label (n : Nat) : Check (List CoreType) := do
  return (← require (← get)[n]?).label

def results : Check (List CoreType) := do
  return (← require (← get).getLast?).type.results

def openBlock (kind : BlockKind) (type : Signature) : Check Unit := do
  let _ ← popAll type.params
  modify fun outer => Block.start kind type :: outer

/-- Closes the innermost block, of which only the results may be left. -/
def close : Check Block := do
  let b ← require (← get).head?
  let _ ← popAll b.type.results
  let left ← require (← get).head?
  guard left.operands.isEmpty
  modify List.tail
  return b

def passLabel (types : List CoreType) : Check Unit := do
  (← popAll types).forM push

end Check

namespace Instruction

open Check

def blockSignature? (c : Context) : BlockType → Option Signature
  | .empty => some ⟨[], []⟩
  | .value t => some ⟨[], [t]⟩
  | .type index => c.types[index]?

/-- The type of a local, parameters first. -/
def localType? : List (Nat × CoreType) → Nat → Option CoreType
  | [], _ => none
  | (count, t) :: rest, index => if index < count then some t else localType? rest (index - count)

/-- Whether a memory is there and an address is not said to be aligned to more than is moved. -/
def placeOk (c : Context) (p : Place) (width : Nat) : Bool :=
  p.memory < c.memories && p.align ≤ width

/-- Whether a memory is there and an address is said to be aligned to all that is moved. -/
def atomicPlaceOk (c : Context) (p : Place) (width : Nat) : Bool :=
  p.memory < c.memories && p.align = width

def check (c : Context) (locals : List (Nat × CoreType)) : Instruction → Check Unit
  | .unreachable => giveUp
  | .nop => pure ()
  | .block t => do openBlock .plain (← require (blockSignature? c t))
  | .loop t => do openBlock .loop (← require (blockSignature? c t))
  | .conditional t => do
    let _ ← pop .i32
    openBlock .conditional (← require (blockSignature? c t))
  | .otherwise => do
    let b ← close
    guard (b.kind = .conditional)
    modify fun outer => Block.start .plain b.type :: outer
  | .done => do
    let b ← close
    guard (b.kind ≠ .conditional || b.type.params = b.type.results)
    unless (← get).isEmpty do pushAll b.type.results
  | .branch n => do
    let _ ← popAll (← label n)
    giveUp
  | .branchIf n => do
    let _ ← pop .i32
    let types ← label n
    apply types types
  | .branchTable labels default => do
    let _ ← pop .i32
    let types ← label default
    labels.forM fun n => do
      let other ← label n
      guard (other.length = types.length)
      passLabel other
    let _ ← popAll types
    giveUp
  | .leave => do
    let _ ← popAll (← results)
    giveUp
  | .call f => do
    let s ← require (c.signature? f)
    apply s.params s.results
  | .callIndirect t table => do
    guard ((← require c.tables[table]?).element = .funcref)
    let s ← require c.types[t]?
    let _ ← pop .i32
    apply s.params s.results
  | .tailCall f => do
    let s ← require (c.signature? f)
    guard (s.results = (← results))
    let _ ← popAll s.params
    giveUp
  | .tailCallIndirect t table => do
    guard ((← require c.tables[table]?).element = .funcref)
    let s ← require c.types[t]?
    guard (s.results = (← results))
    let _ ← pop .i32
    let _ ← popAll s.params
    giveUp
  | .drop => do
    let _ ← popAny
  | .select => do
    let _ ← pop .i32
    let a ← popAny
    let b ← popAny
    guard (!a.any CoreType.isReference && !b.any CoreType.isReference)
    guard (a.isNone || b.isNone || a = b)
    push (a <|> b)
  | .selectOf types => do
    guard (types.length = 1)
    let _ ← pop .i32
    let _ ← popAll types
    apply types types
  | .localGet i => do push (some (← require (localType? locals i)))
  | .localSet i => do
    let _ ← pop (← require (localType? locals i))
  | .localTee i => do
    let t ← require (localType? locals i)
    apply [t] [t]
  | .globalGet i => do push (some (← require c.globals[i]?).value)
  | .globalSet i => do
    let g ← require c.globals[i]?
    guard g.mutable
    let _ ← pop g.value
  | .tableGet i => do apply [.i32] [(← require c.tables[i]?).element]
  | .tableSet i => do apply [.i32, (← require c.tables[i]?).element] []
  | .tableSize i => do
    let _ ← require c.tables[i]?
    apply [] [.i32]
  | .tableGrow i => do apply [(← require c.tables[i]?).element, .i32] [.i32]
  | .tableFill i => do apply [.i32, (← require c.tables[i]?).element, .i32] []
  | .tableCopy target source => do
    guard ((← require c.tables[target]?).element = (← require c.tables[source]?).element)
    apply [.i32, .i32, .i32] []
  | .tableInit segment table => do
    guard ((← require c.tables[table]?).element = (← require c.elements[segment]?))
    apply [.i32, .i32, .i32] []
  | .elementDrop segment => do
    let _ ← require c.elements[segment]?
    apply [] []
  | .nullOf t => push (some t)
  | .isNull => do
    let o ← popAny
    guard (o.all CoreType.isReference)
    push (some .i32)
  | .functionOf f => do
    let _ ← require (c.signature? f)
    guard (c.mentioned.contains f)
    push (some .funcref)
  | .access takes yields width p => do
    guard (placeOk c p width)
    apply (.i32 :: takes) yields
  | .atomic takes yields width p => do
    guard (atomicPlaceOk c p width)
    apply (.i32 :: takes) yields
  | .fence => pure ()
  | .memorySize m => do
    guard (m < c.memories)
    apply [] [.i32]
  | .memoryGrow m => do
    guard (m < c.memories)
    apply [.i32] [.i32]
  | .memoryInit segment m => do
    guard (m < c.memories && segment < (← require c.dataCount))
    apply [.i32, .i32, .i32] []
  | .dataDrop segment => do
    guard (segment < (← require c.dataCount))
    apply [] []
  | .memoryCopy target source => do
    guard (target < c.memories && source < c.memories)
    apply [.i32, .i32, .i32] []
  | .memoryFill m => do
    guard (m < c.memories)
    apply [.i32, .i32, .i32] []
  | .constant t _ => push (some t)
  | .arithmetic t _ => apply [t, t] [t]
  | .operate takes yields => apply takes [yields]

/-- Checks one instruction in the innermost open block; behind the end of the function there is
none. -/
def checkOpen (c : Context) (locals : List (Nat × CoreType)) (i : Instruction) : Check Unit := do
  let _ ← require (← get).head?
  i.check c locals

/-- May an instruction stand where a constant has to be known before anything runs? -/
def isConstant (importedGlobals : List GlobalType) : Instruction → Bool
  | .constant .. | .nullOf _ | .functionOf _ | .arithmetic .. | .done => true
  | .globalGet i => importedGlobals[i]?.any fun g => !g.mutable
  | _ => false

end Instruction

/-- Does code lead from nothing to the results of a function, and end with it? -/
def wellTyped (c : Context) (type : Signature) (locals : List (Nat × CoreType))
    (code : Expression) : Bool :=
  match (code.forM (Instruction.checkOpen c locals)).run [⟨.plain, type, [], false⟩] with
  | some (_, []) => true
  | _ => false

def Body.wellTyped (c : Context) (type : Signature) (b : Body) : Bool :=
  let locals := type.params.map (fun t => (1, t)) ++ b.locals
  locals.foldl (fun n run => n + run.1) 0 ≤ maxLocals && Wasm.wellTyped c type locals b.code

/-- Is an expression a constant of a type? -/
def constantOf (c : Context) (importedGlobals : List GlobalType) (t : CoreType)
    (e : Expression) : Bool :=
  e.all (Instruction.isConstant importedGlobals) && wellTyped c ⟨[], [t]⟩ [] e

end GuestBridge.Wasm

import GuestBridge.Wasm.Opcode
/-!
The binary form of modules: a header, and behind it sections, each with a number and a length. Every
section may be left out, none may come twice, and their order is fixed; sections that are not for
the machine have the number zero and may stand anywhere.
-/

set_option autoImplicit false

namespace GuestBridge.Wasm

namespace Section

open Scan Binary

/-- The numbers of the sections in the order in which they stand. -/
def order : List UInt8 := [1, 2, 3, 4, 5, 6, 7, 8, 9, 12, 10, 11]

/-- The beginning of every module. -/
def header : List UInt8 := [0x00, 0x61, 0x73, 0x6d, 0x01, 0x00, 0x00, 0x00]

def raw : Binary (UInt8 × List UInt8) := do
  let number ← byte
  return (number, ← Binary.raw (← index))

/-! ## What stands in each section -/

def expressionWithin : Nat → Binary Expression
  | 0 => failure
  | n + 1 => do
    let i ← Opcode.instruction
    if i = .done then return [i]
    return i :: (← expressionWithin n)

/-- Instructions up to the first end. -/
def expression : Binary Expression := fun s => expressionWithin s.length s

/-- Tags are for exceptions, which are not switched on, so that nothing is read for one. -/
def importType : Binary ImportType := do
  match ← byte with
  | 0 => return .func (← index)
  | 1 => return .table (← tableType)
  | 2 => return .memory (← memoryType)
  | 3 => return .global (← globalType)
  | _ => failure

def importEntry : Binary Import := do
  let space ← name
  let item ← name
  return ⟨space, item, ← importType⟩

def global : Binary (GlobalType × Expression) := do
  let t ← globalType
  return (t, ← expression)

def exportKind? (b : UInt8) : Option ExternKind :=
  match b with
  | 0 => some .func
  | 1 => some .table
  | 2 => some .memory
  | 3 => some .global
  | _ => none

def exportEntry : Binary Export := do
  let item ← name
  let kind ← ofByte? exportKind?
  return ⟨item, kind, ← index⟩

def functionItems : Binary (List Expression) := do
  return (← vector index).map fun f => [.functionOf f, .done]

/-- The one kind of element that a segment of plain functions may name. -/
def elementKind : Binary Unit := mark 0

def elements : Binary ElementSegment := do
  match ← index with
  | 0 => do
    let offset ← expression
    return ⟨.active 0 offset, .funcref, ← functionItems⟩
  | 1 => do
    elementKind
    return ⟨.passive, .funcref, ← functionItems⟩
  | 2 => do
    let table ← index
    let offset ← expression
    elementKind
    return ⟨.active table offset, .funcref, ← functionItems⟩
  | 3 => do
    elementKind
    return ⟨.declared, .funcref, ← functionItems⟩
  | 4 => do
    let offset ← expression
    return ⟨.active 0 offset, .funcref, ← vector expression⟩
  | 5 => do
    let t ← referenceType
    return ⟨.passive, t, ← vector expression⟩
  | 6 => do
    let table ← index
    let offset ← expression
    let t ← referenceType
    return ⟨.active table offset, t, ← vector expression⟩
  | 7 => do
    let t ← referenceType
    return ⟨.declared, t, ← vector expression⟩
  | _ => failure

def bytes : Binary (List UInt8) := do
  Binary.raw (← index)

def data : Binary DataSegment := do
  match ← index with
  | 0 => do
    let offset ← expression
    return ⟨.active 0 offset, ← bytes⟩
  | 1 => return ⟨.passive, ← bytes⟩
  | 2 => do
    let memory ← index
    let offset ← expression
    return ⟨.active memory offset, ← bytes⟩
  | _ => failure

def locals : Binary (Nat × CoreType) := do
  let count ← index
  return (count, ← coreType)

def body : Binary Body :=
  sized do
    let l ← vector locals
    return ⟨l, ← Opcode.body⟩

/-! ## All sections together -/

/-- Do numbers stand in the order of sections, none of them twice? -/
def inOrder : List UInt8 → List UInt8 → Bool
  | [], _ => true
  | _ :: _, [] => false
  | n :: rest, m :: allowed => if n = m then inOrder rest allowed else inOrder (n :: rest) allowed

variable {α : Type}

/-- What a section holds; a default without one. -/
def read? (sections : List (UInt8 × List UInt8)) (number : UInt8) (p : Binary α) (default : α) :
    Option α :=
  match sections.find? fun s => s.1 == number with
  | none => some default
  | some (_, content) => all? p content

/-- Names of sections that say how values of the module are converted, which no machine does any
more. -/
def refusedNames : List String := ["webidl-bindings", "wasm-interface-types"]

/-- Does a section that is not for the machine begin with a name, and not with one that is
refused? -/
def named (content : List UInt8) : Bool :=
  match name content with
  | some (title, _) => !refusedNames.contains title
  | none => false

end Section

/-- The module that bytes stand for, whatever it refers to. -/
def Module.decode? (bytes : List UInt8) : Option Module := do
  let sections ← Scan.all?
    (do Section.header.forM Scan.mark; Scan.many Section.raw) bytes
  let (custom, sections) := sections.partition fun s => s.1 == 0
  unless custom.all (fun s => Section.named s.2) do none
  unless Section.inOrder (sections.map (·.1)) Section.order do none
  let list {α : Type} (number : UInt8) (p : Binary α) : Option (List α) :=
    Section.read? sections number (Binary.vector p) []
  let types ← list 1 Binary.signature
  let imports ← list 2 Section.importEntry
  let functions ← list 3 Binary.index
  let tables ← list 4 Binary.tableType
  let memories ← list 5 Binary.memoryType
  let globals ← list 6 Section.global
  let exports ← list 7 Section.exportEntry
  let start ← Section.read? sections 8 (some <$> Binary.index) none
  let elements ← list 9 Section.elements
  let dataCount ← Section.read? sections 12 (some <$> Binary.index) none
  let bodies ← list 10 Section.body
  let data ← list 11 Section.data
  return ⟨types, imports, functions, tables, memories, globals, exports, start, elements, dataCount,
    bodies, data⟩

end GuestBridge.Wasm

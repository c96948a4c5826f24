import GuestBridge.Guest
import GuestBridge.Wasm.WellFormed
/-!
Modules as guests. A function is run if its body goes straight on, with no more than words, locals
and calls of imports; any other yields zeros.
-/

set_option autoImplicit false

namespace GuestBridge.Wasm

def zero : CoreType → Core
  | .f64 => .double ⟨0⟩
  | _ => .word 0

/-- What a constant expression over integers comes to; its operands, the last one first. -/
def evaluate? : Expression → List Int → Option Int
  | [.done], [n] => some n
  | .constant _ n :: rest, operands => evaluate? rest (n :: operands)
  | .arithmetic t op :: rest, b :: a :: operands =>
    let n := match op with
      | .add => a + b
      | .sub => a - b
      | .mul => a * b
    let n := n.bmod (if t = .i32 then UInt32.size else UInt64.size)
    evaluate? rest (n :: operands)
  | _, _ => none

def offset (e : Expression) : Nat := (((evaluate? e []).getD 0) % UInt32.size).toNat

namespace Module

def functionPositions (m : Module) : List Nat :=
  m.imports.zipIdx.filterMap fun (i, position) =>
    match i.type with
    | .func _ => some position
    | _ => none

/-- Whether an expression goes straight on, as far as it is run, and calls imports only. -/
def straight (m : Module) : Expression → Bool
  | [] | .unreachable :: _ | .done :: _ | .leave :: _ => true
  | .nop :: rest | .drop :: rest | .localGet _ :: rest | .localSet _ :: rest
  | .localTee _ :: rest | .constant .i32 _ :: rest => m.straight rest
  | .call function :: rest => function < m.functionPositions.length && m.straight rest
  | _ => false

/-- Runs an expression that goes straight on. Operands are listed the last one first, and as many of
them as there are results are yielded. -/
def perform (m : Module) (results : Nat) :
    Expression → List Core → List Core → Code Unit (List Core)
  | .unreachable :: _, _, _ => .trap .unreachable
  | .drop :: rest, locals, operands => m.perform results rest locals operands.tail
  | .localGet i :: rest, locals, operands =>
    m.perform results rest locals (locals.getD i (zero .i32) :: operands)
  | .localSet i :: rest, locals, x :: operands =>
    m.perform results rest (locals.set i x) operands
  | .localTee i :: rest, locals, x :: operands =>
    m.perform results rest (locals.set i x) (x :: operands)
  | .constant _ n :: rest, locals, operands =>
    m.perform results rest locals (.word (UInt32.ofInt n) :: operands)
  | .call function :: rest, locals, operands =>
    let count := ((m.signature? function).getD default).params.length
    .call (m.functionPositions.getD function 0) (operands.take count).reverse fun yielded =>
      m.perform results rest locals (yielded.reverse ++ operands.drop count)
  | .nop :: rest, locals, operands => m.perform results rest locals operands
  | _, _, operands => .yield (operands.take results).reverse

/-- What a function does. Imported ones call their import. -/
def program (m : Module) (function : Nat) (type : Signature) (args : List Core) :
    Code Unit (List Core) :=
  let positions := m.functionPositions
  match positions[function]? with
  | some position => .call position args .yield
  | none =>
    match m.bodies[function - positions.length]? with
    | some body =>
      let locals := args ++ body.locals.flatMap fun (count, t) => List.replicate count (zero t)
      if m.straight body.code then m.perform type.results.length body.code locals []
      else .yield (type.results.map zero)
    | none => .yield (type.results.map zero)

def function (m : Module) (function : Nat) : GuestFunction Unit :=
  let type := (m.signature? function).getD default
  ⟨type, m.program function type⟩

def elementFunction? (m : Module) : Expression → Option (GuestFunction Unit)
  | [.functionOf f, .done] => some (m.function f)
  | _ => none

/-- Puts entries into a table, which is long enough for all that has been put there. -/
def putEntries (table : FunctionTable Unit) (offset : Nat) (entries : FunctionTable Unit) :
    FunctionTable Unit :=
  table.take offset ++ List.replicate (offset - table.length) none ++ entries
    ++ table.drop (offset + entries.length)

/-- The entries of a table at the start, as far as segments reach; the rest of it is empty. -/
def tableEntries (m : Module) (table : Nat) : FunctionTable Unit :=
  m.elements.foldl (fun entries s =>
    match s.placement with
    | .active index e =>
      if index = table then putEntries entries (offset e) (s.items.map m.elementFunction?)
      else entries
    | _ => entries) []

def exported (m : Module) (e : Export) : Extern Unit :=
  match e.kind with
  | .func => .func (m.function e.index)
  | .table => .table (m.tableEntries e.index)
  | .memory =>
    match m.memoryTypes[e.index]? with
    | some ⟨bounds, false⟩ => .memory bounds.low (bounds.high.getD maxPages)
    | _ => .sharedMemory
  | .global | .tag => .global

def memoryData (m : Module) (memory : Nat) : List (Nat × List UInt8) :=
  m.data.filterMap fun s =>
    match s.placement with
    | .active index e => if index = memory then some (offset e, s.bytes) else none
    | _ => none

def fits (length : Nat) (size : Nat → Nat) : Placement → Bool
  | .active index e => offset e + length ≤ size index
  | _ => true

/-- Why no instance can be made: a segment of entries, or else of bytes, that does not fit. -/
def creationTrap? (m : Module) : Option Trap :=
  let entries (table : Nat) := (m.tableTypes[table]?.map (·.bounds.low)).getD 0
  let bytes (memory : Nat) :=
    (m.memoryTypes[memory]?.map (·.bounds.low)).getD 0 * Memory.pageSize
  if !m.elements.all (fun s => fits s.items.length entries s.placement) then
    some .tableOutOfBounds
  else if !m.data.all (fun s => fits s.bytes.length bytes s.placement) then
    some .memoryOutOfBounds
  else none

def creation (m : Module) : Option (Code Unit Unit) :=
  match m.creationTrap? with
  | some cause => some (.trap cause)
  | none => m.start.map fun f => do
    let _ ← m.program f ⟨[], []⟩ []
    return

/-- The module as a guest of which the memory with the given name is used. -/
def guest (m : Module) (memoryName : String) : GuestModule Unit where
  imports := m.surface.imports
  exports := m.exports.map fun e => (e.name, m.exported e)
  data :=
    match m.exports.find? fun e => e.name == memoryName && e.kind = .memory with
    | some e => m.memoryData e.index
    | none => []
  onCreation := m.creation
  initial := ()

end Module

end GuestBridge.Wasm

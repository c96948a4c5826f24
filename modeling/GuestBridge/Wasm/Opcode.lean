import GuestBridge.Wasm.Opcode.Atomic
import GuestBridge.Wasm.Opcode.Vector
/-!
The binary form of instructions: an opcode, and behind it what the instruction is about.
-/

set_option autoImplicit false

namespace GuestBridge.Wasm.Opcode

open Scan Binary

def blockType : Binary BlockType :=
  (do mark 0x40; return .empty) <|> (BlockType.value <$> coreType) <|> do
    let n ← signed 33
    if n < 0 then failure
    return .type n.toNat

/-- Runs of opcodes that take and yield the same types, by their first. -/
def operations : List (Nat × List CoreType × CoreType) := [
  (0x45, [.i32], .i32),
  (0x46, [.i32, .i32], .i32),
  (0x50, [.i64], .i32),
  (0x51, [.i64, .i64], .i32),
  (0x5b, [.f32, .f32], .i32),
  (0x61, [.f64, .f64], .i32),
  (0x67, [.i32], .i32),
  (0x6a, [.i32, .i32], .i32),
  (0x79, [.i64], .i64),
  (0x7c, [.i64, .i64], .i64),
  (0x8b, [.f32], .f32),
  (0x92, [.f32, .f32], .f32),
  (0x99, [.f64], .f64),
  (0xa0, [.f64, .f64], .f64),
  (0xa7, [.i64], .i32),
  (0xa8, [.f32], .i32),
  (0xaa, [.f64], .i32),
  (0xac, [.i32], .i64),
  (0xae, [.f32], .i64),
  (0xb0, [.f64], .i64),
  (0xb2, [.i32], .f32),
  (0xb4, [.i64], .f32),
  (0xb6, [.f64], .f32),
  (0xb7, [.i32], .f64),
  (0xb9, [.i64], .f64),
  (0xbb, [.f32], .f64),
  (0xbc, [.f32], .i32),
  (0xbd, [.f64], .i64),
  (0xbe, [.i32], .f32),
  (0xbf, [.i64], .f64),
  (0xc0, [.i32], .i32),
  (0xc2, [.i64], .i64)]

def operation? (code : Nat) : Option Instruction :=
  if code < 0x45 || 0xc4 < code then none
  else
    match code with
    | 0x6a => some (.arithmetic .i32 .add)
    | 0x6b => some (.arithmetic .i32 .sub)
    | 0x6c => some (.arithmetic .i32 .mul)
    | 0x7c => some (.arithmetic .i64 .add)
    | 0x7d => some (.arithmetic .i64 .sub)
    | 0x7e => some (.arithmetic .i64 .mul)
    | _ =>
      (operations.reverse.find? fun entry => entry.1 ≤ code).map fun (_, takes, yields) =>
        .operate takes yields

/-- Loads and stores from `0x28` on: whether it stores, the type, and the power of two of the bytes
moved. -/
def accesses : List (Bool × CoreType × Nat) := [
  (false, .i32, 2), (false, .i64, 3), (false, .f32, 2), (false, .f64, 3),
  (false, .i32, 0), (false, .i32, 0), (false, .i32, 1), (false, .i32, 1),
  (false, .i64, 0), (false, .i64, 0), (false, .i64, 1), (false, .i64, 1),
  (false, .i64, 2), (false, .i64, 2),
  (true, .i32, 2), (true, .i64, 3), (true, .f32, 2), (true, .f64, 3),
  (true, .i32, 0), (true, .i32, 1), (true, .i64, 0), (true, .i64, 1), (true, .i64, 2)]

/-- Instructions behind the byte `fc`: conversions that never fail, and those on whole stretches of
memories and tables. -/
def extended : Binary Instruction := do
  match ← index with
  | 0 | 1 => return .operate [.f32] .i32
  | 2 | 3 => return .operate [.f64] .i32
  | 4 | 5 => return .operate [.f32] .i64
  | 6 | 7 => return .operate [.f64] .i64
  | 8 => return .memoryInit (← index) (← index)
  | 9 => return .dataDrop (← index)
  | 10 => return .memoryCopy (← index) (← index)
  | 11 => return .memoryFill (← index)
  | 12 => return .tableInit (← index) (← index)
  | 13 => return .elementDrop (← index)
  | 14 => return .tableCopy (← index) (← index)
  | 15 => return .tableGrow (← index)
  | 16 => return .tableSize (← index)
  | 17 => return .tableFill (← index)
  | _ => failure

def instruction : Binary Instruction := do
  let code := (← byte).toNat
  match accesses[code - 0x28]?, decide (0x28 ≤ code) with
  | some (stores, t, width), true =>
    let (takes, yields) := if stores then ([t], []) else ([], [t])
    return .access takes yields width (← place)
  | _, _ =>
    match operation? code with
    | some i => return i
    | none =>
      match code with
      | 0x00 => return .unreachable
      | 0x01 => return .nop
      | 0x02 => return .block (← blockType)
      | 0x03 => return .loop (← blockType)
      | 0x04 => return .conditional (← blockType)
      | 0x05 => return .otherwise
      | 0x0b => return .done
      | 0x0c => return .branch (← index)
      | 0x0d => return .branchIf (← index)
      | 0x0e => return .branchTable (← vector index) (← index)
      | 0x0f => return .leave
      | 0x10 => return .call (← index)
      | 0x11 => return .callIndirect (← index) (← index)
      | 0x12 => return .tailCall (← index)
      | 0x13 => return .tailCallIndirect (← index) (← index)
      | 0x1a => return .drop
      | 0x1b => return .select
      | 0x1c => return .selectOf (← vector coreType)
      | 0x20 => return .localGet (← index)
      | 0x21 => return .localSet (← index)
      | 0x22 => return .localTee (← index)
      | 0x23 => return .globalGet (← index)
      | 0x24 => return .globalSet (← index)
      | 0x25 => return .tableGet (← index)
      | 0x26 => return .tableSet (← index)
      | 0x3f => return .memorySize (← index)
      | 0x40 => return .memoryGrow (← index)
      | 0x41 => return .constant .i32 (← signed 32)
      | 0x42 => return .constant .i64 (← signed 64)
      | 0x43 => do
        let _ ← raw 4
        return .constant .f32 0
      | 0x44 => do
        let _ ← raw 8
        return .constant .f64 0
      | 0xd0 => return .nullOf (← ofByte? referenceOf?)
      | 0xd1 => return .isNull
      | 0xd2 => return .functionOf (← index)
      | 0xfc => extended
      | 0xfd => Vector.instruction
      | 0xfe => Atomic.instruction
      | _ => failure

def body : Binary Expression := many instruction

end GuestBridge.Wasm.Opcode

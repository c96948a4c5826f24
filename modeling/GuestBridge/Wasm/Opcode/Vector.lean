import GuestBridge.Wasm.Binary
/-!
Instructions on vectors, which stand behind the byte `fd` and a number. Most of them only take
operands and yield one; the others say a place in memory, lanes of a vector, or both.
-/

set_option autoImplicit false

namespace GuestBridge.Wasm.Opcode.Vector

open Scan Binary

/-- Runs of consecutive numbers with what they have in common. -/
abbrev Runs (α : Type) := List (Nat × Nat × α)

def Runs.at? {α : Type} (runs : Runs α) (n : Nat) : Option α :=
  (runs.find? fun run => run.1 ≤ n && n ≤ run.2.1).map (·.2.2)

def unary : List CoreType × CoreType := ([.v128], .v128)

def binary : List CoreType × CoreType := ([.v128, .v128], .v128)

def ternary : List CoreType × CoreType := ([.v128, .v128, .v128], .v128)

def test : List CoreType × CoreType := ([.v128], .i32)

def shift : List CoreType × CoreType := ([.v128, .i32], .v128)

/-- The same operand in every lane. -/
def splat (t : CoreType) : List CoreType × CoreType := ([t], .v128)

/-- Operations that say nothing but their number, with what they take and yield. -/
def operations : Runs (List CoreType × CoreType) := [
  (0x0e, 0x0e, binary), (0x0f, 0x11, splat .i32), (0x12, 0x12, splat .i64),
  (0x13, 0x13, splat .f32), (0x14, 0x14, splat .f64), (0x23, 0x4c, binary), (0x4d, 0x4d, unary),
  (0x4e, 0x51, binary), (0x52, 0x52, ternary), (0x53, 0x53, test), (0x5e, 0x62, unary),
  (0x63, 0x64, test), (0x65, 0x66, binary), (0x67, 0x6a, unary), (0x6b, 0x6d, shift),
  (0x6e, 0x73, binary), (0x74, 0x75, unary), (0x76, 0x79, binary), (0x7a, 0x7a, unary),
  (0x7b, 0x7b, binary), (0x7c, 0x81, unary), (0x82, 0x82, binary), (0x83, 0x84, test),
  (0x85, 0x86, binary), (0x87, 0x8a, unary), (0x8b, 0x8d, shift), (0x8e, 0x93, binary),
  (0x94, 0x94, unary), (0x95, 0x99, binary), (0x9b, 0x9f, binary), (0xa0, 0xa1, unary),
  (0xa3, 0xa4, test), (0xa7, 0xaa, unary), (0xab, 0xad, shift), (0xae, 0xae, binary),
  (0xb1, 0xb1, binary), (0xb5, 0xba, binary), (0xbc, 0xbf, binary), (0xc0, 0xc1, unary),
  (0xc3, 0xc4, test), (0xc7, 0xca, unary), (0xcb, 0xcd, shift), (0xce, 0xce, binary),
  (0xd1, 0xd1, binary), (0xd5, 0xdf, binary), (0xe0, 0xe1, unary), (0xe3, 0xe3, unary),
  (0xe4, 0xeb, binary), (0xec, 0xed, unary), (0xef, 0xef, unary), (0xf0, 0xf7, binary),
  (0xf8, 0xff, unary), (0x100, 0x100, binary), (0x101, 0x104, unary), (0x105, 0x10c, ternary),
  (0x10d, 0x112, binary), (0x113, 0x113, ternary)]

/-- Operations on one lane: how many lanes there are, and what they take and yield. -/
def laneOperations : Runs (Nat × List CoreType × CoreType) := [
  (0x15, 0x16, 16, [.v128], .i32), (0x17, 0x17, 16, [.v128, .i32], .v128),
  (0x18, 0x19, 8, [.v128], .i32), (0x1a, 0x1a, 8, [.v128, .i32], .v128),
  (0x1b, 0x1b, 4, [.v128], .i32), (0x1c, 0x1c, 4, [.v128, .i32], .v128),
  (0x1d, 0x1d, 2, [.v128], .i64), (0x1e, 0x1e, 2, [.v128, .i64], .v128),
  (0x1f, 0x1f, 4, [.v128], .f32), (0x20, 0x20, 4, [.v128, .f32], .v128),
  (0x21, 0x21, 2, [.v128], .f64), (0x22, 0x22, 2, [.v128, .f64], .v128)]

/-- Reads of a vector, or of what becomes one, with the power of two of the bytes read. -/
def loads : Runs Nat := [
  (0x00, 0x00, 4), (0x01, 0x06, 3), (0x07, 0x07, 0), (0x08, 0x08, 1), (0x09, 0x09, 2),
  (0x0a, 0x0a, 3), (0x5c, 0x5c, 2), (0x5d, 0x5d, 3)]

/-- Reads and writes of one lane: what they yield beside taking a vector, the power of two of the
bytes moved, and how many lanes there are. -/
def laneAccesses : Runs (List CoreType × Nat × Nat) := [
  (0x54, 0x54, [.v128], 0, 16), (0x55, 0x55, [.v128], 1, 8), (0x56, 0x56, [.v128], 2, 4),
  (0x57, 0x57, [.v128], 3, 2), (0x58, 0x58, [], 0, 16), (0x59, 0x59, [], 1, 8),
  (0x5a, 0x5a, [], 2, 4), (0x5b, 0x5b, [], 3, 2)]

def lane (count : Nat) : Binary Unit := do
  let _ ← next fun b => b.toNat < count

def tabled (n : Nat) : Binary Instruction := do
  match operations.at? n, laneOperations.at? n, loads.at? n, laneAccesses.at? n with
  | some (takes, yields), _, _, _ => return .operate takes yields
  | _, some (lanes, takes, yields), _, _ =>
    lane lanes
    return .operate takes yields
  | _, _, some width, _ => return .access [] [.v128] width (← place)
  | _, _, _, some (yields, width, lanes) =>
    let p ← place
    lane lanes
    return .access [.v128] yields width p
  | _, _, _, _ => failure

def instruction : Binary Instruction := do
  match ← index with
  | 0x0b => return .access [.v128] [] 4 (← place)
  | 0x0c =>
    let _ ← raw 16
    return .constant .v128 0
  | 0x0d =>
    let _ ← times (lane 32) 16
    return .operate [.v128, .v128] .v128
  | n => tabled n

end GuestBridge.Wasm.Opcode.Vector

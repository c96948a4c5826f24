import GuestBridge.Wasm.Binary
/-!
Instructions for memories that several threads use, which stand behind the byte `fe` and a number.
-/

set_option autoImplicit false

namespace GuestBridge.Wasm.Opcode.Atomic

open Scan Binary

/-- The type of the operands and the power of two of the bytes moved. Every kind of access comes in
these shapes, in this order. -/
def shapes : List (CoreType × Nat) := [
  (.i32, 2), (.i64, 3), (.i32, 0), (.i32, 1), (.i64, 0), (.i64, 1), (.i64, 2)]

/-- What an access of a kind takes beside the address, and what it yields: a read, a write, six ways
to combine what is there with an operand, and an exchange on a condition. -/
def operands? (kind : Nat) (t : CoreType) : Option (List CoreType × List CoreType) :=
  match kind with
  | 0 => some ([], [t])
  | 1 => some ([t], [])
  | 2 | 3 | 4 | 5 | 6 | 7 => some ([t], [t])
  | 8 => some ([t, t], [t])
  | _ => none

def access (n : Nat) : Binary Instruction := do
  match shapes[n % shapes.length]? with
  | some (t, width) =>
    match operands? (n / shapes.length) t with
    | some (takes, yields) => return .atomic takes yields width (← place)
    | none => failure
  | none => failure

def instruction : Binary Instruction := do
  match ← index with
  | 0x00 => return .atomic [.i32] [.i32] 2 (← place)
  | 0x01 => return .atomic [.i32, .i64] [.i32] 2 (← place)
  | 0x02 => return .atomic [.i64, .i64] [.i32] 3 (← place)
  | 0x03 =>
    mark 0
    return .fence
  | n => if n < 0x10 then failure else access (n - 0x10)

end GuestBridge.Wasm.Opcode.Atomic

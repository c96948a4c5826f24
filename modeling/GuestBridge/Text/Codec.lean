import GuestBridge.Memory
import GuestBridge.Text.Utf8
/-!
Reading text out of guest memory. A codec counts the bytes its current decoder was given, whether
or not they decode, and changes to a fresh decoder when the count reaches a ceiling.
-/

set_option autoImplicit false

namespace GuestBridge

structure Codec where
  generation : Nat
  /-- Bytes given to the current decoder, clamped to 64 bits. -/
  decoded : Nat
  ceiling : Nat
  deriving DecidableEq, Repr

namespace Codec

def fresh (ceiling : Nat) : Codec := ⟨0, 0, ceiling⟩

/-- Counts bytes about to be decoded; those that reach the ceiling go to a fresh decoder. -/
def account (c : Codec) (length : Nat) : Codec :=
  let total := min (c.decoded + length) (UInt64.size - 1)
  if c.ceiling ≤ total then { c with generation := c.generation + 1, decoded := length }
  else { c with decoded := total }

def text (m : Memory) (offset length : UInt32) : Except Fault String := do
  let bytes ← m.read offset length
  match Text.Utf8.decode bytes with
  | .ok s => return s
  | .error validUpTo => throw (.decode validUpTo length.toNat)

/-- Bytes count even when the range is out of bounds or ill-formed. -/
def read (c : Codec) (m : Memory) (offset length : UInt32) : Except Fault String × Codec :=
  (text m offset length, c.account length.toNat)

end Codec

end GuestBridge

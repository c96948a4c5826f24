import GuestBridge.Memory
import GuestBridge.Text.Transfer
/-!
A stand-in for a guest's allocator: a pointer that moves up through a memory which may grow, may
answer with one fixed address, and may fail at a chosen call.
-/

set_option autoImplicit false

namespace GuestBridge.Sample.Arena

inductive Call
  | malloc (size align : UInt32)
  | realloc (pointer old new align : UInt32)
  deriving DecidableEq, Repr

def Call.text : Call → String
  | .malloc size align => s!"malloc({size},{align})"
  | .realloc pointer old new align => s!"realloc({pointer},{old},{new},{align})"

structure State where
  memory : Memory
  top : UInt32
  canRealloc : Bool
  grows : Bool
  /-- The address that every allocation yields, if there is one. -/
  fixed : Option UInt32
  /-- The number of the call that fails. -/
  failAt : Option Nat
  calls : List Call
  deriving DecidableEq, Repr

/-- The next block. -/
def bump (size : UInt32) : Action State UInt32 := do
  let s ← get
  match s.fixed with
  | some pointer => return pointer
  | none =>
    let top := s.top + size
    let memory :=
      if s.grows && s.memory.size < top.toNat then s.memory.resize top.toNat else s.memory
    set { s with top := top, memory := memory }
    return s.top

/-- Notes a call, which may be the one that fails. -/
def note (call : Call) : Action State Unit := do
  modify fun s => { s with calls := s.calls ++ [call] }
  let s ← get
  if s.failAt = some s.calls.length then throw (.standIn "mock: allocator failed")

def malloc (size align : UInt32) : Action State UInt32 := do
  note (.malloc size align)
  bump size

/-- Copies bytes one after the other, leaving out those that are not in memory on both sides. -/
def copyBytes (m : Memory) (source target count : Nat) : Memory :=
  count.fold (fun i _ m => m.store (target + i) (m.slice (source + i) 1)) m

def realloc (pointer old new align : UInt32) : Action State UInt32 := do
  note (.realloc pointer old new align)
  if new ≤ old then return pointer
  let fresh ← bump new
  modify fun s => { s with memory := copyBytes s.memory pointer.toNat fresh.toNat old.toNat }
  return fresh

def write (offset : UInt32) (data : List UInt8) : Action State Unit := do
  let s ← get
  set { s with memory := ← Action.conclude (s.memory.write offset data) }

def allocator (canRealloc : Bool) : Allocator State where
  malloc := malloc
  realloc? := if canRealloc then some realloc else none
  write := write

/-- Puts a text into the arena; yields its pointer and length. -/
def writeText (s : String) : Action State (UInt32 × UInt32) := do
  (allocator (← get).canRealloc).writeText s

def writeBytes (data : List UInt8) : Action State (UInt32 × UInt32) := do
  (allocator (← get).canRealloc).writeBytes data

/-- Forgets the calls so far, and that one of them was to fail. -/
def settle : Action State Unit :=
  modify fun s => { s with calls := [], failAt := none }

end GuestBridge.Sample.Arena

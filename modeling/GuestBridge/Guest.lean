import GuestBridge.Memory
import GuestBridge.Surface
/-!
Guest modules. A guest function is a program over the guest's own state and memory that calls its
imports by their position; it says nothing about what the imports do. Every run of a program is
finite, and only calls of imports lead out of it.
-/

set_option autoImplicit false

namespace GuestBridge

/-- A machine value that crosses the boundary. -/
inductive Core
  | word (w : UInt32)
  | double (x : Double)
  deriving DecidableEq, Repr

def Core.type : Core → CoreType
  | .word _ => .i32
  | .double _ => .f64

/-- What a guest does, over a state `σ` of its own, until it yields an `α`. -/
inductive Code (σ α : Type)
  | yield (a : α)
  | trap (t : Trap)
  | read (next : σ → Code σ α)
  | write (s : σ) (next : Code σ α)
  /-- Calls an import by its position. -/
  | call (index : Nat) (args : List Core) (next : List Core → Code σ α)
  /-- The size of memory in bytes. -/
  | size (next : Nat → Code σ α)
  /-- Adds pages to memory; yields the old number of pages, or nothing if memory cannot grow. -/
  | grow (pages : Nat) (next : Option Nat → Code σ α)
  /-- Bytes from memory; traps if there are none. -/
  | load (offset length : Nat) (next : List UInt8 → Code σ α)
  | store (offset : Nat) (data : List UInt8) (next : Code σ α)
  /-- Leaves a line in the journal. -/
  | note (name : String) (words : List UInt32) (next : Code σ α)

namespace Code

variable {σ α β : Type}

def bind : Code σ α → (α → Code σ β) → Code σ β
  | .yield a, f => f a
  | .trap t, _ => .trap t
  | .read next, f => .read fun s => (next s).bind f
  | .write s next, f => .write s (next.bind f)
  | .call index args next, f => .call index args fun results => (next results).bind f
  | .size next, f => .size fun n => (next n).bind f
  | .grow pages next, f => .grow pages fun old => (next old).bind f
  | .load offset length next, f => .load offset length fun data => (next data).bind f
  | .store offset data next, f => .store offset data (next.bind f)
  | .note name words next, f => .note name words (next.bind f)

instance : Monad (Code σ) where
  pure := .yield
  bind := bind

def getState : Code σ σ := .read .yield

def setState (s : σ) : Code σ Unit := .write s (.yield ())

def memorySize : Code σ Nat := .size .yield

def growMemory (pages : Nat) : Code σ (Option Nat) := .grow pages .yield

def loadBytes (offset length : Nat) : Code σ (List UInt8) := .load offset length .yield

def storeBytes (offset : Nat) (data : List UInt8) : Code σ Unit := .store offset data (.yield ())

def record (name : String) (words : List UInt32) : Code σ Unit := .note name words (.yield ())

end Code

structure GuestFunction (σ : Type) where
  type : Signature
  body : List Core → Code σ (List Core)

abbrev FunctionTable (σ : Type) := List (Option (GuestFunction σ))

/-- Something that a guest module exports. -/
inductive Extern (σ : Type)
  | func (f : GuestFunction σ)
  | table (entries : FunctionTable σ)
  /-- Pages at the start and at most. -/
  | memory (pages maxPages : Nat)
  /-- A memory that other threads may use too; a bridge does not work on it. -/
  | sharedMemory
  | global

def Extern.kind {σ : Type} : Extern σ → ExternKind
  | .func _ => .func
  | .table _ => .table
  | .memory .. | .sharedMemory => .memory
  | .global => .global

def Extern.signature? {σ : Type} : Extern σ → Option Signature
  | .func f => some f.type
  | _ => none

structure GuestModule (σ : Type) where
  imports : List ImportDecl
  exports : List (String × Extern σ)
  /-- What memory holds at the start, by offset, as far as it fits; zeros elsewhere. -/
  data : List (Nat × List UInt8)
  /-- Runs when an instance is made, before its exports can be used. -/
  onCreation : Option (Code σ Unit)
  initial : σ

namespace GuestModule

variable {σ : Type}

def surface (m : GuestModule σ) : Surface where
  imports := m.imports
  exports := m.exports.map fun (name, e) => ⟨name, e.kind, e.signature?⟩

/-- The memory of a new instance. -/
def initialMemory (m : GuestModule σ) (pages : Nat) : Memory :=
  m.data.foldl (fun memory (offset, bytes) => memory.store offset bytes)
    (.zeroed 0 (pages * Memory.pageSize))

def find? (m : GuestModule σ) (name : String) : Option (Extern σ) :=
  (m.exports.find? fun e => e.1 == name).map (·.2)

def function? (m : GuestModule σ) (name : String) : Option (GuestFunction σ) :=
  match m.find? name with
  | some (.func f) => some f
  | _ => none

def table? (m : GuestModule σ) (name : String) : Option (FunctionTable σ) :=
  match m.find? name with
  | some (.table entries) => some entries
  | _ => none

/-- Pages at the start and at most of an exported memory. -/
def memory? (m : GuestModule σ) (name : String) : Option (Nat × Nat) :=
  match m.find? name with
  | some (.memory pages maxPages) => some (pages, maxPages)
  | _ => none

end GuestModule

end GuestBridge

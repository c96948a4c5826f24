import GuestBridge.Bridge
import GuestBridge.Text.Transfer
/-!
What host code does with a bound guest: read and write its memory, give and take handles, call its
allocator and its closures.
-/

set_option autoImplicit false

namespace GuestBridge.BridgeAction

variable {σ : Type}

def changeRealm (f : Realm → Realm) : BridgeAction σ Unit :=
  modify fun b => { b with host := { b.host with realm := f b.host.realm } }

def inRealm {α : Type} (f : Realm → α × Realm) : BridgeAction σ α := do
  let b ← get
  let (a, realm) := f b.host.realm
  set { b with host := { b.host with realm := realm } }
  return a

def hold (v : Value) : BridgeAction σ Unit := changeRealm (·.hold v)

def letGo (v : Value) : BridgeAction σ Unit := changeRealm (·.letGo v)

/-- The bound exports; a fault until there are any. -/
def bound : BridgeAction σ (BoundExports σ) := do
  match (← get).bound with
  | some exports => return exports
  | none => throw .notInitialized

/-- Stores a value that the caller gives up. -/
def alloc (v : Value) : BridgeAction σ UInt32 := do
  let b ← get
  let (handle, handles) := b.handles.alloc v
  set { b with handles := handles }
  return handle

/-- The value behind a handle, which stays where it is. -/
def peek (handle : UInt32) : BridgeAction σ Value := return (← get).handles.get handle

/-- Like `peek`, with the fault of a strict table. -/
def tryPeek (handle : UInt32) : BridgeAction σ Value := do
  Action.conclude ((← get).handles.tryGet handle)

/-- Takes a value out of the table; the caller has it from now on. -/
def take (handle : UInt32) : BridgeAction σ Value := do
  let b ← get
  let (v, handles) ← Action.conclude (b.handles.take handle)
  set { b with handles := handles }
  return v

def release (handle : UInt32) : BridgeAction σ Unit := do
  let b ← get
  let (v?, handles) ← Action.conclude (b.handles.release handle)
  set { b with handles := handles }
  match v? with
  | some v => letGo v
  | none => pure ()

def cloneRef (handle : UInt32) : BridgeAction σ UInt32 := do
  let v ← tryPeek handle
  hold v
  alloc v

/-- Looks up the view of a kind over the guest's memory as it is now. -/
def view (kind : ViewKind) : BridgeAction σ Memory := do
  let _ ← bound
  let b ← get
  set { b with views := b.views.lookup kind b.machine.memory }
  return b.machine.memory

def setMemory (m : Memory) : BridgeAction σ Unit :=
  modify fun b => { b with machine := { b.machine with memory := m } }

def readText (offset length : UInt32) : BridgeAction σ String := do
  let m ← view .bytes
  let b ← get
  let (text, codec) := b.codec.read m offset length
  set { b with codec := codec }
  Action.conclude text

def readBytes (offset length : UInt32) : BridgeAction σ (List UInt8) := do
  Action.conclude ((← view .bytes).read offset length)

def readWords (offset count : UInt32) : BridgeAction σ (List UInt32) := do
  Action.conclude ((← view .words).readWords offset count)

def writeBytes (offset : UInt32) (data : List UInt8) : BridgeAction σ Unit := do
  setMemory (← Action.conclude ((← view .bytes).write offset data))

def writeWord (offset word : UInt32) : BridgeAction σ Unit := do
  setMemory (← Action.conclude ((← view .words).writeWord offset word))

def writeDouble (offset : UInt32) (x : Double) : BridgeAction σ Unit := do
  setMemory (← Action.conclude ((← view .doubles).writeDouble offset x))

/-- Two words in a row, through one lookup of the view. -/
def writePair (offset first second : UInt32) : BridgeAction σ Unit := do
  let m ← Action.conclude ((← view .words).writeWord offset first)
  setMemory m
  setMemory (← Action.conclude (m.writeWord (offset + 4) second))

/-- The only word that a guest function yields. -/
def theWord : List Core → BridgeAction σ UInt32
  | [.word w] => return w
  | _ => throw .declined

def callWord (call : GuestCaller σ) (f : GuestFunction σ) (args : List UInt32) :
    BridgeAction σ UInt32 := do
  theWord (← call f (args.map .word))

def callUnit (call : GuestCaller σ) (f : GuestFunction σ) (args : List UInt32) :
    BridgeAction σ Unit := do
  let _ ← call f (args.map .word)

/-- The guest's allocator. -/
def allocator (call : GuestCaller σ) (exports : BoundExports σ) : Allocator (Bridge σ) where
  malloc size align := callWord call exports.malloc [size, align]
  realloc? := exports.realloc?.map fun realloc pointer old new align =>
    callWord call realloc [pointer, old, new, align]
  write := writeBytes

def passText (call : GuestCaller σ) (s : String) : BridgeAction σ (UInt32 × UInt32) := do
  (allocator call (← bound)).writeText s

def passBytes (call : GuestCaller σ) (data : List UInt8) : BridgeAction σ (UInt32 × UInt32) := do
  (allocator call (← bound)).writeBytes data

/-- Stores a failure in the guest's exception slot. -/
def raise (call : GuestCaller σ) (failure : Failure) : BridgeAction σ Unit := do
  let handle ← alloc (← inRealm (·.newError failure))
  callUnit call (← bound).exnStore [handle]

/-- The result of an operation; a fault goes to the guest's exception slot instead, and the
sentinel takes its place. -/
def orRaise {α : Type} (call : GuestCaller σ) (act : BridgeAction σ α) (sentinel : α) :
    BridgeAction σ α := do
  match ← Action.attempt act with
  | .ok a => return a
  | .error fault =>
    raise call fault.asFailure
    return sentinel

/-- A function in the guest's table, of the type that the caller needs. -/
def tableFunction (index : UInt32) (type : Signature) : BridgeAction σ (GuestFunction σ) := do
  match (← bound).table? with
  | none => throw (.missingExport (← get).settings.exports.table)
  | some entries =>
    match (entries[index.toNat]?).join with
    | none => throw (.badTableEntry index)
    | some f => if f.type = type then return f else throw .declined

def closureType : Signature := ⟨[.i32, .i32, .i32], [.i32]⟩

def destructorType : Signature := ⟨[.i32, .i32], []⟩

def closureCalls (call : GuestCaller σ) : ClosureCalls (Bridge σ) where
  run code data metaWord argument := do
    callWord call (← tableFunction code closureType) [data, metaWord, argument]
  destroy destructor data metaWord := do
    callUnit call (← tableFunction destructor destructorType) [data, metaWord]

/-- Runs a closure on a value that the caller gives up, and takes over the value it yields. The
closure must be held meanwhile. -/
def invokeClosure (call : GuestCaller σ) (closure : Nat) (argument : Value) :
    BridgeAction σ Value := do
  let handle ← alloc argument
  take (← (closureCalls call).invoke closure handle)

def runFinalizers (call : GuestCaller σ) : List Finalizer → BridgeAction σ Nat
  | [] => return 0
  | f :: rest => do
    (closureCalls call).destroy f.destructor f.data f.metaWord
    return (← runFinalizers call rest) + 1

/-- Takes the queued destructor calls of the guest in batches and makes them, until none is left. A
destructor that fails ends this, and the rest of its batch is not called. -/
def drainBatches (call : GuestCaller σ) : Nat → BridgeAction σ Nat
  | 0 => throw .exhausted
  | turns + 1 => do
    let batch ← inRealm fun r =>
      let (batch, closures) := r.closures.takeFinalizers .guest
      (batch, { r with closures := closures })
    if batch.isEmpty then return 0
    let ran ← runFinalizers call batch
    return (← drainBatches call turns) + ran

end GuestBridge.BridgeAction

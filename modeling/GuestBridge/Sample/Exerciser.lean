import GuestBridge.Guest
import GuestBridge.Linking
import GuestBridge.Sample.Probes
/-!
A guest that exports every import under its own name, allocates by moving a pointer, notes each
call of its allocator and its closures in the journal, and has closures that do what their second
environment word says.
-/

set_option autoImplicit false

namespace GuestBridge.Sample.Exerciser

structure State where
  /-- Where the next block goes. -/
  heap : UInt32 := 1024
  /-- Handles that the closures work on. -/
  closure : UInt32 := 0
  target : UInt32 := 0
  /-- How often closures may still call or schedule others. -/
  fuel : UInt32 := 0
  /-- Pointer and length of the text that closures throw. -/
  thrown : UInt32 × UInt32 := (0, 0)

abbrev Program (α : Type) := Code State α

abbrev Function := GuestFunction State

def intrinsicImports : List ImportDecl :=
  Intrinsic.all.map fun op => ⟨"__bridge", op.name, .func, some op.signature⟩

def hostImports : List ImportDecl :=
  capabilities.map fun c => ⟨"host", c.name, .func, some c.signature⟩

def imports : List ImportDecl := intrinsicImports ++ hostImports

/-- Calls an import by its name. -/
def callImport (name : String) (args : List Core) : Program (List Core) :=
  .call ((imports.findIdx? fun i => i.name == name).getD imports.length) args .yield

/-- Calls an import for the word that it yields; zero if it yields none. -/
def askImport (name : String) (args : List UInt32) : Program UInt32 := do
  match ← callImport name (args.map .word) with
  | [.word w] => return w
  | _ => return 0

def tellImport (name : String) (args : List UInt32) : Program Unit := do
  let _ ← callImport name (args.map .word)

/-- A word as a signed number. -/
def signed (w : UInt32) : Int := w.toBitVec.toInt

/-- The next block of memory, which grows if it has to and can. -/
def bump (size align : UInt32) : Program UInt32 := do
  let s ← Code.getState
  let pointer := (s.heap + align - 1) &&& (0 - align)
  let top := pointer + size
  let bytes ← Code.memorySize
  if bytes < top.toNat then
    let _ ← Code.growMemory ((top.toNat - bytes) / Memory.pageSize + 1)
  Code.setState { s with heap := top }
  return pointer

def malloc (size align : UInt32) : Program UInt32 := do
  let pointer ← bump size align
  Code.record "malloc" [size, align, pointer]
  return pointer

/-- Moves a block only to make it larger. -/
def realloc (pointer old new align : UInt32) : Program UInt32 := do
  let fresh ← if old < new then bump new align else pure pointer
  if old < new then
    Code.storeBytes fresh.toNat (← Code.loadBytes pointer.toNat old.toNat)
  Code.record "realloc" [pointer, old, new, align, fresh]
  return fresh

/-- Uses one unit of fuel, if there is any. -/
def useFuel : Program Bool := do
  let s ← Code.getState
  if 0 < signed s.fuel then
    Code.setState { s with fuel := s.fuel - 1 }
    return true
  return false

def newNumber (w : UInt32) : Program UInt32 := do
  match ← callImport "number_new" [.double (Double.ofInt32Word w)] with
  | [.word handle] => return handle
  | _ => return 0

/-- What a closure does, by its second environment word. -/
def behave (data metaWord argument : UInt32) : Program UInt32 := do
  let s ← Code.getState
  match metaWord.toNat with
  | 1 =>
    tellImport "cb_drop" [s.closure]
    return argument
  | 2 =>
    tellImport "throw" [s.thrown.1, s.thrown.2]
    return argument
  | 3 => .trap .unreachable
  | 4 => if ← useFuel then askImport "function_call" [s.target, argument] else return argument
  | 5 =>
    tellImport "object_drop_ref" [argument]
    return 0
  | 6 =>
    tellImport "object_drop_ref" [argument]
    newNumber data
  | 7 =>
    if ← useFuel then tellImport "queue_microtask" [s.target]
    return argument
  | 8 =>
    if ← useFuel then tellImport "set_timeout" [s.target, data]
    return argument
  | 9 =>
    let _ ← Code.growMemory 1
    return argument
  | 10 =>
    tellImport "object_drop_ref" [s.closure]
    return argument
  | 11 => askImport "promise_resolve" [argument]
  | 12 => askImport "promise_then" [argument, s.target]
  | 13 =>
    tellImport "host_crash" [s.thrown.1, s.thrown.2]
    return argument
  | 14 =>
    tellImport "host_fail" [s.thrown.1, s.thrown.2]
    return argument
  | 15 => return argument + 1000
  | 16 => return s.target
  | 17 =>
    tellImport "clear_timeout" [data]
    return argument
  | _ => return argument

/-- Signed division. -/
def divide (a b : UInt32) : Program UInt32 :=
  if b = 0 then .trap .divideByZero
  else if a = 0x80000000 ∧ b = 0xffffffff then .trap .integerOverflow
  else return UInt32.ofBitVec (BitVec.sdiv a.toBitVec b.toBitVec)

/-- Makes a closure and releases its only handle. -/
def leak (destructor data : UInt32) : Program Unit := do
  tellImport "object_drop_ref" [← askImport "closure_new" [0, destructor, data, 0]]

/-- A function of words, with the word it yields if it yields one. -/
def function (arity : Nat) (body : List UInt32 → Program (Option UInt32)) (yields : Bool) :
    Function where
  type := ⟨List.replicate arity .i32, if yields then [.i32] else []⟩
  body args := do
    let result ← body (args.map fun | .word w => w | .double _ => 0)
    return (result.map Core.word).toList

def function0 (body : Program Unit) : Function := function 0 (fun _ => do body; return none) false

def function1 (body : UInt32 → Program Unit) : Function :=
  function 1 (fun | [a] => do body a; return none | _ => return none) false

def function2 (body : UInt32 → UInt32 → Program Unit) : Function :=
  function 2 (fun | [a, b] => do body a b; return none | _ => return none) false

def invokeEntry : Function :=
  function 3 (fun
    | [data, metaWord, argument] => do
      Code.record "invoke" [data, metaWord, argument]
      let result ← behave data metaWord argument
      Code.record "return" [result]
      return some result
    | _ => return none) true

def destructorEntry : Function := function2 fun data metaWord =>
  Code.record "dtor" [data, metaWord]

def trappingDestructorEntry : Function := function2 fun data metaWord => do
  Code.record "dtor" [data, metaWord]
  .trap .unreachable

def makeNumberEntry : Function :=
  function 3 (fun | data :: _ => do return some (← newNumber data) | _ => return none) true

def table : FunctionTable State := [
  some invokeEntry, some destructorEntry, some trappingDestructorEntry, none,
  some (function0 (pure ())), some makeNumberEntry]

/-- An import under its own name. -/
def passThrough (i : ImportDecl) : String × Extern State :=
  (i.name, .func ⟨i.signature.getD ⟨[], []⟩, callImport i.name⟩)

def ownExports (pages : Nat) : List (String × Extern State) := [
  ("memory", .memory pages 16),
  ("__indirect_function_table", .table table),
  ("__bridge_malloc", .func (function 2 (fun
    | [size, align] => do return some (← malloc size align)
    | _ => return none) true)),
  ("__bridge_realloc", .func (function 4 (fun
    | [pointer, old, new, align] => do return some (← realloc pointer old new align)
    | _ => return none) true)),
  ("__bridge_free", .func (function 3 (fun args => do
    Code.record "free" args
    return none) false)),
  ("__bridge_exn_store", .func (function1 fun handle => Code.record "exn" [handle])),
  ("__bridge_start", .func (function0 (Code.record "start" []))),
  ("make_closure", .func (function 4 (fun args => do
    let handle ← askImport "closure_new" args
    Code.setState { ← Code.getState with closure := handle }
    return some handle) true)),
  ("set_closure", .func (function1 fun h => do
    Code.setState { ← Code.getState with closure := h })),
  ("set_target", .func (function1 fun h => do
    Code.setState { ← Code.getState with target := h })),
  ("set_fuel", .func (function1 fun n => do
    Code.setState { ← Code.getState with fuel := n })),
  ("set_throw", .func (function2 fun pointer length => do
    Code.setState { ← Code.getState with thrown := (pointer, length) })),
  ("set_heap", .func (function1 fun pointer => do
    Code.setState { ← Code.getState with heap := pointer })),
  ("leak", .func (function2 leak)),
  ("leak_then_trap", .func (function2 fun destructor data => do
    leak destructor data
    .trap .unreachable)),
  ("store_byte", .func (function2 fun offset w => Code.storeBytes offset.toNat [w.toUInt8])),
  ("store_word", .func (function2 fun offset w =>
    Code.storeBytes offset.toNat (Memory.toLittleEndian 4 w.toNat))),
  ("load_word", .func (function 1 (fun
    | [offset] => do
      return some (UInt32.ofNat (Memory.littleEndian (← Code.loadBytes offset.toNat 4)))
    | _ => return none) true)),
  ("load_f64", .func ⟨⟨[.i32], [.f64]⟩, fun
    | [.word offset] => do
      let data ← Code.loadBytes offset.toNat 8
      return [.double ⟨UInt64.ofNat (Memory.littleEndian data)⟩]
    | _ => return []⟩),
  ("grow", .func (function 1 (fun
    | [pages] => do
      return some (((← Code.growMemory pages.toNat).map UInt32.ofNat).getD 0xffffffff)
    | _ => return none) true)),
  ("trap", .func (function0 (.trap .unreachable))),
  ("div", .func (function 2 (fun
    | [a, b] => do return some (← divide a b)
    | _ => return none) true))]

/-- The guest with this many pages of memory at the start. -/
def guest (pages : Nat) : GuestModule State where
  imports := imports
  exports := ownExports pages ++ imports.map passThrough
  data := []
  onCreation := none
  initial := {}

/-- A guest that calls its imports while it is being made: the first call works without its
exports, the second does not, so that making it always fails. -/
def early : GuestModule State where
  imports := [
    ⟨"__bridge", "number_new", .func, some Intrinsic.numberNew.signature⟩,
    ⟨"__bridge", "string_new", .func, some Intrinsic.stringNew.signature⟩]
  exports := [
    ("memory", .memory 1 65536),
    ("__bridge_malloc", .func (function 2 (fun _ => return some 1024) true)),
    ("__bridge_exn_store", .func (function1 fun _ => pure ())),
    ("trap", .func (function0 (.trap .unreachable)))]
  data := []
  onCreation := some do
    let _ ← (.call 0 [.double ⟨0x3ff8000000000000⟩] .yield : Program (List Core))
    let _ ← (.call 1 [.word 0, .word 0] .yield : Program (List Core))
  initial := {}

end GuestBridge.Sample.Exerciser

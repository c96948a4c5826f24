import GuestBridge.Guest
import GuestBridge.Intrinsic
import GuestBridge.Text.Utf8
/-!
A guest that logs `tick` from its timers and microtasks, one of which schedules another.
-/

set_option autoImplicit false

namespace GuestBridge.Sample.Ticker

abbrev Program (α : Type) := Code Unit α

def imports : List ImportDecl := [
  ⟨"__bridge", "closure_new", .func, some Intrinsic.closureNew.signature⟩,
  ⟨"__bridge", "number_new", .func, some Intrinsic.numberNew.signature⟩,
  ⟨"host", "console_log", .func, some ⟨[.i32, .i32], []⟩⟩,
  ⟨"host", "set_timeout", .func, some ⟨[.i32, .i32], [.i32]⟩⟩,
  ⟨"host", "queue_microtask", .func, some ⟨[.i32], []⟩⟩]

/-- Where the logged text stands in memory. -/
def textOffset : UInt32 := 16

def newClosure (metaWord : UInt32) : Program Core := do
  let results ← (.call 0 [.word 0, .word 1, .word 0, .word metaWord] .yield : Program (List Core))
  return results.headD (.word 0)

def log : Program Unit := do
  let _ ← (.call 2 [.word textOffset, .word 4] .yield : Program (List Core))

/-- Has a new closure called after a delay. -/
def later (metaWord delay : UInt32) : Program Unit := do
  let handle ← newClosure metaWord
  let _ ← (.call 3 [handle, .word delay] .yield : Program (List Core))

/-- Every closure logs; some schedule another call, some fail. -/
def invokeEntry : GuestFunction Unit where
  type := ⟨[.i32, .i32, .i32], [.i32]⟩
  body
    | [_, metaWord, argument] => do
      log
      match metaWord with
      | .word 1 => later 0 7
      | .word 2 => .trap .unreachable
      | _ => pure ()
      return [argument]
    | _ => return []

def destructorEntry : GuestFunction Unit := ⟨⟨[.i32, .i32], []⟩, fun _ => return []⟩

def start : Program Unit := do
  log
  later 0 5
  later 1 10
  later 0 10
  let handle ← newClosure 0
  let _ ← (.call 4 [handle] .yield : Program (List Core))

def more : Program Unit := do
  log
  let _ ← (.call 1 [.double (Double.ofNat 3)] .yield : Program (List Core))
  later 0 1

def command (body : Program Unit) : Extern Unit :=
  .func ⟨⟨[], []⟩, fun _ => do body; return []⟩

def guest : GuestModule Unit where
  imports := imports
  exports := [
    ("memory", .memory 1 65536),
    ("__indirect_function_table", .table [some invokeEntry, some destructorEntry]),
    ("__bridge_malloc", .func ⟨⟨[.i32, .i32], [.i32]⟩, fun _ => return [.word 1024]⟩),
    ("__bridge_exn_store", .func ⟨⟨[.i32], []⟩, fun _ => return []⟩),
    ("__bridge_start", command start),
    ("more", command more),
    ("bomb", command (later 2 20)),
    ("boom", command (.trap .unreachable)),
    ("with_arg", .func ⟨⟨[.i32], []⟩, fun _ => return []⟩)]
  data := [(textOffset.toNat, Text.Utf8.encode "tick")]
  onCreation := none
  initial := ()

end GuestBridge.Sample.Ticker

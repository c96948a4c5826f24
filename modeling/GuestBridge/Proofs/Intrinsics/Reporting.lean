import GuestBridge.Proofs.Guests.Entry
import GuestBridge.Proofs.Thunks.Failures
/-!
What becomes of a fault inside an operation of the bridge that reports it; and guests that do
nothing but use such operations.
-/

set_option autoImplicit false

namespace GuestBridge

namespace BridgeAction

variable {σ α : Type} {exports : BoundExports σ} {b b₁ : Bridge σ}

theorem perform_orRaise_error {act : BridgeAction σ α} {fault : Fault}
    (failed : act.perform b = (.error fault, b₁)) (present : b₁.bound = some exports)
    (call : GuestCaller σ) (sentinel : α) :
    (orRaise call act sentinel).perform b = (do
      callUnit call exports.exnStore [(b₁.raising fault.asFailure).1]
      return sentinel : BridgeAction σ α).perform (b₁.raising fault.asFailure).2 := by
  have attempted : (Action.attempt act).perform b = (.ok (.error fault), b₁) := by
    rw [Action.perform_attempt, failed]
  unfold orRaise
  rw [Action.perform_bind_ok _ _ attempted]
  show (raise call fault.asFailure >>= fun _ => pure sentinel).perform b₁ = _
  rw [Action.perform_bind, perform_raise present, Action.perform_bind]

/-- An operation that reports a fault, and makes of the sentinel what a guest gets for a failure,
stores the failure. -/
theorem stores_orRaise {act : BridgeAction σ α} {sentinel : α} {fault : Fault} {kind : ResultKind}
    {next : GuestCaller σ → α → BridgeAction σ (List Core)}
    (failed : act.perform b = (.error fault, b₁)) (present : b.bound = some exports)
    (held : b₁.bound = some exports) (direct : kind.usesReturnPointer = false)
    (ends : ∀ call b, (next call sentinel).perform b = (.ok kind.sentinel, b)) :
    Stores exports kind 0 fault.asFailure b₁ fun call => (do
      let _ ← bound
      let a ← orRaise call act sentinel
      next call a : BridgeAction σ (List Core)).perform b := by
  have raised : Raises exports kind 0 fault.asFailure b₁ fun call => (do
      let _ ← bound
      let a ← orRaise call act sentinel
      next call a : BridgeAction σ (List Core)).perform b := by
    intro call
    show (bound >>= fun _ => orRaise call act sentinel >>= next call).perform b = _
    rw [Action.perform_bind_ok _ _ (perform_bound_some present), Action.perform_bind,
      perform_orRaise_error failed held, Action.perform_bind, Action.perform_bind]
    rcases (callUnit call exports.exnStore _).perform _ with ⟨_ | _, after⟩
    · rfl
    · show (next call sentinel).perform after = (leave kind 0).perform after
      rw [ends, leave, direct]
      rfl
  apply raised.stores held
  intro uses
  rw [direct] at uses
  cases uses

end BridgeAction

namespace Relay

def malloc : GuestFunction Unit := ⟨⟨[.i32, .i32], [.i32]⟩, fun _ => .yield [.word 0]⟩

def exnStore : GuestFunction Unit := ⟨⟨[.i32], []⟩, fun _ => .note "exn" [] (.yield [])⟩

/-- A guest with an export for each of some operations, which hands on its arguments; it notes when
its exception slot is called. -/
def guest (ops : List Intrinsic) : GuestModule Unit where
  imports := ops.map fun op => ⟨"__bridge", op.name, .func, some op.signature⟩
  exports := [
    ("memory", .memory 1 1),
    ("__bridge_malloc", .func malloc),
    ("__bridge_exn_store", .func exnStore)] ++
      ops.zipIdx.map fun (op, i) => (op.name, .func ⟨op.signature, fun args => .call i args .yield⟩)
  data := []
  onCreation := none
  initial := ()

/-- The same with a function table. -/
def tabled (ops : List Intrinsic) (table : FunctionTable Unit) : GuestModule Unit :=
  { guest ops with
    exports := (guest ops).exports ++ [("__indirect_function_table", .table table)] }

def exports : BoundExports Unit := ⟨malloc, none, none, exnStore, none, none⟩

def started (settings : Settings) (ops : List Intrinsic) : Bridge Unit :=
  (Bridge.create settings .empty ()).after (.start (.module (guest ops)))

theorem reachable_started (settings : Settings) (ops : List Intrinsic) :
    (started settings ops).Reachable .empty :=
  .asked _ (.created settings ())

end Relay

end GuestBridge

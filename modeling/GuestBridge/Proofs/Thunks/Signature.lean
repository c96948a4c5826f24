import GuestBridge.Proofs.Guests.Entry
import GuestBridge.Proofs.Thunks.Arguments
/-!
The signature of a capability and its thunk agree. Core values of the types that the signature names
are all used, each by the parameter that it belongs to; and whatever the host function does, core
values that the thunk yields are of the types that the signature names.
-/

set_option autoImplicit false

namespace GuestBridge

/-- What comes before the parameters among the core values. -/
def Capability.leading (c : Capability) (returnPointer : UInt32) : List Core :=
  if c.result.usesReturnPointer then [.word returnPointer] else []

theorem Capability.exists_split {c : Capability} {args : List Core}
    (typed : args.map Core.type = c.signature.params) :
    ∃ returnPointer pieces, args = c.leading returnPointer ++ pieces.flatten ∧
      Shared c.params pieces ∧ (c.result.usesReturnPointer = false → returnPointer = 0) := by
  unfold signature at typed
  unfold leading
  cases uses : c.result.usesReturnPointer with
  | false =>
    rw [uses] at typed
    obtain ⟨pieces, same, shared⟩ := exists_shared typed
    exact ⟨0, pieces, same, shared, fun _ => rfl⟩
  | true =>
    rw [uses] at typed
    obtain ⟨first, rest, rfl, pointer, others⟩ := List.map_eq_append_iff.1 typed
    obtain ⟨w, rfl⟩ := word_of_type pointer
    obtain ⟨pieces, rfl, shared⟩ := exists_shared others
    exact ⟨w, pieces, rfl, shared, fun unused => nomatch unused⟩

namespace BridgeAction

variable {σ : Type}

namespace Lowered

/-- The types of the core values that a checked result is passed as. -/
def coreTypes : Lowered → List CoreType
  | .unit | .text _ => []
  | .word _ | .handle _ => [.i32]
  | .double _ => [.f64]

theorem coreTypes_check {kind : ResultKind} {v : Value} {lowered : Lowered}
    (checked : check kind v = .ok lowered) : lowered.coreTypes = kind.coreTypes := by
  unfold check at checked
  split at checked <;> cases checked <;> rfl

theorem coreTypes_sentinel (kind : ResultKind) : (sentinel kind).coreTypes = kind.coreTypes := by
  cases kind <;> rfl

end Lowered

/-- A value that the guest does not get is let go of. -/
theorem perform_checkResult (kind : ResultKind) (v : Value) (b : Bridge σ) :
    (checkResult kind (.ok v)).perform b = (.ok (Lowered.check kind v),
      if (Lowered.check kind v).toOption.any Lowered.keepsValue then b
      else { b with host := { b.host with realm := b.host.realm.letGo v } }) := by
  unfold checkResult
  cases kept : (Lowered.check kind v).toOption.any Lowered.keepsValue with
  | false =>
    simp only [kept, Bool.false_eq_true, ↓reduceIte]
    rfl
  | true =>
    simp only [kept, ↓reduceIte]
    rfl

theorem coreTypes_checkResult {kind : ResultKind} {outcome : Except Failure Value}
    {lowered : Lowered} {b b' : Bridge σ}
    (checked : (checkResult kind outcome).perform b = (.ok (.ok lowered), b')) :
    lowered.coreTypes = kind.coreTypes := by
  cases outcome with
  | error failure => cases checked
  | ok v =>
    rw [perform_checkResult] at checked
    injection checked with fits
    exact Lowered.coreTypes_check (Except.ok.inj fits)

theorem lower_types {call : GuestCaller σ} {returnPointer : UInt32} {lowered : Lowered}
    {b b' : Bridge σ} {results : List Core}
    (done : (lower call returnPointer lowered).perform b = (.ok results, b')) :
    results.map Core.type = lowered.coreTypes := by
  unfold lower at done
  split at done
  · cases done
    rfl
  · cases done
    rfl
  · cases done
    rfl
  · obtain ⟨handle, _, -, done⟩ := Action.bind_eq_ok done
    cases done
    rfl
  · obtain ⟨_, _, -, done⟩ := Action.bind_eq_ok done
    cases done
    rfl
  · obtain ⟨pair, _, -, done⟩ := Action.bind_eq_ok done
    obtain ⟨_, _, -, done⟩ := Action.bind_eq_ok done
    cases done
    rfl

/-- What the thunk does once its arguments are converted, or have turned out not to be. -/
def respond (call : GuestCaller σ) (c : Capability) (returnPointer : UInt32) :
    Except Fault (List Value) → BridgeAction σ (List Core)
  | .error fault => do
    raise call fault.asFailure
    lower call returnPointer (.sentinel c.result)
  | .ok values => do
    match ← checkResult c.result (← callHost c values) with
    | .ok lowered => lower call returnPointer lowered
    | .error failure =>
      if c.fallible then
        raise call failure
        lower call returnPointer (.sentinel c.result)
      else throw (.host failure)

/-- The thunk takes the return pointer off the core values, and its parameters use up the rest. -/
theorem dispatch_split {c : Capability} {returnPointer : UInt32} {pieces : List (List Core)}
    (shared : Shared c.params pieces)
    (unused : c.result.usesReturnPointer = false → returnPointer = 0) (call : GuestCaller σ)
    {index : Nat} {b : Bridge σ} (linked : b.capabilities[index]? = some c) :
    (dispatch call index (c.leading returnPointer ++ pieces.flatten)).perform b =
      (do
        let _ ← bound
        respond call c returnPointer (← Action.attempt (convertAll c.params pieces)) :
          BridgeAction σ (List Core)).perform b := by
  have found : (get : BridgeAction σ (Bridge σ)).perform b = (.ok b, b) := rfl
  unfold dispatch Capability.leading
  rw [Action.perform_bind_ok b b found, linked]
  dsimp only
  rw [Action.perform_bind, Action.perform_bind]
  rcases bound.perform b with ⟨_ | exports, b'⟩
  · rfl
  dsimp only
  have converted := liftArguments_flatten shared b'
  cases uses : c.result.usesReturnPointer with
  | false =>
    rw [unused uses, if_neg Bool.false_ne_true, if_neg Bool.false_ne_true, pure_bind]
    dsimp only
    rw [List.nil_append, Action.perform_bind, Action.perform_attempt, converted,
      Action.perform_bind, Action.perform_attempt]
    rcases (convertAll c.params pieces).perform b' with ⟨_ | values, b''⟩ <;> rfl
  | true =>
    have taken : (Action.conclude (takeWord ([.word returnPointer] ++ pieces.flatten)) :
        BridgeAction σ _).perform b' = (.ok (returnPointer, pieces.flatten), b') := rfl
    rw [if_pos rfl, if_pos rfl, Action.perform_bind_ok _ _ taken]
    dsimp only
    rw [Action.perform_bind, Action.perform_attempt, converted, Action.perform_bind,
      Action.perform_attempt]
    rcases (convertAll c.params pieces).perform b' with ⟨_ | values, b''⟩ <;> rfl

/-- Whether it goes well or a sentinel takes the place of the result, the types are right. -/
theorem respond_types {call : GuestCaller σ} {c : Capability} {returnPointer : UInt32}
    {outcome : Except Fault (List Value)} {b b' : Bridge σ} {results : List Core}
    (done : (respond call c returnPointer outcome).perform b = (.ok results, b')) :
    results.map Core.type = c.signature.results := by
  have sentinel {failure : Failure} {b b' : Bridge σ}
      (done : (do
        raise call failure
        lower call returnPointer (.sentinel c.result) : BridgeAction σ (List Core)).perform b =
          (.ok results, b')) : results.map Core.type = c.result.coreTypes := by
    obtain ⟨_, _, -, done⟩ := Action.bind_eq_ok done
    exact (lower_types done).trans (Lowered.coreTypes_sentinel c.result)
  cases outcome with
  | error fault => exact sentinel done
  | ok values =>
    obtain ⟨outcome, b₁, -, done⟩ := Action.bind_eq_ok done
    obtain ⟨checked, b₂, fits, done⟩ := Action.bind_eq_ok done
    cases checked with
    | ok lowered => exact (lower_types done).trans (coreTypes_checkResult fits)
    | error failure =>
      dsimp only at done
      split at done
      · exact sentinel done
      · cases done

/-- Core values of the types that the signature names are cut into the return pointer and a piece
for each parameter. The thunk takes them apart in this way, converts each parameter from its piece,
and finds none missing or of another type; and all that it yields has the types of the signature. -/
theorem thunk_keeps_to_signature (c : Capability) {args : List Core}
    (typed : args.map Core.type = c.signature.params) :
    ∃ returnPointer pieces, args = c.leading returnPointer ++ pieces.flatten ∧
      Shared c.params pieces ∧
      ∀ (call : GuestCaller σ) (index : Nat) (b : Bridge σ), b.capabilities[index]? = some c →
        (dispatch call index args).perform b =
          (do
            let _ ← bound
            respond call c returnPointer (← Action.attempt (convertAll c.params pieces)) :
              BridgeAction σ (List Core)).perform b ∧
        FailsWith (¬ ·.Mistyped) (convertAll (σ := σ) c.params pieces) ∧
        ∀ results b', (dispatch call index args).perform b = (.ok results, b') →
          results.map Core.type = c.signature.results := by
  obtain ⟨returnPointer, pieces, rfl, shared, unused⟩ := c.exists_split typed
  refine ⟨returnPointer, pieces, rfl, shared, fun call index b linked => ?_⟩
  have split := dispatch_split shared unused call linked
  refine ⟨split, convertAll_fails shared, fun results b' done => ?_⟩
  rw [split] at done
  obtain ⟨_, _, -, done⟩ := Action.bind_eq_ok done
  obtain ⟨_, _, -, done⟩ := Action.bind_eq_ok done
  exact respond_types done

/-! A guest that is linked to a function of a text, a double and a handle, which yields a text. -/

namespace Describer

def describe : Capability := .idle "describe" [.text, .f64, .handle] .text true

def guest : GuestModule Unit where
  imports := [⟨"host", "describe", .func, some describe.signature⟩]
  exports := [
    ("memory", .memory 1 1),
    ("__bridge_malloc", .func ⟨⟨[.i32, .i32], [.i32]⟩, fun _ => .yield [.word 0]⟩),
    ("__bridge_exn_store", .func ⟨⟨[.i32], []⟩, fun _ => .yield []⟩)]
  data := [(0, [104, 101, 108, 108, 111])]
  onCreation := none
  initial := ()

def host : Registry := Registry.empty.define describe

def bridge : Bridge Unit := (Bridge.create {} host ()).after (.start (.module guest))

theorem reachable : bridge.Reachable host := .asked _ (.created {} ())

theorem linked : bridge.capabilities[0]? = some describe := rfl

def args : List Core := [.word 64, .word 0, .word 5, .double .zero, .word 2]

theorem returns : ((dispatch (callWithin 1) 0 args).perform bridge).1 = .ok [] := by
  decide +kernel

end Describer

/-- The text and the others come behind a return pointer. -/
theorem thunk_keeps_to_signature_mixed :
    let c := Describer.describe
    let b := Describer.bridge
    let args := Describer.args
    b.Reachable Describer.host ∧ args.map Core.type = c.signature.params ∧
      b.capabilities[0]? = some c ∧ ((dispatch (callWithin 1) 0 args).perform b).1 = .ok [] ∧
      ∃ returnPointer pieces, args = c.leading returnPointer ++ pieces.flatten ∧
        Shared c.params pieces ∧ ∀ call : GuestCaller Unit,
          (dispatch call 0 args).perform b =
            (do
              let _ ← bound
              respond call c returnPointer (← Action.attempt (convertAll c.params pieces)) :
                BridgeAction Unit (List Core)).perform b ∧
          FailsWith (¬ ·.Mistyped) (convertAll (σ := Unit) c.params pieces) ∧
          ∀ results b', (dispatch call 0 args).perform b = (.ok results, b') →
            results.map Core.type = c.signature.results := by
  have typed : Describer.args.map Core.type = Describer.describe.signature.params := rfl
  obtain ⟨returnPointer, pieces, split, shared, keeps⟩ := thunk_keeps_to_signature _ typed
  exact ⟨Describer.reachable, typed, Describer.linked, Describer.returns, returnPointer, pieces,
    split, shared, fun call => keeps call 0 Describer.bridge Describer.linked⟩

end BridgeAction

end GuestBridge

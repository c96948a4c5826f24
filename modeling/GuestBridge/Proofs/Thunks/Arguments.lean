import GuestBridge.Bridge.Thunk
import GuestBridge.Proofs.Guests.Access
import Mathlib.Data.List.Forall2
/-!
How the core values of a call are shared out among the parameters. Values of the types that a
signature names can be cut into one piece for each parameter, and the thunk converts each parameter
from its own piece and nothing else.
-/

set_option autoImplicit false

namespace GuestBridge

/-- The pieces have the types that the parameters are passed as. -/
def Shared (kinds : List ParamKind) (pieces : List (List Core)) : Prop :=
  List.Forall₂ (fun kind piece => piece.map Core.type = ParamKind.coreTypes kind) kinds pieces

/-- The fault of an argument list that ends too early or holds a value of another type. -/
def Fault.Mistyped (fault : Fault) : Prop :=
  fault = .host (.typeError "expected an i32 argument") ∨
    fault = .host (.typeError "expected an f64 argument")

/-- A fault of the bridge itself, and not a failure of host code. -/
def Fault.Internal (fault : Fault) : Prop := ∀ failure, fault ≠ .host failure

theorem Fault.Internal.not_mistyped {fault : Fault} (internal : fault.Internal) :
    ¬ fault.Mistyped := fun mistyped => mistyped.elim (internal _) (internal _)

theorem exists_shared {kinds : List ParamKind} {args : List Core}
    (typed : args.map Core.type = kinds.flatMap ParamKind.coreTypes) :
    ∃ pieces, args = pieces.flatten ∧ Shared kinds pieces := by
  induction kinds generalizing args with
  | nil => exact ⟨[], List.map_eq_nil_iff.1 typed, .nil⟩
  | cons kind kinds ih =>
    rw [List.flatMap_cons] at typed
    obtain ⟨piece, rest, rfl, mine, others⟩ := List.map_eq_append_iff.1 typed
    obtain ⟨pieces, rfl, shared⟩ := ih others
    exact ⟨piece :: pieces, rfl, .cons mine shared⟩

theorem word_of_type {piece : List Core} (typed : piece.map Core.type = [.i32]) :
    ∃ w, piece = [.word w] := by
  rcases piece with _ | ⟨_ | _, _ | ⟨_, _⟩⟩ <;> cases typed
  exact ⟨_, rfl⟩

theorem double_of_type {piece : List Core} (typed : piece.map Core.type = [.f64]) :
    ∃ x, piece = [.double x] := by
  rcases piece with _ | ⟨_ | _, _ | ⟨_, _⟩⟩ <;> cases typed
  exact ⟨_, rfl⟩

theorem words_of_type {piece : List Core} (typed : piece.map Core.type = [.i32, .i32]) :
    ∃ v w, piece = [.word v, .word w] := by
  rcases piece with _ | ⟨_ | _, _ | ⟨_ | _, _ | ⟨_, _⟩⟩⟩ <;> cases typed
  exact ⟨_, _, rfl⟩

namespace BridgeAction

variable {σ : Type}

/-- The host value of one parameter from the core values that are its own. -/
def convert : ParamKind → List Core → BridgeAction σ Value
  | .f64, [.double x] => return .number x
  | .i32, [.word w] => return .number (Double.ofInt32Word w)
  | .bool, [.word w] => return .bool (w != 0)
  | .handle, [.word w] => tryPeek w
  | .choice table, [.word w] =>
    match table[w.toNat]? with
    | some s => return .string s
    | none => throw (.host (.typeError s!"{w} is not a valid enum index"))
  | .text, [.word offset, .word length] => return .string (← readText offset length)
  | .bytes, [.word offset, .word length] => do
    let data ← readBytes offset length
    return .bytes (← inRealm (·.freshIdentity)) data
  | .words, [.word offset, .word count] => do
    let data ← readWords offset count
    return .words (← inRealm (·.freshIdentity)) data
  | _, _ => throw .declined

/-- All parameters in order, each from its piece. -/
def convertAll (kinds : List ParamKind) (pieces : List (List Core)) :
    BridgeAction σ (List Value) :=
  (kinds.zip pieces).mapM fun (kind, piece) => convert kind piece

theorem convertAll_cons (kind : ParamKind) (piece : List Core) (kinds : List ParamKind)
    (pieces : List (List Core)) : convertAll (σ := σ) (kind :: kinds) (piece :: pieces) =
      (do return (← convert kind piece) :: (← convertAll kinds pieces)) := by
  rw [convertAll, List.zip_cons_cons, List.mapM_cons]
  rfl

theorem convertAll_append {kinds : List ParamKind} {pieces : List (List Core)}
    (paired : kinds.length = pieces.length) (more : List ParamKind) (rest : List (List Core)) :
    convertAll (σ := σ) (kinds ++ more) (pieces ++ rest) =
      (do return (← convertAll kinds pieces) ++ (← convertAll more rest)) := by
  rw [convertAll, List.zip_append paired, List.mapM_append]
  rfl

/-- A parameter uses up its own core values and leaves all others. -/
theorem liftArgument_append {kind : ParamKind} {piece : List Core}
    (typed : piece.map Core.type = kind.coreTypes) (rest : List Core) (b : Bridge σ) :
    (liftArgument kind (piece ++ rest)).perform b =
      (do return (← convert kind piece, rest) : BridgeAction σ (Value × List Core)).perform b := by
  cases kind with
  | f64 =>
    obtain ⟨x, rfl⟩ := double_of_type typed
    rfl
  | i32 | bool | handle =>
    obtain ⟨w, rfl⟩ := word_of_type typed
    rfl
  | choice table =>
    obtain ⟨w, rfl⟩ := word_of_type typed
    rcases found : table[w.toNat]? with _ | s
    all_goals
      simp only [liftArgument, convert, List.cons_append, List.nil_append, takeWord,
        Action.perform_bind, Action.perform_conclude, found]
      rfl
  | text | bytes | words =>
    obtain ⟨v, w, rfl⟩ := words_of_type typed
    simp only [liftArgument, convert, List.cons_append, List.nil_append, takeWord, bind_assoc,
      pure_bind]
    rfl

/-- Conversion goes through the parameters and their pieces side by side. -/
theorem liftArguments_flatten {kinds : List ParamKind} {pieces : List (List Core)}
    (shared : Shared kinds pieces) (b : Bridge σ) :
    (liftArguments kinds pieces.flatten).perform b = (convertAll kinds pieces).perform b := by
  induction shared generalizing b with
  | nil => rfl
  | @cons kind piece kinds pieces typed _ ih =>
    simp only [convertAll_cons, liftArguments, List.flatten_cons, Action.perform_bind,
      liftArgument_append typed]
    rcases (convert kind piece).perform b with ⟨_ | v, b'⟩
    · rfl
    · simp only [Action.perform_pure, ih]

/-! What conversion may fail with. -/

/-- Whenever the operation fails, then with such a fault. -/
def FailsWith (P : Fault → Prop) {α : Type} (act : BridgeAction σ α) : Prop :=
  ∀ b fault, (act.perform b).1 = .error fault → P fault

namespace FailsWith

variable {P Q : Fault → Prop} {α β : Type}

theorem mono (weaker : ∀ fault, P fault → Q fault) {act : BridgeAction σ α}
    (fails : FailsWith P act) : FailsWith Q act :=
  fun b fault failed => weaker fault (fails b fault failed)

theorem pure (a : α) : FailsWith P (Pure.pure a : BridgeAction σ α) :=
  fun _ _ failed => nomatch failed

theorem throw {fault : Fault} (such : P fault) :
    FailsWith P (MonadExcept.throw fault : BridgeAction σ α) := by
  intro b other failed
  cases failed
  exact such

theorem conclude {outcome : Except Fault α} (such : ∀ fault, outcome = .error fault → P fault) :
    FailsWith P (Action.conclude outcome : BridgeAction σ α) := fun _ => such

theorem bind {act : BridgeAction σ α} {next : α → BridgeAction σ β} (first : FailsWith P act)
    (second : ∀ a, FailsWith P (next a)) : FailsWith P (act >>= next) := by
  intro b fault failed
  rw [Action.perform_bind] at failed
  rcases ended : act.perform b with ⟨other | a, b'⟩
  · rw [ended] at failed
    cases failed
    exact first b _ (by rw [ended])
  · rw [ended] at failed
    exact second a b' fault failed

end FailsWith

theorem internal_bind {α β : Type} {outcome : Except Fault α} {next : α → Except Fault β}
    (first : ∀ fault, outcome = .error fault → fault.Internal)
    (second : ∀ a fault, next a = .error fault → fault.Internal) (fault : Fault)
    (failed : outcome >>= next = .error fault) : fault.Internal := by
  rcases outcome with other | a
  · cases failed
    exact first fault rfl
  · exact second a fault failed

theorem internal_checkRange (m : Memory) (offset length : UInt32) (fault : Fault)
    (failed : m.checkRange offset length = .error fault) : fault.Internal := by
  unfold Memory.checkRange at failed
  split at failed <;> cases failed
  exact fun _ same => nomatch same

theorem internal_read (m : Memory) (offset length : UInt32) (fault : Fault)
    (failed : m.read offset length = .error fault) : fault.Internal :=
  internal_bind (internal_checkRange m offset length) (fun _ _ ended => by cases ended) fault failed

theorem internal_readWords (m : Memory) (offset count : UInt32) (fault : Fault)
    (failed : m.readWords offset count = .error fault) : fault.Internal := by
  refine internal_bind (fun fault unaligned => ?_) (fun _ fault failed => ?_) fault failed
  · unfold Memory.checkAligned at unaligned
    split at unaligned <;> cases unaligned
    exact fun _ same => nomatch same
  · dsimp only at failed
    split at failed
    · cases failed
      exact fun _ same => nomatch same
    · exact internal_bind (internal_checkRange m offset (count * 4))
        (fun _ _ ended => by cases ended) fault failed

theorem internal_text (m : Memory) (offset length : UInt32) (fault : Fault)
    (failed : Codec.text m offset length = .error fault) : fault.Internal := by
  refine internal_bind (internal_read m offset length) (fun bytes fault failed => ?_) fault failed
  split at failed <;> cases failed
  exact fun _ same => nomatch same

theorem tryPeek_fails (handle : UInt32) :
    FailsWith Fault.Internal (tryPeek (σ := σ) handle) := by
  intro b fault failed
  change b.handles.tryGet handle = .error fault at failed
  unfold HandleTable.tryGet at failed
  split at failed
  · cases failed
  · split at failed
    · cases failed
      exact fun _ same => nomatch same
    · cases failed

theorem bound_fails : FailsWith Fault.Internal (bound (σ := σ)) := by
  intro b fault failed
  rw [perform_bound] at failed
  rcases found : b.bound with _ | exports
  · rw [found] at failed
    cases failed
    exact fun _ same => nomatch same
  · rw [found] at failed
    cases failed

theorem view_fails (kind : ViewKind) : FailsWith Fault.Internal (view (σ := σ) kind) :=
  bound_fails.bind fun _ _ _ failed => nomatch failed

theorem readText_fails (offset length : UInt32) :
    FailsWith Fault.Internal (readText (σ := σ) offset length) :=
  (view_fails .bytes).bind fun m _ fault failed => internal_text m offset length fault failed

theorem readBytes_fails (offset length : UInt32) :
    FailsWith Fault.Internal (readBytes (σ := σ) offset length) :=
  (view_fails .bytes).bind fun m => .conclude (internal_read m offset length)

theorem readWords_fails (offset count : UInt32) :
    FailsWith Fault.Internal (readWords (σ := σ) offset count) :=
  (view_fails .words).bind fun m => .conclude (internal_readWords m offset count)

/-- An index that is not in the table is told from an argument that is not there. -/
theorem not_mistyped_index (w : UInt32) :
    ¬ (Fault.host (.typeError s!"{w} is not a valid enum index")).Mistyped := by
  have message (expected : String) (short : expected.length < 26) :
      Fault.host (.typeError s!"{w} is not a valid enum index") ≠ .host (.typeError expected) := by
    intro same
    injection same with same
    injection same with _ same
    have lengths := congrArg String.length same
    rw [String.length_append, show (toString " is not a valid enum index").length = 26 from rfl]
      at lengths
    omega
  rintro (same | same)
  · exact message _ (by decide) same
  · exact message _ (by decide) same

/-- Values of the right types are all there: conversion fails because of what they are. -/
theorem convert_fails {kind : ParamKind} {piece : List Core}
    (typed : piece.map Core.type = kind.coreTypes) :
    FailsWith (¬ ·.Mistyped) (convert (σ := σ) kind piece) := by
  have internal {α : Type} {act : BridgeAction σ α} (fails : FailsWith Fault.Internal act) :
      FailsWith (¬ ·.Mistyped) act := fails.mono fun _ => Fault.Internal.not_mistyped
  cases kind with
  | f64 =>
    obtain ⟨x, rfl⟩ := double_of_type typed
    exact .pure _
  | i32 | bool =>
    obtain ⟨w, rfl⟩ := word_of_type typed
    exact .pure _
  | handle =>
    obtain ⟨w, rfl⟩ := word_of_type typed
    exact internal (tryPeek_fails w)
  | choice table =>
    obtain ⟨w, rfl⟩ := word_of_type typed
    simp only [convert]
    split
    · exact .pure _
    · exact .throw (not_mistyped_index w)
  | text =>
    obtain ⟨v, w, rfl⟩ := words_of_type typed
    exact (internal (readText_fails v w)).bind fun _ => .pure _
  | bytes =>
    obtain ⟨v, w, rfl⟩ := words_of_type typed
    exact (internal (readBytes_fails v w)).bind fun _ _ _ failed => nomatch failed
  | words =>
    obtain ⟨v, w, rfl⟩ := words_of_type typed
    exact (internal (readWords_fails v w)).bind fun _ _ _ failed => nomatch failed

theorem convertAll_fails {kinds : List ParamKind} {pieces : List (List Core)}
    (shared : Shared kinds pieces) :
    FailsWith (¬ ·.Mistyped) (convertAll (σ := σ) kinds pieces) := by
  induction shared with
  | nil => exact .pure _
  | cons typed _ ih =>
    rw [convertAll_cons]
    exact (convert_fails typed).bind fun _ => ih.bind fun _ => .pure _

end BridgeAction

end GuestBridge

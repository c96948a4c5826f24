import GuestBridge.Proofs.Handles.Modes
import GuestBridge.Proofs.Intrinsics.Reporting
/-!
What a strict table of handles is good for. Operations and capabilities that look a handle up with
the check report one that is not live. All others see `undefined` behind it, and report nothing.
-/

set_option autoImplicit false

namespace GuestBridge

variable {σ : Type}

/-- The operations that look up a handle with the check, and what they yield if it fails. -/
inductive Intrinsic.Checks : Intrinsic → ResultKind → Prop
  | clone : Checks .objectCloneRef .handle
  | drop : Checks .objectDropRef .unit
  | dropClosure : Checks .closureDrop .bool

/-- The operations that look up a handle without the check, and the arguments before and after
it. -/
inductive Intrinsic.Peeks : Intrinsic → List Core → List Core → Prop
  | string (returnPointer : UInt32) : Peeks .stringGet [.word returnPointer] []
  | bytes (returnPointer : UInt32) : Peeks .bytesGet [.word returnPointer] []
  | number (returnPointer : UInt32) : Peeks .numberGet [.word returnPointer] []
  | bool : Peeks .boolGet [] []
  | undefined : Peeks .isUndefined [] []
  | null : Peeks .isNull [] []
  | object : Peeks .isObject [] []
  | isString : Peeks .isString [] []
  | isFunction : Peeks .isFunction [] []
  | debug (returnPointer : UInt32) : Peeks .debugString [.word returnPointer] []
  | callee (argument : UInt32) : Peeks .functionCall [] [.word argument]
  | argument (callee : UInt32) : Peeks .functionCall [.word callee] []

namespace HandleTable

variable {t : HandleTable} {handle : UInt32}

theorem get_dead (dead : t.isLive handle = false) : t.get handle = .undefined := by
  rw [get, live?_of_not_isLive dead, Option.getD_none]

theorem tryGet_strict (strict : t.strict = true) (dead : t.isLive handle = false) :
    t.tryGet handle = .error (.deadHandle handle) := by
  rw [tryGet_dead (live?_of_not_isLive dead), if_pos strict]

theorem release_strict (strict : t.strict = true) (high : reserved ≤ handle)
    (dead : t.isLive handle = false) : t.release handle = .error (.deadHandle handle) := by
  rw [release_dead high (live?_of_not_isLive dead), if_pos strict]

theorem take_strict (strict : t.strict = true) (dead : t.isLive handle = false) :
    t.take handle = .error (.deadHandle handle) := by
  rw [take, tryGet_strict strict dead]
  rfl

end HandleTable

theorem Realm.letGo_undefined (r : Realm) : r.letGo .undefined = r := by
  have done : r.doJob (.letGo .undefined) = (r, []) := rfl
  rw [letGo, run, done, List.append_nil, run]

namespace BridgeAction

variable {exports : BoundExports σ} {b : Bridge σ} {handle : UInt32}

theorem perform_letGo_undefined (b : Bridge σ) :
    (letGo .undefined).perform b = (.ok (), b) := by
  rw [letGo, perform_changeRealm, Realm.letGo_undefined]

theorem perform_tryPeek_strict (strict : b.handles.strict = true)
    (dead : b.handles.isLive handle = false) :
    (tryPeek handle).perform b = (.error (.deadHandle handle), b) := by
  show (b.handles.tryGet handle, b) = _
  rw [HandleTable.tryGet_strict strict dead]

theorem checks_store (present : b.bound = some exports) (strict : b.handles.strict = true)
    (unreserved : HandleTable.reserved ≤ handle) (dead : b.handles.isLive handle = false)
    {op : Intrinsic} {kind : ResultKind} (checks : op.Checks kind) :
    Stores exports kind 0 (Fault.deadHandle handle).asFailure b fun call =>
      (serveIntrinsic call op [.word handle]).perform b := by
  have found := Action.perform_get b
  cases checks with
  | clone =>
    have failed : (cloneRef handle).perform b = (.error (.deadHandle handle), b) := by
      rw [cloneRef, Action.perform_bind, perform_tryPeek_strict strict dead]
    exact stores_orRaise failed present present rfl fun call b => rfl
  | drop =>
    have failed : (release handle).perform b = (.error (.deadHandle handle), b) := by
      rw [release, Action.perform_bind_ok _ _ found, Action.perform_bind, Action.perform_conclude,
        HandleTable.release_strict strict unreserved dead]
    exact stores_orRaise failed present present rfl fun call b => rfl
  | dropClosure =>
    -- The sentinel makes this operation let go of undefined, which nothing keeps alive.
    have failed : (take handle).perform b = (.error (.deadHandle handle), b) := by
      rw [take, Action.perform_bind_ok _ _ found, Action.perform_bind, Action.perform_conclude,
        HandleTable.take_strict strict dead]
    refine stores_orRaise failed present present rfl fun call b => ?_
    have attempted : (Action.attempt (return wordOfBool false)).perform b =
        (.ok (.ok [.word 0]), b) := rfl
    show (Action.attempt (return wordOfBool false) >>= fun outcome =>
      letGo .undefined >>= fun _ => Action.conclude outcome).perform b = _
    rw [Action.perform_bind_ok _ _ attempted,
      Action.perform_bind_ok _ _ (perform_letGo_undefined b)]
    rfl

/-- The callee is held before its argument is looked up, which leaves the handles as they are. -/
theorem functionCall_argument {other : UInt32} (same : b.handles.get handle = b.handles.get other)
    (call : GuestCaller σ) (callee : UInt32) :
    (functionCall call callee handle).perform b = (functionCall call callee other).perform b := by
  unfold functionCall
  apply Action.perform_bind_congr
  intro exports s bounded
  obtain rfl : b = s := by
    rw [perform_bound] at bounded
    exact congrArg Prod.snd bounded
  apply Action.perform_bind_congr
  intro v s peeked
  obtain rfl : b = s := congrArg Prod.snd peeked
  cases v with
  | function i =>
    apply Action.perform_bind_congr
    intro _ s held
    have handles : s.handles = b.handles := by
      cases held
      rfl
    simp only [Action.perform_bind, Action.perform_attempt, perform_peek, handles, same]
  | _ => dsimp only

/-- An operation without the check takes a handle that is not live for any other that stands for
undefined. -/
theorem peeks_undefined (dead : b.handles.isLive handle = false) {op : Intrinsic}
    {before after : List Core} (peeks : op.Peeks before after) (call : GuestCaller σ)
    {other : UInt32} (undefined : b.handles.get other = .undefined) :
    (serveIntrinsic call op (before ++ .word handle :: after)).perform b =
      (serveIntrinsic call op (before ++ .word other :: after)).perform b := by
  have same : b.handles.get handle = b.handles.get other :=
    (HandleTable.get_dead dead).trans undefined.symm
  have read (next : Value → BridgeAction σ (List Core)) :
      (peek handle >>= next).perform b = (peek other >>= next).perform b := by
    rw [Action.perform_bind, Action.perform_bind, perform_peek, perform_peek, same]
  have boundRead (next : Value → BridgeAction σ (List Core)) :
      (bound >>= fun _ => peek handle >>= next).perform b =
        (bound >>= fun _ => peek other >>= next).perform b := by
    rw [Action.perform_bind, Action.perform_bind, perform_bound]
    rcases b.bound with _ | exports
    · rfl
    · exact read next
  cases peeks with
  | string | bytes | number | debug | callee => exact boundRead _
  | bool | undefined | null | object | isString | isFunction => exact read _
  | argument callee => exact functionCall_argument same call callee

theorem convertAll_dead {kinds : List ParamKind} {pieces : List (List Core)}
    (shared : Shared kinds pieces) {k : Nat} (place : kinds[k]? = some .handle)
    (piece : pieces[k]? = some [.word handle]) {values : List Value} {b₁ : Bridge σ}
    (earlier : (convertAll (kinds.take k) (pieces.take k)).perform b = (.ok values, b₁))
    (strict : b.handles.strict = true) (dead : b.handles.isLive handle = false) :
    (convertAll kinds pieces).perform b = (.error (.deadHandle handle), b₁) := by
  obtain ⟨handles, -, -⟩ := ((converted_convertAll _ _).ended earlier).wired
  rw [← handles] at strict dead
  have paired : (kinds.take k).length = (pieces.take k).length := by
    rw [List.length_take, List.length_take, shared.length_eq]
  obtain ⟨inside, kind⟩ := List.getElem?_eq_some_iff.1 place
  obtain ⟨inside', handed⟩ := List.getElem?_eq_some_iff.1 piece
  have kindsSplit : kinds = kinds.take k ++ .handle :: kinds.drop (k + 1) := by
    rw [← kind, List.getElem_cons_drop, List.take_append_drop]
  have piecesSplit : pieces = pieces.take k ++ [.word handle] :: pieces.drop (k + 1) := by
    rw [← handed, List.getElem_cons_drop, List.take_append_drop]
  have split : convertAll (σ := σ) kinds pieces = (do
      let front ← convertAll (kinds.take k) (pieces.take k)
      return front ++ (← convertAll (.handle :: kinds.drop (k + 1))
        ([.word handle] :: pieces.drop (k + 1)))) := by
    rw [← convertAll_append paired, ← kindsSplit, ← piecesSplit]
  have first : (convert .handle [.word handle]).perform b₁ = (.error (.deadHandle handle), b₁) :=
    perform_tryPeek_strict strict dead
  rw [split, Action.perform_bind_ok _ _ earlier, convertAll_cons, Action.perform_bind,
    Action.perform_bind, first]

/-- In a strict table a handle that is not live is reported by the operations with the check and by
capabilities that take a handle, once all parameters before it are converted. All other operations
do with it what they do with undefined. -/
theorem strict_handles_reported_where_checked (present : b.bound = some exports)
    (strict : b.handles.strict = true) (unreserved : HandleTable.reserved ≤ handle)
    (dead : b.handles.isLive handle = false) :
    let failure : Failure := ⟨"ReferenceError", s!"handle {handle} is not live"⟩
    (∀ op kind, Intrinsic.Checks op kind → Stores exports kind 0 failure b fun call =>
      (serveIntrinsic call op [.word handle]).perform b) ∧
    (∀ c index args, b.capabilities[index]? = some c → args.map Core.type = c.signature.params →
      ∃ returnPointer pieces, args = c.leading returnPointer ++ pieces.flatten ∧
        Shared c.params pieces ∧
        ∀ k values b₁, c.params[k]? = some .handle → pieces[k]? = some [.word handle] →
          (convertAll (c.params.take k) (pieces.take k)).perform b = (.ok values, b₁) →
          b.Converted b₁ ∧ Raises exports c.result returnPointer failure b₁ fun call =>
            (dispatch call index args).perform b) ∧
    ∀ op before after, Intrinsic.Peeks op before after → ∀ (call : GuestCaller σ) other,
      b.handles.get other = .undefined →
      (serveIntrinsic call op (before ++ .word handle :: after)).perform b =
        (serveIntrinsic call op (before ++ .word other :: after)).perform b := by
  intro failure
  refine ⟨fun op kind checks => checks_store present strict unreserved dead checks,
    fun c index args linked typed => ?_,
    fun op before after peeks call other undefined => peeks_undefined dead peeks call undefined⟩
  obtain ⟨returnPointer, pieces, rfl, shared, unused⟩ := c.exists_split typed
  refine ⟨returnPointer, pieces, rfl, shared, fun k values b₁ place piece earlier => ?_⟩
  have changed : b.Converted b₁ := (converted_convertAll _ _).ended earlier
  have failed := convertAll_dead shared place piece earlier strict dead
  refine ⟨changed, raises (changed.wired.2.1.trans present) fun call => ?_⟩
  rw [dispatch_converted shared unused linked present failed]
  rfl

end BridgeAction

open BridgeAction

/-- A handle that was never given out is reported where it is to be cloned, and where a truth value
is looked at it is as good as the handle of undefined. -/
theorem strict_handles_reported_where_checked_relay :
    let b := Relay.started { strictHandles := true } [.boolGet]
    b.bound = some Relay.exports ∧ b.handles.strict = true ∧ HandleTable.reserved ≤ 9 ∧
      b.handles.isLive 9 = false ∧ b.handles.get 0 = .undefined ∧
      (Stores Relay.exports .handle 0 ⟨"ReferenceError", s!"handle {(9 : UInt32)} is not live"⟩ b
        fun call => (serveIntrinsic call .objectCloneRef [.word 9]).perform b) ∧
      ∀ call, (serveIntrinsic call .boolGet [.word 9]).perform b =
        (serveIntrinsic call .boolGet [.word 0]).perform b := by
  intro b
  have present : b.bound = some Relay.exports := by rfl
  have strict : b.handles.strict = true := by rfl
  have unreserved : HandleTable.reserved ≤ 9 := by decide
  have dead : b.handles.isLive 9 = false := by rfl
  have undefined : b.handles.get 0 = .undefined := by rfl
  obtain ⟨checked, -, peeked⟩ :=
    strict_handles_reported_where_checked present strict unreserved dead
  exact ⟨present, strict, unreserved, dead, undefined, checked _ _ .clone,
    fun call => peeked _ _ _ .bool call 0 undefined⟩

/-- The guest is told of the same handle that it is no truth value, and nothing is stored. -/
theorem dead_handle_unreported :
    let b := Relay.started { strictHandles := true } [.boolGet]
    let called := (callDynamic "bool_get" [.word 9]).perform b
    b.Reachable .empty ∧ b.handles.strict = true ∧ HandleTable.reserved ≤ 9 ∧
      b.handles.isLive 9 = false ∧ called.1 = .ok [.word 2] ∧ called.2.host.journal = #[] ∧
        called.2.handles.liveCount = 0 :=
  ⟨Relay.reachable_started .., rfl, by decide, rfl, rfl, rfl, rfl⟩

end GuestBridge

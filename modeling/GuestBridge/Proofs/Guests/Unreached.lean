import GuestBridge.Proofs.Callbacks.Places
import GuestBridge.Proofs.Finalizers.Leftover
import GuestBridge.Proofs.Handles.Refinement
import GuestBridge.Proofs.Intrinsics.Reporting
import GuestBridge.Proofs.Lifetime.Environment
/-!
Calls of closures that fail before they reach the guest, because its table has no entry to call. The
closure is then as it was. Its argument has been given a handle for the guest to release, and stays
in the table under it, unless the value has a permanent handle.
-/

set_option autoImplicit false

namespace GuestBridge

open ClosureCalls (closureOf changed)

theorem Pool.modify_of_fixed {α : Type} {p : Pool α} {i : Nat} {a : α} {f : α → α}
    (found : p.get? i = some a) (fixed : f a = a) : p.modify i f = p := by
  obtain ⟨h, held, rfl⟩ := Option.map_eq_some_iff.1 found
  have same : p.modify i f = p.modify i id := by
    unfold modify
    rw [held]
    simp only [fixed, id_eq]
  rw [same, modify_id]

variable {σ : Type}

/-- When the guest has given up its last reference, the destructor has run. -/
def Closure.Resting (k : Closure) : Prop := k.references = 0 → k.inert = true ∧ k.data = 0

namespace Lifetime

/-- What has lost the guest's reference is either in use by an invocation or destroyed. -/
theorem Upright.rests {s : State} (upright : Upright s) (counted : Counted s)
    (fair : Fair s.history) {i n : Nat} {k : Closure}
    (found : s.closures.pool.held? i = some ⟨k, n⟩) : k.Resting := by
  intro none
  obtain ⟨made, -, stands⟩ := upright.record i k n found
  have balance := counted.balanced i k n found
  have few := fair i
  have done : 0 < destructions i s.history := by
    by_contra undone
    exact upright.quiet i ⟨by omega, by omega, by omega⟩
  rw [stands]
  exact ⟨decide_eq_true done, if_pos (.inl done)⟩

/-- Whatever the guest does during its calls, each invocation finds its closure at rest, and so are
the closures that there are in the end. -/
theorem closures_rest (course : Course) (sound : NoUnderflow (course.play .initial).history) :
    (∀ v ∈ course.invocations .initial, v.record.Resting) ∧
      ∀ i k, (course.play .initial).closures.pool.get? i = some k → k.Resting := by
  have fair := play_fair sound
  constructor
  · intro v inside
    have well := invocations_sound course initial_invariant sound v inside
    obtain ⟨n, found⟩ := well.exists_held
    have before := (List.suffix_cons ..).trans ((well.through sound).2.2.trans well.returns)
    exact (well.upright sound fair).1.rests well.invariant.1 (fair.earlier before) found
  · intro i k here
    obtain ⟨n, found⟩ := Pool.held?_of_get? here
    obtain ⟨counted, upright⟩ := play_upright sound
    exact upright.rests counted fair found

end Lifetime

section Refusal

variable {b : Bridge σ} {i : Nat} (there : b.host.realm.closures.pool.contains i = true)

include there

theorem closureOf_changed (f : Closure → Closure) :
    closureOf (changed b i f) i = f (closureOf b i) := by
  obtain ⟨k, found⟩ := Pool.contains_iff.1 there
  change ((b.host.realm.closures.pool.modify i f).get? i).getD default =
    f ((b.host.realm.closures.pool.get? i).getD default)
  rw [Pool.get?_modify, if_pos rfl, found]
  rfl

theorem changed_of_fixed {f : Closure → Closure} (fixed : f (closureOf b i) = closureOf b i) :
    changed b i f = b := by
  obtain ⟨k, found⟩ := Pool.contains_iff.1 there
  have here : closureOf b i = k := congrArg (Option.getD · default) found
  rw [here] at fixed
  have same := Pool.modify_of_fixed found fixed
  change { b with host := { b.host with realm := { b.host.realm with
    closures := { b.host.realm.closures with
      pool := b.host.realm.closures.pool.modify i f } } } } = b
  rw [same]

omit there in
theorem changed_changed (b : Bridge σ) (i : Nat) (f g : Closure → Closure) :
    changed (changed b i f) i g = changed b i (g ∘ f) := by
  change { b with host := { b.host with realm := { b.host.realm with
    closures := { b.host.realm.closures with
      pool := (b.host.realm.closures.pool.modify i f).modify i g } } } } = _
  rw [Pool.modify_modify]
  rfl

/-- What an invocation does to its closure before and after the guest is run cancels out. -/
theorem perform_invoke_refused {calls : ClosureCalls (Bridge σ)} {argument : UInt32}
    {fault : Fault} (resting : (closureOf b i).Resting)
    (refused : (calls.run (closureOf b i).code (closureOf b i).data (closureOf b i).metaWord
      argument).perform (changed b i Closure.entered) =
        (.error fault, changed b i Closure.entered)) :
    (calls.invoke i argument).perform b = (.error fault, b) := by
  have entered := closureOf_changed there Closure.entered
  have returned := closureOf_changed there (Closure.unreferenced ∘ Closure.entered)
  have afterRun : calls.afterRun i argument b =
      changed b i (Closure.unreferenced ∘ Closure.entered) := by
    simp only [ClosureCalls.afterRun, entered]
    rw [← changed_changed]
    exact congrArg (fun ended => changed ended.2 i Closure.unreferenced) refused
  have outcome : ((calls.invoke i argument).perform b).1 = .error fault := by
    apply ClosureCalls.outcome_invoke_error
    rw [entered]
    exact congrArg Prod.fst refused
  refine Prod.ext outcome ?_
  rw [ClosureCalls.state_invoke, afterRun, returned]
  by_cases none : (closureOf b i).references = 0
  · have fixed : (Closure.unreferenced ∘ Closure.entered) (closureOf b i) = closureOf b i := by
      obtain ⟨-, data⟩ := resting none
      simp only [Function.comp_apply, Closure.unreferenced, Closure.entered, Nat.add_sub_cancel]
      rw [← data]
    rw [if_pos (by simpa [Closure.unreferenced, Closure.entered] using none),
      changed_of_fixed there fixed, ClosureCalls.perform_finish, if_pos (resting none).1]
  · rw [if_neg (by simpa [Closure.unreferenced, Closure.entered] using none), changed_changed]
    exact changed_of_fixed there rfl

end Refusal

/-- The guest's table has nothing to call a closure by. -/
inductive NoEntry (b : Bridge σ) (code : UInt32) : Fault → Prop
  | noTable {exports : BoundExports σ} (present : b.bound = some exports)
      (none : exports.table? = none) : NoEntry b code (.missingExport b.settings.exports.table)
  | vacant {exports : BoundExports σ} {entries : FunctionTable σ}
      (present : b.bound = some exports) (table : exports.table? = some entries)
      (none : (entries[code.toNat]?).join = none) : NoEntry b code (.badTableEntry code)
  | mistyped {exports : BoundExports σ} {entries : FunctionTable σ} {f : GuestFunction σ}
      (present : b.bound = some exports) (table : exports.table? = some entries)
      (entry : (entries[code.toNat]?).join = some f) (other : f.type ≠ BridgeAction.closureType) :
      NoEntry b code .declined

structure Unreached (b : Bridge σ) (i : Nat) (fault : Fault) : Prop where
  there : b.host.realm.closures.pool.contains i = true
  /-- As invocations find their closures, by `Lifetime.closures_rest`. -/
  resting : (closureOf b i).Resting
  none : NoEntry b (closureOf b i).code fault

section

variable {b : Bridge σ} {i : Nat} {fault : Fault}

theorem NoEntry.bound {code : UInt32} (none : NoEntry b code fault) :
    ∃ exports, b.bound = some exports := by
  cases none with
  | noTable present | vacant present | mistyped present => exact ⟨_, present⟩

theorem Unreached.hold (unreached : Unreached b i fault) (v : Value) :
    Unreached ((BridgeAction.hold v).perform b).2 i fault := by
  obtain ⟨there, resting, none⟩ := unreached
  have closures : ((BridgeAction.hold v).perform b).2.host.realm.closures.pool.get? i =
      b.host.realm.closures.pool.get? i := by
    cases v with
    | function j => exact Pool.get?_hold ..
    | _ => rfl
  have same : closureOf ((BridgeAction.hold v).perform b).2 i = closureOf b i :=
    congrArg (Option.getD · default) closures
  refine ⟨?_, same ▸ resting, ?_⟩
  · rw [Pool.contains_iff, closures]
    exact Pool.contains_iff.1 there
  · rw [same]
    cases none with
    | noTable present none => exact .noTable present none
    | vacant present table none => exact .vacant present table none
    | mistyped present table entry other => exact .mistyped present table entry other

end

def Bridge.storing (b : Bridge σ) (v : Value) : Bridge σ :=
  { b with handles := (b.handles.alloc v).2 }

structure Bridge.Keeps (b : Bridge σ) (v : Value) : Prop where
  permanent : ∀ handle, HandleTable.sentinel? v = some handle → b.storing v = b
  counted : HandleTable.sentinel? v = none →
    (b.storing v).handles.liveCount = b.handles.liveCount + 1
  other : b.handles.Roomy → HandleTable.sentinel? v = none →
    b.handles.isLive (b.handles.alloc v).1 = false ∧
      (b.storing v).handles.live? (b.handles.alloc v).1 = some v ∧
      ∀ handle held, b.handles.live? handle = some held →
        (b.storing v).handles.live? handle = some held

/-- The value has been stored. What else has happened has happened to the host's objects, and each
closure that is still there is as it was. -/
def Bridge.Stored (b : Bridge σ) (v : Value) (b' : Bridge σ) : Prop :=
  ∃ realm, b.host.realm.closures.Fewer realm.closures ∧
    b' = { b.storing v with host := { b.host with realm := realm } }

namespace BridgeAction

variable {b : Bridge σ} {i : Nat} {fault : Fault}

theorem perform_tableFunction_none {s : Bridge σ} {code : UInt32} (none : NoEntry b code fault)
    (bound : s.bound = b.bound) (settings : s.settings = b.settings) :
    (tableFunction code closureType).perform s = (.error fault, s) := by
  cases none with
  | noTable present none =>
    rw [tableFunction, Action.perform_bind_ok _ _ (perform_bound_some (bound.trans present)), none,
      ← settings]
    rfl
  | vacant present table none =>
    rw [tableFunction, Action.perform_bind_ok _ _ (perform_bound_some (bound.trans present)), table]
    simp only [none]
    rfl
  | mistyped present table entry other =>
    rw [tableFunction, Action.perform_bind_ok _ _ (perform_bound_some (bound.trans present)), table]
    simp only [entry, other, ↓reduceIte]
    rfl

/-- The argument has its handle before the table is looked at, and keeps it. -/
theorem perform_invokeClosure_unreached (unreached : Unreached b i fault) (call : GuestCaller σ)
    (v : Value) : (invokeClosure call i v).perform b = (.error fault, b.storing v) := by
  have allocated : (alloc v).perform b = (.ok (b.handles.alloc v).1, b.storing v) := rfl
  have refused : ((closureCalls call).invoke i (b.handles.alloc v).1).perform (b.storing v) =
      (.error fault, b.storing v) := by
    refine perform_invoke_refused (b := b.storing v) unreached.there unreached.resting ?_
    change (tableFunction (closureOf b i).code closureType >>= fun f =>
      callWord call f _).perform _ = _
    rw [Action.perform_bind, perform_tableFunction_none
      (s := changed (b.storing v) i Closure.entered) unreached.none rfl rfl]
  rw [invokeClosure, Action.perform_bind_ok _ _ allocated, Action.perform_bind, refused]

theorem functionCall_unreached (unreached : Unreached b i fault) {function : UInt32}
    (callee : b.handles.get function = .function i) (call : GuestCaller σ) (argument : UInt32) :
    let ended := (functionCall call function argument).perform b
    ended.1 = .error fault ∧ b.Stored (b.handles.get argument) ended.2 := by
  obtain ⟨exports, present⟩ := unreached.none.bound
  have held : (hold (.function i)).perform b = (.ok (), ((hold (.function i)).perform b).2) := rfl
  have peeked : (peek argument).perform ((hold (.function i)).perform b).2 =
      (.ok (b.handles.get argument), ((hold (.function i)).perform b).2) := rfl
  have shared (s : Bridge σ) : (hold (b.handles.get argument)).perform s =
      (.ok (), ((hold (b.handles.get argument)).perform s).2) := rfl
  have called := perform_invokeClosure_unreached
    ((unreached.hold (.function i)).hold (b.handles.get argument)) call (b.handles.get argument)
  rw [functionCall, Action.perform_bind_ok _ _ (perform_bound_some present),
    Action.perform_bind_ok _ _ (perform_peek function b), callee]
  dsimp only
  rw [Action.perform_bind_ok _ _ held, Action.perform_bind, Action.perform_attempt,
    Action.perform_bind_ok _ _ peeked, Action.perform_bind_ok _ _ (shared _), Action.perform_bind,
    called]
  have once := b.host.realm.fewer_hold (.function i)
  have twice := once.trans (Realm.fewer_hold _ (b.handles.get argument))
  exact ⟨rfl, _, twice.trans (Realm.fewer_run _ [.letGo (.function i)]), rfl⟩

theorem runMicrotask_unreached {task : Microtask} (unreached : Unreached b task.callback fault) :
    b.Stored task.argument ((runMicrotask task).perform b).2 := by
  obtain ⟨exports, present⟩ := unreached.none.bound
  have called := perform_invokeClosure_unreached unreached callGuest task.argument
  have attempted : (Action.attempt do
      let _ ← bound
      invokeClosure callGuest task.callback task.argument).perform b =
        (.ok (.error fault), b.storing task.argument) := by
    rw [Action.perform_attempt, Action.perform_bind_ok _ _ (perform_bound_some present), called]
  rw [runMicrotask, Action.perform_bind_ok _ _ attempted]
  have letGo (r : Realm) (v : Value) : r.closures.Fewer (r.letGo v).closures := r.fewer_run _
  rcases task.settles with _ | p
  · cases unreached.none <;> exact ⟨_, letGo _ _, rfl⟩
  · have reject (failure : Failure) := b.host.realm.fewer_run [.reject p failure]
    cases unreached.none <;>
      exact ⟨_, ((reject _).trans (letGo _ (.promise p))).trans (letGo _ _), rfl⟩

theorem fire_unreached {timer : Timer} (unreached : Unreached b timer.callback fault) :
    ((fire timer).perform b).1 = .error fault ∧
      b.Stored .undefined ((fire timer).perform b).2 := by
  obtain ⟨exports, present⟩ := unreached.none.bound
  have called := perform_invokeClosure_unreached unreached callGuest .undefined
  have attempted : (Action.attempt do
      let _ ← bound
      letGo (← invokeClosure callGuest timer.callback .undefined)).perform b =
        (.ok (.error fault), b.storing .undefined) := by
    rw [Action.perform_attempt, Action.perform_bind_ok _ _ (perform_bound_some present),
      Action.perform_bind, called]
  rw [fire, Action.perform_bind_ok _ _ attempted]
  exact ⟨rfl, _, b.host.realm.fewer_run _, rfl⟩

/-- The argument is in the table when the queue of destructor calls is drained. -/
theorem invoke_unreached (unreached : Unreached b i fault) {function : UInt32}
    (callee : b.handles.get function = .function i) (v : Value) :
    let ended := (invoke function v).perform b
    ∃ begun, b.Stored v begun ∧
      ended.1 = (drain.perform begun).1.bind (fun _ => .error fault) ∧
      ended.2 = ((letGo (.function i)).perform (drain.perform begun).2).2 := by
  obtain ⟨exports, present⟩ := unreached.none.bound
  have guest : b.bound.isSome = true := by rw [present]; rfl
  have called := perform_invokeClosure_unreached (unreached.hold (.function i)) callGuest v
  refine ⟨((hold (.function i)).perform b).2.storing v, ⟨_, Realm.fewer_hold _ _, rfl⟩, ?_⟩
  rw [perform_invoke callee guest, called]
  rcases drain.perform (((hold (.function i)).perform b).2.storing v) with ⟨_ | n, after⟩ <;>
    exact ⟨rfl, rfl⟩

/-- A call that does not get as far as the guest leaves its closure as it was, and its argument in
the table of handles, by whatever way it is made. Only an argument with a permanent handle leaves
the table as it was. -/
theorem unreached_call_keeps_argument (unreached : Unreached b i fault) :
    (∀ v, b.Keeps v) ∧
    (∀ call v, (invokeClosure call i v).perform b = (.error fault, b.storing v)) ∧
    (∀ call function argument, b.handles.get function = .function i →
      let ended := (functionCall call function argument).perform b
      ended.1 = .error fault ∧ b.Stored (b.handles.get argument) ended.2) ∧
    (∀ function v, b.handles.get function = .function i →
      let ended := (invoke function v).perform b
      ∃ begun, b.Stored v begun ∧
        ended.1 = (drain.perform begun).1.bind (fun _ => .error fault) ∧
        ended.2 = ((letGo (.function i)).perform (drain.perform begun).2).2) ∧
    (∀ task : Microtask, task.callback = i →
      b.Stored task.argument ((runMicrotask task).perform b).2) ∧
    ∀ timer : Timer, timer.callback = i →
      ((fire timer).perform b).1 = .error fault ∧
        b.Stored .undefined ((fire timer).perform b).2 := by
  refine ⟨fun v => ?_, perform_invokeClosure_unreached unreached,
    fun call function argument callee => functionCall_unreached unreached callee call argument,
    fun function v callee => invoke_unreached unreached callee v, ?_, ?_⟩
  · constructor
    case permanent =>
      intro handle permanent
      simp only [Bridge.storing, HandleTable.alloc, permanent]
    case counted =>
      intro plain
      simp only [Bridge.storing, HandleTable.alloc, plain]
      split <;> rfl
    case other => exact fun roomy plain => roomy.alloc plain
  · rintro task rfl
    exact runMicrotask_unreached unreached
  · rintro timer rfl
    exact fire_unreached unreached

end BridgeAction

open BridgeAction

/-- A guest that has made a closure, but exports no table to call it through. -/
def Relay.withClosure : Bridge Unit :=
  (Relay.started {} [.closureNew]).after
    (.callDynamic "closure_new" [.word 3, .word 1, .word 7, .word 0])

theorem unreached_call_keeps_argument_relay :
    Unreached Relay.withClosure 0 (.missingExport "__indirect_function_table") ∧
      ∀ call, (invokeClosure call 0 (.string "x")).perform Relay.withClosure =
        (.error (.missingExport "__indirect_function_table"),
          Relay.withClosure.storing (.string "x")) := by
  have unreached : Unreached Relay.withClosure 0 (.missingExport "__indirect_function_table") :=
    ⟨rfl, nofun, .noTable rfl rfl⟩
  exact ⟨unreached, fun call => (unreached_call_keeps_argument unreached).2.1 call _⟩

/-- The host passes it a text, which nothing can get at any more but through a handle that nobody
knows of. -/
theorem unreached_call_leaks_argument :
    let b := Relay.withClosure
    let ended := (invoke 4 (.string "x")).perform b
    b.Reachable .empty ∧ b.handles.get 4 = .function 0 ∧
      ended.1 = .error (.missingExport "__indirect_function_table") ∧
      b.handles.isLive 5 = false ∧ ended.2.handles.live? 5 = some (.string "x") ∧
      b.handles.liveCount = 1 ∧ ended.2.handles.liveCount = 2 :=
  ⟨.asked _ (Relay.reachable_started ..), rfl, by cbv, rfl, by cbv, rfl, by cbv⟩

end GuestBridge

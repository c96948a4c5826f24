import GuestBridge.Proofs.Closures
import GuestBridge.Proofs.Finalizers.Draining
import GuestBridge.Proofs.Timers.Run
/-!
What is left on the queue of destructor calls when the bridge returns to the host. A call of an
export leaves nothing, whether it succeeds or not, unless a destructor fails in the drain after it.
An invocation holds the function that it calls until after the drain, so that a destructor of that
function may be left. The microtasks and the timers leave nothing if they succeed; a task or a
callback that fails ends them without a drain.
-/

set_option autoImplicit false

namespace GuestBridge

open BridgeAction

/-- Where letting go leads to nothing else. -/
theorem Realm.letGo_eq {r r' : Realm} {v : Value} (single : r.doJob (.letGo v) = (r', [])) :
    r.letGo v = r' := by
  rw [letGo, run]
  simp only [single, List.append_nil]
  rw [run]

theorem Realm.letGo_function (r : Realm) (i : Nat) :
    r.letGo (.function i) = { r with closures := r.closures.release i } :=
  letGo_eq rfl

variable {σ : Type}

/-- Whenever the operation succeeds, nothing is left on the queue. -/
def Clears {α : Type} (act : BridgeAction σ α) : Prop :=
  ∀ b a b', act.perform b = (.ok a, b') → b'.finalizers = []

/-- The operation leaves nothing on the queue if nothing was on it. -/
def KeepsClear {α : Type} (act : BridgeAction σ α) : Prop :=
  ∀ b a b', b.finalizers = [] → act.perform b = (.ok a, b') → b'.finalizers = []

section

variable {α β : Type} {act : BridgeAction σ α} {next : α → BridgeAction σ β}

theorem Clears.after (second : ∀ a, Clears (next a)) : Clears (act >>= next) := by
  intro b c b' done
  obtain ⟨a, b₁, -, rest⟩ := Action.bind_eq_ok done
  exact second a b₁ c b' rest

theorem Clears.bind (first : Clears act) (second : ∀ a, KeepsClear (next a)) :
    Clears (act >>= next) := by
  intro b c b' done
  obtain ⟨a, b₁, begun, rest⟩ := Action.bind_eq_ok done
  exact second a b₁ c b' (first b a b₁ begun) rest

theorem KeepsClear.pure (a : α) : KeepsClear (Pure.pure a : BridgeAction σ α) := by
  intro b a b' clear done
  cases done
  exact clear

end

theorem clears_drain : Clears (drain (σ := σ)) := by
  intro b n b' done
  rw [perform_drain] at done
  split at done
  · next empty =>
    cases done
    exact List.isEmpty_iff.1 empty
  · split at done
    · exact finalizers_drainBatches callGuest done
    · cases done

theorem perform_settleCall {α : Type} (outcome : Except Fault α) (b : Bridge σ) :
    (settleCall outcome).perform b =
      (outcome.bind fun a => (drain.perform b).1.map fun _ => a, (drain.perform b).2) := by
  simp only [settleCall, Action.perform_bind, Action.perform_attempt, Action.perform_conclude]
  rcases outcome with fault | a
  · rfl
  · rcases (drain.perform b).1 with fault | n <;> rfl

/-- After a call, be it of an export or not, the queue is drained, and nothing is left on it unless
that very drain fails. -/
structure Swept {α : Type} (called : Bridge σ) (ended : Except Fault α × Bridge σ) : Prop where
  drained : ended.2 = (drain.perform called).2
  cleared : ended.2.finalizers = [] ∨ ∃ fault, drain.perform called = (.error fault, ended.2)
  completed : ∀ a, ended.1 = .ok a → ended.2.finalizers = []

theorem swept_settled {α : Type} (act : BridgeAction σ α) (b : Bridge σ) :
    Swept (act.perform b).2 ((Action.attempt act >>= settleCall).perform b) := by
  have ended : (Action.attempt act >>= settleCall).perform b =
      (settleCall (act.perform b).1).perform (act.perform b).2 := rfl
  rw [ended, perform_settleCall]
  rcases act.perform b with ⟨outcome, returned⟩
  rcases ran : drain.perform returned with ⟨fault | n, swept⟩
  · refine ⟨by rw [ran], .inr ⟨fault, ran⟩, fun a done => ?_⟩
    rcases outcome with fault' | a' <;> cases done
  · have clear := clears_drain _ n _ ran
    exact ⟨by rw [ran], .inl clear, fun _ _ => clear⟩

theorem exportedFunction_same (name : String) (b : Bridge σ) :
    ((exportedFunction name).perform b).2 = b := by
  unfold exportedFunction
  simp only [Action.perform_bind, Action.perform_get]
  rcases b.active with _ | m
  · rfl
  · dsimp only
    rcases m.function? name <;> rfl

section

variable {b : Bridge σ} {name : String}

theorem exportedFunction_found
    (present : ((exportedFunction name).perform b).1.isOk = true) :
    ∃ f, (exportedFunction name).perform b = (.ok f, b) := by
  rcases looked : ((exportedFunction name).perform b).1 with fault | f
  · rw [looked] at present
    cases present
  · exact ⟨f, Prod.ext looked (exportedFunction_same name b)⟩

theorem callTyped_found {f : GuestFunction σ}
    (found : (exportedFunction name).perform b = (.ok f, b)) (args : List Core) :
    (callTyped name f.type args).perform b =
      (Action.attempt (callGuest f args) >>= settleCall).perform b := by
  rw [callTyped, Action.perform_bind_ok _ _ found]
  simp only [↓reduceIte]

theorem callTyped_declined {f : GuestFunction σ}
    (found : (exportedFunction name).perform b = (.ok f, b)) (args : List Core) {type : Signature}
    (other : type ≠ f.type) : (callTyped name type args).perform b = (.error .declined, b) := by
  rw [callTyped, Action.perform_bind_ok _ _ found]
  simp only [if_neg other.symm]
  rfl

/-- The machine takes arguments of the right types only. -/
def callChecked (f : GuestFunction σ) (args : List Core) : BridgeAction σ (List Core) := do
  unless f.type.params = args.map Core.type do throw .declined
  callGuest f args

theorem callDynamic_found {f : GuestFunction σ}
    (found : (exportedFunction name).perform b = (.ok f, b)) (args : List Core) :
    (callDynamic name args).perform b =
      (Action.attempt (callChecked f args) >>= settleCall).perform b := by
  rw [callDynamic, Action.perform_bind_ok _ _ found]
  rfl

/-- A call that cannot begin leaves everything as it is. -/
theorem callTyped_unbegun {fault : Fault}
    (missing : ((exportedFunction name).perform b).1 = .error fault) (type : Signature)
    (args : List Core) : (callTyped name type args).perform b = (.error fault, b) := by
  have looked : (exportedFunction name).perform b = (.error fault, b) :=
    Prod.ext missing (exportedFunction_same name b)
  rw [callTyped, Action.perform_bind, looked]

theorem callDynamic_unbegun {fault : Fault}
    (missing : ((exportedFunction name).perform b).1 = .error fault) (args : List Core) :
    (callDynamic name args).perform b = (.error fault, b) := by
  have looked : (exportedFunction name).perform b = (.error fault, b) :=
    Prod.ext missing (exportedFunction_same name b)
  rw [callDynamic, Action.perform_bind, looked]

end

theorem clears_runMicrotasks : Clears (runMicrotasks (σ := σ)) :=
  .after fun _ => .after fun ran => .bind clears_drain fun _ => .pure ran

/-- The ways in which a run of the microtasks fails. No drain follows a task that fails. -/
inductive MicrotasksStop (b : Bridge σ) (fault : Fault) (b' : Bridge σ) : Prop
  | task (failed : (runMicrotasksWithin b.limits.turns).perform b = (.error fault, b'))
  | destructor (n : Nat) (last : Bridge σ)
      (ran : (runMicrotasksWithin b.limits.turns).perform b = (.ok n, last))
      (failed : drain.perform last = (.error fault, b'))

theorem microtasksStop {b b' : Bridge σ} {fault : Fault}
    (failed : runMicrotasks.perform b = (.error fault, b')) : MicrotasksStop b fault b' := by
  simp only [runMicrotasks, Action.perform_bind, Action.perform_get] at failed
  rcases ran : (runMicrotasksWithin b.limits.turns).perform b with ⟨fault' | n, last⟩ <;>
    simp only [ran] at failed
  · cases failed
    exact .task ran
  · rcases drained : drain.perform last with ⟨fault' | k, swept⟩ <;> simp only [drained] at failed
    · cases failed
      exact .destructor n last ran drained
    · cases failed

/-- The bridge as its last run of the microtasks begins, when these timers have fired. -/
def Bridge.lastTurn (b : Bridge σ) : List (Firing σ) → Bridge σ
  | [] => b
  | f :: later => ((fire f.timer).perform f.begun).2.lastTurn later

/-- The ways in which letting time pass fails, when these timers have fired. No drain follows a
callback that fails. -/
inductive TimersStop (b : Bridge σ) (firings : List (Firing σ)) (fault : Fault) (b' : Bridge σ) :
    Prop
  | tasks (failed : MicrotasksStop (b.lastTurn firings) fault b')
  | callback (before : List (Firing σ)) (f : Firing σ) (last : firings = before ++ [f])
      (failed : (fire f.timer).perform f.begun = (.error fault, b'))
  | spent (exhausted : fault = .exhausted) (n : Nat)
      (ran : runMicrotasks.perform (b.lastTurn firings) = (.ok n, b'))
      (cleared : b'.finalizers = [])

theorem TimersStop.cons {b b' : Bridge σ} {f : Firing σ} {later : List (Firing σ)} {fault : Fault}
    (stop : TimersStop ((fire f.timer).perform f.begun).2 later fault b') :
    TimersStop b (f :: later) fault b' := by
  cases stop with
  | tasks failed => exact .tasks failed
  | callback before g last failed => exact .callback (f :: before) g (last ▸ rfl) failed
  | spent exhausted n ran cleared => exact .spent exhausted n ran cleared

theorem Bridge.finalizers_concluded (deadline : UInt64) (b : Bridge σ)
    (outcome : Except Fault Nat) :
    (b.concluded deadline outcome).finalizers = b.finalizers := by
  cases outcome <;> rfl

theorem Loop.stops {deadline : UInt64} {turns : Nat} {b b' : Bridge σ} {firings : List (Firing σ)}
    {outcome : Except Fault Nat} (loop : Loop deadline turns b firings outcome b') :
    (∀ n, outcome = .ok n → b'.finalizers = []) ∧
      ∀ fault, outcome = .error fault → TimersStop b firings fault b' := by
  induction loop with
  | unsettled tasks =>
    refine ⟨nofun, fun fault same => ?_⟩
    cases same
    exact .tasks (microtasksStop tasks)
  | @spent b b' n tasks =>
    refine ⟨nofun, fun fault same => ?_⟩
    cases same
    exact .spent rfl n tasks (clears_runMicrotasks b n b' tasks)
  | @ended turns b b' n e tasks _ =>
    exact ⟨fun _ _ => clears_runMicrotasks b n b' tasks, nofun⟩
  | @failed turns b b₁ b' n f e fault tasks due begun fired =>
    refine ⟨nofun, fun fault same => ?_⟩
    cases same
    exact .callback [] f rfl fired
  | @fired turns b b₁ b₂ b' n f e later outcome tasks due begun fired _ ih =>
    have after : ((fire f.timer).perform f.begun).2 = b₂ := congrArg Prod.snd fired
    obtain ⟨completed, failed⟩ := ih
    rcases outcome with fault | m
    · refine ⟨nofun, fun fault' same => .cons (after ▸ ?_)⟩
      cases same
      exact failed fault rfl
    · exact ⟨fun _ _ => completed m rfl, nofun⟩

/-- Only one place holds the closure, and the guest has its destructor to come. -/
def Bridge.LastHeld (b : Bridge σ) (i : Nat) (k : Closure) : Prop :=
  ∃ n ≤ 1, b.host.realm.closures.pool.held? i = some ⟨k, n⟩ ∧
    k.inert = false ∧ 0 < k.references ∧ k.account = .guest

/-- Letting go of a closure leaves its destructor to the queue if no other place holds it. -/
theorem finalizers_letGo_function {b : Bridge σ} (clear : b.finalizers = []) (i : Nat) :
    let after := ((letGo (.function i)).perform b).2
    (∃ k, b.LastHeld i k ∧ after.finalizers = [k.finalizer]) ∨
      (∀ k, ¬ b.LastHeld i k) ∧ after.finalizers = [] := by
  intro after
  have released : after.host.realm.closures = b.host.realm.closures.release i :=
    congrArg Realm.closures (b.host.realm.letGo_function i)
  have queue : after.finalizers = ((b.host.realm.closures.release i).ledger .guest).finalizers :=
    congrArg (fun closures => closures.guest.finalizers) released
  have empty : (b.host.realm.closures.ledger .guest).finalizers = [] := clear
  rcases found : b.host.realm.closures.pool.held? i with _ | ⟨k, n⟩
  · refine .inr ⟨?_, ?_⟩
    · rintro k ⟨n, -, held, -⟩
      rw [found] at held
      cases held
    · have none := Pool.release_fst b.host.realm.closures.pool i
      rw [found, Option.bind_none] at none
      rcases split : b.host.realm.closures.pool.release i with ⟨k?, pool⟩
      rw [split] at none
      subst none
      rw [queue, Closures.release, split]
      exact empty
  · rw [Closures.ledger_release found] at queue
    split at queue
    · next last =>
      obtain ⟨few, live, referenced, account⟩ := last
      refine .inl ⟨k, ⟨n, few, found, live, referenced, account.symm⟩, ?_⟩
      rw [queue, empty, List.nil_append]
    · next other =>
      refine .inr ⟨?_, queue.trans empty⟩
      rintro k' ⟨n', few, held, live, referenced, account⟩
      rw [found] at held
      cases held
      exact other ⟨few, live, referenced, account.symm⟩

/-- What an invocation leaves. It lets go of the function that it has called after the queue has
been drained, and leaves the destructor of that function if nothing else holds it any more. -/
structure InvokeSwept (i : Nat) (called ended : Except Fault Value × Bridge σ) : Prop where
  drained : ∀ n swept, drain.perform called.2 = (.ok n, swept) →
    ended = (called.1, ((letGo (.function i)).perform swept).2) ∧
      ((∃ k, swept.LastHeld i k ∧ ended.2.finalizers = [k.finalizer]) ∨
        (∀ k, ¬ swept.LastHeld i k) ∧ ended.2.finalizers = [])
  failed : ∀ fault swept, drain.perform called.2 = (.error fault, swept) → ended.1 = .error fault

section

variable {handle : UInt32} {b : Bridge σ} {i : Nat}
  (found : b.handles.get handle = .function i) (guest : b.bound.isSome = true) (argument : Value)

include found guest

/-- An invocation holds the function that it calls until the queue has been drained. When the drain
fails, that failure is the outcome, and a result that nobody gets is let go of. -/
theorem perform_invoke :
    let held := ((hold (.function i)).perform b).2
    let called := (invokeClosure callGuest i argument).perform held
    let drained := drain.perform called.2
    (invoke handle argument).perform b =
      match drained.1, called.1 with
      | .ok _, outcome => (outcome, ((letGo (.function i)).perform drained.2).2)
      | .error fault, .ok v =>
        (.error fault, ((letGo (.function i)).perform ((letGo v).perform drained.2).2).2)
      | .error fault, .error _ => (.error fault, ((letGo (.function i)).perform drained.2).2) := by
  have here := Option.isSome_iff_ne_none.1 guest
  obtain ⟨held, first⟩ : ∃ held, (hold (.function i)).perform b = (.ok (), held) := ⟨_, rfl⟩
  rw [first]
  dsimp only
  rcases called : (invokeClosure callGuest i argument).perform held with ⟨result, returned⟩
  rcases ran : drain.perform returned with ⟨fault | n, swept⟩
  · rcases result with fault' | v <;> simp [invoke, letGo, found, here, first, called, ran]
  · simp [invoke, letGo, found, here, first, called, ran]

theorem invokeSwept : InvokeSwept i
    ((invokeClosure callGuest i argument).perform ((hold (.function i)).perform b).2)
    ((invoke handle argument).perform b) := by
  rw [perform_invoke found guest argument]
  rcases (invokeClosure callGuest i argument).perform ((hold (.function i)).perform b).2 with
    ⟨outcome, returned⟩
  constructor
  case drained =>
    intro n swept ran
    dsimp only at ran ⊢
    rw [ran]
    exact ⟨rfl, finalizers_letGo_function (clears_drain _ n _ ran) i⟩
  case failed =>
    intro fault swept ran
    dsimp only at ran ⊢
    rw [ran]
    rcases outcome with fault' | v <;> rfl

end

/-! An invocation that cannot begin lets go of the argument and does nothing else. -/

theorem invoke_other {handle : UInt32} {b : Bridge σ}
    (other : ∀ i, b.handles.get handle ≠ .function i) (argument : Value) :
    (invoke handle argument).perform b = (.error (.host ((b.handles.get handle).notA "a function")),
      ((letGo argument).perform b).2) := by
  rw [invoke, Action.perform_bind_ok _ _ (perform_peek handle b)]
  split
  · next i callee => exact absurd callee (other i)
  · rfl

theorem invoke_unbound {handle : UInt32} {b : Bridge σ} {i : Nat}
    (callee : b.handles.get handle = .function i) (absent : b.bound.isSome = false)
    (argument : Value) : (invoke handle argument).perform b =
      (.error .notInitialized, ((letGo argument).perform b).2) := by
  have missing : b.bound.isNone = true := by simpa using absent
  rw [invoke, Action.perform_bind_ok _ _ (perform_peek handle b)]
  simp only [callee, Action.perform_bind, Action.perform_get, missing, ↓reduceIte]
  rfl

/-- What is left on the queue of destructor calls when a bridge has done what the host asked for. -/
theorem finalizers_after_entry :
    (∀ (b : Bridge σ) name f args, (exportedFunction name).perform b = (.ok f, b) →
      Swept ((callGuest f args).perform b).2 ((callTyped name f.type args).perform b) ∧
      (∀ type, type ≠ f.type → (callTyped name type args).perform b = (.error .declined, b)) ∧
      Swept ((callChecked f args).perform b).2 ((callDynamic name args).perform b)) ∧
    (∀ (b : Bridge σ) name fault, ((exportedFunction name).perform b).1 = .error fault →
      (∀ type args, (callTyped name type args).perform b = (.error fault, b)) ∧
      ∀ args, (callDynamic name args).perform b = (.error fault, b)) ∧
    (∀ (b : Bridge σ) handle i argument, b.handles.get handle = .function i →
      b.bound.isSome = true →
      InvokeSwept i
        ((invokeClosure callGuest i argument).perform ((hold (.function i)).perform b).2)
        ((invoke handle argument).perform b)) ∧
    (∀ (b : Bridge σ) handle argument,
      ((∀ i, b.handles.get handle ≠ .function i) → (invoke handle argument).perform b =
        (.error (.host ((b.handles.get handle).notA "a function")),
          ((letGo argument).perform b).2)) ∧
      ∀ i, b.handles.get handle = .function i → b.bound.isSome = false →
        (invoke handle argument).perform b =
          (.error .notInitialized, ((letGo argument).perform b).2)) ∧
    (∀ b : Bridge σ, let ran := runMicrotasks.perform b
      (∀ n, ran.1 = .ok n → ran.2.finalizers = []) ∧
        ∀ fault, ran.1 = .error fault → MicrotasksStop b fault ran.2) ∧
    ∀ (b : Bridge σ) milliseconds, let ran := (runTimers milliseconds).perform b
      (∀ n, ran.1 = .ok n → ran.2.finalizers = []) ∧
        ∀ fault, ran.1 = .error fault → TimersStop b (b.firings milliseconds) fault ran.2 := by
  refine ⟨?typed, ?missing, ?invoked, ?unfit, ?tasks, ?timers⟩
  case typed =>
    intro b name f args found
    refine ⟨?_, fun type other => callTyped_declined found args other, ?_⟩
    · exact callTyped_found found args ▸ swept_settled _ b
    · exact callDynamic_found found args ▸ swept_settled _ b
  case missing =>
    exact fun b name fault missing => ⟨callTyped_unbegun missing, callDynamic_unbegun missing⟩
  case invoked => exact fun b handle i argument found guest => invokeSwept found guest argument
  case unfit =>
    exact fun b handle argument => ⟨fun other => invoke_other other argument,
      fun i callee absent => invoke_unbound callee absent argument⟩
  case tasks =>
    intro b ran
    exact ⟨fun n done => clears_runMicrotasks b n ran.2 (Prod.ext done rfl),
      fun fault failed => microtasksStop (Prod.ext failed rfl)⟩
  case timers =>
    intro b milliseconds ran
    obtain ⟨last, loop, ended⟩ := loop_runTimers milliseconds b
    obtain ⟨completed, failed⟩ := loop.stops
    refine ⟨fun n done => ?_, fun fault done => ?_⟩
    · rw [ended, Bridge.finalizers_concluded]
      exact completed n done
    · have same : ran.2 = last := ended.trans (congrArg (last.concluded _) done)
      exact same ▸ failed fault done

/-- A guest that has made a closure, which releases its only handle while it runs. -/
def selfReleasing : Bridge Unit :=
  let entry : GuestFunction Unit :=
    ⟨closureType, fun _ => .call 1 [.word 4] fun _ => .yield [.word 0]⟩
  let destructor : GuestFunction Unit := ⟨destructorType, fun _ => .yield []⟩
  let guest := Relay.tabled [.closureNew, .objectDropRef] [some entry, some destructor]
  ((Bridge.create {} .empty ()).after (.start (.module guest))).after
    (.callDynamic "closure_new" [.word 0, .word 1, .word 5, .word 10])

theorem selfReleasing_reachable : selfReleasing.Reachable .empty := by
  unfold selfReleasing
  exact .asked _ (.asked _ (.created {} ()))

/-- Its invocation ends after the drain, which succeeds; a call without arguments is declined. -/
theorem finalizers_after_entry_selfReleasing :
    let b := selfReleasing
    let called := (invokeClosure callGuest 0 .undefined).perform ((hold (.function 0)).perform b).2
    b.handles.get 4 = .function 0 ∧ b.bound.isSome = true ∧ (drain.perform called.2).1 = .ok 0 ∧
      InvokeSwept 0 called ((invoke 4 .undefined).perform b) ∧
      (runMicrotasks.perform b).1 = .ok 0 ∧ (runMicrotasks.perform b).2.finalizers = [] ∧
      ∃ f, (exportedFunction "closure_new").perform b = (.ok f, b) ∧
        Swept ((callGuest f []).perform b).2 ((callTyped "closure_new" f.type []).perform b) ∧
        Swept ((callChecked f []).perform b).2 ((callDynamic "closure_new" []).perform b) ∧
        ((callDynamic "closure_new" []).perform b).1 = .error .declined := by
  obtain ⟨f, found⟩ : ∃ f,
      (exportedFunction "closure_new").perform selfReleasing = (.ok f, selfReleasing) :=
    exportedFunction_found (by cbv)
  have callee : selfReleasing.handles.get 4 = .function 0 := by cbv
  have guest : selfReleasing.bound.isSome = true := by cbv
  have tasks : (runMicrotasks.perform selfReleasing).1 = .ok 0 := by cbv
  obtain ⟨calls, -, invokes, -, ran, -⟩ := finalizers_after_entry (σ := Unit)
  obtain ⟨typed, -, dynamic⟩ := calls selfReleasing "closure_new" f [] found
  exact ⟨callee, guest, by cbv, invokes selfReleasing 4 0 .undefined callee guest, tasks,
    (ran selfReleasing).1 0 tasks, f, found, typed, dynamic, by cbv⟩

/-- Its invocation succeeds and leaves its destructor on the queue. -/
theorem invocation_leaves_destructor :
    let invoked := (invoke 4 .undefined).perform selfReleasing
    selfReleasing.Reachable .empty ∧ selfReleasing.finalizers = [] ∧ invoked.1 = .ok .undefined ∧
      invoked.2.finalizers = [⟨0, 1, 5, 10⟩] ∧ (drain.perform invoked.2).1 = .ok 1 :=
  ⟨selfReleasing_reachable, by cbv, by cbv, by cbv, by cbv⟩

end GuestBridge

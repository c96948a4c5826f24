import GuestBridge.Proofs.Finalizers.Leftover
import GuestBridge.Proofs.Intrinsics.Reporting
/-!
A call into the guest may fail, and so may a destructor that is drained after it. A call of an
export reports its own failure before that of a destructor. An invocation of a closure does it the
other way round. The queue is drained whatever the call has come to, once there is a guest to call.
-/

set_option autoImplicit false

namespace GuestBridge

open BridgeAction

variable {σ α : Type}

/-- What the host is told of a call, and of the drain after it, if the call comes first. -/
structure CallFirst (called ended : Except Fault α × Bridge σ) : Prop where
  drained : ended.2 = (drain.perform called.2).2
  own : ∀ fault, called.1 = .error fault → ended.1 = .error fault
  destructor : ∀ a fault, called.1 = .ok a → (drain.perform called.2).1 = .error fault →
    ended.1 = .error fault
  completed : ∀ a n, called.1 = .ok a → (drain.perform called.2).1 = .ok n → ended.1 = .ok a

/-- The same if the drain comes first. A result that nobody gets is let go of, and then the function
that was called. -/
structure DrainFirst (i : Nat) (called ended : Except Fault Value × Bridge σ) : Prop where
  drained : ∃ swept, ended.2 = ((letGo (.function i)).perform swept).2 ∧
    (swept = (drain.perform called.2).2 ∨
      ∃ v, called.1 = .ok v ∧ swept = ((letGo v).perform (drain.perform called.2).2).2)
  destructor : ∀ fault, (drain.perform called.2).1 = .error fault → ended.1 = .error fault
  own : ∀ n, (drain.perform called.2).1 = .ok n → ended.1 = called.1

theorem callFirst_settled (act : BridgeAction σ α) (b : Bridge σ) :
    CallFirst (act.perform b) ((Action.attempt act >>= settleCall).perform b) := by
  have ended : (Action.attempt act >>= settleCall).perform b =
      (settleCall (act.perform b).1).perform (act.perform b).2 := rfl
  rw [ended, perform_settleCall]
  rcases act.perform b with ⟨outcome, after⟩
  constructor
  case drained => rfl
  case own =>
    rintro fault rfl
    rfl
  case destructor =>
    rintro a fault rfl failed
    simp only [failed]
    rfl
  case completed =>
    rintro a n rfl swept
    simp only [swept]
    rfl

section

variable {b : Bridge σ} {name : String} {f : GuestFunction σ}

theorem callFirst_callTyped (found : (exportedFunction name).perform b = (.ok f, b))
    (args : List Core) : CallFirst ((callGuest f args).perform b)
      ((callTyped name f.type args).perform b) :=
  callTyped_found found args ▸ callFirst_settled _ b

theorem callFirst_callDynamic (found : (exportedFunction name).perform b = (.ok f, b))
    (args : List Core) : CallFirst ((callChecked f args).perform b)
      ((callDynamic name args).perform b) :=
  callDynamic_found found args ▸ callFirst_settled _ b

theorem drainFirst_invoke {handle : UInt32} {i : Nat} (callee : b.handles.get handle = .function i)
    (guest : b.bound.isSome = true) (argument : Value) :
    DrainFirst i ((invokeClosure callGuest i argument).perform ((hold (.function i)).perform b).2)
      ((invoke handle argument).perform b) := by
  rw [perform_invoke callee guest argument]
  rcases (invokeClosure callGuest i argument).perform ((hold (.function i)).perform b).2 with
    ⟨outcome, returned⟩
  constructor
  case drained =>
    dsimp only
    rcases drain.perform returned with ⟨fault | n, swept⟩
    · rcases outcome with fault' | v
      · exact ⟨swept, rfl, .inl rfl⟩
      · exact ⟨_, rfl, .inr ⟨v, rfl, rfl⟩⟩
    · exact ⟨swept, rfl, .inl rfl⟩
  case destructor =>
    intro fault failed
    dsimp only at failed ⊢
    rw [failed]
    rcases outcome with fault' | v <;> rfl
  case own =>
    intro n swept
    dsimp only at swept ⊢
    rw [swept]

end

/-- Which of two failures the host is told of: that of the call, when it has called an export, and
that of a destructor, when it has invoked a closure. The queue is drained in either case, after any
call that has begun. -/
theorem failures_by_precedence :
    (∀ (b : Bridge σ) name f args, (exportedFunction name).perform b = (.ok f, b) →
      CallFirst ((callGuest f args).perform b) ((callTyped name f.type args).perform b) ∧
      CallFirst ((callChecked f args).perform b) ((callDynamic name args).perform b) ∧
      ∀ type, type ≠ f.type → (callTyped name type args).perform b = (.error .declined, b)) ∧
    (∀ (b : Bridge σ) name fault, ((exportedFunction name).perform b).1 = .error fault →
      (∀ type args, (callTyped name type args).perform b = (.error fault, b)) ∧
      ∀ args, (callDynamic name args).perform b = (.error fault, b)) ∧
    ∀ (b : Bridge σ) handle i argument, b.handles.get handle = .function i →
      b.bound.isSome = true →
      DrainFirst i ((invokeClosure callGuest i argument).perform ((hold (.function i)).perform b).2)
        ((invoke handle argument).perform b) :=
  ⟨fun _ _ _ args found => ⟨callFirst_callTyped found args, callFirst_callDynamic found args,
      fun _ other => callTyped_declined found args other⟩,
    fun _ _ _ missing => ⟨callTyped_unbegun missing, callDynamic_unbegun missing⟩,
    fun _ _ _ argument callee guest => drainFirst_invoke callee guest argument⟩

/-- A guest that has made two closures, of which the first traps and the second has no destructor in
the table. The host has released the second. -/
def Relay.quarrelsome : Bridge Unit :=
  let entry : GuestFunction Unit := ⟨closureType, fun _ => .trap .unreachable⟩
  let guest := Relay.tabled [.closureNew] [some entry]
  let made := (((Bridge.create {} .empty ()).after (.start (.module guest))).after
    (.callDynamic "closure_new" [.word 0, .word 1, .word 1, .word 0])).after
    (.callDynamic "closure_new" [.word 0, .word 3, .word 2, .word 0])
  ((release 5).perform made).2

theorem Relay.quarrelsome_reachable : Relay.quarrelsome.Reachable .empty :=
  .aside (aside_release 5 _).toAlike (.asked _ (.asked _ (.asked _ (.created {} ()))))

/-- A call without arguments is declined. That is what the host is told, although a destructor fails
in the drain after it; of an invocation that traps it is told the failure of the destructor. -/
theorem failures_by_precedence_quarrelsome :
    let b := Relay.quarrelsome
    let called := (invokeClosure callGuest 0 .undefined).perform ((hold (.function 0)).perform b).2
    (∃ f, (exportedFunction "closure_new").perform b = (.ok f, b) ∧
      CallFirst ((callGuest f []).perform b) ((callTyped "closure_new" f.type []).perform b) ∧
      CallFirst ((callChecked f []).perform b) ((callDynamic "closure_new" []).perform b)) ∧
      ((callDynamic "closure_new" []).perform b).1 = .error .declined ∧
      (drain.perform b).1 = .error (.badTableEntry 3) ∧
      b.handles.get 4 = .function 0 ∧ b.bound.isSome = true ∧
      DrainFirst 0 called ((invoke 4 .undefined).perform b) ∧
      called.1 = .error (.trap .unreachable) := by
  obtain ⟨f, found⟩ : ∃ f, (exportedFunction "closure_new").perform Relay.quarrelsome =
      (.ok f, Relay.quarrelsome) := exportedFunction_found (by cbv)
  have callee : Relay.quarrelsome.handles.get 4 = .function 0 := by cbv
  have guest : Relay.quarrelsome.bound.isSome = true := by cbv
  obtain ⟨calls, -, invokes⟩ := failures_by_precedence (σ := Unit)
  obtain ⟨typed, dynamic, -⟩ := calls Relay.quarrelsome "closure_new" f [] found
  exact ⟨⟨f, found, typed, dynamic⟩, by cbv, by cbv, callee, guest,
    invokes Relay.quarrelsome 4 0 .undefined callee guest, by cbv⟩

/-- The first one is invoked: its trap is the failure of the call, and what the host is told of is
the destructor that is missing. -/
theorem invocation_reports_destructor :
    let b := Relay.quarrelsome
    let invoked := (invoke 4 .undefined).perform b
    let called := (invokeClosure callGuest 0 .undefined).perform b
    b.Reachable .empty ∧ b.handles.get 4 = .function 0 ∧ called.1 = .error (.trap .unreachable) ∧
      invoked.1 = .error (.badTableEntry 3) :=
  ⟨Relay.quarrelsome_reachable, by cbv, by cbv, by cbv⟩

end GuestBridge

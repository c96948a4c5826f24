import GuestBridge.Proofs.Guests.Passage
import GuestBridge.Proofs.Thunks.Signature
/-!
Where failures go. Arguments that cannot be converted end up as an error in the guest's exception
slot, whatever the capability. A failure of the host function, or a result that does not fit, goes
there if the capability is fallible and ends the guest's call if not. Either way it is reported once
and as it is.
-/

set_option autoImplicit false

namespace GuestBridge

variable {σ : Type}

open GuestBridge.Action (Along)

namespace Bridge

/-- Conversion of arguments leaves its traces in the views, in the codec and in the identities that
were used up. The rest of the bridge is as it was. -/
def Converted (b b' : Bridge σ) : Prop :=
  ∃ views codec identity, b' = { b with
    views := views
    codec := codec
    host := { b.host with realm := { b.host.realm with nextIdentity := identity } } }

instance : Std.Refl (Converted (σ := σ)) :=
  ⟨fun b => ⟨b.views, b.codec, b.host.realm.nextIdentity, rfl⟩⟩

instance : IsTrans (Bridge σ) Converted where
  trans := by
    rintro _ _ _ ⟨_, _, _, rfl⟩ ⟨views, codec, identity, rfl⟩
    exact ⟨views, codec, identity, rfl⟩

theorem Converted.wired {b b' : Bridge σ} (converted : b.Converted b') :
    b'.handles = b.handles ∧ b'.bound = b.bound ∧ b'.machine = b.machine := by
  obtain ⟨_, _, _, rfl⟩ := converted
  exact ⟨rfl, rfl, rfl⟩

/-- The handle of a new error for a failure, and the bridge that has given it out. -/
def raising (b : Bridge σ) (failure : Failure) : UInt32 × Bridge σ :=
  let (error, realm) := b.host.realm.newError failure
  let (handle, handles) := b.handles.alloc error
  (handle, { b with host := { b.host with realm := realm }, handles := handles })

/-- Two words of zero stand at the pointer, and nothing else has changed but views. -/
def ZeroPair (pointer : UInt32) (b b' : Bridge σ) : Prop :=
  ∃ views memory, b' = { b with
    views := views
    machine := { b.machine with memory := memory } } ∧
      memory.readWord pointer = .ok 0 ∧ memory.readWord (pointer + 4) = .ok 0

end Bridge

/-- What a guest gets for a result when the failure is in its exception slot: nothing or a zero. The
zero of a handle is `undefined`. -/
def ResultKind.sentinel : ResultKind → List Core
  | .unit | .text => []
  | .i32 | .bool | .choice _ | .handle | .optionalHandle => [.word 0]
  | .f64 => [.double .zero]

namespace BridgeAction

/-- Yields the sentinel. That of a text is a pair of zeros behind the return pointer. -/
def leave (kind : ResultKind) (returnPointer : UInt32) : BridgeAction σ (List Core) := do
  if kind.usesReturnPointer then writePair returnPointer 0 0
  return kind.sentinel

/-- What the host function of a capability comes to on converted arguments, once its result is
checked. -/
inductive HostEnds (c : Capability) (values : List Value) (b : Bridge σ) :
    Except Failure Lowered → Bridge σ → Prop
  | failed {failure : Failure} {host : Host}
      (ended : (c.call values).run.run b.host = (.error failure, host)) :
      HostEnds c values b (.error failure) { b with host := host }
  | unfit {v : Value} {failure : Failure} {host : Host}
      (ended : (c.call values).run.run b.host = (.ok v, host))
      (misfit : Lowered.check c.result v = .error failure) :
      HostEnds c values b (.error failure) { b with
        host := { host with realm := host.realm.letGo v } }
  | fit {v : Value} {lowered : Lowered} {host : Host}
      (ended : (c.call values).run.run b.host = (.ok v, host))
      (fits : Lowered.check c.result v = .ok lowered) :
      HostEnds c values b (.ok lowered) { b with
        host := { host with
          realm := if lowered.keepsValue then host.realm else host.realm.letGo v } }

/-- A thunk stores a failure. It gives out one handle, to an error that carries the failure, calls
the exception slot once, with that handle, and ends with the sentinel if the guest returns. -/
structure Stores (exports : BoundExports σ) (kind : ResultKind) (returnPointer : UInt32)
    (failure : Failure) (b : Bridge σ)
    (thunk : GuestCaller σ → Except Fault (List Core) × Bridge σ) : Prop where
  once : ∀ call, thunk call = (do
    callUnit call exports.exnStore [(b.raising failure).1]
    leave kind returnPointer : BridgeAction σ (List Core)).perform (b.raising failure).2
  returned : ∀ depth results after,
    (callWithin depth exports.exnStore [.word (b.raising failure).1]).perform
      (b.raising failure).2 = (.ok results, after) →
    ∃ left, thunk (callWithin depth) = (.ok kind.sentinel, left) ∧
      if kind.usesReturnPointer then after.ZeroPair returnPointer left else left = after

/-- The exception slot is called with the handle of a new error for the failure, and what follows is
the sentinel. -/
def Raises (exports : BoundExports σ) (kind : ResultKind) (returnPointer : UInt32)
    (failure : Failure) (b : Bridge σ)
    (thunk : GuestCaller σ → Except Fault (List Core) × Bridge σ) : Prop :=
  ∀ call, thunk call = (do
    callUnit call exports.exnStore [(b.raising failure).1]
    leave kind returnPointer : BridgeAction σ (List Core)).perform (b.raising failure).2

/-- The ways that a thunk may go, by the conversion of its arguments and the end of its host
function. One of them it always goes. -/
structure Routes (c : Capability) (exports : BoundExports σ) (returnPointer : UInt32)
    (pieces : List (List Core)) (b : Bridge σ)
    (thunk : GuestCaller σ → Except Fault (List Core) × Bridge σ) : Prop where
  /-- The host function is not called. -/
  unconverted : ∀ fault b₁, (convertAll c.params pieces).perform b = (.error fault, b₁) →
    b.Converted b₁ ∧ Stores exports c.result returnPointer fault.asFailure b₁ thunk
  converted : ∀ values b₁, (convertAll c.params pieces).perform b = (.ok values, b₁) →
    ∃ outcome b₂, HostEnds c values b₁ outcome b₂
  fallible : c.fallible = true → ∀ values b₁ failure b₂,
    (convertAll c.params pieces).perform b = (.ok values, b₁) →
    HostEnds c values b₁ (.error failure) b₂ →
    b₂.handles = b.handles ∧ Stores exports c.result returnPointer failure b₂ thunk
  infallible : c.fallible = false → ∀ values b₁ failure b₂,
    (convertAll c.params pieces).perform b = (.ok values, b₁) →
    HostEnds c values b₁ (.error failure) b₂ →
    b₂.handles = b.handles ∧ ∀ call, thunk call = (.error (.host failure), b₂)
  /-- The guest is called for memory and for nothing else. -/
  successful : ∀ values b₁ lowered b₂,
    (convertAll c.params pieces).perform b = (.ok values, b₁) →
    HostEnds c values b₁ (.ok lowered) b₂ →
    (∀ call, thunk call = (lower call returnPointer lowered).perform b₂) ∧
      ∀ call other : GuestCaller σ, call exports.malloc = other exports.malloc →
        (∀ realloc, exports.realloc? = some realloc → call realloc = other realloc) →
        thunk call = thunk other

/-! What conversion changes. -/

theorem converted_bound : Along Bridge.Converted (bound (σ := σ)) := by
  refine .bind .get fun b => ?_
  split
  · exact .pure _
  · exact .throw _

theorem converted_view (kind : ViewKind) : Along Bridge.Converted (view (σ := σ) kind) :=
  .bind converted_bound fun _ => .get_bind fun b =>
    ⟨b.views.lookup kind b.machine.memory, b.codec, b.host.realm.nextIdentity, rfl⟩

theorem converted_readText (offset length : UInt32) :
    Along Bridge.Converted (readText (σ := σ) offset length) :=
  .bind (converted_view _) fun m => .get_bind fun b =>
    ⟨b.views, (b.codec.read m offset length).2, b.host.realm.nextIdentity, rfl⟩

theorem converted_freshIdentity :
    Along Bridge.Converted (inRealm (σ := σ) (·.freshIdentity)) :=
  .get_bind fun b => ⟨b.views, b.codec, b.host.realm.nextIdentity + 1, rfl⟩

theorem converted_convert (kind : ParamKind) (piece : List Core) :
    Along Bridge.Converted (convert (σ := σ) kind piece) := by
  unfold convert
  split
  iterate 3 exact .pure _
  · exact .bind .get fun _ => .conclude _
  · split
    · exact .pure _
    · exact .throw _
  · exact .bind (converted_readText _ _) fun _ => .pure _
  iterate 2
    exact .bind (.bind (converted_view _) fun _ => .conclude _) fun _ =>
      .bind converted_freshIdentity fun _ => .pure _
  · exact .throw _

theorem converted_convertAll (kinds : List ParamKind) (pieces : List (List Core)) :
    Along Bridge.Converted (convertAll (σ := σ) kinds pieces) :=
  .mapM (fun (kind, piece) => converted_convert kind piece) _

/-! Storing a failure. -/

section Storing

variable {exports : BoundExports σ} {b : Bridge σ}

theorem perform_raise (present : b.bound = some exports) (call : GuestCaller σ)
    (failure : Failure) : (raise call failure).perform b =
      (callUnit call exports.exnStore [(b.raising failure).1]).perform (b.raising failure).2 := by
  have held : (b.raising failure).2.bound = some exports := present
  change (bound >>= fun exports => callUnit call exports.exnStore [(b.raising failure).1]).perform
    (b.raising failure).2 = _
  rw [Action.perform_bind_ok _ _ (perform_bound_some held)]

theorem perform_lower_sentinel (call : GuestCaller σ) (kind : ResultKind) (returnPointer : UInt32)
    (b : Bridge σ) :
    (lower call returnPointer (.sentinel kind)).perform b =
      (leave kind returnPointer).perform b := by
  cases kind <;> rfl

theorem perform_writePair {pointer first second : UInt32} {m₁ m₂ : Memory}
    (present : b.bound = some exports)
    (one : b.machine.memory.writeWord pointer first = .ok m₁)
    (two : m₁.writeWord (pointer + 4) second = .ok m₂) :
    (writePair pointer first second).perform b = (.ok (), { b with
      views := b.views.lookup .words b.machine.memory
      machine := { b.machine with memory := m₂ } }) := by
  unfold writePair
  rw [Action.perform_bind_ok _ _ (perform_view present .words), Action.perform_bind,
    Action.perform_conclude, one]
  dsimp only
  rw [Action.perform_bind, perform_setMemory]
  dsimp only
  rw [Action.perform_bind, Action.perform_conclude, two]
  rfl

theorem leave_returns {kind : ResultKind} {returnPointer : UInt32}
    (present : b.bound = some exports)
    (writable : kind.usesReturnPointer = true → b.machine.memory.TakesPair returnPointer) :
    ∃ left, (leave kind returnPointer).perform b = (.ok kind.sentinel, left) ∧
      if kind.usesReturnPointer then b.ZeroPair returnPointer left else left = b := by
  unfold leave
  cases uses : kind.usesReturnPointer with
  | false => exact ⟨b, rfl, rfl⟩
  | true =>
    obtain ⟨m₁, m₂, one, two, first, second⟩ := (writable uses).exists_written 0 0
    refine ⟨_, ?_, b.views.lookup .words b.machine.memory, m₂, rfl, first, second⟩
    rw [if_pos rfl, Action.perform_bind_ok _ _ (perform_writePair present one two)]
    rfl

theorem raises {kind : ResultKind} {returnPointer : UInt32} {failure : Failure}
    (present : b.bound = some exports)
    {thunk : GuestCaller σ → Except Fault (List Core) × Bridge σ}
    (same : ∀ call, thunk call = (do
      raise call failure
      lower call returnPointer (.sentinel kind) : BridgeAction σ (List Core)).perform b) :
    Raises exports kind returnPointer failure b thunk := by
  intro call
  rw [same, Action.perform_bind, perform_raise present, Action.perform_bind]
  rcases (callUnit call exports.exnStore _).perform _ with ⟨_ | _, after⟩
  · rfl
  · exact perform_lower_sentinel call kind returnPointer after

theorem Raises.stores {kind : ResultKind} {returnPointer : UInt32} {failure : Failure}
    {thunk : GuestCaller σ → Except Fault (List Core) × Bridge σ}
    (raised : Raises exports kind returnPointer failure b thunk)
    (present : b.bound = some exports)
    (writable : kind.usesReturnPointer = true → b.machine.memory.TakesPair returnPointer) :
    Stores exports kind returnPointer failure b thunk := by
  refine ⟨raised, fun depth results after stored => ?_⟩
  -- The guest may call back while it stores the error, but stays bound, and its memory stays large.
  have passage : Passage (b.raising failure).2 after :=
    (leads_callWithin depth exports.exnStore _).ended stored
  obtain ⟨-, -, bound, -⟩ := passage.wired
  have called : (callUnit (callWithin depth) exports.exnStore [(b.raising failure).1]).perform
      (b.raising failure).2 = (.ok (), after) := by
    unfold callUnit
    rw [List.map_cons, List.map_nil, Action.perform_bind_ok _ _ stored]
    rfl
  rw [raised, Action.perform_bind_ok _ _ called]
  exact leave_returns (bound.trans present) fun uses => (writable uses).mono passage.pages_le

theorem stores {kind : ResultKind} {returnPointer : UInt32} {failure : Failure}
    (present : b.bound = some exports)
    (writable : kind.usesReturnPointer = true → b.machine.memory.TakesPair returnPointer)
    {thunk : GuestCaller σ → Except Fault (List Core) × Bridge σ}
    (same : ∀ call, thunk call = (do
      raise call failure
      lower call returnPointer (.sentinel kind) : BridgeAction σ (List Core)).perform b) :
    Stores exports kind returnPointer failure b thunk :=
  (raises present same).stores present writable

end Storing

/-! Beyond conversion. -/

/-- Once conversion has ended, one way or the other, the thunk goes on from there. -/
theorem dispatch_converted {c : Capability} {returnPointer : UInt32} {pieces : List (List Core)}
    (shared : Shared c.params pieces)
    (unused : c.result.usesReturnPointer = false → returnPointer = 0) {index : Nat}
    {b b' : Bridge σ} (linked : b.capabilities[index]? = some c) {exports : BoundExports σ}
    (present : b.bound = some exports) {outcome : Except Fault (List Value)}
    (converted : (convertAll c.params pieces).perform b = (outcome, b')) (call : GuestCaller σ) :
    (dispatch call index (c.leading returnPointer ++ pieces.flatten)).perform b =
      (respond call c returnPointer outcome).perform b' := by
  rw [dispatch_split shared unused call linked,
    Action.perform_bind_ok _ _ (perform_bound_some present), Action.perform_bind,
    Action.perform_attempt, converted]

theorem perform_callHost (c : Capability) (values : List Value) (b : Bridge σ) :
    (callHost c values).perform b = (.ok ((c.call values).run.run b.host).1,
      { b with host := ((c.call values).run.run b.host).2 }) := rfl

theorem HostEnds.checked {c : Capability} {values : List Value} {b b' : Bridge σ}
    {outcome : Except Failure Lowered} (ends : HostEnds c values b outcome b') :
    (checkResult c.result ((c.call values).run.run b.host).1).perform
      { b with host := ((c.call values).run.run b.host).2 } = (.ok outcome, b') := by
  cases ends with
  | failed ended =>
    rw [ended]
    rfl
  | unfit ended misfit =>
    rw [ended]
    dsimp only
    rw [perform_checkResult, misfit]
    rfl
  | @fit v lowered host ended fits =>
    rw [ended]
    dsimp only
    rw [perform_checkResult, fits]
    cases kept : lowered.keepsValue <;> simp [Except.toOption, kept]

/-- What the thunk makes of the end of the host function. -/
theorem respond_ended {c : Capability} {values : List Value} {b b' : Bridge σ}
    {outcome : Except Failure Lowered} (ends : HostEnds c values b outcome b')
    (call : GuestCaller σ) (returnPointer : UInt32) :
    (respond call c returnPointer (.ok values)).perform b =
      (match outcome with
      | .ok lowered => lower call returnPointer lowered
      | .error failure =>
        if c.fallible then do
          raise call failure
          lower call returnPointer (.sentinel c.result)
        else throw (.host failure) : BridgeAction σ (List Core)).perform b' := by
  unfold respond
  rw [Action.perform_bind_ok _ _ (perform_callHost c values b),
    Action.perform_bind_ok _ _ ends.checked]
  rcases outcome with failure | lowered <;> rfl

theorem HostEnds.total (c : Capability) (values : List Value) (b : Bridge σ) :
    ∃ outcome b', HostEnds c values b outcome b' := by
  rcases ended : (c.call values).run.run b.host with ⟨failure | v, host⟩
  · exact ⟨_, _, .failed ended⟩
  · rcases checked : Lowered.check c.result v with failure | lowered
    · exact ⟨_, _, .unfit ended checked⟩
    · exact ⟨_, _, .fit ended checked⟩

theorem HostEnds.wired {c : Capability} {values : List Value} {b b' : Bridge σ}
    {outcome : Except Failure Lowered} (ends : HostEnds c values b outcome b') :
    b'.handles = b.handles ∧ b'.bound = b.bound ∧ b'.machine = b.machine := by
  cases ends <;> exact ⟨rfl, rfl, rfl⟩

/-- Passing text on depends on no function of the guest but its allocator. -/
theorem lower_congr {exports : BoundExports σ} {b : Bridge σ} (present : b.bound = some exports)
    {call other : GuestCaller σ} (malloc : call exports.malloc = other exports.malloc)
    (realloc : ∀ realloc, exports.realloc? = some realloc → call realloc = other realloc)
    (returnPointer : UInt32) (lowered : Lowered) :
    (lower call returnPointer lowered).perform b =
      (lower other returnPointer lowered).perform b := by
  have same : allocator call exports = allocator other exports := by
    unfold allocator callWord
    rw [malloc]
    rcases moves : exports.realloc? with _ | move
    · rfl
    · rw [Option.map_some, Option.map_some, realloc move moves]
  have held := perform_bound_some present
  rcases lowered with _ | _ | _ | _ | (_ | s)
  case text.some =>
    have text : (passText call s).perform b = (passText other s).perform b := by
      unfold passText
      rw [Action.perform_bind_ok _ _ held, Action.perform_bind_ok _ _ held, same]
    unfold lower
    rw [Action.perform_bind, Action.perform_bind, text]
  all_goals rfl

/-- However its arguments, its host function and its result turn out, a thunk routes the failure. A
return pointer must be one that takes the pair. -/
theorem thunk_routes_failures {c : Capability} {exports : BoundExports σ} {b : Bridge σ}
    {index : Nat} {args : List Core} (linked : b.capabilities[index]? = some c)
    (present : b.bound = some exports) (typed : args.map Core.type = c.signature.params)
    (writable : ∀ pointer rest, c.result.usesReturnPointer = true → args = .word pointer :: rest →
      b.machine.memory.TakesPair pointer) :
    ∃ returnPointer pieces, args = c.leading returnPointer ++ pieces.flatten ∧
      Shared c.params pieces ∧
      Routes c exports returnPointer pieces b fun call => (dispatch call index args).perform b := by
  obtain ⟨returnPointer, pieces, rfl, shared, unused⟩ := c.exists_split typed
  refine ⟨returnPointer, pieces, rfl, shared, ?_⟩
  have takes (uses : c.result.usesReturnPointer = true) :
      b.machine.memory.TakesPair returnPointer := by
    refine writable returnPointer pieces.flatten uses ?_
    rw [Capability.leading, if_pos uses]
    rfl
  have responds {outcome : Except Fault (List Value)} {b₁ : Bridge σ}
      (converted : (convertAll c.params pieces).perform b = (outcome, b₁)) :=
    dispatch_converted shared unused linked present converted
  have changes {outcome : Except Fault (List Value)} {b₁ : Bridge σ}
      (converted : (convertAll c.params pieces).perform b = (outcome, b₁)) : b.Converted b₁ :=
    (converted_convertAll c.params pieces).ended converted
  have ends {values : List Value} {b₁ b₂ : Bridge σ} {outcome : Except Failure Lowered}
      (converted : (convertAll c.params pieces).perform b = (.ok values, b₁))
      (ended : HostEnds c values b₁ outcome b₂) :
      b₂.handles = b.handles ∧ b₂.bound = some exports ∧ b₂.machine = b.machine := by
    obtain ⟨handles, bound, machine⟩ := (changes converted).wired
    obtain ⟨handles', bound', machine'⟩ := ended.wired
    exact ⟨handles'.trans handles, (bound'.trans bound).trans present, machine'.trans machine⟩
  constructor
  case unconverted =>
    intro fault b₁ converted
    obtain ⟨-, bound, machine⟩ := (changes converted).wired
    refine ⟨changes converted, stores (bound.trans present) (machine ▸ takes) fun call => ?_⟩
    rw [responds converted]
    rfl
  case converted => exact fun values b₁ _ => HostEnds.total c values b₁
  case fallible =>
    intro fallible values b₁ failure b₂ converted ended
    obtain ⟨handles, bound, machine⟩ := ends converted ended
    refine ⟨handles, stores bound (machine ▸ takes) fun call => ?_⟩
    rw [responds converted, respond_ended ended]
    dsimp only
    rw [if_pos fallible]
  case infallible =>
    intro infallible values b₁ failure b₂ converted ended
    refine ⟨(ends converted ended).1, fun call => ?_⟩
    rw [responds converted, respond_ended ended]
    dsimp only
    rw [infallible, if_neg Bool.false_ne_true]
    rfl
  case successful =>
    intro values b₁ lowered b₂ converted ended
    have lowers (call : GuestCaller σ) :
        (dispatch call index (c.leading returnPointer ++ pieces.flatten)).perform b =
          (lower call returnPointer lowered).perform b₂ := by
      rw [responds converted, respond_ended ended]
    refine ⟨lowers, fun call other malloc realloc => ?_⟩
    rw [lowers, lowers]
    exact lower_congr (ends converted ended).2.1 malloc realloc returnPointer lowered

/-- A text result, and for the only argument a handle that a strict table does not have. -/
theorem thunk_routes_failures_strict :
    let silent : GuestFunction Unit := ⟨⟨[.i32], []⟩, fun _ => .yield []⟩
    let exports : BoundExports Unit := ⟨silent, none, none, silent, none, none⟩
    let c : Capability := .idle "describe" [.handle] .text false
    let b : Bridge Unit := { Bridge.create { strictHandles := true } .empty () with
      capabilities := [c]
      machine := ⟨.zeroed 0 Memory.pageSize, 1, (), []⟩
      bound := some exports }
    let args : List Core := [.word 16, .word 9]
    b.capabilities[0]? = some c ∧ b.bound = some exports ∧
      args.map Core.type = c.signature.params ∧
      (∀ pointer rest, c.result.usesReturnPointer = true → args = .word pointer :: rest →
        b.machine.memory.TakesPair pointer) ∧
      ∃ returnPointer pieces, args = c.leading returnPointer ++ pieces.flatten ∧
        Shared c.params pieces ∧
        Routes c exports returnPointer pieces b fun call => (dispatch call 0 args).perform b := by
  intro silent exports c b args
  have writable (pointer : UInt32) (rest : List Core) (_ : c.result.usesReturnPointer = true)
      (same : args = .word pointer :: rest) : b.machine.memory.TakesPair pointer := by
    have pointed : 16 = pointer := Core.word.inj (List.cons.inj same).1
    subst pointed
    exact ⟨by decide, by decide, by decide⟩
  exact ⟨rfl, rfl, rfl, writable, thunk_routes_failures rfl rfl rfl writable⟩

end BridgeAction

end GuestBridge

import GuestBridge.Bridge.Run
import GuestBridge.Proofs.Guests.Access
import GuestBridge.Proofs.Memory
import GuestBridge.Proofs.Timers.Agenda
/-!
What running guest code comes to, as far as the event loop is concerned. A guest gets at the timers
only through the host functions that are linked for it, at whatever depth it calls them; all else
that happens on the way leaves the timers, the clock, the facilities of the host and what the guest
is wired to as they are, and queues microtasks at most. Memory never shrinks on the way.
-/

set_option autoImplicit false

namespace GuestBridge

variable {σ : Type}

namespace Bridge

/-- The same clock and timers, and a guest wired to the same things. -/
structure Alike (b b' : Bridge σ) : Prop where
  agenda : b'.host.realm.events.agenda = b.host.realm.events.agenda
  registry : b'.registry = b.registry
  capabilities : b'.capabilities = b.capabilities
  bound : b'.bound = b.bound
  active : b'.active = b.active

instance : Std.Refl (Alike (σ := σ)) := ⟨fun _ => ⟨rfl, rfl, rfl, rfl, rfl⟩⟩

instance : IsTrans (Bridge σ) Alike where
  trans _ _ _ first second :=
    ⟨second.agenda.trans first.agenda, second.registry.trans first.registry,
      second.capabilities.trans first.capabilities, second.bound.trans first.bound,
      second.active.trans first.active⟩

/-- The same, and the facilities of the host are as they were: no host function has been at work. -/
structure Unvisited (b b' : Bridge σ) : Prop extends Alike b b' where
  facilities : b'.host.extensions = b.host.extensions

instance : Std.Refl (Unvisited (σ := σ)) := ⟨fun b => ⟨Std.Refl.refl b, rfl⟩⟩

instance : IsTrans (Bridge σ) Unvisited where
  trans _ _ _ first second :=
    ⟨IsTrans.trans _ _ _ first.toAlike second.toAlike, second.facilities.trans first.facilities⟩

/-- The same, within the same limits, and no pages of memory less than before; microtasks join the
queue at most. -/
structure Aside (b b' : Bridge σ) : Prop extends Unvisited b b' where
  limits : b'.limits = b.limits
  pages : b.machine.memory.pages ≤ b'.machine.memory.pages
  tasks : b.host.realm.events.microtasks <+: b'.host.realm.events.microtasks

instance : Std.Refl (Aside (σ := σ)) :=
  ⟨fun b => ⟨Std.Refl.refl b, rfl, Nat.le_refl _, List.prefix_rfl⟩⟩

instance : IsTrans (Bridge σ) Aside where
  trans _ _ _ first second := ⟨IsTrans.trans _ _ _ first.toUnvisited second.toUnvisited,
    second.limits.trans first.limits, Nat.le_trans first.pages second.pages,
    first.tasks.trans second.tasks⟩

theorem Aside.of_queues {b b' : Bridge σ}
    (queues : b.host.realm.events.Queues b'.host.realm.events)
    (wired : b'.registry = b.registry ∧ b'.capabilities = b.capabilities ∧ b'.bound = b.bound ∧
      b'.active = b.active ∧ b'.limits = b.limits ∧ b'.host.extensions = b.host.extensions)
    (size : b'.machine.memory.size = b.machine.memory.size) : b.Aside b' := by
  obtain ⟨registry, capabilities, bound, active, limits, facilities⟩ := wired
  refine ⟨⟨⟨queues.agenda, registry, capabilities, bound, active⟩, facilities⟩, limits, ?_,
    queues.tasks⟩
  unfold Memory.pages
  rw [size]

/-- The bridge after a call of a host function. -/
def visited (b : Bridge σ) (c : Capability) (args : List Value) : Bridge σ :=
  { b with host := ((c.call args).run.run b.host).2 }

end Bridge

/-- Host functions are called one after the other, each of them linked to a bound guest, and nothing
else happens that concerns the timers or the facilities of the host. -/
inductive Passage : Bridge σ → Bridge σ → Prop
  | aside {b b' : Bridge σ} (alike : b.Aside b') : Passage b b'
  | visit {b b₁ b' : Bridge σ} {c : Capability} {args : List Value} (alike : b.Aside b₁)
      (linked : c ∈ b₁.capabilities) (bound : b₁.bound.isSome = true)
      (onward : Passage (b₁.visited c args) b') : Passage b b'

namespace Passage

variable {b b' b'' : Bridge σ}

theorem after_aside (alike : b.Aside b') (passage : Passage b' b'') : Passage b b'' := by
  cases passage with
  | aside last => exact .aside (IsTrans.trans _ _ _ alike last)
  | visit first linked bound onward =>
    exact .visit (IsTrans.trans _ _ _ alike first) linked bound onward

theorem append (first : Passage b b') (second : Passage b' b'') : Passage b b'' := by
  induction first with
  | aside alike => exact second.after_aside alike
  | visit alike linked bound _ ih => exact .visit alike linked bound (ih second)

instance : Std.Refl (Passage (σ := σ)) := ⟨fun b => .aside (Std.Refl.refl b)⟩

instance : IsTrans (Bridge σ) Passage := ⟨fun _ _ _ => append⟩

/-- What the guest is wired to stays. -/
theorem wired (passage : Passage b b') : b'.registry = b.registry ∧
    b'.capabilities = b.capabilities ∧ b'.bound = b.bound ∧ b'.active = b.active := by
  induction passage with
  | aside alike => exact ⟨alike.registry, alike.capabilities, alike.bound, alike.active⟩
  | visit alike _ _ _ ih =>
    exact ⟨ih.1.trans alike.registry, ih.2.1.trans alike.capabilities,
      ih.2.2.1.trans alike.bound, ih.2.2.2.trans alike.active⟩

theorem limits (passage : Passage b b') : b'.limits = b.limits := by
  induction passage with
  | aside alike => exact alike.limits
  | visit alike _ _ _ ih => exact ih.trans alike.limits

/-- Host functions do not get at the memory of a guest. -/
theorem pages_le (passage : Passage b b') :
    b.machine.memory.pages ≤ b'.machine.memory.pages := by
  induction passage with
  | aside alike => exact alike.pages
  | visit alike _ _ _ ih => exact Nat.le_trans alike.pages ih

end Passage

open GuestBridge.Action (Along)

theorem Action.Along.leads {α : Type} {act : BridgeAction σ α} (along : Along Bridge.Aside act) :
    Along Passage act :=
  along.mono fun _ _ => .aside

/-- Where a passage leads from states with a bound guest that the host function is linked for. -/
def PassageFor (c : Capability) (b b' : Bridge σ) : Prop :=
  c ∈ b.capabilities → b.bound.isSome = true → Passage b b'

instance (c : Capability) : Std.Refl (PassageFor (σ := σ) c) := ⟨fun b _ _ => Std.Refl.refl b⟩

instance (c : Capability) : IsTrans (Bridge σ) (PassageFor c) where
  trans _ _ _ first second linked bound := by
    have passage := first linked bound
    obtain ⟨-, capabilities, present, -⟩ := passage.wired
    exact passage.append (second (capabilities ▸ linked) (present ▸ bound))

theorem Action.Along.linked {α : Type} {act : BridgeAction σ α} {c : Capability}
    (along : Along Passage act) : Along (PassageFor c) act :=
  along.mono fun _ _ passage _ _ => passage

section Generic

variable {τ : Type} {R : τ → τ → Prop} [Std.Refl R] [IsTrans τ R]

/-- Copying text or bytes does what the allocator does. -/
theorem Allocator.along_writeBytes (alloc : Allocator τ)
    (malloc : ∀ size align, Along R (alloc.malloc size align))
    (write : ∀ pointer data, Along R (alloc.write pointer data)) (data : List UInt8) :
    Along R (alloc.writeBytes data) := by
  unfold Allocator.writeBytes
  exact .bind (.conclude _) fun _ => .bind (malloc _ _) fun _ => .bind (write _ _) fun _ => .pure _

theorem Allocator.along_writeText (alloc : Allocator τ)
    (malloc : ∀ size align, Along R (alloc.malloc size align))
    (realloc : ∀ move, alloc.realloc? = some move →
      ∀ pointer old new align, Along R (move pointer old new align))
    (write : ∀ pointer data, Along R (alloc.write pointer data)) (s : String) :
    Along R (alloc.writeText s) := by
  unfold Allocator.writeText
  refine .bind (.conclude _) fun _ => ?_
  split
  · exact along_writeBytes alloc malloc write _
  · next move found =>
    have moves := realloc move found
    refine .bind (.conclude _) fun _ => .bind (malloc _ _) fun _ => .bind (write _ _) fun _ => ?_
    split
    · exact .pure _
    · exact .bind (.conclude _) fun _ => .bind (moves _ _ _ _) fun _ =>
        .bind (.conclude _) fun _ => .bind (write _ _) fun _ => .bind (.conclude _) fun _ =>
        .bind (moves _ _ _ _) fun _ => .pure _

variable [HasClosures τ] {calls : ClosureCalls τ}
  (change : ∀ i f, Along R (ClosureCalls.change (σ := τ) i f))
  (destroy : ∀ destructor data metaWord, Along R (calls.destroy destructor data metaWord))

include change destroy

theorem ClosureCalls.along_finish (i : Nat) (data : UInt32) : Along R (calls.finish i data) := by
  unfold ClosureCalls.finish
  refine .bind (.bind .get fun _ => .pure _) fun k => ?_
  split
  · exact .pure _
  · exact .bind (change _ _) fun _ => destroy _ _ _

theorem ClosureCalls.along_invoke
    (run : ∀ code data metaWord argument, Along R (calls.run code data metaWord argument))
    (i : Nat) (argument : UInt32) : Along R (calls.invoke i argument) := by
  have look : Along R (ClosureCalls.look (σ := τ) i) := .bind .get fun _ => .pure _
  unfold ClosureCalls.invoke
  refine .bind look fun _ => .bind (change _ _) fun _ => .bind look fun _ =>
    .bind (run _ _ _ _).attempt fun _ => .bind (change _ _) fun _ => .bind look fun after => ?_
  have ending (outcome : Except Fault UInt32) (destroyed : Except Fault Unit) : Along R (do
      let handle ← Action.conclude outcome
      Action.conclude destroyed
      return handle : Action τ UInt32) :=
    .bind (.conclude _) fun _ => .bind (.conclude _) fun _ => .pure _
  split
  · exact .bind (along_finish change destroy _ _).attempt fun _ => ending _ _
  · exact .bind (change _ _) fun _ => .bind (.pure _) fun _ => ending _ _

theorem ClosureCalls.along_dropReference (i : Nat) : Along R (calls.dropReference i) := by
  unfold ClosureCalls.dropReference
  refine .bind (.bind .get fun _ => .pure _) fun k => ?_
  split
  · exact .pure _
  · refine .bind (change _ _) fun _ => ?_
    split
    · exact .bind (change _ _) fun _ => .bind (along_finish change destroy _ _) fun _ => .pure _
    · exact .pure _

end Generic

namespace BridgeAction

/-! What leaves the timers alone. -/

theorem aside_changeRealm {f : Realm → Realm} (queues : ∀ r : Realm, r.events.Queues (f r).events) :
    Along Bridge.Aside (changeRealm (σ := σ) f) :=
  .modify fun _ => .of_queues (queues _) ⟨rfl, rfl, rfl, rfl, rfl, rfl⟩ rfl

theorem aside_inRealm {α : Type} {f : Realm → α × Realm}
    (queues : ∀ r : Realm, r.events.Queues (f r).2.events) :
    Along Bridge.Aside (inRealm (σ := σ) f) :=
  .get_bind fun _ => .of_queues (queues _) ⟨rfl, rfl, rfl, rfl, rfl, rfl⟩ rfl

theorem aside_hold (v : Value) : Along Bridge.Aside (hold (σ := σ) v) :=
  aside_changeRealm fun r => r.queues_hold v

theorem aside_letGo (v : Value) : Along Bridge.Aside (letGo (σ := σ) v) :=
  aside_changeRealm fun r => r.queues_letGo v

theorem aside_bound : Along Bridge.Aside (bound (σ := σ)) := by
  refine .bind .get fun b => ?_
  split
  · exact .pure _
  · exact .throw _

theorem aside_alloc (v : Value) : Along Bridge.Aside (alloc (σ := σ) v) :=
  .get_bind fun _ => .of_queues (.of_eq rfl) ⟨rfl, rfl, rfl, rfl, rfl, rfl⟩ rfl

theorem aside_peek (handle : UInt32) : Along Bridge.Aside (peek (σ := σ) handle) :=
  .bind .get fun _ => .pure _

theorem aside_tryPeek (handle : UInt32) : Along Bridge.Aside (tryPeek (σ := σ) handle) :=
  .bind .get fun _ => .conclude _

theorem aside_take (handle : UInt32) : Along Bridge.Aside (take (σ := σ) handle) := by
  refine .get_bind fun b => ?_
  rcases b.handles.take handle with fault | ⟨v, handles⟩ <;>
    exact .of_queues (.of_eq rfl) ⟨rfl, rfl, rfl, rfl, rfl, rfl⟩ rfl

theorem aside_release (handle : UInt32) : Along Bridge.Aside (release (σ := σ) handle) := by
  refine .get_bind fun b => ?_
  rcases b.handles.release handle with fault | ⟨v?, handles⟩
  · exact Std.Refl.refl b
  · have put : b.Aside { b with handles := handles } :=
      .of_queues (.of_eq rfl) ⟨rfl, rfl, rfl, rfl, rfl, rfl⟩ rfl
    rcases v? with _ | v
    · exact put
    · exact IsTrans.trans _ _ _ put (aside_letGo v { b with handles := handles })

theorem aside_cloneRef (handle : UInt32) : Along Bridge.Aside (cloneRef (σ := σ) handle) :=
  .bind (aside_tryPeek handle) fun v => .bind (aside_hold v) fun _ => aside_alloc v

theorem aside_view (kind : ViewKind) : Along Bridge.Aside (view (σ := σ) kind) :=
  .bind aside_bound fun _ =>
    .get_bind fun _ => .of_queues (.of_eq rfl) ⟨rfl, rfl, rfl, rfl, rfl, rfl⟩ rfl

theorem aside_setMemory {m : Memory} {b : Bridge σ} (size : m.size = b.machine.memory.size) :
    b.Aside ((setMemory m).perform b).2 :=
  .of_queues (.of_eq rfl) ⟨rfl, rfl, rfl, rfl, rfl, rfl⟩ size

/-- The memory that a view is over is that of the machine. -/
theorem memory_of_view {kind : ViewKind} {b b' : Bridge σ} {m : Memory}
    (viewed : (view kind).perform b = (.ok m, b')) : m = b'.machine.memory := by
  obtain ⟨_, _, -, rest⟩ := Action.bind_eq_ok viewed
  cases rest
  rfl

/-- Memory is changed through a view, and keeps its size. -/
theorem aside_update (kind : ViewKind) {change : Memory → Except Fault Memory}
    (keeps : ∀ m m', change m = .ok m' → m'.size = m.size) :
    Along Bridge.Aside (do
      setMemory (← Action.conclude (change (← view kind))) : BridgeAction σ Unit) := by
  refine (aside_view kind).bind_ok fun b m b' viewed => ?_
  have same := memory_of_view viewed
  rcases changed : change m with fault | m'
  · exact Along.throw_bind fault _ b'
  · exact aside_setMemory ((keeps m m' changed).trans (congrArg Memory.size same))

theorem aside_readText (offset length : UInt32) :
    Along Bridge.Aside (readText (σ := σ) offset length) :=
  .bind (aside_view _) fun _ =>
    .get_bind fun _ => .of_queues (.of_eq rfl) ⟨rfl, rfl, rfl, rfl, rfl, rfl⟩ rfl

theorem aside_readBytes (offset length : UInt32) :
    Along Bridge.Aside (readBytes (σ := σ) offset length) :=
  .bind (aside_view _) fun _ => .conclude _

theorem aside_readWords (offset count : UInt32) :
    Along Bridge.Aside (readWords (σ := σ) offset count) :=
  .bind (aside_view _) fun _ => .conclude _

theorem aside_writeBytes (offset : UInt32) (data : List UInt8) :
    Along Bridge.Aside (writeBytes (σ := σ) offset data) :=
  aside_update .bytes fun _ _ => Memory.size_write

theorem aside_writeWord (offset word : UInt32) :
    Along Bridge.Aside (writeWord (σ := σ) offset word) :=
  aside_update .words fun _ _ => Memory.size_writeWord

theorem aside_writeDouble (offset : UInt32) (x : Double) :
    Along Bridge.Aside (writeDouble (σ := σ) offset x) :=
  aside_update .doubles fun _ _ => Memory.size_writeDouble

theorem aside_writePair (offset first second : UInt32) :
    Along Bridge.Aside (writePair (σ := σ) offset first second) := by
  refine (aside_view .words).bind_ok fun b m b' viewed => ?_
  have same := memory_of_view viewed
  rcases one : m.writeWord offset first with fault | m₁
  · exact Along.throw_bind fault _ b'
  · have begun := (Memory.size_writeWord one).trans (congrArg Memory.size same)
    refine IsTrans.trans _ ((setMemory m₁).perform b').2 _ (aside_setMemory begun) ?_
    change Bridge.Aside _ ((do
      setMemory (← Action.conclude (m₁.writeWord (offset + 4) second)) :
        BridgeAction σ Unit).perform ((setMemory m₁).perform b').2).2
    rcases two : m₁.writeWord (offset + 4) second with fault | m₂
    · exact Along.throw_bind fault _ _
    · exact aside_setMemory (Memory.size_writeWord two)

theorem aside_newError (failure : Failure) :
    Along Bridge.Aside (inRealm (σ := σ) (·.newError failure)) :=
  aside_inRealm fun _ => .of_eq rfl

theorem aside_freshIdentity : Along Bridge.Aside (inRealm (σ := σ) (·.freshIdentity)) :=
  aside_inRealm fun _ => .of_eq rfl

theorem aside_change (i : Nat) (f : Closure → Closure) :
    Along Bridge.Aside (ClosureCalls.change (σ := Bridge σ) i f) :=
  .modify fun _ => .of_queues (.of_eq rfl) ⟨rfl, rfl, rfl, rfl, rfl, rfl⟩ rfl

theorem aside_tableFunction (index : UInt32) (type : Signature) :
    Along Bridge.Aside (tableFunction (σ := σ) index type) := by
  refine .bind aside_bound fun exports => ?_
  split
  · exact .bind .get fun _ => .throw _
  · split
    · exact .throw _
    · split
      · exact .pure _
      · exact .throw _

theorem Machine.pages_grow (m : Machine σ) (pages : Nat) :
    m.memory.pages ≤ (m.grow pages).2.memory.pages := by
  unfold Machine.grow
  dsimp only
  split
  · change m.memory.size / Memory.pageSize ≤
      (m.memory.size / Memory.pageSize + pages) * Memory.pageSize / Memory.pageSize
    rw [Nat.mul_div_cancel _ (by decide)]
    exact Nat.le_add_right _ _
  · exact Nat.le_refl _

theorem aside_growMemory (pages : Nat) : Along Bridge.Aside (growMemory (σ := σ) pages) :=
  .get_bind fun b =>
    ⟨⟨⟨rfl, rfl, rfl, rfl, rfl⟩, rfl⟩, rfl, Machine.pages_grow b.machine pages, List.prefix_rfl⟩

theorem alike_changeMachine (f : Machine σ → Machine σ) :
    Along Bridge.Alike (changeMachine f) :=
  .modify fun _ => ⟨rfl, rfl, rfl, rfl, rfl⟩

theorem aside_changeMachine {f : Machine σ → Machine σ} (same : ∀ m, (f m).memory = m.memory) :
    Along Bridge.Aside (changeMachine f) :=
  .modify fun b => .of_queues (.of_eq rfl) ⟨rfl, rfl, rfl, rfl, rfl, rfl⟩
    (congrArg Memory.size (same b.machine))

theorem aside_record (entry : JournalEntry) : Along Bridge.Aside (record (σ := σ) entry) :=
  .modify fun _ => .of_queues (.of_eq rfl) ⟨rfl, rfl, rfl, rfl, rfl, rfl⟩ rfl

theorem aside_liftArgument (kind : ParamKind) (args : List Core) :
    Along Bridge.Aside (liftArgument (σ := σ) kind args) := by
  cases kind with
  | choice table =>
    refine .bind (.conclude _) fun ⟨index, rest⟩ => ?_
    dsimp only
    split
    · exact .pure _
    · exact .throw _
  | handle => exact .bind (.conclude _) fun _ => .bind (aside_tryPeek _) fun _ => .pure _
  | text =>
    exact .bind (.conclude _) fun _ => .bind (.conclude _) fun _ =>
      .bind (aside_readText _ _) fun _ => .pure _
  | bytes =>
    exact .bind (.conclude _) fun _ => .bind (.conclude _) fun _ =>
      .bind (aside_readBytes _ _) fun _ => .bind aside_freshIdentity fun _ => .pure _
  | words =>
    exact .bind (.conclude _) fun _ => .bind (.conclude _) fun _ =>
      .bind (aside_readWords _ _) fun _ => .bind aside_freshIdentity fun _ => .pure _
  | _ => exact .bind (.conclude _) fun _ => .pure _

theorem aside_liftArguments (kinds : List ParamKind) (args : List Core) :
    Along Bridge.Aside (liftArguments (σ := σ) kinds args) := by
  induction kinds generalizing args with
  | nil => exact .pure _
  | cons kind rest ih =>
    exact .bind (aside_liftArgument kind args) fun _ => .bind (ih _) fun _ => .pure _

theorem aside_checkResult (kind : ResultKind) (outcome : Except Failure Value) :
    Along Bridge.Aside (checkResult (σ := σ) kind outcome) := by
  cases outcome with
  | error failure => exact .pure _
  | ok v =>
    simp only [checkResult]
    split
    · exact .pure _
    · exact .bind (aside_letGo _) fun _ => .pure _

/-- Text or bytes are handed out through a pair of words in memory. -/
theorem aside_answerPair (returnPointer pointer length : UInt32) :
    Along Bridge.Aside (do
      writePair returnPointer pointer length
      return [] : BridgeAction σ (List Core)) :=
  .bind (aside_writePair _ _ _) fun _ => .pure _

theorem aside_numberGet (returnPointer handle : UInt32) :
    Along Bridge.Aside (numberGet (σ := σ) returnPointer handle) :=
  .bind aside_bound fun _ => .bind (aside_peek _) fun _ => .bind (aside_writeWord _ _) fun _ =>
    .bind (aside_writeDouble _ _) fun _ => .pure _

theorem aside_boolGet (handle : UInt32) : Along Bridge.Aside (boolGet (σ := σ) handle) := by
  refine .bind (aside_peek _) fun v => ?_
  split <;> exact .pure _

theorem aside_testValue (test : Value → Bool) (handle : UInt32) :
    Along Bridge.Aside (testValue (σ := σ) test handle) :=
  .bind (aside_peek _) fun _ => .pure _

theorem aside_throwMessage (offset length : UInt32) :
    Along Bridge.Aside (throwMessage (σ := σ) offset length) :=
  .bind aside_bound fun _ => .bind (aside_readText _ _) fun _ => .throw _

theorem aside_closureNew (code destructor data metaWord : UInt32) :
    Along Bridge.Aside (closureNew (σ := σ) code destructor data metaWord) :=
  .bind (aside_inRealm fun _ => .of_eq rfl) fun _ => .bind (aside_alloc _) fun _ => .pure _

theorem linked_callHost (c : Capability) (args : List Value) :
    Along (PassageFor c) (callHost (σ := σ) c args) :=
  .get_bind fun b linked bound =>
    .visit (Std.Refl.refl b) linked bound (.aside (Std.Refl.refl (b.visited c args)))

/-- A host function that is linked is called for a bound guest only. -/
theorem linked_bound {α : Type} {c : Capability} {b : Bridge σ} (linked : c ∈ b.capabilities)
    {next : BoundExports σ → BridgeAction σ α}
    (rest : ∀ exports, Along (PassageFor c) (next exports)) :
    Passage b ((bound >>= next).run.run b).2 := by
  change Passage b ((bound >>= next).perform b).2
  rw [Action.perform_bind, perform_bound]
  rcases present : b.bound with _ | exports
  · exact Std.Refl.refl b
  · exact rest exports b linked (present ▸ rfl)

/-! What calls the guest leads where the guest leads. -/

section Calling

variable {call : GuestCaller σ} (calls : ∀ f args, Along Passage (call f args))

include calls

theorem leads_callWord (f : GuestFunction σ) (args : List UInt32) :
    Along Passage (callWord call f args) := by
  refine .bind (calls f _) fun results => ?_
  unfold theWord
  split
  · exact .pure _
  · exact .throw _

theorem leads_callUnit (f : GuestFunction σ) (args : List UInt32) :
    Along Passage (callUnit call f args) :=
  .bind (calls f _) fun _ => .pure _

theorem leads_passText (s : String) : Along Passage (passText call s) := by
  refine .bind aside_bound.leads fun exports => ?_
  refine Allocator.along_writeText (allocator call exports)
    (fun size align => leads_callWord calls _ _) ?_
    (fun pointer data => (aside_writeBytes pointer data).leads) s
  intro move found pointer old new align
  obtain ⟨realloc, -, rfl⟩ := Option.map_eq_some_iff.1 found
  exact leads_callWord calls _ _

theorem leads_passBytes (data : List UInt8) : Along Passage (passBytes call data) := by
  refine .bind aside_bound.leads fun exports => ?_
  exact Allocator.along_writeBytes (allocator call exports)
    (fun size align => leads_callWord calls _ _)
    (fun pointer data => (aside_writeBytes pointer data).leads) data

theorem leads_raise (failure : Failure) : Along Passage (raise call failure) :=
  .bind (aside_newError failure).leads fun _ => .bind (aside_alloc _).leads fun _ =>
    .bind aside_bound.leads fun _ => leads_callUnit calls _ _

theorem leads_orRaise {α : Type} {act : BridgeAction σ α} (along : Along Passage act)
    (sentinel : α) : Along Passage (orRaise call act sentinel) := by
  refine .bind along.attempt fun outcome => ?_
  split
  · exact .pure _
  · exact .bind (leads_raise calls _) fun _ => .pure _

theorem leads_run (code data metaWord argument : UInt32) :
    Along Passage ((closureCalls call).run code data metaWord argument) :=
  .bind (aside_tableFunction _ _).leads fun _ => leads_callWord calls _ _

theorem leads_destroy (destructor data metaWord : UInt32) :
    Along Passage ((closureCalls call).destroy destructor data metaWord) :=
  .bind (aside_tableFunction _ _).leads fun _ => leads_callUnit calls _ _

theorem leads_invokeClosure (closure : Nat) (argument : Value) :
    Along Passage (invokeClosure call closure argument) :=
  .bind (aside_alloc _).leads fun _ =>
    .bind (ClosureCalls.along_invoke (fun i f => (aside_change i f).leads) (leads_destroy calls)
      (leads_run calls) _ _) fun _ => (aside_take _).leads

theorem leads_runFinalizers (batch : List Finalizer) :
    Along Passage (runFinalizers call batch) := by
  induction batch with
  | nil => exact .pure _
  | cons f rest ih => exact .bind (leads_destroy calls _ _ _) fun _ => .bind ih fun _ => .pure _

theorem leads_drainBatches (turns : Nat) : Along Passage (drainBatches call turns) := by
  induction turns with
  | zero => exact .throw _
  | succ turns ih =>
    refine .bind (aside_inRealm fun _ => .of_eq rfl).leads fun batch => ?_
    split
    · exact .pure _
    · exact .bind (leads_runFinalizers calls _) fun _ => .bind ih fun _ => .pure _

/-! The operations of the bridge that a guest may import. -/

theorem leads_stringNew (offset length : UInt32) :
    Along Passage (stringNew call offset length) :=
  .bind aside_bound.leads fun _ =>
    .bind (leads_orRaise calls (.bind (aside_readText _ _).leads fun _ => .pure _) _) fun _ =>
      .bind (aside_alloc _).leads fun _ => .pure _

theorem leads_stringGet (returnPointer handle : UInt32) :
    Along Passage (stringGet call returnPointer handle) := by
  refine .bind aside_bound.leads fun _ => .bind (aside_peek _).leads fun v => ?_
  dsimp only
  split
  · exact .bind (leads_passText calls _) fun _ => (aside_answerPair _ _ _).leads
  · exact .bind (.pure _) fun _ => (aside_answerPair _ _ _).leads

theorem leads_bytesNew (offset length : UInt32) :
    Along Passage (bytesNew call offset length) := by
  refine .bind aside_bound.leads fun _ => .bind (leads_orRaise calls ?_ _) fun _ =>
    .bind (aside_alloc _).leads fun _ => .pure _
  exact .bind (aside_readBytes _ _).leads fun _ =>
    .bind aside_freshIdentity.leads fun _ => .pure _

theorem leads_bytesGet (returnPointer handle : UInt32) :
    Along Passage (bytesGet call returnPointer handle) := by
  refine .bind aside_bound.leads fun _ => .bind (aside_peek _).leads fun v => ?_
  dsimp only
  split
  · exact .bind (leads_passBytes calls _) fun _ => (aside_answerPair _ _ _).leads
  · exact .bind (.pure _) fun _ => (aside_answerPair _ _ _).leads

theorem leads_objectCloneRef (handle : UInt32) : Along Passage (objectCloneRef call handle) :=
  .bind aside_bound.leads fun _ =>
    .bind (leads_orRaise calls (aside_cloneRef _).leads _) fun _ => .pure _

theorem leads_objectDropRef (handle : UInt32) : Along Passage (objectDropRef call handle) :=
  .bind aside_bound.leads fun _ =>
    .bind (leads_orRaise calls (aside_release _).leads _) fun _ => .pure _

theorem leads_debugString (returnPointer handle : UInt32) :
    Along Passage (debugString call returnPointer handle) :=
  .bind aside_bound.leads fun _ => .bind (aside_peek _).leads fun _ =>
    .bind (leads_passText calls _) fun _ => (aside_answerPair _ _ _).leads

theorem leads_errorNew (offset length : UInt32) : Along Passage (errorNew call offset length) :=
  .bind aside_bound.leads fun _ =>
    .bind (leads_orRaise calls (aside_readText _ _).leads _) fun _ =>
      .bind (aside_newError _).leads fun _ => .bind (aside_alloc _).leads fun _ => .pure _

theorem leads_closureDrop (handle : UInt32) : Along Passage (closureDrop call handle) := by
  refine .bind aside_bound.leads fun _ =>
    .bind (leads_orRaise calls (aside_take handle).leads _) fun v => ?_
  refine .bind (Along.attempt ?_) fun _ => .bind (aside_letGo v).leads fun _ => .conclude _
  split
  · exact .bind (ClosureCalls.along_dropReference (fun i f => (aside_change i f).leads)
      (leads_destroy calls) _) fun _ => .pure _
  · exact .pure _
  · exact .bind (leads_raise calls _) fun _ => .pure _

theorem leads_functionCall (function argument : UInt32) :
    Along Passage (functionCall call function argument) := by
  refine .bind aside_bound.leads fun _ => .bind (aside_peek function).leads fun callee => ?_
  split
  · refine .bind (aside_hold _).leads fun _ => .bind (Along.attempt ?_) fun _ =>
      .bind (aside_letGo _).leads fun _ => .conclude _
    exact .bind (aside_peek argument).leads fun _ => .bind (aside_hold _).leads fun _ =>
      .bind (leads_invokeClosure calls _ _) fun _ => .bind (aside_alloc _).leads fun _ => .pure _
  · exact .bind (leads_raise calls _) fun _ => .pure _

theorem leads_serveIntrinsic (op : Intrinsic) (args : List Core) :
    Along Passage (serveIntrinsic call op args) := by
  unfold serveIntrinsic
  split
  · exact leads_stringNew calls _ _
  · exact leads_stringGet calls _ _
  · exact leads_bytesNew calls _ _
  · exact leads_bytesGet calls _ _
  · exact .bind (aside_alloc _).leads fun _ => .pure _
  · exact (aside_numberGet _ _).leads
  · exact (aside_boolGet _).leads
  iterate 5 exact (aside_testValue _ _).leads
  · exact leads_objectCloneRef calls _
  · exact leads_objectDropRef calls _
  · exact leads_debugString calls _ _
  · exact leads_errorNew calls _ _
  · exact (aside_throwMessage _ _).leads
  · exact (aside_closureNew _ _ _ _).leads
  · exact leads_closureDrop calls _
  · exact leads_functionCall calls _ _
  · exact .throw _

theorem leads_lower (returnPointer : UInt32) (lowered : Lowered) :
    Along Passage (lower call returnPointer lowered) := by
  unfold lower
  split
  · exact .pure _
  · exact .pure _
  · exact .pure _
  · exact .bind (aside_alloc _).leads fun _ => .pure _
  · exact (aside_answerPair _ _ _).leads
  · exact .bind (leads_passText calls _) fun _ => (aside_answerPair _ _ _).leads

theorem leads_dispatch (index : Nat) (args : List Core) :
    Along Passage (dispatch call index args) := by
  refine .get_bind fun b => ?_
  dsimp only
  split
  · next c found =>
    refine linked_bound (List.mem_of_getElem? found) fun _ => ?_
    have failing (failure : Failure) (returnPointer : UInt32) : Along (PassageFor c) (do
        raise call failure
        lower call returnPointer (.sentinel c.result)) :=
      Action.Along.linked (.bind (leads_raise calls _) fun _ => leads_lower calls _ _)
    -- The pointer for the result comes first among the arguments, if there is one.
    split
    case' isTrue => refine .bind (.conclude _) fun passed => ?_
    case' isFalse => refine .bind (.pure _) fun passed => ?_
    all_goals
      refine .bind (aside_liftArguments _ _).attempt.leads.linked fun lifted => ?_
      split
      · exact failing _ _
      · refine .bind (linked_callHost c _) fun outcome =>
          .bind (aside_checkResult _ outcome).leads.linked fun checked => ?_
        split
        · exact (leads_lower calls _ _).linked
        · split
          · exact failing _ _
          · exact .throw _
  · exact Std.Refl.refl b

end Calling

end BridgeAction

open BridgeAction

section Running

variable {serve : Nat → List Core → BridgeAction σ (List Core)}
  (serves : ∀ index args, Along Passage (serve index args))

include serves

theorem Code.leads_run {α : Type} (code : Code σ α) : Along Passage (code.run serve) := by
  induction code with
  | yield a => exact .pure a
  | trap t => exact .throw _
  | read next ih => exact .bind .get fun b => ih _
  | write s next ih =>
    have writes : Along Bridge.Aside (changeMachine (σ := σ) fun m => { m with state := s }) :=
      aside_changeMachine fun _ => rfl
    exact .bind writes.leads fun _ => ih
  | call index args next ih => exact .bind (serves index args) fun results => ih results
  | size next ih => exact .bind .get fun b => ih _
  | grow pages next ih => exact .bind (aside_growMemory pages).leads fun old => ih old
  | load offset length next ih =>
    refine .bind .get fun b => ?_
    dsimp only
    split
    · exact ih _
    · exact .throw _
  | store offset data next ih =>
    refine .get_bind fun b => ?_
    dsimp only
    split
    · have stored : b.Aside ((setMemory (b.machine.memory.store offset data)).perform b).2 :=
        aside_setMemory (Memory.size_store ..)
      exact IsTrans.trans _ _ _ (.aside stored) (ih _)
    · exact Std.Refl.refl b
  | note name words next ih => exact .bind (aside_record _).leads fun _ => ih

end Running

theorem leads_serveImport {call : GuestCaller σ} (calls : ∀ f args, Along Passage (call f args))
    (index : Nat) (args : List Core) : Along Passage (serveImport call index args) := by
  refine .bind .get fun b => ?_
  split
  · exact leads_serveIntrinsic calls _ _
  · exact leads_dispatch calls _ _
  · exact .throw _

/-- However deep the calls between guest and host nest, the timers are touched by linked host
functions only. -/
theorem leads_callWithin (depth : Nat) (f : GuestFunction σ) (args : List Core) :
    Along Passage (callWithin depth f args) := by
  induction depth generalizing f args with
  | zero => exact .throw _
  | succ depth ih => exact Code.leads_run (leads_serveImport ih) _

theorem leads_callGuest (f : GuestFunction σ) (args : List Core) :
    Along Passage (callGuest f args) :=
  .bind .get fun b => leads_callWithin b.limits.depth f args

end GuestBridge

import GuestBridge.Proofs.Intrinsics.Reporting
/-!
Where the operations that convert text, bytes and numbers fail. What they cannot read goes to the
exception slot. What they cannot write, because the return pointer is bad, ends the guest's call.
-/

set_option autoImplicit false

namespace GuestBridge

variable {σ : Type}

open GuestBridge.Action (Along)

/-- What is wrong with a pointer, or with the text behind it. -/
inductive Fault.Rejected : Fault → Prop
  | decode (validUpTo length : Nat) : Rejected (.decode validUpTo length)
  | outOfBounds (offset length : UInt32) (size : Nat) : Rejected (.outOfBounds offset length size)
  | misaligned (offset align : UInt32) : Rejected (.misaligned offset align)

namespace Memory

variable {m m' : Memory} {offset align : UInt32} {length : Nat}

/-- There is room for bytes at an offset, which is a multiple of the alignment. -/
structure Takes (m : Memory) (offset align : UInt32) (length : Nat) : Prop where
  aligned : offset % align = 0
  inside : offset.toNat + length ≤ m.size

theorem takes_congr (size : m'.size = m.size) :
    m'.Takes offset align length ↔ m.Takes offset align length := by
  constructor
  · rintro ⟨aligned, inside⟩
    exact ⟨aligned, size ▸ inside⟩
  · rintro ⟨aligned, inside⟩
    exact ⟨aligned, size.symm ▸ inside⟩

/-- What a write comes to. -/
inductive Written (m : Memory) (room : Prop) : Except Fault Memory → Prop
  | done {m' : Memory} (fits : room) (size : m'.size = m.size) : Written m room (.ok m')
  | refused {fault : Fault} (unfit : ¬ room) (rejected : fault.Rejected) :
    Written m room (.error fault)

theorem written_write {data : List UInt8} (few : data.length < UInt32.size) (m : Memory)
    (offset align : UInt32) : Written m (m.Takes offset align data.length) (do
      checkAligned offset align
      m.write offset data) := by
  by_cases aligned : offset % align = 0
  · by_cases inside : offset.toNat + data.length ≤ m.size
    · have done : (do checkAligned offset align; m.write offset data) =
          Except.ok (m.store offset.toNat data) := by
        rw [checkAligned, if_pos aligned]
        exact write_ok few inside
      rw [done]
      exact .done ⟨aligned, inside⟩ (size_store ..)
    · have count : (UInt32.ofNat data.length).toNat = data.length := UInt32.toNat_ofNat_of_lt few
      have refused : (do checkAligned offset align; m.write offset data) =
          Except.error (.outOfBounds offset (UInt32.ofNat data.length) m.size) := by
        rw [checkAligned, if_pos aligned, write, if_neg (Nat.not_le.2 few), checkRange, count,
          if_neg inside]
        rfl
      rw [refused]
      exact .refused (fun takes => inside takes.inside) (.outOfBounds ..)
  · have refused : (do checkAligned offset align; m.write offset data) =
        Except.error (.misaligned offset align) := by
      rw [checkAligned, if_neg aligned]
      rfl
    rw [refused]
    exact .refused (fun takes => aligned takes.aligned) (.misaligned ..)

theorem written_writeWord (m : Memory) (offset word : UInt32) :
    Written m (m.Takes offset 4 4) (m.writeWord offset word) := by
  have length := length_toLittleEndian 4 word.toNat
  have few : (toLittleEndian 4 word.toNat).length < UInt32.size := by
    rw [length]
    decide
  rw [← length]
  exact written_write few m offset 4

theorem written_writeDouble (m : Memory) (offset : UInt32) (x : Double) :
    Written m (m.Takes offset 8 8) (m.writeDouble offset x) := by
  have length := length_toLittleEndian 8 x.bits.toNat
  have few : (toLittleEndian 8 x.bits.toNat).length < UInt32.size := by
    rw [length]
    decide
  rw [← length]
  exact written_write few m offset 8

theorem rejected_read {fault : Fault} {length : UInt32}
    (failed : m.read offset length = .error fault) : fault.Rejected := by
  unfold read checkRange at failed
  split at failed
  · cases failed
  · cases failed
    exact .outOfBounds ..

end Memory

theorem Codec.rejected_text {m : Memory} {offset length : UInt32} {fault : Fault}
    (failed : Codec.text m offset length = .error fault) : fault.Rejected := by
  unfold text at failed
  rcases read : m.read offset length with other | data
  · rw [read] at failed
    cases failed
    exact Memory.rejected_read read
  · rcases decoded : Text.Utf8.decode data with validUpTo | s <;>
      simp only [read, bind, Except.bind, decoded] at failed <;> cases failed
    exact .decode ..

/-- Nothing has changed but views and what is in memory. -/
def Bridge.Rewritten (b b' : Bridge σ) : Prop :=
  ∃ views memory, memory.size = b.machine.memory.size ∧ b' = { b with
    views := views
    machine := { b.machine with memory := memory } }

instance : IsTrans (Bridge σ) Bridge.Rewritten where
  trans := by
    rintro _ _ _ ⟨_, _, size, rfl⟩ ⟨views, memory, size', rfl⟩
    exact ⟨views, memory, size'.trans size, rfl⟩

theorem Bridge.Rewritten.size {b b' : Bridge σ} (rewritten : b.Rewritten b') :
    b'.machine.memory.size = b.machine.memory.size := by
  obtain ⟨_, _, size, rfl⟩ := rewritten
  exact size

theorem Bridge.Rewritten.bound {b b' : Bridge σ} (rewritten : b.Rewritten b') :
    b'.bound = b.bound := by
  obtain ⟨_, _, _, rfl⟩ := rewritten
  rfl

/-- A guest does not go on after an import that fails. -/
theorem Code.call_fails {serve : Nat → List Core → BridgeAction σ (List Core)} {index : Nat}
    {args : List Core} {fault : Fault} {b b₁ : Bridge σ}
    (failed : (serve index args).perform b = (.error fault, b₁))
    {α : Type} (next : List Core → Code σ α) :
    ((Code.call index args next).run serve).perform b = (.error fault, b₁) := by
  show (serve index args >>= fun results => (next results).run serve).perform b = _
  rw [Action.perform_bind, failed]

namespace BridgeAction

variable {exports : BoundExports σ} {b b₁ : Bridge σ}

/-- What an operation comes to that writes to memory. -/
inductive Writes (b : Bridge σ) (room : Prop) : Except Fault Unit × Bridge σ → Prop
  | done {left : Bridge σ} (fits : room) (rewritten : b.Rewritten left) :
    Writes b room (.ok (), left)
  | refused {fault : Fault} {left : Bridge σ} (unfit : ¬ room) (rejected : fault.Rejected)
    (rewritten : b.Rewritten left) : Writes b room (.error fault, left)

theorem Writes.congr {room room' : Prop} (same : room ↔ room')
    {ended : Except Fault Unit × Bridge σ} (writes : Writes b room ended) :
    Writes b room' ended := by
  rwa [← propext same]

theorem Writes.after {room : Prop} {ended : Except Fault Unit × Bridge σ}
    (rewritten : b.Rewritten b₁) (writes : Writes b₁ room ended) : Writes b room ended := by
  cases writes with
  | done fits more => exact .done fits (IsTrans.trans _ _ _ rewritten more)
  | refused unfit rejected more =>
    exact .refused unfit rejected (IsTrans.trans _ _ _ rewritten more)

theorem Writes.narrow {room more : Prop} (fits : room) {ended : Except Fault Unit × Bridge σ}
    (writes : Writes b more ended) : Writes b (room ∧ more) ended :=
  writes.congr (and_iff_right fits).symm

/-- The second part has to do with the memory that the first has written to. -/
theorem Writes.andThen {first second : BridgeAction σ Unit} {room more : Prop}
    (one : Writes b room (first.perform b))
    (two : ∀ b₁, b.Rewritten b₁ → Writes b₁ more (second.perform b₁)) :
    Writes b (room ∧ more) ((do first; second : BridgeAction σ Unit).perform b) := by
  rw [Action.perform_bind]
  generalize first.perform b = ended at one
  cases one with
  | refused unfit rejected rewritten =>
    exact .refused (fun both => unfit both.1) rejected rewritten
  | done fits rewritten => exact ((two _ rewritten).narrow fits).after rewritten

/-- A memory that is written to takes the place of the old one. -/
theorem writes_setMemory {room : Prop} {outcome : Except Fault Memory}
    (written : b.machine.memory.Written room outcome) :
    Writes b room ((do setMemory (← Action.conclude outcome) : BridgeAction σ Unit).perform b) := by
  cases written with
  | done fits size => exact .done fits ⟨b.views, _, size, rfl⟩
  | refused unfit rejected => exact .refused unfit rejected ⟨b.views, _, rfl, rfl⟩

/-- Looking up a view comes before writing. -/
theorem writes_view (present : b.bound = some exports) {room : Prop} (kind : ViewKind)
    {write : Memory → BridgeAction σ Unit}
    (writes : ∀ b₁, b₁.machine = b.machine → Writes b₁ room ((write b.machine.memory).perform b₁)) :
    Writes b room ((do write (← view kind) : BridgeAction σ Unit).perform b) := by
  rw [Action.perform_bind_ok _ _ (perform_view present kind)]
  have looked : b.Rewritten { b with views := b.views.lookup kind b.machine.memory } :=
    ⟨_, _, rfl, rfl⟩
  have rest := writes { b with views := b.views.lookup kind b.machine.memory } rfl
  exact rest.after looked

theorem writes_writeWord (present : b.bound = some exports) (offset word : UInt32) :
    Writes b (b.machine.memory.Takes offset 4 4) ((writeWord offset word).perform b) := by
  apply writes_view present .words
  intro b₁ same
  apply writes_setMemory
  rw [same]
  exact Memory.written_writeWord ..

theorem writes_writeDouble (present : b.bound = some exports) (offset : UInt32) (x : Double) :
    Writes b (b.machine.memory.Takes offset 8 8) ((writeDouble offset x).perform b) := by
  apply writes_view present .doubles
  intro b₁ same
  apply writes_setMemory
  rw [same]
  exact Memory.written_writeDouble ..

theorem writes_writePair (present : b.bound = some exports) (offset first second : UInt32) :
    Writes b (b.machine.memory.Takes offset 4 4 ∧ b.machine.memory.Takes (offset + 4) 4 4)
      ((writePair offset first second).perform b) := by
  apply writes_view present .words
  intro b₁ same
  rw [← same, Action.perform_bind, Action.perform_conclude]
  -- The second word goes to the memory with the first in it, which replaces the old one only then.
  have one := Memory.written_writeWord b₁.machine.memory offset first
  generalize b₁.machine.memory.writeWord offset first = outcome at one
  cases one with
  | refused unfit rejected =>
    exact .refused (fun both => unfit both.1) rejected ⟨b₁.views, _, rfl, rfl⟩
  | @done m fits size =>
    have stored : b₁.Rewritten { b₁ with machine := { b₁.machine with memory := m } } :=
      ⟨b₁.views, m, size, rfl⟩
    apply Writes.narrow fits
    apply Writes.after stored
    apply writes_setMemory
    rw [← propext (Memory.takes_congr size)]
    exact Memory.written_writeWord ..

/-- What an operation has to say of the value behind a handle. -/
inductive Answer
  | pair (pointer length : UInt32)
  /-- Whether it is a number, and which. -/
  | number (x? : Option Double)

namespace Answer

def write (returnPointer : UInt32) : Answer → BridgeAction σ Unit
  | .pair pointer length => writePair returnPointer pointer length
  | .number x? => do
    writeWord returnPointer (if x?.isSome then 1 else 0)
    writeDouble (returnPointer + 8) (x?.getD .zero)

/-- There is room behind the return pointer. -/
def Fits (m : Memory) (returnPointer : UInt32) : Answer → Prop
  | .pair .. => m.Takes returnPointer 4 4 ∧ m.Takes (returnPointer + 4) 4 4
  | .number _ => m.Takes returnPointer 4 4 ∧ m.Takes (returnPointer + 8) 8 8

theorem writes_write (present : b.bound = some exports) (returnPointer : UInt32) (a : Answer) :
    Writes b (a.Fits b.machine.memory returnPointer) ((a.write returnPointer).perform b) := by
  cases a with
  | pair pointer length => exact writes_writePair present ..
  | number x? =>
    apply Writes.andThen (writes_writeWord present _ _)
    intro b₁ rewritten
    have writes := writes_writeDouble (rewritten.bound.trans present) (returnPointer + 8)
      (x?.getD .zero)
    exact writes.congr (Memory.takes_congr rewritten.size)

end Answer

/-- The operations that write to a return pointer. -/
def answering : List Intrinsic := [.stringGet, .bytesGet, .numberGet, .debugString]

/-- What they do before they write. -/
def answer (call : GuestCaller σ) (op : Intrinsic) (handle : UInt32) : BridgeAction σ Answer := do
  let v ← peek handle
  let pass (pair : UInt32 × UInt32) : Answer := .pair pair.1 pair.2
  match op, v with
  | .stringGet, .string s => return pass (← passText call s)
  | .bytesGet, .bytes _ data => return pass (← passBytes call data)
  | .debugString, v => return pass (← passText call v.debugText)
  | .numberGet, v => return .number v.asNumber?
  | _, _ => return .pair 0 0

theorem serve_answer (call : GuestCaller σ) {op : Intrinsic} (member : op ∈ answering)
    (returnPointer handle : UInt32) :
    serveIntrinsic call op [.word returnPointer, .word handle] = (do
      let _ ← bound
      let a ← answer call op handle
      a.write returnPointer
      return []) := by
  simp only [answering, List.mem_cons, List.not_mem_nil, or_false] at member
  rcases member with rfl | rfl | rfl | rfl
  all_goals
    unfold answer
    refine bind_congr fun _ => ?_
    rw [bind_assoc]
    refine bind_congr fun v => ?_
  case inl => cases v <;> simp only [bind_assoc, pure_bind] <;> rfl
  case inr.inl => cases v <;> simp only [bind_assoc, pure_bind] <;> rfl
  case inr.inr.inl => simp only [bind_assoc, pure_bind, Answer.write]
  case inr.inr.inr =>
    simp only [bind_assoc, pure_bind]
    rfl

theorem leads_answer {call : GuestCaller σ} (calls : ∀ f args, Along Passage (call f args))
    (op : Intrinsic) (handle : UInt32) : Along Passage (answer call op handle) := by
  refine .bind (aside_peek handle).leads fun v => ?_
  dsimp only
  split
  · exact .bind (leads_passText calls _) fun _ => .pure _
  · exact .bind (leads_passBytes calls _) fun _ => .pure _
  · exact .bind (leads_passText calls _) fun _ => .pure _
  · exact .pure _
  · exact .pure _

theorem perform_serve_answer (present : b.bound = some exports) {call : GuestCaller σ}
    {op : Intrinsic} (member : op ∈ answering) {returnPointer handle : UInt32} {a : Answer}
    (answered : (answer call op handle).perform b = (.ok a, b₁)) :
    (serveIntrinsic call op [.word returnPointer, .word handle]).perform b =
      (do
        a.write returnPointer
        return [] : BridgeAction σ (List Core)).perform b₁ := by
  rw [serve_answer call member, Action.perform_bind_ok _ _ (perform_bound_some present),
    Action.perform_bind_ok _ _ answered]

/-- A new error is given to the guest. -/
def giveError (failure : Failure) : BridgeAction σ (List Core) := do
  let v ← inRealm (·.newError failure)
  return [.word (← alloc v)]

/-- An error is made even if its message cannot be read. -/
theorem perform_errorNew (present : b.bound = some exports) {offset length : UInt32} {fault : Fault}
    (failed : (readText offset length).perform b = (.error fault, b₁))
    (held : b₁.bound = some exports) (call : GuestCaller σ) :
    (errorNew call offset length).perform b = (do
      callUnit call exports.exnStore [(b₁.raising fault.asFailure).1]
      giveError (.general "")).perform (b₁.raising fault.asFailure).2 := by
  unfold errorNew
  rw [Action.perform_bind_ok _ _ (perform_bound_some present), Action.perform_bind,
    perform_orRaise_error failed held, Action.perform_bind, Action.perform_bind]
  rcases (callUnit call exports.exnStore _).perform _ with ⟨_ | _, after⟩ <;> rfl

theorem perform_serveImport {index : Nat} {op : Intrinsic}
    (wired : b.machine.bindings[index]? = some (.intrinsic op)) (call : GuestCaller σ)
    (args : List Core) :
    (serveImport call index args).perform b = (serveIntrinsic call op args).perform b := by
  rw [serveImport, Action.perform_bind_ok _ _ (Action.perform_get b), wired]

/-- Once it is known what to answer, all depends on the return pointer. -/
theorem answers_or_fails (present : b.bound = some exports) {op : Intrinsic}
    (member : op ∈ answering) {depth : Nat} {returnPointer handle : UInt32} {a : Answer}
    (answered : (answer (callWithin depth) op handle).perform b = (.ok a, b₁)) :
    let args : List Core := [.word returnPointer, .word handle]
    let served := (serveIntrinsic (callWithin depth) op args).perform b
    (a.Fits b₁.machine.memory returnPointer ∧ ∃ left, served = (.ok [], left) ∧
      b₁.Rewritten left) ∨
    (¬ a.Fits b₁.machine.memory returnPointer ∧ ∃ fault left, served = (.error fault, left) ∧
      fault.Rejected ∧ b₁.Rewritten left) := by
  intro args served
  have passage : Passage b b₁ := (leads_answer (leads_callWithin depth) op handle).ended answered
  have held : b₁.bound = some exports := passage.wired.2.2.1.trans present
  have serves : served = (do
      a.write returnPointer
      return [] : BridgeAction σ (List Core)).perform b₁ :=
    perform_serve_answer present member answered
  rw [Action.perform_bind] at serves
  have writes := Answer.writes_write held returnPointer a
  generalize (a.write returnPointer).perform b₁ = ended at writes serves
  cases writes with
  | done fits rewritten => exact .inl ⟨fits, _, serves, rewritten⟩
  | refused unfit rejected rewritten => exact .inr ⟨unfit, _, _, serves, rejected, rewritten⟩

/-! Reading. -/

theorem rejected_readText (present : b.bound = some exports) {offset length : UInt32}
    {fault : Fault} (failed : (readText offset length).perform b = (.error fault, b₁)) :
    fault.Rejected := by
  rw [readText, Action.perform_bind_ok _ _ (perform_view present .bytes)] at failed
  exact Codec.rejected_text (congrArg Prod.fst failed)

theorem rejected_readBytes (present : b.bound = some exports) {offset length : UInt32}
    {fault : Fault} (failed : (readBytes offset length).perform b = (.error fault, b₁)) :
    fault.Rejected := by
  rw [readBytes, Action.perform_bind_ok _ _ (perform_view present .bytes)] at failed
  exact Memory.rejected_read (congrArg Prod.fst failed)

theorem converted_readBytes (offset length : UInt32) :
    Along Bridge.Converted (readBytes (σ := σ) offset length) :=
  .bind (converted_view _) fun _ => .conclude _

theorem stores_stringNew (present : b.bound = some exports) {offset length : UInt32} {fault : Fault}
    (failed : (readText offset length).perform b = (.error fault, b₁))
    (held : b₁.bound = some exports) :
    Stores exports .handle 0 fault.asFailure b₁ fun call =>
      (serveIntrinsic call .stringNew [.word offset, .word length]).perform b := by
  have unread : (do
      return Value.string (← readText offset length) : BridgeAction σ Value).perform b =
        (.error fault, b₁) := by
    rw [Action.perform_bind, failed]
  exact stores_orRaise unread present held rfl fun call b => rfl

theorem stores_bytesNew (present : b.bound = some exports) {offset length : UInt32} {fault : Fault}
    (failed : (readBytes offset length).perform b = (.error fault, b₁))
    (held : b₁.bound = some exports) :
    Stores exports .handle 0 fault.asFailure b₁ fun call =>
      (serveIntrinsic call .bytesNew [.word offset, .word length]).perform b := by
  have unread : (do
      let data ← readBytes offset length
      return Value.bytes (← inRealm (·.freshIdentity)) data : BridgeAction σ Value).perform b =
        (.error fault, b₁) := by
    rw [Action.perform_bind, failed]
  exact stores_orRaise unread present held rfl fun call b => rfl

/-- What cannot be read is stored once, and zero is yielded, or an error without a message where an
error was to be made. What cannot be written is not stored: the operation fails, and the guest does
not go on. -/
theorem conversions_store_failed_reads (present : b.bound = some exports) :
    (∀ offset length fault b₁, (readText offset length).perform b = (.error fault, b₁) →
      fault.Rejected ∧ b.Converted b₁ ∧
      (Stores exports .handle 0 fault.asFailure b₁ fun call =>
        (serveIntrinsic call .stringNew [.word offset, .word length]).perform b) ∧
      ∀ call, (serveIntrinsic call .errorNew [.word offset, .word length]).perform b = (do
        callUnit call exports.exnStore [(b₁.raising fault.asFailure).1]
        giveError (.general "")).perform (b₁.raising fault.asFailure).2) ∧
    (∀ offset length fault b₁, (readBytes offset length).perform b = (.error fault, b₁) →
      fault.Rejected ∧ b.Converted b₁ ∧
      Stores exports .handle 0 fault.asFailure b₁ fun call =>
        (serveIntrinsic call .bytesNew [.word offset, .word length]).perform b) ∧
    ∀ op ∈ answering, ∀ depth returnPointer handle a b₁,
      (answer (callWithin depth) op handle).perform b = (.ok a, b₁) →
      let args : List Core := [.word returnPointer, .word handle]
      let served := (serveIntrinsic (callWithin depth) op args).perform b
      (a.Fits b₁.machine.memory returnPointer ∧ ∃ left, served = (.ok [], left) ∧
        b₁.Rewritten left) ∨
      (¬ a.Fits b₁.machine.memory returnPointer ∧ ∃ fault left, served = (.error fault, left) ∧
        fault.Rejected ∧ b₁.Rewritten left ∧
        ∀ index (next : List Core → Code σ (List Core)),
          b.machine.bindings[index]? = some (.intrinsic op) →
          ((Code.call index args next).run (serveImport (callWithin depth))).perform b =
            (.error fault, left)) := by
  refine ⟨fun offset length fault b₁ failed => ?_, fun offset length fault b₁ failed => ?_,
    fun op member depth returnPointer handle a b₁ answered => ?_⟩
  · have changed : b.Converted b₁ := (converted_readText offset length).ended failed
    have held : b₁.bound = some exports := changed.wired.2.1.trans present
    exact ⟨rejected_readText present failed, changed, stores_stringNew present failed held,
      perform_errorNew present failed held⟩
  · have changed : b.Converted b₁ := (converted_readBytes offset length).ended failed
    have held : b₁.bound = some exports := changed.wired.2.1.trans present
    exact ⟨rejected_readBytes present failed, changed, stores_bytesNew present failed held⟩
  · intro args served
    rcases answers_or_fails present member answered with done | ⟨unfit, fault, left, failed, rest⟩
    · exact .inl done
    · refine .inr ⟨unfit, fault, left, failed, rest.1, rest.2, fun index next wired => ?_⟩
      apply Code.call_fails
      rw [perform_serveImport wired]
      exact failed

end BridgeAction

open BridgeAction

/-- Text behind the end of memory is read, and the pair of a value that is no string is to go to an
offset between words. -/
theorem conversions_store_failed_reads_relay :
    let b := Relay.started {} [.stringGet, .errorNew]
    b.bound = some Relay.exports ∧
      (∃ fault b₁, (readText 65535 9).perform b = (.error fault, b₁) ∧
        Stores Relay.exports .handle 0 fault.asFailure b₁ fun call =>
          (serveIntrinsic call .stringNew [.word 65535, .word 9]).perform b) ∧
      ¬ (Answer.pair 0 0).Fits b.machine.memory 2 ∧
        ∃ fault left, fault.Rejected ∧
          (serveIntrinsic (callWithin 8) .stringGet [.word 2, .word 0]).perform b =
            (.error fault, left) := by
  intro b
  have present : b.bound = some Relay.exports := by rfl
  have unfit : ¬ (Answer.pair 0 0).Fits b.machine.memory 2 :=
    fun fits => absurd fits.1.aligned (by decide)
  have answered : (answer (callWithin 8) .stringGet 0).perform b = (.ok (.pair 0 0), b) := by rfl
  obtain ⟨texts, -, answers⟩ := conversions_store_failed_reads present
  obtain ⟨-, -, stored, -⟩ := texts 65535 9 (.outOfBounds 65535 9 65536) _ rfl
  refine ⟨present, ⟨_, _, rfl, stored⟩, unfit, ?_⟩
  have member : Intrinsic.stringGet ∈ answering := by decide
  rcases answers .stringGet member 8 2 0 _ _ answered with
    ⟨fits, -⟩ | ⟨-, fault, left, served, rejected, -⟩
  · exact absurd fits unfit
  · exact ⟨fault, left, rejected, served⟩

/-- A bad return pointer ends the guest's call, with nothing stored, and an error whose message
cannot be read is made nevertheless. -/
theorem conversions_trap_or_go_on :
    let b := Relay.started {} [.stringGet, .errorNew]
    let got := (callDynamic "string_get" [.word 2, .word 0]).perform b
    let failed := (callDynamic "error_new" [.word 65535, .word 9]).perform b
    b.Reachable .empty ∧ got.1 = .error (.misaligned 2 4) ∧ got.2.host.journal = #[] ∧
      got.2.handles.liveCount = 0 ∧ failed.1 = .ok [.word 5] ∧
        failed.2.host.journal = #[.words "exn" []] :=
  ⟨Relay.reachable_started .., rfl, rfl, rfl, by decide +kernel, by decide +kernel⟩

end GuestBridge

import GuestBridge.Proofs.Intrinsics.Conversions
import GuestBridge.Proofs.Memory.Access
/-!
What an answer leaves behind a return pointer. It has two parts, each with a place of its own that
is checked when its turn comes: the first part stays where there is no place for the second.
-/

set_option autoImplicit false

namespace GuestBridge

open GuestBridge.Action (Along)
open GuestBridge.Memory (Cell)

variable {σ : Type}

namespace BridgeAction

namespace Answer

def head : Answer → UInt32
  | .pair pointer _ => pointer
  | .number x? => if x?.isSome then 1 else 0

def cell : Answer → Cell
  | .pair .. => .word
  | .number _ => .double

def rest : (a : Answer) → a.cell.Value
  | .pair _ length => length
  | .number x? => x?.getD .zero

/-- Where the rest goes. The sum goes round where there are no more addresses. -/
def place (a : Answer) (returnPointer : UInt32) : UInt32 := returnPointer + a.cell.width

def store (a : Answer) (returnPointer : UInt32) : Action Memory Unit := do
  Cell.word.store returnPointer a.head
  a.cell.store (a.place returnPointer) a.rest

/-- The rest has its place, behind the first word or, if that word is among the last addresses, at
the first of all. -/
structure Uncut (a : Answer) (m : Memory) (returnPointer : UInt32) : Prop where
  aligned : a.cell.align.toNat ∣ returnPointer.toNat
  room : returnPointer.toNat + 2 * a.cell.width.toNat ≤ m.size ∨
    returnPointer.toNat + a.cell.width.toNat = UInt32.size

/-- The word is stored and nothing else is. -/
structure Headed (a : Answer) (returnPointer : UInt32) (m m' : Memory) : Prop where
  size : m'.size = m.size
  held : Cell.word.read m' returnPointer = .ok a.head
  besides : ∀ (other : Cell) (offset : UInt32), Cell.word.Apart returnPointer other offset →
    other.read m' offset = other.read m offset

/-- What storing an answer comes to: both parts, or none, or the word alone. -/
structure Answered (a : Answer) (returnPointer : UInt32) (m : Memory) (outcome : Except Fault Unit)
    (m' : Memory) : Prop where
  size : m'.size = m.size
  done : outcome = .ok () ↔ Cell.word.Inside m returnPointer ∧ a.Uncut m returnPointer
  stored : outcome = .ok () → Cell.word.read m' returnPointer = .ok a.head ∧
    a.cell.read m' (a.place returnPointer) = .ok a.rest
  aside : ∀ (other : Cell) (offset : UInt32), Cell.word.Apart returnPointer other offset →
    a.cell.Apart (a.place returnPointer) other offset → other.read m' offset = other.read m offset
  nothing : ¬ Cell.word.Inside m returnPointer → m' = m
  cut : Cell.word.Inside m returnPointer → ¬ a.Uncut m returnPointer → a.Headed returnPointer m m'

variable {a : Answer} {m m₁ : Memory} {returnPointer : UInt32}

theorem fits_head (a : Answer) : Cell.word.Fits a.head := trivial

theorem fits_rest (a : Answer) : a.cell.Fits a.rest := by
  cases a <;> trivial

theorem width_cell (a : Answer) : a.cell.width.toNat = 4 ∨ a.cell.width.toNat = 8 := by
  cases a with
  | pair pointer length => exact .inl rfl
  | number x? => exact .inr rfl

theorem align_cell (a : Answer) : a.cell.align = a.cell.width := by
  cases a <;> rfl

theorem toNat_place (a : Answer) (returnPointer : UInt32) : (a.place returnPointer).toNat =
    (returnPointer.toNat + a.cell.width.toNat) % 2 ^ 32 :=
  UInt32.toNat_add ..

theorem place_cases (a : Answer) (returnPointer : UInt32) :
    (a.place returnPointer).toNat = returnPointer.toNat + a.cell.width.toNat ∨
    UInt32.size ≤ returnPointer.toNat + a.cell.width.toNat ∧ (a.place returnPointer).toNat < 8 := by
  have place := a.toNat_place returnPointer
  have below := returnPointer.toNat_lt
  have size : UInt32.size = 2 ^ 32 := rfl
  rcases a.width_cell with four | eight <;> omega

theorem room_behind {width here behind size : Nat} (wide : width = 4 ∨ width = 8)
    (aligned : 4 ∣ here) (below : here < 2 ^ 32) (room : here + 4 ≤ size)
    (next : behind = (here + width) % 2 ^ 32) :
    (width ∣ behind ∧ behind + width ≤ size) ↔
      width ∣ here ∧ (here + 2 * width ≤ size ∨ here + width = 2 ^ 32) := by
  rcases wide with rfl | rfl <;> omega

/-- Once there is a place for the word, there is one for the rest just if it is uncut. -/
theorem inside_rest_iff (inside : Cell.word.Inside m returnPointer) :
    a.cell.Inside m (a.place returnPointer) ↔ a.Uncut m returnPointer := by
  have room := room_behind a.width_cell inside.aligned returnPointer.toNat_lt inside.room
    (a.toNat_place returnPointer)
  have multiples : a.cell.align.toNat = a.cell.width.toNat := congrArg _ a.align_cell
  constructor
  · rintro ⟨aligned, within⟩
    rw [multiples] at aligned
    obtain ⟨aligned, within⟩ := room.1 ⟨aligned, within⟩
    exact ⟨multiples ▸ aligned, within⟩
  · rintro ⟨aligned, within⟩
    rw [multiples] at aligned
    obtain ⟨aligned, within⟩ := room.2 ⟨aligned, within⟩
    exact ⟨multiples ▸ aligned, within⟩

/-- The rest does not run into the word, not even from the first address. -/
theorem apart_rest (aligned : 4 ∣ returnPointer.toNat) :
    a.cell.Apart (a.place returnPointer) .word returnPointer := by
  have place := a.toNat_place returnPointer
  have below := returnPointer.toNat_lt
  rintro i ⟨⟨behind, within⟩, here, near⟩
  change i < returnPointer.toNat + 4 at near
  rcases a.width_cell with four | eight <;> omega

theorem headed_store (inside : Cell.word.Inside m returnPointer) : a.Headed returnPointer m
    (m.store returnPointer.toNat (Cell.word.encode a.head)) where
  size := Memory.size_store ..
  held := Cell.read_stored a.fits_head inside
  besides _ _ apart := Cell.read_apart a.fits_head inside apart

theorem Headed.answered (headed : a.Headed returnPointer m m₁)
    (inside : Cell.word.Inside m returnPointer) :
    a.Answered returnPointer m ((a.cell.store (a.place returnPointer) a.rest).perform m₁).1
      ((a.cell.store (a.place returnPointer) a.rest).perform m₁).2 := by
  have uncut_iff : a.cell.Inside m₁ (a.place returnPointer) ↔ a.Uncut m returnPointer := by
    rw [← inside_rest_iff inside]
    exact ⟨fun within => within.of_size headed.size.symm, fun within => within.of_size headed.size⟩
  rcases @Cell.store_cases _ m₁ (a.place returnPointer) _ a.fits_rest with
    ⟨within, done⟩ | ⟨without, fault, failed⟩
  · have kept {other : Cell} {offset : UInt32}
        (apart : a.cell.Apart (a.place returnPointer) other offset) :=
      Cell.read_apart a.fits_rest within apart
    rw [done]
    exact {
      size := (Memory.size_store ..).trans headed.size
      done := iff_of_true rfl ⟨inside, uncut_iff.1 within⟩
      stored := fun _ => ⟨(kept (apart_rest inside.aligned)).trans headed.held,
        Cell.read_stored a.fits_rest within⟩
      aside := fun other offset first second =>
        (kept second).trans (headed.besides other offset first)
      nothing := fun outside => absurd inside outside
      cut := fun _ short => absurd (uncut_iff.1 within) short }
  · rw [failed]
    exact {
      size := headed.size
      done := iff_of_false nofun fun both => without (uncut_iff.2 both.2)
      stored := nofun
      aside := fun other offset apart _ => headed.besides other offset apart
      nothing := fun outside => absurd inside outside
      cut := fun _ _ => headed }

theorem answered_store (a : Answer) (returnPointer : UInt32) (m : Memory) :
    a.Answered returnPointer m ((a.store returnPointer).perform m).1
      ((a.store returnPointer).perform m).2 := by
  rcases @Cell.store_cases _ m returnPointer _ a.fits_head with
    ⟨inside, done⟩ | ⟨outside, fault, failed⟩
  · rw [store, Action.perform_bind_ok _ _ done]
    exact (headed_store inside).answered inside
  · rw [store, Action.perform_bind, failed]
    exact {
      size := rfl
      done := iff_of_false nofun fun both => outside both.1
      stored := nofun
      aside := fun _ _ _ _ => rfl
      nothing := fun _ => rfl
      cut := fun inside => absurd inside outside }

end Answer

variable {exports : BoundExports σ} {b b₁ : Bridge σ}

/-- Nothing changes but views and memory, and memory as by an operation on it alone. -/
def InMemory (store : Action Memory Unit) (b : Bridge σ) (ended : Except Fault Unit × Bridge σ) :
    Prop :=
  ∃ views, ended = ((store.perform b.machine.memory).1, { b with
    views := views
    machine := { b.machine with memory := (store.perform b.machine.memory).2 } })

theorem InMemory.andThen {first second : BridgeAction σ Unit} {one two : Action Memory Unit}
    (starts : InMemory one b (first.perform b))
    (goesOn : ∀ b₁, b₁.bound = b.bound → InMemory two b₁ (second.perform b₁)) :
    InMemory (do one; two) b ((do first; second : BridgeAction σ Unit).perform b) := by
  obtain ⟨views, starts⟩ := starts
  rw [InMemory, Action.perform_bind, Action.perform_bind, starts]
  rcases one.perform b.machine.memory with ⟨fault | done, m⟩
  · exact ⟨views, rfl⟩
  · exact goesOn { b with views := views, machine := { b.machine with memory := m } } rfl

theorem inMemory_store (cell : Cell) (offset : UInt32) (v : cell.Value) (b : Bridge σ) :
    InMemory (cell.store offset v) b ((do
      setMemory (← Action.conclude (cell.write (← get).machine.memory offset v)) :
        BridgeAction σ Unit).perform b) := by
  refine ⟨b.views, ?_⟩
  rw [Action.perform_bind_ok _ _ (Action.perform_get b), Action.perform_bind,
    Action.perform_conclude, Cell.perform_store]
  cases cell.write b.machine.memory offset v <;> rfl

theorem inMemory_writeCell (present : b.bound = some exports) (kind : ViewKind) (cell : Cell)
    (offset : UInt32) (v : cell.Value) : InMemory (cell.store offset v) b ((do
      setMemory (← Action.conclude (cell.write (← view kind) offset v)) :
        BridgeAction σ Unit).perform b) := by
  rw [Action.perform_bind_ok _ _ (perform_view present kind)]
  exact inMemory_store cell offset v { b with views := b.views.lookup kind b.machine.memory }

/-- One lookup of the view is enough for both words. -/
theorem perform_writePair_inTurn (returnPointer first second : UInt32) (b : Bridge σ) :
    (writePair returnPointer first second).perform b = (do
      writeWord returnPointer first
      setMemory (← Action.conclude
        (Cell.word.write (← get).machine.memory (returnPointer + 4) second)) :
          BridgeAction σ Unit).perform b := by
  rw [writePair, writeWord, bind_assoc]
  refine Action.perform_bind_congr fun m b₁ _ => ?_
  rw [bind_assoc, Action.perform_bind, Action.perform_bind, Action.perform_conclude]
  cases m.writeWord returnPointer first <;> rfl

theorem Answer.inMemory_write (present : b.bound = some exports) (a : Answer)
    (returnPointer : UInt32) :
    InMemory (a.store returnPointer) b ((a.write returnPointer).perform b) := by
  cases a with
  | pair pointer length =>
    rw [write, perform_writePair_inTurn]
    exact (inMemory_writeCell present .words .word returnPointer pointer).andThen
      fun b₁ same => inMemory_store .word (returnPointer + 4) length b₁
  | number x? =>
    exact (inMemory_writeCell present .words .word returnPointer _).andThen
      fun b₁ same => inMemory_writeCell (same.trans present) .doubles .double _ _

theorem answered_write (present : b.bound = some exports) (a : Answer) (returnPointer : UInt32) :
    ∃ outcome left, (a.write returnPointer).perform b = (outcome, left) ∧ b.Rewritten left ∧
      a.Answered returnPointer b.machine.memory outcome left.machine.memory := by
  obtain ⟨views, written⟩ := a.inMemory_write present returnPointer
  have answered := a.answered_store returnPointer b.machine.memory
  exact ⟨_, _, written, ⟨views, _, answered.size, rfl⟩, answered⟩

/-- Nothing is returned but what is in memory. -/
theorem answered_return (present : b.bound = some exports) {a : Answer} {returnPointer : UInt32}
    {served : Except Fault (List Core) × Bridge σ}
    (same : served = (do
      a.write returnPointer
      return [] : BridgeAction σ (List Core)).perform b) :
    ∃ outcome left, served = (Except.map (fun _ => []) outcome, left) ∧ b.Rewritten left ∧
      a.Answered returnPointer b.machine.memory outcome left.machine.memory := by
  obtain ⟨outcome, left, written, rest⟩ := answered_write present a returnPointer
  refine ⟨outcome, left, ?_, rest⟩
  rw [same, Action.perform_bind, written]
  cases outcome <;> rfl

/-- A text that a host function yields, or that there is none. -/
def answerText (call : GuestCaller σ) : Option String → BridgeAction σ Answer
  | none => return .pair 0 0
  | some s => do
    let (pointer, length) ← passText call s
    return .pair pointer length

theorem lower_text (call : GuestCaller σ) (returnPointer : UInt32) (s? : Option String) :
    lower call returnPointer (.text s?) = (do
      let a ← answerText call s?
      a.write returnPointer
      return []) := by
  cases s? with
  | none => rfl
  | some s =>
    rw [lower, answerText, bind_assoc]
    rfl

theorem leads_answerText {call : GuestCaller σ} (calls : ∀ f args, Along Passage (call f args))
    (s? : Option String) : Along Passage (answerText call s?) := by
  cases s? with
  | none => exact .pure _
  | some s => exact .bind (leads_passText calls s) fun _ => .pure _

/-- What goes to a return pointer, from wherever it comes, is stored one part after the other. An
operation that fails has stored nothing if there is no place for the word, but leaves the word if
there is none for the rest. The place of the rest is at the first address where the sum would be
none, or close behind it. -/
theorem answers_stored_part_by_part (present : b.bound = some exports) :
    (∀ (a : Answer) (returnPointer : UInt32),
      ∃ outcome left, (a.write returnPointer).perform b = (outcome, left) ∧ b.Rewritten left ∧
        a.Answered returnPointer b.machine.memory outcome left.machine.memory) ∧
    (∀ op ∈ answering, ∀ depth returnPointer handle a b₁,
      (answer (callWithin depth) op handle).perform b = (.ok a, b₁) →
      ∃ outcome left,
        (serveIntrinsic (callWithin depth) op [.word returnPointer, .word handle]).perform b =
          (Except.map (fun _ => []) outcome, left) ∧ b₁.Rewritten left ∧
        a.Answered returnPointer b₁.machine.memory outcome left.machine.memory) ∧
    (∀ s? depth returnPointer a b₁,
      (answerText (callWithin depth) s?).perform b = (.ok a, b₁) →
      ∃ outcome left,
        (lower (callWithin depth) returnPointer (.text s?)).perform b =
          (Except.map (fun _ => []) outcome, left) ∧ b₁.Rewritten left ∧
        a.Answered returnPointer b₁.machine.memory outcome left.machine.memory) ∧
    ∀ (a : Answer) (returnPointer : UInt32),
      (a.place returnPointer).toNat = returnPointer.toNat + a.cell.width.toNat ∨
      UInt32.size ≤ returnPointer.toNat + a.cell.width.toNat ∧
        (a.place returnPointer).toNat < 8 := by
  refine ⟨answered_write present, fun op member depth returnPointer handle a b₁ answered => ?_,
    fun s? depth returnPointer a b₁ answered => ?_, Answer.place_cases⟩
  · have passage : Passage b b₁ := (leads_answer (leads_callWithin depth) op handle).ended answered
    obtain ⟨-, -, bound, -⟩ := passage.wired
    exact answered_return (bound.trans present) (perform_serve_answer present member answered)
  · have passage : Passage b b₁ := (leads_answerText (leads_callWithin depth) s?).ended answered
    obtain ⟨-, -, bound, -⟩ := passage.wired
    apply answered_return (bound.trans present)
    rw [lower_text, Action.perform_bind_ok _ _ answered]

end BridgeAction

open BridgeAction

/-- A guest that has been given a number, which it may look at. -/
def Relay.looking : Bridge Unit :=
  (Relay.started {} [.numberNew, .numberGet]).after (.callDynamic "number_new" [.double .zero])

theorem answers_stored_part_by_part_relay :
    Relay.looking.bound = some Relay.exports ∧
      Intrinsic.numberGet ∈ answering ∧
      (answer (callWithin 8) .numberGet 4).perform Relay.looking =
        (.ok (.number (some .zero)), Relay.looking) ∧
      ∃ fault left, (serveIntrinsic (callWithin 8) .numberGet [.word 4, .word 4]).perform
        Relay.looking = (.error fault, left) ∧ left.machine.memory.readWord 4 = .ok 1 := by
  have present : Relay.looking.bound = some Relay.exports := by rfl
  have member : Intrinsic.numberGet ∈ answering := by decide
  have answered : (answer (callWithin 8) .numberGet 4).perform Relay.looking =
      (.ok (.number (some .zero)), Relay.looking) := by rfl
  refine ⟨present, member, answered, ?_⟩
  obtain ⟨-, operations, -, -⟩ := answers_stored_part_by_part present
  obtain ⟨outcome, left, served, -, stored⟩ := operations _ member 8 4 4 _ _ answered
  have inside : Cell.word.Inside Relay.looking.machine.memory 4 := ⟨by decide, by decide⟩
  have short : ¬ (Answer.number (some .zero)).Uncut Relay.looking.machine.memory 4 :=
    fun uncut => absurd uncut.aligned (by decide)
  obtain ⟨-, head, -⟩ := stored.cut inside short
  cases outcome with
  | ok done => exact absurd (stored.done.1 rfl).2 short
  | error fault => exact ⟨fault, left, served, head⟩

/-- The word says that there is a number, which has no place; and the first word of a pair is the
last of the memory. -/
theorem answer_stored_in_part :
    let m := Relay.looking.machine.memory
    let looked := (callDynamic "number_get" [.word 4, .word 4]).perform Relay.looking
    Relay.looking.Reachable .empty ∧ m.readWord 4 = .ok 0 ∧ m.readWord 65532 = .ok 0 ∧
      looked.1 = .error (.misaligned 12 8) ∧ looked.2.machine.memory.readWord 4 = .ok 1 ∧
      ∃ fault left, (writePair 65532 7 9).perform Relay.looking = (.error fault, left) ∧
        left.machine.memory.readWord 65532 = .ok 7 := by
  intro m looked
  refine ⟨.asked _ (Relay.reachable_started ..), by decide +kernel, by decide +kernel,
    by decide +kernel, by decide +kernel, ?_⟩
  have present : Relay.looking.bound = some Relay.exports := by rfl
  have inside : Cell.word.Inside m 65532 := ⟨by decide, by decide⟩
  have short : ¬ (Answer.pair 7 9).Uncut m 65532 := fun uncut => absurd uncut.room (by decide)
  obtain ⟨outcome, left, written, -, stored⟩ := answered_write present (.pair 7 9) 65532
  obtain ⟨-, head, -⟩ := stored.cut inside short
  cases outcome with
  | ok done => exact absurd (stored.done.1 rfl).2 short
  | error fault => exact ⟨fault, left, written, head⟩

end GuestBridge

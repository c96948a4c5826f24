import GuestBridge.Bridge.Access
import GuestBridge.Proofs.Text.Transfer
import GuestBridge.Sample.Arena
/-!
A transfer keeps to the block that it asked for. What it does to its allocator is noted, and each
deed is measured against those before it, whatever the allocator answers.
-/

set_option autoImplicit false

namespace GuestBridge

open Text.Utf8 (encode units16 asciiLength afterAscii)

namespace Allocator

variable {σ α : Type}

/-- What is done to an allocator. -/
inductive Deed
  /-- Memory is asked for, instead of a block that is given by pointer and size, if there is one;
  `after` is the memory that is there then. -/
  | ask (old? : Option (UInt32 × UInt32)) (size : UInt32) (answer : Except Fault UInt32)
      (after : Memory)
  | write (target : UInt32) (data : List UInt8) (answer : Except Fault Unit)
      (before after : Memory)

namespace Deed

def fault? : Deed → Option Fault
  | .ask _ _ (.error fault) _ | .write _ _ (.error fault) _ _ => some fault
  | _ => none

def after : Deed → Memory
  | .ask _ _ _ after | .write _ _ _ _ after => after

end Deed

/-- Notes an operation in a log, the latest one first. -/
def noting (act : Action σ α) (deed : Except Fault α → σ → σ → Deed) :
    Action (σ × List Deed) α := fun (s, log) =>
  let (answer, s') := act.perform s
  (answer, s', deed answer s s' :: log)

/-- The allocator under the eyes of an onlooker who sees the memory of each state. -/
def noted (alloc : Allocator σ) (memory : σ → Memory) : Allocator (σ × List Deed) where
  malloc size align := noting (alloc.malloc size align) fun answer _ s' =>
    .ask none size answer (memory s')
  realloc? := alloc.realloc?.map fun realloc pointer old new align =>
    noting (realloc pointer old new align) fun answer _ s' =>
      .ask (some (pointer, old)) new answer (memory s')
  write target data := noting (alloc.write target data) fun answer s s' =>
    .write target data answer (memory s) (memory s')

/-- Pointer and size of the block that was granted last. -/
def block? : List Deed → Option (UInt32 × UInt32)
  | [] => none
  | .ask _ size (.ok pointer) _ :: _ => some (pointer, size)
  | _ :: past => block? past

/-- How often a block was to be replaced. -/
def moves : List Deed → Nat
  | [] => 0
  | .ask (some _) .. :: past => moves past + 1
  | _ :: past => moves past

/-- What may be done next. A block is replaced under its own size, the second time by one that is no
larger. Bytes go into the block, and into memory as it is, or not at all. -/
def Deed.Allowed (past : List Deed) : Deed → Prop
  | .ask none .. => past = []
  | .ask (some (pointer, old)) size _ _ =>
    block? past = some (pointer, old) ∧ (0 < moves past → size.toNat ≤ old.toNat)
  | .write target data answer before after =>
    (∃ pointer size, block? past = some (pointer, size) ∧ pointer.toNat ≤ target.toNat ∧
      target.toNat + data.length ≤ pointer.toNat + size.toNat) ∧
    (answer = .ok () → before.write target data = .ok after) ∧
    (answer ≠ .ok () → after = before)

/-- Bytes at a pointer that reach beyond the memory, or beyond the addresses of 32 bits where the
memory keeps to them. -/
def Leaves (m : Memory) (pointer : UInt32) (length : Nat) : Prop :=
  m.size < pointer.toNat + length ∨
    UInt32.size < pointer.toNat + length ∧ m.size ≤ UInt32.size

/-- A block is granted from which the bytes that it is for would stick out: `front` in the first
one, and `whole` when it is replaced for the first time. -/
def Deed.Stray (front whole : List UInt8) (past : List Deed) : Deed → Prop
  | .ask none _ (.ok pointer) after => Leaves after pointer front.length
  | .ask (some _) _ (.ok pointer) after => moves past = 0 ∧ Leaves after pointer whole.length
  | _ => False

/-- What there is to tell of a transfer of `whole`, of which `front` goes into the first block, when
it has come to an outcome. -/
structure Told (front whole : List UInt8) (outcome : Except Fault (UInt32 × UInt32)) (m : Memory)
    (log : List Deed) : Prop where
  allowed : ∀ deed past, deed :: past <:+ log → deed.Allowed past
  /-- The first failure is the end. -/
  failed : ∀ deed past fault, deed :: past <:+ log → deed.fault? = some fault →
    deed :: past = log ∧ outcome = .error fault
  /-- Nothing is stored behind a stray pointer. -/
  stray : ∀ deed past, deed :: past <:+ log → deed.Stray front whole past →
    (∃ fault, outcome = .error fault) ∧ m = deed.after
  /-- A block that was replaced once is replaced a second time. -/
  returned : ∀ pointer length, outcome = .ok (pointer, length) →
    length.toNat = whole.length ∧ moves log ≠ 1 ∧
      ∃ size, block? log = some (pointer, size) ∧ length.toNat ≤ size.toNat

section Logs

variable {front whole : List UInt8} {deed : Deed} {log past : List Deed} {fault : Fault}
  {m : Memory}

theorem Leaves.beyond {pointer : UInt32} {length : Nat} (leaves : Leaves m pointer length) :
    m.size < pointer.toNat + length := by
  rcases leaves with beyond | ⟨beyond, small⟩
  · exact beyond
  · exact Nat.lt_of_le_of_lt small beyond

theorem Deed.Stray.fault?_eq (stray : deed.Stray front whole past) : deed.fault? = none := by
  cases deed with
  | ask old? size answer after =>
    cases answer with
    | ok => rfl
    | error => rcases old? with _ | _ <;> exact stray.elim
  | write => exact stray.elim

/-- At every moment of a log. -/
def Each (P : Deed → List Deed → Prop) (log : List Deed) : Prop :=
  ∀ deed past, deed :: past <:+ log → P deed past

variable {P Q : Deed → List Deed → Prop}

theorem each_nil : Each P [] := by simp [Each]

theorem Each.cons (before : Each P past) (now : P deed past) : Each P (deed :: past) := by
  intro other earlier suffix
  rcases List.suffix_cons_iff.1 suffix with same | old
  · cases same
    exact now
  · exact before other earlier old

theorem Each.imp (each : Each P log) (weaker : ∀ deed past, P deed past → Q deed past) :
    Each Q log :=
  fun deed past suffix => weaker deed past (each deed past suffix)

/-- So far everything has gone well. -/
def Smooth (front whole : List UInt8) : List Deed → Prop :=
  Each fun deed past =>
    deed.Allowed past ∧ deed.fault? = none ∧ ¬ deed.Stray front whole past

theorem smooth_nil (front whole : List UInt8) : Smooth front whole [] := each_nil

/-- What must hold of each deed for the transfer to end in a failure. -/
def Deed.Ends (front whole : List UInt8) (fault : Fault) (m : Memory) (log : List Deed)
    (deed : Deed) (past : List Deed) : Prop :=
  deed.Allowed past ∧ (∀ f, deed.fault? = some f → deed :: past = log ∧ f = fault) ∧
    (deed.Stray front whole past → m = deed.after)

theorem Each.told (ends : Each (Deed.Ends front whole fault m log) log) :
    Told front whole (.error fault) m log where
  allowed deed past suffix := (ends deed past suffix).1
  failed deed past f suffix failed := by
    obtain ⟨last, rfl⟩ := (ends deed past suffix).2.1 f failed
    exact ⟨last, rfl⟩
  stray deed past suffix stray := ⟨⟨fault, rfl⟩, (ends deed past suffix).2.2 stray⟩
  returned _ _ done := nomatch done

theorem Smooth.ends (smooth : Smooth front whole past) :
    Each (Deed.Ends front whole fault m log) past :=
  smooth.imp fun _ _ ⟨allowed, fine, inside⟩ =>
    ⟨allowed, fun _ failed => (nomatch fine.symm.trans failed), fun stray => absurd stray inside⟩

/-- The transfer ends by itself. -/
theorem Smooth.stopped (smooth : Smooth front whole log) :
    Told front whole (.error fault) m log :=
  smooth.ends.told

/-- The last deed ends the transfer: it fails, or what it grants is of no use. -/
theorem Smooth.ended (smooth : Smooth front whole past) (allowed : deed.Allowed past)
    (same : ∀ f, deed.fault? = some f → f = fault) (still : m = deed.after) :
    Told front whole (.error fault) m (deed :: past) :=
  (smooth.ends.cons ⟨allowed, fun f failed => ⟨rfl, same f failed⟩, fun _ => still⟩).told

/-- What is granted turns out to be of no use: bytes cannot be written there. -/
theorem Smooth.refused {write : Deed} (smooth : Smooth front whole past)
    (allowed : deed.Allowed past) (fine : deed.fault? = none)
    (next : write.Allowed (deed :: past)) (failed : write.fault? = some fault)
    (still : m = deed.after) :
    Told front whole (.error fault) m (write :: deed :: past) := by
  refine Each.told (.cons (smooth.ends.cons ⟨allowed, fun f failed => ?_, fun _ => still⟩)
    ⟨next, fun f failed' => ?_, fun stray => ?_⟩)
  · cases fine.symm.trans failed
  · exact ⟨rfl, Option.some.inj (failed'.symm.trans failed)⟩
  · cases stray.fault?_eq.symm.trans failed

theorem Smooth.done {pointer length size : UInt32} (smooth : Smooth front whole log)
    (all : length.toNat = whole.length) (moved : moves log ≠ 1)
    (block : block? log = some (pointer, size)) (room : length.toNat ≤ size.toNat) :
    Told front whole (.ok (pointer, length)) m log where
  allowed deed past suffix := (smooth deed past suffix).1
  failed deed past f suffix failed := nomatch (smooth deed past suffix).2.1.symm.trans failed
  stray deed past suffix stray := absurd stray (smooth deed past suffix).2.2
  returned p l done := by
    cases done
    exact ⟨all, moved, size, block, room⟩

end Logs

section Steps

variable {alloc : Allocator σ} {memory : σ → Memory} {front whole : List UInt8}
  {past log : List Deed} {s : σ} {size pointer : UInt32} {old? : Option (UInt32 × UInt32)}

/-- Bytes are put into the memory as it is, or not at all. -/
structure Views (alloc : Allocator σ) (memory : σ → Memory) : Prop where
  stored : ∀ {s s' target data}, (alloc.write target data).perform s = (.ok (), s') →
    (memory s).write target data = .ok (memory s')
  refused : ∀ {s s' target data fault},
    (alloc.write target data).perform s = (.error fault, s') → memory s' = memory s

/-- What there is to tell of a transfer from some state and log on. -/
def Tells (memory : σ → Memory) (front whole : List UInt8)
    (act : Action (σ × List Deed) (UInt32 × UInt32)) (t : σ × List Deed) : Prop :=
  Told front whole (act.perform t).1 (memory (act.perform t).2.1) (act.perform t).2.2

theorem tells_noting {act : Action σ α} {deed : Except Fault α → σ → σ → Deed}
    {next : α → Action (σ × List Deed) (UInt32 × UInt32)}
    (failed : ∀ fault s', act.perform s = (.error fault, s') →
      Told front whole (.error fault) (memory s') (deed (.error fault) s s' :: log))
    (go : ∀ a s', act.perform s = (.ok a, s') →
      Tells memory front whole (next a) (s', deed (.ok a) s s' :: log)) :
    Tells memory front whole (noting act deed >>= next) (s, log) := by
  have noted : (noting act deed).perform (s, log) =
      ((act.perform s).1, (act.perform s).2, deed (act.perform s).1 s (act.perform s).2 :: log) :=
    rfl
  unfold Tells
  rw [Action.perform_bind, noted]
  rcases ended : act.perform s with ⟨fault | a, s'⟩
  · exact failed fault s' ended
  · exact go a s' ended

/-- A count that may not fit in 32 bits. -/
theorem tells_length32 {n : Nat} {next : UInt32 → Action (σ × List Deed) (UInt32 × UInt32)}
    {t : σ × List Deed} (stop : Told front whole (.error .lengthOverflow) (memory t.1) t.2)
    (go : n < UInt32.size → Tells memory front whole (next (UInt32.ofNat n)) t) :
    Tells memory front whole (Action.conclude (length32 n) >>= next) t := by
  unfold Tells
  rw [Action.perform_bind, Action.perform_conclude]
  by_cases few : n < UInt32.size
  · rw [length32_ok few]
    exact go few
  · rw [length32_error (Nat.not_lt.1 few)]
    exact stop

theorem Smooth.ask (smooth : Smooth front whole log) {act : Action σ UInt32}
    {next : UInt32 → Action (σ × List Deed) (UInt32 × UInt32)}
    (allowed : ∀ answer m, (Deed.ask old? size answer m).Allowed log)
    (go : ∀ pointer s', Tells memory front whole (next pointer)
      (s', .ask old? size (.ok pointer) (memory s') :: log)) :
    Tells memory front whole
      (noting act (fun answer _ s' => .ask old? size answer (memory s')) >>= next) (s, log) :=
  tells_noting
    (fun _ _ _ => smooth.ended (allowed _ _) (fun _ same => Option.some.inj same.symm) rfl)
    fun pointer s' _ => go pointer s'

/-- Bytes that go into a block just granted. -/
theorem Smooth.write (views : alloc.Views memory) (smooth : Smooth front whole past)
    {target : UInt32} {data : List UInt8}
    {next : Unit → Action (σ × List Deed) (UInt32 × UInt32)}
    (allowed : (Deed.ask old? size (.ok pointer) (memory s)).Allowed past)
    (above : pointer.toNat ≤ target.toNat)
    (room : target.toNat + data.length ≤ pointer.toNat + size.toNat)
    (stray : (Deed.ask old? size (.ok pointer) (memory s)).Stray front whole past →
      (memory s).size < target.toNat + data.length)
    (go : ∀ s', Smooth front whole (.write target data (.ok ()) (memory s) (memory s') ::
        .ask old? size (.ok pointer) (memory s) :: past) →
      Tells memory front whole (next ()) (s', .write target data (.ok ()) (memory s) (memory s') ::
        .ask old? size (.ok pointer) (memory s) :: past)) :
    Tells memory front whole
      (noting (alloc.write target data)
        (fun answer s s' => .write target data answer (memory s) (memory s')) >>= next)
      (s, .ask old? size (.ok pointer) (memory s) :: past) := by
  have block : block? (.ask old? size (.ok pointer) (memory s) :: past) = some (pointer, size) :=
    rfl
  refine tells_noting (fun fault s' ended => ?_) fun _ s' ended => ?_
  · have same := views.refused ended
    refine smooth.refused allowed rfl ⟨⟨pointer, size, block, above, room⟩, fun wrong => ?_, ?_⟩
      rfl same
    · cases wrong
    · exact fun _ => same
  · have stored := views.stored ended
    obtain ⟨-, inside, -⟩ := Memory.write_inv stored
    have granted : Smooth front whole (.ask old? size (.ok pointer) (memory s) :: past) :=
      Each.cons smooth ⟨allowed, rfl, fun astray => by have := stray astray; omega⟩
    refine go s' (granted.cons ⟨⟨⟨pointer, size, block, above, room⟩, ?_, ?_⟩, rfl, id⟩)
    · exact fun _ => stored
    · exact fun wrong => absurd rfl wrong

theorem tells_writeBytes (views : alloc.Views memory) (data : List UInt8) (s : σ) :
    Tells memory data data ((alloc.noted memory).writeBytes data) (s, []) := by
  unfold writeBytes
  refine tells_length32 (smooth_nil data data).stopped fun few => ?_
  have count : (UInt32.ofNat data.length).toNat = data.length := UInt32.toNat_ofNat_of_lt few
  refine (smooth_nil data data).ask (fun _ _ => rfl) fun pointer s' => ?_
  refine (smooth_nil data data).write views rfl (Nat.le_refl _) (by omega)
    (fun stray => Leaves.beyond stray) fun s'' smooth => ?_
  exact smooth.done count Nat.zero_ne_one rfl (Nat.le_refl _)

/-- A text on its way through blocks that can be replaced. -/
theorem writeText_movable {realloc : UInt32 → UInt32 → UInt32 → UInt32 → Action σ UInt32}
    (movable : alloc.realloc? = some realloc) (s : String) :
    alloc.writeText s = (do
      let _ ← Action.conclude (length32 (encode s).length)
      let units ← Action.conclude (length32 (units16 s))
      let pointer ← alloc.malloc units 1
      alloc.write pointer ((encode s).take (asciiLength s))
      if asciiLength s = (encode s).length then
        return (pointer, UInt32.ofNat (asciiLength s))
      let worst ← Action.conclude (length32 (units16 (afterAscii s) * 3 + asciiLength s))
      let pointer ← realloc pointer units worst 1
      let tail ← Action.conclude (length32 (pointer.toNat + asciiLength s))
      alloc.write tail ((encode s).drop (asciiLength s))
      let total ← Action.conclude
        (length32 (asciiLength s + ((encode s).drop (asciiLength s)).length))
      let pointer ← realloc pointer worst total 1
      return (pointer, total)) := by
  unfold writeText
  rw [movable]
  rfl

theorem noted_movable {realloc : UInt32 → UInt32 → UInt32 → UInt32 → Action σ UInt32}
    (movable : alloc.realloc? = some realloc) :
    (alloc.noted memory).realloc? = some fun pointer old new align =>
      noting (realloc pointer old new align) fun answer _ s' =>
        .ask (some (pointer, old)) new answer (memory s') := by
  simp only [noted, movable, Option.map_some]

/-- There are as many units as bytes in the leading ASCII part, and one for three bytes at most in
what is left. -/
theorem lengths_bounded (text : String) :
    ((encode text).take (asciiLength text)).length = asciiLength text ∧
    asciiLength text + ((encode text).drop (asciiLength text)).length = (encode text).length ∧
    asciiLength text ≤ units16 text ∧
    (encode text).length ≤ units16 (afterAscii text) * 3 + asciiLength text := by
  have length := Text.Utf8.length_encode text
  have most := Text.Utf8.length_encode_le (afterAscii text)
  have units := Text.Utf8.units16_split text
  rw [List.length_take, List.length_drop]
  omega

theorem tells_writeText_movable (views : alloc.Views memory)
    {realloc : UInt32 → UInt32 → UInt32 → UInt32 → Action σ UInt32}
    (movable : alloc.realloc? = some realloc) (text : String) (s : σ) :
    Tells memory ((encode text).take (asciiLength text)) (encode text)
      ((alloc.noted memory).writeText text) (s, []) := by
  obtain ⟨frontLength, restLength, enough, most⟩ := lengths_bounded text
  rw [writeText_movable (noted_movable movable)]
  generalize front_eq : (encode text).take (asciiLength text) = front at frontLength ⊢
  generalize whole_eq : encode text = whole at *
  have begun := smooth_nil front whole
  refine tells_length32 begun.stopped fun few => ?_
  refine tells_length32 begun.stopped fun short => ?_
  have unitsNat : (UInt32.ofNat (units16 text)).toNat = units16 text :=
    UInt32.toNat_ofNat_of_lt short
  generalize UInt32.ofNat (units16 text) = size at unitsNat ⊢
  -- The leading ASCII part fits in as many bytes as the text has units.
  refine begun.ask (fun _ _ => rfl) fun first s₁ => ?_
  refine begun.write views rfl (Nat.le_refl _) (by omega) (fun stray => Leaves.beyond stray)
    fun s₂ opened => ?_
  split
  · next all =>
    have count : (UInt32.ofNat (asciiLength text)).toNat = asciiLength text :=
      UInt32.toNat_ofNat_of_lt (by omega)
    exact opened.done (count.trans all) Nat.zero_ne_one rfl (by omega)
  · next more =>
    -- What is left takes at most three bytes for each of its units.
    refine tells_length32 opened.stopped fun limit => ?_
    have worstNat := UInt32.toNat_ofNat_of_lt' limit
    generalize UInt32.ofNat (units16 (afterAscii text) * 3 + asciiLength text) = worst
      at worstNat ⊢
    refine opened.ask (fun _ _ => ⟨rfl, fun none => nomatch none⟩) fun moved s₃ => ?_
    refine tells_length32 (opened.ended ⟨rfl, fun none => nomatch none⟩
      (fun _ none => nomatch none) rfl) fun reach => ?_
    have tailNat := UInt32.toNat_ofNat_of_lt' reach
    generalize UInt32.ofNat (moved.toNat + asciiLength text) = tail at tailNat ⊢
    refine opened.write views ⟨rfl, fun none => nomatch none⟩ (by omega) (by omega)
      (fun stray => ?_) fun s₄ filled => ?_
    · have beyond := Leaves.beyond stray.2
      omega
    -- Both parts are the whole, for which there is room.
    refine tells_length32 filled.stopped fun all => ?_
    have totalNat := UInt32.toNat_ofNat_of_lt' all
    generalize UInt32.ofNat (asciiLength text + _) = total at totalNat ⊢
    refine filled.ask (fun _ _ => ⟨rfl, fun _ => by omega⟩) fun last s₅ => ?_
    have shrunk :
        Smooth front whole (.ask (some (moved, worst)) total (.ok last) (memory s₅) :: _) :=
      Each.cons filled ⟨⟨rfl, fun _ => by omega⟩, rfl, fun stray => nomatch stray.1⟩
    exact shrunk.done (by omega) (show 2 ≠ 1 by decide) rfl (Nat.le_refl _)

/-- What goes into the first block: the leading ASCII part, unless the block is there to stay. -/
def opening (alloc : Allocator σ) (text : String) : List UInt8 :=
  match alloc.realloc? with
  | none => encode text
  | some _ => (encode text).take (asciiLength text)

theorem tells_writeText (views : alloc.Views memory) (text : String) (s : σ) :
    Tells memory (alloc.opening text) (encode text) ((alloc.noted memory).writeText text)
      (s, []) := by
  unfold opening
  rcases movable : alloc.realloc? with _ | realloc
  · have unmovable : (alloc.noted memory).realloc? = none := by
      simp only [noted, movable, Option.map_none]
    unfold writeText
    rw [unmovable]
    exact tells_length32 (smooth_nil _ _).stopped fun _ => tells_writeBytes views (encode text) s
  · exact tells_writeText_movable views movable text s

end Steps

end Allocator

namespace Sample.Arena

theorem perform_write (target : UInt32) (data : List UInt8) (s : State) :
    (write target data).perform s =
      match s.memory.write target data with
      | .ok m => (.ok (), { s with memory := m })
      | .error fault => (.error fault, s) := by
  simp only [write, Action.perform_bind, Action.perform_get, Action.perform_conclude]
  cases s.memory.write target data <;> rfl

theorem views_allocator (canRealloc : Bool) : (allocator canRealloc).Views State.memory where
  stored {s s' target data} done := by
    have done : (write target data).perform s = (.ok (), s') := done
    rw [perform_write] at done
    split at done
    · next m written =>
      cases done
      exact written
    · cases done
  refused {s s' target data fault} failed := by
    have failed : (write target data).perform s = (.error fault, s') := failed
    rw [perform_write] at failed
    split at failed
    · cases failed
    · cases failed
      rfl

end Sample.Arena

namespace BridgeAction

variable {σ : Type}

theorem perform_writeBytes (target : UInt32) (data : List UInt8) (b : Bridge σ) :
    (writeBytes target data).perform b =
      match b.bound with
      | none => (.error .notInitialized, b)
      | some _ =>
        let viewed := { b with views := b.views.lookup .bytes b.machine.memory }
        match b.machine.memory.write target data with
        | .ok m => (.ok (), { viewed with machine := { b.machine with memory := m } })
        | .error fault => (.error fault, viewed) := by
  obtain ⟨_, _, _, _, _, _, _, machine, exports?, _, _⟩ := b
  simp only [writeBytes, view, bound, Action.perform_bind, Action.perform_get]
  cases exports? with
  | none => rfl
  | some exports =>
    simp only [Action.perform_pure, Action.perform_set, Action.perform_conclude]
    cases machine.memory.write target data <;> rfl

/-- The guest's own allocator is of this kind, whatever the guest does. -/
theorem views_allocator (call : GuestCaller σ) (exports : BoundExports σ) :
    (allocator call exports).Views fun b => b.machine.memory where
  stored {b b' target data} done := by
    have done : (writeBytes target data).perform b = (.ok (), b') := done
    rw [perform_writeBytes] at done
    split at done
    · cases done
    · simp only at done
      split at done
      · next m written =>
        cases done
        exact written
      · cases done
  refused {b b' target data fault} failed := by
    have failed : (writeBytes target data).perform b = (.error fault, b') := failed
    rw [perform_writeBytes] at failed
    split at failed
    · cases failed
      rfl
    · simp only at failed
      split at failed
      · cases failed
      · cases failed
        rfl

end BridgeAction

namespace Allocator

section Noting

variable {σ α β : Type} {alloc : Allocator σ} {memory : σ → Memory}

/-- An operation that is noted does the same. -/
def Unseen (noted : Action (σ × List Deed) α) (act : Action σ α) : Prop :=
  ∀ s log, ∃ log', noted.perform (s, log) = ((act.perform s).1, (act.perform s).2, log')

theorem unseen_noting (act : Action σ α) (deed : Except Fault α → σ → σ → Deed) :
    Unseen (noting act deed) act := fun _ _ => ⟨_, rfl⟩

theorem unseen_malloc (size align : UInt32) :
    Unseen ((alloc.noted memory).malloc size align) (alloc.malloc size align) :=
  fun _ _ => ⟨_, rfl⟩

theorem unseen_write (target : UInt32) (data : List UInt8) :
    Unseen ((alloc.noted memory).write target data) (alloc.write target data) :=
  fun _ _ => ⟨_, rfl⟩

theorem unseen_pure (a : α) : Unseen (σ := σ) (pure a) (pure a) := fun _ log => ⟨log, rfl⟩

theorem unseen_conclude (outcome : Except Fault α) :
    Unseen (σ := σ) (Action.conclude outcome) (Action.conclude outcome) := fun _ log => ⟨log, rfl⟩

theorem Unseen.bind {noted : Action (σ × List Deed) α} {act : Action σ α}
    {noted' : α → Action (σ × List Deed) β} {act' : α → Action σ β} (first : Unseen noted act)
    (second : ∀ a, Unseen (noted' a) (act' a)) : Unseen (noted >>= noted') (act >>= act') := by
  intro s log
  obtain ⟨log', same⟩ := first s log
  rw [Action.perform_bind, Action.perform_bind, same]
  rcases act.perform s with ⟨fault | a, s'⟩
  · exact ⟨log', rfl⟩
  · exact second a s' log'

theorem unseen_writeBytes (data : List UInt8) :
    Unseen ((alloc.noted memory).writeBytes data) (alloc.writeBytes data) :=
  (unseen_conclude _).bind fun _ => (unseen_malloc _ _).bind fun _ =>
    (unseen_write _ _).bind fun _ => unseen_pure _

theorem unseen_writeText (text : String) :
    Unseen ((alloc.noted memory).writeText text) (alloc.writeText text) := by
  rcases movable : alloc.realloc? with _ | realloc
  · have unmovable : (alloc.noted memory).realloc? = none := by
      simp only [noted, movable, Option.map_none]
    unfold writeText
    rw [movable, unmovable]
    exact (unseen_conclude _).bind fun _ => unseen_writeBytes _
  · rw [writeText_movable movable, writeText_movable (noted_movable movable)]
    refine (unseen_conclude _).bind fun _ => (unseen_conclude _).bind fun _ =>
      (unseen_malloc _ _).bind fun _ => (unseen_write _ _).bind fun _ => ?_
    split
    · exact unseen_pure _
    · exact (unseen_conclude _).bind fun _ => (unseen_noting _ _).bind fun _ =>
        (unseen_conclude _).bind fun _ => (unseen_write _ _).bind fun _ =>
        (unseen_conclude _).bind fun _ => (unseen_noting _ _).bind fun _ => unseen_pure _

theorem Unseen.told {noted : Action (σ × List Deed) (UInt32 × UInt32)}
    {act : Action σ (UInt32 × UInt32)} {front whole : List UInt8} {s : σ}
    (unseen : Unseen noted act) (tells : Tells memory front whole noted (s, [])) :
    ∃ outcome after log, act.perform s = (outcome, after) ∧
      noted.perform (s, []) = (outcome, after, log) ∧
      Told front whole outcome (memory after) log := by
  obtain ⟨log, same⟩ := unseen s []
  unfold Tells at tells
  rw [same] at tells
  exact ⟨_, _, log, rfl, same, tells⟩

/-- Whatever an allocator answers, a transfer stores bytes only in the block that was granted last,
replaces no block but that one, by its own size, and in the end by none that is larger. Where the
bytes would stick out of the memory or of the addresses, it fails and does not store them. The last
pointer is handed on as it is, for nothing is stored there. -/
theorem transfers_keep_to_their_block (views : alloc.Views memory) (s : σ) :
    (∀ text : String, ∃ outcome after log,
      (alloc.writeText text).perform s = (outcome, after) ∧
      ((alloc.noted memory).writeText text).perform (s, []) = (outcome, after, log) ∧
      Told (alloc.opening text) (encode text) outcome (memory after) log) ∧
    (∀ data : List UInt8, ∃ outcome after log,
      (alloc.writeBytes data).perform s = (outcome, after) ∧
      ((alloc.noted memory).writeBytes data).perform (s, []) = (outcome, after, log) ∧
      Told data data outcome (memory after) log) :=
  ⟨fun text => (unseen_writeText text).told (tells_writeText views text s),
    fun data => (unseen_writeBytes data).told (tells_writeBytes views data s)⟩

theorem transfers_keep_to_their_block_fixed :
    (Sample.Arena.allocator true).Views Sample.Arena.State.memory ∧
    ∃ after log,
      (((Sample.Arena.allocator true).noted Sample.Arena.State.memory).writeText "abcé").perform
        (⟨.zeroed 0 16, 0, true, false, some 12, none, []⟩, []) =
          (.error (.outOfBounds 15 2 16), after, log) ∧
      Told ((Sample.Arena.allocator true).opening "abcé") (encode "abcé")
        (.error (.outOfBounds 15 2 16)) after.memory log := by
  have views := Sample.Arena.views_allocator true
  obtain ⟨outcome, after, log, -, noted, told⟩ := (transfers_keep_to_their_block views
    (⟨.zeroed 0 16, 0, true, false, some 12, none, []⟩)).1 "abcé"
  have fails : outcome = .error (.outOfBounds 15 2 16) := by
    refine (congrArg Prod.fst noted).symm.trans ?_
    decide +kernel
  subst fails
  exact ⟨views, after, log, noted, told⟩

end Noting

end Allocator

end GuestBridge

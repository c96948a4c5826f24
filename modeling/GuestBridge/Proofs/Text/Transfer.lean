import GuestBridge.Text.Codec
import GuestBridge.Text.Transfer
import GuestBridge.Proofs.Action
import GuestBridge.Proofs.Memory
import GuestBridge.Proofs.Text.Utf8
/-!
Text and bytes survive the way into memory that a guest allocates. Nothing is asked of the
allocator but that its blocks lie within the memory and that moving one keeps its bytes.
-/

set_option autoImplicit false

namespace GuestBridge

open Text.Utf8 (encode units16 asciiLength afterAscii)

/-- An allocator that grants every request, seen through the memory as it is in each state. A
`Block` of a state is a pointer that was handed out and the size that it was handed out for. -/
structure Allocator.Serves {σ : Type} (alloc : Allocator σ) (memory : σ → Memory)
    (Block : σ → UInt32 → UInt32 → Prop) : Prop where
  inside : ∀ s pointer size, Block s pointer size →
    pointer.toNat + size.toNat ≤ (memory s).size
  /-- All bytes of a block have an address. -/
  reach : ∀ s pointer size, Block s pointer size → pointer.toNat + size.toNat ≤ UInt32.size
  malloc : ∀ s size, ∃ pointer s',
    (alloc.malloc size 1).perform s = (.ok pointer, s') ∧ Block s' pointer size
  realloc : ∀ realloc, alloc.realloc? = some realloc → ∀ s pointer old new, Block s pointer old →
    ∃ moved s', (realloc pointer old new 1).perform s = (.ok moved, s') ∧ Block s' moved new ∧
      (memory s').slice moved.toNat (min old.toNat new.toNat) =
        (memory s).slice pointer.toNat (min old.toNat new.toNat)
  write : ∀ s pointer data m, (memory s).write pointer data = .ok m →
    ∃ s', (alloc.write pointer data).perform s = (.ok (), s') ∧ memory s' = m ∧
      ∀ other size, Block s other size → Block s' other size

namespace Allocator

theorem length32_ok {n : Nat} (few : n < UInt32.size) : length32 n = .ok (UInt32.ofNat n) :=
  if_pos few

theorem length32_error {n : Nat} (many : UInt32.size ≤ n) :
    length32 n = .error .lengthOverflow :=
  if_neg (Nat.not_lt.2 many)

section Transfer

variable {σ : Type} {alloc : Allocator σ} {memory : σ → Memory}
  {Block : σ → UInt32 → UInt32 → Prop}

/-- Bytes written into a block: they are there afterwards, and nothing before them changes. -/
theorem Serves.write_block (serves : alloc.Serves memory Block) {s : σ}
    {pointer size : UInt32} (target : UInt32) (data : List UInt8) (block : Block s pointer size)
    (above : pointer.toNat ≤ target.toNat)
    (room : target.toNat + data.length ≤ pointer.toNat + size.toNat) :
    ∃ s', (alloc.write target data).perform s = (.ok (), s') ∧ Block s' pointer size ∧
      (memory s').slice target.toNat data.length = data ∧
      ∀ start length, start + length ≤ target.toNat →
        (memory s').slice start length = (memory s).slice start length := by
  have inside := serves.inside s pointer size block
  have few : data.length < UInt32.size := by
    have reach := serves.reach s pointer size block
    have := size.toNat_lt
    have limit : UInt32.size = 2 ^ 32 := rfl
    omega
  have fits : target.toNat + data.length ≤ (memory s).size := by omega
  obtain ⟨s', done, same, kept⟩ :=
    serves.write s target data _ (Memory.write_ok few fits)
  refine ⟨s', done, kept pointer size block, ?_, fun start length before => ?_⟩
  · rw [same]
    exact Memory.slice_store_self fits
  · rw [same]
    exact Memory.slice_store_before fits before

theorem Serves.write_behind (serves : alloc.Serves memory Block) {s : σ} {pointer size : UInt32}
    {front : List UInt8} (back : List UInt8) (block : Block s pointer size)
    (held : (memory s).slice pointer.toNat front.length = front)
    (few : pointer.toNat + front.length < UInt32.size)
    (room : front.length + back.length ≤ size.toNat) :
    ∃ s', (alloc.write (UInt32.ofNat (pointer.toNat + front.length)) back).perform s =
        (.ok (), s') ∧ Block s' pointer size ∧
      (memory s').slice pointer.toNat (front ++ back).length = front ++ back := by
  have target : (UInt32.ofNat (pointer.toNat + front.length)).toNat =
      pointer.toNat + front.length := UInt32.toNat_ofNat_of_lt few
  obtain ⟨s', done, kept, stored, unchanged⟩ :=
    serves.write_block (UInt32.ofNat (pointer.toNat + front.length)) back block (by omega)
      (by omega)
  have inside := serves.inside s' pointer size kept
  rw [target] at stored unchanged
  refine ⟨s', done, kept, ?_⟩
  rw [List.length_append, Memory.slice_append (by omega), stored, unchanged _ _ (Nat.le_refl _),
    held]

/-- A block is moved: bytes that fit in both sizes come along. -/
theorem Serves.move_block (serves : alloc.Serves memory Block)
    {realloc : UInt32 → UInt32 → UInt32 → UInt32 → Action σ UInt32}
    (movable : alloc.realloc? = some realloc) {s : σ} {pointer old : UInt32} (new : UInt32)
    {data : List UInt8} (block : Block s pointer old)
    (held : (memory s).slice pointer.toNat data.length = data)
    (before : data.length ≤ old.toNat) (after : data.length ≤ new.toNat) :
    ∃ moved s', (realloc pointer old new 1).perform s = (.ok moved, s') ∧ Block s' moved new ∧
      (memory s').slice moved.toNat data.length = data := by
  obtain ⟨moved, s', done, block', same⟩ := serves.realloc realloc movable s pointer old new block
  have inside := serves.inside s pointer old block
  have inside' := serves.inside s' moved new block'
  have first := congrArg (List.take data.length) same
  rw [Memory.take_slice (by omega) (by omega), Memory.take_slice (by omega) (by omega)] at first
  exact ⟨moved, s', done, block', first.trans held⟩

def Delivers (memory : σ → Memory) (data : List UInt8)
    (outcome : Except Fault (UInt32 × UInt32) × σ) : Prop :=
  ∃ pointer s', outcome = (.ok (pointer, UInt32.ofNat data.length), s') ∧
    pointer.toNat + data.length ≤ (memory s').size ∧
    (memory s').slice pointer.toNat data.length = data

theorem Serves.writeBytes_delivers (serves : alloc.Serves memory Block) (data : List UInt8)
    (few : data.length < UInt32.size) (s : σ) :
    Delivers memory data ((alloc.writeBytes data).perform s) := by
  have count : (UInt32.ofNat data.length).toNat = data.length := UInt32.toNat_ofNat_of_lt few
  obtain ⟨pointer, s₁, granted, block⟩ := serves.malloc s (UInt32.ofNat data.length)
  obtain ⟨s₂, written, block, stored, -⟩ :=
    serves.write_block pointer data block (Nat.le_refl _) (by omega)
  refine ⟨pointer, s₂, ?_, ?_, stored⟩
  · simp only [writeBytes, length32_ok few, Action.perform_bind, Action.perform_conclude, granted,
      written, Action.perform_pure]
  · have := serves.inside s₂ pointer _ block
    omega

theorem writeBytes_overflow (alloc : Allocator σ) {data : List UInt8}
    (many : UInt32.size ≤ data.length) (s : σ) :
    (alloc.writeBytes data).perform s = (.error .lengthOverflow, s) := by
  simp only [writeBytes, length32_error many, Action.perform_bind, Action.perform_conclude]

/-- Without a way to move blocks, a text is written like any bytes. -/
theorem writeText_unmoved (unmovable : alloc.realloc? = none) {s : String}
    (few : (encode s).length < UInt32.size) (state : σ) :
    (alloc.writeText s).perform state = (alloc.writeBytes (encode s)).perform state := by
  simp only [writeText, unmovable, length32_ok few, Action.perform_bind, Action.perform_conclude]

theorem writeText_ascii {realloc : UInt32 → UInt32 → UInt32 → UInt32 → Action σ UInt32}
    (movable : alloc.realloc? = some realloc) {s : String} {state s₁ s₂ : σ} {first : UInt32}
    (few : (encode s).length < UInt32.size) (short : units16 s < UInt32.size)
    (granted : (alloc.malloc (UInt32.ofNat (units16 s)) 1).perform state = (.ok first, s₁))
    (written : (alloc.write first ((encode s).take (asciiLength s))).perform s₁ = (.ok (), s₂))
    (all : asciiLength s = (encode s).length) :
    (alloc.writeText s).perform state = (.ok (first, UInt32.ofNat (asciiLength s)), s₂) := by
  unfold asciiLength at written all ⊢
  simp only [writeText, movable, length32_ok few, length32_ok short, Action.perform_bind,
    Action.perform_conclude, granted, written, if_pos all, Action.perform_pure]

/-- Any other text goes on to a larger buffer for what is left, and then to one of its size. -/
theorem writeText_rest {realloc : UInt32 → UInt32 → UInt32 → UInt32 → Action σ UInt32}
    (movable : alloc.realloc? = some realloc) {s : String} {state s₁ s₂ s₃ s₄ s₅ : σ}
    {first moved last worst total : UInt32}
    (few : (encode s).length < UInt32.size) (short : units16 s < UInt32.size)
    (granted : (alloc.malloc (UInt32.ofNat (units16 s)) 1).perform state = (.ok first, s₁))
    (written : (alloc.write first ((encode s).take (asciiLength s))).perform s₁ = (.ok (), s₂))
    (notAll : asciiLength s ≠ (encode s).length)
    (atMost : length32 (units16 (afterAscii s) * 3 + asciiLength s) = .ok worst)
    (grown : (realloc first (UInt32.ofNat (units16 s)) worst 1).perform s₂ = (.ok moved, s₃))
    {tail : UInt32} (after : length32 (moved.toNat + asciiLength s) = .ok tail)
    (filled : (alloc.write tail ((encode s).drop (asciiLength s))).perform s₃ = (.ok (), s₄))
    (exactly : length32 (asciiLength s + ((encode s).drop (asciiLength s)).length) = .ok total)
    (shrunk : (realloc moved worst total 1).perform s₄ = (.ok last, s₅)) :
    (alloc.writeText s).perform state = (.ok (last, total), s₅) := by
  unfold afterAscii asciiLength at *
  simp only [writeText, movable, length32_ok few, length32_ok short, Action.perform_bind,
    Action.perform_conclude, granted, written, if_neg notAll, atMost, grown, after, filled,
    exactly, shrunk, Action.perform_pure]

theorem Serves.writeText_delivers (serves : alloc.Serves memory Block) (s : String)
    (fits : asciiLength s + 3 * units16 (afterAscii s) < UInt32.size) (state : σ) :
    Delivers memory (encode s) ((alloc.writeText s).perform state) := by
  have length := Text.Utf8.length_encode s
  have most := Text.Utf8.length_encode_le (afterAscii s)
  have units := Text.Utf8.units16_split s
  obtain ⟨-, back⟩ := Text.Utf8.encode_split s
  have few : (encode s).length < UInt32.size := by omega
  rcases movable : alloc.realloc? with _ | realloc
  · rw [writeText_unmoved movable few]
    exact serves.writeBytes_delivers (encode s) few state
  have short : units16 s < UInt32.size := by omega
  have unitsNat : (UInt32.ofNat (units16 s)).toNat = units16 s := UInt32.toNat_ofNat_of_lt short
  have frontLength : ((encode s).take (asciiLength s)).length = asciiLength s := by
    rw [List.length_take]
    omega
  -- The leading ASCII part fits in as many bytes as the text has units.
  obtain ⟨first, s₁, granted, block₁⟩ := serves.malloc state (UInt32.ofNat (units16 s))
  obtain ⟨s₂, written, block₂, front, -⟩ := serves.write_block first
    ((encode s).take (asciiLength s)) block₁ (Nat.le_refl _) (by omega)
  by_cases all : asciiLength s = (encode s).length
  · have inside := serves.inside s₂ first _ block₂
    have whole := writeText_ascii movable few short granted written all
    rw [all, List.take_length] at front
    rw [all] at whole
    exact ⟨first, s₂, whole, by omega, front⟩
  -- What is left takes at most three bytes for each of its units.
  have limit : units16 (afterAscii s) * 3 + asciiLength s < UInt32.size := by omega
  have worstNat : (UInt32.ofNat (units16 (afterAscii s) * 3 + asciiLength s)).toNat =
      units16 (afterAscii s) * 3 + asciiLength s := UInt32.toNat_ofNat_of_lt limit
  have backLength : ((encode s).drop (asciiLength s)).length =
      (encode s).length - asciiLength s := List.length_drop
  generalize worst_eq : UInt32.ofNat (units16 (afterAscii s) * 3 + asciiLength s) = worst
    at worstNat
  obtain ⟨moved, s₃, grown, block₃, kept⟩ :=
    serves.move_block movable worst block₂ front (by omega) (by omega)
  have there : moved.toNat + asciiLength s < UInt32.size := by
    have reach := serves.reach s₃ moved worst block₃
    omega
  obtain ⟨s₄, filled, block₄, joined⟩ := serves.write_behind ((encode s).drop (asciiLength s))
    block₃ kept (by omega) (by omega)
  rw [frontLength] at filled
  rw [List.take_append_drop] at joined
  -- The last move keeps all that there is.
  have sum : asciiLength s + ((encode s).drop (asciiLength s)).length = (encode s).length := by
    omega
  have totalNat : (UInt32.ofNat (encode s).length).toNat = (encode s).length :=
    UInt32.toNat_ofNat_of_lt few
  obtain ⟨last, s₅, shrunk, block₅, whole⟩ := serves.move_block movable
    (UInt32.ofNat (encode s).length) block₄ joined (by omega) (by omega)
  have inside₅ := serves.inside s₅ last _ block₅
  have result := writeText_rest movable few short granted written all
    (by rw [length32_ok limit, worst_eq]) grown (length32_ok there) filled
    (by rw [sum, length32_ok few]) shrunk
  exact ⟨last, s₅, result, by omega, whole⟩

end Transfer

end Allocator

/-- A codec reads an encoded text back, whatever it has read before. -/
theorem Codec.read_encode (codec : Codec) {m : Memory} {pointer length : UInt32} {s : String}
    (inside : pointer.toNat + length.toNat ≤ m.size)
    (stored : m.slice pointer.toNat length.toNat = encode s) :
    (codec.read m pointer length).1 = .ok s := by
  change Codec.text m pointer length = .ok s
  unfold Codec.text
  rw [Memory.read_ok inside, stored]
  simp only [bind, Except.bind, Text.Utf8.decode_encode]
  rfl

section RoundTrip

variable {σ : Type} {alloc : Allocator σ} {memory : σ → Memory}
  {Block : σ → UInt32 → UInt32 → Prop}

def Holds (m : Memory) (s : String) (pointer length : UInt32) : Prop :=
  length.toNat = (encode s).length ∧ m.slice pointer.toNat length.toNat = encode s ∧
    ∀ codec : Codec, (codec.read m pointer length).1 = .ok s

theorem Allocator.Delivers.holds {s : String} {outcome : Except Fault (UInt32 × UInt32) × σ}
    (delivers : Allocator.Delivers memory (encode s) outcome)
    (few : (encode s).length < UInt32.size) :
    ∃ pointer after, outcome = (.ok (pointer, UInt32.ofNat (encode s).length), after) ∧
      Holds (memory after) s pointer (UInt32.ofNat (encode s).length) := by
  obtain ⟨pointer, after, done, inside, stored⟩ := delivers
  have count : (UInt32.ofNat (encode s).length).toNat = (encode s).length :=
    UInt32.toNat_ofNat_of_lt few
  rw [← count] at inside stored
  exact ⟨pointer, after, done, count, stored, fun codec => codec.read_encode inside stored⟩

/-- A text is written under its length, and reads as itself afterwards; with moves of the block or
in one piece, the length and the bytes are the same. Bytes are stored as they are, unless there
are too many of them to count. -/
theorem text_survives_transfer (serves : alloc.Serves memory Block) (state : σ) :
    (∀ s : String, asciiLength s + 3 * units16 (afterAscii s) < 2 ^ 32 →
      ∃ length pointer after pointer' after',
        (alloc.writeText s).perform state = (.ok (pointer, length), after) ∧
        Holds (memory after) s pointer length ∧
        (({ alloc with realloc? := none } : Allocator σ).writeText s).perform state =
          (.ok (pointer', length), after') ∧
        Holds (memory after') s pointer' length) ∧
    (∀ data : List UInt8, data.length < 2 ^ 32 →
      ∃ length pointer after,
        (alloc.writeBytes data).perform state = (.ok (pointer, length), after) ∧
        length.toNat = data.length ∧
        (memory after).slice pointer.toNat length.toNat = data) ∧
    (∀ data : List UInt8, 2 ^ 32 ≤ data.length →
      (alloc.writeBytes data).perform state = (.error .lengthOverflow, state)) := by
  refine ⟨fun s fits => ?_, fun data few => ?_, fun data many =>
    Allocator.writeBytes_overflow alloc many state⟩
  · have few : (encode s).length < UInt32.size := by
      have length := Text.Utf8.length_encode s
      have most := Text.Utf8.length_encode_le (afterAscii s)
      have limit : UInt32.size = 2 ^ 32 := rfl
      omega
    have unmoving : ({ alloc with realloc? := none } : Allocator σ).Serves memory Block :=
      { serves with realloc := fun _ none => nomatch none }
    obtain ⟨pointer, after, done, holds⟩ := (serves.writeText_delivers s fits state).holds few
    obtain ⟨pointer', after', done', holds'⟩ := (unmoving.writeText_delivers s fits state).holds few
    exact ⟨_, pointer, after, pointer', after', done, holds, done', holds'⟩
  · obtain ⟨pointer, after, done, -, stored⟩ := serves.writeBytes_delivers data few state
    have count : (UInt32.ofNat data.length).toNat = data.length := UInt32.toNat_ofNat_of_lt few
    refine ⟨_, pointer, after, done, count, ?_⟩
    rw [count]
    exact stored

end RoundTrip

/-- An allocator with room for one block, which grows in place. -/
def oneBlock : Allocator Memory where
  malloc size _ := fun m => (.ok 0, m.resize (max m.size size.toNat))
  realloc? := some fun _ _ size _ => fun m => (.ok 0, m.resize (max m.size size.toNat))
  write pointer data := fun m =>
    match m.write pointer data with
    | .ok m => (.ok (), m)
    | .error fault => (.error fault, m)

theorem oneBlock_serves :
    oneBlock.Serves id fun m pointer size => pointer = 0 ∧ size.toNat ≤ m.size where
  inside := by
    rintro m pointer size ⟨rfl, fits⟩
    change 0 + size.toNat ≤ m.size
    omega
  reach := by
    rintro m pointer size ⟨rfl, -⟩
    have := size.toNat_lt
    change 0 + size.toNat ≤ 2 ^ 32
    omega
  malloc := fun m size => ⟨0, m.resize (max m.size size.toNat), rfl, rfl, Nat.le_max_right ..⟩
  realloc := by
    rintro realloc movable m pointer old new ⟨rfl, fits⟩
    cases movable
    refine ⟨0, m.resize (max m.size new.toNat), rfl, ⟨rfl, Nat.le_max_right ..⟩, ?_⟩
    refine Memory.slice_resize ?_ (Nat.le_max_left ..)
    change 0 + min old.toNat new.toNat ≤ m.size
    omega
  write := by
    intro m pointer data m' written
    have written : m.write pointer data = .ok m' := written
    obtain ⟨-, -, stored⟩ := Memory.write_inv written
    have size : m'.size = m.size := by rw [stored, Memory.size_store]
    refine ⟨m', ?_, rfl, fun other length block => ⟨block.1, size.symm ▸ block.2⟩⟩
    change (match m.write pointer data with
      | .ok m => ((.ok (), m) : Except Fault Unit × Memory)
      | .error fault => (.error fault, m)) = _
    rw [written]

theorem text_survives_transfer_oneBlock :
    oneBlock.Serves id (fun m pointer size => pointer = 0 ∧ size.toNat ≤ m.size) ∧
    asciiLength "aß𝄞" + 3 * units16 (afterAscii "aß𝄞") < 2 ^ 32 ∧
    ∃ length pointer after, (oneBlock.writeText "aß𝄞").perform (.zeroed 0 0) =
      (.ok (pointer, length), after) ∧ Holds after "aß𝄞" pointer length := by
  have fits : asciiLength "aß𝄞" + 3 * units16 (afterAscii "aß𝄞") < 2 ^ 32 := by decide +kernel
  obtain ⟨length, pointer, after, -, -, done, holds, -⟩ :=
    (text_survives_transfer oneBlock_serves (.zeroed 0 0)).1 "aß𝄞" fits
  exact ⟨oneBlock_serves, fits, length, pointer, after, done, holds⟩

end GuestBridge

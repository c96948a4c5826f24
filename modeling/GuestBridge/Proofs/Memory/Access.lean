import GuestBridge.Proofs.Action
import GuestBridge.Proofs.Memory
/-!
The views of a memory. Bytes, words and doubles are read from the same bytes and written to them, so
what one view writes the others read, and nothing else changes.
-/

set_option autoImplicit false

namespace GuestBridge.Memory

/-- What a view reads or writes at one offset. -/
inductive Cell
  | byte
  | bytes (length : UInt32)
  | word
  | double

namespace Cell

def width : Cell → UInt32
  | .byte => 1
  | .bytes length => length
  | .word => 4
  | .double => 8

/-- Offsets are multiples of this. -/
def align : Cell → UInt32
  | .byte | .bytes _ => 1
  | .word => 4
  | .double => 8

abbrev Value : Cell → Type
  | .byte => UInt8
  | .bytes _ => List UInt8
  | .word => UInt32
  | .double => Double

/-- Bytes are as many as the cell takes. -/
def Fits : (cell : Cell) → cell.Value → Prop
  | .byte, _ => True
  | .bytes length, data => data.length = length.toNat
  | .word, _ => True
  | .double, _ => True

def read (m : Memory) (offset : UInt32) : (cell : Cell) → Except Fault cell.Value
  | .byte => m.getByte offset
  | .bytes length => m.read offset length
  | .word => m.readWord offset
  | .double => m.readDouble offset

def write (m : Memory) (offset : UInt32) : (cell : Cell) → cell.Value → Except Fault Memory
  | .byte, b => m.setByte offset b
  | .bytes _, data => m.write offset data
  | .word, w => m.writeWord offset w
  | .double, x => m.writeDouble offset x

/-- A write in place. -/
def store (cell : Cell) (offset : UInt32) (v : cell.Value) : Action Memory Unit := do
  set (← Action.conclude (cell.write (← get) offset v))

def encode : (cell : Cell) → cell.Value → List UInt8
  | .byte, b => [b]
  | .bytes _, data => data
  | .word, w => toLittleEndian 4 w.toNat
  | .double, x => toLittleEndian 8 x.bits.toNat

def decode : (cell : Cell) → List UInt8 → cell.Value
  | .byte, data => data.headD 0
  | .bytes _, data => data
  | .word, data => UInt32.ofNat (littleEndian data)
  | .double, data => ⟨UInt64.ofNat (littleEndian data)⟩

/-- The cell may stand at the offset, and the memory reaches to its end. -/
structure Inside (cell : Cell) (m : Memory) (offset : UInt32) : Prop where
  aligned : cell.align.toNat ∣ offset.toNat
  room : offset.toNat + cell.width.toNat ≤ m.size

/-- No byte belongs to both of two cells. -/
def Apart (cell : Cell) (offset : UInt32) (other : Cell) (place : UInt32) : Prop :=
  ∀ i, ¬ ((offset.toNat ≤ i ∧ i < offset.toNat + cell.width.toNat) ∧
    place.toNat ≤ i ∧ i < place.toNat + other.width.toNat)

variable {cell : Cell} {m m' : Memory} {offset : UInt32} {v : cell.Value}

theorem length_encode (fits : cell.Fits v) : (cell.encode v).length = cell.width.toNat := by
  cases cell with
  | byte => rfl
  | bytes length => exact fits
  | word => exact length_toLittleEndian ..
  | double => exact length_toLittleEndian ..

theorem decode_encode (v : cell.Value) : cell.decode (cell.encode v) = v := by
  cases cell with
  | byte => rfl
  | bytes length => rfl
  | word =>
    have value := littleEndian_toLittleEndian 4 (n := UInt32.toNat v) (UInt32.toNat_lt v)
    simp only [decode, encode, value, UInt32.ofNat_toNat]
  | double =>
    have value := littleEndian_toLittleEndian 8 (n := v.bits.toNat) v.bits.toNat_lt
    simp only [decode, encode, value, UInt64.ofNat_toNat]

end Cell

section Checks

variable {m m' : Memory} {offset : UInt32}

theorem mod_eq_zero_iff {align : UInt32} : offset % align = 0 ↔ align.toNat ∣ offset.toNat := by
  rw [Nat.dvd_iff_mod_eq_zero, ← UInt32.toNat_mod]
  exact UInt32.toNat_inj.symm

theorem checkAligned_ok {align : UInt32} (aligned : align.toNat ∣ offset.toNat) :
    checkAligned offset align = .ok () :=
  if_pos (mod_eq_zero_iff.2 aligned)

theorem checkAligned_error {align : UInt32} (misaligned : ¬ align.toNat ∣ offset.toNat) :
    checkAligned offset align = .error (.misaligned offset align) :=
  if_neg fun even => misaligned (mod_eq_zero_iff.1 even)

theorem checkAligned_one (offset : UInt32) : checkAligned offset 1 = .ok () :=
  checkAligned_ok (Nat.one_dvd _)

theorem read_error {length : UInt32} (outside : ¬ offset.toNat + length.toNat ≤ m.size) :
    m.read offset length = .error (.outOfBounds offset length m.size) := by
  unfold read checkRange
  rw [if_neg outside]
  rfl

theorem write_error {data : List UInt8} (few : data.length < UInt32.size)
    (outside : ¬ offset.toNat + data.length ≤ m.size) :
    m.write offset data =
      .error (.outOfBounds offset (UInt32.ofNat data.length) m.size) := by
  have count : (UInt32.ofNat data.length).toNat = data.length := UInt32.toNat_ofNat_of_lt few
  unfold write checkRange
  rw [if_neg (Nat.not_le.2 few), count, if_neg outside]
  rfl

/-- What is read depends on the size of the memory and on the bytes in question. -/
theorem read_congr {length : UInt32} (size : m'.size = m.size)
    (same : offset.toNat + length.toNat ≤ m.size →
      m'.slice offset.toNat length.toNat = m.slice offset.toNat length.toNat) :
    m'.read offset length = m.read offset length := by
  by_cases inside : offset.toNat + length.toNat ≤ m.size
  · rw [read_ok inside, read_ok (size ▸ inside), same inside]
  · rw [read_error inside, read_error (size ▸ inside), size]

end Checks

namespace Cell

variable {cell : Cell} {m m' : Memory} {offset : UInt32} {v : cell.Value}

/-- Every view reads bytes and makes a value of them. -/
theorem read_eq (cell : Cell) (m : Memory) (offset : UInt32) :
    cell.read m offset = (do
      checkAligned offset cell.align
      return cell.decode (← m.read offset cell.width)) := by
  cases cell with
  | byte =>
    simp only [align, checkAligned_one]
    rfl
  | bytes length =>
    simp only [align, checkAligned_one]
    exact (bind_pure _).symm
  | word => rfl
  | double => rfl

/-- Every view writes the bytes of a value. -/
theorem write_eq (cell : Cell) (m : Memory) (offset : UInt32) (v : cell.Value) :
    cell.write m offset v = (do
      checkAligned offset cell.align
      m.write offset (cell.encode v)) := by
  cases cell with
  | byte =>
    simp only [align, checkAligned_one]
    rfl
  | bytes length =>
    simp only [align, checkAligned_one]
    rfl
  | word => rfl
  | double => rfl

theorem read_ok (inside : cell.Inside m offset) :
    cell.read m offset = .ok (cell.decode (m.slice offset.toNat cell.width.toNat)) := by
  rw [read_eq, checkAligned_ok inside.aligned, Memory.read_ok inside.room]
  rfl

theorem read_error (outside : ¬ cell.Inside m offset) :
    ∃ fault, cell.read m offset = .error fault := by
  rw [read_eq]
  by_cases aligned : cell.align.toNat ∣ offset.toNat
  · rw [checkAligned_ok aligned, Memory.read_error fun room => outside ⟨aligned, room⟩]
    exact ⟨_, rfl⟩
  · rw [checkAligned_error aligned]
    exact ⟨_, rfl⟩

theorem read_iff : (∃ v, cell.read m offset = .ok v) ↔ cell.Inside m offset := by
  refine ⟨fun ⟨v, done⟩ => ?_, fun inside => ⟨_, read_ok inside⟩⟩
  by_contra outside
  obtain ⟨fault, failed⟩ := read_error outside
  rw [failed] at done
  cases done

theorem read_congr (size : m'.size = m.size)
    (same : offset.toNat + cell.width.toNat ≤ m.size →
      m'.slice offset.toNat cell.width.toNat = m.slice offset.toNat cell.width.toNat) :
    cell.read m' offset = cell.read m offset := by
  rw [read_eq, read_eq, Memory.read_congr size same]

theorem write_ok (fits : cell.Fits v) (inside : cell.Inside m offset) :
    cell.write m offset v = .ok (m.store offset.toNat (cell.encode v)) := by
  have length := length_encode fits
  have few : (cell.encode v).length < UInt32.size := length ▸ cell.width.toNat_lt
  rw [write_eq, checkAligned_ok inside.aligned, Memory.write_ok few (length ▸ inside.room)]
  rfl

theorem write_error (fits : cell.Fits v) (outside : ¬ cell.Inside m offset) :
    ∃ fault, cell.write m offset v = .error fault := by
  have length := length_encode fits
  have few : (cell.encode v).length < UInt32.size := length ▸ cell.width.toNat_lt
  rw [write_eq]
  by_cases aligned : cell.align.toNat ∣ offset.toNat
  · have short : ¬ offset.toNat + (cell.encode v).length ≤ m.size := fun room =>
      outside ⟨aligned, length ▸ room⟩
    rw [checkAligned_ok aligned, Memory.write_error few short]
    exact ⟨_, rfl⟩
  · rw [checkAligned_error aligned]
    exact ⟨_, rfl⟩

theorem perform_store (cell : Cell) (offset : UInt32) (v : cell.Value) (m : Memory) :
    (cell.store offset v).perform m =
      match cell.write m offset v with
      | .ok m' => (.ok (), m')
      | .error fault => (.error fault, m) := by
  simp only [store, Action.perform_bind, Action.perform_get, Action.perform_conclude]
  cases cell.write m offset v <;> rfl

/-- A write in place ends well just if the cell is inside, and otherwise changes nothing. -/
theorem store_cases (fits : cell.Fits v) :
    (cell.Inside m offset ∧
      (cell.store offset v).perform m = (.ok (), m.store offset.toNat (cell.encode v))) ∨
    (¬ cell.Inside m offset ∧ ∃ fault, (cell.store offset v).perform m = (.error fault, m)) := by
  by_cases inside : cell.Inside m offset
  · refine .inl ⟨inside, ?_⟩
    rw [perform_store, write_ok fits inside]
  · obtain ⟨fault, failed⟩ := write_error fits inside
    refine .inr ⟨inside, fault, ?_⟩
    rw [perform_store, failed]

theorem Inside.of_size (inside : cell.Inside m offset) (size : m'.size = m.size) :
    cell.Inside m' offset :=
  ⟨inside.aligned, size ▸ inside.room⟩

/-- What was stored is read again. -/
theorem read_stored (fits : cell.Fits v) (inside : cell.Inside m offset) :
    cell.read (m.store offset.toNat (cell.encode v)) offset = .ok v := by
  have room : offset.toNat + (cell.encode v).length ≤ m.size := by
    rw [length_encode fits]
    exact inside.room
  have held := slice_store_self room
  rw [length_encode fits] at held
  rw [read_ok (inside.of_size (size_store ..)), held, decode_encode]

/-- What does not overlap with the stored cell reads as before. -/
theorem read_apart (fits : cell.Fits v) (inside : cell.Inside m offset) {other : Cell}
    {place : UInt32} (apart : cell.Apart offset other place) :
    other.read (m.store offset.toNat (cell.encode v)) place = other.read m place := by
  have room : offset.toNat + (cell.encode v).length ≤ m.size := by
    rw [length_encode fits]
    exact inside.room
  refine read_congr (size_store ..) fun within => ?_
  refine slice_eq_of_bytes within (by rwa [size_store]) fun i below => ?_
  rw [byteAt_store room, length_encode fits, if_neg fun both => ?_]
  exact apart (place.toNat + i) ⟨both, by omega, by omega⟩

end Cell

section Words

variable {m : Memory} {offset : UInt32}

theorem slice_eq_bytes {start length : Nat} (room : start + length ≤ m.size) :
    m.slice start length = (List.range length).map fun i => m.byteAt (start + i) := by
  refine List.ext_getElem? fun i => ?_
  rw [List.getElem?_map]
  by_cases below : i < length
  · rw [getElem?_slice room below, List.getElem?_range below]
    rfl
  · rw [List.getElem?_eq_none, List.getElem?_eq_none]
    · rfl
    · rwa [List.length_range, ← Nat.not_lt]
    · rw [length_slice]
      omega

theorem getByte_ok {place : UInt32} (inside : place.toNat < m.size) :
    m.getByte place = .ok (m.byteAt place.toNat) := by
  have here : Cell.byte.Inside m place := ⟨Nat.one_dvd _, inside⟩
  have done := Cell.read_ok here
  rw [slice_eq_bytes inside] at done
  exact done

theorem littleEndian_lt (data : List UInt8) : littleEndian data < 256 ^ data.length := by
  induction data with
  | nil => exact Nat.one_pos
  | cons b rest ih =>
    have low : b.toNat < 256 := b.toNat_lt
    rw [littleEndian, List.length_cons, Nat.pow_succ]
    omega

theorem toNat_littleEndian {data : List UInt8} (four : data.length = 4) :
    (UInt32.ofNat (littleEndian data)).toNat = littleEndian data := by
  have small := littleEndian_lt data
  rw [four] at small
  exact UInt32.toNat_ofNat_of_lt' small

/-- Behind a word's first byte the word reaches no further than an address. -/
theorem toNat_add_of_aligned {step : UInt32} (aligned : 4 ∣ offset.toNat)
    (within : step.toNat < 4) : (offset + step).toNat = offset.toNat + step.toNat := by
  have below := offset.toNat_lt
  rw [UInt32.toNat_add]
  exact Nat.mod_eq_of_lt (by omega)

/-- A word is made of four bytes, the least significant first. -/
theorem readWord_bytes {word : UInt32} (done : m.readWord offset = .ok word) :
    ∃ b₀ b₁ b₂ b₃, m.getByte offset = .ok b₀ ∧ m.getByte (offset + 1) = .ok b₁ ∧
      m.getByte (offset + 2) = .ok b₂ ∧ m.getByte (offset + 3) = .ok b₃ ∧
      word.toNat = b₀.toNat + 256 * b₁.toNat + 65536 * b₂.toNat + 16777216 * b₃.toNat := by
  have inside : Cell.word.Inside m offset := Cell.read_iff.1 ⟨word, done⟩
  obtain ⟨aligned, room⟩ := inside
  change 4 ∣ offset.toNat at aligned
  change offset.toNat + 4 ≤ m.size at room
  have second : (offset + 1).toNat = offset.toNat + 1 := toNat_add_of_aligned aligned (by decide)
  have third : (offset + 2).toNat = offset.toNat + 2 := toNat_add_of_aligned aligned (by decide)
  have fourth : (offset + 3).toNat = offset.toNat + 3 := toNat_add_of_aligned aligned (by decide)
  refine ⟨_, _, _, _, getByte_ok (by omega), getByte_ok (by omega), getByte_ok (by omega),
    getByte_ok (by omega), ?_⟩
  rw [second, third, fourth]
  have value : Cell.word.read m offset = .ok word := done
  have bytes : m.slice offset.toNat Cell.word.width.toNat = _ := slice_eq_bytes room
  rw [Cell.read_ok ⟨aligned, room⟩, bytes] at value
  obtain rfl := Except.ok.inj value
  change (UInt32.ofNat (littleEndian [m.byteAt offset.toNat, m.byteAt (offset.toNat + 1),
    m.byteAt (offset.toNat + 2), m.byteAt (offset.toNat + 3)])).toNat = _
  rw [toNat_littleEndian rfl]
  simp only [littleEndian]
  omega

end Words

section Arrays

variable {m : Memory} {offset count : UInt32} {words : List UInt32}

theorem readWord_inside {place : UInt32} (inside : Cell.word.Inside m place) :
    m.readWord place = .ok (UInt32.ofNat (littleEndian (m.slice place.toNat 4))) :=
  Cell.read_ok inside

/-- Words in a row are read as one range. -/
theorem readWords_iff (few : 4 * count.toNat < UInt32.size) :
    m.readWords offset count = .ok words ↔
      4 ∣ offset.toNat ∧ offset.toNat + 4 * count.toNat ≤ m.size ∧
      (List.range count.toNat).map (fun i =>
        UInt32.ofNat (littleEndian (m.slice (offset.toNat + 4 * i) 4))) = words := by
  have product : (count * 4).toNat = 4 * count.toNat := by
    rw [UInt32.toNat_mul, Nat.mul_comm]
    exact Nat.mod_eq_of_lt few
  unfold readWords checkRange
  rw [if_neg (by omega), product]
  by_cases aligned : 4 ∣ offset.toNat
  · have even : checkAligned offset 4 = .ok () := checkAligned_ok aligned
    rw [even]
    by_cases room : offset.toNat + 4 * count.toNat ≤ m.size
    · rw [if_pos room]
      exact ⟨fun read => ⟨aligned, room, Except.ok.inj read⟩, fun ⟨_, _, same⟩ => congrArg _ same⟩
    · rw [if_neg room]
      exact ⟨(fun read => nomatch read), fun ⟨_, inside, _⟩ => absurd inside room⟩
  · have odd : checkAligned offset 4 = .error _ := checkAligned_error aligned
    rw [odd]
    exact ⟨(fun read => nomatch read), fun ⟨even, _, _⟩ => absurd even aligned⟩

/-- The words returned are those at the offsets in turn. -/
theorem readWords_words (few : 4 * count.toNat < UInt32.size)
    (done : m.readWords offset count = .ok words) :
    words.length = count.toNat ∧ ∀ (i : Nat) (h : i < words.length) (place : UInt32),
      place.toNat = offset.toNat + 4 * i → m.readWord place = .ok words[i] := by
  obtain ⟨aligned, room, rfl⟩ := (readWords_iff few).1 done
  refine ⟨by rw [List.length_map, List.length_range], fun i below place here => ?_⟩
  rw [List.length_map, List.length_range] at below
  have inside : Cell.word.Inside m place := by
    refine ⟨?_, ?_⟩
    · change 4 ∣ place.toNat
      omega
    · change place.toNat + 4 ≤ m.size
      omega
  rw [readWord_inside inside, List.getElem_map, List.getElem_range, here]

/-- One range is inside just if the words in it are. The offset of the last one must be an address,
which it is when the memory has no more bytes than there are addresses. -/
theorem readWords_succeeds (some : 0 < count.toNat) (few : 4 * count.toNat < UInt32.size)
    (reach : m.size ≤ UInt32.size ∨ offset.toNat + 4 * count.toNat ≤ UInt32.size) :
    (∃ words, m.readWords offset count = .ok words) ↔ ∀ i < count.toNat,
      ∃ place word, place.toNat = offset.toNat + 4 * i ∧ m.readWord place = .ok word := by
  constructor
  · rintro ⟨words, done⟩ i below
    obtain ⟨-, room, -⟩ := (readWords_iff few).1 done
    obtain ⟨length, nth⟩ := readWords_words few done
    have address : offset.toNat + 4 * i < UInt32.size := by omega
    have place : (UInt32.ofNat (offset.toNat + 4 * i)).toNat = offset.toNat + 4 * i :=
      UInt32.toNat_ofNat_of_lt address
    exact ⟨_, _, place, nth i (by omega) _ place⟩
  · intro each
    obtain ⟨first, word, here, read⟩ := each 0 some
    obtain ⟨aligned, -⟩ : Cell.word.Inside m first := Cell.read_iff.1 ⟨word, read⟩
    obtain ⟨last, word, there, read⟩ := each (count.toNat - 1) (by omega)
    obtain ⟨-, room⟩ : Cell.word.Inside m last := Cell.read_iff.1 ⟨word, read⟩
    change 4 ∣ first.toNat at aligned
    change last.toNat + 4 ≤ m.size at room
    exact ⟨_, (readWords_iff few).2 ⟨by omega, by omega, rfl⟩⟩

end Arrays

/-- Bytes, words and doubles are views of one memory, the bytes of a word the least significant
first. An access ends well just if its cell is aligned and inside; a write is read again, leaves all
cells beside it as they were, and leaves everything so if it fails. Words in a row are the words one
by one. -/
theorem views_share_one_memory (m : Memory) :
    (∀ (cell : Cell) (offset : UInt32),
      (∃ v, cell.read m offset = .ok v) ↔ cell.Inside m offset) ∧
    (∀ (cell : Cell) (offset : UInt32) (v : cell.Value), cell.Fits v →
      ∀ outcome m', (cell.store offset v).perform m = (outcome, m') →
        (outcome = .ok () ↔ cell.Inside m offset) ∧
        (outcome = .ok () → m'.size = m.size ∧ cell.read m' offset = .ok v ∧
          ∀ (other : Cell) (place : UInt32), cell.Apart offset other place →
            other.read m' place = other.read m place) ∧
        (outcome ≠ .ok () → m' = m)) ∧
    (∀ (offset word : UInt32), m.readWord offset = .ok word →
      ∃ b₀ b₁ b₂ b₃, m.getByte offset = .ok b₀ ∧ m.getByte (offset + 1) = .ok b₁ ∧
        m.getByte (offset + 2) = .ok b₂ ∧ m.getByte (offset + 3) = .ok b₃ ∧
        word.toNat = b₀.toNat + 256 * b₁.toNat + 65536 * b₂.toNat + 16777216 * b₃.toNat) ∧
    (∀ offset count : UInt32, 0 < count.toNat → 4 * count.toNat < UInt32.size →
      (m.size ≤ UInt32.size ∨ offset.toNat + 4 * count.toNat ≤ UInt32.size →
        ((∃ words, m.readWords offset count = .ok words) ↔ ∀ i < count.toNat,
          ∃ place word, place.toNat = offset.toNat + 4 * i ∧ m.readWord place = .ok word)) ∧
      ∀ words, m.readWords offset count = .ok words → words.length = count.toNat ∧
        ∀ (i : Nat) (h : i < words.length) (place : UInt32),
          place.toNat = offset.toNat + 4 * i → m.readWord place = .ok words[i]) := by
  refine ⟨fun cell offset => Cell.read_iff, fun cell offset v fits outcome m' stored => ?_,
    fun offset word done => readWord_bytes done, fun offset count some few =>
      ⟨readWords_succeeds some few, fun words done => readWords_words few done⟩⟩
  rcases Cell.store_cases fits with ⟨inside, done⟩ | ⟨outside, fault, failed⟩
  · obtain ⟨rfl, rfl⟩ := Prod.mk.inj (done.symm.trans stored)
    exact ⟨⟨fun _ => inside, fun _ => rfl⟩,
      fun _ => ⟨size_store .., Cell.read_stored fits inside,
        fun _ _ apart => Cell.read_apart fits inside apart⟩,
      fun wrong => absurd rfl wrong⟩
  · obtain ⟨rfl, rfl⟩ := Prod.mk.inj (failed.symm.trans stored)
    exact ⟨⟨(fun done => nomatch done), fun inside => absurd inside outside⟩,
      (fun done => nomatch done), fun _ => rfl⟩

end GuestBridge.Memory

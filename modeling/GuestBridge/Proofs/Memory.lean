import GuestBridge.Memory
import Mathlib.Algebra.Ring.Nat
/-!
A memory byte by byte: what a store changes, and what it leaves alone.
-/

set_option autoImplicit false

namespace GuestBridge.Memory

/-- The byte at an offset; zero where nothing was written. -/
def byteAt (m : Memory) (i : Nat) : UInt8 := m.written[i]?.getD 0

section Bytes

variable {m : Memory} {offset length : Nat} {data : List UInt8}

theorem length_slice (m : Memory) (offset length : Nat) :
    (m.slice offset length).length = min length (m.size - offset) := by
  simp only [slice, List.length_append, List.length_replicate, Array.length_toList,
    Array.size_extract]
  omega

theorem getElem?_slice (inside : offset + length ≤ m.size) {i : Nat} (below : i < length) :
    (m.slice offset length)[i]? = some (m.byteAt (offset + i)) := by
  have whole : min length (m.size - offset) = length := by omega
  unfold slice byteAt
  rw [whole]
  by_cases written : offset + i < m.written.size
  · have front : i < (m.written.extract offset (offset + length)).toList.length := by
      rw [Array.length_toList, Array.size_extract]
      omega
    rw [List.getElem?_append_left front, Array.getElem?_toList, Array.getElem?_extract,
      if_pos (by omega), Array.getElem?_eq_getElem written]
    rfl
  · have behind : (m.written.extract offset (offset + length)).toList.length ≤ i := by
      rw [Array.length_toList, Array.size_extract]
      omega
    rw [List.getElem?_append_right behind, List.getElem?_replicate, if_pos ?_,
      Array.getElem?_eq_none (Nat.not_lt.1 written)]
    · rfl
    · rw [Array.length_toList, Array.size_extract] at behind ⊢
      omega

/-- Two ranges hold the same when they hold the same bytes. -/
theorem slice_eq_of_bytes {m' : Memory} {offset' : Nat} (inside : offset + length ≤ m.size)
    (inside' : offset' + length ≤ m'.size)
    (same : ∀ i, i < length → m'.byteAt (offset' + i) = m.byteAt (offset + i)) :
    m'.slice offset' length = m.slice offset length := by
  refine List.ext_getElem? fun i => ?_
  by_cases below : i < length
  · rw [getElem?_slice inside below, getElem?_slice inside' below, same i below]
  · rw [List.getElem?_eq_none, List.getElem?_eq_none]
    · rw [length_slice]
      omega
    · rw [length_slice]
      omega

theorem slice_append {a b : Nat} (inside : offset + (a + b) ≤ m.size) :
    m.slice offset (a + b) = m.slice offset a ++ m.slice (offset + a) b := by
  have first : (m.slice offset a).length = a := by
    rw [length_slice]
    omega
  refine List.ext_getElem? fun i => ?_
  by_cases front : i < a
  · rw [getElem?_slice inside (by omega), List.getElem?_append_left (by omega),
      getElem?_slice (by omega) front]
  · rw [List.getElem?_append_right (by omega), first]
    by_cases back : i < a + b
    · rw [getElem?_slice inside back, getElem?_slice (by omega) (by omega)]
      congr 2
      omega
    · rw [List.getElem?_eq_none, List.getElem?_eq_none]
      · rw [length_slice]
        omega
      · rw [length_slice]
        omega

theorem take_slice {a : Nat} (inside : offset + length ≤ m.size) (shorter : a ≤ length) :
    (m.slice offset length).take a = m.slice offset a := by
  obtain ⟨b, rfl⟩ := Nat.exists_eq_add_of_le shorter
  have first : (m.slice offset a).length = a := by
    rw [length_slice]
    omega
  rw [slice_append inside]
  exact List.take_left' first

end Bytes

section Store

variable {m : Memory} {offset : Nat} {data : List UInt8}

theorem getElem?_storeAt (bytes : Array UInt8) (offset : Nat) (data : List UInt8)
    (room : offset + data.length ≤ bytes.size) (i : Nat) :
    (storeAt bytes offset data)[i]? =
      if offset ≤ i ∧ i < offset + data.length then data[i - offset]? else bytes[i]? := by
  induction data generalizing bytes offset with
  | nil =>
    rw [if_neg (by simp only [List.length_nil]; omega)]
    rfl
  | cons b rest ih =>
    rw [List.length_cons] at room ⊢
    have room' : offset + 1 + rest.length ≤ (bytes.setIfInBounds offset b).size := by
      rw [Array.size_setIfInBounds]
      omega
    rw [storeAt, ih _ _ room']
    by_cases here : i = offset
    · subst here
      rw [if_neg (by omega), if_pos (by omega), Array.getElem?_setIfInBounds_self,
        if_pos (by omega), Nat.sub_self, List.getElem?_cons_zero]
    · by_cases behind : offset + 1 ≤ i ∧ i < offset + 1 + rest.length
      · have next : i - offset = i - (offset + 1) + 1 := by omega
        rw [if_pos behind, if_pos (by omega), next, List.getElem?_cons_succ]
      · rw [if_neg behind, if_neg (by omega), Array.getElem?_setIfInBounds_ne (Ne.symm here)]

/-- The size of memory in whole pages. -/
def pages (m : Memory) : Nat := m.size / pageSize

theorem size_store (m : Memory) (offset : Nat) (data : List UInt8) :
    (m.store offset data).size = m.size := by
  cases m
  simp only [store]
  split <;> rfl

theorem byteAt_store (inside : offset + data.length ≤ m.size) (i : Nat) :
    (m.store offset data).byteAt i =
      if offset ≤ i ∧ i < offset + data.length then data[i - offset]?.getD 0 else m.byteAt i := by
  obtain ⟨base, size, written⟩ := m
  simp only [store, if_pos inside, byteAt]
  rw [getElem?_storeAt _ _ _ (by simp only [Array.size_append, Array.size_replicate]; omega)]
  split
  · rfl
  · by_cases before : i < written.size
    · rw [Array.getElem?_append_left before]
    · rw [Array.getElem?_append_right (Nat.not_lt.1 before), Array.getElem?_replicate,
        Array.getElem?_eq_none (Nat.not_lt.1 before)]
      split <;> rfl

theorem slice_store_self (inside : offset + data.length ≤ m.size) :
    (m.store offset data).slice offset data.length = data := by
  have inside' : offset + data.length ≤ (m.store offset data).size := by
    rw [size_store]
    exact inside
  refine List.ext_getElem? fun i => ?_
  by_cases below : i < data.length
  · rw [getElem?_slice inside' below, byteAt_store inside, if_pos (by omega),
      Nat.add_sub_cancel_left, List.getElem?_eq_getElem below]
    rfl
  · rw [List.getElem?_eq_none, List.getElem?_eq_none (Nat.not_lt.1 below)]
    rw [length_slice]
    omega

/-- A store leaves the bytes before it alone. -/
theorem slice_store_before {start length : Nat} (inside : offset + data.length ≤ m.size)
    (before : start + length ≤ offset) :
    (m.store offset data).slice start length = m.slice start length := by
  apply slice_eq_of_bytes (by omega) (by rw [size_store]; omega)
  intro i below
  rw [byteAt_store inside, if_neg (by omega)]

end Store

section Access

variable {m : Memory} {offset : UInt32}

theorem read_ok {length : UInt32} (inside : offset.toNat + length.toNat ≤ m.size) :
    m.read offset length = .ok (m.slice offset.toNat length.toNat) := by
  unfold read checkRange
  rw [if_pos inside]
  rfl

theorem write_ok {data : List UInt8} (few : data.length < UInt32.size)
    (inside : offset.toNat + data.length ≤ m.size) :
    m.write offset data = .ok (m.store offset.toNat data) := by
  have count : (UInt32.ofNat data.length).toNat = data.length :=
    UInt32.toNat_ofNat_of_lt few
  unfold write checkRange
  rw [if_neg (Nat.not_le.2 few), count, if_pos inside]
  rfl

/-- A write that succeeds is a store within the memory. -/
theorem write_inv {m' : Memory} {data : List UInt8} (written : m.write offset data = .ok m') :
    data.length < UInt32.size ∧ offset.toNat + data.length ≤ m.size ∧
      m' = m.store offset.toNat data := by
  by_cases many : UInt32.size ≤ data.length
  · unfold write at written
    rw [if_pos many] at written
    cases written
  · have few := Nat.not_le.1 many
    have count : (UInt32.ofNat data.length).toNat = data.length :=
      UInt32.toNat_ofNat_of_lt few
    by_cases inside : offset.toNat + data.length ≤ m.size
    · rw [write_ok few inside] at written
      cases written
      exact ⟨few, inside, rfl⟩
    · unfold write checkRange at written
      rw [if_neg many, count, if_neg inside] at written
      cases written

theorem size_write {m' : Memory} {data : List UInt8} (written : m.write offset data = .ok m') :
    m'.size = m.size := by
  obtain ⟨-, -, rfl⟩ := write_inv written
  exact size_store ..

theorem size_writeWord {m' : Memory} {word : UInt32} (written : m.writeWord offset word = .ok m') :
    m'.size = m.size := by
  unfold writeWord checkAligned at written
  split at written
  · have plain : m.write offset (toLittleEndian 4 word.toNat) = .ok m' := written
    exact size_write plain
  · cases written

theorem size_writeDouble {m' : Memory} {x : Double} (written : m.writeDouble offset x = .ok m') :
    m'.size = m.size := by
  unfold writeDouble checkAligned at written
  split at written
  · have plain : m.write offset (toLittleEndian 8 x.bits.toNat) = .ok m' := written
    exact size_write plain
  · cases written

end Access

section Words

variable {m : Memory} {offset : UInt32}

theorem length_toLittleEndian (count n : Nat) : (toLittleEndian count n).length = count := by
  induction count generalizing n with
  | zero => rfl
  | succ count ih => exact congrArg (· + 1) (ih _)

theorem littleEndian_toLittleEndian (count : Nat) {n : Nat} (small : n < 256 ^ count) :
    littleEndian (toLittleEndian count n) = n := by
  induction count generalizing n with
  | zero => exact (Nat.lt_one_iff.1 small).symm
  | succ count ih =>
    have upper : n / 256 < 256 ^ count := by
      rw [Nat.pow_succ] at small
      exact Nat.div_lt_of_lt_mul (Nat.mul_comm .. ▸ small)
    have lowest : (UInt8.ofNat (n % 256)).toNat = n % 256 :=
      UInt8.toNat_ofNat_of_lt (Nat.mod_lt n (by decide))
    rw [toLittleEndian, littleEndian, ih upper, lowest]
    exact Nat.mod_add_div n 256

theorem writeWord_ok (aligned : offset % 4 = 0) (inside : offset.toNat + 4 ≤ m.size)
    (word : UInt32) :
    m.writeWord offset word = .ok (m.store offset.toNat (toLittleEndian 4 word.toNat)) := by
  have length := length_toLittleEndian 4 word.toNat
  unfold writeWord checkAligned
  rw [if_pos aligned]
  exact write_ok (by rw [length]; decide) (by rw [length]; exact inside)

theorem readWord_ok (aligned : offset % 4 = 0) (inside : offset.toNat + 4 ≤ m.size)
    {word : UInt32} (holds : m.slice offset.toNat 4 = toLittleEndian 4 word.toNat) :
    m.readWord offset = .ok word := by
  have value := littleEndian_toLittleEndian 4 (n := word.toNat) word.toNat_lt
  have read : m.read offset 4 = .ok (m.slice offset.toNat 4) := read_ok inside
  unfold readWord checkAligned
  rw [if_pos aligned, read]
  change Except.ok (UInt32.ofNat (littleEndian (m.slice offset.toNat 4))) = _
  rw [holds, value, UInt32.ofNat_toNat]

/-- Two words fit behind each other. Memory consists of whole pages, and has no more bytes than an
address tells apart. -/
structure TakesPair (m : Memory) (pointer : UInt32) : Prop where
  aligned : pointer % 4 = 0
  inside : pointer.toNat + 8 ≤ m.pages * pageSize
  address : pointer.toNat + 8 ≤ UInt32.size

theorem TakesPair.mono {m' : Memory} {pointer : UInt32} (takes : m.TakesPair pointer)
    (grown : m.pages ≤ m'.pages) : m'.TakesPair pointer :=
  ⟨takes.aligned, Nat.le_trans takes.inside (Nat.mul_le_mul_right _ grown), takes.address⟩

/-- Both words can be written, and read again. -/
theorem TakesPair.exists_written {pointer : UInt32} (takes : m.TakesPair pointer)
    (first second : UInt32) : ∃ m₁ m₂, m.writeWord pointer first = .ok m₁ ∧
      m₁.writeWord (pointer + 4) second = .ok m₂ ∧ m₂.readWord pointer = .ok first ∧
      m₂.readWord (pointer + 4) = .ok second := by
  obtain ⟨aligned, inside, address⟩ := takes
  have inside : pointer.toNat + 8 ≤ m.size :=
    Nat.le_trans inside (Nat.div_mul_le_self m.size pageSize)
  have next : (pointer + 4).toNat = pointer.toNat + 4 := by
    rw [UInt32.toNat_add]
    exact Nat.mod_eq_of_lt (Nat.lt_of_lt_of_le (Nat.add_lt_add_left (by decide) _) address)
  have nextAligned : (pointer + 4) % 4 = 0 := by
    have low := congrArg UInt32.toNat aligned
    rw [UInt32.toNat_mod] at low
    apply UInt32.toNat.inj
    rw [UInt32.toNat_mod, next]
    change pointer.toNat % 4 = 0 at low
    change (pointer.toNat + 4) % 4 = 0
    omega
  have length (word : UInt32) := length_toLittleEndian 4 word.toNat
  have room₁ : pointer.toNat + (toLittleEndian 4 first.toNat).length ≤ m.size := by
    rw [length]
    omega
  generalize one : m.store pointer.toNat (toLittleEndian 4 first.toNat) = m₁
  have size₁ : m₁.size = m.size := one ▸ size_store ..
  have room₂ : (pointer + 4).toNat + (toLittleEndian 4 second.toNat).length ≤ m₁.size := by
    rw [length, next, size₁]
    exact inside
  generalize two : m₁.store (pointer + 4).toNat (toLittleEndian 4 second.toNat) = m₂
  have size₂ : m₂.size = m.size := two ▸ (size_store ..).trans size₁
  refine ⟨m₁, m₂, ?_, ?_, readWord_ok aligned (by omega) ?_, readWord_ok nextAligned (by omega) ?_⟩
  · rw [writeWord_ok aligned (by omega), one]
  · rw [writeWord_ok nextAligned (by omega), two]
  · have self := slice_store_self room₁
    rw [length, one] at self
    rw [← two, slice_store_before room₂ (by omega), self]
  · have self := slice_store_self room₂
    rwa [length, two] at self

end Words

section Resize

variable {m : Memory}

theorem byteAt_resize {size i : Nat} (below : i < size) :
    (m.resize size).byteAt i = m.byteAt i := by
  unfold resize byteAt
  simp only [Array.getElem?_extract, Nat.zero_add, Nat.sub_zero]
  by_cases written : i < m.written.size
  · rw [if_pos (by omega)]
  · rw [if_neg (by omega), Array.getElem?_eq_none (Nat.not_lt.1 written)]

/-- A memory that does not shrink keeps its bytes. -/
theorem slice_resize {size offset length : Nat} (inside : offset + length ≤ m.size)
    (grows : m.size ≤ size) : (m.resize size).slice offset length = m.slice offset length := by
  apply slice_eq_of_bytes inside (Nat.le_trans inside grows)
  intro i below
  exact byteAt_resize (by omega)

end Resize

end GuestBridge.Memory

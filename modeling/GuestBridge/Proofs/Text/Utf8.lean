import GuestBridge.Text.Utf8
import Mathlib.Algebra.Ring.Nat
/-!
Encoding and decoding are inverse: what `encode` writes, `decode` reads as the same text.
-/

set_option autoImplicit false

namespace GuestBridge.Text.Utf8

/-! The bits that a byte of each form carries. -/

section Bits

theorem bits_two : ∀ x, x < 32 → bits (UInt8.ofNat (x + 0xc0)) 0x1f = x := by decide

theorem bits_three : ∀ x, x < 16 → bits (UInt8.ofNat (x + 0xe0)) 0x0f = x := by decide

theorem bits_four : ∀ x, x < 8 → bits (UInt8.ofNat (x + 0xf0)) 0x07 = x := by decide

theorem bits_continuation : ∀ x, x < 64 → bits (UInt8.ofNat (x + 0x80)) 0x3f = x := by decide

theorem isContinuation_continuation :
    ∀ x, x < 64 → isContinuation (UInt8.ofNat (x + 0x80)) = true := by decide

theorem secondByteOk_three : ∀ x, x < 16 → ∀ y, y < 64 → (x = 0 → 32 ≤ y) → (x = 13 → y < 32) →
    secondByteOk (UInt8.ofNat (x + 0xe0)) (UInt8.ofNat (y + 0x80)) = true := by
  decide

theorem secondByteOk_four : ∀ x, x < 5 → ∀ y, y < 64 → (x = 0 → 16 ≤ y) → (x = 4 → y < 16) →
    secondByteOk (UInt8.ofNat (x + 0xf0)) (UInt8.ofNat (y + 0x80)) = true := by
  decide

end Bits

section First

variable {x y z w : Nat} (rest : List UInt8)

theorem first?_one (below : x < 128) :
    first? (UInt8.ofNat x :: rest) = some (Char.ofNat x, 1) := by
  have value : (UInt8.ofNat x).toNat = x :=
    UInt8.toNat_ofNat_of_lt (show x < 256 by omega)
  have lead : UInt8.ofNat x < 0x80 := by
    rw [UInt8.lt_iff_toNat_lt, value]
    exact below
  unfold first?
  simp only [lead, ↓reduceIte, value]

theorem first?_two (atLeast : 2 ≤ x) (below : x < 32) (second : y < 64) :
    first? (UInt8.ofNat (x + 0xc0) :: UInt8.ofNat (y + 0x80) :: rest) =
      some (Char.ofNat (x * 64 + y), 2) := by
  have lead : ∀ x, x < 32 → 2 ≤ x → ¬ UInt8.ofNat (x + 0xc0) < 0x80 ∧
      (0xc2 ≤ UInt8.ofNat (x + 0xc0) && UInt8.ofNat (x + 0xc0) ≤ 0xdf) = true := by
    decide
  obtain ⟨high, range⟩ := lead x below atLeast
  rw [first?, if_neg high, if_pos range]
  simp only [isContinuation_continuation y second, ↓reduceIte, bits_two x below,
    bits_continuation y second]

theorem first?_three (below : x < 16) (second : y < 64) (third : z < 64)
    (long : x = 0 → 32 ≤ y) (plain : x = 13 → y < 32) :
    first? (UInt8.ofNat (x + 0xe0) :: UInt8.ofNat (y + 0x80) :: UInt8.ofNat (z + 0x80) :: rest) =
      some (Char.ofNat (x * 4096 + y * 64 + z), 3) := by
  have lead : ∀ x, x < 16 → ¬ UInt8.ofNat (x + 0xe0) < 0x80 ∧
      ¬ (0xc2 ≤ UInt8.ofNat (x + 0xe0) && UInt8.ofNat (x + 0xe0) ≤ 0xdf) = true ∧
      (0xe0 ≤ UInt8.ofNat (x + 0xe0) && UInt8.ofNat (x + 0xe0) ≤ 0xef) = true := by
    decide
  obtain ⟨high, notTwo, range⟩ := lead x below
  rw [first?, if_neg high, if_neg notTwo, if_pos range]
  simp only [secondByteOk_three x below y second long plain, isContinuation_continuation z third,
    Bool.and_self, ↓reduceIte, bits_three x below, bits_continuation y second,
    bits_continuation z third]

theorem first?_four (below : x < 5) (second : y < 64) (third : z < 64) (fourth : w < 64)
    (long : x = 0 → 16 ≤ y) (top : x = 4 → y < 16) :
    first? (UInt8.ofNat (x + 0xf0) :: UInt8.ofNat (y + 0x80) :: UInt8.ofNat (z + 0x80) ::
        UInt8.ofNat (w + 0x80) :: rest) =
      some (Char.ofNat (x * 262144 + y * 4096 + z * 64 + w), 4) := by
  have lead : ∀ x, x < 5 → ¬ UInt8.ofNat (x + 0xf0) < 0x80 ∧
      ¬ (0xc2 ≤ UInt8.ofNat (x + 0xf0) && UInt8.ofNat (x + 0xf0) ≤ 0xdf) = true ∧
      ¬ (0xe0 ≤ UInt8.ofNat (x + 0xf0) && UInt8.ofNat (x + 0xf0) ≤ 0xef) = true ∧
      (0xf0 ≤ UInt8.ofNat (x + 0xf0) && UInt8.ofNat (x + 0xf0) ≤ 0xf4) = true := by
    decide
  obtain ⟨high, notTwo, notThree, range⟩ := lead x below
  rw [first?, if_neg high, if_neg notTwo, if_neg notThree, if_pos range]
  simp only [secondByteOk_four x below y second long top, isContinuation_continuation z third,
    isContinuation_continuation w fourth, Bool.and_self, ↓reduceIte,
    bits_four x (Nat.lt_of_lt_of_le below (by decide)), bits_continuation y second,
    bits_continuation z third, bits_continuation w fourth]

end First

/-- The first character of encoded text is the one that was encoded there. -/
theorem first?_encodeChar (c : Char) (rest : List UInt8) :
    first? (String.utf8EncodeChar c ++ rest) = some (c, (String.utf8EncodeChar c).length) := by
  have value : Char.ofNat c.val.toNat = c := Char.ofNat_toNat c
  have valid : c.val.toNat < 0xd800 ∨ 0xdfff < c.val.toNat ∧ c.val.toNat < 0x110000 := c.valid
  unfold String.utf8EncodeChar
  generalize c.val.toNat = v at value valid
  simp only
  by_cases one : v ≤ 0x7f
  · rw [if_pos one]
    refine (first?_one rest (by omega)).trans ?_
    rw [value]
    rfl
  · rw [if_neg one]
    by_cases two : v ≤ 0x7ff
    · rw [if_pos two]
      refine (first?_two rest (by omega) (by omega) (by omega)).trans ?_
      have parts : v / 64 % 32 * 64 + v % 64 = v := by omega
      rw [parts, value]
      rfl
    · rw [if_neg two]
      by_cases three : v ≤ 0xffff
      · rw [if_pos three]
        refine (first?_three rest (by omega) (by omega) (by omega) (by omega) (by omega)).trans ?_
        have parts : v / 4096 % 16 * 4096 + v / 64 % 64 * 64 + v % 64 = v := by omega
        rw [parts, value]
        rfl
      · rw [if_neg three]
        refine (first?_four rest (by omega) (by omega) (by omega) (by omega) (by omega)
          (by omega)).trans ?_
        have parts : v / 262144 % 8 * 262144 + v / 4096 % 64 * 4096 + v / 64 % 64 * 64 + v % 64 =
            v := by omega
        rw [parts, value]
        rfl

theorem decodeFrom_encode (chars : List Char) (seen : Nat) (text : List Char) :
    decodeFrom (chars.flatMap String.utf8EncodeChar) seen text = .ok (text.reverse ++ chars) := by
  induction chars generalizing seen text with
  | nil =>
    have nothing : first? ([].flatMap String.utf8EncodeChar) = none := rfl
    rw [decodeFrom]
    split
    · next hit =>
      rw [nothing] at hit
      cases hit
    · rw [List.append_nil]
      rfl
  | cons c rest ih =>
    have first := first?_encodeChar c (rest.flatMap String.utf8EncodeChar)
    rw [List.flatMap_cons, decodeFrom]
    split
    · next d n hit =>
      rw [first] at hit
      cases hit
      rw [List.drop_left, ih, List.reverse_cons, List.append_assoc]
      rfl
    · next hit =>
      rw [first] at hit
      cases hit

theorem decode_encode (s : String) : decode (encode s) = .ok s := by
  unfold decode encode
  rw [decodeFrom_encode]
  exact congrArg Except.ok String.ofList_toList

/-! How many bytes a text takes. -/

section Lengths

/-- The number of ASCII characters that a text begins with. -/
def asciiLength (s : String) : Nat := (s.toList.takeWhile fun c => c.toNat < 0x80).length

/-- The text from the first character on that is not ASCII. -/
def afterAscii (s : String) : String := String.ofList (s.toList.drop (asciiLength s))

/-- The number of 16-bit units of a character. -/
def width16 (c : Char) : Nat := if c.toNat < 0x10000 then 1 else 2

theorem foldl_units16 (chars : List Char) (n : Nat) :
    chars.foldl (fun n c => n + if c.toNat < 0x10000 then 1 else 2) n =
      n + (chars.map width16).sum := by
  induction chars generalizing n with
  | nil => rfl
  | cons c rest ih =>
    rw [List.foldl_cons, ih, List.map_cons, List.sum_cons]
    exact Nat.add_assoc ..

theorem units16_eq (s : String) : units16 s = (s.toList.map width16).sum := by
  unfold units16
  rw [foldl_units16, Nat.zero_add]

theorem length_encodeChar_ascii {c : Char} (ascii : c.toNat < 0x80) :
    (String.utf8EncodeChar c).length = 1 := by
  unfold String.utf8EncodeChar
  have one : c.val.toNat ≤ 0x7f := Nat.le_of_lt_succ ascii
  simp only [one, ↓reduceIte, List.length_singleton]

theorem length_encodeChar_le (c : Char) : (String.utf8EncodeChar c).length ≤ 3 * width16 c := by
  have short : ∀ v, v = c.val.toNat → v ≤ 0xffff → width16 c = 1 := by
    intro v same few
    have : c.toNat < 0x10000 := by
      change c.val.toNat < 0x10000
      omega
    exact if_pos this
  have some : 1 ≤ width16 c := by
    unfold width16
    split <;> decide
  unfold String.utf8EncodeChar
  generalize value : c.val.toNat = v at *
  simp only
  by_cases one : v ≤ 0x7f
  · simp only [one, ↓reduceIte, List.length_cons, List.length_nil]
    omega
  · by_cases two : v ≤ 0x7ff
    · simp only [one, two, ↓reduceIte, List.length_cons, List.length_nil]
      omega
    · by_cases three : v ≤ 0xffff
      · simp only [one, two, three, ↓reduceIte, List.length_cons, List.length_nil]
        omega
      · have wide : width16 c = 2 := by
          have : ¬ c.toNat < 0x10000 := by
            change ¬ c.val.toNat < 0x10000
            omega
          exact if_neg this
        simp only [one, two, three, ↓reduceIte, List.length_cons, List.length_nil]
        omega

theorem length_encode_ascii {chars : List Char} (ascii : ∀ c ∈ chars, c.toNat < 0x80) :
    (chars.flatMap String.utf8EncodeChar).length = chars.length := by
  induction chars with
  | nil => rfl
  | cons c rest ih =>
    have one := length_encodeChar_ascii (ascii c (List.mem_cons_self ..))
    rw [List.flatMap_cons, List.length_append, one,
      ih fun d inside => ascii d (List.mem_cons_of_mem _ inside), List.length_cons]
    omega

theorem length_encode_le (s : String) : (encode s).length ≤ 3 * units16 s := by
  rw [units16_eq]
  unfold encode
  induction s.toList with
  | nil => exact Nat.le_refl _
  | cons c rest ih =>
    have first := length_encodeChar_le c
    rw [List.flatMap_cons, List.length_append, List.map_cons, List.sum_cons]
    omega

theorem asciiLength_le (s : String) : asciiLength s ≤ s.toList.length :=
  (List.takeWhile_prefix _).length_le

theorem take_asciiLength (s : String) :
    s.toList.take (asciiLength s) = s.toList.takeWhile fun c => c.toNat < 0x80 :=
  (List.prefix_iff_eq_take.1 (List.takeWhile_prefix _)).symm

theorem take_ascii (s : String) : ∀ c ∈ s.toList.take (asciiLength s), c.toNat < 0x80 := by
  intro c inside
  rw [take_asciiLength] at inside
  exact of_decide_eq_true (List.all_eq_true.1 List.all_takeWhile c inside)

/-- The bytes of a text are one for each leading ASCII character and then those of the rest. -/
theorem encode_split (s : String) :
    (encode s).take (asciiLength s) =
      (s.toList.take (asciiLength s)).flatMap String.utf8EncodeChar ∧
    (encode s).drop (asciiLength s) = encode (afterAscii s) := by
  have whole : encode s = (s.toList.take (asciiLength s)).flatMap String.utf8EncodeChar ++
      encode (afterAscii s) := by
    unfold encode afterAscii
    rw [String.toList_ofList, ← List.flatMap_append, List.take_append_drop]
  have length : ((s.toList.take (asciiLength s)).flatMap String.utf8EncodeChar).length =
      asciiLength s := by
    rw [length_encode_ascii (take_ascii s), List.length_take, Nat.min_eq_left (asciiLength_le s)]
  rw [whole]
  exact ⟨List.take_left' length, List.drop_left' length⟩

theorem length_encode (s : String) :
    (encode s).length = asciiLength s + (encode (afterAscii s)).length := by
  obtain ⟨front, back⟩ := encode_split s
  have := congrArg List.length (List.take_append_drop (asciiLength s) (encode s))
  rw [List.length_append, front, back, length_encode_ascii (take_ascii s), List.length_take,
    Nat.min_eq_left (asciiLength_le s)] at this
  exact this.symm

/-- An ASCII character is one unit, too. -/
theorem units16_split (s : String) : units16 s = asciiLength s + units16 (afterAscii s) := by
  have ones : ∀ chars : List Char, (∀ c ∈ chars, c.toNat < 0x80) →
      (chars.map width16).sum = chars.length := by
    intro chars ascii
    induction chars with
    | nil => rfl
    | cons c rest ih =>
      have low := ascii c (List.mem_cons_self ..)
      have narrow : width16 c = 1 := if_pos (Nat.lt_trans low (by decide))
      rw [List.map_cons, List.sum_cons, narrow, List.length_cons,
        ih fun d inside => ascii d (List.mem_cons_of_mem _ inside)]
      omega
  have whole := congrArg (fun chars => (chars.map width16).sum)
    (List.take_append_drop (asciiLength s) s.toList)
  simp only [List.map_append, List.sum_append] at whole
  rw [ones _ (take_ascii s), List.length_take, Nat.min_eq_left (asciiLength_le s)] at whole
  rw [units16_eq, units16_eq, ← whole]
  unfold afterAscii
  rw [String.toList_ofList]

end Lengths

end GuestBridge.Text.Utf8

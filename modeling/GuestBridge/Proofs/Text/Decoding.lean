import GuestBridge.Text.Codec
import GuestBridge.Proofs.Memory
import GuestBridge.Proofs.Text.Utf8
import Mathlib.Order.Bounds.Basic
/-!
What is text and what is not. Well-formed UTF-8 is described by the bits that bytes carry and by
what is left out: long forms, surrogates, and numbers beyond the last plane. Reading accepts exactly
that, and where it stops a character begins that is none.
-/

set_option autoImplicit false

namespace GuestBridge

namespace Text.Utf8

/-- A byte that goes on with a character carries six bits. -/
def Trails (b : UInt8) : Prop := 0x80 ≤ b.toNat ∧ b.toNat < 0xc0

/-- The number that bytes carry; the first byte says how many there are. -/
inductive Carries : List UInt8 → Nat → Prop
  | one {a : UInt8} (lead : a.toNat < 0x80) : Carries [a] a.toNat
  | two {a b : UInt8} (lead : 0xc0 ≤ a.toNat ∧ a.toNat < 0xe0) (second : Trails b) :
    Carries [a, b] ((a.toNat - 0xc0) * 64 + (b.toNat - 0x80))
  | three {a b c : UInt8} (lead : 0xe0 ≤ a.toNat ∧ a.toNat < 0xf0) (second : Trails b)
    (third : Trails c) :
    Carries [a, b, c] ((a.toNat - 0xe0) * 4096 + (b.toNat - 0x80) * 64 + (c.toNat - 0x80))
  | four {a b c d : UInt8} (lead : 0xf0 ≤ a.toNat ∧ a.toNat < 0xf8) (second : Trails b)
    (third : Trails c) (fourth : Trails d) :
    Carries [a, b, c, d] ((a.toNat - 0xf0) * 262144 + (b.toNat - 0x80) * 4096 +
      (c.toNat - 0x80) * 64 + (d.toNat - 0x80))

/-- The least number that takes so many bytes. -/
def least : Nat → Nat
  | 2 => 0x80
  | 3 => 0x800
  | 4 => 0x10000
  | _ => 0

/-- The bytes of one character. -/
structure Character (bytes : List UInt8) (v : Nat) : Prop where
  carries : Carries bytes v
  shortest : least bytes.length ≤ v
  plain : ¬ (0xd800 ≤ v ∧ v ≤ 0xdfff)
  inside : v ≤ 0x10ffff

inductive WellFormed : List UInt8 → Prop
  | nil : WellFormed []
  | cons {front rest : List UInt8} {v : Nat} (character : Character front v)
    (more : WellFormed rest) : WellFormed (front ++ rest)

section Characters

theorem toNat_ofNat_add {x k : Nat} (small : x + k < 256) : (UInt8.ofNat (x + k)).toNat = x + k :=
  UInt8.toNat_ofNat_of_lt small

theorem trails_ofNat {x : Nat} (small : x < 64) :
    Trails (UInt8.ofNat (x + 0x80)) ∧ (UInt8.ofNat (x + 0x80)).toNat = x + 0x80 := by
  have value := toNat_ofNat_add (x := x) (k := 0x80) (by omega)
  unfold Trails
  rw [value]
  omega

theorem character_encode (c : Char) : Character (String.utf8EncodeChar c) c.toNat := by
  change Character _ c.val.toNat
  have valid : c.val.toNat < 0xd800 ∨ 0xdfff < c.val.toNat ∧ c.val.toNat < 0x110000 := c.valid
  unfold String.utf8EncodeChar
  generalize c.val.toNat = v at *
  have plain : ¬ (0xd800 ≤ v ∧ v ≤ 0xdfff) := by omega
  have inside : v ≤ 0x10ffff := by omega
  dsimp only
  split_ifs with one two three
  · have value : (UInt8.ofNat v).toNat = v := UInt8.toNat_ofNat_of_lt (show v < 256 by omega)
    have carries := Carries.one (a := UInt8.ofNat v) (by omega)
    rw [value] at carries
    exact ⟨carries, Nat.zero_le v, plain, inside⟩
  · obtain ⟨second, low⟩ := trails_ofNat (x := v % 64) (by omega)
    have high := toNat_ofNat_add (x := v / 64 % 32) (k := 0xc0) (by omega)
    have carries := Carries.two (a := UInt8.ofNat (v / 64 % 32 + 0xc0)) (by omega) second
    rw [high, low] at carries
    have value : (v / 64 % 32 + 0xc0 - 0xc0) * 64 + (v % 64 + 0x80 - 0x80) = v := by omega
    rw [value] at carries
    exact ⟨carries, Nat.lt_of_not_le one, plain, inside⟩
  · obtain ⟨third, low⟩ := trails_ofNat (x := v % 64) (by omega)
    obtain ⟨second, middle⟩ := trails_ofNat (x := v / 64 % 64) (by omega)
    have high := toNat_ofNat_add (x := v / 4096 % 16) (k := 0xe0) (by omega)
    have carries := Carries.three (a := UInt8.ofNat (v / 4096 % 16 + 0xe0)) (by omega) second third
    rw [high, middle, low] at carries
    have value : (v / 4096 % 16 + 0xe0 - 0xe0) * 4096 + (v / 64 % 64 + 0x80 - 0x80) * 64 +
        (v % 64 + 0x80 - 0x80) = v := by omega
    rw [value] at carries
    exact ⟨carries, Nat.lt_of_not_le two, plain, inside⟩
  · obtain ⟨fourth, low⟩ := trails_ofNat (x := v % 64) (by omega)
    obtain ⟨third, middle⟩ := trails_ofNat (x := v / 64 % 64) (by omega)
    obtain ⟨second, upper⟩ := trails_ofNat (x := v / 4096 % 64) (by omega)
    have high := toNat_ofNat_add (x := v / 262144 % 8) (k := 0xf0) (by omega)
    have carries :=
      Carries.four (a := UInt8.ofNat (v / 262144 % 8 + 0xf0)) (by omega) second third fourth
    rw [high, upper, middle, low] at carries
    have value : (v / 262144 % 8 + 0xf0 - 0xf0) * 262144 + (v / 4096 % 64 + 0x80 - 0x80) * 4096 +
        (v / 64 % 64 + 0x80 - 0x80) * 64 + (v % 64 + 0x80 - 0x80) = v := by omega
    rw [value] at carries
    exact ⟨carries, Nat.lt_of_not_le three, plain, inside⟩

theorem toNat_ofNat {v : Nat} (plain : ¬ (0xd800 ≤ v ∧ v ≤ 0xdfff)) (inside : v ≤ 0x10ffff) :
    (Char.ofNat v).toNat = v := by
  have valid : v.isValidChar := by
    unfold Nat.isValidChar
    omega
  unfold Char.ofNat
  rw [dif_pos valid]
  rfl

theorem ofNat_eq {n : Nat} {b : UInt8} (same : n = b.toNat) : UInt8.ofNat n = b := by
  rw [same, UInt8.ofNat_toNat]

/-- There is one way to write a character. -/
theorem encode_character {front : List UInt8} {v : Nat} (character : Character front v) :
    (Char.ofNat v).toNat = v ∧ String.utf8EncodeChar (Char.ofNat v) = front := by
  obtain ⟨carries, shortest, plain, inside⟩ := character
  have value := toNat_ofNat plain inside
  refine ⟨value, ?_⟩
  have bits : (Char.ofNat v).val.toNat = v := value
  unfold String.utf8EncodeChar
  rw [bits]
  clear bits value
  dsimp only
  cases carries with
  | one lead =>
    rw [if_pos (by omega), ofNat_eq rfl]
  | @two a b lead second =>
    have shortest : 0x80 ≤ (a.toNat - 0xc0) * 64 + (b.toNat - 0x80) := shortest
    unfold Trails at second
    rw [if_neg (by omega), if_pos (by omega), ofNat_eq (b := a) (by omega),
      ofNat_eq (b := b) (by omega)]
  | @three a b c lead second third =>
    have shortest :
      0x800 ≤ (a.toNat - 0xe0) * 4096 + (b.toNat - 0x80) * 64 + (c.toNat - 0x80) := shortest
    unfold Trails at second third
    rw [if_neg (by omega), if_neg (by omega), if_pos (by omega), ofNat_eq (b := a) (by omega),
      ofNat_eq (b := b) (by omega), ofNat_eq (b := c) (by omega)]
  | @four a b c d lead second third fourth =>
    have shortest : 0x10000 ≤ (a.toNat - 0xf0) * 262144 + (b.toNat - 0x80) * 4096 +
      (c.toNat - 0x80) * 64 + (d.toNat - 0x80) := shortest
    unfold Trails at second third fourth
    rw [if_neg (by omega), if_neg (by omega), if_neg (by omega), ofNat_eq (b := a) (by omega),
      ofNat_eq (b := b) (by omega), ofNat_eq (b := c) (by omega), ofNat_eq (b := d) (by omega)]

theorem first?_character {front : List UInt8} {v : Nat} (character : Character front v)
    (rest : List UInt8) : first? (front ++ rest) = some (Char.ofNat v, front.length) := by
  have written := (encode_character character).2
  rw [← written, first?_encodeChar]

section First

variable {bytes : List UInt8}

theorem bits_eq (b : UInt8) : bits b 0x07 = b.toNat % 8 ∧ bits b 0x0f = b.toNat % 16 ∧
    bits b 0x1f = b.toNat % 32 ∧ bits b 0x3f = b.toNat % 64 :=
  ⟨Nat.and_two_pow_sub_one_eq_mod b.toNat 3, Nat.and_two_pow_sub_one_eq_mod b.toNat 4,
    Nat.and_two_pow_sub_one_eq_mod b.toNat 5, Nat.and_two_pow_sub_one_eq_mod b.toNat 6⟩

theorem isContinuation_iff (b : UInt8) : isContinuation b = true ↔ Trails b := by
  unfold isContinuation Trails
  simp only [Bool.and_eq_true, decide_eq_true_eq, UInt8.le_iff_toNat_le]
  exact and_congr_right fun _ => Nat.lt_succ_iff.symm

/-- What the second byte must be so that the number is not too small, no surrogate, and not too
large. -/
theorem secondByteOk_iff (a b : UInt8) : secondByteOk a b = true ↔ Trails b ∧
    (a.toNat = 0xe0 → 0xa0 ≤ b.toNat) ∧ (a.toNat = 0xed → b.toNat < 0xa0) ∧
    (a.toNat = 0xf0 → 0x90 ≤ b.toNat) ∧ (a.toNat = 0xf4 → b.toNat < 0x90) := by
  unfold secondByteOk
  simp only [beq_iff_eq, ← UInt8.toNat_inj, UInt8.le_iff_toNat_le,
    UInt8.reduceToNat]
  split_ifs with e0 ed f0 f4
  · grind [Trails]
  · grind [Trails]
  · grind [Trails]
  · grind [Trails]
  · rw [isContinuation_iff]
    exact ⟨fun trails => ⟨trails, fun same => absurd same e0, fun same => absurd same ed,
      fun same => absurd same f0, fun same => absurd same f4⟩, fun all => all.1⟩

theorem Carries.character {front : List UInt8} {v w : Nat} (carries : Carries front v)
    (same : w = v) (shortest : least front.length ≤ v) (plain : ¬ (0xd800 ≤ v ∧ v ≤ 0xdfff))
    (inside : v ≤ 0x10ffff) : Character front (Char.ofNat w).toNat := by
  rw [same, toNat_ofNat plain inside]
  exact ⟨carries, shortest, plain, inside⟩

theorem character_one {a : UInt8} (lead : a.toNat < 0x80) :
    Character [a] (Char.ofNat a.toNat).toNat :=
  (Carries.one lead).character rfl (Nat.zero_le _) (by omega) (by omega)

theorem character_two {a b : UInt8} (lead : 0xc2 ≤ a.toNat ∧ a.toNat ≤ 0xdf)
    (second : isContinuation b = true) :
    Character [a, b] (Char.ofNat (bits a 0x1f * 64 + bits b 0x3f)).toNat := by
  obtain ⟨-, -, high, -⟩ := bits_eq a
  obtain ⟨-, -, -, low⟩ := bits_eq b
  rw [isContinuation_iff] at second
  have carries := Carries.two (a := a) (by omega) second
  unfold Trails at second
  refine carries.character ?_ ?_ ?_ ?_
  · omega
  · change 0x80 ≤ _
    omega
  · omega
  · omega

theorem character_three {a b c : UInt8} (lead : 0xe0 ≤ a.toNat ∧ a.toNat ≤ 0xef)
    (second : secondByteOk a b = true) (third : isContinuation c = true) :
    Character [a, b, c]
      (Char.ofNat (bits a 0x0f * 4096 + bits b 0x3f * 64 + bits c 0x3f)).toNat := by
  obtain ⟨-, high, -, -⟩ := bits_eq a
  obtain ⟨-, -, -, middle⟩ := bits_eq b
  obtain ⟨-, -, -, low⟩ := bits_eq c
  rw [isContinuation_iff] at third
  obtain ⟨second, long, plain, -, -⟩ := (secondByteOk_iff a b).1 second
  have carries := Carries.three (a := a) (by omega) second third
  unfold Trails at second third
  refine carries.character ?_ ?_ ?_ ?_
  · omega
  · change 0x800 ≤ _
    omega
  · omega
  · omega

theorem character_four {a b c d : UInt8} (lead : 0xf0 ≤ a.toNat ∧ a.toNat ≤ 0xf4)
    (second : secondByteOk a b = true) (third : isContinuation c = true)
    (fourth : isContinuation d = true) :
    Character [a, b, c, d] (Char.ofNat
      (bits a 0x07 * 262144 + bits b 0x3f * 4096 + bits c 0x3f * 64 + bits d 0x3f)).toNat := by
  obtain ⟨high, -, -, -⟩ := bits_eq a
  obtain ⟨-, -, -, upper⟩ := bits_eq b
  obtain ⟨-, -, -, middle⟩ := bits_eq c
  obtain ⟨-, -, -, low⟩ := bits_eq d
  rw [isContinuation_iff] at third fourth
  obtain ⟨second, -, -, long, top⟩ := (secondByteOk_iff a b).1 second
  have carries := Carries.four (a := a) (by omega) second third fourth
  unfold Trails at second third fourth
  refine carries.character ?_ ?_ ?_ ?_
  · omega
  · change 0x10000 ≤ _
    omega
  · omega
  · omega

/-- What is read at the front is a character. -/
theorem character_first? {c : Char} {n : Nat} (found : first? bytes = some (c, n)) :
    ∃ front rest, bytes = front ++ rest ∧ front.length = n ∧ Character front c.toNat := by
  unfold first? at found
  split at found
  case h_1 => cases found
  case h_2 a rest =>
  simp only [Bool.and_eq_true, decide_eq_true_eq, UInt8.lt_iff_toNat_lt, UInt8.le_iff_toNat_le,
    UInt8.reduceToNat] at found
  split_ifs at found with one two three four
  case pos =>
    cases found
    exact ⟨[a], rest, rfl, rfl, character_one one⟩
  case pos =>
    split at found
    case h_2 => cases found
    case h_1 b rest =>
    split_ifs at found with second
    cases found
    exact ⟨[a, b], rest, rfl, rfl, character_two two second⟩
  case pos =>
    split at found
    case h_2 => cases found
    case h_1 b c rest =>
    split_ifs at found with good
    cases found
    exact ⟨[a, b, c], rest, rfl, rfl, character_three three good.1 good.2⟩
  case pos =>
    split at found
    case h_2 => cases found
    case h_1 b c d rest =>
    split_ifs at found with good
    cases found
    exact ⟨[a, b, c, d], rest, rfl, rfl, character_four four good.1.1 good.1.2 good.2⟩

end First

end Characters

section Sequences

variable {bytes front rest : List UInt8}

theorem wellFormed_encode (chars : List Char) :
    WellFormed (chars.flatMap String.utf8EncodeChar) := by
  induction chars with
  | nil => exact .nil
  | cons c chars ih =>
    rw [List.flatMap_cons]
    exact .cons (character_encode c) ih

/-- A character has one length, so that what follows well-formed bytes is known. -/
theorem WellFormed.of_append (first : WellFormed front) (whole : WellFormed (front ++ rest)) :
    WellFormed rest := by
  induction first with
  | nil => exact whole
  | @cons begun more v character _ ih =>
    rw [List.append_assoc] at whole
    have here := first?_character character (more ++ rest)
    generalize joined : begun ++ (more ++ rest) = bytes at whole here
    cases whole with
    | nil => cases here
    | @cons other after w character' wellFormed =>
      rw [first?_character character' after] at here
      have length : other.length = begun.length := congrArg Prod.snd (Option.some.inj here)
      obtain ⟨-, same⟩ := List.append_inj joined length.symm
      exact ih (same ▸ wellFormed)

/-- Reading ends behind the last byte, or at the first place where no character begins. -/
theorem decodeFrom_cases (bytes : List UInt8) (seen : Nat) (text : List Char) :
    ∃ chars rest, bytes = chars.flatMap String.utf8EncodeChar ++ rest ∧ first? rest = none ∧
      decodeFrom bytes seen text =
        if rest.isEmpty then .ok (text.reverse ++ chars)
        else .error (seen + (chars.flatMap String.utf8EncodeChar).length) := by
  fun_induction decodeFrom bytes seen text with
  | case1 bytes seen text c n found ih =>
    obtain ⟨front, after, split, length, character⟩ := character_first? found
    have written := (encode_character character).2
    rw [Char.ofNat_toNat] at written
    obtain ⟨chars, rest, remains, stop, result⟩ := ih
    have behind : bytes.drop n = after := by
      rw [split]
      exact List.drop_left' length
    refine ⟨c :: chars, rest, ?_, stop, ?_⟩
    · rw [List.flatMap_cons, written, List.append_assoc, ← remains, behind, split]
    · rw [result, List.flatMap_cons, written, List.length_append, length, List.reverse_cons,
        List.append_assoc, Nat.add_assoc]
      rfl
  | case2 bytes seen text stop empty =>
    exact ⟨[], bytes, rfl, stop, by rw [if_pos empty, List.append_nil]⟩
  | case3 bytes seen text stop more =>
    exact ⟨[], bytes, rfl, stop, by rw [if_neg more]; rfl⟩

/-- No character begins here. -/
def Barred (bytes : List UInt8) : Prop :=
  ∀ front rest v, bytes = front ++ rest → ¬ Character front v

theorem barred_of_first? (stop : first? bytes = none) : Barred bytes := by
  intro front rest v split character
  rw [split, first?_character character rest] at stop
  cases stop

theorem Barred.not_wellFormed (barred : Barred bytes) (more : bytes ≠ []) :
    ¬ WellFormed bytes := by
  intro wellFormed
  cases wellFormed with
  | nil => exact more rfl
  | cons character _ => exact barred _ _ _ rfl character

theorem Barred.take (barred : Barred bytes) (k : Nat) : Barred (bytes.take k) := by
  intro front rest v split
  refine barred front (rest ++ bytes.drop k) v ?_
  rw [← List.append_assoc, ← split, List.take_append_drop]

/-- The length of the longest beginning that is text, and what stands behind it is none. -/
structure StopsAt (bytes : List UInt8) (n : Nat) : Prop where
  longest : IsGreatest {k | k ≤ bytes.length ∧ WellFormed (bytes.take k)} n
  before : ∃ s, decode (bytes.take n) = .ok s
  behind : n < bytes.length ∧ Barred (bytes.drop n)

theorem stopsAt {chars : List Char} (barred : Barred rest) (more : rest ≠ []) :
    StopsAt (chars.flatMap String.utf8EncodeChar ++ rest)
      (chars.flatMap String.utf8EncodeChar).length := by
  have encoded := wellFormed_encode chars
  have read := decode_encode (String.ofList chars)
  unfold encode at read
  rw [String.toList_ofList] at read
  generalize chars.flatMap String.utf8EncodeChar = front at encoded read
  constructor
  case longest =>
    refine ⟨⟨by simp, by rwa [List.take_left]⟩, ?_⟩
    rintro k ⟨-, wellFormed⟩
    by_contra longer
    obtain ⟨extra, rfl⟩ := Nat.exists_eq_add_of_lt (Nat.lt_of_not_le longer)
    rw [Nat.add_assoc, List.take_length_add_append] at wellFormed
    refine (barred.take _).not_wellFormed ?_ (encoded.of_append wellFormed)
    intro none
    rcases List.take_eq_nil_iff.1 none with zero | empty
    · cases zero
    · exact more empty
  case before =>
    rw [List.take_left]
    exact ⟨_, read⟩
  case behind =>
    rw [List.drop_left]
    refine ⟨?_, barred⟩
    rw [List.length_append]
    have := List.length_pos_iff.2 more
    omega

theorem decode_cases (bytes : List UInt8) :
    (∃ s, decode bytes = .ok s ∧ encode s = bytes) ∨
      ∃ n, decode bytes = .error n ∧ StopsAt bytes n := by
  obtain ⟨chars, rest, split, stop, result⟩ := decodeFrom_cases bytes 0 []
  unfold decode
  rw [result]
  by_cases empty : rest.isEmpty = true
  · have none := List.isEmpty_iff.1 empty
    refine .inl ⟨String.ofList chars, by rw [if_pos empty]; rfl, ?_⟩
    unfold encode
    rw [String.toList_ofList, split, none, List.append_nil]
  · refine .inr ⟨_, by rw [if_neg empty]; rfl, ?_⟩
    rw [Nat.zero_add, split]
    exact stopsAt (barred_of_first? stop) fun none => empty (List.isEmpty_iff.2 none)

end Sequences

end Text.Utf8

open Text.Utf8

/-- The bytes at so many offsets in a row. -/
def Memory.bytesAt (m : Memory) (offset length : UInt32) : List UInt8 :=
  (List.range length.toNat).map fun i => m.byteAt (offset.toNat + i)

theorem Memory.slice_eq_bytesAt {m : Memory} {offset length : UInt32}
    (inside : offset.toNat + length.toNat ≤ m.size) :
    m.slice offset.toNat length.toNat = m.bytesAt offset length := by
  refine List.ext_getElem? fun i => ?_
  unfold bytesAt
  by_cases below : i < length.toNat
  · rw [getElem?_slice inside below, List.getElem?_map, List.getElem?_range below]
    rfl
  · rw [List.getElem?_eq_none, List.getElem?_eq_none]
    · rw [List.length_map, List.length_range]
      omega
    · rw [length_slice]
      omega

namespace Codec

variable {m : Memory} {offset length : UInt32}

theorem text_inside (inside : offset.toNat + length.toNat ≤ m.size) :
    text m offset length = match decode (m.bytesAt offset length) with
      | .ok s => .ok s
      | .error n => .error (.decode n length.toNat) := by
  unfold text
  rw [Memory.read_ok inside, Memory.slice_eq_bytesAt inside]
  rfl

theorem text_outside (outside : m.size < offset.toNat + length.toNat) :
    text m offset length = .error (.outOfBounds offset length m.size) := by
  unfold text Memory.read Memory.checkRange
  rw [if_neg (Nat.not_le.2 outside)]
  rfl

/-- What it comes to when a range of memory is read as text. -/
structure Reads (m : Memory) (offset length : UInt32) (outcome : Except Fault String) : Prop where
  accepted : (∃ s, outcome = .ok s) ↔
    offset.toNat + length.toNat ≤ m.size ∧ WellFormed (m.bytesAt offset length)
  text : ∀ s, outcome = .ok s ↔
    offset.toNat + length.toNat ≤ m.size ∧ encode s = m.bytesAt offset length
  outside : m.size < offset.toNat + length.toNat →
    outcome = .error (.outOfBounds offset length m.size)
  malformed : offset.toNat + length.toNat ≤ m.size → ¬ WellFormed (m.bytesAt offset length) →
    ∃ n, outcome = .error (.decode n length.toNat) ∧ StopsAt (m.bytesAt offset length) n

/-- What a codec has read before makes no difference. -/
theorem reads_exactly (c : Codec) (m : Memory) (offset length : UInt32) :
    Reads m offset length (c.read m offset length).1 := by
  change Reads m offset length (text m offset length)
  by_cases inside : offset.toNat + length.toNat ≤ m.size
  · have beyond : ¬ m.size < offset.toNat + length.toNat := Nat.not_lt.2 inside
    rw [text_inside inside]
    rcases decode_cases (m.bytesAt offset length) with ⟨s, read, same⟩ | ⟨n, stopped, stops⟩
    · have wellFormed : WellFormed (m.bytesAt offset length) := same ▸ wellFormed_encode s.toList
      rw [read]
      constructor
      case accepted => exact ⟨fun _ => ⟨inside, wellFormed⟩, fun _ => ⟨s, rfl⟩⟩
      case text =>
        refine fun s' => ⟨fun found => ?_, fun written => ?_⟩
        · cases found
          exact ⟨inside, same⟩
        · rw [← written.2, decode_encode] at read
          cases read
          rfl
      case outside => exact fun outside => absurd outside beyond
      case malformed => exact fun _ malformed => absurd wellFormed malformed
    · have malformed : ¬ WellFormed (m.bytesAt offset length) := by
        intro wellFormed
        have whole := stops.longest.2 ⟨Nat.le_refl _, by rwa [List.take_length]⟩
        exact absurd stops.behind.1 (Nat.not_lt.2 whole)
      rw [stopped]
      constructor
      case accepted => exact ⟨nofun, fun both => absurd both.2 malformed⟩
      case text =>
        refine fun s => ⟨nofun, fun written => ?_⟩
        rw [← written.2, decode_encode] at stopped
        cases stopped
      case outside => exact fun outside => absurd outside beyond
      case malformed => exact fun _ _ => ⟨n, rfl, stops⟩
  · have outside := Nat.lt_of_not_le inside
    rw [text_outside outside]
    constructor
    case accepted => exact ⟨nofun, fun both => absurd both.1 inside⟩
    case text => exact fun s => ⟨nofun, fun written => absurd written.1 inside⟩
    case outside => exact fun _ => rfl
    case malformed => exact fun within => absurd within inside

end Codec

end GuestBridge

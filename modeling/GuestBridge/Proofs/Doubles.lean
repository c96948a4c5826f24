import GuestBridge.Double
import Mathlib.Algebra.Order.Ring.Nat
/-!
Whole numbers that doubles hold exactly, and what becomes of 32-bit words that are passed on as
doubles. An unsigned word comes back as a signed one only below the half of its range, where it is
the same word; above that it comes back as the largest signed word. A negative word comes back as
zero where an unsigned one is wanted.
-/

set_option autoImplicit false

namespace GuestBridge.Double

/-! The fields of a double, by division and remainder. -/

theorem isNegative_eq (x : Double) : x.isNegative = decide (2 ^ 63 ≤ x.bits.toNat) := by
  have small := x.bits.toNat_lt
  rw [isNegative, Bool.eq_iff_iff, beq_iff_eq, decide_eq_true_iff, ← UInt64.toNat_inj,
    UInt64.toNat_shiftRight, Nat.shiftRight_eq_div_pow]
  change x.bits.toNat / 2 ^ 63 = 1 ↔ _
  omega

theorem exponentField_eq (x : Double) : x.exponentField = x.bits.toNat / 2 ^ 52 % 2 ^ 11 := by
  rw [exponentField, UInt64.toNat_and, UInt64.toNat_shiftRight, Nat.shiftRight_eq_div_pow]
  exact Nat.and_two_pow_sub_one_eq_mod _ 11

theorem fractionField_eq (x : Double) : x.fractionField = x.bits.toNat % 2 ^ 52 := by
  rw [fractionField, UInt64.toNat_and]
  exact Nat.and_two_pow_sub_one_eq_mod _ 52

theorem fields_word {top scaled : Nat} (low : top ≤ 52) (least : 2 ^ 52 ≤ scaled)
    (most : scaled < 2 ^ 53) :
    min ((top + 1022) * 0x10000000000000 + scaled) 0x7ff0000000000000 % 2 ^ 64 =
      (top + 1023) * 2 ^ 52 + (scaled - 2 ^ 52) := by
  have room : (top + 1022) * 0x10000000000000 + scaled ≤ 0x7ff0000000000000 := by omega
  rw [Nat.min_eq_left room, Nat.mod_eq_of_lt (by omega)]
  omega

/-- The bits of a whole number below `2 ^ 53`: its leading bit says the exponent, and the others
stand in front of the fraction. -/
theorem bits_ofNat {n : Nat} (positive : 0 < n) (small : n < 2 ^ 53) :
    ∃ top fraction, top ≤ 52 ∧ n * 2 ^ (52 - top) = 2 ^ 52 + fraction ∧ fraction < 2 ^ 52 ∧
      (ofNat n).bits.toNat = (top + 1023) * 2 ^ 52 + fraction := by
  have low : Nat.log2 n ≤ 52 := Nat.lt_succ_iff.1 ((Nat.log2_lt (Nat.ne_of_gt positive)).2 small)
  have below : 2 ^ Nat.log2 n ≤ n := Nat.log2_self_le (Nat.ne_of_gt positive)
  have above : n < 2 ^ (Nat.log2 n + 1) := Nat.lt_log2_self
  have split : 2 ^ 52 = 2 ^ Nat.log2 n * 2 ^ (52 - Nat.log2 n) := by
    rw [← Nat.pow_add, Nat.add_sub_cancel' low]
  have least : 2 ^ 52 ≤ n * 2 ^ (52 - Nat.log2 n) := split ▸ Nat.mul_le_mul_right _ below
  have most : n * 2 ^ (52 - Nat.log2 n) < 2 ^ 53 := by
    have strict := Nat.mul_lt_mul_of_pos_right above (Nat.two_pow_pos (52 - Nat.log2 n))
    rw [Nat.pow_succ, Nat.mul_right_comm, ← split] at strict
    exact strict
  refine ⟨Nat.log2 n, n * 2 ^ (52 - Nat.log2 n) - 2 ^ 52, low, ?_, ?_, ?_⟩
  · omega
  · omega
  · have formula : (ofNat n).bits = UInt64.ofNat (min
        ((Nat.log2 n + 1022) * 0x10000000000000 + n * 2 ^ (52 - Nat.log2 n))
        0x7ff0000000000000) := by
      rw [ofNat, if_neg (Nat.ne_of_gt positive)]
      simp only [if_pos low, Nat.pow_eq]
    rw [formula, UInt64.toNat_ofNat']
    exact fields_word low least most

theorem clampToInt_ofNat {n : Nat} (small : n < 2 ^ 53) (lo hi : Int) :
    (ofNat n).clampToInt lo hi = max lo (min hi n) := by
  rcases n.eq_zero_or_pos with rfl | positive
  · have whole : zero.wholePart = 0 := by
      rw [wholePart, if_neg (by decide), show zero.significand = 0 from rfl, Nat.zero_div]
    have fields : zero.isNaN = false ∧ zero.isInfinite = false ∧ zero.isNegative = false := by
      decide
    simp only [ofNat, clampToInt, fields, whole, Bool.false_eq_true, ↓reduceIte]
  obtain ⟨top, fraction, low, split, short, bits⟩ := bits_ofNat positive small
  have exponent : (ofNat n).exponentField = top + 1023 := by
    rw [exponentField_eq, bits]
    omega
  have rest : (ofNat n).fractionField = fraction := by
    rw [fractionField_eq, bits]
    omega
  have nonnegative : (ofNat n).isNegative = false := by
    rw [isNegative_eq, bits, decide_eq_false_iff_not]
    omega
  have whole : (ofNat n).wholePart = n := by
    have power : (ofNat n).power = (top : Int) - 52 := by
      rw [Double.power, exponent]
      omega
    have significand : (ofNat n).significand = n * 2 ^ (52 - top) := by
      rw [Double.significand, exponent, rest, split, if_neg (by omega)]
      omega
    rw [wholePart, power, significand]
    split
    · have last : top = 52 := by omega
      subst last
      simp
    · have shift : (-((top : Int) - 52)).toNat = 52 - top := by omega
      rw [shift]
      exact Nat.mul_div_cancel n (Nat.two_pow_pos _)
  have ordinary : ((ofNat n).exponentField == 0x7ff) = false := by
    rw [exponent]
    exact beq_false_of_ne (by omega)
  simp only [clampToInt, isNaN, isInfinite, ordinary, nonnegative, whole, Bool.false_and,
    Bool.false_eq_true, ↓reduceIte]

theorem clampToInt_negative {x : Double} (negative : x.isNegative = true) (hi : Int) :
    x.clampToInt 0 hi = 0 := by
  simp only [clampToInt, negative, ↓reduceIte]
  split
  · rfl
  · split
    · rfl
    · omega

/-- The sign bit of a whole number is clear, whatever the number. -/
theorem bits_ofNat_lt (n : Nat) : (ofNat n).bits.toNat < 2 ^ 63 := by
  unfold ofNat
  split
  · decide
  · simp only [UInt64.toNat_ofNat']
    generalize (if Nat.log2 n ≤ 52 then n * Nat.pow 2 (52 - Nat.log2 n)
      else roundHalfEven n (Nat.log2 n - 52)) = rounded
    omega

theorem isNegative_negate (n : Nat) : (ofNat n).negate.isNegative = true := by
  have clear : (ofNat n).bits.toNat.testBit 63 = false :=
    Nat.testBit_lt_two_pow (bits_ofNat_lt n)
  rw [isNegative_eq, decide_eq_true_iff]
  apply Nat.ge_two_pow_of_testBit
  rw [negate, UInt64.toNat_xor, Nat.testBit_xor, clear]
  decide

/-! Words of 32 bits, passed on as doubles. -/

/-- An unsigned word as a signed one: the same word in the lower half of the range, and the largest
signed word in the upper half. -/
theorem toInt32Word_ofUInt32 (w : UInt32) :
    (ofUInt32 w).toInt32Word = if w.toNat < 2 ^ 31 then w else 0x7fffffff := by
  have range := w.toNat_lt
  rw [toInt32Word, ofUInt32, clampToInt_ofNat (by omega)]
  split
  next low =>
    have same : max (-0x80000000) (min 0x7fffffff (w.toNat : Int)) = w.toNat := by omega
    rw [same, BitVec.ofInt_natCast]
    exact UInt32.toNat_inj.1 (Nat.mod_eq_of_lt range)
  next high =>
    have last : max (-0x80000000) (min 0x7fffffff (w.toNat : Int)) = 0x7fffffff := by omega
    rw [last]
    rfl

/-- A signed word as an unsigned one: the same word unless it is negative, and then zero. -/
theorem toUInt32_ofInt32Word (w : UInt32) :
    (ofInt32Word w).toUInt32 = if w.toNat < 2 ^ 31 then w else 0 := by
  have range := w.toNat_lt
  have signed : w.toBitVec.toInt = if 2 * w.toNat < 2 ^ 32 then (w.toNat : Int)
      else (w.toNat : Int) - 2 ^ 32 := BitVec.toInt_eq_toNat_cond _
  rw [toUInt32, ofInt32Word, signed]
  split
  next low =>
    rw [if_pos (by omega)]
    have whole : ofInt (w.toNat : Int) = ofNat w.toNat := rfl
    have same : max 0 (min 0xffffffff (w.toNat : Int)) = w.toNat := by omega
    rw [whole, clampToInt_ofNat (by omega), same, Int.toNat_natCast]
    exact UInt32.ofNat_toNat
  next high =>
    rw [if_neg (by omega)]
    obtain ⟨n, value⟩ : ∃ n, (w.toNat : Int) - 2 ^ 32 = .negSucc n :=
      Int.eq_negSucc_of_lt_zero (by omega)
    rw [value, ofInt, clampToInt_negative (isNegative_negate _)]
    rfl

end GuestBridge.Double

/-!
Double-precision numbers as their 64 bits: comparison, the whole part, and conversion to and from
integers. A double is told from another by its bits, and compared as a number by `Double.equals`.
-/

set_option autoImplicit false

namespace GuestBridge

/-- A number in IEEE 754 binary64 format. -/
structure Double where
  bits : UInt64
  deriving DecidableEq, Repr, Inhabited

namespace Double

def zero : Double := ⟨0⟩

def isNegative (x : Double) : Bool := x.bits >>> 63 == 1

def exponentField (x : Double) : Nat := (x.bits >>> 52 &&& 0x7ff).toNat

def fractionField (x : Double) : Nat := (x.bits &&& 0xfffffffffffff).toNat

def isNaN (x : Double) : Bool := x.exponentField == 0x7ff && x.fractionField != 0

def isInfinite (x : Double) : Bool := x.exponentField == 0x7ff && x.fractionField == 0

def isFinite (x : Double) : Bool := x.exponentField != 0x7ff

def isZero (x : Double) : Bool := x.exponentField == 0 && x.fractionField == 0

/-- The whole number `m` in the magnitude `m · 2^q` of a finite double. -/
def significand (x : Double) : Nat :=
  if x.exponentField = 0 then x.fractionField else x.fractionField + 0x10000000000000

/-- The power `q` in the magnitude `m · 2^q` of a finite double. -/
def power (x : Double) : Int := (max x.exponentField 1 : Nat) - 1075

/-- Numeric equality: NaN equals nothing, and the two zeros are equal. -/
def equals (x y : Double) : Bool :=
  !x.isNaN && !y.isNaN && (x.bits == y.bits || (x.isZero && y.isZero))

/-- The magnitude of a finite double without its fractional part. -/
def wholePart (x : Double) : Nat :=
  if 0 ≤ x.power then x.significand * Nat.pow 2 x.power.toNat
  else x.significand / Nat.pow 2 (-x.power).toNat

def isWhole (x : Double) : Bool :=
  x.isFinite && (0 ≤ x.power || x.significand % Nat.pow 2 (-x.power).toNat == 0)

/-- Drops the fractional part and clamps to `lo … hi`; NaN becomes zero. -/
def clampToInt (lo hi : Int) (x : Double) : Int :=
  if x.isNaN then 0
  else if x.isInfinite then (if x.isNegative then lo else hi)
  else max lo (min hi (if x.isNegative then -(x.wholePart : Int) else x.wholePart))

/-- The clamped 32-bit signed value, as its word. -/
def toInt32Word (x : Double) : UInt32 :=
  UInt32.ofBitVec (BitVec.ofInt 32 (x.clampToInt (-0x80000000) 0x7fffffff))

def toUInt32 (x : Double) : UInt32 := UInt32.ofNat (x.clampToInt 0 0xffffffff).toNat

def toUInt64 (x : Double) : UInt64 := UInt64.ofNat (x.clampToInt 0 0xffffffffffffffff).toNat

/-- Rounds `n / 2^s` to the nearest whole number, halves to the even one. -/
def roundHalfEven (n s : Nat) : Nat :=
  let unit := Nat.pow 2 s
  let whole := n / unit
  let twice := 2 * (n % unit)
  if twice > unit || (twice == unit && whole % 2 == 1) then whole + 1 else whole

/-- The double nearest to `n`, halves to the even one. A carry out of the rounded significand runs
into the exponent field, where it is wanted. -/
def ofNat (n : Nat) : Double :=
  if n = 0 then zero
  else
    let top := Nat.log2 n
    let rounded := if top ≤ 52 then n * Nat.pow 2 (52 - top) else roundHalfEven n (top - 52)
    let bits := (top + 1022) * 0x10000000000000 + rounded
    ⟨UInt64.ofNat (min bits 0x7ff0000000000000)⟩

def negate (x : Double) : Double := ⟨x.bits ^^^ 0x8000000000000000⟩

def ofInt : Int → Double
  | .ofNat n => ofNat n
  | .negSucc n => (ofNat (n + 1)).negate

/-- The value of a word read as a signed 32-bit integer. -/
def ofInt32Word (w : UInt32) : Double := ofInt w.toBitVec.toInt

def ofUInt32 (w : UInt32) : Double := ofNat w.toNat

def ofUInt64 (w : UInt64) : Double := ofNat w.toNat

end Double

end GuestBridge

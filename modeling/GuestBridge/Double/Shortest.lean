import GuestBridge.Double
/-!
Shortest decimal digits. Of all decimals that read back as a given double, `shortest` yields one
with the fewest digits and, of those, the nearest one; a tie goes to the larger.
-/

set_option autoImplicit false

namespace GuestBridge.Double

structure Decimal where
  digits : Nat
  scale : Int
  deriving DecidableEq, Repr

/-- The magnitude `middle / unit` of a finite double, and the interval of reals that round to it. -/
structure Interval where
  low : Nat
  middle : Nat
  high : Nat
  unit : Nat
  /-- Whether the two ends round to the double as well. -/
  closed : Bool

/-- The gap below a power of two is half the gap above it. -/
def interval (x : Double) : Interval :=
  let m := 4 * x.significand
  let below := if x.fractionField = 0 ∧ 1 < x.exponentField then 1 else 2
  let q := x.power - 2
  let up := Nat.pow 2 q.toNat
  ⟨(m - below) * up, m * up, (m + 2) * up, Nat.pow 2 (-q).toNat, x.significand % 2 == 0⟩

def Interval.contains (i : Interval) (num den : Nat) : Bool :=
  if i.closed then i.low * den ≤ num * i.unit && num * i.unit ≤ i.high * den
  else i.low * den < num * i.unit && num * i.unit < i.high * den

/-- The nearer of the two neighbours of the middle on the grid of multiples of `10^scale` that lie
in the interval. -/
def Interval.onGrid? (i : Interval) (scale : Int) : Option Decimal :=
  let up := Nat.pow 10 scale.toNat
  let den := Nat.pow 10 (-scale).toNat
  let floor := i.middle * den / (i.unit * up)
  let above := floor + 1
  let toFloor := i.middle * den - floor * up * i.unit
  let toAbove := above * up * i.unit - i.middle * den
  match i.contains (floor * up) den && 0 < floor, i.contains (above * up) den with
  | true, true => some ⟨if toFloor < toAbove then floor else above, scale⟩
  | true, false => some ⟨floor, scale⟩
  | false, true => some ⟨above, scale⟩
  | false, false => none

/-- The power of ten of the leading digit of `num / den`, which is at most `den`; `fuel` bounds
the number of leading zeros. -/
def leadingZeros (num den : Nat) : Nat → Nat
  | 0 => 0
  | fuel + 1 => if den ≤ num then 0 else leadingZeros (num * 10) den fuel + 1

def Interval.leadingPower (i : Interval) : Int :=
  if i.unit ≤ i.middle then ((Nat.toDigits 10 (i.middle / i.unit)).length : Int) - 1
  else -(leadingZeros i.middle i.unit 400 : Int)

/-- Seventeen digits always suffice. -/
def Interval.shortest (i : Interval) : Decimal :=
  let lead := i.leadingPower
  ((List.range 17).findSome? fun (d : Nat) => i.onGrid? (lead - d)).getD ⟨i.middle / i.unit, 0⟩

/-- The fewest digits that read back as the magnitude of a finite double. -/
def shortest (x : Double) : Decimal :=
  if x.isZero then ⟨0, 0⟩ else x.interval.shortest

def Decimal.positional (d : Decimal) : String :=
  let digits := Nat.toDigits 10 d.digits
  if 0 ≤ d.scale then String.ofList (digits ++ List.replicate d.scale.toNat '0')
  else
    let places := (-d.scale).toNat
    let padded := List.replicate (places + 1 - digits.length) '0' ++ digits
    let whole := padded.take (padded.length - places)
    let fraction := ((padded.drop (padded.length - places)).reverse.dropWhile (· == '0')).reverse
    String.ofList (if fraction.isEmpty then whole else whole ++ '.' :: fraction)

/-- Whole numbers below `10^21` are written out digit by digit, all other finite numbers with the
fewest digits that read back. -/
def text (x : Double) : String :=
  if x.isNaN then "NaN"
  else
    let sign := if x.isNegative then "-" else ""
    if x.isInfinite then sign ++ "Infinity"
    else if x.isWhole && x.wholePart < 1000000000000000000000 then sign ++ toString x.wholePart
    else sign ++ x.shortest.positional

end GuestBridge.Double

import GuestBridge.Value
/-!
Which values are the same. A primitive is told apart by its content and anything else by its
identity, so that sameness is equality of what values come down to. NaN comes down to nothing: it is
the same as no value, not even as itself, and among all others sameness is an equivalence.
-/

set_option autoImplicit false

namespace GuestBridge

namespace Double

/-- The number that a double stands for. The two zeros stand for one, and NaN for none. -/
def number? (x : Double) : Option Double :=
  if x.isNaN then none else some (if x.isZero then zero else x)

theorem bits_inj {x y : Double} : x.bits = y.bits ↔ x = y := by
  cases x
  cases y
  simp only [mk.injEq]

/-- Doubles are equal when they stand for one number. -/
theorem equals_iff (x y : Double) :
    x.equals y = true ↔ ∃ n, x.number? = some n ∧ y.number? = some n := by
  by_cases left : x.isNaN = true
  · simp [equals, number?, left]
  by_cases right : y.isNaN = true
  · simp [equals, number?, right]
  have reduced : x.equals y = true ↔ x = y ∨ x.isZero = true ∧ y.isZero = true := by
    simp [equals, left, right, bits_inj]
  have numbers : (∃ n, x.number? = some n ∧ y.number? = some n) ↔
      (if y.isZero then zero else y) = if x.isZero then zero else x := by
    simp [number?, left, right]
  have zeroIsZero : zero.isZero = true := by decide
  rw [reduced, numbers]
  by_cases first : x.isZero = true <;> by_cases second : y.isZero = true
  · simp only [first, second, and_self, or_true, ↓reduceIte]
  · have apart : x ≠ y := fun same => second (same ▸ first)
    have other : y ≠ zero := fun same => second (same ▸ zeroIsZero)
    simp [first, second, apart, other]
  · have apart : x ≠ y := fun same => first (same ▸ second)
    have other : zero ≠ x := fun same => first (same ▸ zeroIsZero)
    simp [first, second, apart, other]
  · simp [first, second, eq_comm]

end Double

namespace Value

/-- The kinds of values. Adapters, elements and promises are objects. -/
inductive Kind
  | undefined
  | null
  | bool
  | number
  | string
  | bytes
  | words
  | object
  | function
  | error
  deriving DecidableEq, Repr

def kind : Value → Kind
  | .undefined => .undefined
  | .null => .null
  | .bool _ => .bool
  | .number _ => .number
  | .string _ => .string
  | .bytes .. => .bytes
  | .words .. => .words
  | .object .. | .adapter .. | .element _ | .promise _ => .object
  | .function _ => .function
  | .error .. => .error

def isNaN : Value → Bool
  | .number x => x.isNaN
  | _ => false

/-- What a value is told apart by, with all else that it holds taken away; NaN has nothing. -/
def essence? : Value → Option Value
  | .number x => x.number?.map .number
  | .bytes identity _ => some (.bytes identity [])
  | .words identity _ => some (.words identity [])
  | .object identity _ => some (.object identity "")
  | .adapter identity _ => some (.adapter identity "")
  | .error identity _ => some (.error identity ⟨"", ""⟩)
  | v => some v

theorem essence?_eq_none_iff (v : Value) : v.essence? = none ↔ v.isNaN = true := by
  cases v
  case number x => simp [essence?, isNaN, Double.number?]
  all_goals simp [essence?, isNaN]

theorem kind_of_essence? {v c : Value} (comes : v.essence? = some c) : c.kind = v.kind := by
  cases v
  case number x =>
    obtain ⟨n, -, rfl⟩ := Option.map_eq_some_iff.1 comes
    rfl
  all_goals
    cases comes
    rfl

theorem shared_some_iff {a b : Value} : (∃ c, some a = some c ∧ some b = some c) ↔ a = b := by
  constructor
  · rintro ⟨c, left, right⟩
    exact Option.some.inj (left.trans right.symm)
  · intro same
    exact ⟨a, rfl, congrArg some same.symm⟩

theorem shared_number_iff {x y : Double} :
    (∃ c, (number x).essence? = some c ∧ (number y).essence? = some c) ↔
      ∃ n, x.number? = some n ∧ y.number? = some n := by
  constructor
  · rintro ⟨c, left, right⟩
    obtain ⟨n, here, rfl⟩ := Option.map_eq_some_iff.1 left
    obtain ⟨m, there, same⟩ := Option.map_eq_some_iff.1 right
    cases same
    exact ⟨n, here, there⟩
  · rintro ⟨n, left, right⟩
    exact ⟨number n, congrArg (Option.map number) left, congrArg (Option.map number) right⟩

/-- Values are the same when they come down to the same thing. -/
theorem same_iff (v w : Value) :
    v.same w = true ↔ ∃ c, v.essence? = some c ∧ w.essence? = some c := by
  cases v <;> cases w
  -- Two numbers may be the same with different bits, or differ with the same ones.
  case number.number x y => rw [shared_number_iff, same, Double.equals_iff]
  all_goals simp only [same, essence?, shared_some_iff, beq_iff_eq]
  all_goals simp

-- The two zeros are one number, and arrays are not compared by what they hold.
example : (number ⟨0⟩).same (number ⟨0x8000000000000000⟩) = true := by decide
example : (bytes 1 [7]).same (bytes 2 [7]) = false := by decide

theorem same_self_iff (v : Value) : v.same v = true ↔ v.isNaN = false := by
  rw [same_iff, ← Bool.not_eq_true, ← essence?_eq_none_iff, ← ne_eq, Option.ne_none_iff_exists']
  simp only [and_self]

theorem same_symm {v w : Value} (same : v.same w = true) : w.same v = true := by
  obtain ⟨c, left, right⟩ := (same_iff v w).1 same
  exact (same_iff w v).2 ⟨c, right, left⟩

theorem same_trans {u v w : Value} (first : u.same v = true) (second : v.same w = true) :
    u.same w = true := by
  obtain ⟨c, left, middle⟩ := (same_iff u v).1 first
  obtain ⟨d, again, right⟩ := (same_iff v w).1 second
  have one : c = d := Option.some.inj (middle.symm.trans again)
  exact (same_iff u w).2 ⟨c, left, one ▸ right⟩

/-- Whatever is the same as something is the same as itself, and NaN is not. -/
theorem same_of_nan {v : Value} (nan : v.isNaN = true) (w : Value) : v.same w = false := by
  apply Bool.eq_false_iff.2
  intro same
  have itself := (same_self_iff v).1 (same_trans same (same_symm same))
  rw [nan] at itself
  cases itself

theorem kind_of_same {v w : Value} (same : v.same w = true) : v.kind = w.kind := by
  obtain ⟨c, left, right⟩ := (same_iff v w).1 same
  exact (kind_of_essence? left).symm.trans (kind_of_essence? right)

/-- A value is the same as itself unless it is NaN, and NaN is the same as nothing. For the rest
sameness is symmetric and transitive, never holds between values of different kinds, and tells
values apart by their content or their identity. -/
theorem sameness_leaves_out_nan (u v w : Value) :
    (v.same v = true ↔ v.isNaN = false) ∧
    (v.isNaN = true → v.same w = false) ∧
    (v.same w = true → w.same v = true) ∧
    (u.same v = true → v.same w = true → u.same w = true) ∧
    (v.same w = true → v.kind = w.kind) ∧
    (v.same w = true ↔ ∃ c, v.essence? = some c ∧ w.essence? = some c) :=
  ⟨same_self_iff v, fun nan => same_of_nan nan w, same_symm, same_trans, kind_of_same,
    same_iff v w⟩

/-- NaN is not the same as itself, so that sameness is no equivalence on all values. -/
theorem nan_is_not_itself :
    (number ⟨0x7ff8000000000000⟩).same (number ⟨0x7ff8000000000000⟩) = false ∧
      ¬ Equivalence fun v w : Value => v.same w = true := by
  have unlike : (number ⟨0x7ff8000000000000⟩).same (number ⟨0x7ff8000000000000⟩) = false := by
    decide
  refine ⟨unlike, fun equivalence => ?_⟩
  have itself := equivalence.refl (number ⟨0x7ff8000000000000⟩)
  rw [unlike] at itself
  cases itself

end Value

end GuestBridge

import Mathlib.Data.Rat.Floor

/-! Unsigned fixed-point numbers with a fixed denominator: a machine integer
`inner` below `bound`, read as the rational `inner / scale`. The operations are
the usual ones of such a type. Conversion from an integer is checked.
Multiplication rounds the product down and is checked. Addition is the raw
addition of the inner integers, which wraps at `bound`. The ceiling adds one
with saturation and truncates. Multiplying by an integer rounds down and is
checked against the integer type's bound.

`toRat` reads a number as a rational. The lemmas say when each operation
computes its exact rational counterpart: a product with an integer is exact,
a sum is exact when it stays below `bound`, and the ceiling is exact when the
next integer fits (`toRat_ceil`). -/
namespace FixedPoint

/-- The width and the denominator of a fixed-point type. -/
structure Format where
  bound : Nat
  scale : Nat
  scale_pos : 0 < scale
  scale_lt : scale < bound

/-- A number of the format: `inner / scale`, with `inner < bound`. -/
structure Fixed (format : Format) where
  inner : Nat
  lt : inner < format.bound
  deriving DecidableEq, Repr

namespace Fixed

variable {format : Format}

/-- The rational a number stands for. -/
def toRat (value : Fixed format) : ℚ := (value.inner : ℚ) / format.scale

def zero : Fixed format := ⟨0, Nat.lt_trans format.scale_pos format.scale_lt⟩

def one : Fixed format := ⟨format.scale, format.scale_lt⟩

/-- Conversion from an integer: `none` when it does not fit. -/
def checkedFromInteger (n : Nat) : Option (Fixed format) :=
  if fits : n * format.scale < format.bound then some ⟨n * format.scale, fits⟩ else none

/-- The product, rounded down: `none` when it does not fit. -/
def checkedMul (value other : Fixed format) : Option (Fixed format) :=
  let product := value.inner * other.inner / format.scale
  if fits : product < format.bound then some ⟨product, fits⟩ else none

/-- Raw addition of the inner integers, wrapping at `bound`. -/
def wrappingAdd (value other : Fixed format) : Fixed format :=
  ⟨(value.inner + other.inner) % format.bound,
    Nat.mod_lt _ (Nat.lt_trans format.scale_pos format.scale_lt)⟩

/-- Addition that stops at the largest number. -/
def saturatingAdd (value other : Fixed format) : Fixed format :=
  ⟨min (value.inner + other.inner) (format.bound - 1), by have := format.scale_lt; omega⟩

/-- The integer part. -/
def trunc (value : Fixed format) : Fixed format :=
  ⟨value.inner / format.scale * format.scale, Nat.lt_of_le_of_lt (Nat.div_mul_le_self _ _) value.lt⟩

/-- The fractional part, as an inner integer. -/
def frac (value : Fixed format) : Nat := value.inner % format.scale

/-- The ceiling: the number itself when it is an integer, otherwise one more,
saturated, and truncated. -/
def ceil (value : Fixed format) : Fixed format :=
  if value.frac = 0 then value else (value.saturatingAdd one).trunc

/-- The larger of two numbers. -/
def max (value other : Fixed format) : Fixed format :=
  if value.inner ≤ other.inner then other else value

/-- The product with an integer, rounded down: `none` when it does not fit
below `intBound`. -/
def checkedMulInt (value : Fixed format) (n intBound : Nat) : Option (Fin intBound) :=
  let product := value.inner * n / format.scale
  if fits : product < intBound then some ⟨product, fits⟩ else none

/-! ### When the operations are exact -/

theorem checkedFromInteger_of_lt {n : Nat} (fits : n * format.scale < format.bound) :
    checkedFromInteger n = some (⟨n * format.scale, fits⟩ : Fixed format) := by
  simp [checkedFromInteger, fits]

theorem checkedFromInteger_of_le {n : Nat} (large : format.bound ≤ n * format.scale) :
    (checkedFromInteger n : Option (Fixed format)) = none := by
  simp [checkedFromInteger, Nat.not_lt.mpr large]

/-- A product with an integer is exact: `none` exactly when it does not fit. -/
theorem checkedMul_of_integer (value : Fixed format) {n : Nat} (fits : n * format.scale < format.bound) :
    value.checkedMul ⟨n * format.scale, fits⟩ =
      if fitsProduct : value.inner * n < format.bound then some ⟨value.inner * n, fitsProduct⟩ else none := by
  have exact : value.inner * (n * format.scale) / format.scale = value.inner * n := by
    rw [← Nat.mul_assoc, Nat.mul_div_cancel _ format.scale_pos]
  simp only [checkedMul, exact]

theorem wrappingAdd_of_lt {value other : Fixed format} (fits : value.inner + other.inner < format.bound) :
    (value.wrappingAdd other).inner = value.inner + other.inner :=
  Nat.mod_eq_of_lt fits

theorem max_inner (value other : Fixed format) : (value.max other).inner = Max.max value.inner other.inner := by
  unfold max
  rw [Nat.max_def]
  by_cases le : value.inner ≤ other.inner
  · rw [if_pos le, if_pos le]
  · rw [if_neg le, if_neg le]

/-- The ceiling of a number, when the next integer fits, is the least multiple
of `scale` at or above it. -/
theorem ceil_inner {value : Fixed format}
    (room : value.frac = 0 ∨ value.inner / format.scale * format.scale + format.scale < format.bound) :
    (ceil value).inner = (value.inner + (format.scale - 1)) / format.scale * format.scale := by
  have positive := format.scale_pos
  have below := Nat.div_add_mod' value.inner format.scale
  have fraction := Nat.mod_lt value.inner positive
  unfold ceil
  by_cases integer : value.frac = 0
  · rw [if_pos integer]
    unfold frac at integer
    have rounded : (value.inner + (format.scale - 1)) / format.scale = value.inner / format.scale := by
      apply Nat.div_eq_of_lt_le
      · omega
      · rw [Nat.add_one_mul]
        omega
    rw [rounded]
    omega
  · rw [if_neg integer]
    have fits := room.resolve_left integer
    unfold frac at integer
    -- the next integer fits, so adding one (even saturated) lands within it
    have stepped : (value.saturatingAdd one).inner / format.scale = value.inner / format.scale + 1 := by
      simp only [saturatingAdd, one]
      apply Nat.div_eq_of_lt_le
      · rw [Nat.add_one_mul]
        omega
      · simp only [Nat.add_one_mul]
        omega
    have rounded : (value.inner + (format.scale - 1)) / format.scale = value.inner / format.scale + 1 := by
      apply Nat.div_eq_of_lt_le
      · rw [Nat.add_one_mul]
        omega
      · simp only [Nat.add_one_mul]
        omega
    simp only [trunc, stepped, rounded]

/-- When the next integer does not fit, the ceiling of a number that is not an
integer saturates and falls back to its integer part. -/
theorem ceil_of_saturated {value : Fixed format} (fractional : value.frac ≠ 0)
    (full : format.bound ≤ value.inner / format.scale * format.scale + format.scale) :
    (ceil value).inner = value.inner / format.scale * format.scale := by
  have positive := format.scale_pos
  have below := Nat.div_add_mod' value.inner format.scale
  have fraction := Nat.mod_lt value.inner positive
  have bounded := value.lt
  unfold ceil
  rw [if_neg fractional]
  unfold frac at fractional
  have stepped : (value.saturatingAdd one).inner / format.scale = value.inner / format.scale := by
    simp only [saturatingAdd, one]
    apply Nat.div_eq_of_lt_le
    · omega
    · rw [Nat.add_one_mul]
      omega
  simp only [trunc, stepped]

/-- The product of an integer number with an integer is exact: `none` exactly
when it does not fit. -/
theorem checkedMulInt_of_integer (value : Fixed format) {count : Nat}
    (integer : value.inner = count * format.scale) (n intBound : Nat) :
    value.checkedMulInt n intBound =
      if fits : count * n < intBound then some ⟨count * n, fits⟩ else none := by
  have exact : value.inner * n / format.scale = count * n := by
    rw [integer, Nat.mul_right_comm, Nat.mul_div_cancel _ format.scale_pos]
  simp only [checkedMulInt, exact]

/-! ### Reading numbers as rationals -/

/-- The ceiling of a quotient of naturals. -/
theorem ceil_div_eq (numerator denominator : Nat) (positive : 0 < denominator) :
    ⌈(numerator : ℚ) / denominator⌉₊ = (numerator + (denominator - 1)) / denominator := by
  have castPositive : (0 : ℚ) < denominator := by exact_mod_cast positive
  apply le_antisymm
  · apply Nat.ceil_le.mpr
    rw [div_le_iff₀ castPositive]
    have enough := Nat.lt_div_mul_add (a := numerator + (denominator - 1)) positive
    have covered : numerator ≤ (numerator + (denominator - 1)) / denominator * denominator := by omega
    exact_mod_cast covered
  · apply Nat.le_of_lt_succ
    apply (Nat.div_lt_iff_lt_mul positive).mpr
    have above : (numerator : ℚ) / denominator ≤ ⌈(numerator : ℚ) / denominator⌉₊ := Nat.le_ceil _
    rw [div_le_iff₀ castPositive] at above
    have covered : numerator ≤ ⌈(numerator : ℚ) / denominator⌉₊ * denominator := by exact_mod_cast above
    rw [Nat.succ_mul]
    omega

/-- The ceiling, when the next integer fits, is the exact ceiling. -/
theorem toRat_ceil {value : Fixed format}
    (room : value.frac = 0 ∨ value.inner / format.scale * format.scale + format.scale < format.bound) :
    (ceil value).inner = ⌈value.toRat⌉₊ * format.scale := by
  rw [ceil_inner room, toRat, ceil_div_eq _ _ format.scale_pos]

/-- A number whose exact ceiling fits leaves `ceil` room for it. -/
theorem room_of_ceil_lt {value : Fixed format} (fits : ⌈value.toRat⌉₊ * format.scale < format.bound) :
    value.frac = 0 ∨ value.inner / format.scale * format.scale + format.scale < format.bound := by
  have positive := format.scale_pos
  have below := Nat.div_add_mod' value.inner format.scale
  rw [toRat, ceil_div_eq _ _ positive] at fits
  by_cases integer : value.frac = 0
  · exact Or.inl integer
  · right
    unfold frac at integer
    have rounded : (value.inner + (format.scale - 1)) / format.scale = value.inner / format.scale + 1 := by
      apply Nat.div_eq_of_lt_le
      · rw [Nat.add_one_mul]
        omega
      · have fraction := Nat.mod_lt value.inner positive
        simp only [Nat.add_one_mul]
        omega
    rw [rounded, Nat.add_one_mul] at fits
    exact fits

end Fixed

end FixedPoint

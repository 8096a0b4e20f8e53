import Mathlib.Data.List.Basic

/-! Unsigned integers written in a radix up to sixteen, the way Rust writes
and reads them: `Nat.toDigits` is the `{:x}`-style formatting (most
significant digit first, lowercase letters, `0` for zero), and
`fromStrRadix` is `from_str_radix` of an unsigned type whose values lie below
`bound`, with its three errors (an empty text, a character that is not a digit
of the radix, a value that does not fit).

`fromStrRadix_toDigits` reads back every value the formatting writes, and
`mem_toDigits` says that the formatting writes digit characters only, so
that a separator outside the digits splits formatted numbers apart again. -/
namespace Radix

/-- The value of an ASCII digit or letter, in any radix up to thirty-six. -/
def digitValue (c : Char) : Option Nat :=
  if '0' ≤ c ∧ c ≤ '9' then some (c.toNat - '0'.toNat)
  else if 'a' ≤ c ∧ c ≤ 'z' then some (c.toNat - 'a'.toNat + 10)
  else if 'A' ≤ c ∧ c ≤ 'Z' then some (c.toNat - 'A'.toNat + 10)
  else none

/-- `char::to_digit`: the value of a character, when it is a digit of the radix. -/
def toDigit (radix : Nat) (c : Char) : Option Nat :=
  (digitValue c).filter (· < radix)

/-- `IntErrorKind`, by the kinds an unsigned parse can return. -/
inductive IntErrorKind where
  | empty
  | invalidDigit
  | posOverflow
  deriving DecidableEq, Repr

/-- The digits of a text read into `result`, most significant first, with the
checked multiplication and addition of the type. -/
def accumulate (radix bound : Nat) : List Char → Nat → Except IntErrorKind Nat
  | [], result => .ok result
  | c :: rest, result =>
    match toDigit radix c with
    | none => .error .invalidDigit
    | some digit =>
      if result * radix < bound then
        if result * radix + digit < bound then accumulate radix bound rest (result * radix + digit)
        else .error .posOverflow
      else .error .posOverflow

/-- `from_str_radix` of an unsigned type: an optional `+`, then at least one
digit. A lone sign is an invalid digit, and so is a `-`. -/
def fromStrRadix (radix bound : Nat) (src : List Char) : Except IntErrorKind Nat :=
  match src with
  | [] => .error .empty
  | ['+'] | ['-'] => .error .invalidDigit
  | '+' :: digits => accumulate radix bound digits 0
  | digits => accumulate radix bound digits 0

theorem digitValue_digitChar : ∀ digit : Fin 16, digitValue (Nat.digitChar digit.val) = some digit.val := by
  decide

theorem toDigit_digitChar {radix digit : Nat} (small : radix ≤ 16) (isDigit : digit < radix) :
    toDigit radix (Nat.digitChar digit) = some digit := by
  have value := digitValue_digitChar ⟨digit, Nat.lt_of_lt_of_le isDigit small⟩
  simp only [toDigit, value, Option.filter_some, isDigit, decide_true, ↓reduceIte]

/-- The formatting writes the digit characters of the radix and nothing else. -/
theorem mem_toDigits {radix : Nat} (base : 1 < radix) {n : Nat} {c : Char} (written : c ∈ Nat.toDigits radix n) :
    ∃ digit < radix, c = Nat.digitChar digit := by
  induction n using Nat.base_induction radix base with
  | single m isDigit =>
    rw [Nat.toDigits_of_lt_base isDigit, List.mem_singleton] at written
    exact ⟨m, isDigit, written⟩
  | digit m k isDigit positive ih =>
    rw [← Nat.toDigits_append_toDigits base positive isDigit, Nat.toDigits_of_lt_base isDigit,
      List.mem_append, List.mem_singleton] at written
    rcases written with higher | last
    · exact ih higher
    · exact ⟨k, isDigit, last⟩

/-- Reading the digits of a value that fits, followed by anything, goes on from
the value. -/
theorem accumulate_toDigits_append {radix bound : Nat} (base : 1 < radix) (small : radix ≤ 16) {n : Nat}
    (fits : n < bound) (rest : List Char) :
    accumulate radix bound (Nat.toDigits radix n ++ rest) 0 = accumulate radix bound rest n := by
  induction n using Nat.base_induction radix base generalizing rest with
  | single m isDigit =>
    have first : 0 * radix < bound := by omega
    have value : 0 * radix + m < bound := by omega
    rw [Nat.toDigits_of_lt_base isDigit, List.singleton_append, accumulate, toDigit_digitChar small isDigit]
    dsimp only
    rw [if_pos first, if_pos value, Nat.zero_mul, Nat.zero_add]
  | digit m k isDigit positive ih =>
    -- the higher digits read `m`, and the last one takes it to `radix * m + k`
    have higher : m < bound := Nat.lt_of_le_of_lt (Nat.le_add_right_of_le (Nat.le_mul_of_pos_left m
      (Nat.lt_trans Nat.zero_lt_one base))) fits
    have shifted : m * radix < bound := by
      rw [Nat.mul_comm]
      exact Nat.lt_of_le_of_lt (Nat.le_add_right _ k) fits
    have value : m * radix + k < bound := by
      rw [Nat.mul_comm]
      exact fits
    rw [← Nat.toDigits_append_toDigits base positive isDigit, Nat.toDigits_of_lt_base isDigit,
      List.append_assoc, ih higher, List.singleton_append, accumulate, toDigit_digitChar small isDigit]
    dsimp only
    rw [if_pos shifted, if_pos value, Nat.mul_comm m radix]

/-- `from_str_radix` reads back what `{:x}`-style formatting writes of a value
that fits. -/
theorem fromStrRadix_toDigits {radix bound : Nat} (base : 1 < radix) (small : radix ≤ 16) {n : Nat}
    (fits : n < bound) : fromStrRadix radix bound (Nat.toDigits radix n) = .ok n := by
  have read := accumulate_toDigits_append base small fits []
  rw [List.append_nil] at read
  obtain ⟨c, cs, spelled⟩ : ∃ c cs, Nat.toDigits radix n = c :: cs := by
    cases written : Nat.toDigits radix n with
    | nil => exact absurd written Nat.toDigits_ne_nil
    | cons c cs => exact ⟨c, cs, rfl⟩
  -- the first character is a digit, so neither sign
  obtain ⟨digit, isDigit, first⟩ := mem_toDigits base (spelled ▸ List.mem_cons_self : c ∈ Nat.toDigits radix n)
  have notSign : ∀ d : Fin 16, Nat.digitChar d ≠ '+' ∧ Nat.digitChar d ≠ '-' := by decide
  obtain ⟨notPlus, notMinus⟩ := notSign ⟨digit, Nat.lt_of_lt_of_le isDigit small⟩
  rw [← first] at notPlus notMinus
  rw [spelled] at read ⊢
  unfold fromStrRadix
  split
  · next _ empty => exact absurd empty (List.cons_ne_nil c cs)
  · next _ plus => exact absurd (List.cons.inj plus).1 notPlus
  · next _ minus => exact absurd (List.cons.inj minus).1 notMinus
  · next _ _ _ plus => exact absurd (List.cons.inj plus).1 notPlus
  · exact read

/-- Splitting a text at a separator gives one field more than the text has
separators. -/
theorem length_splitOn {α : Type} [BEq α] (separator : α) (text : List α) :
    (text.splitOn separator).length = text.count separator + 1 := by
  rw [List.splitOn_eq_splitOnP]
  induction text with
  | nil => rfl
  | cons symbol rest ih =>
    rw [List.splitOnP_cons_eq_if_modifyHead, List.count_cons]
    -- both `if`s test the same symbol
    split
    · rw [List.length_cons, ih]
    · rw [List.length_modifyHead, ih, Nat.add_zero]

end Radix

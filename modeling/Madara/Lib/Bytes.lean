import Mathlib.Data.List.Basic
import Mathlib.Tactic.Ring

/-! Fixed-width big-endian byte strings of natural numbers. A value is written
most significant byte first and read back by folding the bytes; writing keeps
the value modulo the width. Every 32-byte word of the development goes through
these two directions. -/
namespace ByteOrder

/-- The `width` bytes of `value`, most significant first. Bytes above the
width are dropped, exactly as a fixed-size buffer drops them. -/
def toBytesBE : Nat → Nat → List UInt8
  | 0, _ => []
  | width + 1, value => toBytesBE width (value / 256) ++ [UInt8.ofNat (value % 256)]

/-- The number a big-endian byte string denotes. -/
def ofBytesBE (bytes : List UInt8) : Nat :=
  bytes.foldl (fun acc byte => acc * 256 + byte.toNat) 0

@[simp] theorem toBytesBE_length (width value : Nat) : (toBytesBE width value).length = width := by
  induction width generalizing value with
  | zero => rfl
  | succ width ih => simp [toBytesBE, ih]

@[simp] theorem ofBytesBE_nil : ofBytesBE [] = 0 := rfl

theorem ofBytesBE_append_byte (bytes : List UInt8) (byte : UInt8) :
    ofBytesBE (bytes ++ [byte]) = ofBytesBE bytes * 256 + byte.toNat := by
  simp [ofBytesBE, List.foldl_append]

/-- Reading back a written value gives it modulo the width. -/
theorem ofBytesBE_toBytesBE (width value : Nat) :
    ofBytesBE (toBytesBE width value) = value % 256 ^ width := by
  induction width generalizing value with
  | zero => simp [toBytesBE, Nat.mod_one]
  | succ width ih =>
    have low : (UInt8.ofNat (value % 256)).toNat = value % 256 := by simp
    rw [toBytesBE, ofBytesBE_append_byte, ih, low]
    rw [Nat.pow_succ, Nat.mul_comm (256 ^ width) 256, Nat.mod_mul]
    omega

/-- A value below the width is read back unchanged. -/
theorem ofBytesBE_toBytesBE_of_lt {width value : Nat} (bound : value < 256 ^ width) :
    ofBytesBE (toBytesBE width value) = value := by
  rw [ofBytesBE_toBytesBE, Nat.mod_eq_of_lt bound]

end ByteOrder

import Mathlib.Data.Nat.Bitwise

set_option autoImplicit false

/- Single-bit access to 64-bit words, as bitmaps use it: a bit is read with
   `(w >> b) & 1 == 1`, set with `w | 1 << b` and cleared with `w & !(1 << b)`.
   Everything is stated through `Nat.testBit` of the word's value. -/
namespace Word

theorem test_shift_and_one (w : UInt64) (b : ℕ) (small : b < 64) :
    (((w >>> UInt64.ofNat b) &&& 1) == 1) = w.toNat.testBit b := by
  have value : ((w >>> UInt64.ofNat b) &&& 1).toNat = w.toNat / 2 ^ b % 2 := by
    simp [Nat.shiftRight_eq_div_pow, Nat.and_one_is_mod, Nat.mod_eq_of_lt small]
  rw [Nat.testBit_eq_decide_div_mod_eq, ← value, Bool.eq_iff_iff, beq_iff_eq, decide_eq_true_iff,
    ← UInt64.toNat_inj, UInt64.toNat_one]

theorem test_or_shift (w : UInt64) (b k : ℕ) (small : b < 64) :
    (w ||| ((1 : UInt64) <<< UInt64.ofNat b)).toNat.testBit k = (decide (k = b) || w.toNat.testBit k) := by
  have pow : 2 ^ b % 18446744073709551616 = 2 ^ b :=
    Nat.mod_eq_of_lt (lt_of_lt_of_le (Nat.pow_lt_pow_right Nat.one_lt_two small) (le_refl (2 ^ 64)))
  simp only [UInt64.toNat_or, UInt64.toNat_shiftLeft, UInt64.toNat_ofNat, Nat.testBit_or]
  simp [Nat.mod_eq_of_lt small, pow, Nat.shiftLeft_eq, Nat.testBit_two_pow]
  by_cases same : k = b
  · simp [same]
  · simp [same, Ne.symm same]

theorem test_and_not_shift (w : UInt64) (b k : ℕ) (small : b < 64) (within : k < 64) :
    (w &&& ~~~((1 : UInt64) <<< UInt64.ofNat b)).toNat.testBit k = (!decide (k = b) && w.toNat.testBit k) := by
  -- the complement is easiest bit by bit on the underlying `BitVec 64`
  rw [← UInt64.toNat_toBitVec, ← UInt64.toNat_toBitVec w, BitVec.testBit_toNat, BitVec.testBit_toNat]
  simp [Nat.mod_eq_of_lt small, within]
  by_cases same : k = b
  · simp [same]
  · by_cases less : k < b
    · simp [same, less]
    · simp [same, less]
      omega

-- Masking with `0u64.wrapping_sub(2^k)` rounds down to a multiple of `2^k`.
theorem and_high_mask (n w k : ℕ) (fits : n < 2 ^ w) (narrow : k ≤ w) :
    n &&& (2 ^ w - 2 ^ k) = n - n % 2 ^ k := by
  apply Nat.eq_of_testBit_eq
  intro j
  have mask : 2 ^ w - 2 ^ k = (2 ^ (w - k) - 1) * 2 ^ k := by
    rw [Nat.sub_mul, one_mul, ← Nat.pow_add, Nat.sub_add_cancel narrow]
  have down : n - n % 2 ^ k = n / 2 ^ k * 2 ^ k := by
    have := Nat.div_add_mod n (2 ^ k)
    rw [Nat.mul_comm] at this
    omega
  rw [Nat.testBit_and, mask, down, Nat.testBit_mul_two_pow, Nat.testBit_mul_two_pow,
    Nat.testBit_two_pow_sub_one, Nat.testBit_div_two_pow]
  by_cases low : k ≤ j
  · by_cases high : j < w
    · simp [low, Nat.sub_add_cancel low]
      omega
    · have zero : n.testBit j = false :=
        Nat.testBit_lt_two_pow (lt_of_lt_of_le fits (Nat.pow_le_pow_right Nat.zero_lt_two (by omega)))
      simp [low, Nat.sub_add_cancel low, zero]
  · simp [low]

theorem and_high_mask_or (n w k b : ℕ) (fits : n < 2 ^ w) (narrow : k ≤ w) (small : b < 2 ^ k) :
    n &&& (2 ^ w - 2 ^ k) ||| b = 2 ^ k * (n / 2 ^ k) + b := by
  have down : n - n % 2 ^ k = 2 ^ k * (n / 2 ^ k) := by
    have := Nat.div_add_mod n (2 ^ k)
    omega
  rw [and_high_mask n w k fits narrow, down, Nat.two_pow_add_eq_or_of_lt small]

end Word

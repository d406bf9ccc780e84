import Mathlib.Tactic

/-!
# Machine words as numbers

The natural number of a minimum, a maximum, a sum that does not wrap and a difference, for the
32-bit and 64-bit words of the C code.
-/

namespace Xice.Lib.Word

/-- `min` of words is `min` of numbers. -/
@[simp] theorem toNat_min32 (a b : UInt32) : (min a b).toNat = min a.toNat b.toNat := by
  change (if a ≤ b then a else b).toNat = _
  split
  · rename_i below
    exact (Nat.min_eq_left (UInt32.le_iff_toNat_le.mp below)).symm
  · rename_i above
    have above := mt UInt32.le_iff_toNat_le.mpr above
    omega

/-- `max` of words is `max` of numbers. -/
@[simp] theorem toNat_max32 (a b : UInt32) : (max a b).toNat = max a.toNat b.toNat := by
  change (if a ≤ b then b else a).toNat = _
  split
  · rename_i below
    exact (Nat.max_eq_right (UInt32.le_iff_toNat_le.mp below)).symm
  · rename_i above
    have above := mt UInt32.le_iff_toNat_le.mpr above
    omega

/-- A sum that fits does not wrap. -/
theorem toNat_add32 {a b : UInt32} (fits : a.toNat + b.toNat < 2 ^ 32) :
    (a + b).toNat = a.toNat + b.toNat := by
  rw [UInt32.toNat_add, Nat.mod_eq_of_lt fits]

/-- A difference in order does not wrap. -/
theorem toNat_sub32 {a b : UInt32} (ordered : b.toNat ≤ a.toNat) :
    (a - b).toNat = a.toNat - b.toNat :=
  UInt32.toNat_sub_of_le _ _ (UInt32.le_iff_toNat_le.mpr ordered)

/-- The same with 64 bits. -/
theorem toNat_sub64 {a b : UInt64} (ordered : b.toNat ≤ a.toNat) :
    (a - b).toNat = a.toNat - b.toNat :=
  UInt64.toNat_sub_of_le _ _ (UInt64.le_iff_toNat_le.mpr ordered)

/-- The distance from `base` grows with a word that does not wrap. -/
theorem toNat_add_sub32 (base word count : UInt32)
    (fits : (word - base).toNat + count.toNat < 2 ^ 32) :
    (word + count - base).toNat = (word - base).toNat + count.toNat := by
  have moved : word + count - base = word - base + count := by grind
  rw [moved, toNat_add32 fits]

/-- A 32-bit word is zero exactly when its number is. -/
theorem eq_zero32 {a : UInt32} : a = 0 ↔ a.toNat = 0 := by
  rw [← UInt32.toNat_inj]
  rfl

/-- A mask of bits in a row keeps these bits. -/
theorem and_mask (n width shift : Nat) :
    n &&& ((2 ^ width - 1) <<< shift) = n / 2 ^ shift % 2 ^ width * 2 ^ shift := by
  rw [← Nat.shiftLeft_eq]
  apply Nat.eq_of_testBit_eq
  intro bit
  rw [Nat.testBit_and, Nat.testBit_shiftLeft, Nat.testBit_shiftLeft, Nat.testBit_two_pow_sub_one,
    Nat.testBit_mod_two_pow, Nat.testBit_div_two_pow]
  by_cases low : shift ≤ bit
  · simp [low, Bool.and_comm]
  · simp [low]

/-- Bits below the shift are added by `or`. -/
theorem or_low {high low : Nat} (shift : Nat) (below : low < 2 ^ shift) :
    high * 2 ^ shift ||| low = high * 2 ^ shift + low := by
  rw [← Nat.shiftLeft_eq, Nat.shiftLeft_add_eq_or_of_lt below]

/-- A 32-bit difference, taken round the end of the range. -/
theorem wrapped_sub32 (a b : UInt32) : a + (0xFFFFFFFF - b) + 1 = a - b := by grind

/-- The signed reading of a 32-bit word. -/
theorem toInt_toInt32 (a : UInt32) : a.toInt32.toInt = (a.toNat : Int).bmod (2 ^ 32) := by
  rw [← Int32.toInt_toBitVec]
  exact BitVec.toInt_eq_toNat_bmod _

/-- The 32-bit word of an integer inside the range. -/
theorem toNat_ofInt32 {a : Int} (least : 0 ≤ a) (most : a < 2 ^ 32) :
    (UInt32.ofInt a).toNat = a.toNat := by
  rw [UInt32.ofInt, UInt32.toNat_ofNat_of_lt' (by change _ < 2 ^ 32; omega)]
  omega

end Xice.Lib.Word

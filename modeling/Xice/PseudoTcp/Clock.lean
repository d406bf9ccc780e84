import Xice.PseudoTcp.Types

/-!
# Time on a 32-bit millisecond clock

`bound`, `time_is_between` and `time_diff`. The two comparisons of `time_diff` decide on which
side of `earlier` the reading `later` lies; its result is the `gint32` the function returns.
-/

namespace Xice.PseudoTcp

open Xice.Lib

/-- `bound`. -/
def bound (lower middle upper : UInt32) : UInt32 := min (max lower middle) upper

/-- `time_is_between`. -/
def timeIsBetween (later middle earlier : UInt32) : Bool :=
  if earlier ≤ later then decide (earlier ≤ middle) && decide (middle ≤ later)
  else !(decide (later < middle) && decide (middle < earlier))

/-- `time_diff`: differences in `guint32`, widened to `long`, and truncated to `gint32`. -/
def timeDiff (later earlier : UInt32) : Int :=
  let last : UInt32 := 0xFFFFFFFF
  let half : UInt32 := 0x80000000
  if timeIsBetween (earlier + half) later earlier then
    if earlier ≤ later then (later - earlier).toInt32.toInt
    else (later + (last - earlier) + 1).toInt32.toInt
  else
    if later ≤ earlier then (-(earlier - later).toInt32).toInt
    else (-(earlier + (last - later) + 1).toInt32).toInt

/-- The four cases are one signed difference. -/
theorem timeDiff_eq (later earlier : UInt32) :
    timeDiff later earlier = ((later.toNat : Int) - earlier.toNat).bmod (2 ^ 32) := by
  have back : -(earlier - later).toInt32 = (later - earlier).toInt32 := by
    rw [← UInt32.toInt32_neg, UInt32.neg_sub]
  simp only [timeDiff, Word.wrapped_sub32, ite_self, back]
  have first := later.toNat_lt
  have last := earlier.toNat_lt
  rw [Word.toInt_toInt32, UInt32.toNat_sub, Int.bmod_def, Int.bmod_def]
  omega

/-- `time_diff` is the signed difference modulo the range of the clock, wherever the clock starts.
-/
theorem timeDiff_signed (a b : UInt32) :
    (-2 ^ 31 ≤ timeDiff a b ∧ timeDiff a b < 2 ^ 31) ∧
      timeDiff a b ≡ a.toNat - b.toNat [ZMOD 2 ^ 32] ∧
      ∀ d : UInt32, timeDiff (a + d) (b + d) = timeDiff a b := by
  refine ⟨?_, ?_, fun d => ?_⟩
  · rw [timeDiff_eq, Int.bmod_def]
    omega
  · rw [timeDiff_eq]
    exact Int.bmod_emod
  · rw [timeDiff_eq, timeDiff_eq, UInt32.toNat_add, UInt32.toNat_add, Int.bmod_def, Int.bmod_def]
    omega

end Xice.PseudoTcp

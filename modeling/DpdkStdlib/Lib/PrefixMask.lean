import Mathlib.Data.BitVec
import Mathlib.Tactic.IntervalCases

/-!
# Prefix masks

* `prefixMask w len` : `len` ones, then zeros;
* `and_prefixMask_eq_iff` : two words agree under the mask exactly if their first `len` bits do.
-/

namespace DpdkStdlib.Lib

variable {w : Nat}

def prefixMask (w len : Nat) : BitVec w := BitVec.allOnes w <<< (w - len)

theorem getLsbD_prefixMask (len i : Nat) :
    (prefixMask w len).getLsbD i = (decide (i < w) && !decide (i < w - len)) := by
  simp only [prefixMask, BitVec.getLsbD_shiftLeft, BitVec.getLsbD_allOnes]
  by_cases h : i < w
  · have : i - (w - len) < w := by omega
    simp [h, this]
  · simp [h]

/-- What a mask keeps of a word is the word without its last bits. -/
theorem and_prefixMask_eq_iff (len : Nat) (x y : BitVec w) :
    x &&& prefixMask w len = y &&& prefixMask w len ↔ x.toNat / 2 ^ (w - len) = y.toNat / 2 ^ (w - len) := by
  rw [← Nat.shiftRight_eq_div_pow, ← Nat.shiftRight_eq_div_pow, ← BitVec.toNat_ushiftRight,
    ← BitVec.toNat_ushiftRight, BitVec.toNat_inj]
  constructor
  · intro h
    apply BitVec.eq_of_getLsbD_eq
    intro i _
    have hi := congrArg (BitVec.getLsbD · (w - len + i)) h
    simp only [BitVec.getLsbD_and, getLsbD_prefixMask] at hi
    rw [BitVec.getLsbD_ushiftRight, BitVec.getLsbD_ushiftRight]
    by_cases hw : w - len + i < w
    · simpa [hw] using hi
    · rw [BitVec.getLsbD_of_ge _ _ (by omega), BitVec.getLsbD_of_ge _ _ (by omega)]
  · intro h
    apply BitVec.eq_of_getLsbD_eq
    intro i hw
    rw [BitVec.getLsbD_and, BitVec.getLsbD_and, getLsbD_prefixMask]
    by_cases hi : i < w - len
    · simp [hi]
    · have hbit := congrArg (BitVec.getLsbD · (i - (w - len))) h
      simp only [BitVec.getLsbD_ushiftRight] at hbit
      rw [Nat.add_sub_cancel' (by omega)] at hbit
      rw [hbit]

end DpdkStdlib.Lib

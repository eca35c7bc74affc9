import Mathlib.Data.BitVec
import Mathlib.Tactic.Ring

/-!
# Serial-number arithmetic on `w + 1`-bit words

`before a b` is the serial order: `b` lies fewer than `2^w` steps after `a`.

* `sub_ofNat_add` : the distance between two offsets from one origin;
* `before_offset` : serial order of two offsets from one origin is their order, when they are less than half apart;
* `between_dist` : a word after `a` and not after `c` lies at a distance between `1` and the distance of `c`, whatever
  that distance is.
-/

namespace DpdkStdlib.Lib.Serial

variable {w : Nat}

/-- Serial order: `b` lies fewer than `2^w` steps after `a`. -/
def before (a b : BitVec (w + 1)) : Bool := b - a != 0 && decide ((b - a).toNat < 2 ^ w)

theorem before_iff (a b : BitVec (w + 1)) : before a b = true ↔ 0 < (b - a).toNat ∧ (b - a).toNat < 2 ^ w := by
  have hz : b - a ≠ 0 ↔ 0 < (b - a).toNat := by
    rw [Nat.pos_iff_ne_zero, ne_eq, ne_eq, ← BitVec.toNat_inj]
    simp
  rw [before, Bool.and_eq_true, bne_iff_ne, decide_eq_true_eq, hz]

theorem toNat_sub_eq (a b : BitVec (w + 1)) :
    (b - a).toNat = if a.toNat ≤ b.toNat then b.toNat - a.toNat else 2 ^ (w + 1) + b.toNat - a.toNat := by
  have ha := a.isLt
  have hb := b.isLt
  rw [BitVec.toNat_sub]
  split_ifs with h
  · rw [show 2 ^ (w + 1) - a.toNat + b.toNat = (b.toNat - a.toNat) + 2 ^ (w + 1) by omega, Nat.add_mod_right,
      Nat.mod_eq_of_lt (by omega)]
  · rw [Nat.mod_eq_of_lt (by omega)]
    omega

theorem ofNat_add_ofNat (s : BitVec (w + 1)) (a b : Nat) :
    s + BitVec.ofNat (w + 1) (a + b) = s + BitVec.ofNat (w + 1) a + BitVec.ofNat (w + 1) b := by
  rw [BitVec.ofNat_add, BitVec.add_assoc]

theorem sub_ofNat_add (s : BitVec (w + 1)) (a d : Nat) :
    s + BitVec.ofNat (w + 1) (a + d) - (s + BitVec.ofNat (w + 1) a) = BitVec.ofNat (w + 1) d := by
  rw [ofNat_add_ofNat]
  ring

theorem toNat_sub_offset (s : BitVec (w + 1)) {a b : Nat} (hab : a ≤ b) (hlt : b - a < 2 ^ (w + 1)) :
    (s + BitVec.ofNat (w + 1) b - (s + BitVec.ofNat (w + 1) a)).toNat = b - a := by
  obtain ⟨d, rfl⟩ := Nat.exists_eq_add_of_le hab
  rw [sub_ofNat_add, BitVec.toNat_ofNat, Nat.mod_eq_of_lt (by omega)]
  omega

/-- Offsets from one origin that are equal as words are equal when they are less than a full turn apart. -/
theorem offset_inj (s : BitVec (w + 1)) {a b : Nat} (h : s + BitVec.ofNat (w + 1) a = s + BitVec.ofNat (w + 1) b)
    (ha : a < 2 ^ (w + 1)) (hb : b < 2 ^ (w + 1)) : a = b := by
  have h' : BitVec.ofNat (w + 1) a = BitVec.ofNat (w + 1) b := by
    have := congrArg (fun x => x - s) h
    simpa using this
  have := congrArg BitVec.toNat h'
  rwa [BitVec.toNat_ofNat, BitVec.toNat_ofNat, Nat.mod_eq_of_lt ha, Nat.mod_eq_of_lt hb] at this

/-- Serial order of two offsets less than half a turn apart. -/
theorem before_offset (s : BitVec (w + 1)) {a b : Nat} (hab : b < a + 2 ^ w) (hba : a ≤ b + 2 ^ w) :
    before (s + BitVec.ofNat (w + 1) a) (s + BitVec.ofNat (w + 1) b) = true ↔ a < b := by
  have hp : 2 ^ (w + 1) = 2 * 2 ^ w := by rw [pow_succ]; ring
  rw [before_iff]
  rcases Nat.lt_or_ge b a with h | h
  · -- `b` is behind: seen from `a` it is at least half a turn ahead
    have hd := toNat_sub_offset s (Nat.le_of_lt h) (by omega)
    have hs := toNat_sub_eq (s + BitVec.ofNat (w + 1) a) (s + BitVec.ofNat (w + 1) b)
    rw [toNat_sub_eq] at hd
    have hx := (s + BitVec.ofNat (w + 1) a).isLt
    have hy := (s + BitVec.ofNat (w + 1) b).isLt
    split_ifs at hd hs <;> omega
  · rw [toNat_sub_offset s h (by omega)]
    omega

/-- A word after `a` and not after `c` is between them, however far `c` is from `a`. -/
theorem between_dist {a b c : BitVec (w + 1)} (hab : before a b = true) (hbc : b = c ∨ before b c = true) :
    0 < (b - a).toNat ∧ (b - a).toNat ≤ (c - a).toNat ∧ (c - b).toNat = (c - a).toNat - (b - a).toNat := by
  have hp : 2 ^ (w + 1) = 2 * 2 ^ w := by rw [pow_succ]; ring
  rw [before_iff] at hab
  have ha := a.isLt
  have hb := b.isLt
  have hc := c.isLt
  have e1 := toNat_sub_eq a b
  have e2 := toNat_sub_eq a c
  have e3 := toNat_sub_eq b c
  rcases hbc with rfl | hbc
  · refine ⟨hab.1, le_refl _, ?_⟩
    rw [toNat_sub_eq, if_pos (le_refl _)]
    omega
  · rw [before_iff] at hbc
    split_ifs at e1 e2 e3 <;> omega

end DpdkStdlib.Lib.Serial

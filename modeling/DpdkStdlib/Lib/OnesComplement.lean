import DpdkStdlib.Lib.Bytes

/-!
# One's-complement sums

Checksums add 16-bit words with end-around carry.  `endAround s` is the value that carrying leaves of a sum `s`: the
number in `1..65535` congruent to `s` modulo `65535`, or zero for an empty sum.

* `foldCarry_two`, `foldCarry_five` : the fold loops over 32 and 64 bits compute it;
* `endAround_add` : a partial sum may be folded first;
* `onesComplement_verify` : a sum that contains its own complement folds to all ones;
* `wordSum_append`, `endAround_dwordSum` : sums of 16-bit and of 32-bit words.
-/

namespace DpdkStdlib.Lib

/-! ## Folding carries -/

/-- The carry fold `while sum >> 16 != 0`; two turns are enough for a 32-bit sum. -/
def foldCarry : Nat → Nat → Nat
  | 0, sum => sum
  | fuel + 1, sum => if sum / 65536 = 0 then sum else foldCarry fuel (sum % 65536 + sum / 65536)

def onesComplement (sum : Nat) : UInt16 := UInt16.ofNat (65535 - foldCarry 2 (sum % 2 ^ 32) % 65536)

def endAround (s : Nat) : Nat := if s = 0 then 0 else (s - 1) % 65535 + 1

theorem endAround_le (s : Nat) : endAround s ≤ 65535 := by
  unfold endAround
  split_ifs <;> omega

theorem endAround_of_le {s : Nat} (h : s ≤ 65535) : endAround s = s := by
  unfold endAround
  split_ifs <;> omega

theorem endAround_eq_zero {s : Nat} : endAround s = 0 ↔ s = 0 := by
  by_cases h : s = 0
  · rw [h]
    exact iff_of_true rfl rfl
  · rw [endAround, if_neg h]
    exact iff_of_false (Nat.succ_ne_zero _) h

/-- Sums that are congruent, and zero together, are carried to one value. -/
theorem endAround_congr {s t : Nat} (hmod : s % 65535 = t % 65535) (hzero : s = 0 ↔ t = 0) :
    endAround s = endAround t := by
  unfold endAround
  split_ifs <;> omega

theorem endAround_mod (s : Nat) : endAround s % 65535 = s % 65535 := by
  unfold endAround
  split_ifs <;> omega

/-- A partial sum may be folded before the rest is added. -/
theorem endAround_add (s t : Nat) : endAround (s + endAround t) = endAround (s + t) := by
  refine endAround_congr ?_ ?_
  · rw [Nat.add_mod, endAround_mod, ← Nat.add_mod]
  · rw [Nat.add_eq_zero_iff, Nat.add_eq_zero_iff, endAround_eq_zero]

theorem endAround_turn (s : Nat) : endAround (s % 65536 + s / 65536) = endAround s := by
  refine endAround_congr ?_ ?_ <;> omega

theorem endAround_foldCarry (fuel s : Nat) : endAround (foldCarry fuel s) = endAround s := by
  induction fuel generalizing s with
  | zero => rfl
  | succ fuel ih =>
    rw [foldCarry]
    split_ifs with h
    · rfl
    · rw [ih, endAround_turn]

theorem foldCarry_succ_le {fuel s bound bound' : Nat} (h : s ≤ bound)
    (hfold : ∀ t, t ≤ 65535 + bound / 65536 → foldCarry fuel t ≤ bound') (hbound : 65535 ≤ bound') :
    foldCarry (fuel + 1) s ≤ bound' := by
  rw [foldCarry]
  split_ifs with hs
  · omega
  · exact hfold _ (by omega)

theorem foldCarry_one_le {s : Nat} (h : s ≤ 131070) : foldCarry 1 s ≤ 65535 := by
  rw [foldCarry]
  split_ifs with hs
  · omega
  · rw [foldCarry]
    omega

theorem foldCarry_two {s : Nat} (h : s < 2 ^ 32) : foldCarry 2 s = endAround s := by
  have hle : foldCarry 2 s ≤ 65535 :=
    foldCarry_succ_le (Nat.le_sub_one_of_lt h) (fun t ht => foldCarry_one_le ht) le_rfl
  rw [← endAround_foldCarry 2, endAround_of_le hle]

theorem foldCarry_five {s : Nat} (h : s < 2 ^ 64) : foldCarry 5 s = endAround s := by
  have hle : foldCarry 5 s ≤ 65535 := by
    refine foldCarry_succ_le (Nat.le_sub_one_of_lt h) (fun t ht => ?_) le_rfl
    refine foldCarry_succ_le ht (fun t ht => ?_) le_rfl
    refine foldCarry_succ_le ht (fun t ht => ?_) le_rfl
    refine foldCarry_succ_le ht (fun t ht => ?_) le_rfl
    exact foldCarry_one_le (by omega)
  rw [← endAround_foldCarry 5, endAround_of_le hle]

theorem toNat_onesComplement {s : Nat} (h : s < 2 ^ 32) : (onesComplement s).toNat = 65535 - endAround s := by
  have hle := endAround_le s
  rw [onesComplement, Nat.mod_eq_of_lt h, foldCarry_two h, UInt16.toNat_ofNat']
  omega

theorem onesComplement_congr {s t : Nat} (hs : s < 2 ^ 32) (ht : t < 2 ^ 32) (h : endAround s = endAround t) :
    onesComplement s = onesComplement t := by
  apply UInt16.toNat_inj.1
  rw [toNat_onesComplement hs, toNat_onesComplement ht, h]

theorem endAround_add_complement (s : Nat) : endAround (s + (65535 - endAround s)) = 65535 := by
  have hmod := endAround_mod s
  have hle := endAround_le s
  calc endAround (s + (65535 - endAround s)) = endAround 65535 := by
        refine endAround_congr ?_ ?_
        · omega
        · rcases Nat.eq_zero_or_pos s with rfl | hs
          · rfl
          · omega
    _ = 65535 := rfl

/-- A field that is not zero completes a sum to all ones exactly when it is the complement, all ones standing for
zero. -/
theorem endAround_add_eq_iff {s c : Nat} (hs : 0 < s) (hc : 0 < c) (hle : c ≤ 65535) :
    endAround (s + c) = 65535 ↔ c = if endAround s = 65535 then 65535 else 65535 - endAround s := by
  have hmod := endAround_mod s
  have hmod' := endAround_mod (s + c)
  have hle' := endAround_le (s + c)
  have hpos : 0 < endAround s := Nat.pos_of_ne_zero fun h => absurd (endAround_eq_zero.1 h) (by omega)
  have hpos' : 0 < endAround (s + c) := Nat.pos_of_ne_zero fun h => absurd (endAround_eq_zero.1 h) (by omega)
  have hles := endAround_le s
  split_ifs with h <;> omega

/-- **Verification.** A sum that contains its own complement has complement zero. -/
theorem onesComplement_verify {s : Nat} (h : s + 65535 < 2 ^ 32) :
    onesComplement (s + (onesComplement s).toNat) = 0 := by
  have hle := endAround_le s
  apply UInt16.toNat_inj.1
  rw [toNat_onesComplement (by rw [toNat_onesComplement (by omega)]; omega), toNat_onesComplement (by omega),
    endAround_add_complement]
  rfl

/-! ## Sums of words -/

/-- Sum of the big-endian 16-bit words, an odd last byte padded with zero. -/
def wordSum : List UInt8 → Nat
  | [] => 0
  | [a] => a.toNat * 256
  | a :: b :: rest => a.toNat * 256 + b.toNat + wordSum rest

@[simp] theorem wordSum_nil : wordSum [] = 0 := rfl

@[simp] theorem wordSum_cons_cons (a b : UInt8) (rest : List UInt8) :
    wordSum (a :: b :: rest) = a.toNat * 256 + b.toNat + wordSum rest := rfl

theorem wordSum_append {l : List UInt8} (r : List UInt8) (h : l.length % 2 = 0) :
    wordSum (l ++ r) = wordSum l + wordSum r := by
  induction l using wordSum.induct with
  | case1 => exact (Nat.zero_add _).symm
  | case2 a => simp at h
  | case3 a b rest ih =>
    rw [List.cons_append, List.cons_append, wordSum_cons_cons, wordSum_cons_cons,
      ih (by simp only [List.length_cons] at h; omega), ← Nat.add_assoc]

theorem wordSum_beBytes16 (x : UInt16) : wordSum (beBytes16 x) = x.toNat := by
  have hx := x.toNat_lt
  rw [beBytes16, wordSum_cons_cons, wordSum_nil, UInt8.toNat_ofNat', UInt8.toNat_ofNat']
  omega

theorem wordSum_field {a : List UInt8} (x : UInt16) (c : List UInt8) (h : a.length % 2 = 0) :
    wordSum (a ++ (beBytes16 x ++ c)) = wordSum a + wordSum c + x.toNat := by
  rw [wordSum_append _ h, wordSum_append _ (by rw [length_beBytes16]), wordSum_beBytes16]
  omega

theorem wordSum_split {l : List UInt8} {i : Nat} (h : i + 2 ≤ l.length) (heven : i % 2 = 0) :
    wordSum l = wordSum (l.take i) + wordSum (l.drop (i + 2)) + (be16At l i).toNat := by
  have hfield : l.drop i = [byteAt l i, byteAt l (i + 1)] ++ l.drop (i + 2) := by
    have h0 := getElem?_of_lt (show i < l.length by omega)
    have h1 := getElem?_of_lt (show i + 1 < l.length by omega)
    rw [List.getElem?_eq_getElem (by omega), Option.some.injEq] at h0 h1
    rw [List.drop_eq_getElem_cons (by omega), List.drop_eq_getElem_cons (by omega), h0, h1]
    rfl
  have hword : wordSum [byteAt l i, byteAt l (i + 1)] = (be16At l i).toNat := by
    rw [be16At, toNat_fromBe16, wordSum_cons_cons, wordSum_nil, Nat.add_zero]
  calc wordSum l = wordSum (l.take i ++ l.drop i) := by rw [List.take_append_drop]
    _ = wordSum (l.take i) + wordSum (l.drop i) := wordSum_append _ (by rw [List.length_take]; omega)
    _ = _ := by
      rw [hfield, wordSum_append _ (by rw [List.length_cons, List.length_singleton]), hword]
      omega

theorem wordSum_le (l : List UInt8) : wordSum l ≤ 65535 * ((l.length + 1) / 2) := by
  induction l using wordSum.induct with
  | case1 => exact Nat.zero_le _
  | case2 a =>
    have ha := a.toNat_lt
    rw [wordSum, List.length_singleton]
    omega
  | case3 a b rest ih =>
    have ha := a.toNat_lt
    have hb := b.toNat_lt
    rw [wordSum_cons_cons, List.length_cons, List.length_cons]
    omega

/-- Sum of the big-endian 32-bit words, the last bytes added as 16-bit words. -/
def dwordSum : List UInt8 → Nat
  | a :: b :: c :: d :: rest => (fromBe32 a b c d).toNat + dwordSum rest
  | [a, b, c] => a.toNat * 256 + b.toNat + c.toNat * 256
  | [a, b] => a.toNat * 256 + b.toNat
  | [a] => a.toNat * 256
  | [] => 0

theorem toNat_fromBe32 (a b c d : UInt8) :
    (fromBe32 a b c d).toNat = (a.toNat * 256 + b.toNat) * 65536 + (c.toNat * 256 + d.toNat) := by
  have ha := a.toNat_lt
  have hb := b.toNat_lt
  have hc := c.toNat_lt
  have hd := d.toNat_lt
  rw [fromBe32, BitVec.toNat_ofNat, Nat.mod_eq_of_lt] <;> omega

/-- A 32-bit word is congruent to the sum of its halves, so both sums carry to one value. -/
theorem endAround_dwordSum (l : List UInt8) : endAround (dwordSum l) = endAround (wordSum l) := by
  induction l using dwordSum.induct with
  | case1 a b c d rest ih =>
    rw [dwordSum, wordSum_cons_cons, wordSum_cons_cons, ← endAround_add, ih, endAround_add, toNat_fromBe32]
    refine endAround_congr ?_ ?_ <;> omega
  | case2 a b c => rw [dwordSum, wordSum_cons_cons, wordSum]
  | case3 a b => rw [dwordSum, wordSum_cons_cons, wordSum_nil, Nat.add_zero]
  | case4 a => rw [dwordSum, wordSum]
  | case5 => rfl

theorem dwordSum_le (l : List UInt8) : dwordSum l ≤ 2 ^ 32 * l.length := by
  induction l using dwordSum.induct with
  | case1 a b c d rest ih =>
    have hw := (fromBe32 a b c d).isLt
    rw [dwordSum]
    simp only [List.length_cons]
    omega
  | case2 a b c =>
    have ha := a.toNat_lt
    have hb := b.toNat_lt
    have hc := c.toNat_lt
    rw [dwordSum]
    simp only [List.length_cons]
    omega
  | case3 a b =>
    have ha := a.toNat_lt
    have hb := b.toNat_lt
    rw [dwordSum]
    simp only [List.length_cons]
    omega
  | case4 a =>
    have ha := a.toNat_lt
    rw [dwordSum]
    simp only [List.length_cons]
    omega
  | case5 => exact Nat.zero_le _

end DpdkStdlib.Lib

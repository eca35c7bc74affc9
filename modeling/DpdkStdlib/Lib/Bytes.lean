import Mathlib.Data.List.GetD
import Mathlib.Data.Nat.Basic
import Mathlib.Tactic.Ring

/-!
# Byte strings: big-endian fields, reads and writes at an offset

Reads and writes are partial: `none` is an access out of range.
-/

namespace DpdkStdlib.Lib

variable {a b c b' bs : List UInt8} {i n off : Nat}

/-! ## Big-endian fields -/

def beBytes16 (x : UInt16) : List UInt8 := [UInt8.ofNat (x.toNat / 256), UInt8.ofNat x.toNat]

def beBytes32 (x : BitVec 32) : List UInt8 :=
  [UInt8.ofNat (x.toNat / 2 ^ 24), UInt8.ofNat (x.toNat / 2 ^ 16), UInt8.ofNat (x.toNat / 2 ^ 8), UInt8.ofNat x.toNat]

def fromBe16 (a b : UInt8) : UInt16 := UInt16.ofNat (a.toNat * 256 + b.toNat)

def fromBe32 (a b c d : UInt8) : BitVec 32 :=
  BitVec.ofNat 32 (a.toNat * 2 ^ 24 + b.toNat * 2 ^ 16 + c.toNat * 2 ^ 8 + d.toNat)

@[simp] theorem length_beBytes16 (x : UInt16) : (beBytes16 x).length = 2 := rfl

@[simp] theorem length_beBytes32 (x : BitVec 32) : (beBytes32 x).length = 4 := rfl

theorem fromBe16_beBytes16 (x : UInt16) : fromBe16 (UInt8.ofNat (x.toNat / 256)) (UInt8.ofNat x.toNat) = x := by
  have hx := x.toNat_lt
  apply UInt16.toNat_inj.1
  simp only [fromBe16, UInt16.toNat_ofNat', UInt8.toNat_ofNat']
  omega

theorem fromBe32_beBytes32 (x : BitVec 32) : fromBe32 (UInt8.ofNat (x.toNat / 2 ^ 24)) (UInt8.ofNat (x.toNat / 2 ^ 16))
    (UInt8.ofNat (x.toNat / 2 ^ 8)) (UInt8.ofNat x.toNat) = x := by
  have hx := x.isLt
  apply BitVec.eq_of_toNat_eq
  simp only [fromBe32, BitVec.toNat_ofNat, UInt8.toNat_ofNat']
  omega

theorem toNat_fromBe16 (a b : UInt8) : (fromBe16 a b).toNat = a.toNat * 256 + b.toNat := by
  have ha := a.toNat_lt
  have hb := b.toNat_lt
  simp only [fromBe16, UInt16.toNat_ofNat']
  omega

theorem beBytes16_fromBe16 (a b : UInt8) : beBytes16 (fromBe16 a b) = [a, b] := by
  have hb := b.toNat_lt
  have hhigh : (a.toNat * 256 + b.toNat) / 256 = a.toNat := by omega
  have hlow : UInt8.ofNat (a.toNat * 256 + b.toNat) = b := by
    apply UInt8.toNat_inj.1
    rw [UInt8.toNat_ofNat']
    omega
  rw [beBytes16, toNat_fromBe16, hhigh, hlow, UInt8.ofNat_toNat]

/-- `n` bytes of `x`, the most significant first. -/
def beBytes : Nat → Nat → List UInt8
  | 0, _ => []
  | n + 1, x => UInt8.ofNat (x / 256 ^ n) :: beBytes n x

/-- The number that bytes spell, the most significant first. -/
def ofBe : List UInt8 → Nat
  | [] => 0
  | a :: rest => a.toNat * 256 ^ rest.length + ofBe rest

@[simp] theorem length_beBytes (n x : Nat) : (beBytes n x).length = n := by
  induction n with
  | zero => rfl
  | succ n ih => rw [beBytes, List.length_cons, ih]

theorem ofBe_beBytes (n x : Nat) : ofBe (beBytes n x) = x % 256 ^ n := by
  induction n with
  | zero => rw [beBytes, ofBe, pow_zero, Nat.mod_one]
  | succ n ih =>
    rw [beBytes, ofBe, ih, length_beBytes, UInt8.toNat_ofNat', pow_succ 256 n, Nat.mod_mul,
      Nat.add_comm, Nat.mul_comm]

theorem ofBe_lt (l : List UInt8) : ofBe l < 256 ^ l.length := by
  induction l with
  | nil => exact Nat.one_pos
  | cons a rest ih =>
    have ha : a.toNat + 1 ≤ 256 := a.toNat_lt
    calc a.toNat * 256 ^ rest.length + ofBe rest
        < a.toNat * 256 ^ rest.length + 256 ^ rest.length := Nat.add_lt_add_left ih _
      _ = (a.toNat + 1) * 256 ^ rest.length := by ring
      _ ≤ 256 * 256 ^ rest.length := Nat.mul_le_mul_right _ ha
      _ = 256 ^ (rest.length + 1) := by ring

theorem beBytes_add_mul (n x y : Nat) : beBytes n (y * 256 ^ n + x) = beBytes n x := by
  induction n generalizing y with
  | zero => rfl
  | succ n ih =>
    have hdiv : (y * 256 ^ (n + 1) + x) / 256 ^ n = y * 256 + x / 256 ^ n := by
      rw [pow_succ, Nat.mul_comm (256 ^ n), ← Nat.mul_assoc, Nat.add_comm,
        Nat.add_mul_div_right _ _ (Nat.pow_pos (by decide)), Nat.add_comm]
    have htail : y * 256 ^ (n + 1) + x = y * 256 * 256 ^ n + x := by ring
    rw [beBytes, beBytes, hdiv, htail, ih]
    congr 1
    apply UInt8.toNat_inj.1
    rw [UInt8.toNat_ofNat', UInt8.toNat_ofNat']
    omega

theorem beBytes_ofBe (l : List UInt8) : beBytes l.length (ofBe l) = l := by
  induction l with
  | nil => rfl
  | cons a rest ih =>
    have hdiv : (a.toNat * 256 ^ rest.length + ofBe rest) / 256 ^ rest.length = a.toNat := by
      rw [Nat.add_comm, Nat.add_mul_div_right _ _ (Nat.pow_pos (by decide)), Nat.div_eq_of_lt (ofBe_lt rest),
        Nat.zero_add]
    rw [ofBe, List.length_cons, beBytes, hdiv, beBytes_add_mul, ih, UInt8.ofNat_toNat]

/-! ## Reading -/

/-- The byte at `i`, zero past the end. -/
def byteAt (b : List UInt8) (i : Nat) : UInt8 := b.getD i 0

def be16At (b : List UInt8) (i : Nat) : UInt16 := fromBe16 (byteAt b i) (byteAt b (i + 1))

/-- `u16::from_be_bytes([b[i], b[i + 1]])`. -/
def read16 (b : List UInt8) (i : Nat) : Option UInt16 := do return fromBe16 (← b[i]?) (← b[i + 1]?)

/-- `&b[i..i + n]`. -/
def readSlice (b : List UInt8) (i n : Nat) : Option (List UInt8) :=
  if i + n ≤ b.length then some ((b.drop i).take n) else none

theorem getElem?_of_lt (h : i < b.length) : b[i]? = some (byteAt b i) := by
  rw [byteAt, List.getD_eq_getElem?_getD, List.getElem?_eq_getElem h, Option.getD_some]

theorem drop_eq_byteAt_cons (h : i < b.length) : b.drop i = byteAt b i :: b.drop (i + 1) := by
  rw [List.drop_eq_getElem_cons h, byteAt, List.getD_eq_getElem _ _ h]

theorem read16_of_le (h : i + 2 ≤ b.length) : read16 b i = some (be16At b i) := by
  rw [read16, getElem?_of_lt (by omega), getElem?_of_lt (by omega)]
  rfl

theorem readSlice_of_le (h : i + n ≤ b.length) : readSlice b i n = some ((b.drop i).take n) := if_pos h

theorem length_slice (h : i + n ≤ b.length) : ((b.drop i).take n).length = n := by
  rw [List.length_take, List.length_drop]
  omega

theorem byteAt_append_left (c : List UInt8) (h : i < b.length) :
    byteAt (b ++ c) i = byteAt b i := List.getD_append _ _ _ _ h

theorem byteAt_append_right (b c : List UInt8) (i : Nat) : byteAt (b ++ c) (b.length + i) = byteAt c i := by
  rw [byteAt, List.getD_append_right _ _ _ _ (by omega), Nat.add_sub_cancel_left]
  rfl

theorem be16At_append_left (c : List UInt8) (h : i + 2 ≤ b.length) : be16At (b ++ c) i = be16At b i := by
  rw [be16At, byteAt_append_left c (by omega), byteAt_append_left c (by omega)]
  rfl

theorem be16At_append_right (b c : List UInt8) (i : Nat) : be16At (b ++ c) (b.length + i) = be16At c i := by
  rw [be16At, byteAt_append_right, Nat.add_assoc, byteAt_append_right]
  rfl

theorem slice_append_left (c : List UInt8) (h : i + n ≤ b.length) : ((b ++ c).drop i).take n = (b.drop i).take n := by
  rw [List.drop_append_of_le_length (by omega), List.take_append_of_le_length (by rw [List.length_drop]; omega)]

theorem slice_append_right (b c : List UInt8) (i n : Nat) : ((b ++ c).drop (b.length + i)).take n = (c.drop i).take n := by
  rw [List.drop_length_add_append]

theorem byteAt_slice {k : Nat} (h : k < n) : byteAt ((b.drop i).take n) k = byteAt b (i + k) := by
  rw [byteAt, byteAt, List.getD_eq_getElem?_getD, List.getD_eq_getElem?_getD, List.getElem?_take_of_lt h,
    List.getElem?_drop]

theorem be16At_slice {k : Nat} (h : k + 1 < n) : be16At ((b.drop i).take n) k = be16At b (i + k) := by
  rw [be16At, byteAt_slice (by omega), byteAt_slice h, ← Nat.add_assoc]
  rfl

theorem be16At_field {x : UInt16} (hi : i = a.length) : be16At (a ++ (beBytes16 x ++ c)) i = x := by
  subst hi
  have h0 : byteAt (a ++ (beBytes16 x ++ c)) (a.length + 0) = UInt8.ofNat (x.toNat / 256) := byteAt_append_right _ _ 0
  have h1 : byteAt (a ++ (beBytes16 x ++ c)) (a.length + 1) = UInt8.ofNat x.toNat := byteAt_append_right _ _ 1
  rw [Nat.add_zero] at h0
  rw [be16At, h0, h1, fromBe16_beBytes16]

theorem slice_append_slice (b : List UInt8) {m : Nat} (h : m ≤ n) :
    (b.drop i).take m ++ (b.drop (i + m)).take (n - m) = (b.drop i).take n := by
  rw [← List.drop_drop, ← List.take_add, Nat.add_sub_cancel' h]

/-- A part between two others is read back by its offset and length. -/
theorem slice_append (hi : i = a.length) (hn : n = b.length) : ((a ++ (b ++ c)).drop i).take n = b := by
  rw [hi, hn, List.drop_left, List.take_left]

theorem readSlice_append (hi : i = a.length) (hn : n = b.length) : readSlice (a ++ (b ++ c)) i n = some b := by
  rw [readSlice_of_le (by rw [List.length_append, List.length_append]; omega), slice_append hi hn]

/-! ## Writing -/

/-- `b[off..off + bs.len()].copy_from_slice(bs)`. -/
def writeAt (b : List UInt8) (off : Nat) (bs : List UInt8) : Option (List UInt8) :=
  if off + bs.length ≤ b.length then some (b.take off ++ bs ++ b.drop (off + bs.length)) else none

def writeAll (b : List UInt8) : List (Nat × List UInt8) → Option (List UInt8)
  | [] => some b
  | (off, bs) :: rest => do writeAll (← writeAt b off bs) rest

/-- Each write starts where the one before it ends, the first one at `off`. -/
def Consecutive (off : Nat) : List (Nat × List UInt8) → Prop
  | [] => True
  | (o, bs) :: rest => o = off ∧ Consecutive (off + bs.length) rest

/-- `Vec::resize` with zeros. -/
def resize (b : List UInt8) (n : Nat) : List UInt8 := b.take n ++ List.replicate (n - b.length) 0

@[simp] theorem length_resize (b : List UInt8) (n : Nat) : (resize b n).length = n := by
  rw [resize, List.length_append, List.length_take, List.length_replicate]
  omega

theorem writeAt_append (hoff : off = a.length) (h : bs.length ≤ b.length) :
    writeAt (a ++ b) off bs = some (a ++ bs ++ b.drop bs.length) := by
  subst hoff
  rw [writeAt, if_pos (by rw [List.length_append]; omega), List.take_left, List.drop_length_add_append]

/-- **Filling a buffer.** Consecutive writes leave the concatenation of what was written, whatever was there. -/
theorem writeAll_consecutive (ws : List (Nat × List UInt8)) (hws : Consecutive a.length ws)
    (hlen : (ws.flatMap Prod.snd).length ≤ b.length) :
    writeAll (a ++ b) ws = some (a ++ (ws.flatMap Prod.snd ++ b.drop (ws.flatMap Prod.snd).length)) := by
  induction ws generalizing a b with
  | nil => rfl
  | cons w rest ih =>
    obtain ⟨off, bs⟩ := w
    obtain ⟨rfl, hrest⟩ := hws
    rw [List.flatMap_cons, List.length_append] at hlen ⊢
    dsimp only at hlen
    rw [writeAll, writeAt_append rfl (by omega)]
    change writeAll (a ++ bs ++ b.drop bs.length) rest = _
    rw [ih (by rw [List.length_append]; exact hrest) (by rw [List.length_drop]; omega), List.drop_drop]
    simp only [List.append_assoc]

theorem writeAt_patch (hoff : off = a.length) (hlen : bs.length = b.length) :
    writeAt (a ++ (b ++ c)) off bs = some (a ++ (bs ++ c)) := by
  rw [writeAt_append hoff (by rw [List.length_append]; omega), hlen, List.drop_left, List.append_assoc]

/-! ## What succeeds -/

theorem length_of_writeAt (h : writeAt b off bs = some b') : off + bs.length ≤ b.length ∧ b'.length = b.length := by
  unfold writeAt at h
  split_ifs at h with hle
  obtain rfl := Option.some.inj h
  refine ⟨hle, ?_⟩
  rw [List.length_append, List.length_append, List.length_take, List.length_drop]
  omega

theorem getElem?_of_writeAt (h : writeAt b off bs = some b') (hi : i < off ∨ off + bs.length ≤ i) :
    b'[i]? = b[i]? := by
  unfold writeAt at h
  split_ifs at h with hle
  obtain rfl := Option.some.inj h
  have htake : (b.take off).length = off := by rw [List.length_take]; omega
  rcases hi with hi | hi
  · rw [List.append_assoc, List.getElem?_append_left (by omega), List.getElem?_take_of_lt hi]
  · have hpast : (b.take off ++ bs).length = off + bs.length := by rw [List.length_append, htake]
    rw [List.getElem?_append_right (by omega), hpast, List.getElem?_drop, Nat.add_sub_cancel' hi]

theorem length_of_writeAll {ws : List (Nat × List UInt8)} (h : writeAll b ws = some b') : b'.length = b.length := by
  induction ws generalizing b with
  | nil => rw [← Option.some.inj h]
  | cons w rest ih =>
    obtain ⟨b₁, hw, hrest⟩ := Option.bind_eq_some_iff.1 h
    rw [ih hrest, (length_of_writeAt hw).2]

end DpdkStdlib.Lib

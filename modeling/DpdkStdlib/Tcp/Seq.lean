import DpdkStdlib.Lib.Serial

/-!
# TCP sequence numbers (`seq.rs`)

`SeqNum` with the source's serial comparisons, and their normal forms for numbers `s.add a`, `s.add b` counted from
one origin `s`.
-/

namespace DpdkStdlib.Tcp
open DpdkStdlib.Lib

structure SeqNum where
  val : BitVec 32
deriving DecidableEq

namespace SeqNum

/-- `self < other` iff `other - self` is in `(0, 2^31)`. -/
def lt (self other : SeqNum) : Bool :=
  let diff := other.val - self.val
  diff != 0 && decide (diff.toNat < 2 ^ 31)

def le (self other : SeqNum) : Bool := self == other || self.lt other

def gt (self other : SeqNum) : Bool := other.lt self

/-- Wrapping addition; the offset is a `u32`, so only its residue counts. -/
def add (self : SeqNum) (offset : Nat) : SeqNum := ⟨self.val + BitVec.ofNat 32 offset⟩

/-- `self - other`, wrapping, as a number. -/
def diff (self other : SeqNum) : Nat := (self.val - other.val).toNat

@[ext] theorem ext {a b : SeqNum} (h : a.val = b.val) : a = b := by
  cases a; cases b; cases h; rfl

theorem lt_iff (a b : SeqNum) : a.lt b = true ↔ 0 < b.diff a ∧ b.diff a < 2 ^ 31 :=
  Serial.before_iff a.val b.val

theorem le_iff (a b : SeqNum) : a.le b = true ↔ a = b ∨ a.lt b = true := by
  simp [le]

theorem diff_lt (a b : SeqNum) : a.diff b < 2 ^ 32 := (a.val - b.val).isLt

@[simp] theorem diff_self (a : SeqNum) : a.diff a = 0 := by
  simp [diff]

theorem diff_eq_zero_iff (a b : SeqNum) : a.diff b = 0 ↔ a = b := by
  constructor
  · intro h
    apply ext
    have hz : a.val - b.val = 0 := BitVec.eq_of_toNat_eq (by simpa [diff] using h)
    have := congrArg (· + b.val) hz
    simpa using this
  · rintro rfl
    exact diff_self a

@[simp] theorem add_zero (s : SeqNum) : s.add 0 = s := by
  ext1; simp [add]

@[simp] theorem add_add (s : SeqNum) (a b : Nat) : (s.add a).add b = s.add (a + b) := by
  ext1; exact (Serial.ofNat_add_ofNat s.val a b).symm

theorem add_diff (a b : SeqNum) : b.add (a.diff b) = a := by
  ext1
  simp only [add, diff, BitVec.ofNat_toNat, BitVec.setWidth_eq]
  ring

theorem diff_add_add (s : SeqNum) {a b : Nat} (hab : a ≤ b) (hlt : b - a < 2 ^ 32) :
    (s.add b).diff (s.add a) = b - a :=
  Serial.toNat_sub_offset s.val hab hlt

theorem diff_add_self (s : SeqNum) {a : Nat} (ha : a < 2 ^ 32) : (s.add a).diff s = a := by
  have := diff_add_add s (Nat.zero_le a) (by omega)
  simpa using this

theorem add_inj (s : SeqNum) {a b : Nat} (h : s.add a = s.add b) (ha : a < 2 ^ 32) (hb : b < 2 ^ 32) : a = b :=
  Serial.offset_inj s.val (congrArg val h) ha hb

theorem add_inj_near (s : SeqNum) {a b : Nat} (h : s.add a = s.add b) (hab : a < b + 2 ^ 32) (hba : b < a + 2 ^ 32) :
    a = b := by
  rcases Nat.le_total a b with hle | hle
  · have hd := diff_add_add s hle (by omega)
    rw [← h, diff_self] at hd
    omega
  · have hd := diff_add_add s hle (by omega)
    rw [h, diff_self] at hd
    omega

theorem diff_add_add_of_lt (s : SeqNum) {a b : Nat} (hba : b < a) (hlt : a - b ≤ 2 ^ 32) :
    (s.add b).diff (s.add a) = 2 ^ 32 - (a - b) := by
  have hwrap : s.add b = s.add (b + 2 ^ 32) := by
    ext1
    simp only [add, BitVec.ofNat_add, show BitVec.ofNat 32 (2 ^ 32) = 0 from rfl]
    ring
  rw [hwrap, diff_add_add s (by omega) (by omega)]
  omega

theorem gt_add_add (s : SeqNum) {a b : Nat} (hab : b < a + 2 ^ 31) (hba : a ≤ b + 2 ^ 31) :
    (s.add b).gt (s.add a) = true ↔ a < b :=
  Serial.before_offset s.val hab hba

theorem lt_add_add (s : SeqNum) {a b : Nat} (hab : b < a + 2 ^ 31) (hba : a ≤ b + 2 ^ 31) :
    (s.add a).lt (s.add b) = true ↔ a < b :=
  Serial.before_offset s.val hab hba

theorem accept_diff {una ack nxt : SeqNum} (hgt : ack.gt una = true) (hle : ack.le nxt = true) :
    0 < ack.diff una ∧ ack.diff una ≤ nxt.diff una ∧ nxt.diff ack = nxt.diff una - ack.diff una := by
  refine Serial.between_dist hgt ?_
  rcases (le_iff ack nxt).1 hle with rfl | h
  · exact Or.inl rfl
  · exact Or.inr h

end SeqNum

end DpdkStdlib.Tcp

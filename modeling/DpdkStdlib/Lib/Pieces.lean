import Mathlib.Data.List.Basic

/-!
# Consecutive pieces of a list

`offset ps i` is where piece `i` starts in `ps.flatten`.
-/

namespace DpdkStdlib.Lib

variable {α : Type*}

/-- Where piece `i` starts. -/
def offset (ps : List (List α)) (i : Nat) : Nat := (ps.take i).flatten.length

@[simp] theorem offset_zero (ps : List (List α)) : offset ps 0 = 0 := by
  simp [offset]

@[simp] theorem offset_length (ps : List (List α)) : offset ps ps.length = ps.flatten.length := by
  simp [offset]

theorem take_succ_flatten {ps : List (List α)} {k : Nat} {p : List α} (h : ps[k]? = some p) :
    (ps.take (k + 1)).flatten = (ps.take k).flatten ++ p := by
  rw [List.take_add_one, h]
  simp

theorem offset_succ {ps : List (List α)} {k : Nat} {p : List α} (h : ps[k]? = some p) :
    offset ps (k + 1) = offset ps k + p.length := by
  rw [offset, take_succ_flatten h, List.length_append, offset]

theorem offset_mono (ps : List (List α)) {i j : Nat} (h : i ≤ j) : offset ps i ≤ offset ps j := by
  obtain ⟨d, rfl⟩ := Nat.exists_eq_add_of_le h
  rw [offset, offset, List.take_add, List.flatten_append, List.length_append]
  exact Nat.le_add_right _ _

theorem offset_le (ps : List (List α)) (i : Nat) : offset ps i ≤ ps.flatten.length := by
  rcases Nat.le_total i ps.length with h | h
  · rw [← offset_length]
    exact offset_mono ps h
  · have hall : offset ps i = ps.flatten.length := by rw [offset, List.take_of_length_le h]
    exact Nat.le_of_eq hall

theorem offset_lt {ps : List (List α)} (hne : ∀ p ∈ ps, p ≠ []) {i j : Nat} (hij : i < j) (hi : i < ps.length) :
    offset ps i < offset ps j := by
  have hp : ps[i]? = some ps[i] := List.getElem?_eq_getElem hi
  have hpos : 0 < (ps[i]).length := List.length_pos_iff.2 (hne _ (List.getElem_mem hi))
  have hsucc := offset_succ hp
  have hmono : offset ps (i + 1) ≤ offset ps j := offset_mono ps hij
  omega

theorem offset_inj {ps : List (List α)} (hne : ∀ p ∈ ps, p ≠ []) {i j : Nat} (hi : i ≤ ps.length) (hj : j ≤ ps.length)
    (h : offset ps i = offset ps j) : i = j := by
  rcases Nat.lt_trichotomy i j with hlt | rfl | hlt
  · have := offset_lt hne hlt (by omega)
    omega
  · rfl
  · have := offset_lt hne hlt (by omega)
    omega

end DpdkStdlib.Lib

import Mathlib.Data.List.Nodup
import Mathlib.Data.Nat.ModEq

/-!
# Going around a cycle

Numbers that follow each other modulo `n` are distinct as long as there are at most `n` of them.
-/

namespace DpdkStdlib.Lib

theorem mod_ne_mod {n i j : Nat} (hij : i < j) (hjn : j < i + n) : i % n ≠ j % n := fun h => by
  have hdvd : n ∣ j - i := (Nat.modEq_iff_dvd' hij.le).1 h
  exact absurd (Nat.le_of_dvd (by omega) hdvd) (by omega)

theorem mod_ne_of_ne {n i j : Nat} (hij : i ≠ j) (hi : i < j + n) (hj : j < i + n) : i % n ≠ j % n := by
  rcases Nat.lt_or_gt_of_ne hij with h | h
  · exact mod_ne_mod h hj
  · exact (mod_ne_mod h hi).symm

/-- `k` numbers around a cycle of `n`, from `x` on. -/
def cycle (n x k : Nat) : List Nat := (List.range k).map fun i => (x + i) % n

theorem cycle_succ (n x k : Nat) : cycle n x (k + 1) = cycle n x k ++ [(x + k) % n] := by
  rw [cycle, List.range_succ, List.map_append]
  rfl

theorem nodup_of_infix_cycle {n x k : Nat} {l : List Nat} (h : l <:+: cycle n x k) (hl : l.length ≤ n) : l.Nodup := by
  obtain ⟨front, back, h⟩ := h
  have hget (i : Nat) (hi : i < l.length) : l[i] = (x + (front.length + i)) % n := by
    have hget? : (cycle n x k)[front.length + i]? = some l[i] := by
      rw [← h, List.append_assoc, List.getElem?_append_right (Nat.le_add_right _ _), Nat.add_sub_cancel_left,
        List.getElem?_append_left hi, List.getElem?_eq_getElem hi]
    obtain ⟨_, hget⟩ := List.getElem?_eq_some_iff.1 hget?
    rw [← hget]
    simp [cycle]
  refine List.pairwise_iff_getElem.2 fun i j hi hj hij => ?_
  rw [hget i hi, hget j hj]
  exact mod_ne_mod (by omega) (by omega)

end DpdkStdlib.Lib

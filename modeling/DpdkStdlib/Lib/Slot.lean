import Mathlib.Data.List.GetD
import Mathlib.Logic.Function.Basic
import Mathlib.Tactic.SplitIfs

/-!
# A slot of several words

A record of `n` words that threads store and load word by word, each access atomic.  If no store falls between the
accesses of another thread to the record, and no load between the stores of another one, whoever loads the whole record
loads what one thread stored.

* `Access` : where a thread is with the record; `IsStoring`;
* `SlotInv allowed slot access` : the words are those of an allowed record, or of one that is being stored;
* `SlotInv.store`, `SlotInv.load`, `SlotInv.leave`, `SlotInv.mono` : the steps keep it, and a whole record that was
  loaded is allowed.
-/

namespace DpdkStdlib.Lib

/-- A thread has stored the first `i` words of `w`, or loaded the words `l`. -/
inductive Access
  | free
  | storing (w : List Nat) (i : Nat)
  | loading (l : List Nat)

def Access.IsStoring : Access → Prop
  | storing _ _ => True
  | free | loading _ => False

variable {ι : Type*}

structure SlotInv (n : Nat) (allowed : List Nat → Prop) (slot : List Nat) (access : ι → Access) : Prop where
  length_slot : slot.length = n
  length_of_allowed : ∀ w, allowed w → w.length = n
  storing : ∀ t w i, access t = .storing w i →
    allowed w ∧ slot.take i = w.take i ∧ ∀ t', t' ≠ t → access t' = .free
  loading : ∀ t l, access t = .loading l → l = slot.take l.length
  /-- Between the stores the record is whole. -/
  whole : (∀ t, ¬ (access t).IsStoring) → allowed slot

namespace SlotInv
variable {n : Nat} {allowed allowed' : List Nat → Prop} {slot : List Nat} {access : ι → Access} {t : ι}

theorem mono (h : SlotInv n allowed slot access) (hle : ∀ w, allowed w → allowed' w)
    (hlen : ∀ w, allowed' w → w.length = n) : SlotInv n allowed' slot access where
  length_slot := h.length_slot
  length_of_allowed := hlen
  storing := fun t w i ht => ⟨hle w (h.storing t w i ht).1, (h.storing t w i ht).2⟩
  loading := h.loading
  whole := fun hno => hle slot (h.whole hno)

theorem not_isStoring (ht : ¬ (access t).IsStoring)
    (hothers : ∀ t', t' ≠ t → ¬ (access t').IsStoring) (t' : ι) : ¬ (access t').IsStoring := by
  by_cases heq : t' = t
  · rwa [heq]
  · exact hothers t' heq

section Step
variable [DecidableEq ι]

theorem turn (h : SlotInv n allowed slot access) (ht : ¬ (access t).IsStoring) {a : Access} (ha : ¬ a.IsStoring)
    (hload : ∀ l, a = .loading l → l = slot.take l.length)
    (hfree : a = .free ∨ ∀ t', t' ≠ t → ¬ (access t').IsStoring) :
    SlotInv n allowed slot (Function.update access t a) where
  length_slot := h.length_slot
  length_of_allowed := h.length_of_allowed
  storing := by
    intro t' w i ht'
    by_cases heq : t' = t
    · rw [heq, Function.update_self] at ht'
      rw [ht'] at ha
      exact (ha trivial).elim
    · rw [Function.update_of_ne heq] at ht'
      obtain ⟨hw, htake, hothers⟩ := h.storing t' w i ht'
      refine ⟨hw, htake, fun t'' hne => ?_⟩
      by_cases heq' : t'' = t
      · rw [heq', Function.update_self]
        rcases hfree with hfree | hno
        · exact hfree
        · exact absurd (by rw [ht']; trivial) (hno t' heq)
      · rw [Function.update_of_ne heq']
        exact hothers t'' hne
  loading := by
    intro t' l ht'
    by_cases heq : t' = t
    · rw [heq, Function.update_self] at ht'
      exact hload l ht'
    · rw [Function.update_of_ne heq] at ht'
      exact h.loading t' l ht'
  whole := by
    intro hno
    refine h.whole fun t' hs => ?_
    by_cases heq : t' = t
    · rw [heq] at hs
      exact ht hs
    · refine hno t' ?_
      rwa [Function.update_of_ne heq]

theorem leave (h : SlotInv n allowed slot access) (ht : ¬ (access t).IsStoring) :
    SlotInv n allowed slot (Function.update access t .free) :=
  h.turn ht id (by rintro l ⟨⟩) (.inl rfl)

theorem load (h : SlotInv n allowed slot access) {l : List Nat} (ht : access t = .loading l ∨ access t = .free ∧ l = [])
    (hlt : l.length < n) (hothers : ∀ t', t' ≠ t → ¬ (access t').IsStoring) :
    SlotInv n allowed slot (Function.update access t (.loading (l ++ [slot.getD l.length 0]))) ∧
      (l.length + 1 = n → allowed (l ++ [slot.getD l.length 0])) := by
  have hnot : ¬ (access t).IsStoring := by
    rcases ht with ht | ⟨ht, -⟩ <;> rw [ht] <;> exact id
  have hl : l = slot.take l.length := by
    rcases ht with ht | ⟨-, rfl⟩
    · exact h.loading t l ht
    · rfl
  have hnext : l ++ [slot.getD l.length 0] = slot.take (l.length + 1) := by
    have hlt' : l.length < slot.length := by rwa [h.length_slot]
    rw [List.take_succ_eq_append_getElem hlt', ← hl, List.getD_eq_getElem _ _ hlt']
  refine ⟨h.turn hnot id ?_ (.inr hothers), fun hn => ?_⟩
  · rintro l' ⟨⟩
    rw [hnext, List.length_take, h.length_slot, Nat.min_eq_left hlt]
  · rw [hnext, hn, List.take_of_length_le (Nat.le_of_eq h.length_slot)]
    exact h.whole (not_isStoring hnot hothers)

theorem store (h : SlotInv n allowed slot access) {w : List Nat} {i : Nat} (hw : allowed w)
    (ht : access t = .storing w i ∨ access t = .free ∧ i = 0) (hi : i < n)
    (hothers : ∀ t', t' ≠ t → access t' = .free) :
    SlotInv n allowed (slot.set i (w.getD i 0))
      (Function.update access t (if i + 1 < n then .storing w (i + 1) else .free)) := by
  have hlen := h.length_of_allowed w hw
  have htake : slot.take i = w.take i := by
    rcases ht with ht | ⟨-, rfl⟩
    · exact (h.storing t w i ht).2.1
    · rfl
  have hnext : (slot.set i (w.getD i 0)).take (i + 1) = w.take (i + 1) := by
    rw [List.take_succ_eq_append_getElem (by rw [List.length_set, h.length_slot]; exact hi),
      List.take_succ_eq_append_getElem (hlen ▸ hi), List.take_set_of_le (Nat.le_refl i), htake, List.getElem_set_self,
      List.getD_eq_getElem _ _ (hlen ▸ hi)]
  have hfree (t' : ι) (hne : t' ≠ t) :
      Function.update access t (if i + 1 < n then .storing w (i + 1) else .free) t' = .free := by
    rw [Function.update_of_ne hne]
    exact hothers t' hne
  refine ⟨by rw [List.length_set, h.length_slot], h.length_of_allowed, ?_, ?_, ?_⟩
  · intro t' w' i' ht'
    by_cases heq : t' = t
    · rw [heq, Function.update_self] at ht'
      split_ifs at ht' with hlast
      cases ht'
      exact ⟨hw, hnext, heq ▸ hfree⟩
    · rw [hfree t' heq] at ht'
      cases ht'
  · intro t' l ht'
    by_cases heq : t' = t
    · rw [heq, Function.update_self] at ht'
      split_ifs at ht'
    · rw [hfree t' heq] at ht'
      cases ht'
  · intro hno
    have hlast : ¬ i + 1 < n := by
      intro hlast
      have := hno t
      rw [Function.update_self, if_pos hlast] at this
      exact this trivial
    have hn : i + 1 = n := by omega
    rw [hn, List.take_of_length_le (Nat.le_of_eq (by rw [List.length_set, h.length_slot])),
      List.take_of_length_le (Nat.le_of_eq hlen)] at hnext
    rwa [hnext]

end Step

end SlotInv

end DpdkStdlib.Lib

import Mathlib.Data.List.Basic
import Mathlib.Data.List.Count
import Mathlib.Data.List.Induction

/-!
# Items spread over several lists

A component that keeps items in the lists of several owners changes one owner at a time (`List.modify`, `List.set`).

* `countP_flatMap_modify` : how many items meet a condition, before and after;
* `mem_flatMap_modify`, `mem_flatMap_of_modify` : what is somewhere after the change was somewhere before, or is with
  the changed owner.
-/

namespace DpdkStdlib.Lib

variable {α β : Type*} {l : List α} {i : Nat} {a : α}

theorem modify_split (h : l[i]? = some a) (f : α → α) :
    ∃ l₁ l₂, l = l₁ ++ a :: l₂ ∧ l.modify i f = l₁ ++ f a :: l₂ := by
  obtain ⟨hi, ha⟩ := List.getElem?_eq_some_iff.1 h
  obtain ⟨l₁, b, l₂, hl, hlen, hmodify⟩ := List.exists_of_modify f hi
  have hb : b = a := by
    subst hl hlen
    simpa using ha
  exact ⟨l₁, l₂, hb ▸ hl, hb ▸ hmodify⟩

theorem modify_of_none (h : l[i]? = none) (f : α → α) : l.modify i f = l := by
  refine List.ext_getElem? fun j => ?_
  rw [List.getElem?_modify]
  by_cases hij : i = j
  · subst hij
    rw [h]
    rfl
  · simp [hij]

theorem countP_flatMap_modify (g : α → List β) (h : l[i]? = some a) (f : α → α) (p : β → Bool) :
    ((l.modify i f).flatMap g).countP p + (g a).countP p = (l.flatMap g).countP p + (g (f a)).countP p := by
  obtain ⟨l₁, l₂, hl, hmodify⟩ := modify_split h f
  rw [hmodify, hl]
  simp only [List.flatMap_append, List.flatMap_cons, List.countP_append]
  omega

theorem mem_flatMap_modify (g : α → List β) (h : l[i]? = some a) (f : α → α) {x : β}
    (hx : x ∈ (l.modify i f).flatMap g) : x ∈ l.flatMap g ∨ x ∈ g (f a) := by
  obtain ⟨l₁, l₂, hl, hmodify⟩ := modify_split h f
  rw [hmodify] at hx
  rw [hl]
  simp only [List.flatMap_append, List.flatMap_cons, List.mem_append] at hx ⊢
  tauto

theorem mem_flatMap_of_modify (g : α → List β) (h : l[i]? = some a) {f : α → α} (hsub : g (f a) ⊆ g a) {x : β}
    (hx : x ∈ (l.modify i f).flatMap g) : x ∈ l.flatMap g :=
  (mem_flatMap_modify g h f hx).elim id fun hnew =>
    List.mem_flatMap.2 ⟨a, List.mem_of_getElem? h, hsub hnew⟩

end DpdkStdlib.Lib

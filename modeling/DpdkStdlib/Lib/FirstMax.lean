import Mathlib.Data.List.MinMax

/-!
# The first maximum of a list

`List.argmax` is the first of the elements where a key is largest.

* `argmax_eq_some_iff_split`, `argmax_filter_eq_some_iff` : where it stands in the list;
* `argmax_congr_of_filter` : it depends only on the order of elements with the same key;
* `scanMax` : one pass that keeps the best element so far, replaced by a strictly better one; `scanMax_eq_argmax`.
-/

namespace DpdkStdlib.Lib

variable {α β γ : Type*} [LinearOrder β]

/-- Before the first maximum everything is smaller, after it nothing is larger. -/
theorem argmax_eq_some_iff_split {f : α → β} {l : List α} {m : α} :
    l.argmax f = some m ↔
      ∃ pre post, l = pre ++ m :: post ∧ (∀ a ∈ pre, f a < f m) ∧ ∀ a ∈ post, f a ≤ f m := by
  induction l with
  | nil => simp
  | cons a l ih =>
    rw [List.argmax_cons]
    constructor
    · intro h
      cases hl : l.argmax f with
      | none =>
        rw [hl] at h
        obtain rfl : a = m := Option.some_inj.1 h
        rw [List.argmax_eq_none] at hl
        exact ⟨[], [], by rw [hl]; rfl, by simp, by simp⟩
      | some c =>
        rw [hl] at h
        dsimp only at h
        split_ifs at h with hac
        · obtain rfl : c = m := Option.some_inj.1 h
          obtain ⟨pre, post, rfl, hpre, hpost⟩ := ih.1 hl
          exact ⟨a :: pre, post, rfl, List.forall_mem_cons.2 ⟨hac, hpre⟩, hpost⟩
        · obtain rfl : a = m := Option.some_inj.1 h
          refine ⟨[], l, rfl, by simp, fun b hb => ?_⟩
          exact (List.le_of_mem_argmax hb hl).trans (le_of_not_gt hac)
    · rintro ⟨pre, post, hl, hpre, hpost⟩
      cases pre with
      | nil =>
        obtain ⟨rfl, rfl⟩ := List.cons.inj hl
        cases hl : l.argmax f with
        | none => rfl
        | some c => exact if_neg (not_lt_of_ge (hpost c (List.argmax_mem hl)))
      | cons b pre =>
        obtain ⟨rfl, rfl⟩ := List.cons.inj hl
        obtain ⟨ha, hpre⟩ := List.forall_mem_cons.1 hpre
        rw [ih.2 ⟨pre, post, rfl, hpre, hpost⟩]
        exact if_pos ha

/-- The first maximum among the elements that meet `p`, in the whole list. -/
theorem argmax_filter_eq_some_iff {f : α → β} {p : α → Bool} {l : List α} {m : α} :
    (l.filter p).argmax f = some m ↔
      ∃ pre post, l = pre ++ m :: post ∧ p m ∧ (∀ a ∈ pre, p a → f a < f m) ∧ ∀ a ∈ post, p a → f a ≤ f m := by
  rw [argmax_eq_some_iff_split]
  constructor
  · rintro ⟨pre', post', hsplit, hpre, hpost⟩
    obtain ⟨pre, rest, rfl, rfl, hrest⟩ := List.filter_eq_append_iff.1 hsplit
    obtain ⟨skipped, post, rfl, hskipped, hm, rfl⟩ := List.filter_eq_cons_iff.1 hrest
    refine ⟨pre ++ skipped, post, (List.append_assoc _ _ _).symm, hm, ?_, ?_⟩
    · intro a ha hp
      rcases List.mem_append.1 ha with ha | ha
      · exact hpre a (List.mem_filter.2 ⟨ha, hp⟩)
      · exact absurd hp (hskipped a ha)
    · exact fun a ha hp => hpost a (List.mem_filter.2 ⟨ha, hp⟩)
  · rintro ⟨pre, post, rfl, hm, hpre, hpost⟩
    refine ⟨pre.filter p, post.filter p, by rw [List.filter_append, List.filter_cons_of_pos hm], ?_, ?_⟩
    · intro a ha
      exact hpre a (List.mem_of_mem_filter ha) (List.of_mem_filter ha)
    · intro a ha
      exact hpost a (List.mem_of_mem_filter ha) (List.of_mem_filter ha)

theorem head?_filter_of_argmax {f : α → β} {l : List α} {m : α} (h : l.argmax f = some m) :
    (l.filter fun a => f a = f m).head? = some m := by
  obtain ⟨pre, post, rfl, hpre, -⟩ := argmax_eq_some_iff_split.1 h
  have hnone : pre.filter (fun a => decide (f a = f m)) = [] := by
    rw [List.filter_eq_nil_iff]
    intro a ha
    simpa using (hpre a ha).ne
  rw [List.filter_append, hnone, List.nil_append, List.filter_cons_of_pos (by simp)]
  rfl

/-- Lists that agree, key by key, on the elements with that key have the same first maximum. -/
theorem argmax_congr_of_filter {f : α → β} {l l' : List α}
    (h : ∀ b, (l.filter fun a => f a = b) = l'.filter fun a => f a = b) : l.argmax f = l'.argmax f := by
  have hmem : ∀ a, a ∈ l ↔ a ∈ l' := by
    intro a
    have := congrArg (a ∈ ·) (h (f a))
    simpa using this
  cases hl : l.argmax f with
  | none =>
    rw [List.argmax_eq_none] at hl
    rw [eq_comm, List.argmax_eq_none, List.eq_nil_iff_forall_not_mem]
    intro a ha
    rw [← hmem, hl] at ha
    cases ha
  | some m =>
    cases hl' : l'.argmax f with
    | none =>
      rw [List.argmax_eq_none] at hl'
      have hm := (hmem m).1 (List.argmax_mem hl)
      rw [hl'] at hm
      cases hm
    | some m' =>
      have hkey : f m = f m' := le_antisymm
        (List.le_of_mem_argmax ((hmem m).1 (List.argmax_mem hl)) hl')
        (List.le_of_mem_argmax ((hmem m').2 (List.argmax_mem hl')) hl)
      have hhead := head?_filter_of_argmax hl
      rwa [h, hkey, head?_filter_of_argmax hl', eq_comm] at hhead

/-- One turn of a pass over a list: `g a` replaces the best so far if its key is strictly larger. -/
def better (key : γ → β) (best : Option γ) (c : γ) : Option γ :=
  match best with
  | some b => if key c ≤ key b then some b else some c
  | none => some c

def scanMax (key : γ → β) (p : α → Bool) (g : α → γ) (l : List α) : Option γ :=
  l.foldl (fun best a => if p a then better key best (g a) else best) none

theorem better_argmax_concat (key : γ → β) (g : α → γ) (l : List α) (a : α) :
    better key ((l.argmax (key ∘ g)).map g) (g a) = ((l ++ [a]).argmax (key ∘ g)).map g := by
  rw [List.argmax_concat]
  cases l.argmax (key ∘ g) with
  | none => rfl
  | some b =>
    rw [Option.map_some, better]
    change _ = Option.map g (if key (g b) < key (g a) then some a else some b)
    by_cases h : key (g a) ≤ key (g b)
    · rw [if_pos h, if_neg (not_lt_of_ge h), Option.map_some]
    · rw [if_neg h, if_pos (lt_of_not_ge h), Option.map_some]

theorem scanMax_eq_argmax (key : γ → β) (p : α → Bool) (g : α → γ) (l : List α) :
    scanMax key p g l = ((l.filter p).argmax (key ∘ g)).map g := by
  induction l using List.reverseRecOn with
  | nil => rfl
  | append_singleton l a ih =>
    rw [scanMax] at ih ⊢
    rw [List.foldl_append, ih, List.foldl_cons, List.foldl_nil, List.filter_append]
    by_cases h : p a
    · rw [if_pos h, better_argmax_concat, List.filter_cons_of_pos h, List.filter_nil]
    · rw [if_neg h, List.filter_cons_of_neg h, List.filter_nil, List.append_nil]

end DpdkStdlib.Lib

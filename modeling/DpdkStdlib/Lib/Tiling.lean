import Mathlib.Data.List.Basic

/-!
# Lists that tile an interval

`Tiles len P a xs b` : the items of `xs`, of positive lengths, lie end to end from `a` to `b`, and each meets `P` at the
position where it starts.
-/

namespace DpdkStdlib.Lib

variable {α : Type*} {len : α → Nat} {P Q : Nat → α → Prop} {a b c u : Nat} {x : α} {xs ys : List α}

/-- The items lie end to end from `a` to `b`. -/
def Tiles (len : α → Nat) (P : Nat → α → Prop) : Nat → List α → Nat → Prop
  | a, [], b => a = b
  | a, x :: xs, b => 0 < len x ∧ P a x ∧ Tiles len P (a + len x) xs b

theorem Tiles.le : ∀ {a : Nat} {xs : List α}, Tiles len P a xs b → a ≤ b
  | _, [], h => Nat.le_of_eq h
  | _, _ :: _, ⟨_, _, h⟩ => Nat.le_trans (Nat.le_add_right _ _) h.le

theorem tiles_append : ∀ {a : Nat} {xs : List α},
    Tiles len P a (xs ++ ys) c ↔ ∃ b, Tiles len P a xs b ∧ Tiles len P b ys c
  | a, [] => by simp [Tiles]
  | a, x :: xs => by
    simp only [List.cons_append, Tiles, tiles_append]
    constructor
    · rintro ⟨hpos, hP, b, h, h'⟩
      exact ⟨b, ⟨hpos, hP, h⟩, h'⟩
    · rintro ⟨b, ⟨hpos, hP, h⟩, h'⟩
      exact ⟨hpos, hP, b, h, h'⟩

theorem tiles_singleton : Tiles len P a [x] b ↔ 0 < len x ∧ P a x ∧ a + len x = b := Iff.rfl

theorem Tiles.mono : ∀ {a : Nat} {xs : List α}, Tiles len P a xs b →
    (∀ pos x, x ∈ xs → a ≤ pos → pos + len x ≤ b → P pos x → Q pos x) → Tiles len Q a xs b
  | _, [], h, _ => h
  | a, x :: _, ⟨hpos, hP, h⟩, hPQ =>
    ⟨hpos, hPQ a x List.mem_cons_self (Nat.le_refl a) h.le hP,
      h.mono fun pos y hy hle => hPQ pos y (List.mem_cons_of_mem x hy) (Nat.le_trans (Nat.le_add_right _ _) hle)⟩

theorem Tiles.map (f : α → α) (hlen : ∀ x, len (f x) = len x) : ∀ {a : Nat} {xs : List α},
    Tiles len (fun pos x => P pos (f x)) a xs b → Tiles len P a (xs.map f) b
  | _, [], h => h
  | a, x :: xs, ⟨hpos, hP, h⟩ => by
    refine ⟨by rwa [hlen], hP, ?_⟩
    rw [hlen]
    exact h.map f hlen

/-- The start of a tiling is determined by its end. -/
theorem Tiles.and : ∀ {a c : Nat} {xs : List α}, Tiles len P a xs b → Tiles len Q c xs b →
    a = c ∧ Tiles len (fun pos x => P pos x ∧ Q pos x) a xs b
  | _, _, [], h, h' => ⟨h.trans h'.symm, h⟩
  | a, c, x :: xs, ⟨hpos, hP, h⟩, ⟨_, hQ, h'⟩ => by
    obtain ⟨heq, hand⟩ := h.and h'
    obtain rfl : a = c := by omega
    exact ⟨rfl, hpos, ⟨hP, hQ⟩, hand⟩

theorem Tiles.mem : ∀ {a : Nat} {xs : List α}, Tiles len P a xs b → x ∈ xs →
    ∃ pos, a ≤ pos ∧ pos + len x ≤ b ∧ 0 < len x ∧ P pos x
  | _, [], _, hx => absurd hx List.not_mem_nil
  | a, y :: ys, ⟨hpos, hP, h⟩, hx => by
    rcases List.mem_cons.1 hx with rfl | hx
    · exact ⟨a, Nat.le_refl a, h.le, hpos, hP⟩
    · obtain ⟨pos, hle, hrest⟩ := h.mem hx
      exact ⟨pos, by omega, hrest⟩

theorem Tiles.head? (h : Tiles len P a xs b) (hx : xs.head? = some x) : 0 < len x ∧ a + len x ≤ b ∧ P a x := by
  cases xs with
  | nil => cases hx
  | cons y ys =>
    obtain rfl := Option.some.inj hx
    obtain ⟨hpos, hP, hrest⟩ := h
    exact ⟨hpos, hrest.le, hP⟩

theorem Tiles.getLast? (h : Tiles len P a xs b) (hx : xs.getLast? = some x) :
    ∃ pos, a ≤ pos ∧ pos + len x = b ∧ 0 < len x ∧ P pos x := by
  obtain ⟨ys, rfl⟩ := List.getLast?_eq_some_iff.1 hx
  obtain ⟨pos, hys, hlast⟩ := tiles_append.1 h
  obtain ⟨hpos, hP, hend⟩ := tiles_singleton.1 hlast
  exact ⟨pos, hys.le, hend, hpos, hP⟩

theorem Tiles.mark_last (h : Tiles len P a xs b) :
    Tiles len (fun pos x => P pos x ∧ (pos + len x = b → xs.getLast? = some x)) a xs b := by
  rcases List.eq_nil_or_concat xs with rfl | ⟨ys, y, rfl⟩
  · exact h
  · rw [List.concat_eq_append] at h ⊢
    obtain ⟨c, hys, hlast⟩ := tiles_append.1 h
    obtain ⟨hpos, hP, hend⟩ := tiles_singleton.1 hlast
    refine tiles_append.2 ⟨c, hys.mono fun pos x _ _ hle hx => ⟨hx, fun hb => ?_⟩,
      tiles_singleton.2 ⟨hpos, ⟨hP, ?_⟩, hend⟩⟩
    · omega
    · intro _
      simp

/-- Nothing is dropped when every item reaches beyond `u`. -/
theorem Tiles.filter_eq_self {keep : α → Bool} (h : Tiles len P a xs b) (hu : u ≤ a)
    (hkeep : ∀ pos x, a ≤ pos → pos + len x ≤ b → P pos x → (keep x = true ↔ u < pos + len x)) :
    xs.filter keep = xs := by
  refine List.filter_eq_self.2 fun x hx => ?_
  obtain ⟨pos, hle, hend, hpos, hP⟩ := h.mem hx
  exact (hkeep pos x hle hend hP).2 (by omega)

/-- **Dropping what is behind `u`.** -/
theorem Tiles.filter (keep : α → Bool) : ∀ {a : Nat} {xs : List α}, Tiles len P a xs b → a ≤ u →
    (∀ pos x, a ≤ pos → pos + len x ≤ b → P pos x → (keep x = true ↔ u < pos + len x)) →
    ∃ c, a ≤ c ∧ Tiles len P c (xs.filter keep) b ∧ c ≤ u ∧ (xs.filter keep = [] → b ≤ u)
  | a, [], h, hu, _ => by
    obtain rfl : a = b := h
    exact ⟨a, Nat.le_refl a, rfl, hu, fun _ => hu⟩
  | a, x :: xs, ⟨hpos, hP, h⟩, hu, hkeep => by
    have hx := hkeep a x (Nat.le_refl a) h.le hP
    have hkeep' : ∀ pos y, a + len x ≤ pos → pos + len y ≤ b → P pos y → (keep y = true ↔ u < pos + len y) :=
      fun pos y hle => hkeep pos y (by omega)
    by_cases hend : u < a + len x
    · -- the first item stays, and so do all behind it
      have hall : (x :: xs).filter keep = x :: xs := by
        rw [List.filter_cons_of_pos (hx.2 hend), h.filter_eq_self (Nat.le_of_lt hend) hkeep']
      rw [hall]
      exact ⟨a, Nat.le_refl a, ⟨hpos, hP, h⟩, hu, nofun⟩
    · have hdrop : (x :: xs).filter keep = xs.filter keep := List.filter_cons_of_neg fun hk => hend (hx.1 hk)
      obtain ⟨c, hac, hrest⟩ := h.filter keep (Nat.le_of_not_lt hend) hkeep'
      rw [hdrop]
      exact ⟨c, by omega, hrest⟩

end DpdkStdlib.Lib

import Mathlib.Algebra.Order.BigOperators.Group.List
import Mathlib.Algebra.Order.Ring.Nat
import Mathlib.Data.List.Nodup
import Mathlib.Logic.Function.Basic

/-!
# Finite maps as association lists

An `AssocMap κ ν` is a list of entries with no key twice; the order of the entries stands for the iteration order
of a map whose order is not specified.
-/

namespace DpdkStdlib.Lib

/-- A finite map: entries in iteration order, no key twice. -/
structure AssocMap (κ ν : Type*) where
  entries : List (κ × ν)
  nodup : (entries.map Prod.fst).Nodup

namespace AssocMap

variable {κ κ' ν : Type*}

def empty : AssocMap κ ν := ⟨[], List.nodup_nil⟩

instance : Inhabited (AssocMap κ ν) := ⟨empty⟩

def size (m : AssocMap κ ν) : Nat := m.entries.length

def isEmpty (m : AssocMap κ ν) : Bool := m.entries.isEmpty

def keys (m : AssocMap κ ν) : List κ := m.entries.map Prod.fst

theorem nodup_keys (m : AssocMap κ ν) : m.keys.Nodup := m.nodup

/-- Move every entry along an injective function of its key. -/
def mapKeys (f : κ → κ') (hf : Function.Injective f) (m : AssocMap κ ν) : AssocMap κ' ν :=
  ⟨m.entries.map fun e => (f e.1, e.2), by
    have h := m.nodup.map hf
    rwa [List.map_map] at h ⊢⟩

@[simp] theorem size_mapKeys (f : κ → κ') (hf : Function.Injective f) (m : AssocMap κ ν) :
    (m.mapKeys f hf).size = m.size := by
  simp [size, mapKeys]

theorem isEmpty_iff (m : AssocMap κ ν) : m.isEmpty = true ↔ m.entries = [] := by
  simp [isEmpty]

section Lookup
variable [DecidableEq κ] [DecidableEq κ']

def get? (m : AssocMap κ ν) (k : κ) : Option ν := m.entries.lookup k

def contains (m : AssocMap κ ν) (k : κ) : Bool := (m.get? k).isSome

theorem nodup_erase_fst (k : κ) {l : List (κ × ν)} (h : (l.map Prod.fst).Nodup) :
    ((l.filter fun e => e.1 ≠ k).map Prod.fst).Nodup :=
  h.sublist (List.Sublist.map Prod.fst List.filter_sublist)

def erase (m : AssocMap κ ν) (k : κ) : AssocMap κ ν :=
  ⟨m.entries.filter fun e => e.1 ≠ k, nodup_erase_fst k m.nodup⟩

def insert (m : AssocMap κ ν) (k : κ) (v : ν) : AssocMap κ ν :=
  ⟨(k, v) :: (m.erase k).entries, by
    rw [List.map_cons, List.nodup_cons]
    exact ⟨by simp [erase], (m.erase k).nodup⟩⟩

theorem lookup_eq_some_iff_mem {l : List (κ × ν)} (h : (l.map Prod.fst).Nodup) (k : κ) (v : ν) :
    l.lookup k = some v ↔ (k, v) ∈ l := by
  induction l with
  | nil => simp
  | cons e l ih =>
    simp only [List.map_cons, List.nodup_cons] at h
    rw [List.lookup_cons, List.mem_cons]
    by_cases hk : k = e.1
    · subst hk
      have hno : (e.1, v) ∉ l := fun hm => h.1 (List.mem_map.2 ⟨(e.1, v), hm, rfl⟩)
      simp [hno, Prod.ext_iff, eq_comm]
    · have : (k == e.1) = false := by simpa using hk
      simp [this, ih h.2, Prod.ext_iff, hk]

theorem mem_entries_iff (m : AssocMap κ ν) (k : κ) (v : ν) : (k, v) ∈ m.entries ↔ m.get? k = some v :=
  (lookup_eq_some_iff_mem m.nodup k v).symm

@[simp] theorem get?_empty (k : κ) : (empty : AssocMap κ ν).get? k = none := rfl

theorem get?_erase (m : AssocMap κ ν) (k j : κ) : (m.erase k).get? j = if j = k then none else m.get? j := by
  apply Option.ext
  intro v
  rw [← mem_entries_iff]
  split_ifs with h
  · simp [erase, h]
  · rw [← mem_entries_iff]
    simp [erase, h]

@[simp] theorem get?_erase_self (m : AssocMap κ ν) (k : κ) : (m.erase k).get? k = none := by
  rw [get?_erase, if_pos rfl]

theorem get?_erase_ne (m : AssocMap κ ν) {k j : κ} (h : j ≠ k) : (m.erase k).get? j = m.get? j := by
  rw [get?_erase, if_neg h]

theorem get?_insert (m : AssocMap κ ν) (k j : κ) (v : ν) :
    (m.insert k v).get? j = if j = k then some v else m.get? j := by
  have hcons : (m.insert k v).get? j = if j = k then some v else (m.erase k).get? j := by
    simp only [get?, insert, List.lookup_cons]
    by_cases h : j = k
    · simp [h]
    · have : (j == k) = false := by simpa using h
      simp [this, h]
  rw [hcons, get?_erase]
  split_ifs <;> rfl

@[simp] theorem get?_insert_self (m : AssocMap κ ν) (k : κ) (v : ν) : (m.insert k v).get? k = some v := by
  rw [get?_insert, if_pos rfl]

theorem get?_insert_ne (m : AssocMap κ ν) {k j : κ} (v : ν) (h : j ≠ k) : (m.insert k v).get? j = m.get? j := by
  rw [get?_insert, if_neg h]

def filter (p : κ → ν → Bool) (m : AssocMap κ ν) : AssocMap κ ν :=
  ⟨m.entries.filter fun e => p e.1 e.2, m.nodup.sublist (List.Sublist.map Prod.fst List.filter_sublist)⟩

theorem get?_filter (p : κ → ν → Bool) (m : AssocMap κ ν) (k : κ) :
    (m.filter p).get? k = (m.get? k).filter (p k) := by
  apply Option.ext
  intro v
  rw [← mem_entries_iff, Option.filter_eq_some_iff, ← mem_entries_iff]
  exact List.mem_filter

theorem get?_mapKeys (f : κ → κ') (hf : Function.Injective f) (m : AssocMap κ ν) (k : κ) :
    (m.mapKeys f hf).get? (f k) = m.get? k := by
  apply Option.ext
  intro v
  rw [← mem_entries_iff, ← mem_entries_iff]
  simp only [mapKeys, List.mem_map, Prod.exists, Prod.mk.injEq]
  constructor
  · rintro ⟨j, u, hm, hj, rfl⟩
    rwa [hf hj] at hm
  · exact fun hm => ⟨k, v, hm, rfl, rfl⟩

theorem perm_of_get? {m : AssocMap κ ν} {k : κ} {v : ν} (h : m.get? k = some v) :
    m.entries.Perm ((k, v) :: (m.erase k).entries) := by
  classical
  have hmem : (k, v) ∈ m.entries := (mem_entries_iff m k v).2 h
  have hnd : m.entries.Nodup := List.Nodup.of_map _ m.nodup
  have hrest : (m.erase k).entries = m.entries.erase (k, v) := by
    rw [hnd.erase_eq_filter]
    refine List.filter_congr fun e he => ?_
    by_cases hk : e.1 = k
    · have hv : e = (k, v) := List.inj_on_of_nodup_map m.nodup he hmem hk
      simp [hv]
    · have hv : e ≠ (k, v) := fun hv => hk (congrArg Prod.fst hv)
      simp [hk, hv]
  rw [hrest]
  exact List.perm_cons_erase hmem

theorem entries_erase_of_get?_none {m : AssocMap κ ν} {k : κ} (h : m.get? k = none) :
    (m.erase k).entries = m.entries := by
  refine List.filter_eq_self.2 fun e he => ?_
  have hne : e.1 ≠ k := by
    rintro rfl
    rw [(mem_entries_iff m e.1 e.2).1 he] at h
    cases h
  simp [hne]

theorem size_erase_of_get? {m : AssocMap κ ν} {k : κ} {v : ν} (h : m.get? k = some v) :
    (m.erase k).size + 1 = m.size := (perm_of_get? h).length_eq.symm

/-! ## Counting entries -/

def count (p : κ → ν → Bool) (m : AssocMap κ ν) : Nat := m.entries.countP fun e => p e.1 e.2

section count
variable (p : κ → ν → Bool) {m : AssocMap κ ν} {k : κ} {u v : ν}

theorem count_erase_of_get? (h : m.get? k = some v) : (m.erase k).count p + (p k v).toNat = m.count p := by
  unfold count
  rw [(perm_of_get? h).countP_eq, List.countP_cons]
  cases p k v <;> rfl

theorem count_insert (m : AssocMap κ ν) (k : κ) (v : ν) :
    (m.insert k v).count p = (m.erase k).count p + (p k v).toNat := by
  unfold count
  rw [insert, List.countP_cons]
  cases p k v <;> rfl

theorem count_insert_of_none (v : ν) (h : m.get? k = none) : (m.insert k v).count p = m.count p + (p k v).toNat := by
  rw [count_insert, count, entries_erase_of_get?_none h]
  rfl

theorem count_insert_of_get? (v : ν) (h : m.get? k = some u) :
    (m.insert k v).count p + (p k u).toNat = m.count p + (p k v).toNat := by
  rw [count_insert, ← count_erase_of_get? p h]
  omega

theorem count_erase_le (m : AssocMap κ ν) (k : κ) : (m.erase k).count p ≤ m.count p :=
  List.filter_sublist.countP_le

theorem count_mono {q : κ → ν → Bool} (h : ∀ k v, m.get? k = some v → p k v = true → q k v = true) :
    m.count p ≤ m.count q :=
  List.countP_mono_left fun e he => h e.1 e.2 ((mem_entries_iff m e.1 e.2).1 he)

omit [DecidableEq κ] in
theorem count_true (m : AssocMap κ ν) : m.count (fun _ _ => true) = m.size := congrFun List.countP_true m.entries

theorem count_pos_iff : 0 < m.count p ↔ ∃ k v, m.get? k = some v ∧ p k v = true := by
  simp only [count, List.countP_pos_iff, Prod.exists, mem_entries_iff]

end count

def All (p : κ → ν → Prop) (m : AssocMap κ ν) : Prop := ∀ k v, m.get? k = some v → p k v

theorem all_iff_entries (p : κ → ν → Prop) (m : AssocMap κ ν) : m.All p ↔ ∀ e ∈ m.entries, p e.1 e.2 :=
  ⟨fun h e he => h e.1 e.2 ((mem_entries_iff m e.1 e.2).1 he), fun h k v hv => h (k, v) ((mem_entries_iff m k v).2 hv)⟩

instance (p : κ → ν → Prop) [∀ k v, Decidable (p k v)] (m : AssocMap κ ν) : Decidable (m.All p) :=
  decidable_of_iff' _ (all_iff_entries p m)

theorem all_empty (p : κ → ν → Prop) : (empty : AssocMap κ ν).All p := by
  intro k v h
  rw [get?_empty] at h
  cases h

theorem All.insert {p : κ → ν → Prop} {m : AssocMap κ ν} (hm : m.All p) {k : κ} {v : ν} (h : p k v) :
    (m.insert k v).All p := by
  intro j w hw
  rw [get?_insert] at hw
  split_ifs at hw with hj
  · cases hw
    rwa [hj]
  · exact hm j w hw

theorem All.erase {p : κ → ν → Prop} {m : AssocMap κ ν} (hm : m.All p) (k : κ) : (m.erase k).All p := by
  intro j w hw
  rw [get?_erase] at hw
  split_ifs at hw
  exact hm j w hw

end Lookup

end AssocMap

/-! ## Passes over the keys -/

variable {σ κ β : Type*} {pass : σ → κ → σ} {ks : List κ} {k : κ}

/-- What no key of the list changes, the pass leaves as it is. -/
theorem foldl_unchanged (g : σ → β) (h : ∀ s, ∀ key ∈ ks, g (pass s key) = g s) (s : σ) :
    g (ks.foldl pass s) = g s := by
  induction ks generalizing s with
  | nil => rfl
  | cons key ks ih =>
    rw [List.foldl_cons, ih fun s key' hkey => h s key' (List.mem_cons_of_mem _ hkey), h s key List.mem_cons_self]

/-- A pass comes to each key once. -/
theorem exists_split_of_nodup (hnodup : ks.Nodup) (hk : k ∈ ks) :
    ∃ before after, ks = before ++ k :: after ∧ k ∉ before ∧ k ∉ after := by
  obtain ⟨before, after, rfl⟩ := List.append_of_mem hk
  rw [List.nodup_middle, List.nodup_cons, List.mem_append, not_or] at hnodup
  exact ⟨before, after, rfl, hnodup.1⟩

end DpdkStdlib.Lib

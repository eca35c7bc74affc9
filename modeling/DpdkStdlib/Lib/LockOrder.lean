import Mathlib.Logic.Function.Basic
import Mathlib.Data.List.Basic

/-!
# Programs that take locks in order

A program is a tree of acquisitions and releases, whose branches stand for whatever else decides where it goes.  Threads
run such programs side by side; a lock is free when no thread holds it.

* `LockProg`, `LockThread.Step`, `Reachable` : programs, a step of a thread, and the states threads reach;
* `Ordered rank p held` : `p`, started with `held`, takes locks by rising rank only, and holds none when it sleeps or ends;
* `exists_step` : threads that run ordered programs do not block each other for good;
* `MayWait l p` : `p` may wait for `l`; `step_of_not_mayWait` : a program that waits for none of the locks that are taken
  goes on, and `acc_step` : it ends.
-/

namespace DpdkStdlib.Lib

variable {L R : Type}

inductive LockProg (L R : Type)
  | done (result : R)
  | lock (l : L) (k : LockProg L R)
  | tryLock (l : L) (k refused : LockProg L R)
  | unlock (l : L) (k : LockProg L R)
  | sleep (k : LockProg L R)
  | count (k : LockProg L R)
  | choose (k : Nat → LockProg L R)

structure LockThread (L R : Type) where
  prog : LockProg L R
  held : List L

inductive LockThread.Step [DecidableEq L] (free : L → Prop) : LockThread L R → LockThread L R → Prop
  | lock {l k held} (h : free l) : Step free ⟨.lock l k, held⟩ ⟨k, l :: held⟩
  | taken {l k refused held} (h : free l) : Step free ⟨.tryLock l k refused, held⟩ ⟨k, l :: held⟩
  | refused {l k refused held} (h : ¬ free l) : Step free ⟨.tryLock l k refused, held⟩ ⟨refused, held⟩
  | unlock {l k held} : Step free ⟨.unlock l k, held⟩ ⟨k, held.erase l⟩
  | sleep {k held} : Step free ⟨.sleep k, held⟩ ⟨k, held⟩
  | count {k held} : Step free ⟨.count k, held⟩ ⟨k, held⟩
  | choose {k held} (n : Nat) : Step free ⟨.choose k, held⟩ ⟨k n, held⟩

def Free {ι : Type} (s : ι → LockThread L R) (l : L) : Prop := ∀ i, l ∉ (s i).held

section order
variable [DecidableEq L] {ι : Type} (rank : L → Nat)

def Ordered : LockProg L R → List L → Prop
  | .done _, held => held = []
  | .lock l k, held => (∀ h ∈ held, rank h < rank l) ∧ Ordered k (l :: held)
  | .tryLock l k refused, held => (∀ h ∈ held, rank h < rank l) ∧ Ordered k (l :: held) ∧ Ordered refused held
  | .unlock l k, held => l ∈ held ∧ Ordered k (held.erase l)
  | .sleep k, held => held = [] ∧ Ordered k held
  | .count k, held => Ordered k held
  | .choose k, held => ∀ n, Ordered (k n) held

/-- The states that threads reach which are idle at first and run programs of the set, one after the other. -/
inductive Reachable (progs : LockProg L R → Prop) : (ι → LockThread L R) → Prop
  | idle {s} (h : ∀ i, ∃ r, s i = ⟨.done r, []⟩) : Reachable progs s
  | call [DecidableEq ι] {s i r p} (h : Reachable progs s) (hi : (s i).prog = .done r) (hp : progs p) :
      Reachable progs (Function.update s i ⟨p, (s i).held⟩)
  | step [DecidableEq ι] {s i t} (h : Reachable progs s) (ht : (s i).Step (Free s) t) :
      Reachable progs (Function.update s i t)

variable {rank}

theorem Ordered.step {t t' : LockThread L R} {free : L → Prop} (h : Ordered rank t.prog t.held) (ht : t.Step free t') :
    Ordered rank t'.prog t'.held := by
  cases ht with
  | lock => exact h.2
  | taken => exact h.2.1
  | refused => exact h.2.2
  | unlock => exact h.2
  | sleep => exact h.2
  | count => exact h
  | choose n => exact h n

theorem Reachable.ordered {progs : LockProg L R → Prop} {s : ι → LockThread L R} (h : Reachable progs s)
    (hprogs : ∀ p, progs p → Ordered rank p []) (i : ι) : Ordered rank (s i).prog (s i).held := by
  induction h with
  | idle h =>
    obtain ⟨r, hr⟩ := h i
    rw [hr]
    rfl
  | @call _ s j r p _ hj hp ih =>
    by_cases hij : i = j
    · subst hij
      rw [hj] at ih
      rw [Function.update_self, ih]
      exact hprogs p hp
    · rwa [Function.update_of_ne hij]
  | @step _ s j t _ ht ih =>
    by_cases hij : i = j
    · subst hij
      rw [Function.update_self]
      exact ih.step ht
    · rwa [Function.update_of_ne hij]

theorem step_or_lock (t : LockThread L R) (free : L → Prop) :
    (∃ r, t.prog = .done r) ∨ (∃ t', t.Step free t') ∨ ∃ l k, t.prog = .lock l k ∧ ¬ free l := by
  obtain ⟨prog, held⟩ := t
  cases prog with
  | done r => exact .inl ⟨r, rfl⟩
  | lock l k =>
    by_cases hl : free l
    · exact .inr (.inl ⟨_, .lock hl⟩)
    · exact .inr (.inr ⟨l, k, rfl, hl⟩)
  | tryLock l k refused =>
    by_cases hl : free l
    · exact .inr (.inl ⟨_, .taken hl⟩)
    · exact .inr (.inl ⟨_, .refused hl⟩)
  | unlock l k => exact .inr (.inl ⟨_, .unlock⟩)
  | sleep k => exact .inr (.inl ⟨_, .sleep⟩)
  | count k => exact .inr (.inl ⟨_, .count⟩)
  | choose k => exact .inr (.inl ⟨_, .choose 0⟩)

section progress
variable {s : ι → LockThread L R} {bound : Nat} (hbound : ∀ l, rank l ≤ bound)
  (hordered : ∀ i, Ordered rank (s i).prog (s i).held)
include hbound hordered

/-- Whoever holds the lock that a thread waits for can step, or waits for one of higher rank. -/
theorem exists_step_of_lock (i : ι) (l : L) (k : LockProg L R) (hl : (s i).prog = .lock l k) :
    ∃ j t, (s j).Step (Free s) t := by
  induction hm : bound - rank l using Nat.strongRecOn generalizing i l k with
  | ind m ih =>
    rcases step_or_lock (s i) (Free s) with ⟨r, hr⟩ | ⟨t, ht⟩ | ⟨l₁, k₁, hl₁, hfree⟩
    · rw [hl] at hr
      cases hr
    · exact ⟨i, t, ht⟩
    rw [hl] at hl₁
    cases hl₁
    simp only [Free, not_forall, not_not] at hfree
    obtain ⟨j, hj⟩ := hfree
    have hord := hordered j
    rcases step_or_lock (s j) (Free s) with ⟨r, hr⟩ | ⟨t, ht⟩ | ⟨l', k', hl', -⟩
    · rw [hr] at hord
      exact absurd hj (by rw [show (s j).held = [] from hord]; exact List.not_mem_nil)
    · exact ⟨j, t, ht⟩
    · rw [hl'] at hord
      have hlt := hord.1 l hj
      have hle := hbound l'
      exact ih (bound - rank l') (by omega) j l' k' hl' rfl

/-- **Deadlock freedom.** While some thread is not done, some thread can take a step. -/
theorem exists_step {i : ι} (hi : ∀ r, (s i).prog ≠ .done r) : ∃ j t, (s j).Step (Free s) t := by
  rcases step_or_lock (s i) (Free s) with ⟨r, hr⟩ | ⟨t, ht⟩ | ⟨l, k, hl, -⟩
  · exact absurd hr (hi r)
  · exact ⟨i, t, ht⟩
  · exact exists_step_of_lock hbound hordered i l k hl

end progress

end order

/-! ## Waiting -/

def MayWait (l : L) : LockProg L R → Prop
  | .done _ => False
  | .lock l' k => l' = l ∨ MayWait l k
  | .tryLock _ k refused => MayWait l k ∨ MayWait l refused
  | .unlock _ k | .sleep k | .count k => MayWait l k
  | .choose k => ∃ n, MayWait l (k n)

section waiting
variable [DecidableEq L]

theorem MayWait.of_step {t t' : LockThread L R} {free : L → Prop} (ht : t.Step free t') {l : L}
    (h : MayWait l t'.prog) : MayWait l t.prog := by
  cases ht with
  | lock => exact .inr h
  | taken => exact .inl h
  | refused => exact .inr h
  | unlock | sleep | count => exact h
  | choose n => exact ⟨n, h⟩

theorem step_of_not_mayWait {t : LockThread L R} {free : L → Prop} (h : ∀ l, ¬ free l → ¬ MayWait l t.prog) :
    (∃ r, t.prog = .done r) ∨ ∃ t', t.Step free t' := by
  rcases step_or_lock t free with hdone | hstep | ⟨l, k, hl, hfree⟩
  · exact .inl hdone
  · exact .inr hstep
  · refine absurd ?_ (h l hfree)
    rw [hl]
    exact .inl rfl

/-- Whatever the locks are like at each step, a program ends. -/
theorem acc_step (p : LockProg L R) : ∀ held : List L,
    Acc (fun t' t : LockThread L R => ∃ free, t.Step free t') ⟨p, held⟩ := by
  induction p with
  | done r =>
    intro held
    constructor
    rintro t ⟨free, ht⟩
    cases ht
  | tryLock l k refused ih ih' =>
    intro held
    constructor
    rintro t ⟨free, ht⟩
    cases ht with
    | taken => exact ih _
    | refused => exact ih' _
  | lock l k ih | unlock l k ih | sleep k ih | count k ih | choose k ih =>
    intro held
    constructor
    rintro t ⟨free, ht⟩
    cases ht
    apply ih

end waiting

end DpdkStdlib.Lib

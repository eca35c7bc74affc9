import Mathlib.Logic.Function.Basic

/-!
# A lock with a condition variable

Threads `ι` wait under a lock: such a thread takes the lock, looks at its conditions one after the other, parks if it
has found none of them true, and has to take the lock again once it is woken.  Threads `κ` notify under the lock.  A
condition is `lost` to a thread if it is true and nobody is going to notify.
-/

namespace DpdkStdlib.Lib

/-- Where a waiting thread is. -/
inductive Place
  | away
  /-- It holds the lock and has looked at `n` conditions. -/
  | checking (n : Nat)
  | parked
  | woken
deriving DecidableEq

/-- The thread relies on having found condition `n` false. -/
def Place.Seen : Place → Nat → Prop
  | .checking m, n => n < m
  | .parked, _ => True
  | .away, _ | .woken, _ => False

structure Monitor (ι κ : Type*) where
  lock : Option (ι ⊕ κ) := none
  place : ι → Place := fun _ => .away

namespace Monitor
variable {ι κ : Type*} {m : Monitor ι κ} {lost lost' : ι → Nat → Prop} {i : ι} {k : κ} {n : Nat}

/-- No condition is lost to a thread that relies on it. -/
structure Sound (lost : ι → Nat → Prop) (m : Monitor ι κ) : Prop where
  holder : ∀ i n, m.place i = .checking n → m.lock = some (.inl i)
  kept : ∀ i n, (m.place i).Seen n → ¬lost i n

theorem sound_new : Sound lost ({} : Monitor ι κ) := ⟨fun _ _ h => Place.noConfusion h, fun _ _ h => h.elim⟩

theorem Sound.mono (h : Sound lost m) (hle : ∀ i n, lost' i n → lost i n) : Sound lost' m :=
  ⟨h.holder, fun i n hseen hlost => h.kept i n hseen (hle i n hlost)⟩

/-- Nobody else holds the lock of a thread that looks at its conditions. -/
theorem Sound.not_held (h : Sound lost m) (hi : m.place i = .checking n) {j : ι} (hj : j ≠ i) :
    m.lock ≠ some (.inl j) := by
  rw [h.holder i n hi]
  intro heq
  cases heq
  exact hj rfl

/-! ## Notifying -/

def take (m : Monitor ι κ) (k : κ) : Monitor ι κ := { m with lock := some (.inr k) }

/-- The notification, and the release of the lock after it. -/
def notifyAll (m : Monitor ι κ) : Monitor ι κ where
  lock := none
  place i := if m.place i = .parked then .woken else m.place i

theorem Sound.take (h : Sound lost m) (hfree : m.lock = none) (k : κ) : Sound lost (m.take k) :=
  ⟨fun i n hi => absurd (h.holder i n hi) (by rw [hfree]; simp), h.kept⟩

theorem place_of_notifyAll {p : Place} (hp : p ≠ .woken) (hi : m.notifyAll.place i = p) : m.place i = p := by
  by_cases hparked : m.place i = .parked
  · exact absurd ((if_pos hparked).symm.trans hi).symm hp
  · exact (if_neg hparked).symm.trans hi

/-- While the notifier holds the lock nobody is on its way to parking, and nobody is parked afterwards. -/
theorem Sound.notifyAll (h : Sound lost m) (hlock : m.lock = some (.inr k)) : Sound lost' m.notifyAll := by
  have hplace : ∀ i, m.notifyAll.place i = .away ∨ m.notifyAll.place i = .woken := by
    intro i
    cases hi : m.place i with
    | checking n => exact absurd (h.holder i n hi) (by rw [hlock]; simp)
    | away | parked | woken => simp [Monitor.notifyAll, hi]
  constructor
  · intro i n hi
    rcases hplace i with hi' | hi' <;> rw [hi'] at hi <;> cases hi
  · intro i n hseen
    rcases hplace i with hi' | hi' <;> rw [hi'] at hseen <;> exact hseen.elim

/-! ## Waiting -/

variable [DecidableEq ι]

/-- A waiting thread moves; `lock` is who holds the lock then. -/
def move (m : Monitor ι κ) (i : ι) (p : Place) (lock : Option (ι ⊕ κ)) : Monitor ι κ where
  lock
  place := Function.update m.place i p

def enter (m : Monitor ι κ) (i : ι) : Monitor ι κ := m.move i (.checking 0) (some (.inl i))

/-- The next condition was found false. -/
def look (m : Monitor ι κ) (i : ι) (n : Nat) : Monitor ι κ := m.move i (.checking (n + 1)) m.lock

def leave (m : Monitor ι κ) (i : ι) : Monitor ι κ := m.move i .away none

def park (m : Monitor ι κ) (i : ι) : Monitor ι κ := m.move i .parked none

def wake (m : Monitor ι κ) (i : ι) : Monitor ι κ := m.move i .woken m.lock

@[simp] theorem place_move (p : Place) (lock : Option (ι ⊕ κ)) : (m.move i p lock).place i = p := by
  simp [move]

/-- A thread may move if it takes the lock from no other one. -/
theorem Sound.move (h : Sound lost m) {lock : Option (ι ⊕ κ)} {p : Place}
    (hothers : ∀ j ≠ i, m.lock = some (.inl j) → lock = some (.inl j))
    (hp : ∀ n, p = .checking n → lock = some (.inl i)) (hkept : ∀ n, p.Seen n → ¬lost i n) :
    Sound lost (m.move i p lock) := by
  constructor
  · intro j n (hj : Function.update m.place i p j = _)
    by_cases hji : j = i
    · subst hji
      rw [Function.update_self] at hj
      exact hp n hj
    · rw [Function.update_of_ne hji] at hj
      exact hothers j hji (h.holder j n hj)
  · intro j n (hseen : (Function.update m.place i p j).Seen n)
    by_cases hji : j = i
    · subst hji
      rw [Function.update_self] at hseen
      exact hkept n hseen
    · rw [Function.update_of_ne hji] at hseen
      exact h.kept j n hseen

theorem Sound.enter (h : Sound lost m) (hfree : m.lock = none) (i : ι) : Sound lost (m.enter i) :=
  h.move (fun j _ hj => by rw [hfree] at hj; cases hj) (fun _ _ => rfl) fun n hseen => absurd hseen n.not_lt_zero

theorem Sound.look (h : Sound lost m) (hi : m.place i = .checking n) (hfalse : ¬lost i n) :
    Sound lost (m.look i n) := by
  refine h.move (fun _ _ hj => hj) (fun _ _ => h.holder i n hi) fun j hj => ?_
  rcases Nat.lt_succ_iff_lt_or_eq.1 hj with hlt | rfl
  · exact h.kept i j (by rw [hi]; exact hlt)
  · exact hfalse

theorem Sound.leave (h : Sound lost m) (hi : m.place i = .checking n) : Sound lost (m.leave i) :=
  h.move (fun _ hj hlock => absurd hlock (h.not_held hi hj)) (fun _ hp => by cases hp) fun _ hseen => hseen.elim

/-- A woken thread takes the lock and gives it back. -/
theorem Sound.leave_free (h : Sound lost m) (hfree : m.lock = none) (i : ι) : Sound lost (m.leave i) :=
  h.move (fun j _ hj => by rw [hfree] at hj; cases hj) (fun _ hp => by cases hp) fun _ hseen => hseen.elim

theorem Sound.park (h : Sound lost m) (hi : m.place i = .checking n) (hall : ∀ j, lost i j → j < n) :
    Sound lost (m.park i) :=
  h.move (fun _ hj hlock => absurd hlock (h.not_held hi hj)) (fun _ hp => by cases hp) fun j _ hlost =>
    h.kept i j (by rw [hi]; exact hall j hlost) hlost

theorem Sound.wake (h : Sound lost m) (i : ι) : Sound lost (m.wake i) :=
  h.move (fun _ _ hj => hj) (fun _ hp => by cases hp) fun _ hseen => hseen.elim

end Monitor

end DpdkStdlib.Lib

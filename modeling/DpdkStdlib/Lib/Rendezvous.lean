import DpdkStdlib.Lib.Run

/-!
# A rendezvous of offers and requests

Offers and requests come in any order.  One that finds a partner waiting is served with it, any other waits.  The
partner that came last is served first, so the order of service is not the order of arrival.
-/

namespace DpdkStdlib.Lib

inductive Arrival (α β : Type*)
  | offer (a : α)
  | ask (b : β)

variable {α β : Type*}

def Arrival.offer? : Arrival α β → Option α
  | .offer a => some a
  | .ask _ => none

def Arrival.ask? : Arrival α β → Option β
  | .offer _ => none
  | .ask b => some b

structure Rendezvous (α β : Type*) where
  offers : List α
  asks : List β

namespace Rendezvous

/-- An arrival is served with the partner that came last, or waits. -/
def step (s : Rendezvous α β) : Arrival α β → Rendezvous α β × List (β × α)
  | .offer a => match s.asks.getLast? with
    | some b => ({ s with asks := s.asks.dropLast }, [(b, a)])
    | none => ({ s with offers := s.offers ++ [a] }, [])
  | .ask b => match s.offers.getLast? with
    | some a => ({ s with offers := s.offers.dropLast }, [(b, a)])
    | none => ({ s with asks := s.asks ++ [b] }, [])

theorem length_offers_offer_le (s : Rendezvous α β) (a : α) :
    (s.step (.offer a)).1.offers.length ≤ s.offers.length + 1 := by
  unfold step
  dsimp only
  split
  · exact Nat.le_succ _
  · simp

theorem length_offers_ask_le (s : Rendezvous α β) (b : β) : (s.step (.ask b)).1.offers.length ≤ s.offers.length := by
  unfold step
  dsimp only
  split
  · simp
  · exact Nat.le_refl _

def Calm (s : Rendezvous α β) : Arrival α β → Prop
  | .offer _ => s.asks.length ≤ 1
  | .ask _ => s.offers.length ≤ 1

def Apart (s : Rendezvous α β) : Prop := s.offers = [] ∨ s.asks = []

/-- The requests are served with the offers in the order of both, and the rest waits. -/
structure InOrder (asks : List β) (offers : List α) (served : List (β × α)) (s : Rendezvous α β) : Prop where
  pairs : served = asks.zip offers
  unasked : s.offers = offers.drop asks.length
  unserved : s.asks = asks.drop offers.length

theorem InOrder.apart {asks : List β} {offers : List α} {served : List (β × α)} {s : Rendezvous α β}
    (h : InOrder asks offers served s) : s.Apart := by
  rcases Nat.le_total offers.length asks.length with hle | hle
  · exact Or.inl (h.unasked.trans (List.drop_eq_nil_of_le hle))
  · exact Or.inr (h.unserved.trans (List.drop_eq_nil_of_le hle))

theorem Apart.inOrder {s : Rendezvous α β} (h : s.Apart) : InOrder s.asks s.offers [] s := by
  rcases h with h | h <;> constructor <;> simp [h]

/-- The first request and the first offer are served, the others follow. -/
theorem InOrder.cons {asks : List β} {offers : List α} {served : List (β × α)} {s : Rendezvous α β}
    (h : InOrder asks offers served s) (b : β) (a : α) : InOrder (b :: asks) (a :: offers) ((b, a) :: served) s :=
  ⟨by rw [h.pairs]; rfl, h.unasked, h.unserved⟩

theorem eq_singleton_of_getLast? {l : List α} {a : α} (h : l.getLast? = some a) (hlen : l.length ≤ 1) : l = [a] := by
  obtain ⟨l', rfl⟩ := List.getLast?_eq_some_iff.1 h
  rw [List.length_append, List.length_singleton] at hlen
  obtain rfl := List.length_eq_zero_iff.1 (Nat.le_zero.1 (Nat.le_of_succ_le_succ hlen))
  rfl

/-- **First come, first served**, in a run in which no arrival finds two partners. -/
theorem inOrder_run : ∀ (ms : List (Arrival α β)) (s : Rendezvous α β), s.Apart → Along Calm step s ms →
    InOrder (s.asks ++ ms.filterMap Arrival.ask?) (s.offers ++ ms.filterMap Arrival.offer?) (run step s ms).2
      (run step s ms).1
  | [], s, hs, _ => by simpa using hs.inOrder
  | .offer a :: ms, s, hs, hcalm => by
    rw [run_cons]
    cases hlast : s.asks.getLast? with
    | none =>
      have hnil : s.asks = [] := List.getLast?_eq_none_iff.1 hlast
      have hstep : step s (.offer a) = ({ s with offers := s.offers ++ [a] }, []) := by rw [step, hlast]
      have hrest := inOrder_run ms _ (Or.inr (by rw [hstep]; exact hnil)) hcalm.2
      rw [hstep] at hrest ⊢
      simpa [List.filterMap_cons, Arrival.ask?, Arrival.offer?] using hrest
    | some b =>
      have hone : s.asks = [b] := eq_singleton_of_getLast? hlast hcalm.1
      have hnone : s.offers = [] := hs.resolve_right (by rw [hone]; exact List.cons_ne_nil _ _)
      have hstep : step s (.offer a) = (⟨[], []⟩, [(b, a)]) := by rw [step, hlast, hone, hnone]; rfl
      have hrest := inOrder_run ms _ (Or.inr (by rw [hstep])) hcalm.2
      rw [hstep] at hrest ⊢
      rw [hone, hnone]
      simpa [List.filterMap_cons, Arrival.ask?, Arrival.offer?] using hrest.cons b a
  | .ask b :: ms, s, hs, hcalm => by
    rw [run_cons]
    cases hlast : s.offers.getLast? with
    | none =>
      have hnil : s.offers = [] := List.getLast?_eq_none_iff.1 hlast
      have hstep : step s (.ask b) = ({ s with asks := s.asks ++ [b] }, []) := by rw [step, hlast]
      have hrest := inOrder_run ms _ (Or.inl (by rw [hstep]; exact hnil)) hcalm.2
      rw [hstep] at hrest ⊢
      simpa [List.filterMap_cons, Arrival.ask?, Arrival.offer?] using hrest
    | some a =>
      have hone : s.offers = [a] := eq_singleton_of_getLast? hlast hcalm.1
      have hnone : s.asks = [] := hs.resolve_left (by rw [hone]; exact List.cons_ne_nil _ _)
      have hstep : step s (.ask b) = (⟨[], []⟩, [(b, a)]) := by rw [step, hlast, hone, hnone]; rfl
      have hrest := inOrder_run ms _ (Or.inl (by rw [hstep])) hcalm.2
      rw [hstep] at hrest ⊢
      rw [hone, hnone]
      simpa [List.filterMap_cons, Arrival.ask?, Arrival.offer?] using hrest.cons b a

end Rendezvous

end DpdkStdlib.Lib

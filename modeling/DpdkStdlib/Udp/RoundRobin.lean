import DpdkStdlib.Udp.Pipeline

/-!
# The application's turn at the rings (`lib.rs`, `topology.rs`)

`dequeue_app_rings` and `MultiCoreTopology::dequeue_app` are the same loop over the application rings.  A `poll` here is
one turn of it, so that workers can put packets into the rings while the receiver looks through them.  `usize` wraps.
-/

namespace DpdkStdlib.Udp
open DpdkStdlib.Lib

variable {s : Receiver} {n rr : Nat} {seen : List Nat}

/-! ## The loop -/

/-- The application rings, the index, and the call: its offset, and the rings it has seen empty. -/
structure Receiver where
  rings : List (List AppPacket)
  rrIndex : Nat
  scan : Option (Nat × List Nat) := none

inductive RingEvent
  | enqueue (w : Nat) (pkt : AppPacket)
  /-- The receiver calls; a second call waits for the first. -/
  | call
  | poll

/-- What a call returns: a packet from a ring, or nothing. -/
inductive Dequeued
  | took (ring : Nat) (pkt : AppPacket)
  | nothing (seen : List Nat)
deriving DecidableEq

namespace Receiver

def bound (s : Receiver) : Nat := (s.rrIndex + s.rings.length) % 2 ^ 64

def step (s : Receiver) : RingEvent → Receiver × List Dequeued
  | .enqueue w pkt => ({ s with rings := s.rings.modify w (· ++ [pkt]) }, [])
  | .call =>
    if s.scan.isSome then (s, [])
    else if s.rings.length = 0 then (s, [.nothing []])
    else ({ s with scan := some (0, []) }, [])
  | .poll =>
    match s.scan with
    | none => (s, [])
    | some (offset, seen) =>
      if offset < s.bound then
        let idx := offset % s.rings.length
        match s.rings[idx]? with
        | some (pkt :: rest) =>
          ({ rings := s.rings.set idx rest, rrIndex := idx + 1, scan := none }, [.took idx pkt])
        | _ => ({ s with scan := some (offset + 1, seen ++ [idx]) }, [])
      else ({ s with scan := none }, [.nothing seen])

def served (out : List Dequeued) : List Nat := out.filterMap fun
  | .took ring _ => some ring
  | .nothing _ => none

/-- As long as no ring is empty, `n` packets in a row come from `n` rings. -/
def Fair (n rr : Nat) : Prop := ∀ (rings : List (List AppPacket)) (es : List RingEvent), rings.length = n →
  Along (fun s _ => ∀ ring ∈ s.rings, ring ≠ []) step { rings, rrIndex := rr } es →
    ∀ before turn after, served (run step { rings, rrIndex := rr } es).2 = before ++ turn ++ after →
      turn.length = n → turn.Perm (List.range n)

/-- A call that returns nothing has seen every ring empty. -/
def SeenEmpty (n rr : Nat) : Prop := ∀ (rings : List (List AppPacket)) (es : List RingEvent), rings.length = n →
  ∀ seen, Dequeued.nothing seen ∈ (run step { rings, rrIndex := rr } es).2 → ∀ ring < n, ring ∈ seen

theorem run_keeps {I : Receiver → List Dequeued → Prop}
    (hstep : ∀ s out e, I s out → I (s.step e).1 (out ++ (s.step e).2)) (h : I s []) (es : List RingEvent) :
    I (run step s es).1 (run step s es).2 := by
  have hinv := run_invariant (fun s out e _ => hstep s out e) es s [] (along_true s es) h
  rwa [List.nil_append] at hinv

/-! ## Calls that return nothing -/

/-- A call on its way has seen the rings empty that it has passed, and the index does not wrap. -/
structure Scanning (n : Nat) (s : Receiver) : Prop where
  length : s.rings.length = n
  index : s.rrIndex + n < 2 ^ 64
  passed : ∀ offset seen, s.scan = some (offset, seen) → ∀ k < offset, k % n ∈ seen

theorem scanning_step (hn : n < 2 ^ 63) (h : Scanning n s) (e : RingEvent) :
    Scanning n (s.step e).1 ∧ ∀ seen, Dequeued.nothing seen ∈ (s.step e).2 → ∀ ring < n, ring ∈ seen := by
  have hlength := h.length
  have hindex := h.index
  cases e with
  | enqueue w pkt =>
    exact ⟨⟨by rw [← h.length]; exact List.length_modify .., h.index, h.passed⟩, fun _ hout => by cases hout⟩
  | call =>
    unfold step
    split_ifs with hscan hzero
    · exact ⟨h, fun _ hout => by cases hout⟩
    · exact ⟨h, fun _ _ ring hring => by omega⟩
    · refine ⟨⟨h.length, h.index, fun offset seen heq k hk => ?_⟩, fun _ hout => by cases hout⟩
      cases heq
      omega
  | poll =>
    unfold step
    cases hscan : s.scan with
    | none => exact ⟨h, fun _ hout => by cases hout⟩
    | some p =>
      obtain ⟨offset, seen⟩ := p
      have hpassed := h.passed offset seen hscan
      dsimp only
      split_ifs with hlt
      · split
        · -- the index is within the rings again
          next pkt rest hring =>
          have hidx : offset % s.rings.length < s.rings.length := (List.getElem?_eq_some_iff.1 hring).1
          refine ⟨⟨by rw [← hlength]; exact List.length_set .., ?_, fun _ _ heq => by cases heq⟩,
            fun _ hout => by simp at hout⟩
          show offset % s.rings.length + 1 + n < 2 ^ 64
          omega
        · refine ⟨⟨h.length, h.index, fun offset' seen' heq k hk => ?_⟩, fun _ hout => by cases hout⟩
          obtain ⟨rfl, rfl⟩ := Prod.mk.inj (Option.some.inj heq)
          rcases Nat.lt_succ_iff_lt_or_eq.1 hk with hk | rfl
          · exact List.mem_append_left _ (hpassed k hk)
          · exact List.mem_append_right _ (by rw [hlength]; exact List.mem_singleton_self _)
      · refine ⟨⟨h.length, h.index, fun _ _ heq => by cases heq⟩, fun seen' hout ring hring => ?_⟩
        obtain rfl : seen' = seen := Dequeued.nothing.inj (List.mem_singleton.1 hout)
        -- the range has covered every ring
        have hbound : s.bound = s.rrIndex + n := by
          rw [bound, hlength]
          exact Nat.mod_eq_of_lt hindex
        have hmem := hpassed ring (by omega)
        rwa [Nat.mod_eq_of_lt hring] at hmem

theorem seenEmpty_of_lt (hn : n < 2 ^ 63) (hrr : rr + n < 2 ^ 64) : SeenEmpty n rr := by
  intro rings es hrings seen hout ring hring
  have hinv := run_keeps (I := fun s out => Scanning n s ∧ ∀ seen, Dequeued.nothing seen ∈ out → ∀ ring < n, ring ∈ seen)
    (fun s out e hI => ⟨(scanning_step hn hI.1 e).1, fun seen hmem => (List.mem_append.1 hmem).elim (hI.2 seen)
      ((scanning_step hn hI.1 e).2 seen)⟩)
    (s := { rings, rrIndex := rr }) ⟨⟨hrings, hrr, fun _ _ heq => by cases heq⟩, fun _ h => by cases h⟩ es
  exact hinv.2 seen hout ring hring

theorem run_polls (k offset : Nat) (hscan : s.scan = some (offset, seen)) (hbound : offset + k ≤ s.bound)
    (hempty : ∀ j, offset ≤ j → j < offset + k → ∀ pkt rest, s.rings[j % s.rings.length]? ≠ some (pkt :: rest)) :
    run step s (List.replicate k .poll) =
      ({ s with scan := some (offset + k, seen ++ (List.range' offset k).map (· % s.rings.length)) }, []) := by
  induction k generalizing s offset seen with
  | zero =>
    obtain ⟨rings, rrIndex, scan⟩ := s
    cases hscan
    simp
  | succ k ih =>
    have hstep : s.step .poll = ({ s with scan := some (offset + 1, seen ++ [offset % s.rings.length]) }, []) := by
      rw [step, hscan]
      dsimp only
      rw [if_pos (by omega)]
      split
      · next pkt rest hring => exact absurd hring (hempty offset le_rfl (by omega) pkt rest)
      · rfl
    rw [List.replicate_succ, run_cons, hstep]
    dsimp only
    rw [ih (s := { s with scan := some (offset + 1, seen ++ [offset % s.rings.length]) }) (offset + 1) rfl
      (by show offset + 1 + k ≤ s.bound; omega) fun j hle hlt => hempty j (by omega) (by omega)]
    simp [List.range'_succ, Nat.add_comm, Nat.add_left_comm]

theorem step_call (hscan : s.scan = none) (hrings : s.rings.length ≠ 0) :
    s.step .call = ({ s with scan := some (0, []) }, []) := by
  rw [step, if_neg (by rw [hscan]; decide), if_neg hrings]

theorem run_past (hscan : s.scan = none) (hrings : s.rings.length ≠ 0) (k : Nat) (hk : k ≤ s.bound)
    (hempty : ∀ j < k, ∀ pkt rest, s.rings[j % s.rings.length]? ≠ some (pkt :: rest)) :
    run step s (.call :: (List.replicate k .poll ++ [.poll])) =
      step { s with scan := some (k, (List.range k).map (· % s.rings.length)) } .poll := by
  have hpolls := run_polls (s := { s with scan := some (0, []) }) k 0 rfl (by rw [Nat.zero_add]; exact hk)
    fun j _ hj => hempty j (by omega)
  rw [run_cons, step_call hscan hrings, run_append, hpolls, Nat.zero_add, List.nil_append, ← List.range_eq_range']
  simp

theorem step_ended :
    step { s with scan := some (s.bound, seen) } .poll = ({ s with scan := none }, [.nothing seen]) := by
  rw [step]
  dsimp only
  rw [if_neg (by exact Nat.lt_irrefl _)]

theorem step_took {offset : Nat} {pkt : AppPacket} {rest : List AppPacket} (hlt : offset < s.bound)
    (hring : s.rings[offset % s.rings.length]? = some (pkt :: rest)) :
    step { s with scan := some (offset, seen) } .poll =
      ({ rings := s.rings.set (offset % s.rings.length) rest, rrIndex := offset % s.rings.length + 1 },
        [.took (offset % s.rings.length) pkt]) := by
  rw [step]
  dsimp only
  rw [if_pos (by exact hlt), hring]

theorem not_seenEmpty_of_wrap (hrr : rr < 2 ^ 64) (hwrap : 2 ^ 64 ≤ rr + n) (hn : n < 2 ^ 63) : ¬SeenEmpty n rr := by
  intro h
  let s : Receiver := { rings := List.replicate n [], rrIndex := rr }
  have hlength : s.rings.length = n := List.length_replicate
  have hbound : s.bound = rr + n - 2 ^ 64 := by
    rw [bound, hlength]
    show (rr + n) % 2 ^ 64 = _
    omega
  have hpast := run_past (s := s) rfl (by omega) s.bound le_rfl fun j _ pkt rest hring => by
    cases List.eq_of_mem_replicate (List.mem_of_getElem? hring)
  rw [step_ended, hlength] at hpast
  have hmem := h (List.replicate n []) _ List.length_replicate _
    (by rw [hpast]; exact List.mem_singleton_self _) s.bound (by omega)
  obtain ⟨k, hk, heq⟩ := List.mem_map.1 hmem
  rw [List.mem_range] at hk
  rw [Nat.mod_eq_of_lt (by omega)] at heq
  omega

theorem seenEmpty_iff (hn : n < 2 ^ 63) (hrr : rr < 2 ^ 64) : SeenEmpty n rr ↔ rr + n < 2 ^ 64 :=
  ⟨fun h => Nat.lt_of_not_le fun hwrap => not_seenEmpty_of_wrap hrr hwrap hn h, seenEmpty_of_lt hn⟩

/-! ## Calls in a row -/

theorem run_call (pkt : AppPacket) (rest : List AppPacket) {others : List (List AppPacket)}
    (hbound : rr + (others.length + 1) < 2 ^ 64) :
    run step { rings := (pkt :: rest) :: others, rrIndex := rr } [.call, .poll] =
      ({ rings := rest :: others, rrIndex := 1 }, [.took 0 pkt]) := by
  have hlt : 0 < ({ rings := (pkt :: rest) :: others, rrIndex := rr } : Receiver).bound := by
    show 0 < (rr + (others.length + 1)) % 2 ^ 64
    rw [Nat.mod_eq_of_lt hbound]
    omega
  rw [run_cons, step_call rfl (by simp), run_cons, step_took hlt (by rw [Nat.zero_mod]; rfl), Nat.zero_mod]
  rfl

theorem run_calls (pkt : AppPacket) (others : List (List AppPacket)) (hothers : ∀ ring ∈ others, ring ≠ [])
    (hn : others.length + 1 < 2 ^ 63) (k : Nat) : ∀ rr, rr + (others.length + 1) < 2 ^ 64 →
    Along (fun s _ => ∀ ring ∈ s.rings, ring ≠ []) step
        { rings := List.replicate (k + 1) pkt :: others, rrIndex := rr } (List.replicate k [.call, .poll]).flatten ∧
      served (run step { rings := List.replicate (k + 1) pkt :: others, rrIndex := rr }
        (List.replicate k [.call, .poll]).flatten).2 = List.replicate k 0 := by
  induction k with
  | zero => exact fun _ _ => ⟨trivial, rfl⟩
  | succ k ih =>
    intro rr hrr
    have hcall := run_call pkt (List.replicate (k + 1) pkt) hrr
    obtain ⟨halong, hserved⟩ := ih 1 (by omega)
    rw [List.replicate_succ (n := k), List.flatten_cons, along_append, run_append, List.replicate_succ (n := k + 1), hcall]
    refine ⟨⟨?_, halong⟩, ?_⟩
    · have hne : ∀ ring ∈ (pkt :: List.replicate (k + 1) pkt) :: others, ring ≠ [] := by
        intro ring hmem
        rcases List.mem_cons.1 hmem with rfl | hmem
        · exact List.cons_ne_nil _ _
        · exact hothers ring hmem
      refine ⟨hne, ?_, trivial⟩
      rw [step_call rfl (by simp)]
      exact hne
    · rw [served, List.filterMap_append, ← served, ← served, hserved, List.replicate_succ]
      rfl

theorem not_fair (hn : 2 ≤ n) (hn' : n < 2 ^ 63) (hrr : rr + n < 2 ^ 64) (pkt : AppPacket) : ¬Fair n rr := by
  intro h
  obtain ⟨m, rfl⟩ := Nat.exists_eq_add_of_le hn
  have hlength : (List.replicate (m + 1) [pkt]).length + 1 = 2 + m := by rw [List.length_replicate]; omega
  obtain ⟨halong, hserved⟩ := run_calls pkt (List.replicate (m + 1) [pkt])
    (fun ring hmem => by rw [List.eq_of_mem_replicate hmem]; exact List.cons_ne_nil _ _) (by omega) (2 + m) rr (by omega)
  have hperm := h _ _ (by rw [List.length_cons]; omega) halong [] (List.replicate (2 + m) 0) []
    (by rw [hserved, List.nil_append, List.append_nil]) List.length_replicate
  have hcount := hperm.count_eq 1
  rw [List.count_replicate, if_neg (by decide), List.count_eq_one_of_mem List.nodup_range (List.mem_range.2 (by omega))]
    at hcount
  omega

/-- An event keeps the rings, and serves one of them. -/
theorem served_step (h : s.rings.length = n) (e : RingEvent) :
    (s.step e).1.rings.length = n ∧ ∀ ring ∈ served (s.step e).2, ring < n := by
  cases e with
  | enqueue w pkt => exact ⟨(List.length_modify ..).trans h, fun _ hmem => by cases hmem⟩
  | call =>
    unfold step
    split_ifs <;> exact ⟨h, fun _ hmem => by cases hmem⟩
  | poll =>
    unfold step
    cases s.scan with
    | none => exact ⟨h, fun _ hmem => by cases hmem⟩
    | some p =>
      dsimp only
      split_ifs
      · split
        · next pkt rest hring =>
          refine ⟨(List.length_set ..).trans h, fun ring hmem => ?_⟩
          obtain rfl := List.mem_singleton.1 hmem
          rw [← h]
          exact (List.getElem?_eq_some_iff.1 hring).1
        · exact ⟨h, fun _ hmem => by cases hmem⟩
      · exact ⟨h, fun _ hmem => by cases hmem⟩

theorem fair_one (rr : Nat) : Fair 1 rr := by
  intro rings es hrings _ before turn after hserved hlength
  have hinv := run_keeps (I := fun s out => s.rings.length = 1 ∧ ∀ ring ∈ served out, ring < 1)
    (fun s out e hI => by
      obtain ⟨hrings, hnew⟩ := served_step hI.1 e
      refine ⟨hrings, fun ring hmem => ?_⟩
      rw [served, List.filterMap_append] at hmem
      exact (List.mem_append.1 hmem).elim (hI.2 ring) (hnew ring))
    (s := { rings, rrIndex := rr }) ⟨hrings, fun _ h => by cases h⟩ es
  obtain ⟨ring, rfl⟩ := List.length_eq_one_iff.1 hlength
  obtain rfl : ring = 0 := Nat.lt_one_iff.1 (hinv.2 ring (by rw [hserved]; simp))
  exact .rfl

/-- **Round robin.** The rings are served in turn only if there is one of them. -/
theorem round_robin_iff (n rr : Nat) (hpos : 1 ≤ n) (hn : n < 2 ^ 63) (hrr : rr < 2 ^ 64) :
    (Fair n rr ∧ SeenEmpty n rr ↔ n = 1 ∧ rr ≠ 2 ^ 64 - 1) ∧ (SeenEmpty n rr ↔ rr + n < 2 ^ 64) := by
  refine ⟨⟨fun ⟨hfair, hseen⟩ => ?_, ?_⟩, seenEmpty_iff hn hrr⟩
  · have hlt := (seenEmpty_iff hn hrr).1 hseen
    refine ⟨?_, by omega⟩
    by_contra hne
    exact not_fair (by omega) hn hlt ⟨⟨0, 0⟩, 0, 0, .v6 0 0 0 0⟩ hfair
  · rintro ⟨rfl, hmax⟩
    exact ⟨fair_one rr, seenEmpty_of_lt hn (by omega)⟩

theorem single_ring_fair : (Fair 1 0 ∧ SeenEmpty 1 0 ↔ 1 = 1 ∧ 0 ≠ 2 ^ 64 - 1) ∧ (SeenEmpty 1 0 ↔ 0 + 1 < 2 ^ 64) :=
  round_robin_iff 1 0 (by decide) (by decide) (by decide)

/-- Two rings with packets: both calls are served from the first one. -/
theorem first_ring_twice : ∃ pkt : AppPacket,
    Along (fun s _ => ∀ ring ∈ s.rings, ring ≠ []) step { rings := [[pkt, pkt, pkt], [pkt]], rrIndex := 0 }
        [.call, .poll, .call, .poll] ∧
      served (run step { rings := [[pkt, pkt, pkt], [pkt]], rrIndex := 0 } [.call, .poll, .call, .poll]).2 = [0, 0] ∧
      ¬[0, 0].Perm (List.range 2) :=
  ⟨⟨⟨0, 0⟩, 0, 0, .v6 0 0 0 0⟩, by decide, by decide, by decide⟩

end Receiver

end DpdkStdlib.Udp

import DpdkStdlib.Tcp.Receiver
import DpdkStdlib.Tcp.Transmit
import DpdkStdlib.Tcp.Window

/-!
# Zero-window probes

The persist branch of a tick sends one zero byte at `snd_una + flight`.  A peer whose window is open takes it for the next
byte of the stream.  The branch looks at the deadline only, which a drain sets when the effective window, of `cwnd` and
`snd_wnd` together, is used up, and which nothing but a later drain clears.
-/

namespace DpdkStdlib.Tcp
open DpdkStdlib.Lib

/-- The sequence number `x`, after `n` acknowledged ones, belongs to the byte `b` of what was written, within a turn
from `snd_una`. -/
def BelongsAt (iss : SeqNum) (n : Nat) (W : List UInt8) (x : SeqNum) (b : UInt8) : Prop :=
  ∃ pos, x = iss.add (1 + pos) ∧ n ≤ 1 + pos ∧ 1 + pos < n + 2 ^ 32 ∧ W[pos]? = some b

/-- The frame carries the right bytes, or lies below `snd_una`; and the peer has no room. -/
structure ProbeSound (n : Nat) (t : Tcb) (f : Emitted) : Prop where
  stream : (∀ i b, f.params.payload[i]? = some b → BelongsAt t.iss n t.handle.txRing.stream (f.params.seq.add i) b) ∨
    (f.params.seq.add f.params.payload.length).le t.sndUna = true
  closed : t.sndWnd ≤ t.flightSize

/-- The tick reaches the persist branch, and the timer is due. -/
def probeFires (now : Instant) (t : Tcb) : Bool := !expired now t && !rtoDue now t && persistDue now t

/-- The next byte written is a zero (or half of the sequence space is in flight), and the window of the peer is used
up. -/
structure ProbeJustified (n : Nat) (t : Tcb) : Prop where
  zero : (∃ pos, 1 + pos = n + t.flightSize ∧ t.handle.txRing.stream[pos]? = some 0) ∨ 2 ^ 31 ≤ t.flightSize
  closed : t.sndWnd ≤ t.flightSize

/-! ## Sequence numbers acknowledged in a run -/

/-- How far `snd_una` moves from one state of the connection to another. -/
def unaAdvance : Outcome → Outcome → Nat
  | .live t, .live t' => t'.sndUna.diff t.sndUna
  | _, _ => 0

def ackStep (cfg : EngineConfig) (s : Outcome) (ev : ConnEvent) : Outcome × List Nat :=
  ((connStep cfg s ev).1, [unaAdvance s (connStep cfg s ev).1])

/-- Sequence numbers acknowledged in a run, the SYN's included. -/
def acknowledged (cfg : EngineConfig) (o : Opening) (es : List ConnEvent) : Nat :=
  (run (ackStep cfg) (.live (o.tcb cfg)) es).2.sum

theorem acknowledged_invariant {cfg : EngineConfig} {t : Tcb} {P : Nat → Tcb → Prop}
    (hcall : ∀ n t ev t', P n t → (callTcb cfg ev t).outcome = .live t' → P (n + t'.sndUna.diff t.sndUna) t')
    {o : Opening} {es : List ConnEvent} (hinit : P 0 (o.tcb cfg)) (h : (connRun cfg o es).1 = .live t) :
    P (acknowledged cfg o es) t := by
  have hstep : ∀ (s : Outcome) (ns : List Nat) ev, True → (∀ t, s = .live t → P ns.sum t) →
      ∀ t', (ackStep cfg s ev).1 = .live t' → P (ns ++ (ackStep cfg s ev).2).sum t' := by
    intro s ns ev _ hs t' ht'
    cases s with
    | removed hd => cases ht'
    | live u =>
      have hsum : (ns ++ (ackStep cfg (.live u) ev).2).sum = ns.sum + t'.sndUna.diff u.sndUna := by
        rw [ackStep, show (connStep cfg (.live u) ev).1 = .live t' from ht', List.sum_append]
        rfl
      rw [hsum]
      exact hcall ns.sum u ev t' (hs u rfl) ht'
  refine run_invariant (I := fun (s : Outcome) ns => ∀ t, s = .live t → P ns.sum t) hstep es (.live (o.tcb cfg)) []
    (along_true _ es) (fun t ht => Outcome.live.inj ht ▸ hinit) t ?_
  rw [run_congr (connStep cfg) (ackStep cfg) (fun _ _ => rfl)]
  exact h

theorem iss_call {cfg : EngineConfig} {ev : ConnEvent} {t t' : Tcb} (h : (callTcb cfg ev t).outcome = .live t') :
    t'.iss = t.iss :=
  field_call h Tcb.iss (fun _ _ => rfl) (fun _ _ => rfl) (fun _ _ _ _ => rfl)
    (fun clock seg _ _ _ => field_handleEstablished clock seg t Tcb.iss fun _ _ => rfl)
    fun option _ => field_handleSetOption option t Tcb.iss fun _ _ => rfl

theorem una_acknowledged {cfg : EngineConfig} {o : Opening} {es : List ConnEvent} {t : Tcb}
    (h : (connRun cfg o es).1 = .live t) : t.sndUna = t.iss.add (acknowledged cfg o es) := by
  refine acknowledged_invariant (P := fun n t => t.sndUna = t.iss.add n) (fun n u ev t' hI hlive => ?_) ?_ h
  · rw [iss_call hlive, ← SeqNum.add_add, ← hI, SeqNum.add_diff]
  · cases o <;> exact (SeqNum.add_zero _).symm

/-! ## The probe -/

/-- The zero-window probe: one zero byte behind what is in flight. -/
def probeFrame (t : Tcb) : Emitted :=
  ⟨.probe, t.params (t.sndUna.add t.flightSize) .ack (encodeEstablishedWindow t) [0]⟩

theorem out_of_probeFires (cfg : EngineConfig) {now : Instant} (clock : Instant) {t : Tcb}
    (h : probeFires now t = true) : (onTickTcb cfg now clock t).out = [probeFrame t] := by
  simp only [probeFires, Bool.and_eq_true, Bool.not_eq_true'] at h
  obtain ⟨⟨hexp, hrto⟩, hpersist⟩ := h
  rw [onTickTcb, if_neg (by rw [hexp]; exact Bool.false_ne_true), tickTcb,
    if_neg (by rw [hrto]; exact Bool.false_ne_true), if_pos hpersist]
  rfl

theorem probeFires_of_mem {cfg : EngineConfig} {now clock : Instant} {t : Tcb} {f : Emitted}
    (hf : f ∈ (onTickTcb cfg now clock t).out) (hsite : f.site = .probe) :
    probeFires now t = true ∧ f = probeFrame t := by
  cases tickFrame_of_mem hf with
  | sent h =>
    rw [hsite] at h
    rcases h with h | ⟨-, h | h⟩ <;> cases h
  | retransmitted _ h => rw [site_retransmitFrames h] at hsite; cases hsite
  | probed hexp hdue hpersist h => exact ⟨by rw [probeFires, hexp, hdue, hpersist]; rfl, List.mem_singleton.1 h⟩
  | keepalive h => rw [hsite] at h; cases h

theorem next_below_una_iff (t : Tcb) :
    (t.sndUna.add (t.flightSize + 1)).le t.sndUna = true ↔ 2 ^ 31 ≤ t.flightSize := by
  have hlt : t.flightSize < 2 ^ 32 := SeqNum.diff_lt _ _
  rw [SeqNum.le_iff, SeqNum.lt_iff]
  rcases Nat.lt_or_ge (t.flightSize + 1) (2 ^ 32) with hsmall | hwrap
  · have hdiff : t.sndUna.diff (t.sndUna.add (t.flightSize + 1)) = 2 ^ 32 - (t.flightSize + 1) := by
      have := SeqNum.diff_add_add_of_lt t.sndUna (a := t.flightSize + 1) (b := 0) (by omega) (by omega)
      simpa using this
    have hne : t.sndUna.add (t.flightSize + 1) ≠ t.sndUna := by
      intro heq
      rw [heq, SeqNum.diff_self] at hdiff
      omega
    rw [hdiff]
    constructor
    · rintro (heq | hbetween)
      · exact absurd heq hne
      · omega
    · intro hle
      exact Or.inr (by omega)
  · obtain hfull : t.flightSize + 1 = 2 ^ 32 := by omega
    refine iff_of_true (Or.inl ?_) (by omega)
    rw [hfull]
    ext1
    simp [SeqNum.add]

theorem belongsAt_next_iff {iss una : SeqNum} {n d : Nat} {W : List UInt8} {b : UInt8} (huna : una = iss.add n)
    (hd : d < 2 ^ 32) : BelongsAt iss n W (una.add d) b ↔ ∃ pos, 1 + pos = n + d ∧ W[pos]? = some b := by
  subst huna
  constructor
  · rintro ⟨pos, hx, hle, hlt, hget⟩
    rw [SeqNum.add_add] at hx
    have := SeqNum.add_inj_near iss hx (by omega) (by omega)
    exact ⟨pos, this.symm, hget⟩
  · rintro ⟨pos, hpos, hget⟩
    exact ⟨pos, by rw [SeqNum.add_add, hpos], by omega, by omega, hget⟩

/-- When the probe of a tick is sound. -/
theorem probeSound_iff {n : Nat} {t : Tcb} (huna : t.sndUna = t.iss.add n) :
    ProbeSound n t (probeFrame t) ↔ ProbeJustified n t := by
  have hlt : t.flightSize < 2 ^ 32 := SeqNum.diff_lt _ _
  have hbelongs := belongsAt_next_iff (W := t.handle.txRing.stream) (b := 0) huna hlt
  have hbelow : ((probeFrame t).params.seq.add (probeFrame t).params.payload.length).le t.sndUna = true ↔
      2 ^ 31 ≤ t.flightSize := by
    rw [← next_below_una_iff]
    change ((t.sndUna.add t.flightSize).add 1).le t.sndUna = true ↔ _
    rw [SeqNum.add_add]
  have hbytes : (∀ i b, (probeFrame t).params.payload[i]? = some b →
      BelongsAt t.iss n t.handle.txRing.stream ((probeFrame t).params.seq.add i) b) ↔
      BelongsAt t.iss n t.handle.txRing.stream (t.sndUna.add t.flightSize) 0 := by
    constructor
    · intro h
      have := h 0 0 rfl
      rwa [SeqNum.add_zero] at this
    · intro h i b hb
      change ([0] : List UInt8)[i]? = some b at hb
      obtain ⟨hi, hb⟩ := List.getElem?_eq_some_iff.1 hb
      obtain rfl : i = 0 := Nat.lt_one_iff.1 hi
      rw [SeqNum.add_zero, ← hb]
      exact h
  constructor
  · rintro ⟨hstream, hclosed⟩
    exact ⟨hstream.imp (hbelongs.1 ∘ hbytes.1) hbelow.1, hclosed⟩
  · rintro ⟨hzero, hclosed⟩
    exact ⟨hzero.imp (hbytes.2 ∘ hbelongs.2) hbelow.2, hclosed⟩

/-- **Zero-window probes.** In every reachable state, the probes of a tick carry the application's bytes while the peer's
window leaves no room, exactly if the persist timer fires only when the next byte is a zero and that window is used up. -/
theorem probes_sound_iff (cfg : EngineConfig) (o : Opening) (es : List ConnEvent) (t : Tcb) (now clock : Instant)
    (hrun : (connRun cfg o es).1 = .live t) :
    (∀ f ∈ (callTcb cfg (.tick now clock) t).out, f.site = .probe → ProbeSound (acknowledged cfg o es) t f) ↔
      (probeFires now t = true → ProbeJustified (acknowledged cfg o es) t) := by
  have hsound := probeSound_iff (una_acknowledged hrun)
  constructor
  · intro h hfires
    refine hsound.1 (h _ ?_ rfl)
    change probeFrame t ∈ (onTickTcb cfg now clock t).out
    rw [out_of_probeFires cfg clock hfires]
    exact List.mem_singleton_self _
  · intro h f hf hsite
    obtain ⟨hfires, rfl⟩ := probeFires_of_mem hf hsite
    exact hsound.2 (h hfires)

/-! ## Samples -/

def sampleClosedWindow (data : List UInt8) : List ConnEvent :=
  [.segment 1 (sampleSynAck 7000), .segment 2 (fromPeer 7001 101 .ack 0 []), .write data, .tick 3 3]

/-- The peer takes one byte a segment and has room for twelve, but `cwnd` is ten. -/
def sampleCongested : List ConnEvent :=
  [.segment 1 { sampleSynAck 7000 with options := { mss := some 1 } }, .setOption (.nodelay true),
    .write (List.replicate 12 0), .tick 2 2, .tick (fromSecs 2) (fromSecs 2)]

theorem probes_sound_sample : ∃ t, (connRun {} sampleOpen (sampleClosedWindow [0])).1 = .live t ∧
    (callTcb {} (.tick (fromSecs 2) (fromSecs 2)) t).out = [probeFrame t] ∧
    ∀ f ∈ (callTcb {} (.tick (fromSecs 2) (fromSecs 2)) t).out, f.site = .probe → ProbeSound 1 t f := by
  refine ⟨_, rfl, by decide +kernel, ?_⟩
  refine (probes_sound_iff {} sampleOpen (sampleClosedWindow [0]) _ (fromSecs 2) (fromSecs 2) rfl).2 fun _ => ?_
  exact ⟨Or.inl ⟨0, by decide +kernel, by decide +kernel⟩, by decide +kernel⟩

theorem not_probeSound_of_byte {n : Nat} {t : Tcb} {f : Emitted} {b : UInt8} (hW : t.handle.txRing.stream = [b])
    (hb : b ≠ 0) (hpay : f.params.payload = [0])
    (hbelow : (f.params.seq.add f.params.payload.length).le t.sndUna = false) : ¬ProbeSound n t f := by
  rintro ⟨hstream | hstream, -⟩
  · obtain ⟨pos, -, -, -, hget⟩ := hstream 0 0 (by rw [hpay]; rfl)
    rw [hW] at hget
    exact hb (List.mem_singleton.1 (List.mem_of_getElem? hget)).symm
  · rw [hbelow] at hstream
    cases hstream

/-- Two unsound probes: a zero in place of a 7; and one between two retransmissions, `cwnd` being used up while the
peer has room. -/
theorem probe_invents_byte :
    (∃ t f, (connRun {} sampleOpen (sampleClosedWindow [7])).1 = .live t ∧
      (callTcb {} (.tick (fromSecs 2) (fromSecs 2)) t).out = [f] ∧ f.site = .probe ∧ t.handle.txRing.stream = [7] ∧
        f.params.seq = t.iss.add 1 ∧ f.params.payload = [0] ∧ ¬ProbeSound 1 t f) ∧
      ∃ t f, (connRun {} sampleOpen sampleCongested).1 = .live t ∧
        (callTcb {} (.tick (fromSecs 3) (fromSecs 3)) t).out = [f] ∧ f.site = .probe ∧ t.flightSize = 10 ∧
          t.sndWnd = 65535 ∧ ¬ProbeSound 1 t f := by
  refine ⟨⟨_, _, rfl, rfl, by decide +kernel, by decide +kernel, by decide +kernel, by decide +kernel, fun h => ?_⟩,
    _, _, rfl, rfl, by decide +kernel, by decide +kernel, by decide +kernel, fun h => ?_⟩
  · exact not_probeSound_of_byte (b := 7) (by decide +kernel) (by decide) (by decide +kernel) (by decide +kernel) h
  · exact absurd h.closed (by decide +kernel)

end DpdkStdlib.Tcp

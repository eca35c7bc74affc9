import DpdkStdlib.Lib.Tiling
import DpdkStdlib.Tcp.Sender

/-!
# Data in flight

What the sequence numbers of the send side say about what was sent.  All positions count bytes of the stream from
`iss + 1`: `u` of them are acknowledged, the fresh segments tile the stream from zero, and the entries of the retransmit
queue tile its unacknowledged end.  Serial comparisons are exact as long as less than `2^31` bytes are in flight.
-/

namespace DpdkStdlib.Tcp
open DpdkStdlib.Lib

variable {disarm : Bool} {s : Sender} {a iss : SeqNum} {m : Move} {W : Nat} {s' : TcpState} {tr : List Sent}

def fresh (tr : List Sent) : List Sent := tr.filter (·.fresh)

def freshBytes (tr : List Sent) : List UInt8 := ((fresh tr).map (·.payload)).flatten

@[simp] theorem fresh_append (tr tr' : List Sent) : fresh (tr ++ tr') = fresh tr ++ fresh tr' := List.filter_append ..

@[simp] theorem freshBytes_append (tr tr' : List Sent) : freshBytes (tr ++ tr') = freshBytes tr ++ freshBytes tr' := by
  simp [freshBytes]

/-- How many sequence numbers our FIN takes: one, once it is sent. -/
def TcpState.ownFin : TcpState → Nat
  | .finWait1 | .finWait2 | .closing | .lastAck | .timeWait => 1
  | .closed | .listen | .synSent | .synReceived | .established | .closeWait => 0

theorem TcpState.Shifts.ownFin_eq {s : TcpState} (h : s.Shifts s' disarm) : s'.ownFin = s.ownFin := by
  cases h <;> rfl

theorem TcpState.Shifts.transmits {s : TcpState} (h : s.Shifts s' disarm) :
    (s' = .established → s = .established) ∧
      (s' = .established ∨ s' = .closeWait → s = .established ∨ s = .closeWait) := by
  cases h with
  | stay => exact ⟨id, id⟩
  | _ => decide

theorem TcpState.ownFin_le (s : TcpState) : s.ownFin ≤ 1 := by
  cases s <;> decide

/-- The sequence number of a byte of the stream. -/
def Sender.seqAt (s : Sender) (pos : Nat) : SeqNum := s.iss.add (1 + pos)

/-- Before the handshake is complete: nothing was sent, and nothing was taken from the application. -/
structure Embryo (s : Sender) (tr : List Sent) : Prop where
  una : s.una = s.iss
  nxt : s.nxt = s.iss.add 1
  queue : s.queue = []
  buf : s.buf = []
  tail : s.ring.tail = 0
  sent : tr = []

theorem Embryo.freshBytes_eq (h : Embryo s tr) : freshBytes tr = [] := by
  rw [h.sent]
  rfl

/-- An entry of the queue at its place in the stream, with `u` bytes acknowledged. -/
structure Queued (iss : SeqNum) (u pos : Nat) (e : RetransmitEntry) : Prop where
  seq : e.seq = iss.add (1 + pos)
  ahead : u < pos + e.len
  short : e.len < 2 ^ 31

theorem Queued.le_of_ack {u pos : Nat} {e : RetransmitEntry} (h : Queued iss u pos e)
    (hnear : pos + e.len < u + 2 ^ 31) (hle : (iss.add (1 + u)).le e.seq = true) : u ≤ pos := by
  have hahead := h.ahead
  have hshort := h.short
  rw [h.seq, SeqNum.le_iff] at hle
  rcases hle with heq | hlt
  · have := SeqNum.add_inj_near _ heq (by omega) (by omega)
    omega
  · have := (SeqNum.lt_add_add _ (by omega) (by omega)).1 hlt
    omega

theorem Queued.not_end_le_ack {u pos : Nat} {e : RetransmitEntry} (h : Queued iss u pos e)
    (hnear : pos + e.len < u + 2 ^ 31) : ¬(e.seq.add e.len).le (iss.add (1 + u)) = true := by
  have hahead := h.ahead
  rw [h.seq, SeqNum.add_add, SeqNum.le_iff]
  rintro (heq | hlt)
  · have := SeqNum.add_inj_near _ heq (by omega) (by omega)
    omega
  · have := (SeqNum.lt_add_add _ (by omega) (by omega)).1 hlt
    omega

/-- After it: `u` bytes are acknowledged. -/
structure Flight (s : Sender) (tr : List Sent) (u : Nat) : Prop where
  una : s.una = s.seqAt u
  nxt : s.nxt = s.seqAt ((freshBytes tr).length + s.state.ownFin)
  acked : u ≤ (freshBytes tr).length + s.state.ownFin
  near : (freshBytes tr).length < u + 2 ^ 31
  sent : Tiles (·.payload.length) (fun pos x => x.seq = s.seqAt pos) 0 (fresh tr) (freshBytes tr).length
  short : ∀ x ∈ fresh tr, x.payload.length < 2 ^ 31
  queue : ∃ a ≤ u, Tiles (·.len) (Queued s.iss u) a s.queue (freshBytes tr).length
  empty : s.queue = [] → (freshBytes tr).length ≤ u

theorem iss_ackedBy (s : Sender) (ack : Option SeqNum) : (s.ackedBy ack).iss = s.iss := by
  cases ack with
  | none => rfl
  | some a =>
    unfold Sender.ackedBy Sender.acked
    dsimp only
    split_ifs <;> rfl

def Sender.progress (s : Sender) : Move → Nat
  | .segment _ (some a) _ _ => a.diff s.una
  | _ => 0

section flight
variable {W : Nat} {s : Sender} {tr : List Sent} {u : Nat}

theorem Flight.flightSize (h : Flight s tr u) : s.nxt.diff s.una = (freshBytes tr).length + s.state.ownFin - u := by
  have hfin := s.state.ownFin_le
  have hnear := h.near
  have hacked := h.acked
  rw [h.nxt, h.una, Sender.seqAt, Sender.seqAt, SeqNum.diff_add_add _ (by omega) (by omega)]
  omega

theorem Flight.accept (h : Flight s tr u) (hgt : a.gt s.una = true) (hle : a.le s.nxt = true) :
    a = s.seqAt (u + a.diff s.una) ∧ 0 < a.diff s.una ∧ a.diff s.una < 2 ^ 31 ∧
      u + a.diff s.una ≤ (freshBytes tr).length + s.state.ownFin := by
  obtain ⟨hpos, hdiff, -⟩ := SeqNum.accept_diff hgt hle
  have hlt := ((SeqNum.lt_iff _ _).1 hgt).2
  rw [h.flightSize] at hdiff
  have hacked := h.acked
  refine ⟨?_, hpos, hlt, by omega⟩
  have hadd := SeqNum.add_diff a s.una
  rw [h.una, Sender.seqAt, SeqNum.add_add] at hadd
  rw [Sender.seqAt, h.una, Sender.seqAt, ← Nat.add_assoc, hadd]

theorem Flight.retain (h : Flight s tr u) (hgt : a.gt s.una = true) (hle : a.le s.nxt = true) {c : Nat}
    {R : Nat → RetransmitEntry → Prop} (hR : Tiles (·.len) R c s.queue (freshBytes tr).length) :
    (∃ d ≤ u + a.diff s.una,
      Tiles (·.len) (fun pos e => Queued s.iss (u + a.diff s.una) pos e ∧ R pos e) d (retainUnacked a s.queue)
        (freshBytes tr).length) ∧
      (retainUnacked a s.queue = [] → (freshBytes tr).length ≤ u + a.diff s.una) := by
  obtain ⟨ha, hpos, hlt, hend⟩ := h.accept hgt hle
  obtain ⟨c', hc', htiles⟩ := h.queue
  obtain ⟨-, hboth⟩ := htiles.and hR
  have hnear := h.near
  -- the comparison is between positions less than `2^31` apart
  have hkeep (pos : Nat) (e : RetransmitEntry) (hstop : pos + e.len ≤ (freshBytes tr).length)
      (he : Queued s.iss u pos e) : (e.seq.add e.len).gt a = true ↔ u + a.diff s.una < pos + e.len := by
    have hahead := he.ahead
    rw [he.seq]
    nth_rewrite 1 [ha]
    rw [Sender.seqAt, SeqNum.add_add, SeqNum.gt_add_add _ (by omega) (by omega)]
    omega
  obtain ⟨d, -, hfilter, hd, hnil⟩ :=
    hboth.filter (u := u + a.diff s.una) (fun e => (e.seq.add e.len).gt a) (by omega)
      fun pos e _ hstop he => hkeep pos e hstop he.1
  refine ⟨⟨d, hd, hfilter.mono fun pos e hmem _ hstop he => ⟨⟨he.1.seq, ?_, he.1.short⟩, he.2⟩⟩, hnil⟩
  exact (hkeep pos e hstop he.1).1 (List.mem_filter.1 hmem).2

theorem Flight.ack (h : Flight s tr u) (hgt : a.gt s.una = true) (hle : a.le s.nxt = true) :
    Flight (s.acked a) tr (u + a.diff s.una) := by
  obtain ⟨ha, hpos, hlt, hend⟩ := h.accept hgt hle
  obtain ⟨c, -, hqueue⟩ := h.queue
  obtain ⟨⟨d, hd, hretained⟩, hnil⟩ := h.retain hgt hle hqueue
  have htiles := hretained.mono fun _ _ _ _ _ he => he.1
  have hnear := h.near
  unfold Sender.acked
  split_ifs
  · refine ⟨ha, h.nxt, hend, by omega, h.sent, h.short, ⟨d, hd, ?_⟩, fun hq => hnil (List.map_eq_nil_iff.1 hq)⟩
    exact Tiles.map (RetransmitEntry.rebased _) (fun _ => rfl)
      (htiles.mono fun _ _ _ _ _ he => ⟨he.seq, he.ahead, he.short⟩)
  · exact ⟨ha, h.nxt, hend, by omega, h.sent, h.short, ⟨d, hd, htiles⟩, hnil⟩

theorem Flight.shift (h : Flight s tr u) {next : TcpState} (hfin : next.ownFin = s.state.ownFin)
    (deadline : Option Instant) : Flight { s with state := next, deadline } tr u :=
  ⟨h.una, h.nxt.trans (by rw [← hfin]; rfl), h.acked.trans (by rw [← hfin]), h.near, h.sent, h.short, h.queue, h.empty⟩

/-- A segment of the peer keeps the flight in order. -/
theorem Flight.segment (h : Flight s tr u) {clock : Instant} {ack : Option SeqNum} {next : TcpState}
    (hm : Enabled W s (.segment clock ack next disarm)) :
    Flight (senderStep s (.segment clock ack next disarm)).1 tr (u + s.progress (.segment clock ack next disarm)) := by
  obtain ⟨hshift, hack⟩ := hm
  cases ack with
  | none => exact h.shift hshift.ownFin_eq _
  | some a =>
    obtain ⟨-, hgt, hle⟩ := hack a rfl
    refine (h.ack hgt hle).shift (hshift.ownFin_eq.trans ?_) _
    rw [show (s.acked a).state = s.state from state_ackedBy s (some a)]

theorem ownFin_of_transmits {st : TcpState} (h : st = .established ∨ st = .closeWait) : st.ownFin = 0 := by
  rcases h with rfl | rfl <;> rfl

theorem length_payload {n : Nat} (h : n ≤ s.unsent) : ((s.buf.drop s.sentOffset).take n).length = n := by
  unfold Sender.unsent at h
  simp only [List.length_take, List.length_drop]
  omega

theorem freshBytes_send (s : Sender) (tr : List Sent) (now : Instant) (n : Nat) :
    freshBytes (tr ++ (senderStep s (.send now n)).2) = freshBytes tr ++ (s.buf.drop s.sentOffset).take n := by
  rw [freshBytes_append]
  simp [senderStep, freshBytes, fresh]

/-- So does a new segment. -/
theorem Flight.send (h : Flight s tr u) {now : Instant} {n : Nat} (hm : Enabled W s (.send now n)) (hW : W < 2 ^ 31) :
    Flight (senderStep s (.send now n)).1 (tr ++ (senderStep s (.send now n)).2) u := by
  obtain ⟨hst, hn, hunsent, hwin⟩ := hm
  have hfin := ownFin_of_transmits hst
  rw [h.flightSize, hfin] at hwin
  have hacked := h.acked
  have hnxt := h.nxt
  rw [hfin] at hacked hnxt
  have hlen := length_payload hunsent
  have hlenL : (freshBytes (tr ++ (senderStep s (.send now n)).2)).length = (freshBytes tr).length + n := by
    rw [freshBytes_send, List.length_append, hlen]
  obtain ⟨c, hc, htiles⟩ := h.queue
  refine ⟨h.una, ?_, ?_, ?_, ?_, fun x hx => ?_, ⟨c, hc, ?_⟩, fun hq => ?_⟩
  · rw [hlenL]
    change s.nxt.add n = s.iss.add (1 + ((freshBytes tr).length + n + s.state.ownFin))
    rw [hnxt, hfin, Sender.seqAt, SeqNum.add_add]
    congr 1
    omega
  · rw [hlenL]
    change u ≤ _ + s.state.ownFin
    omega
  · rw [hlenL]
    omega
  · rw [hlenL, fresh_append]
    exact tiles_append.2 ⟨_, h.sent, tiles_singleton.2 ⟨by rw [hlen]; exact hn, hnxt, by rw [hlen]⟩⟩
  · rw [fresh_append] at hx
    rcases List.mem_append.1 hx with hx | hx
    · exact h.short x hx
    · rw [List.mem_singleton.1 hx, hlen]
      omega
  · rw [hlenL]
    exact tiles_append.2 ⟨_, htiles, tiles_singleton.2 ⟨hn, ⟨hnxt, by dsimp only; omega, by dsimp only; omega⟩, rfl⟩⟩
  · exact absurd hq (List.append_ne_nil_of_right_ne_nil _ (List.cons_ne_nil _ _))

/-- So does our FIN. -/
theorem Flight.fin (h : Flight s tr u) {clock : Instant} (hm : Enabled W s (.fin clock)) :
    Flight (senderStep s (.fin clock)).1 tr u := by
  have hfin := ownFin_of_transmits hm.1
  have hnxt := h.nxt
  have hacked := h.acked
  rw [hfin] at hnxt hacked
  have hnext : (senderStep s (.fin clock)).1.state.ownFin = 1 := by
    simp only [senderStep]
    split_ifs <;> rfl
  refine ⟨h.una, ?_, ?_, h.near, h.sent, h.short, h.queue, h.empty⟩
  · change s.nxt.add 1 = s.iss.add (1 + ((freshBytes tr).length + _))
    rw [hnext, hnxt, Sender.seqAt, SeqNum.add_add]
    rfl
  · rw [hnext]
    omega

theorem fresh_expire (s : Sender) (tr : List Sent) (now : Instant) :
    fresh (tr ++ (senderStep s (.expire now)).2) = fresh tr := by
  have hnil : fresh (s.retransmission now) = [] := by
    unfold Sender.retransmission
    split
    · split_ifs <;> rfl
    · rfl
  rw [fresh_append]
  exact (congrArg _ hnil).trans (List.append_nil _)

theorem freshBytes_expire (s : Sender) (tr : List Sent) (now : Instant) :
    freshBytes (tr ++ (senderStep s (.expire now)).2) = freshBytes tr := by
  rw [freshBytes, fresh_expire, freshBytes]

/-- **Moves keep the flight invariant.** -/
theorem Flight.step (h : Flight s tr u) (hearly : s.state.early = false) (hm : Enabled W s m) (hW : W < 2 ^ 31) :
    Flight (senderStep s m).1 (tr ++ (senderStep s m).2) (u + s.progress m) := by
  cases m with
  | write data =>
    rw [show (senderStep s (.write data)).2 = [] from rfl, List.append_nil]
    exact ⟨h.una, h.nxt, h.acked, h.near, h.sent, h.short, h.queue, h.empty⟩
  | opened rto => exact absurd (hearly.symm.trans hm) Bool.false_ne_true
  | segment clock ack next disarm =>
    rw [show (senderStep s (.segment clock ack next disarm)).2 = [] from rfl, List.append_nil]
    exact h.segment hm
  | fill =>
    rw [show (senderStep s .fill).2 = [] from rfl, List.append_nil]
    exact ⟨h.una, h.nxt, h.acked, h.near, h.sent, h.short, h.queue, h.empty⟩
  | send now n => exact h.send hm hW
  | expire now =>
    have hbytes := freshBytes_expire s tr now
    have hsent := h.sent
    rw [← fresh_expire s tr now, ← hbytes] at hsent
    exact ⟨h.una, by rw [hbytes]; exact h.nxt, by rw [hbytes]; exact h.acked, by rw [hbytes]; exact h.near, hsent,
      by rw [fresh_expire]; exact h.short, by rw [hbytes]; exact h.queue, by rw [hbytes]; exact h.empty⟩
  | fin clock =>
    rw [show (senderStep s (.fin clock)).2 = [] from rfl, List.append_nil]
    exact h.fin hm

theorem Embryo.opened (h : Embryo s tr) (rto : Duration) : Flight (senderStep s (.opened rto)).1 tr 0 := by
  have hbytes := h.freshBytes_eq
  have hqueue : (senderStep s (.opened rto)).1.queue = [] := h.queue
  refine ⟨rfl, ?_, Nat.zero_le _, ?_, ?_, fun x hx => ?_, ⟨0, Nat.le_refl 0, ?_⟩, fun _ => ?_⟩
  · rw [hbytes]
    exact h.nxt
  · rw [hbytes]
    decide
  · rw [hbytes, h.sent]
    rfl
  · rw [h.sent] at hx
    cases hx
  · rw [hbytes, hqueue]
    rfl
  · rw [hbytes]
    exact Nat.le_refl 0

theorem TcpState.Shifts.eq_of_early {s : TcpState} (h : s.Shifts s' disarm) (he : s.early = true) : s' = s := by
  cases h with
  | stay => rfl
  | _ => cases he

theorem TcpState.not_early (st : TcpState) (he : st.early = true) :
    ¬(st = .established ∨ st = .closeWait) ∧ st.takesAcks = false := by
  cases st with
  | synSent | synReceived => decide
  | _ => cases he

theorem Embryo.step (h : Embryo s tr) (hearly : s.state.early = true) (hm : Enabled W s m)
    (hne : ∀ rto, m ≠ .opened rto) :
    (senderStep s m).1.state.early = true ∧ Embryo (senderStep s m).1 (tr ++ (senderStep s m).2) := by
  obtain ⟨hquiet, hacks⟩ := s.state.not_early hearly
  cases m with
  | write data =>
    rw [show (senderStep s (.write data)).2 = [] from rfl, List.append_nil]
    exact ⟨hearly, h.una, h.nxt, h.queue, h.buf, h.tail, h.sent⟩
  | opened rto => exact absurd rfl (hne rto)
  | segment clock ack next disarm =>
    cases ack with
    | none =>
      rw [show (senderStep s (.segment clock none next disarm)).2 = [] from rfl, List.append_nil]
      refine ⟨?_, h.una, h.nxt, h.queue, h.buf, h.tail, h.sent⟩
      change next.early = true
      rw [hm.1.eq_of_early hearly, hearly]
    | some a => exact absurd (hacks.symm.trans (hm.2 a rfl).1) Bool.false_ne_true
  | fill => exact absurd hm hquiet
  | send => exact absurd hm.1 hquiet
  | fin => exact absurd hm.1 hquiet
  | expire => exact absurd h.queue hm.2

end flight

/-! ## Invariants on top of the flight -/

/-- The send side before and after the handshake, with what is known besides. -/
def InFlight (iss : SeqNum) (J : Sender → List Sent → Nat → Prop) (s : Sender) (tr : List Sent) : Prop :=
  s.iss = iss ∧
    ((s.state.early = true ∧ Embryo s tr) ∨ (s.state.early = false ∧ ∃ u, Flight s tr u ∧ J s tr u))

theorem iss_senderStep (s : Sender) (m : Move) : (senderStep s m).1.iss = s.iss := by
  cases m with
  | segment clock ack next disarm => exact iss_ackedBy s ack
  | _ => rfl

theorem embryo_opening (cfg : EngineConfig) (o : Opening) :
    (o.tcb cfg).sender.state.early = true ∧ Embryo (o.tcb cfg).sender [] := by
  cases o <;> exact ⟨rfl, rfl, rfl, rfl, rfl, rfl, rfl⟩

theorem early_senderStep (hm : Enabled W s m) (h : s.state.early = false) : (senderStep s m).1.state.early = false :=
  Bool.not_eq_true _ ▸ fun he => absurd (h.symm.trans ((state_senderStep hm).1 he)) Bool.false_ne_true

theorem InFlight.step (hWlt : W < 2 ^ 31) {J : Sender → List Sent → Nat → Prop} (h : InFlight iss J s tr)
    (hm : Enabled W s m) (hopen : ∀ rto, Embryo s tr → J (senderStep s (.opened rto)).1 tr 0)
    (hstep : ∀ u, s.state.early = false → Flight s tr u → J s tr u →
      J (senderStep s m).1 (tr ++ (senderStep s m).2) (u + s.progress m)) :
    InFlight iss J (senderStep s m).1 (tr ++ (senderStep s m).2) := by
  refine ⟨(iss_senderStep s m).trans h.1, ?_⟩
  rcases h.2 with ⟨hearly, hemb⟩ | ⟨hearly, u, hflight, hJ⟩
  · by_cases hopened : ∃ rto, m = .opened rto
    · obtain ⟨rto, rfl⟩ := hopened
      rw [show (senderStep s (.opened rto)).2 = [] from rfl, List.append_nil]
      exact Or.inr ⟨rfl, 0, hemb.opened rto, hopen rto hemb⟩
    · exact Or.inl (hemb.step hearly hm fun rto hrto => hopened ⟨rto, hrto⟩)
  · exact Or.inr ⟨early_senderStep hm hearly, _, hflight.step hearly hm hWlt, hstep u hearly hflight hJ⟩

theorem InFlight.acts (hWlt : W < 2 ^ 31) {A : Sender → Move → Prop} {J : Sender → List Sent → Nat → Prop}
    (hopen : ∀ s tr rto, Embryo s tr → J (senderStep s (.opened rto)).1 tr 0)
    (hstep : ∀ s tr u m, s.state.early = false → Legal W A s m → Flight s tr u → J s tr u →
      J (senderStep s m).1 (tr ++ (senderStep s m).2) (u + s.progress m)) {s' : Sender} {time : Instant}
    {out : List Emitted} (h : InFlight iss J s tr) (hacts : Acts W A time s out s') :
    InFlight iss J s' (tr ++ sentOf time out) := by
  obtain ⟨ms, hms, hrun⟩ := hacts
  have hinv := run_invariant (fun s tr m hm hI => InFlight.step hWlt hI hm.1.1 (hopen s tr) fun u hearly =>
    hstep s tr u m hearly hm.1) ms s tr hms h
  rwa [hrun] at hinv

/-- **The rule for properties of the flight.** A relation that holds once the handshake completes and that every legal
move keeps on top of `Flight` holds after every run that stays within the window bound. -/
theorem flight_invariant (hWlt : W < 2 ^ 31) {A : Sender → Move → Prop} {J : Sender → List Sent → Nat → Prop}
    (hopen : ∀ s tr rto, Embryo s tr → J (senderStep s (.opened rto)).1 tr 0)
    (hstep : ∀ s tr u m, s.state.early = false → Legal W A s m → Flight s tr u → J s tr u →
      J (senderStep s m).1 (tr ++ (senderStep s m).2) (u + s.progress m)) {good : Outcome → ConnEvent → Prop}
    {cfg : EngineConfig}
    (hW : ∀ t now clock, good (.live t) (.tick now clock) → t.congestion.effectiveWindow t.sndWnd ≤ W)
    (hA : ∀ t clock seg, good (.live t) (.segment clock seg) → seg.flags.contains .rst = false →
      ∀ m, Arises clock seg t m → A t.sender m) {o : Opening} {es : List ConnEvent} (hgood : ConnAlong good cfg o es) :
    (connRun cfg o es).1.Sends fun s => InFlight (o.tcb cfg).iss J s (transmissions cfg o es) :=
  sender_invariant (fun s tr m hm hI => hI.step hWlt hm.1 (hopen s tr) fun u hearly => hstep s tr u m hearly hm) hW hA
    hgood ⟨rfl, Or.inl (embryo_opening cfg o)⟩

end DpdkStdlib.Tcp

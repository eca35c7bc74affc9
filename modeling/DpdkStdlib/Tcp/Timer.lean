import DpdkStdlib.Tcp.Retransmit

/-!
# The retransmission timer

`rto_deadline` is armed by what is sent, if it is not armed, and moved by each expiration.  An acknowledgment leaves it
alone, except for the one of our FIN, so it is too early for what stays in flight and stays armed when nothing does.
-/

namespace DpdkStdlib.Tcp
open DpdkStdlib.Lib

variable {t : Tcb} {T now clock : Instant} {W : Nat} {seg : ParsedTcpSegment} {m : Move} {iss : SeqNum}
  {tr : List Sent}

/-- On top of `Flight`: the timer runs while something is in flight, and gives the oldest entry a whole timeout. -/
structure Waited (s : Sender) (tr : List Sent) (u : Nat) : Prop where
  armed : s.deadline = none ↔ u = (freshBytes tr).length + s.state.ownFin
  near : (freshBytes tr).length + 1 < u + 2 ^ 31
  patient : ∀ d ∈ s.deadline, ∀ e ∈ s.queue.head?, ∀ x ∈ tr, x.seq = e.seq → x.time + s.rto ≤ d

/-- An acknowledgment of everything clears the timer; any other finds a whole timeout left on it. -/
def LeavesTimeout (s : Sender) : Move → Prop
  | .segment clock (some a) _ disarm =>
    (disarm = true ↔ a = s.nxt) ∧ (a ≠ s.nxt → ∃ d ∈ s.deadline, clock + s.rto ≤ d)
  | .segment _ none _ disarm => disarm = true → s.nxt.gt s.una = false
  | _ => True

/-! ## Moves -/

section
variable {s : Sender} {tr : List Sent} {u : Nat}

theorem Flight.seqAt_eq_nxt (h : Flight s tr u) {v : Nat} (hu : u ≤ v)
    (hv : v ≤ (freshBytes tr).length + s.state.ownFin) :
    s.seqAt v = s.nxt ↔ v = (freshBytes tr).length + s.state.ownFin := by
  have hnear := h.near
  have hfin := s.state.ownFin_le
  rw [h.nxt]
  refine ⟨fun heq => ?_, fun heq => by rw [heq]⟩
  have := SeqNum.add_inj_near _ heq (by omega) (by omega)
  omega

theorem Flight.lt_of_head (h : Flight s tr u) {e : RetransmitEntry} (he : s.queue.head? = some e) :
    u < (freshBytes tr).length := by
  obtain ⟨a, -, htiles⟩ := h.queue
  obtain ⟨-, hend, hq⟩ := htiles.head? he
  have := hq.ahead
  omega

theorem Flight.head_seq_ne (h : Flight s tr u) (hfin : s.state.ownFin = 0) {e : RetransmitEntry}
    (he : s.queue.head? = some e) : s.nxt ≠ e.seq := by
  obtain ⟨a, ha, htiles⟩ := h.queue
  obtain ⟨-, hend, hq⟩ := htiles.head? he
  have hahead := hq.ahead
  have hshort := hq.short
  have hnear := h.near
  rw [h.nxt, hq.seq, hfin, Sender.seqAt]
  intro heq
  have := SeqNum.add_inj_near _ heq (by omega) (by omega)
  omega

theorem rto_ackedBy (s : Sender) (ack : Option SeqNum) : (s.ackedBy ack).rto = s.rto := by
  cases ack with
  | none => rfl
  | some a =>
    unfold Sender.ackedBy Sender.acked
    dsimp only
    split_ifs <;> rfl

theorem patient_of_le {d : Instant} {rto : Duration} (htime : ∀ x ∈ tr, x.time ≤ T) (hd : T + rto ≤ d) :
    ∀ x ∈ tr, x.time + rto ≤ d :=
  fun x hx => (Nat.add_le_add_right (htime x hx) rto).trans hd

/-- A segment of the peer keeps the timer patient. -/
theorem Waited.segment (hflight : Flight s tr u) (h : Waited s tr u) {ack : Option SeqNum} {next : TcpState}
    {disarm : Bool} (hm : Enabled W s (.segment clock ack next disarm))
    (hA : LeavesTimeout s (.segment clock ack next disarm)) (hat : clock = T) (htime : ∀ x ∈ tr, x.time ≤ T) :
    Waited (senderStep s (.segment clock ack next disarm)).1 tr (u + s.progress (.segment clock ack next disarm)) := by
  obtain ⟨hshift, hack⟩ := hm
  have hfin := hshift.ownFin_eq
  have hnear := h.near
  cases ack with
  | none =>
    cases disarm with
    | true =>
      -- nothing lies ahead of `snd_una`, or it would be ahead of it in serial order
      have hdone : ¬s.nxt.gt s.una = true := by rw [hA rfl]; exact Bool.false_ne_true
      have hle := s.state.ownFin_le
      have hacked := hflight.acked
      rw [hflight.nxt, hflight.una, Sender.seqAt, Sender.seqAt, SeqNum.gt_add_add _ (by omega) (by omega)] at hdone
      refine ⟨⟨fun _ => ?_, fun _ => rfl⟩, hnear, fun d hd => ?_⟩
      · change u = _ + next.ownFin
        omega
      · cases hd
    | false =>
      refine ⟨h.armed.trans ?_, hnear, h.patient⟩
      change u = _ + s.state.ownFin ↔ u = _ + next.ownFin
      rw [hfin]
  | some a =>
    obtain ⟨-, hgt, hle⟩ := hack a rfl
    obtain ⟨ha, hpos, -, hend⟩ := hflight.accept hgt hle
    have hall := hflight.seqAt_eq_nxt (Nat.le_add_right u _) hend
    rw [← ha] at hall
    obtain ⟨hdisarm, hleft⟩ := hA
    have hdeadline : (senderStep s (.segment clock (some a) next disarm)).1.deadline =
      if disarm then none else s.deadline := rfl
    refine ⟨?_, by dsimp only [Sender.progress]; omega, fun d hd e _ x hx _ => ?_⟩
    · rw [hdeadline]
      change _ ↔ u + a.diff s.una = _ + next.ownFin
      rw [hfin, ← hall, ← hdisarm]
      cases disarm with
      | true => exact ⟨fun _ => rfl, fun _ => rfl⟩
      | false =>
        obtain ⟨d, hd, -⟩ := hleft fun heq => Bool.false_ne_true (hdisarm.2 heq)
        rw [if_neg Bool.false_ne_true, Option.mem_def.1 hd]
        constructor <;> intro h <;> cases h
    · rw [hdeadline] at hd
      cases disarm with
      | true => cases hd
      | false =>
        obtain ⟨d', hd', hwait⟩ := hleft fun heq => Bool.false_ne_true (hdisarm.2 heq)
        obtain rfl : d' = d := Option.some.inj (hd'.symm.trans hd)
        rw [show (senderStep s (.segment clock (some a) next false)).1.rto = s.rto from rto_ackedBy s (some a)]
        exact patient_of_le htime (hat ▸ hwait) x hx

theorem Waited.send (hflight : Flight s tr u) (h : Waited s tr u) {n : Nat}
    (hm : Enabled (2 ^ 31 - 2) s (.send now n)) (hat : now = T) (htime : ∀ x ∈ tr, x.time ≤ T) :
    Waited (senderStep s (.send now n)).1 (tr ++ (senderStep s (.send now n)).2) u := by
  obtain ⟨hst, hn, hunsent, hwin⟩ := hm
  have hfin := ownFin_of_transmits hst
  have hacked := hflight.acked
  rw [hflight.flightSize, hfin] at hwin
  have hlen : (freshBytes (tr ++ (senderStep s (.send now n)).2)).length = (freshBytes tr).length + n := by
    rw [freshBytes_send, List.length_append, length_payload hunsent]
  refine ⟨?_, by rw [hlen]; omega, ?_⟩
  · rw [hlen]
    change s.armed now = none ↔ u = _ + s.state.ownFin
    refine ⟨fun hnone => ?_, fun heq => by omega⟩
    unfold Sender.armed at hnone
    split_ifs at hnone with hd
    rw [hnone] at hd
    cases hd rfl
  · intro d hd e he x hx hseq
    change s.armed now = some d at hd
    change (s.queue ++ _).head? = some e at he
    change x.time + s.rto ≤ d
    have hx' : x ∈ tr ∨ x.time = now ∧ x.seq = s.nxt := by
      rcases List.mem_append.1 hx with hx | hx
      · exact Or.inl hx
      · rw [List.mem_singleton.1 hx]; exact Or.inr ⟨rfl, rfl⟩
    unfold Sender.armed at hd
    split_ifs at hd with hnone
    · obtain rfl := Option.some.inj hd
      rcases hx' with hx | ⟨hx, -⟩
      · exact patient_of_le htime (by rw [hat]) x hx
      · rw [hx]
    · -- the timer runs, so the oldest entry is still the oldest
      cases hhead : s.queue.head? with
      | none =>
        have hempty := hflight.empty (List.head?_eq_none_iff.1 hhead)
        rw [hfin] at hacked
        rw [h.armed.2 (by omega)] at hnone
        exact absurd rfl hnone
      | some e' =>
        rw [List.head?_append, hhead, Option.some_or] at he
        obtain rfl := Option.some.inj he
        rcases hx' with hx | ⟨-, hx⟩
        · exact h.patient d hd e' hhead x hx hseq
        · exact absurd (hx.symm.trans hseq) (hflight.head_seq_ne hfin hhead)

theorem Waited.expire (hflight : Flight s tr u) (h : Waited s tr u) (hm : Enabled W s (.expire now)) (hat : now = T)
    (htime : ∀ x ∈ tr, x.time ≤ T) :
    Waited (senderStep s (.expire now)).1 (tr ++ (senderStep s (.expire now)).2) u := by
  have hbytes := freshBytes_expire s tr now
  obtain ⟨e, he⟩ := Option.isSome_iff_exists.1 (List.isSome_head?.2 hm.2)
  have hlt := hflight.lt_of_head he
  refine ⟨?_, by rw [hbytes]; exact h.near, fun d hd _ _ x hx _ => ?_⟩
  · rw [hbytes]
    change some _ = none ↔ u = _ + s.state.ownFin
    exact ⟨nofun, fun heq => by omega⟩
  · obtain rfl := Option.some.inj hd
    refine Nat.add_le_add_right ?_ _
    rcases List.mem_append.1 hx with hx | hx
    · exact hat ▸ htime x hx
    · exact Nat.le_of_eq (time_senderStep (m := .expire now) rfl x hx)

theorem Waited.fin (hflight : Flight s tr u) (h : Waited s tr u) (hm : Enabled W s (.fin clock)) :
    Waited (senderStep s (.fin clock)).1 tr u := by
  have hfin := ownFin_of_transmits hm.1
  have hacked := hflight.acked
  have hnext : (senderStep s (.fin clock)).1.state.ownFin = 1 := by
    simp only [senderStep]
    split_ifs <;> rfl
  refine ⟨?_, h.near, fun d hd e he => ?_⟩
  · rw [hnext]
    change s.armed clock = none ↔ _
    refine ⟨fun hnone => ?_, fun heq => by omega⟩
    unfold Sender.armed at hnone
    split_ifs at hnone with hd
    rw [hnone] at hd
    cases hd rfl
  · change s.armed clock = some d at hd
    change s.queue.head? = some e at he
    have hlt := hflight.lt_of_head he
    unfold Sender.armed at hd
    split_ifs at hd with hnone
    · have := h.armed.1 (Option.isNone_iff_eq_none.1 hnone)
      omega
    · exact h.patient d hd e he

/-- **Moves keep the timer on the oldest entry.** -/
theorem Waited.step (hflight : Flight s tr u) (h : Waited s tr u) (hearly : s.state.early = false)
    (hm : Legal (2 ^ 31 - 2) LeavesTimeout s m) (hat : m.At T) (htime : ∀ x ∈ tr, x.time ≤ T) :
    Waited (senderStep s m).1 (tr ++ (senderStep s m).2) (u + s.progress m) := by
  cases m with
  | write data =>
    rw [show (senderStep s (.write data)).2 = [] from rfl, List.append_nil]
    exact ⟨h.armed, h.near, h.patient⟩
  | opened rto => exact absurd (hearly.symm.trans hm.1) Bool.false_ne_true
  | segment clock ack next disarm =>
    rw [show (senderStep s (.segment clock ack next disarm)).2 = [] from rfl, List.append_nil]
    exact h.segment hflight hm.1 (hm.2 rfl) hat htime
  | fill =>
    rw [show (senderStep s .fill).2 = [] from rfl, List.append_nil]
    exact ⟨h.armed, h.near, h.patient⟩
  | send now n => exact h.send hflight hm.1 hat htime
  | expire now => exact h.expire hflight hm.1 hat htime
  | fin clock =>
    rw [show (senderStep s (.fin clock)).2 = [] from rfl, List.append_nil]
    exact h.fin hflight hm.1

theorem waited_opened (h : Embryo s tr) (rto : Duration) : Waited (senderStep s (.opened rto)).1 tr 0 := by
  have hbytes := h.freshBytes_eq
  refine ⟨⟨fun _ => by rw [hbytes]; rfl, fun _ => rfl⟩, by rw [hbytes]; decide, nofun⟩

end

/-! ## Runs -/

/-- The retransmission timer after a run, at the acknowledgment that ends it, and at the next tick. -/
structure TimerTracks (cfg : EngineConfig) (o : Opening) (es : List ConnEvent) : Prop where
  /-- The timer is off exactly if nothing is unacknowledged. -/
  armed : ∀ t, (connRun cfg o es).1 = .live t → (t.rtoDeadline = none ↔ t.sndUna = t.sndNxt)
  /-- An acknowledgment that advances `snd_una` and leaves something in flight leaves a whole timeout on the timer. -/
  restarted : ∀ es' clock seg t t', es = es' ++ [.segment clock seg] → (connRun cfg o es').1 = .live t →
    (connRun cfg o es).1 = .live t' → t'.sndUna ≠ t.sndUna → t'.sndUna ≠ t'.sndNxt →
      ∃ d ∈ t'.rtoDeadline, clock + t'.congestion.rto ≤ d
  /-- A retransmission comes a whole timeout after everything that was sent at its sequence number. -/
  patient : ∀ t now clock, (connRun cfg o es).1 = .live t →
    ∀ f ∈ (callTcb cfg (.tick now clock) t).out, f.site = .retransmit →
      ∀ x ∈ transmissions cfg o es, x.seq = f.params.seq → x.time + t.congestion.rto ≤ now

/-- The send window is below half the number space; accepted ACKs find a whole timeout left and leave something in
flight, or are that of our FIN in FIN_WAIT_1, without a FIN of the peer in order.  None of our FIN comes in CLOSING. -/
def TimerSafe : Outcome → ConnEvent → Prop
  | .live t, .tick .. => t.congestion.effectiveWindow t.sndWnd + 1 < 2 ^ 31
  | .live t, .segment clock seg =>
    (accepts seg t = true → t.state.takesAcks = true →
      if seg.ack = t.sndNxt then t.state = .finWait1 ∧ finInOrder seg (takeData seg t) = false
      else ∃ d ∈ t.rtoDeadline, clock + t.congestion.rto ≤ d) ∧
    (seg.flags.contains .rst = false → t.state = .closing → finAcked seg t = false)
  | _, _ => True

theorem finAcked_iff : finAcked seg t = true ↔ seg.flags.contains .ack = true ∧ seg.ack = t.sndNxt := by
  simp [finAcked]

theorem nxt_gt_of_acceptedAck (hacked : finAcked seg t = true) (hnone : acceptedAck seg t = none) :
    t.sndNxt.gt t.sndUna = false := by
  obtain ⟨hflag, hack⟩ := finAcked_iff.1 hacked
  have hself : t.sndNxt.le t.sndNxt = true := (SeqNum.le_iff _ _).2 (Or.inl rfl)
  simpa [acceptedAck, hflag, ackAcceptable, hack, hself] using hnone

theorem leavesTimeout_of_safe (hsafe : TimerSafe (.live t) (.segment clock seg))
    (hrst : seg.flags.contains .rst = false) (hm : Arises clock seg t m) : LeavesTimeout t.sender m := by
  obtain ⟨hacks, hclosing⟩ := hsafe
  -- the moves that do not clear the timer
  have hkeep {next : TcpState} (hst : t.state.takesAcks = true)
      (hne : t.state = .finWait1 → finInOrder seg (takeData seg t) = false → finAcked seg t = false) :
      LeavesTimeout t.sender (.segment clock (acceptedAck seg t) next false) := by
    cases hacc : acceptedAck seg t with
    | none => exact fun h => absurd h Bool.false_ne_true
    | some a =>
      obtain ⟨rfl, hflag, hgt, hle⟩ := acceptedAck_eq_some hacc
      have hsafe := hacks (by simp [accepts, hrst, hflag, ackAcceptable, hgt, hle]) hst
      split_ifs at hsafe with hall
      · rw [finAcked_iff.2 ⟨hflag, hall⟩] at hne
        cases hne hsafe.1 hsafe.2
      · exact ⟨⟨fun h => absurd h Bool.false_ne_true, fun h => absurd h hall⟩, fun _ => hsafe⟩
  cases hm with
  | opened => trivial
  | established _ hst => exact hkeep (by rw [hst]; rfl) (by rw [hst]; intro h; cases h)
  | finWait1Both hst _ hfin =>
    refine hkeep (by rw [hst]; rfl) fun _ hnofin => ?_
    rw [hnofin] at hfin
    cases hfin
  | finWait1Acked hst hacked =>
    cases hacc : acceptedAck seg t with
    | none => exact fun _ => nxt_gt_of_acceptedAck hacked hacc
    | some a =>
      obtain ⟨rfl, -⟩ := acceptedAck_eq_some hacc
      have hall := (finAcked_iff.1 hacked).2
      exact ⟨⟨fun _ => hall, fun _ => rfl⟩, fun hne => absurd hall hne⟩
  | finWait1Fin hst hacked => exact hkeep (by rw [hst]; rfl) fun _ _ => hacked
  | finWait1Open hst hacked => exact hkeep (by rw [hst]; rfl) fun _ _ => hacked
  | closeWait hst => exact hkeep (by rw [hst]; rfl) (by rw [hst]; intro h; cases h)
  | finWait2 => exact fun h => absurd h Bool.false_ne_true
  | closingAcked hst hacked =>
    rw [hclosing hrst hst] at hacked
    cases hacked

theorem armed_early {s : Sender} (hm : Enabled W s m) (h : s.state.early = true → s.deadline ≠ none)
    (hearly : (senderStep s m).1.state.early = true) : (senderStep s m).1.deadline ≠ none := by
  have hs := (state_senderStep hm).1 hearly
  have hquiet := (s.state.not_early hs).1
  cases m with
  | write data => exact h hs
  | opened rto => cases hearly
  | segment clock ack next disarm =>
    have hkeep : disarm = false := by
      obtain ⟨hshift, -⟩ := hm
      generalize s.state = st at hshift hs
      cases hshift with
      | stay => rfl
      | _ => cases hs
    rw [hkeep]
    exact h hs
  | fill => exact absurd hm hquiet
  | send now n => exact absurd hm.1 hquiet
  | expire now => exact nofun
  | fin clock => exact absurd hm.1 hquiet

/-- Entries wait a whole timeout along a safe run. -/
theorem waited_run {cfg : EngineConfig} {o : Opening} {es : List ConnEvent} (h : ConnAlong TimerSafe cfg o es)
    (htime : Timely es) :
    (connRun cfg o es).1.Sends fun s => InFlight (o.tcb cfg).iss Waited s (transmissions cfg o es) ∧
      (s.state.early = true → s.deadline ≠ none) := by
  refine timed_invariant (W := 2 ^ 31 - 2) (A := LeavesTimeout)
    (I := fun s tr => InFlight (o.tcb cfg).iss Waited s tr ∧ (s.state.early = true → s.deadline ≠ none))
    ?_ (fun t _ _ hsafe => ?_) (fun _ _ _ hsafe hrst _ hm => leavesTimeout_of_safe hsafe hrst hm) h htime
    ⟨⟨rfl, Or.inl (embryo_opening cfg o)⟩, fun _ => ?_⟩
  · rintro T s tr m hm hat hbound ⟨hI, harmed⟩
    refine ⟨hI.step (by decide) hm.1 (fun rto hemb => waited_opened hemb rto) fun u hearly hflight hwaited => ?_,
      armed_early hm.1 harmed⟩
    exact hwaited.step hflight hearly hm hat hbound
  · have hsafe : t.congestion.effectiveWindow t.sndWnd + 1 < 2 ^ 31 := hsafe
    omega
  · cases o <;> exact nofun

theorem armed_of_waited (h : InFlight iss Waited t.sender tr) (harmed : t.state.early = true → t.rtoDeadline ≠ none) :
    t.rtoDeadline = none ↔ t.sndUna = t.sndNxt := by
  obtain ⟨-, ⟨hearly, hemb⟩ | ⟨-, u, hflight, hwaited⟩⟩ := h
  · have hne : t.sndUna ≠ t.sndNxt := by
      rw [show t.sndUna = t.iss from hemb.una, show t.sndNxt = t.iss.add 1 from hemb.nxt]
      intro heq
      have hdiff := SeqNum.diff_add_self t.iss (a := 1) (by decide)
      rw [← heq, SeqNum.diff_self] at hdiff
      cases hdiff
    exact ⟨fun hnone => absurd hnone (harmed hearly), fun heq => absurd heq hne⟩
  · have hall := hflight.seqAt_eq_nxt (Nat.le_refl u) hflight.acked
    rw [← hflight.una] at hall
    exact hwaited.armed.trans hall.symm

theorem una_acked (s : Sender) (a : SeqNum) : (s.acked a).una = a := by
  unfold Sender.acked
  split_ifs <;> rfl

theorem nxt_acked (s : Sender) (a : SeqNum) : (s.acked a).nxt = s.nxt := by
  unfold Sender.acked
  split_ifs <;> rfl

theorem restarted_of_waited {t' : Tcb} (h : InFlight iss Waited t.sender tr)
    (hsafe : TimerSafe (.live t) (.segment clock seg)) (hlive : (segmentTcb clock seg t).outcome = .live t')
    (hmoved : t'.sndUna ≠ t.sndUna) (hleft : t'.sndUna ≠ t'.sndNxt) :
    ∃ d ∈ t'.rtoDeadline, clock + t'.congestion.rto ≤ d := by
  rcases sender_segmentTcb hlive with hsame | ⟨hrst, m, hm, hstep⟩
  · exact absurd (congrArg Sender.una hsame) hmoved
  have hA := leavesTimeout_of_safe hsafe hrst hm
  have hs' := congrArg Prod.fst hstep
  have hnxt := congrArg Sender.nxt hs'
  cases m with
  | opened rto =>
    -- the handshake leaves nothing in flight
    obtain ⟨-, ⟨-, hemb⟩ | ⟨hearly, -⟩⟩ := h
    · refine absurd ?_ hleft
      rw [show t'.sndUna = t.iss.add 1 from (congrArg Sender.una hs').symm, show t'.sndNxt = t.sndNxt from hnxt.symm]
      exact hemb.nxt.symm
    · cases hm with
      | opened _ hst => exact absurd (hearly.symm.trans hst) Bool.false_ne_true
  | segment clock' ack next disarm =>
    obtain rfl : clock' = clock := hm.at
    cases ack with
    | none => exact absurd (congrArg Sender.una hs').symm hmoved
    | some a =>
      obtain ⟨hdisarm, hwait⟩ := hA
      have ha : t'.sndUna = a := (congrArg Sender.una hs').symm.trans (una_acked t.sender a)
      have hn : t'.sndNxt = t.sndNxt := hnxt.symm.trans (nxt_acked t.sender a)
      have hne : a ≠ t.sndNxt := by rwa [← ha, ← hn]
      obtain rfl : disarm = false := Bool.not_eq_true _ ▸ fun hd => hne (hdisarm.1 hd)
      obtain ⟨d, hd, hle⟩ := hwait hne
      have hrto : t'.congestion.rto = t.congestion.rto := (congrArg Sender.rto hs').symm.trans (rto_ackedBy _ (some a))
      rw [hrto, show t'.rtoDeadline = t.rtoDeadline from (congrArg Sender.deadline hs').symm]
      exact ⟨d, hd, hle⟩
  | _ => cases hm

theorem patient_of_waited {cfg : EngineConfig} (h : InFlight iss Waited t.sender tr) {f : Emitted}
    (hf : f ∈ (callTcb cfg (.tick now clock) t).out) (hsite : f.site = .retransmit) :
    ∀ x ∈ tr, x.seq = f.params.seq → x.time + t.congestion.rto ≤ now := by
  obtain ⟨hdue, e, hhead, hseq, -⟩ := retransmit_of_tick hf hsite
  obtain ⟨-, ⟨-, hemb⟩ | ⟨-, u, -, hwaited⟩⟩ := h
  · rw [show t.retransmitQueue = [] from hemb.queue] at hhead
    cases hhead
  · intro x hx hxseq
    unfold rtoDue due at hdue
    rw [Bool.and_eq_true, Option.any_eq_true] at hdue
    obtain ⟨⟨d, hd, hdue⟩, -⟩ := hdue
    exact (hwaited.patient d hd e hhead x hx (hxseq.trans hseq)).trans (of_decide_eq_true hdue)

/-- **The retransmission timer** runs while something is in flight and waits a whole timeout, in every run whose
acknowledgments find a whole timeout left and leave something in flight. -/
theorem timer_tracks (cfg : EngineConfig) (o : Opening) (es : List ConnEvent) (h : ConnAlong TimerSafe cfg o es)
    (htime : Timely es) : TimerTracks cfg o es := by
  have hrunAll := waited_run h htime
  refine ⟨fun t hrun => ?_, ?_, fun t now clock hrun f hf hsite => ?_⟩
  · rw [hrun] at hrunAll
    exact armed_of_waited hrunAll.1 hrunAll.2
  · rintro es' clock seg t t' rfl hrun hrun' hmoved hleft
    obtain ⟨hes', hlast, -⟩ := (along_append _ es' [.segment clock seg]).1 h
    have hbefore := waited_run hes' (List.Pairwise.sublist ((List.sublist_append_left es' _).filterMap _) htime)
    rw [hrun] at hbefore
    rw [connRun_concat, hrun] at hrun'
    unfold connRun at hrun
    rw [hrun] at hlast
    exact restarted_of_waited hbefore.1 hlast hrun' hmoved hleft
  · rw [hrun] at hrunAll
    exact patient_of_waited hrunAll.1 hf hsite

instance (s : Outcome) (ev : ConnEvent) : Decidable (TimerSafe s ev) := by
  unfold TimerSafe
  induction s using Outcome.casesOn <;> induction ev using ConnEvent.casesOn <;> infer_instance

/-- Three bytes and then two more are sent at one time; the peer acknowledges up to `ack` at `clock`. -/
def sampleFlight (clock : Instant) (ack : BitVec 32) : List ConnEvent :=
  [.segment 1 (sampleSynAck 7000), .setOption (.nodelay true), .write [1, 2, 3], .tick 2 2, .write [4, 5], .tick 2 2,
    .segment clock (fromPeer 7001 ack .ack 500 [])]

theorem timer_tracks_sample : TimerTracks {} sampleOpen (sampleFlight 2 104) :=
  timer_tracks {} sampleOpen (sampleFlight 2 104) (by decide +kernel) (by decide +kernel)

/-- The acknowledgment of everything in flight leaves the timer running. -/
theorem full_ack_leaves_timer : ¬TimerTracks {} sampleOpen (sampleFlight 3 106) := by
  intro h
  have hnone := (h.armed _ rfl).2 (by decide +kernel)
  revert hnone
  decide +kernel

end DpdkStdlib.Tcp

import DpdkStdlib.Tcp.Emission
import DpdkStdlib.Tcp.Projection

/-!
# Lost SYNs and FINs

The RTO branch of `on_tick` looks for an expired timer with data to retransmit.  A SYN or FIN arms the timer and is in
no queue, so nothing retransmits it.
-/

namespace DpdkStdlib.Tcp
open DpdkStdlib.Lib

variable {t : Tcb} {k key : FourTuple} {e : TcpEngine} {now clock : Instant} {f : Emitted}

/-- The states with a SYN or FIN of ours unacknowledged. -/
def TcpState.awaitsControl : TcpState → Bool
  | .synSent | .synReceived | .finWait1 | .closing | .lastAck => true
  | .closed | .listen | .established | .finWait2 | .closeWait | .timeWait => false

def Tcb.controlFlag (t : Tcb) : TcpFlags := if t.state.early then .syn else .fin

/-- The sequence number of the unacknowledged control segment: of the SYN the first one, of the FIN the last one. -/
def Tcb.controlSeq (t : Tcb) : SeqNum := if t.state.early then t.iss else t.sndNxt.add u32Max

/-- The frame is the unacknowledged control segment of a connection. -/
def Tcb.IsControl (t : Tcb) (key : FourTuple) (f : Emitted) : Prop :=
  f.params.src = key.localAddr ∧ f.params.dst = key.remoteAddr ∧ f.params.seq = t.controlSeq ∧
    f.params.flags.contains t.controlFlag = true

/-- A tick sends the control segment again, or removes the TCB with TimedOut. -/
def Recovers (e : TcpEngine) (key : FourTuple) (t : Tcb) (now clock : Instant) : Prop :=
  ((∃ f ∈ (e.onTick now clock).out, t.IsControl key f) ∧
    ∃ t', (e.onTick now clock).engine.view key = some (.live t') ∧ ∃ d ∈ t'.rtoDeadline, now < d) ∨
  ((∃ h, (e.onTick now clock).engine.view key = some (.removed h) ∧ h.error = some .timedOut) ∧
    (e.onTick now clock).engine.pendingConnects.get? key = none ∧
    ∀ ch, e.pendingConnects.get? key = some ch → .connect ch (.error .timedOut) ∈ (e.onTick now clock).sent)

/-- Data is out of retries, or keepalive is out of probes with nothing else to do. -/
def GivesUp (e : TcpEngine) (key : FourTuple) (t : Tcb) (now : Instant) : Prop :=
  if t.retransmitQueue.isEmpty then
    persistDue now t = false ∧ e.pendingConnects.get? key = none ∧
      ∃ ka ∈ t.keepalive, due now t.keepaliveDeadline = true ∧ (t.keepaliveProbesSent + 1) % 2 ^ 32 > ka.count
  else (t.retransmitCount + 1) % 2 ^ 32 > e.config.maxRetries

/-! ## Pending connects -/

namespace TcpEngine

/-- What an effect makes of the pending connect of its key, and what it answers. -/
def pendingAfter (signal : Signal) (pending : Option Channel) : Option Channel :=
  match signal with
  | .connected _ => none
  | .quiet | .accepted => pending

theorem pending_applyEffect (e : TcpEngine) (key : FourTuple) (eff : Effect) :
    (e.applyEffect key eff).engine.pendingConnects.get? key = pendingAfter eff.signal (e.pendingConnects.get? key) ∧
      ∀ k ≠ key, (e.applyEffect key eff).engine.pendingConnects.get? k = e.pendingConnects.get? k := by
  have hstore : (e.store key eff.outcome).pendingConnects = e.pendingConnects := by
    cases eff.outcome <;> rfl
  unfold applyEffect
  cases eff.signal with
  | quiet => exact ⟨by rw [← hstore]; rfl, fun k _ => by rw [← hstore]⟩
  | connected r =>
    dsimp only [answerConnect, pendingAfter]
    rw [hstore]
    cases hp : e.pendingConnects.get? key with
    | none => exact ⟨by dsimp only; rw [hstore, hp], fun k _ => by dsimp only; rw [hstore]⟩
    | some ch => exact ⟨AssocMap.get?_erase_self _ _, fun k hk => AssocMap.get?_erase_ne _ hk⟩
  | accepted =>
    dsimp only [deliverAccepted, pendingAfter]
    split
    · exact ⟨by rw [hstore], fun k _ => by rw [hstore]⟩
    · split
      · exact ⟨by dsimp only; rw [hstore], fun k _ => by dsimp only; rw [hstore]⟩
      · exact ⟨by dsimp only; rw [hstore], fun k _ => by dsimp only; rw [hstore]⟩

theorem sent_applyEffect {eff : Effect} {ch : Channel} {r : Except TcpError FourTuple}
    (hsignal : eff.signal = .connected r) (hp : e.pendingConnects.get? key = some ch) :
    .connect ch r ∈ (e.applyEffect key eff).sent := by
  have hstore : (e.store key eff.outcome).pendingConnects = e.pendingConnects := by
    cases eff.outcome <;> rfl
  unfold applyEffect
  rw [hsignal]
  dsimp only [answerConnect]
  rw [hstore, hp]
  exact List.mem_singleton.2 rfl

/-- What a call with the given signal makes of the pending connect of a key. -/
def Settles (signal : Signal) (pending pending' : Option Channel) (sent : List Response) : Prop :=
  pending' = pendingAfter signal pending ∧
    ∀ ch r, signal = .connected r → pending = some ch → .connect ch r ∈ sent

theorem settles_tickKey {r : CallResult} (now clock : Instant) (ht : r.engine.tcbs.get? k = some t) :
    Settles (tickTcb r.engine.config now clock t).signal (r.engine.pendingConnects.get? k)
      ((tickKey now clock r k).engine.pendingConnects.get? k) (tickKey now clock r k).sent := by
  unfold tickKey
  dsimp only
  rw [onKey_of_get? ht]
  exact ⟨(pending_applyEffect _ _ _).1, fun ch res hsignal hp => List.mem_append_right _ (sent_applyEffect hsignal hp)⟩

theorem pending_tickKey_ne (now clock : Instant) (r : CallResult) (h : k ≠ key) :
    (tickKey now clock r key).engine.pendingConnects.get? k = r.engine.pendingConnects.get? k := by
  unfold tickKey
  dsimp only
  cases ht : r.engine.tcbs.get? key with
  | none => rw [onKey_of_none ht]
  | some t => rw [onKey_of_get? ht]; exact (pending_applyEffect _ _ _).2 k h

theorem pending_foldl_tickKey_notMem (now clock : Instant) {ks : List FourTuple} (hk : k ∉ ks) (r : CallResult) :
    (ks.foldl (tickKey now clock) r).engine.pendingConnects.get? k = r.engine.pendingConnects.get? k :=
  foldl_unchanged (·.engine.pendingConnects.get? k)
    (fun r key hkey => pending_tickKey_ne now clock r fun (h : k = key) => hk (h ▸ hkey)) r

theorem mem_sent_foldl_tickKey (now clock : Instant) {r : CallResult} {x : Response} (hx : x ∈ r.sent)
    (ks : List FourTuple) : x ∈ (ks.foldl (tickKey now clock) r).sent := by
  induction ks generalizing r with
  | nil => exact hx
  | cons key ks ih => exact ih (List.mem_append_left _ hx)

theorem settles_foldl_tickKey (now clock : Instant) {ks : List FourTuple} {r : CallResult} (hnodup : ks.Nodup)
    (hk : k ∈ ks) (ht : r.engine.tcbs.get? k = some t) :
    Settles (tickTcb r.engine.config now clock t).signal (r.engine.pendingConnects.get? k)
      ((ks.foldl (tickKey now clock) r).engine.pendingConnects.get? k) (ks.foldl (tickKey now clock) r).sent := by
  obtain ⟨before, after, rfl, hbefore, hafter⟩ := exists_split_of_nodup hnodup hk
  obtain ⟨hpend, hsent⟩ := settles_tickKey now clock ((foldl_tickKey_notMem now clock hbefore r).2.trans ht)
  rw [config_foldl_tickKey, pending_foldl_tickKey_notMem now clock hbefore] at hpend hsent
  rw [List.foldl_append, List.foldl_cons]
  exact ⟨(pending_foldl_tickKey_notMem now clock hafter _).trans hpend, fun ch res hsignal hp =>
    mem_sent_foldl_tickKey now clock (hsent ch res hsignal hp) after⟩

theorem pending_expireKey (now : Instant) (e : TcpEngine) (key : FourTuple) :
    (expireKey now e key).pendingConnects = e.pendingConnects := by
  unfold expireKey
  split
  · split_ifs <;> rfl
  · rfl

/-- A tick settles the pending connect of a key by the signal of its TCB. -/
theorem settles_onTick (now clock : Instant) (ht : e.tcbs.get? k = some t) (hexp : expired now t = false) :
    Settles (onTickTcb e.config now clock t).signal (e.pendingConnects.get? k)
      ((e.onTick now clock).engine.pendingConnects.get? k) (e.onTick now clock).sent := by
  have hview := view_foldl_expireKey now e.tcbs.nodup_keys (mem_keys_of_get? ht) ht
  have hcfg := config_foldl_expireKey now e.tcbs.keys e
  have hpend : (e.tcbs.keys.foldl (expireKey now) e).pendingConnects = e.pendingConnects :=
    foldl_unchanged (·.pendingConnects) (fun e key _ => pending_expireKey now e key) e
  rw [expireTcb, if_neg (by rw [hexp]; exact Bool.false_ne_true)] at hview
  unfold onTick onTickTcb
  dsimp only
  rw [if_neg (by rw [hexp]; exact Bool.false_ne_true)]
  generalize e.tcbs.keys.foldl (expireKey now) e = e1 at hview hcfg hpend ⊢
  have h1 := (view_eq_live_iff e1 k t).1 hview
  rw [← hcfg, ← hpend]
  exact settles_foldl_tickKey now clock e1.tcbs.nodup_keys (mem_keys_of_get? h1) h1

end TcpEngine

/-! ## Ticks -/

theorem flags_onTickTcb {cfg : EngineConfig} (hst : ¬(t.state = .established ∨ t.state = .closeWait))
    (hf : f ∈ (onTickTcb cfg now clock t).out) : f.params.flags = .ack := by
  obtain ⟨seq, payload, hparams, -⟩ := builtFrom_call cfg (.tick now clock) t hf
  rw [hparams]
  change f.site.flags = .ack
  generalize heff : onTickTcb cfg now clock t = eff at hf
  cases onTickTcb_cases heff with
  | expired | rtoAborted | keepaliveAborted => cases hf
  | retransmitted => rw [site_retransmitFrames hf]; rfl
  | probed => rw [List.mem_singleton.1 hf]; rfl
  | keepaliveProbed => rw [List.mem_singleton.1 hf]; rfl
  | quiet => rw [site_tickDelayedAck hf]; rfl
  | drained hst' => exact absurd hst' hst

theorem reachable_identity (isnGen : IsnGenerator) (cfg : EngineConfig) (evs : List EngineEvent)
    (ht : (engineRun (.new isnGen cfg) evs).tcbs.get? key = some t) : t.key = key ∧ t.handle.error = none := by
  obtain ⟨o, es, rfl, hrun⟩ := reachable_tcb ht
  exact identity_run hrun

theorem addr_onTickTcb {cfg : EngineConfig} (hf : f ∈ (onTickTcb cfg now clock t).out) :
    f.params.src = t.key.localAddr ∧ f.params.dst = t.key.remoteAddr := by
  obtain ⟨seq, payload, hparams, -⟩ := builtFrom_call cfg (.tick now clock) t hf
  have hkey : ((callTcb cfg (.tick now clock) t).after t).key = t.key := key_after
  rw [hparams, ← hkey]
  exact ⟨rfl, rfl⟩

theorem mem_out_onTick_of_key (hkey : ∀ k u, e.tcbs.get? k = some u → u.key = k) (ht : e.tcbs.get? key = some t)
    (hf : f ∈ (e.onTick now clock).out) (hsrc : f.params.src = key.localAddr) (hdst : f.params.dst = key.remoteAddr) :
    f ∈ (onTickTcb e.config now clock t).out := by
  obtain ⟨k, u, hu, hf⟩ := TcpEngine.mem_out_onTick hf
  obtain ⟨hsrc', hdst'⟩ := addr_onTickTcb hf
  rw [hkey k u hu] at hsrc' hdst'
  obtain rfl : k = key := by
    cases k
    cases key
    cases hsrc'.symm.trans hsrc
    cases hdst'.symm.trans hdst
    rfl
  obtain rfl : u = t := Option.some.inj (hu.symm.trans ht)
  exact hf

theorem not_isControl (hkey : ∀ k u, e.tcbs.get? k = some u → u.key = k) (ht : e.tcbs.get? key = some t)
    (hst : ¬(t.state = .established ∨ t.state = .closeWait)) (hf : f ∈ (e.onTick now clock).out) :
    ¬t.IsControl key f := by
  rintro ⟨hsrc, hdst, -, hflag⟩
  replace hf := mem_out_onTick_of_key hkey ht hf hsrc hdst
  rw [flags_onTickTcb hst hf] at hflag
  unfold Tcb.controlFlag at hflag
  split_ifs at hflag
  · exact absurd hflag (by decide)
  · exact absurd hflag (by decide)

theorem error_timedOutHandle (h : t.handle.error = none) : (timedOutHandle t).error = some .timedOut := by
  simp [timedOutHandle, h]

theorem TcpState.awaitsControl_spec {st : TcpState} (h : st.awaitsControl = true) :
    ¬(st = .established ∨ st = .closeWait) ∧ st ≠ .timeWait ∧ st ≠ .finWait2 := by
  cases st with
  | synSent | synReceived | finWait1 | closing | lastAck => decide
  | _ => cases h

/-- **Lost control segments.** When the timer of an unacknowledged SYN or FIN has expired, a tick recovers it exactly if
it gives the connection up. -/
theorem recovers_iff (isnGen : IsnGenerator) (cfg : EngineConfig) (evs : List EngineEvent) (key : FourTuple) (t : Tcb)
    (now clock : Instant) (ht : (engineRun (.new isnGen cfg) evs).tcbs.get? key = some t)
    (hst : t.state.awaitsControl = true) (hdue : due now t.rtoDeadline = true) :
    Recovers (engineRun (.new isnGen cfg) evs) key t now clock ↔ GivesUp (engineRun (.new isnGen cfg) evs) key t now := by
  have hkey : ∀ k u, (engineRun (.new isnGen cfg) evs).tcbs.get? k = some u → u.key = k :=
    fun _ _ hu => (reachable_identity isnGen cfg evs hu).1
  have herror := error_timedOutHandle (reachable_identity isnGen cfg evs ht).2
  generalize engineRun (.new isnGen cfg) evs = e at ht hkey ⊢
  obtain ⟨htransmits, htw, hfw2⟩ := TcpState.awaitsControl_spec hst
  have hexp : expired now t = false := by simp [expired, htw, hfw2]
  have hview := TcpEngine.view_onTick now clock ht
  have hsettles := TcpEngine.settles_onTick now clock ht hexp
  have hrto : rtoDue now t = !t.retransmitQueue.isEmpty := by rw [rtoDue, hdue, Bool.true_and]
  -- nothing retransmits the control segment, so recovery means that the TCB is gone
  have hgone (h : Recovers e key t now clock) : ∃ hd, (e.onTick now clock).engine.view key = some (.removed hd) ∧
      (e.onTick now clock).engine.pendingConnects.get? key = none := by
    rcases h with ⟨⟨f, hf, hcontrol⟩, -⟩ | ⟨⟨hd, hrem, -⟩, hpend, -⟩
    · exact absurd hcontrol (not_isControl hkey ht htransmits hf)
    · exact ⟨hd, hrem, hpend⟩
  have hlive {t' : Tcb} (h : (onTickTcb e.config now clock t).outcome = .live t') (hno : ¬GivesUp e key t now) :
      Recovers e key t now clock ↔ GivesUp e key t now := by
    refine ⟨fun hrec => ?_, fun hup => absurd hup hno⟩
    obtain ⟨hd, hrem, -⟩ := hgone hrec
    rw [hview, h] at hrem
    cases hrem
  generalize heff : onTickTcb e.config now clock t = eff at hview hsettles hlive
  unfold GivesUp at hlive ⊢
  cases onTickTcb_cases heff with
  | expired h => rw [hexp] at h; cases h
  | rtoAborted _ hd hcount =>
    rw [hrto, Bool.not_eq_true'] at hd
    rw [if_neg (by rw [hd]; exact Bool.false_ne_true)]
    exact ⟨fun _ => hcount, fun _ => Or.inr ⟨⟨_, hview, herror⟩, hsettles.1, fun ch => hsettles.2 ch _ rfl⟩⟩
  | retransmitted _ hd hcount =>
    rw [hrto, Bool.not_eq_true'] at hd
    rw [if_neg (by rw [hd]; exact Bool.false_ne_true)] at hlive ⊢
    exact hlive rfl hcount
  | probed hd hpersist =>
    rw [hrto, Bool.not_eq_false'] at hd
    rw [if_pos hd] at hlive ⊢
    exact hlive rfl fun h => absurd (hpersist.symm.trans h.1) Bool.true_eq_false.mp
  | keepaliveAborted ka _ hd hpersist hka hkeep hcount =>
    rw [hrto, Bool.not_eq_false'] at hd
    rw [if_pos hd]
    constructor
    · intro hrec
      obtain ⟨-, -, hpend⟩ := hgone hrec
      exact ⟨hpersist, hsettles.1.symm.trans hpend, ka, hka, hkeep, hcount⟩
    · rintro ⟨-, hpend, -⟩
      refine Or.inr ⟨⟨_, hview, herror⟩, hsettles.1.trans hpend, fun ch hch => ?_⟩
      rw [hpend] at hch
      cases hch
  | keepaliveProbed ka hd hka hcount =>
    rw [hrto, Bool.not_eq_false'] at hd
    rw [if_pos hd] at hlive ⊢
    refine hlive rfl ?_
    rintro ⟨-, -, ka', hka', -, hmore⟩
    obtain rfl : ka = ka' := Option.some.inj (hka.symm.trans hka')
    exact hcount hmore
  | quiet _ hd hkeep =>
    rw [hrto, Bool.not_eq_false'] at hd
    rw [if_pos hd] at hlive ⊢
    refine hlive rfl ?_
    rintro ⟨-, -, ka, hka, hdue', -⟩
    exact absurd ((hkeep ka hka).symm.trans hdue') Bool.false_ne_true
  | drained h => exact absurd h htransmits

/-- An engine with the sample connection, `retries` retries and the given events after the SYN. -/
def sampleConnecting (retries : Nat) (evs : List EngineEvent) : TcpEngine :=
  engineRun (.new { hash := fun _ => 100, bootInstant := 0 } { maxRetries := retries })
    (.connect 0 sampleKey (Vector.replicate 6 1) (Vector.replicate 6 2) 65536 65536 0 :: evs)

def sampleClosing : List EngineEvent :=
  [.segment 1 (sampleSynAck 7000) (Vector.replicate 6 2) (Vector.replicate 6 1), .write sampleKey [1], .tick 2 2,
    .shutdown 3 sampleKey .write]

/-- In FIN_WAIT_1 with the byte unacknowledged and no retries left, the connection times out. -/
theorem recovers_iff_sample : ∃ t, (sampleConnecting 0 sampleClosing).tcbs.get? sampleKey = some t ∧
    t.state = .finWait1 ∧ Recovers (sampleConnecting 0 sampleClosing) sampleKey t (fromSecs 2) (fromSecs 2) :=
  ⟨_, rfl, rfl, (recovers_iff _ _ _ _ _ _ _ rfl rfl rfl).2 (by unfold GivesUp; decide +kernel)⟩

/-- A SYN that was lost is neither sent again nor given up. -/
theorem syn_not_recovered : ∃ t, (sampleConnecting 5 []).tcbs.get? sampleKey = some t ∧ t.state = .synSent ∧
    due (fromSecs 5) t.rtoDeadline = true ∧
    ¬Recovers (sampleConnecting 5 []) sampleKey t (fromSecs 5) (fromSecs 5) := by
  refine ⟨_, rfl, rfl, rfl, ?_⟩
  rintro (⟨⟨f, hf, -⟩, -⟩ | ⟨⟨h, hv, -⟩, -⟩)
  · exact List.not_mem_nil hf
  · cases hv

end DpdkStdlib.Tcp

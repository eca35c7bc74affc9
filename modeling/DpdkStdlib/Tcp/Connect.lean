import DpdkStdlib.Tcp.Control
import DpdkStdlib.Tcp.Lifecycle

/-!
# Connect requests and their answers

A connect command hands a response channel to the engine, which keeps it in `pending_connects` while the TCB is in
SYN_SENT.
-/

namespace DpdkStdlib.Tcp
open DpdkStdlib.Lib

variable {e e' : TcpEngine} {t : Tcb} {ev : EngineEvent} {key : FourTuple} {rs : List Response} {ch : Channel}

/-! ## Requests and results -/

/-- The channel of a connect command, and its key. -/
def EngineEvent.request? : EngineEvent → Option (FourTuple × Channel)
  | .connect _ key _ _ _ _ response => some (key, response)
  | _ => none

def requests (evs : List EngineEvent) : List (FourTuple × Channel) := evs.filterMap EngineEvent.request?

def Response.answers (ch : Channel) : Response → Bool
  | .connect c _ => c == ch
  | _ => false

/-- The channel came in with a connect on the key.  A sender is moved into its command, so there is one such connect. -/
def HandedIn (evs : List EngineEvent) (key : FourTuple) (ch : Channel) : Prop :=
  (requests evs).filter (fun r => r.2 == ch) = [(key, ch)]

/-- The channel is pending under its key with no result sent, or has been sent one and is pending nowhere. -/
def AnsweredOnce (e : TcpEngine) (sent : List Response) (key : FourTuple) (ch : Channel) : Prop :=
  (e.pendingConnects.get? key = some ch ∧ sent.countP (Response.answers ch) = 0) ∨
    ((∀ k, e.pendingConnects.get? k ≠ some ch) ∧ sent.countP (Response.answers ch) = 1)

/-- The pending connects are those of the TCBs in SYN_SENT. -/
def TcpEngine.Lockstep (e : TcpEngine) : Prop :=
  ∀ key, e.pendingConnects.contains key = true ↔ ∃ t, e.tcbs.get? key = some t ∧ t.state = .synSent

/-- A connect leaves the TCB under its key in place. -/
def NeverReplaces (e : TcpEngine) (ev : EngineEvent) : Prop :=
  ∀ key ch, ev.request? = some (key, ch) → ∀ t, e.tcbs.get? key = some t →
    (engineStep e ev).engine.tcbs.get? key = some t

/-- No close with linger 0 finds its TCB in SYN_SENT. -/
def NoneAborted (e : TcpEngine) : EngineEvent → Prop
  | .close _ key linger => linger = some 0 → ∀ t ∈ e.tcbs.get? key, t.state ≠ .synSent
  | _ => True

instance (e : TcpEngine) (ev : EngineEvent) : Decidable (NoneAborted e ev) := by
  unfold NoneAborted
  induction ev using EngineEvent.casesOn <;> infer_instance

def RequestsKept (e : TcpEngine) (ev : EngineEvent) : Prop := ConnectsFresh e ev ∧ NoneAborted e ev
deriving Decidable

/-! ## One call -/

/-- A TCB in SYN_SENT has no keepalive timer: only the transmit drain arms it. -/
def Unarmed (t : Tcb) : Prop := t.state = .synSent → t.keepaliveDeadline = none

/-- An event at a TCB in SYN_SENT leaves it there and answers nothing, or takes it out and answers. -/
def Resolves (eff : Effect) : Prop :=
  (∃ t', eff.outcome = .live t' ∧ t'.state = .synSent ∧ t'.keepaliveDeadline = none ∧ eff.signal = .quiet) ∨
    ((∀ t', eff.outcome = .live t' → t'.state ≠ .synSent) ∧ ∃ r, eff.signal = .connected r)

theorem resolves_keep {r : Tcb × List Emitted} (hst : t.state = .synSent) (hka : t.keepaliveDeadline = none)
    (hstate : r.1.state = t.state) (hdeadline : r.1.keepaliveDeadline = t.keepaliveDeadline) : Resolves (.keep r) :=
  Or.inl ⟨r.1, rfl, hstate.trans hst, hdeadline.trans hka, rfl⟩

theorem resolves_removed {eff : Effect} {h : ConnectionHandle} {r : Except TcpError FourTuple}
    (hout : eff.outcome = .removed h) (hsignal : eff.signal = .connected r) : Resolves eff := by
  refine Or.inr ⟨fun t' ht' => ?_, r, hsignal⟩
  rw [hout] at ht'
  cases ht'

theorem resolves_segmentTcb (clock : Instant) (seg : ParsedTcpSegment) (hst : t.state = .synSent)
    (hka : t.keepaliveDeadline = none) : Resolves (segmentTcb clock seg t) := by
  generalize heff : segmentTcb clock seg t = eff
  cases segmentTcb_cases heff with
  | ignored => exact resolves_keep hst hka rfl rfl
  | refused => exact resolves_removed rfl rfl
  | synAcked => exact Or.inr ⟨fun t' h hst' => (by cases h; cases hst'), _, rfl⟩
  | embryoReset h | accepted h | established h | finWait1Both h | finWait1Acked h | finWait1Fin h | finWait1Open h
    | finWait2Fin h | finWait2Data h | closeWait h | lastAcked h | closingAcked h | finAgain h =>
    rw [hst] at h
    cases h
  | reset h | challenged h =>
    rw [hst] at h
    cases h

theorem resolves_onTickTcb (cfg : EngineConfig) (now clock : Instant) (hst : t.state = .synSent)
    (hka : t.keepaliveDeadline = none) : Resolves (onTickTcb cfg now clock t) := by
  have hack : (tickDelayedAck now t).1.keepaliveDeadline = t.keepaliveDeadline := by
    obtain ⟨_, _, hack⟩ := tickDelayedAck_frame now t
    rw [hack]
  generalize heff : onTickTcb cfg now clock t = eff
  cases onTickTcb_cases heff with
  | expired hexp =>
    rw [expired, hst] at hexp
    cases hexp
  | rtoAborted => exact resolves_removed rfl rfl
  | retransmitted => exact resolves_keep hst hka rfl rfl
  | probed => exact resolves_keep hst hka rfl rfl
  | keepaliveAborted _ _ _ _ _ hkeep =>
    rw [hka] at hkeep
    cases hkeep
  | keepaliveProbed _ _ _ _ hkeep =>
    rw [hka] at hkeep
    cases hkeep
  | quiet => exact resolves_keep hst hka (state_tickDelayedAck now t) hack
  | drained h =>
    rw [hst] at h
    rcases h with h | h <;> cases h

theorem resolves_handleShutdown (clock : Instant) (how : Shutdown) (hst : t.state = .synSent)
    (hka : t.keepaliveDeadline = none) : Resolves (.keep (handleShutdown clock how t)) := by
  generalize hr : handleShutdown clock how t = r
  cases handleShutdown_cases hr with
  | ignored => exact resolves_keep hst hka rfl rfl
  | eof => exact resolves_keep hst hka rfl rfl
  | waits h | sends h =>
    rw [hst] at h
    rcases h with h | h <;> cases h

/-- **One event at a TCB in SYN_SENT**, which is no close with linger 0. -/
theorem resolves_call (cfg : EngineConfig) {ev : ConnEvent} (hst : t.state = .synSent)
    (hka : t.keepaliveDeadline = none) (hev : ∀ clock, ev ≠ .close clock (some 0)) : Resolves (callTcb cfg ev t) := by
  cases ev with
  | write => exact resolves_keep hst hka rfl rfl
  | read => exact resolves_keep hst hka rfl rfl
  | segment clock seg => exact resolves_segmentTcb clock seg hst hka
  | tick now clock => exact resolves_onTickTcb cfg now clock hst hka
  | shutdown clock how => exact resolves_handleShutdown clock how hst hka
  | close clock linger =>
    have hlinger : linger ≠ some 0 := fun h => hev clock (by rw [h])
    rw [callTcb, handleClose, if_neg hlinger]
    exact resolves_handleShutdown clock .write hst hka
  | setOption option =>
    refine resolves_keep hst hka (field_handleSetOption option t Tcb.state fun _ _ => rfl) ?_
    unfold handleSetOption
    split
    case h_2 => split_ifs <;> first | rfl | exact hka.symm
    all_goals rfl

/-! ## Lockstep -/

namespace TcpEngine

/-- The invariant behind `Lockstep`. -/
structure Waiting (e : TcpEngine) : Prop where
  lockstep : e.Lockstep
  unarmed : e.tcbs.All fun _ t => Unarmed t

theorem Waiting.pending_none (hw : e.Waiting) (h : ∀ t, e.tcbs.get? key = some t → t.state ≠ .synSent) :
    e.pendingConnects.get? key = none := by
  rw [← Option.not_isSome_iff_eq_none]
  intro hsome
  obtain ⟨t, ht, hst⟩ := (hw.lockstep key).1 hsome
  exact h t ht hst

theorem get?_store_self (e : TcpEngine) (key : FourTuple) (s : Outcome) (t : Tcb) :
    (e.store key s).tcbs.get? key = some t ↔ s = .live t := by
  cases s with
  | live u => simp [store]
  | removed h => simp [store]

theorem unarmed_call {cfg : EngineConfig} {cev : ConnEvent} {t' : Tcb} (hu : Unarmed t)
    (hcev : t.state = .synSent → ∀ clock, cev ≠ .close clock (some 0)) (h : (callTcb cfg cev t).outcome = .live t') :
    Unarmed t' := by
  intro hst'
  by_cases hst : t.state = .synSent
  · rcases resolves_call cfg hst (hu hst) (hcev hst) with ⟨u, hu, -, hka, -⟩ | ⟨hleft, -⟩
    · cases hu.symm.trans h
      exact hka
    · exact absurd hst' (hleft t' h)
  · exact absurd hst' (state_call_ne rfl hst h)

theorem Waiting.call (hw : e.Waiting) {cev : ConnEvent} (ht : e.tcbs.get? key = some t)
    (hcev : t.state = .synSent → ∀ clock, cev ≠ .close clock (some 0)) :
    (e.applyEffect key (callTcb e.config cev t)).engine.Waiting := by
  have htcbs := (applyEffect_same e key (callTcb e.config cev t)).1
  obtain ⟨hpend, hothers⟩ := pending_applyEffect e key (callTcb e.config cev t)
  have hu := hw.unarmed key t ht
  constructor
  · intro k
    rw [AssocMap.contains, htcbs]
    by_cases hk : k = key
    · subst hk
      rw [hpend]
      simp only [get?_store_self]
      by_cases hst : t.state = .synSent
      · have hsome := (hw.lockstep k).2 ⟨t, ht, hst⟩
        rcases resolves_call e.config hst (hu hst) (hcev hst) with ⟨t', hout, hst', -, hsignal⟩ | ⟨hleft, r, hsignal⟩
        · rw [hsignal]
          exact ⟨fun _ => ⟨t', hout, hst'⟩, fun _ => hsome⟩
        · rw [hsignal]
          constructor
          · intro h
            cases h
          · rintro ⟨t', hout, hst'⟩
            exact absurd hst' (hleft t' hout)
      · have hnone := hw.pending_none fun u hu => (by rw [ht] at hu; cases hu; exact hst)
        have hafter : pendingAfter (callTcb e.config cev t).signal none = none := by
          cases (callTcb e.config cev t).signal <;> rfl
        rw [hnone, hafter]
        constructor
        · intro h
          cases h
        · rintro ⟨t', hout, hst'⟩
          exact absurd hst' (state_call_ne rfl hst hout)
    · rw [hothers k hk, get?_store_ne e hk]
      exact hw.lockstep k
  · rw [htcbs]
    cases hout : (callTcb e.config cev t).outcome with
    | live t' => exact hw.unarmed.insert (unarmed_call hu hcev hout)
    | removed h => exact hw.unarmed.erase key

theorem pending_handleAccept (e : TcpEngine) (addr : SocketAddr) (response : Channel) :
    (e.handleAccept addr response).engine.pendingConnects = e.pendingConnects := by
  unfold handleAccept
  split
  · split <;> rfl
  · rfl

theorem Waiting.connects (hw : e.Waiting) (clock : Instant) (key : FourTuple) (srcMac dstMac : MacAddr) (rx tx : Nat)
    (response : Channel) :
    Waiting { e.insertTcb key ((e.activeOpen clock key srcMac dstMac rx tx).tcb e.config) with
      pendingConnects := e.pendingConnects.insert key response } := by
  constructor
  · intro k
    dsimp only
    rw [AssocMap.contains, AssocMap.get?_insert, tcbs_insertTcb, AssocMap.get?_insert]
    split_ifs with hk
    · exact ⟨fun _ => ⟨_, rfl, rfl⟩, fun _ => rfl⟩
    · exact hw.lockstep k
  · exact hw.unarmed.insert fun _ => rfl

theorem Waiting.admits (hw : e.Waiting) {clock : Instant} {seg : ParsedTcpSegment} {srcMac dstMac : MacAddr}
    (hnone : e.tcbs.get? ⟨seg.dst, seg.src⟩ = none) :
    (e.insertTcb ⟨seg.dst, seg.src⟩ ((e.passiveOpen clock seg srcMac dstMac).tcb e.config)).Waiting := by
  have hpend := hw.pending_none fun t ht => (by rw [hnone] at ht; cases ht)
  constructor
  · intro k
    rw [tcbs_insertTcb, AssocMap.get?_insert]
    change (e.pendingConnects.get? k).isSome = true ↔ _
    split_ifs with hk
    · rw [hk, hpend]
      constructor
      · intro h
        cases h
      · rintro ⟨t, ht, hst⟩
        cases ht
        cases hst
    · exact hw.lockstep k
  · refine hw.unarmed.insert fun hst => ?_
    cases hst

theorem eq_close_of_atKey {clock : Instant} {linger : Option Duration} (h : ev.atKey key = some (.close clock linger)) :
    ev = .close clock key linger := by
  cases ev with
  | close _ k _ =>
    dsimp only [EngineEvent.atKey] at h
    split_ifs at h with hk
    cases h
    rw [hk]
  | tick | connect | listen | accept => cases h
  | segment | shutdown | setOption | write | read =>
    dsimp only [EngineEvent.atKey] at h
    split_ifs at h
    cases h

/-- A change keeps the pending connects with their TCBs. -/
theorem Waiting.change (hw : e.Waiting) (hkept : RequestsKept e ev) (h : Change ev e e' rs) : e'.Waiting := by
  cases h with
  | call key t cev hev ht =>
    refine hw.call ht ?_
    rintro hst clock rfl
    obtain rfl := eq_close_of_atKey hev
    exact hkept.2 rfl t ht hst
  | gone key h cev hev ht hh => exact ⟨hw.lockstep, hw.unarmed⟩
  | full => exact hw
  | connects clock key srcMac dstMac rx tx response hev hroom => exact hw.connects clock key srcMac dstMac rx tx response
  | admits clock seg srcMac dstMac addr l hev hadmits => exact hw.admits hadmits.unknown
  | listens => exact ⟨hw.lockstep, hw.unarmed⟩
  | accepts addr response =>
    have htcbs := (handleAccept_same e addr response).1
    have hpend := pending_handleAccept e addr response
    exact ⟨by unfold Lockstep; rw [htcbs, hpend]; exact hw.lockstep, htcbs ▸ hw.unarmed⟩

/-! ## Conservation -/

/-- How many connects wait on the channel. -/
def pendingOn (ch : Channel) (e : TcpEngine) : Nat := e.pendingConnects.count fun _ c => c == ch

theorem pendingOn_congr (h : e'.pendingConnects = e.pendingConnects) (ch : Channel) :
    e'.pendingOn ch = e.pendingOn ch := by
  rw [pendingOn, h]
  rfl

theorem balance_answerConnect (e : TcpEngine) (key : FourTuple) (r : Except TcpError FourTuple) (ch : Channel) :
    e.pendingOn ch =
      (e.answerConnect key r).sent.countP (Response.answers ch) + (e.answerConnect key r).engine.pendingOn ch := by
  unfold answerConnect
  cases hp : e.pendingConnects.get? key with
  | none => exact (Nat.zero_add _).symm
  | some c =>
    have hcount := AssocMap.count_erase_of_get? (fun _ c => c == ch) hp
    dsimp only
    rw [List.countP_cons, List.countP_nil, pendingOn, pendingOn, ← hcount]
    cases hc : c == ch <;> simp [Response.answers, hc, Nat.add_comm]

theorem balance_deliverAccepted (e : TcpEngine) (key : FourTuple) (ch : Channel) :
    e.pendingOn ch =
      (e.deliverAccepted key).sent.countP (Response.answers ch) + (e.deliverAccepted key).engine.pendingOn ch := by
  unfold deliverAccepted
  split
  · exact (Nat.zero_add _).symm
  · split <;> exact (Nat.zero_add _).symm

theorem balance_applyEffect (e : TcpEngine) (key : FourTuple) (eff : Effect) (ch : Channel) :
    e.pendingOn ch =
      (e.applyEffect key eff).sent.countP (Response.answers ch) + (e.applyEffect key eff).engine.pendingOn ch := by
  have hstore : (e.store key eff.outcome).pendingConnects = e.pendingConnects := by
    cases eff.outcome <;> rfl
  rw [← pendingOn_congr hstore]
  unfold applyEffect
  cases eff.signal with
  | quiet => exact (Nat.zero_add _).symm
  | connected r => exact balance_answerConnect _ key r ch
  | accepted => exact balance_deliverAccepted _ key ch

/-- A change keeps the balance of a channel. -/
theorem balance_change (hev : ev.request? = none) (h : Change ev e e' rs) (ch : Channel) :
    e.pendingOn ch = rs.countP (Response.answers ch) + e'.pendingOn ch := by
  cases h with
  | call key t cev => exact balance_applyEffect e key _ ch
  | gone => exact (Nat.zero_add _).symm
  | full _ _ _ _ _ _ _ h | connects _ _ _ _ _ _ _ h =>
    rw [h] at hev
    cases hev
  | admits => exact (Nat.zero_add _).symm
  | listens => exact (Nat.zero_add _).symm
  | accepts addr response =>
    rw [pendingOn_congr (pending_handleAccept e addr response)]
    unfold handleAccept
    split
    · split <;> exact (Nat.zero_add _).symm
    · exact (Nat.zero_add _).symm

theorem balance_changes {good : TcpEngine → EngineEvent → Prop} (hev : ev.request? = none)
    (h : Changes good ev e e' rs) (ch : Channel) :
    e.pendingOn ch = rs.countP (Response.answers ch) + e'.pendingOn ch := by
  induction h with
  | refl => exact (Nat.zero_add _).symm
  | tail _ _ hstep ih =>
    rw [List.countP_append, ih, balance_change hev hstep ch, Nat.add_assoc]

end TcpEngine

def EngineEvent.asks (ch : Channel) (ev : EngineEvent) : Bool := ev.request?.any fun r => r.2 == ch

/-- A channel that comes in or was pending is answered or pending. -/
theorem balance_engineStep (hfresh : ConnectsFresh e ev) (hw : e.Waiting) (ch : Channel) :
    (ev.asks ch).toNat + e.pendingOn ch =
      (answerStep e ev).2.countP (Response.answers ch) + (answerStep e ev).1.pendingOn ch := by
  cases hev : ev.request? with
  | none =>
    have hasks : ev.asks ch = false := by rw [EngineEvent.asks, hev]; rfl
    rw [hasks, Bool.toNat_false, Nat.zero_add]
    exact TcpEngine.balance_changes hev (e.changes_any ev) ch
  | some r =>
    cases ev with
    | connect clock key srcMac dstMac rx tx response =>
      cases hev
      change (response == ch).toNat + e.pendingOn ch =
        (e.handleConnect clock key.localAddr key.remoteAddr srcMac dstMac (.new rx tx key) response).sent.countP _ +
          (e.handleConnect clock key.localAddr key.remoteAddr srcMac dstMac (.new rx tx key) response).engine.pendingOn ch
      rcases e.handleConnect_cases clock key srcMac dstMac rx tx response with ⟨-, h⟩ | ⟨hroom, h⟩
      · rw [h, List.countP_cons, List.countP_nil]
        cases hc : response == ch <;> simp [Response.answers, hc]
      · have hnone := hw.pending_none fun t ht => (by rw [hfresh.resolve_right (Nat.not_le.2 hroom)] at ht; cases ht)
        have hcount := AssocMap.count_insert_of_none (fun _ c => c == ch) response hnone
        rw [h, List.countP_nil, Nat.zero_add, Nat.add_comm]
        exact hcount.symm
    | _ => cases hev

/-! ## Runs -/

theorem pending_changes {good : TcpEngine → EngineEvent → Prop} (h : Changes good ev e e' rs)
    (hp : e'.pendingConnects.get? key = some ch) :
    e.pendingConnects.get? key = some ch ∨ ev.request? = some (key, ch) := by
  induction h with
  | refl => exact Or.inl hp
  | tail _ _ hstep ih =>
    cases hstep with
    | call k t cev =>
      refine ih ?_
      obtain ⟨hself, hothers⟩ := TcpEngine.pending_applyEffect _ k (callTcb _ cev t)
      by_cases hk : key = k
      · subst hk
        rw [hself] at hp
        generalize (callTcb _ cev t).signal = signal at hp
        cases signal with
        | connected => cases hp
        | quiet | accepted => exact hp
      · rwa [hothers key hk] at hp
    | gone | full | admits | listens => exact ih hp
    | connects _ k _ _ _ _ response hev =>
      dsimp only at hp
      rw [AssocMap.get?_insert] at hp
      split_ifs at hp with hk
      · cases hp
        rw [hk, hev]
        exact Or.inr rfl
      · exact ih hp
    | accepts addr response =>
      rw [TcpEngine.pending_handleAccept] at hp
      exact ih hp

theorem pending_requested : ∀ (evs : List EngineEvent) (e : TcpEngine),
    (run answerStep e evs).1.pendingConnects.get? key = some ch →
      e.pendingConnects.get? key = some ch ∨ (key, ch) ∈ requests evs
  | [], e, h => Or.inl h
  | ev :: evs, e, h => by
    rw [requests, filterMap_cons_toList, List.mem_append]
    rcases pending_requested evs _ h with hp | hmem
    · rcases pending_changes (e.changes_any ev) hp with hp | hev
      · exact Or.inl hp
      · rw [hev]
        exact Or.inr (Or.inl (List.mem_singleton.2 rfl))
    · exact Or.inr (Or.inr hmem)

theorem countP_asks (evs : List EngineEvent) (ch : Channel) :
    evs.countP (EngineEvent.asks ch) = ((requests evs).filter fun r => r.2 == ch).length := by
  rw [← List.countP_eq_length_filter, requests, List.countP_filterMap]
  refine List.countP_congr fun ev _ => ?_
  rw [EngineEvent.asks]
  cases ev.request? <;> simp

theorem answeredOnce_of_balance {evs : List EngineEvent} {sent : List Response}
    (hbalance : evs.countP (EngineEvent.asks ch) = sent.countP (Response.answers ch) + e.pendingOn ch)
    (hasked : ∀ k, e.pendingConnects.get? k = some ch → (k, ch) ∈ requests evs) (hin : HandedIn evs key ch) :
    AnsweredOnce e sent key ch := by
  rw [countP_asks, show _ = [(key, ch)] from hin, List.length_singleton] at hbalance
  have hpos := AssocMap.count_pos_iff (m := e.pendingConnects) (fun _ c => c == ch)
  change 0 < e.pendingOn ch ↔ _ at hpos
  by_cases hp : 0 < e.pendingOn ch
  · obtain ⟨k, c, hget, hc⟩ := hpos.1 hp
    rw [beq_iff_eq] at hc
    subst hc
    have hmem : (k, c) ∈ [(key, c)] := by
      rw [← show _ = [(key, c)] from hin, List.mem_filter]
      exact ⟨hasked k hget, beq_self_eq_true c⟩
    cases List.mem_singleton.1 hmem
    exact Or.inl ⟨hget, by omega⟩
  · refine Or.inr ⟨fun k hk => hp (hpos.2 ⟨k, ch, hk, beq_self_eq_true ch⟩), by omega⟩

theorem neverReplaces_of_fresh (hfresh : ConnectsFresh e ev) : NeverReplaces e ev := by
  intro key ch hev t ht
  cases ev with
  | connect clock k srcMac dstMac rx tx response =>
    cases hev
    change (e.handleConnect clock key.localAddr key.remoteAddr srcMac dstMac (.new rx tx key) ch).engine.tcbs.get? key = _
    rcases e.handleConnect_cases clock key srcMac dstMac rx tx ch with ⟨-, h⟩ | ⟨hroom, -⟩
    · rw [h]
      exact ht
    · rw [hfresh.resolve_right (Nat.not_le.2 hroom)] at ht
      cases ht
  | _ => cases hev

/-- **Every connect is answered once.** In every run in which no connect finds a TCB under its key and no close with
linger 0 finds one in SYN_SENT, no connect replaces a TCB, and every channel handed in is pending under its key, whose
TCB is in SYN_SENT, or has been sent exactly one result. -/
theorem answered_once (isnGen : IsnGenerator) (cfg : EngineConfig) (evs : List EngineEvent)
    (hkept : Along RequestsKept answerStep (.new isnGen cfg) evs) :
    (engineRun (.new isnGen cfg) evs).Lockstep ∧ Along NeverReplaces answerStep (.new isnGen cfg) evs ∧
      ∀ key ch, HandedIn evs key ch →
        AnsweredOnce (engineRun (.new isnGen cfg) evs) (run answerStep (.new isnGen cfg) evs).2 key ch := by
  have hinit : (TcpEngine.new isnGen cfg).Waiting := by
    refine ⟨fun key => ⟨nofun, ?_⟩, AssocMap.all_empty _⟩
    rintro ⟨t, ht, -⟩
    exact (AssocMap.all_empty (fun _ _ => False) key t ht).elim
  have htick (e : TcpEngine) (now clock : Instant) : RequestsKept e (.tick now clock) := ⟨trivial, trivial⟩
  have hchange : ∀ ev e e' rs, RequestsKept e ev → Change ev e e' rs → e.Waiting → e'.Waiting :=
    fun _ _ _ _ hgood h hw => hw.change hgood h
  have hwaiting := engine_invariant htick hchange hkept hinit
  have hfresh := hkept.mono fun _ _ h => h.1
  refine ⟨hwaiting.lockstep, hfresh.mono fun e ev h => neverReplaces_of_fresh h, fun key ch hin => ?_⟩
  have hstep (e : TcpEngine) (ev : EngineEvent) (hgood : RequestsKept e ev) (hw : e.Waiting) :
      (answerStep e ev).1.Waiting := keeps_engineStep htick hchange hgood hw
  have hbalance := run_balance (EngineEvent.asks ch) (Response.answers ch) hstep
    (fun e ev hgood hw => balance_engineStep hgood.1 hw ch) evs _ hkept hinit
  rw [← run_answerStep]
  refine answeredOnce_of_balance hbalance (fun k hk => ?_) hin
  rcases pending_requested evs _ hk with hp | hmem
  · cases hp
  · exact hmem

def sampleRefused : List EngineEvent :=
  [.connect 0 sampleKey (Vector.replicate 6 1) (Vector.replicate 6 2) 65536 65536 7,
    .segment 1 (fromPeer 0 101 (TcpFlags.rst.union .ack) 0 []) (Vector.replicate 6 2) (Vector.replicate 6 1)]

theorem answered_once_sample : (engineRun sampleBoot sampleRefused).Lockstep ∧
    AnsweredOnce (engineRun sampleBoot sampleRefused) (run answerStep sampleBoot sampleRefused).2 sampleKey 7 ∧
    (run answerStep sampleBoot sampleRefused).2.countP (Response.answers 7) = 1 := by
  have h := answered_once { hash := fun _ => 100, bootInstant := 0 } {} sampleRefused (by decide +kernel)
  exact ⟨h.1, h.2.2 sampleKey 7 rfl, by decide +kernel⟩

/-- A connect that the application gives up with linger 0 before the SYN-ACK. -/
def sampleAborted : List EngineEvent :=
  [.connect 0 sampleKey (Vector.replicate 6 1) (Vector.replicate 6 2) 65536 65536 7, .close 1 sampleKey (some 0)]

/-- The request stays pending with no TCB; and a second connect on the key drops the first one unanswered. -/
theorem aborted_connect_waits : ¬(engineRun sampleBoot sampleAborted).Lockstep ∧ HandedIn sampleReplaced sampleKey 0 ∧
    ¬AnsweredOnce (engineRun sampleBoot sampleReplaced) (run answerStep sampleBoot sampleReplaced).2 sampleKey 0 := by
  refine ⟨fun h => ?_, rfl, ?_⟩
  · obtain ⟨t, ht, -⟩ := (h sampleKey).1 rfl
    cases ht
  · rintro (⟨h, -⟩ | ⟨-, h⟩)
    · cases h
    · cases h

end DpdkStdlib.Tcp

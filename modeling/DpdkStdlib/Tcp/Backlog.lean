import DpdkStdlib.Tcp.Accept
import DpdkStdlib.Tcp.Emission
import DpdkStdlib.Tcp.Lifecycle

/-!
# The limits of the engine

The engine limits the TCBs in its map, and per listener the connections that are half open or wait to be accepted.
-/

namespace DpdkStdlib.Tcp
open DpdkStdlib.Lib

variable {e e' : TcpEngine} {a addr : SocketAddr} {key : FourTuple} {t : Tcb} {l : ListenState} {ev : EngineEvent}

/-! ## Admission -/

/-- A SYN without ACK or RST for which there is no TCB. -/
structure NewSyn (e : TcpEngine) (seg : ParsedTcpSegment) : Prop where
  unknown : e.tcbs.get? ⟨seg.dst, seg.src⟩ = none
  syn : seg.flags.contains .syn = true
  notAck : seg.flags.contains .ack = false
  notRst : seg.flags.contains .rst = false

/-- A segment that opens a connection keeps to the backlog of its listener; another on the port may exceed its own. -/
def AdmitsWithin (e : TcpEngine) : EngineEvent → Prop
  | .segment clock seg srcMac dstMac =>
    e.tcbs.get? ⟨seg.dst, seg.src⟩ = none →
      ∀ t, (e.onSegmentWithMacs clock seg srcMac dstMac).engine.tcbs.get? ⟨seg.dst, seg.src⟩ = some t →
        ∃ addr l, (e.onSegmentWithMacs clock seg srcMac dstMac).engine.listenerFor seg.dst = some (addr, l) ∧
          (e.onSegmentWithMacs clock seg srcMac dstMac).engine.embryonic addr + l.completed.length ≤ l.backlog
  | _ => True

/-- The frame is the RST of a segment without ACK: to its sender, acknowledging all of it. -/
structure IsRstAck (seg : ParsedTcpSegment) (f : Emitted) : Prop where
  src : f.params.src = seg.dst
  dst : f.params.dst = seg.src
  flags : f.params.flags = TcpFlags.rst.union .ack
  ack : f.params.ack = seg.seq.add (segmentLen seg)
  built : ∀ ip port ip' port', seg.src = .v4 ip port → seg.dst = .v4 ip' port' → f.frame.isSome = true

/-- A SYN refused for a limit changes nothing and yields one RST. -/
def RefusesCleanly (e : TcpEngine) : EngineEvent → Prop
  | .segment clock seg srcMac dstMac =>
    NewSyn e seg → ∀ addr l, e.listenerFor seg.dst = some (addr, l) →
      l.backlog ≤ e.embryonic seg.dst + l.completed.length ∨ e.config.maxTcbs ≤ e.tcbs.size →
        (e.onSegmentWithMacs clock seg srcMac dstMac).engine = e ∧
          ∃ f, (e.onSegmentWithMacs clock seg srcMac dstMac).out = [f] ∧ IsRstAck seg f
  | _ => True

theorem isRstAck_sendRstForSegment {seg : ParsedTcpSegment} (hack : seg.flags.contains .ack = false) :
    ∃ f, TcpEngine.sendRstForSegment seg = [f] ∧ IsRstAck seg f := by
  refine ⟨_, rfl, rfl, rfl, ?_, ?_, ?_⟩
  · dsimp only
    rw [hack]
    rfl
  · dsimp only
    rw [hack]
    rfl
  · intro ip port ip' port' hsrc hdst
    unfold Emitted.frame buildTcpFrame
    dsimp only
    rw [hsrc, hdst]
    rfl

/-- A refused SYN changes nothing and gets one RST. -/
theorem refusesCleanly (e : TcpEngine) (ev : EngineEvent) : RefusesCleanly e ev := by
  cases ev with
  | segment clock seg srcMac dstMac =>
    intro hnew addr l hl hlimit
    have hstep : e.onSegmentWithMacs clock seg srcMac dstMac =
        { engine := e, out := TcpEngine.sendRstForSegment seg } := by
      have hc : e.tcbs.contains ⟨seg.dst, seg.src⟩ = false := by simp [AssocMap.contains, hnew.unknown]
      unfold TcpEngine.onSegmentWithMacs TcpEngine.handleSynWithMacs
      dsimp only
      rw [hnew.notRst, hc, hnew.syn, hnew.notAck, hl]
      rw [if_neg Bool.false_ne_true, if_neg Bool.false_ne_true, if_pos (show (true && !false) = true from rfl)]
      dsimp only
      split_ifs with hfull hmax
      · rfl
      · rfl
      · exact absurd hlimit (not_or.2 ⟨hfull, hmax⟩)
    rw [hstep]
    exact ⟨rfl, isRstAck_sendRstForSegment hnew.notAck⟩
  | _ => trivial

namespace TcpEngine

theorem embryonic_eq (e : TcpEngine) (addr : SocketAddr) : e.embryonic addr =
    e.tcbs.count fun _ t => decide (t.state = .synReceived) && decide (t.key.localAddr.port = addr.port) := by
  rw [embryonic, AssocMap.count, ← List.countP_eq_length_filter]
  refine List.countP_congr fun p _ => ?_
  have hport : p.2.key.localAddr = addr ∨ p.2.key.localAddr.port = addr.port ↔ p.2.key.localAddr.port = addr.port :=
    or_iff_right_of_imp fun h => h ▸ rfl
  simp [hport]

theorem embryonic_congr (e : TcpEngine) {b : SocketAddr} (h : a.port = b.port) : e.embryonic a = e.embryonic b := by
  rw [embryonic_eq, embryonic_eq, h]

theorem embryonic_insertTcb_le (hnone : e.tcbs.get? key = none) (t : Tcb) (addr : SocketAddr) :
    (e.insertTcb key t).embryonic addr ≤ e.embryonic addr + 1 := by
  rw [embryonic_eq, embryonic_eq]
  change AssocMap.count _ (e.tcbs.insert key t) ≤ _
  rw [AssocMap.count_insert_of_none _ t hnone]
  exact Nat.add_le_add_left (Bool.toNat_le _) _

theorem port_of_listenerFor (h : e.listenerFor a = some (addr, l)) : addr.port = a.port := by
  unfold listenerFor at h
  split at h
  · cases h; rfl
  · obtain ⟨l', -, heq⟩ := Option.map_eq_some_iff.1 h
    cases heq
    rfl

end TcpEngine

theorem admitsWithin (e : TcpEngine) (ev : EngineEvent) : AdmitsWithin e ev := by
  cases ev with
  | segment clock seg srcMac dstMac =>
    intro hnone t ht
    obtain ⟨-, h | ⟨addr, l, hadmits, h⟩⟩ := TcpEngine.segment_of_none clock hnone srcMac dstMac
    · rw [h, hnone] at ht
      cases ht
    · rw [h]
      refine ⟨addr, l, hadmits.listener, ?_⟩
      have hport := TcpEngine.port_of_listenerFor hadmits.listener
      have hle := TcpEngine.embryonic_insertTcb_le hnone ((e.passiveOpen clock seg srcMac dstMac).tcb e.config) seg.dst
      have hbacklog := hadmits.backlog
      rw [TcpEngine.embryonic_congr _ hport]
      omega
  | _ => trivial

/-! ## The listener of a half-open connection -/

namespace TcpEngine

/-- The address of the listener responsible for a local address. -/
def responsible (e : TcpEngine) (a : SocketAddr) : Option SocketAddr := (e.listenerFor a).map Prod.fst

theorem responsible_eq (e : TcpEngine) (a : SocketAddr) : e.responsible a =
    if e.listeners.contains a then some a
    else if e.listeners.contains (.wildcard a.port) then some (.wildcard a.port) else none := by
  unfold responsible listenerFor AssocMap.contains
  cases e.listeners.get? a with
  | some l => rfl
  | none => cases e.listeners.get? (.wildcard a.port) <;> rfl

theorem responsible_congr (h : ∀ a, e'.listeners.contains a = e.listeners.contains a) (a : SocketAddr) :
    e'.responsible a = e.responsible a := by
  rw [responsible_eq, responsible_eq, h, h]

/-- A TCB that is half open, under a key for which the listener of `addr` is responsible. -/
def isHalfOpen (e : TcpEngine) (addr : SocketAddr) (key : FourTuple) (t : Tcb) : Bool :=
  decide (t.state = .synReceived) && decide (e.responsible key.localAddr = some addr)

/-- How many half-open connections the listener of an address will get. -/
def halfOpen (e : TcpEngine) (addr : SocketAddr) : Nat := e.tcbs.count (e.isHalfOpen addr)

/-- What a listener has completed and will get is within its backlog, and every half-open connection has a listener. -/
structure Fits (e : TcpEngine) : Prop where
  identity : e.tcbs.All fun key t => t.key = key
  heard : e.tcbs.All fun key t => t.state = .synReceived → (e.responsible key.localAddr).isSome = true
  within : e.listeners.All fun addr l => l.completed.length + e.halfOpen addr ≤ l.backlog

/-- The listeners are the same, and none has more connections to hand out or to get. -/
structure Eases (e e' : TcpEngine) : Prop where
  same : ∀ a, e'.listeners.contains a = e.listeners.contains a
  fewer : e'.listeners.All fun addr l' => ∃ l, e.listeners.get? addr = some l ∧ l'.backlog = l.backlog ∧
    l'.completed.length + e'.halfOpen addr ≤ l.completed.length + e.halfOpen addr

theorem Fits.of_eases (hf : e.Fits) (h : e.Eases e') (htcbs : e'.tcbs.All fun key t =>
      t.key = key ∧ (t.state = .synReceived → (e.responsible key.localAddr).isSome = true)) : e'.Fits := by
  refine ⟨fun key t ht => (htcbs key t ht).1, fun key t ht hst => ?_, fun addr l' hl' => ?_⟩
  · rw [responsible_congr h.same]
    exact (htcbs key t ht).2 hst
  · obtain ⟨l, hl, hbacklog, hle⟩ := h.fewer addr l' hl'
    rw [hbacklog]
    exact hle.trans (hf.within addr l hl)

theorem Fits.tcbs (hf : e.Fits) : e.tcbs.All fun key t =>
    t.key = key ∧ (t.state = .synReceived → (e.responsible key.localAddr).isSome = true) :=
  fun key t ht => ⟨hf.identity key t ht, hf.heard key t ht⟩

theorem halfOpen_congr (h : ∀ a, e'.listeners.contains a = e.listeners.contains a) (addr : SocketAddr) :
    e'.halfOpen addr = e'.tcbs.count (e.isHalfOpen addr) := by
  have hp : e'.isHalfOpen addr = e.isHalfOpen addr := by
    funext key t
    rw [isHalfOpen, isHalfOpen, responsible_congr h]
  rw [halfOpen, hp]

theorem eases_of_listeners (h : e'.listeners = e.listeners)
    (hle : ∀ addr, e'.tcbs.count (e.isHalfOpen addr) ≤ e.halfOpen addr) : e.Eases e' := by
  have hsame (a : SocketAddr) : e'.listeners.contains a = e.listeners.contains a := by rw [h]
  refine ⟨hsame, fun addr l hl => ⟨l, h ▸ hl, rfl, ?_⟩⟩
  rw [halfOpen_congr hsame]
  exact Nat.add_le_add_left (hle addr) _

theorem contains_insert_of_get? {m : AssocMap SocketAddr ListenState} (h : m.get? addr = some l) (l' : ListenState)
    (a : SocketAddr) : (m.insert addr l').contains a = m.contains a := by
  unfold AssocMap.contains
  rw [AssocMap.get?_insert]
  split_ifs with ha
  · rw [ha, h]
    rfl
  · rfl

theorem eases_of_listener {l' : ListenState} (hl : e.listeners.get? addr = some l)
    (h : e'.listeners = e.listeners.insert addr l') (hbacklog : l'.backlog = l.backlog)
    (hself : l'.completed.length + e'.tcbs.count (e.isHalfOpen addr) ≤ l.completed.length + e.halfOpen addr)
    (hle : ∀ a ≠ addr, e'.tcbs.count (e.isHalfOpen a) ≤ e.halfOpen a) : e.Eases e' := by
  have hsame (a : SocketAddr) : e'.listeners.contains a = e.listeners.contains a := by
    rw [h]
    exact contains_insert_of_get? hl l' a
  refine ⟨hsame, fun a la hla => ?_⟩
  rw [h, AssocMap.get?_insert] at hla
  rw [halfOpen_congr hsame]
  split_ifs at hla with ha
  · cases hla
    rw [ha]
    exact ⟨l, hl, hbacklog, hself⟩
  · exact ⟨la, hla, rfl, Nat.add_le_add_left (hle a ha) _⟩

/-! ## One call -/

/-- A call leaves every half-open connection with a listener. -/
theorem Fits.store (hf : e.Fits) (ht : e.tcbs.get? key = some t) (cev : ConnEvent) :
    (e.store key (callTcb e.config cev t).outcome).tcbs.All fun key t =>
      t.key = key ∧ (t.state = .synReceived → (e.responsible key.localAddr).isSome = true) := by
  cases hout : (callTcb e.config cev t).outcome with
  | live t' =>
    refine hf.tcbs.insert ⟨(key_call hout).trans (hf.identity key t ht), fun hst' => ?_⟩
    by_contra hnone
    exact state_call_ne rfl (fun hst => hnone (hf.heard key t ht hst)) hout hst'
  | removed h => exact hf.tcbs.erase key

theorem count_store_le (ht : e.tcbs.get? key = some t) (cev : ConnEvent) (addr : SocketAddr) :
    (e.store key (callTcb e.config cev t).outcome).tcbs.count (e.isHalfOpen addr) ≤ e.halfOpen addr := by
  cases hout : (callTcb e.config cev t).outcome with
  | removed h => exact AssocMap.count_erase_le _ _ _
  | live t' =>
    have hcount := AssocMap.count_insert_of_get? (e.isHalfOpen addr) t' ht
    have hle : (e.isHalfOpen addr key t').toNat ≤ (e.isHalfOpen addr key t).toNat := by
      by_cases hst : t.state = .synReceived
      · unfold isHalfOpen
        rw [decide_eq_true hst, Bool.true_and]
        cases decide (t'.state = .synReceived)
        · exact Nat.zero_le _
        · exact Nat.le_refl _
      · unfold isHalfOpen
        rw [decide_eq_false (state_call_ne rfl hst hout)]
        exact Nat.zero_le _
    change (e.tcbs.insert key t').count _ ≤ e.tcbs.count _
    omega

theorem count_store_accepted {t' : Tcb} (ht : e.tcbs.get? key = some t) (hst : t.state = .synReceived)
    (hst' : t'.state = .established) (hfor : e.responsible key.localAddr = some addr) :
    (e.store key (.live t')).tcbs.count (e.isHalfOpen addr) + 1 = e.halfOpen addr := by
  have hcount := AssocMap.count_insert_of_get? (e.isHalfOpen addr) t' ht
  have hp : e.isHalfOpen addr key t = true := by rw [isHalfOpen, hst, hfor]; simp
  have hp' : e.isHalfOpen addr key t' = false := by rw [isHalfOpen, hst']; rfl
  rwa [hp, hp'] at hcount

end TcpEngine

theorem accepted_call {cfg : EngineConfig} {cev : ConnEvent} (h : (callTcb cfg cev t).signal = .accepted) :
    t.state = .synReceived ∧ ∃ t', (callTcb cfg cev t).outcome = .live t' ∧ t'.state = .established := by
  cases cev with
  | segment clock seg =>
    have hcomp := (signal_segmentTcb clock seg t).1 h
    change t.state = .synReceived ∧ ∃ t', (segmentTcb clock seg t).outcome = .live t' ∧ _
    unfold Tcb.completes at hcomp
    rw [Bool.and_eq_true, beq_iff_eq] at hcomp
    refine ⟨hcomp.1, ?_⟩
    cases hout : (segmentTcb clock seg t).outcome with
    | live t' =>
      rw [hout] at hcomp
      exact ⟨t', rfl, beq_iff_eq.1 hcomp.2⟩
    | removed hd =>
      rw [hout] at hcomp
      cases hcomp.2
  | _ => exact absurd h (signal_call_ne rfl cfg t)

namespace TcpEngine

theorem eases_call (ht : e.tcbs.get? key = some t) (cev : ConnEvent) :
    e.Eases (e.applyEffect key (callTcb e.config cev t)).engine := by
  have htcbs := (applyEffect_same e key (callTcb e.config cev t)).1
  by_cases hsignal : (callTcb e.config cev t).signal = .accepted
  · obtain ⟨hst, t', hout, hst'⟩ := accepted_call hsignal
    have hlisteners := e.listeners_store key (callTcb e.config cev t).outcome
    have hengine : (e.applyEffect key (callTcb e.config cev t)).engine =
        ((e.store key (callTcb e.config cev t).outcome).deliverAccepted key).engine := by
      rw [applyEffect, hsignal]
    have hfor := listenerFor_congr hlisteners key.localAddr
    cases hlf : e.listenerFor key.localAddr with
    | none =>
      refine eases_of_listeners ?_ fun addr => htcbs ▸ count_store_le ht cev addr
      rw [hengine, deliverAccepted, hfor, hlf]
      exact hlisteners
    | some al =>
      have hat := (deliverAccepted_at _ key (hfor.trans hlf)).1
      rw [← hengine, hlisteners] at hat
      have hresponsible : e.responsible key.localAddr = some al.1 := by rw [responsible, hlf]; rfl
      have hone := count_store_accepted ht hst hst' hresponsible
      refine eases_of_listener (get?_of_listenerFor hlf) hat rfl ?_ fun a _ => htcbs ▸ count_store_le ht cev a
      have hlen : _ ≤ al.2.completed.length + 1 := al.2.queues.length_offers_offer_le key
      rw [htcbs, hout]
      change (al.2.queues.step (.offer key)).1.offers.length + _ ≤ _
      omega
  · exact eases_of_listeners (applyEffect_of_ne hsignal e key).1 fun addr => htcbs ▸ count_store_le ht cev addr

theorem eases_accepts (e : TcpEngine) (addr : SocketAddr) (response : Channel) :
    e.Eases (e.handleAccept addr response).engine := by
  have htcbs := (handleAccept_same e addr response).1
  have hcount (a : SocketAddr) : (e.handleAccept addr response).engine.tcbs.count (e.isHalfOpen a) ≤ e.halfOpen a := by
    rw [htcbs]
    exact Nat.le_refl _
  cases hl : e.listeners.get? addr with
  | none =>
    refine eases_of_listeners ?_ hcount
    rw [handleAccept, hl]
  | some l =>
    have hlen : _ ≤ l.completed.length := l.queues.length_offers_ask_le response
    refine eases_of_listener hl (handleAccept_at hl response).1 rfl ?_ fun a _ => hcount a
    exact Nat.add_le_add hlen (hcount addr)

/-! ## New connections and listeners -/

theorem Fits.connects (hf : e.Fits) (clock : Instant) (key : FourTuple) (srcMac dstMac : MacAddr) (rx tx : Nat)
    (response : Channel) :
    Fits { e.insertTcb key ((e.activeOpen clock key srcMac dstMac rx tx).tcb e.config) with
      pendingConnects := e.pendingConnects.insert key response } := by
  refine hf.of_eases (eases_of_listeners rfl fun addr => ?_) (hf.tcbs.insert ⟨rfl, nofun⟩)
  dsimp only
  rw [tcbs_insertTcb, AssocMap.count_insert]
  exact AssocMap.count_erase_le _ _ _

/-- An admitted SYN keeps the backlogs. -/
theorem Fits.admits (hf : e.Fits) {clock : Instant} {seg : ParsedTcpSegment} {srcMac dstMac : MacAddr}
    (h : Admits e seg addr l) :
    (e.insertTcb ⟨seg.dst, seg.src⟩ ((e.passiveOpen clock seg srcMac dstMac).tcb e.config)).Fits := by
  have hfor : e.responsible seg.dst = some addr := by rw [responsible, h.listener]; rfl
  refine ⟨hf.identity.insert rfl, hf.heard.insert fun _ => hfor ▸ rfl, fun a la hla => ?_⟩
  change e.listeners.get? a = some la at hla
  change la.completed.length + (e.tcbs.insert ⟨seg.dst, seg.src⟩ _).count (e.isHalfOpen a) ≤ la.backlog
  rw [AssocMap.count_insert_of_none _ _ h.unknown]
  by_cases ha : a = addr
  · -- what is half open for the listener is half open on its port
    have hle : e.halfOpen addr ≤ e.embryonic seg.dst := by
      rw [embryonic_eq]
      refine AssocMap.count_mono _ fun key t ht hp => ?_
      simp only [isHalfOpen, Bool.and_eq_true, decide_eq_true_eq] at hp ⊢
      refine ⟨hp.1, ?_⟩
      obtain ⟨al, hal, heq⟩ := Option.map_eq_some_iff.1 hp.2
      rw [hf.identity key t ht, ← port_of_listenerFor hal, heq, port_of_listenerFor h.listener]
    have hbacklog := h.backlog
    have hone :=
      Bool.toNat_le (e.isHalfOpen a ⟨seg.dst, seg.src⟩ ((e.passiveOpen clock seg srcMac dstMac).tcb e.config))
    subst ha
    cases hla.symm.trans (get?_of_listenerFor h.listener)
    change e.tcbs.count (e.isHalfOpen a) ≤ _ at hle
    omega
  · have hother : e.isHalfOpen a ⟨seg.dst, seg.src⟩ ((e.passiveOpen clock seg srcMac dstMac).tcb e.config) = false := by
      rw [isHalfOpen, hfor, decide_eq_false (fun h => ha (Option.some.inj h).symm), Bool.and_false]
    rw [hother]
    exact hf.within a la hla

def effectiveBacklog (e : TcpEngine) (backlog : Nat) : Nat := if backlog = 0 then e.config.defaultBacklog else backlog

/-- The half-open connections on the address. -/
def halfOpenAt (e : TcpEngine) (addr : SocketAddr) : Nat :=
  e.tcbs.count fun _ t => decide (t.state = .synReceived) && decide (t.key.localAddr = addr)

section listens
variable (e : TcpEngine) (addr : SocketAddr) (backlog : Nat) (response : Channel)

theorem contains_handleListen (a : SocketAddr) : (e.handleListen addr backlog response).engine.listeners.contains a =
    if a = addr then true else e.listeners.contains a := by
  change (AssocMap.get? (AssocMap.insert _ _ _) _).isSome = _
  rw [AssocMap.get?_insert]
  split_ifs <;> rfl

theorem isSome_responsible_handleListen (h : (e.responsible a).isSome = true) :
    ((e.handleListen addr backlog response).engine.responsible a).isSome = true := by
  rw [responsible_eq] at h ⊢
  rw [contains_handleListen, contains_handleListen]
  by_cases ha : a = addr
  · rw [if_pos ha, if_pos rfl]
    rfl
  · rw [if_neg ha]
    by_cases hw : SocketAddr.wildcard a.port = addr
    · rw [if_pos hw, if_pos rfl]
      split_ifs <;> rfl
    · rwa [if_neg hw]

theorem responsible_handleListen (hnew : e.listeners.get? addr = none) {b : SocketAddr}
    (h : (e.handleListen addr backlog response).engine.responsible a = some b) :
    e.responsible a = some b ∨ b = addr ∧ (a = addr ∨ e.responsible a = none) := by
  have hnone : e.listeners.contains addr = false := by rw [AssocMap.contains, hnew]; rfl
  rw [responsible_eq, contains_handleListen, contains_handleListen] at h
  rw [responsible_eq]
  by_cases ha : a = addr
  · rw [if_pos ha, if_pos rfl] at h
    cases h
    exact Or.inr ⟨ha, Or.inl ha⟩
  · rw [if_neg ha] at h
    by_cases hca : e.listeners.contains a = true
    · rw [if_pos hca] at h ⊢
      exact Or.inl h
    · rw [if_neg hca] at h ⊢
      by_cases hw : SocketAddr.wildcard a.port = addr
      · rw [if_pos hw, if_pos rfl, hw] at h
        rw [hw, hnone]
        cases h
        exact Or.inr ⟨rfl, Or.inr rfl⟩
      · rw [if_neg hw] at h
        exact Or.inl h

end listens

/-- So does a listen command on a new address. -/
theorem Fits.listens (hf : e.Fits) {backlog : Nat} (response : Channel) (hnew : e.listeners.get? addr = none)
    (hfits : e.halfOpenAt addr ≤ e.effectiveBacklog backlog) : (e.handleListen addr backlog response).engine.Fits := by
  refine ⟨hf.identity, fun key t ht hst => ?_, fun a l hl => ?_⟩
  · exact isSome_responsible_handleListen e addr backlog response (hf.heard key t ht hst)
  · change (e.listeners.insert addr ⟨e.effectiveBacklog backlog, [], []⟩).get? a = some l at hl
    rw [AssocMap.get?_insert] at hl
    split_ifs at hl with ha
    · -- every half-open connection had a listener, so those of the new one are under its address
      have hle : (e.handleListen addr backlog response).engine.halfOpen a ≤ e.halfOpenAt addr := by
        refine AssocMap.count_mono _ fun key t ht hp => ?_
        simp only [isHalfOpen, Bool.and_eq_true, decide_eq_true_eq] at hp ⊢
        refine ⟨hp.1, ?_⟩
        rw [hf.identity key t ht]
        have hheard := hf.heard key t ht hp.1
        rcases responsible_handleListen e addr backlog response hnew hp.2 with hold | ⟨-, hself | hnone⟩
        · obtain ⟨al, hal, heq⟩ := Option.map_eq_some_iff.1 hold
          have hget := get?_of_listenerFor hal
          rw [heq, ha, hnew] at hget
          cases hget
        · exact hself
        · rw [hnone] at hheard
          cases hheard
      cases hl
      exact (Nat.zero_add _).trans_le (hle.trans hfits)
    · refine le_trans (Nat.add_le_add_left ?_ _) (hf.within a l hl)
      refine AssocMap.count_mono _ fun key t _ hp => ?_
      simp only [isHalfOpen, Bool.and_eq_true, decide_eq_true_eq] at hp ⊢
      rcases responsible_handleListen e addr backlog response hnew hp.2 with hold | ⟨hself, -⟩
      · exact ⟨hp.1, hold⟩
      · exact absurd hself ha

end TcpEngine

/-! ## Runs -/

def EngineEvent.listens? : EngineEvent → Option SocketAddr
  | .listen addr .. => some addr
  | _ => none

def listened (evs : List EngineEvent) : List SocketAddr := evs.filterMap EngineEvent.listens?

/-- A listen command finds no more half-open connections under its address than its backlog. -/
def TakesOverWithin (e : TcpEngine) : EngineEvent → Prop
  | .listen addr backlog _ => e.halfOpenAt addr ≤ e.effectiveBacklog backlog
  | _ => True

/-- A listen command finds no listener on its address. -/
def ListensAnew (e : TcpEngine) (ev : EngineEvent) : Prop := ∀ addr ∈ ev.listens?, e.listeners.get? addr = none

theorem TcpEngine.Fits.change {rs : List Response} (hf : e.Fits) (hgood : ListensAnew e ev ∧ TakesOverWithin e ev)
    (h : Change ev e e' rs) : e'.Fits := by
  cases h with
  | call key t cev hev ht =>
    refine hf.of_eases (TcpEngine.eases_call ht cev) ?_
    rw [(TcpEngine.applyEffect_same e key (callTcb e.config cev t)).1]
    exact hf.store ht cev
  | gone => exact ⟨hf.identity, hf.heard, hf.within⟩
  | full => exact hf
  | connects clock key srcMac dstMac rx tx response => exact hf.connects clock key srcMac dstMac rx tx response
  | admits clock seg srcMac dstMac addr l hev hadmits => exact hf.admits hadmits
  | listens addr backlog response hev =>
    subst hev
    exact hf.listens response (hgood.1 addr rfl) hgood.2
  | accepts addr response =>
    refine hf.of_eases (TcpEngine.eases_accepts e addr response) ?_
    rw [(TcpEngine.handleAccept_same e addr response).1]
    exact hf.tcbs

theorem get?_listeners_engineStep (hnone : e.listeners.get? addr = none) (hev : ev.listens? ≠ some addr) :
    (engineStep e ev).engine.listeners.get? addr = none := by
  have hchanges := e.changes_any ev
  generalize (engineStep e ev).engine = e', (engineStep e ev).sent = rs at hchanges
  induction hchanges with
  | refl => exact hnone
  | @tail e' e'' _ _ _ _ hstep ih =>
    have hcontains (h : e'.Eases e'') : e''.listeners.get? addr = none := by
      have hsame := h.same addr
      rw [AssocMap.contains, AssocMap.contains, ih] at hsame
      exact Option.not_isSome_iff_eq_none.1 (by rw [hsame]; exact Bool.false_ne_true)
    cases hstep with
    | call key t cev hcev ht => exact hcontains (TcpEngine.eases_call ht cev)
    | gone | full | connects | admits => exact ih
    | listens a backlog response h =>
      refine (AssocMap.get?_insert_ne _ _ fun ha => hev ?_).trans (ih)
      rw [h, ha]
      rfl
    | accepts a response => exact hcontains (TcpEngine.eases_accepts e' a response)

/-- With one listen command per address, each finds none there. -/
theorem listensAnew_along : ∀ (evs : List EngineEvent) (e : TcpEngine), (listened evs).Nodup →
    (∀ addr ∈ listened evs, e.listeners.get? addr = none) → Along ListensAnew answerStep e evs
  | [], _, _, _ => trivial
  | ev :: evs, e, hnd, hnone => by
    rw [listened, filterMap_cons_toList] at hnd hnone
    obtain ⟨-, hrest, hdisjoint⟩ := List.nodup_append.1 hnd
    refine ⟨fun addr haddr => hnone addr (List.mem_append_left _ (Option.mem_toList.2 haddr)), ?_⟩
    refine listensAnew_along evs _ hrest fun addr haddr => ?_
    refine get?_listeners_engineStep (hnone addr (List.mem_append_right _ haddr)) fun hev => ?_
    exact hdisjoint addr (Option.mem_toList.2 hev) addr haddr rfl

/-- The map of TCBs is within its limit. -/
structure TcpEngine.Limited (cfg : EngineConfig) (e : TcpEngine) : Prop where
  config : e.config = cfg
  size : e.tcbs.size ≤ cfg.maxTcbs

theorem size_store_le (ht : e.tcbs.get? key = some t) (s : Outcome) : (e.store key s).tcbs.size ≤ e.tcbs.size := by
  rw [← AssocMap.count_true, ← AssocMap.count_true]
  cases s with
  | live t' =>
    have hcount := AssocMap.count_insert_of_get? (fun _ _ => true) t' ht
    exact Nat.le_of_add_le_add_right hcount.le
  | removed h => exact AssocMap.count_erase_le _ _ _

theorem size_insert_le (m : AssocMap FourTuple Tcb) (key : FourTuple) (t : Tcb) :
    (m.insert key t).size ≤ m.size + 1 := by
  rw [← AssocMap.count_true, ← AssocMap.count_true, AssocMap.count_insert]
  exact Nat.add_le_add_right (AssocMap.count_erase_le _ _ _) _

theorem TcpEngine.Limited.change {cfg : EngineConfig} {rs : List Response} (hl : e.Limited cfg)
    (h : Change ev e e' rs) : e'.Limited cfg := by
  have hinsert (key : FourTuple) (t : Tcb) (hroom : e.tcbs.size < e.config.maxTcbs) :
      (e.tcbs.insert key t).size ≤ cfg.maxTcbs := by
    rw [hl.config] at hroom
    exact (size_insert_le e.tcbs key t).trans hroom
  cases h with
  | call key t cev hev ht =>
    obtain ⟨htcbs, -, hcfg⟩ := TcpEngine.applyEffect_same e key (callTcb e.config cev t)
    refine ⟨hcfg.trans hl.config, ?_⟩
    rw [htcbs]
    exact (size_store_le ht _).trans hl.size
  | gone => exact ⟨hl.config, hl.size⟩
  | full => exact hl
  | connects clock key srcMac dstMac rx tx response hev hroom => exact ⟨hl.config, hinsert key _ hroom⟩
  | admits clock seg srcMac dstMac addr l hev hadmits => exact ⟨hl.config, hinsert _ _ hadmits.room⟩
  | listens => exact ⟨hl.config, hl.size⟩
  | accepts addr response =>
    obtain ⟨htcbs, -, hcfg⟩ := TcpEngine.handleAccept_same e addr response
    exact ⟨hcfg.trans hl.config, htcbs ▸ hl.size⟩

/-- **The limits hold in every run.** The map of TCBs is within its limit, a SYN is admitted within its listener's
backlog, and a refused one changes nothing and gets one RST.  With one listen command per address, none with more
half-open connections there than its backlog, no listener exceeds its backlog. -/
theorem limits_kept (isnGen : IsnGenerator) (cfg : EngineConfig) (evs : List EngineEvent) :
    (engineRun (.new isnGen cfg) evs).tcbs.size ≤ cfg.maxTcbs ∧
      Along AdmitsWithin answerStep (.new isnGen cfg) evs ∧ Along RefusesCleanly answerStep (.new isnGen cfg) evs ∧
      ((listened evs).Nodup → Along TakesOverWithin answerStep (.new isnGen cfg) evs →
        (engineRun (.new isnGen cfg) evs).listeners.All fun _ l => l.completed.length ≤ l.backlog) := by
  have hany : Along (fun _ _ => True) answerStep (.new isnGen cfg) evs := along_true _ evs
  have hlimited := engine_invariant (I := TcpEngine.Limited cfg) (fun _ _ _ => trivial)
    (fun _ _ _ _ _ h hl => hl.change h) hany ⟨rfl, Nat.zero_le _⟩
  refine ⟨hlimited.size, hany.mono fun e ev _ => admitsWithin e ev, hany.mono fun e ev _ => refusesCleanly e ev, ?_⟩
  intro hnd hwithin addr l hl
  have hanew : Along ListensAnew answerStep (.new isnGen cfg) evs := listensAnew_along evs _ hnd fun _ _ => rfl
  have hinit : (TcpEngine.new isnGen cfg).Fits := ⟨AssocMap.all_empty _, AssocMap.all_empty _, AssocMap.all_empty _⟩
  have hfits := engine_invariant (fun _ _ _ => ⟨nofun, trivial⟩)
    (fun _ _ _ _ hgood h hf => TcpEngine.Fits.change hf hgood h) (hanew.and hwithin) hinit
  exact (Nat.le_add_right _ _).trans (hfits.within addr l hl)

instance (e : TcpEngine) (ev : EngineEvent) : Decidable (TakesOverWithin e ev) := by
  unfold TakesOverWithin
  induction ev using EngineEvent.casesOn <;> infer_instance

/-- Two SYNs reach the wildcard listener before there is one on the address itself, and then complete. -/
def sampleTakeOver (backlog : Nat) : List EngineEvent :=
  [.listen (.wildcard 80) 2 0, clientSyn 4000, clientSyn 4001, .listen sampleServer backlog 1, clientAck 4000,
    clientAck 4001]

theorem limits_kept_sample : (engineRun sampleBoot (sampleTakeOver 2)).tcbs.size ≤ 1024 ∧
    (engineRun sampleBoot (sampleTakeOver 2)).listeners.All (fun _ l => l.completed.length ≤ l.backlog) ∧
    ∃ l, (engineRun sampleBoot (sampleTakeOver 2)).listeners.get? sampleServer = some l ∧ l.completed.length = 2 := by
  have h := limits_kept { hash := fun _ => 100, bootInstant := 0 } {} (sampleTakeOver 2)
  exact ⟨h.1, h.2.2.2 (by decide) (by decide +kernel), _, rfl, by decide +kernel⟩

/-- With a backlog of one, the listener has two connections to be accepted. -/
theorem listener_overfull : (listened (sampleTakeOver 1)).Nodup ∧
    ∃ l, (engineRun sampleBoot (sampleTakeOver 1)).listeners.get? sampleServer = some l ∧
      l.backlog = 1 ∧ l.completed.length = 2 :=
  ⟨by decide, _, rfl, by decide +kernel, by decide +kernel⟩

end DpdkStdlib.Tcp

import DpdkStdlib.Tcp.Change
import DpdkStdlib.Tcp.Emission

/-!
# Which station a frame goes to (`engine.rs`)

A passively opened TCB keeps the MACs of its SYN, and every frame of a call is built from the TCB.  A refused SYN has no
TCB; the reset that answers it is built with zero MACs.
-/

namespace DpdkStdlib.Tcp
open DpdkStdlib.Lib

variable {t t' : Tcb} {f : Emitted} {cfg : EngineConfig} {cev : ConnEvent} {ev : EngineEvent} {key : FourTuple}

/-! ## The station of a TCB -/

structure Station where
  key : FourTuple
  srcMac : MacAddr
  dstMac : MacAddr

def Tcb.station (t : Tcb) : Station := ⟨t.key, t.srcMac, t.dstMac⟩

theorem station_call (h : (callTcb cfg cev t).outcome = .live t') : t'.station = t.station :=
  field_call h Tcb.station (fun _ _ => rfl) (fun _ _ => rfl) (fun _ _ _ _ => rfl)
    (fun clock seg _ _ _ => field_handleEstablished clock seg t Tcb.station fun _ _ => rfl)
    fun option _ => field_handleSetOption option t Tcb.station fun _ _ => rfl

/-- The frame goes from one end of the connection to the other. -/
def Emitted.From (f : Emitted) (s : Station) : Prop :=
  f.params.src = s.key.localAddr ∧ f.params.dst = s.key.remoteAddr ∧ f.params.srcMac = s.srcMac ∧
    f.params.dstMac = s.dstMac
deriving Decidable

theorem from_call (hf : f ∈ (callTcb cfg cev t).out) : f.From t.station := by
  obtain ⟨seq, payload, hparams, -⟩ := builtFrom_call cfg cev t hf
  have hstation : ((callTcb cfg cev t).after t).station = t.station := by
    unfold Effect.after
    cases h : (callTcb cfg cev t).outcome with
    | live t' => exact station_call h
    | removed => rfl
  rw [← hstation, Emitted.From, hparams]
  exact ⟨rfl, rfl, rfl, rfl⟩

/-! ## Engines with the SYNs of their connections -/

/-- An engine, and for a connection that a SYN opened the source and destination MAC of the SYN's frame. -/
structure Traced where
  engine : TcpEngine
  syn : FourTuple → Option (MacAddr × MacAddr) := fun _ => none

/-- The event as it leaves the record: a segment that opens a connection enters its MACs, a connect clears them. -/
def Traced.synAfter (s : Traced) (ev : EngineEvent) : FourTuple → Option (MacAddr × MacAddr) :=
  match ev with
  | .segment _ seg srcMac dstMac =>
    if s.engine.tcbs.get? ⟨seg.dst, seg.src⟩ = none ∧
        (engineStep s.engine ev).engine.tcbs.get? ⟨seg.dst, seg.src⟩ ≠ none then
      Function.update s.syn ⟨seg.dst, seg.src⟩ (some (srcMac, dstMac))
    else s.syn
  | .connect _ key .. => if s.engine.tcbs.size < s.engine.config.maxTcbs then Function.update s.syn key none else s.syn
  | _ => s.syn

def Traced.step (s : Traced) (ev : EngineEvent) : Traced × List Emitted :=
  (⟨(engineStep s.engine ev).engine, s.synAfter ev⟩, (engineStep s.engine ev).out)

/-- The TCB is at its own key, and has the MACs of the SYN that opened it, swapped. -/
def StationOf (syn : FourTuple → Option (MacAddr × MacAddr)) (key : FourTuple) (st : Station) : Prop :=
  st.key = key ∧ ∀ srcMac dstMac, syn key = some (srcMac, dstMac) → st.srcMac = dstMac ∧ st.dstMac = srcMac

def Traced.Stationed (s : Traced) : Prop := ∀ key t, s.engine.tcbs.get? key = some t → StationOf s.syn key t.station

inductive OpensAt (e : TcpEngine) (ev : EngineEvent) (key : FourTuple) (st : Station) : Prop
  | passive (clock : Instant) (seg : ParsedTcpSegment) (srcMac dstMac : MacAddr)
      (hev : ev = .segment clock seg srcMac dstMac) (hkey : key = ⟨seg.dst, seg.src⟩) (hnone : e.tcbs.get? key = none)
      (hst : st = ⟨key, dstMac, srcMac⟩) : OpensAt e ev key st
  | active (hopens : ev.Opens key e) (hst : st.key = key) : OpensAt e ev key st

/-- An event that opens no connection of the key leaves it without one. -/
theorem absent_engineStep {e : TcpEngine} (ht : e.tcbs.get? key = none) (hopens : ¬ev.Opens key e)
    (hseg : ∀ clock seg srcMac dstMac, ev = .segment clock seg srcMac dstMac → key ≠ ⟨seg.dst, seg.src⟩) :
    (engineStep e ev).engine.tcbs.get? key = none := by
  refine keeps_engineStep (I := fun e' => e'.tcbs.get? key = none)
    (fun _ now clock => .inl ⟨now, clock, rfl⟩)
    (fun ev' e' e'' rs (hgood : (∃ now clock, ev' = .tick now clock) ∨ ev' = ev ∧ e' = e) hchange hnone => ?_)
    (.inr ⟨rfl, rfl⟩) ht
  cases hchange with
  | call k t cev hev ht' =>
    have hk : key ≠ k := by
      rintro rfl
      rw [hnone] at ht'
      cases ht'
    rw [(TcpEngine.applyEffect_same e' k _).1, TcpEngine.get?_store_ne e' hk]
    exact hnone
  | gone | full | listens => exact hnone
  | accepts addr response => rw [(TcpEngine.handleAccept_same e' addr response).1]; exact hnone
  | connects clock k srcMac dstMac rx tx response hev hroom =>
    subst hev
    obtain ⟨rfl, rfl⟩ := hgood.resolve_left (by simp)
    exact (AssocMap.get?_insert_ne _ _ fun hk => hopens ⟨hk, hroom⟩).trans hnone
  | admits clock seg srcMac dstMac addr l hev =>
    subst hev
    obtain ⟨rfl, rfl⟩ := hgood.resolve_left (by simp)
    exact (AssocMap.get?_insert_ne _ _ (hseg clock seg srcMac dstMac rfl)).trans hnone

/-- **One event.** A TCB after an event was there before it with the same station, or the event opened it. -/
theorem station_engineStep {e : TcpEngine} (h : (engineStep e ev).engine.tcbs.get? key = some t') :
    (∃ t, e.tcbs.get? key = some t ∧ t'.station = t.station ∧ ¬ev.Opens key e) ∨ OpensAt e ev key t'.station := by
  by_cases hopens : ev.Opens key e
  · refine .inr (.active hopens ?_)
    cases ev with
    | connect clock k srcMac dstMac rx tx response =>
      obtain ⟨rfl, hroom⟩ := hopens
      change (e.handleConnect clock key.localAddr key.remoteAddr srcMac dstMac (.new rx tx key)
        response).engine.tcbs.get? key = some t' at h
      rcases e.handleConnect_cases clock key srcMac dstMac rx tx response with ⟨hfull, -⟩ | ⟨-, hcase⟩
      · omega
      · rw [hcase] at h
        cases (AssocMap.get?_insert_self _ _ _).symm.trans h
        rfl
    | _ => exact hopens.elim
  cases ht : e.tcbs.get? key with
  | some t =>
    have hview := TcpEngine.view_engineStep_of_get? ht hopens
    rw [(TcpEngine.view_eq_live_iff _ key t').2 h, EngineEvent.leaves] at hview
    refine .inl ⟨t, rfl, ?_, hopens⟩
    cases hat : ev.atKey key with
    | none =>
      rw [hat] at hview
      cases hview
      rfl
    | some cev =>
      rw [hat] at hview
      exact station_call (Option.some.inj hview).symm
  | none =>
    refine .inr ?_
    by_cases hseg : ∀ clock seg srcMac dstMac, ev = .segment clock seg srcMac dstMac → key ≠ ⟨seg.dst, seg.src⟩
    · rw [absent_engineStep ht hopens hseg] at h
      cases h
    · push Not at hseg
      obtain ⟨clock, seg, srcMac, dstMac, rfl, rfl⟩ := hseg
      refine .passive clock seg srcMac dstMac rfl rfl ht ?_
      change (e.onSegmentWithMacs clock seg srcMac dstMac).engine.tcbs.get? _ = some t' at h
      obtain ⟨-, hsame | ⟨addr, l, -, hnew⟩⟩ := TcpEngine.segment_of_none clock ht srcMac dstMac
      · rw [hsame, ht] at h
        cases h
      · rw [hnew] at h
        cases (AssocMap.get?_insert_self _ _ _).symm.trans h
        rfl

/-- **Every run.** The TCBs keep the MACs of the SYNs that opened them. -/
theorem Traced.Stationed.step {s : Traced} (h : s.Stationed) (ev : EngineEvent) : (s.step ev).1.Stationed := by
  intro key t' ht'
  rcases station_engineStep ht' with ⟨t, ht, hst, hopens⟩ | hopens
  · rw [hst]
    have hsyn : s.synAfter ev key = s.syn key := by
      cases ev with
      | segment clock seg srcMac dstMac =>
        rw [Traced.synAfter]
        split_ifs with hnew
        · refine Function.update_of_ne ?_ _ _
          rintro rfl
          rw [ht] at hnew
          cases hnew.1
        · rfl
      | connect clock k srcMac dstMac rx tx response =>
        rw [Traced.synAfter]
        split_ifs with hroom
        · exact Function.update_of_ne (fun hk => hopens ⟨hk, hroom⟩) _ _
        · rfl
      | _ => rfl
    obtain ⟨hkey, hmacs⟩ := h key t ht
    exact ⟨hkey, fun srcMac dstMac hs => hmacs srcMac dstMac (hsyn.symm.trans hs)⟩
  · cases hopens with
    | passive clock seg srcMac dstMac hev hkey hnone hst =>
      subst hev hkey
      have hsyn : s.synAfter (.segment clock seg srcMac dstMac) ⟨seg.dst, seg.src⟩ = some (srcMac, dstMac) := by
        rw [Traced.synAfter, if_pos ⟨hnone, by
          rw [show (engineStep s.engine (.segment clock seg srcMac dstMac)).engine.tcbs.get? _ = some t' from ht']
          simp⟩]
        exact Function.update_self _ _ _
      rw [hst]
      refine ⟨rfl, fun srcMac' dstMac' hs => ?_⟩
      cases hsyn.symm.trans hs
      exact ⟨rfl, rfl⟩
    | active hopens hst =>
      refine ⟨hst, fun srcMac dstMac hs => ?_⟩
      cases ev with
      | connect clock k srcMac' dstMac' rx tx response =>
        obtain ⟨rfl, hroom⟩ := hopens
        have hsyn : s.synAfter (.connect clock key srcMac' dstMac' rx tx response) key = none := by
          rw [Traced.synAfter, if_pos hroom]
          exact Function.update_self _ _ _
        cases hsyn.symm.trans hs
      | _ => exact hopens.elim

/-! ## Where frames go -/

/-- The frame has the addresses of the connection, and if a SYN opened it, the SYN's MACs swapped. -/
def Traced.ForConnection (s : Traced) (key : FourTuple) (f : Emitted) : Prop :=
  ∃ t st, s.engine.tcbs.get? key = some t ∧ StationOf s.syn key st ∧ f.From st

/-- Where the frames of an event should go: back to where a segment came from, out with a connect, or to the other end
of the connection. -/
def Addressed (s : Traced) (f : Emitted) : EngineEvent → Prop
  | .segment _ seg srcMac dstMac =>
    if s.engine.tcbs.get? ⟨seg.dst, seg.src⟩ = none then f.From ⟨⟨seg.dst, seg.src⟩, dstMac, srcMac⟩
    else s.ForConnection ⟨seg.dst, seg.src⟩ f
  | .connect _ key srcMac dstMac .. => f.From ⟨key, srcMac, dstMac⟩
  | .tick now clock => ∃ key t, s.engine.tcbs.get? key = some t ∧ f ∈ (onTickTcb s.engine.config now clock t).out ∧
      s.ForConnection key f
  | .shutdown _ key _ | .close _ key _ | .setOption _ key _ => s.ForConnection key f
  | .listen .. | .accept .. | .write .. | .read .. => False

/-- A SYN for no connection that is not admitted, from or to a station that is not zero. -/
def Refuses (e : TcpEngine) : EngineEvent → Prop
  | .segment _ seg srcMac dstMac => e.tcbs.get? ⟨seg.dst, seg.src⟩ = none ∧ seg.flags.contains .syn = true ∧
      seg.flags.contains .ack = false ∧ seg.flags.contains .rst = false ∧ (∀ addr l, ¬Admits e seg addr l) ∧
      ¬(srcMac = Vector.replicate 6 0 ∧ dstMac = Vector.replicate 6 0)
  | _ => False

/-- What a segment without a connection is answered with. -/
theorem out_of_none {e : TcpEngine} (clock : Instant) {seg : ParsedTcpSegment}
    (ht : e.tcbs.get? ⟨seg.dst, seg.src⟩ = none) (srcMac dstMac : MacAddr) :
    (e.onSegmentWithMacs clock seg srcMac dstMac).out = [] ∧ ¬Refuses e (.segment clock seg srcMac dstMac) ∨
      (e.onSegmentWithMacs clock seg srcMac dstMac).out = [(e.passiveOpen clock seg srcMac dstMac).emitted e.config] ∧
        ¬Refuses e (.segment clock seg srcMac dstMac) ∨
      (e.onSegmentWithMacs clock seg srcMac dstMac).out = TcpEngine.sendRstForSegment seg ∧
        (Refuses e (.segment clock seg srcMac dstMac) ↔
          ¬(srcMac = Vector.replicate 6 0 ∧ dstMac = Vector.replicate 6 0)) := by
  have hc : e.tcbs.contains ⟨seg.dst, seg.src⟩ = false := by simp [AssocMap.contains, ht]
  unfold TcpEngine.onSegmentWithMacs
  dsimp only
  split_ifs with hrst hcon hsyn
  · rw [TcpEngine.onKey_of_none ht]
    exact .inl ⟨rfl, fun h => by rw [h.2.2.2.1] at hrst; cases hrst⟩
  · rw [hc] at hcon
    cases hcon
  · simp only [Bool.and_eq_true, Bool.not_eq_true', Bool.not_eq_true] at hsyn hrst
    have hrefuses (h : ∀ addr l, ¬Admits e seg addr l) : Refuses e (.segment clock seg srcMac dstMac) ↔
        ¬(srcMac = Vector.replicate 6 0 ∧ dstMac = Vector.replicate 6 0) :=
      ⟨fun hr => hr.2.2.2.2.2, fun hz => ⟨ht, hsyn.1, hsyn.2, hrst, h, hz⟩⟩
    unfold TcpEngine.handleSynWithMacs
    cases hl : e.listenerFor seg.dst with
    | none => exact .inr (.inr ⟨rfl, hrefuses fun addr l h => by rw [h.listener] at hl; cases hl⟩)
    | some al =>
      dsimp only
      split_ifs with hbacklog hroom
      · refine .inr (.inr ⟨rfl, hrefuses fun addr l h => ?_⟩)
        have hbacklog' := h.backlog
        cases hl.symm.trans h.listener
        exact absurd hbacklog' (Nat.not_lt.2 hbacklog)
      · refine .inr (.inr ⟨rfl, hrefuses fun addr l h => ?_⟩)
        exact absurd h.room (Nat.not_lt.2 hroom)
      · refine .inr (.inl ⟨rfl, fun hr => hr.2.2.2.2.1 al.1 al.2 ?_⟩)
        exact ⟨ht, hsyn.1, hsyn.2, hrst, hl, Nat.lt_of_not_le hbacklog, Nat.lt_of_not_le hroom⟩
  · refine .inl ⟨rfl, fun h => hsyn ?_⟩
    rw [h.2.1, h.2.2.1]
    rfl

theorem Traced.Stationed.forConnection {s : Traced} (h : s.Stationed) (cfg : EngineConfig) (cev : ConnEvent)
    (ht : s.engine.tcbs.get? key = some t) (hf : f ∈ (callTcb cfg cev t).out) : s.ForConnection key f :=
  ⟨t, t.station, ht, h key t ht, from_call hf⟩

theorem addressed_iff_of_stationed {s : Traced} (h : s.Stationed) (ev : EngineEvent) :
    (∀ f ∈ (s.step ev).2, Addressed s f ev) ↔ ¬Refuses s.engine ev := by
  have hkey {k : FourTuple} {g : Tcb → Effect} {f : Emitted} (cev : ConnEvent)
      (hg : ∀ t, callTcb s.engine.config cev t = g t) (hf : f ∈ (s.engine.onKey k g).out) : s.ForConnection k f := by
    cases ht : s.engine.tcbs.get? k with
    | none =>
      rw [TcpEngine.onKey_of_none ht] at hf
      cases hf
    | some t =>
      rw [TcpEngine.onKey_of_get? ht, TcpEngine.out_applyEffect, ← hg t] at hf
      exact h.forConnection s.engine.config cev ht hf
  cases ev with
  | segment clock seg srcMac dstMac =>
    show (∀ f ∈ (s.engine.onSegmentWithMacs clock seg srcMac dstMac).out, _) ↔ _
    cases ht : s.engine.tcbs.get? ⟨seg.dst, seg.src⟩ with
    | some t =>
      refine iff_of_true (fun f hf => ?_) fun hr => by rw [hr.1] at ht; cases ht
      rw [TcpEngine.onSegmentWithMacs_of_get? ht, TcpEngine.out_applyEffect] at hf
      rw [Addressed, if_neg (by rw [ht]; simp)]
      exact h.forConnection s.engine.config (.segment clock seg) ht hf
    | none =>
      rcases out_of_none clock ht srcMac dstMac with ⟨hout, hr⟩ | ⟨hout, hr⟩ | ⟨hout, hr⟩
      · rw [hout]
        exact iff_of_true (fun f hf => absurd hf List.not_mem_nil) hr
      · rw [hout]
        refine iff_of_true (fun f hf => ?_) hr
        rw [List.mem_singleton.1 hf, Addressed, if_pos ht]
        exact ⟨rfl, rfl, rfl, rfl⟩
      · rw [hout, hr, not_not]
        refine ⟨fun hall => ?_, ?_⟩
        · have haddr := hall _ (List.mem_singleton_self _)
          rw [Addressed, if_pos ht] at haddr
          exact ⟨haddr.2.2.2.symm, haddr.2.2.1.symm⟩
        · rintro ⟨rfl, rfl⟩ f hf
          rw [List.mem_singleton.1 hf, Addressed, if_pos ht]
          exact ⟨rfl, rfl, rfl, rfl⟩
  | tick now clock =>
    refine iff_of_true (fun f hf => ?_) id
    obtain ⟨k, t, ht, hf⟩ := TcpEngine.mem_out_onTick hf
    exact ⟨k, t, ht, hf, h.forConnection s.engine.config (.tick now clock) ht hf⟩
  | connect clock key srcMac dstMac rx tx response =>
    refine iff_of_true (fun f hf => ?_) id
    change f ∈ (s.engine.handleConnect clock key.localAddr key.remoteAddr srcMac dstMac (.new rx tx key)
      response).out at hf
    rcases s.engine.handleConnect_cases clock key srcMac dstMac rx tx response with ⟨-, hcase⟩ | ⟨-, hcase⟩
    · rw [hcase] at hf
      cases hf
    · rw [hcase] at hf
      rw [List.mem_singleton.1 hf]
      exact ⟨rfl, rfl, rfl, rfl⟩
  | listen | write | read => exact iff_of_true (fun f hf => absurd hf List.not_mem_nil) id
  | accept addr response =>
    refine iff_of_true (fun f hf => ?_) id
    change f ∈ (s.engine.handleAccept addr response).out at hf
    unfold TcpEngine.handleAccept at hf
    split at hf
    · split at hf <;> cases hf
    · cases hf
  | shutdown clock key how => exact iff_of_true (fun f hf => hkey (.shutdown clock how) (fun _ => rfl) hf) id
  | close clock key linger => exact iff_of_true (fun f hf => hkey (.close clock linger) (fun _ => rfl) hf) id
  | setOption clock key option => exact iff_of_true (fun f hf => hkey (.setOption option) (fun _ => rfl) hf) id

/-- **Frames go to the right station.** In every state that an engine reaches, the frames of an event have the addresses
and MACs they should have, those of a connection that a SYN opened the SYN's MACs swapped, exactly if the event is not a
SYN that is refused. -/
theorem addressed_iff (isnGen : IsnGenerator) (cfg : EngineConfig) (evs : List EngineEvent) (ev : EngineEvent) :
    let s := (run Traced.step ⟨.new isnGen cfg, fun _ => none⟩ evs).1
    ((∀ f ∈ (s.step ev).2, Addressed s f ev) ↔ ¬Refuses s.engine ev) := by
  have hinit : Traced.Stationed ⟨.new isnGen cfg, fun _ => none⟩ := fun _ _ ht => by cases ht
  exact addressed_iff_of_stationed (run_invariant (I := fun (s : Traced) _ => s.Stationed)
    (fun _ _ ev _ h => h.step ev) evs _ [] (along_true _ _) hinit) ev

/-- A SYN to a port on which nobody listens is answered with a reset from and to the zero MAC. -/
theorem refused_syn_misaddressed : ∃ ev : EngineEvent, ∃ f ∈ (Traced.step ⟨sampleBoot, fun _ => none⟩ ev).2,
    ¬Addressed ⟨sampleBoot, fun _ => none⟩ f ev := by
  refine ⟨.segment 1 { sampleSynAck 7 with flags := .syn } (Vector.replicate 6 2) (Vector.replicate 6 1), _,
    List.mem_singleton_self _, ?_⟩
  rw [Addressed]
  split
  · decide
  · next hsome => exact absurd rfl hsome

end DpdkStdlib.Tcp

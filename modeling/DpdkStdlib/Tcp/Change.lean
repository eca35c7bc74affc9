import DpdkStdlib.Tcp.Projection

/-!
# Events of an engine as atomic changes

An event of the engine is a sequence of atomic changes: a tick is one call on each TCB, every other event is at most one
change.
-/

namespace DpdkStdlib.Tcp
open DpdkStdlib.Lib

variable {e : TcpEngine} {ev : EngineEvent} {key : FourTuple} {t : Tcb}

/-- What an event is to the connection of a key that has one. -/
def EngineEvent.atKey (key : FourTuple) : EngineEvent → Option ConnEvent
  | .segment clock seg _ _ => if key = ⟨seg.dst, seg.src⟩ then some (.segment clock seg) else none
  | .tick now clock => some (.tick now clock)
  | .shutdown clock k how => if key = k then some (.shutdown clock how) else none
  | .close clock k linger => if key = k then some (.close clock linger) else none
  | .setOption _ k option => if key = k then some (.setOption option) else none
  | .write k data => if key = k then some (.write data) else none
  | .read k n => if key = k then some (.read n) else none
  | .connect .. | .listen .. | .accept .. => none

/-- The SYN finds a listener with room for it, and room for a TCB. -/
structure Admits (e : TcpEngine) (seg : ParsedTcpSegment) (addr : SocketAddr) (l : ListenState) : Prop where
  unknown : e.tcbs.get? ⟨seg.dst, seg.src⟩ = none
  syn : seg.flags.contains .syn = true
  notAck : seg.flags.contains .ack = false
  notRst : seg.flags.contains .rst = false
  listener : e.listenerFor seg.dst = some (addr, l)
  backlog : e.embryonic seg.dst + l.completed.length < l.backlog
  room : e.tcbs.size < e.config.maxTcbs

/-- The atomic changes of which an event of the engine consists. -/
inductive Change (ev : EngineEvent) (e : TcpEngine) : TcpEngine → List Response → Prop
  | call (key : FourTuple) (t : Tcb) (cev : ConnEvent) (hev : ev.atKey key = some cev)
      (ht : e.tcbs.get? key = some t) :
      Change ev e (e.applyEffect key (callTcb e.config cev t)).engine (e.applyEffect key (callTcb e.config cev t)).sent
  | gone (key : FourTuple) (h : ConnectionHandle) (cev : ConnEvent) (hev : ev.atKey key = some cev)
      (ht : e.tcbs.get? key = none) (hh : e.closed.get? key = some h) :
      Change ev e { e with closed := e.closed.insert key (cev.onHandle h) } []
  | full (clock : Instant) (key : FourTuple) (srcMac dstMac : MacAddr) (rx tx : Nat) (response : Channel)
      (hev : ev = .connect clock key srcMac dstMac rx tx response) (hfull : e.config.maxTcbs ≤ e.tcbs.size) :
      Change ev e e [.connect response (.error (.resourceLimit "max TCBs exceeded"))]
  | connects (clock : Instant) (key : FourTuple) (srcMac dstMac : MacAddr) (rx tx : Nat) (response : Channel)
      (hev : ev = .connect clock key srcMac dstMac rx tx response) (hroom : e.tcbs.size < e.config.maxTcbs) :
      Change ev e
        { e.insertTcb key ((e.activeOpen clock key srcMac dstMac rx tx).tcb e.config) with
          pendingConnects := e.pendingConnects.insert key response } []
  | admits (clock : Instant) (seg : ParsedTcpSegment) (srcMac dstMac : MacAddr) (addr : SocketAddr) (l : ListenState)
      (hev : ev = .segment clock seg srcMac dstMac) (hadmits : Admits e seg addr l) :
      Change ev e (e.insertTcb ⟨seg.dst, seg.src⟩ ((e.passiveOpen clock seg srcMac dstMac).tcb e.config)) []
  | listens (addr : SocketAddr) (backlog : Nat) (response : Channel) (hev : ev = .listen addr backlog response) :
      Change ev e (e.handleListen addr backlog response).engine (e.handleListen addr backlog response).sent
  | accepts (addr : SocketAddr) (response : Channel) (hev : ev = .accept addr response) :
      Change ev e (e.handleAccept addr response).engine (e.handleAccept addr response).sent

/-- A sequence of changes of one event, each from an engine that meets `good`. -/
inductive Changes (good : TcpEngine → EngineEvent → Prop) (ev : EngineEvent) :
    TcpEngine → TcpEngine → List Response → Prop
  | refl (e : TcpEngine) : Changes good ev e e []
  | tail {e e' e'' : TcpEngine} {rs rs' : List Response} (h : Changes good ev e e' rs) (hgood : good e' ev)
      (hstep : Change ev e' e'' rs') : Changes good ev e e'' (rs ++ rs')

section changes
variable {good : TcpEngine → EngineEvent → Prop} {ev : EngineEvent} {e e' e'' : TcpEngine} {rs rs' : List Response}

theorem Change.single (h : Change ev e e' rs) (hgood : good e ev) : Changes good ev e e' rs :=
  (Changes.refl e).tail hgood h

theorem Changes.trans (h : Changes good ev e e' rs) (h' : Changes good ev e' e'' rs') :
    Changes good ev e e'' (rs ++ rs') := by
  induction h' with
  | refl => rwa [List.append_nil]
  | tail _ hgood hstep ih => rw [← List.append_assoc]; exact ih.tail hgood hstep

end changes

namespace TcpEngine
variable {good : TcpEngine → EngineEvent → Prop}

/-! ## Ticks -/

section tick
variable {now clock : Instant} (htick : ∀ e, good e (.tick now clock))
include htick

theorem changes_expireKey (e : TcpEngine) (key : FourTuple) :
    Changes good (.tick now clock) e (expireKey now e key) [] := by
  unfold expireKey
  cases ht : e.tcbs.get? key with
  | none => exact .refl e
  | some t =>
    dsimp only
    split_ifs with hexp
    · have heff : callTcb e.config (.tick now clock) t =
          { outcome := .removed ((t.handle.setState .closed).setEof) } := by
        rw [callTcb, onTickTcb, if_pos hexp]
      have hcall : Change (.tick now clock) e _ _ := .call key t (.tick now clock) rfl ht
      rw [heff] at hcall
      exact hcall.single (htick e)
    · exact .refl e

theorem changes_foldl_expireKey (ks : List FourTuple) : ∀ e : TcpEngine,
    Changes good (.tick now clock) e (ks.foldl (expireKey now) e) [] := by
  induction ks with
  | nil => exact fun e => .refl e
  | cons key ks ih => exact fun e => (changes_expireKey htick e key).trans (ih _)

theorem changes_foldl_tickKey (ks : List FourTuple) : ∀ r : CallResult, ks.Nodup →
    (∀ k ∈ ks, ∀ t, r.engine.tcbs.get? k = some t → expired now t = false) →
    ∃ rs, (ks.foldl (tickKey now clock) r).sent = r.sent ++ rs ∧
      Changes good (.tick now clock) r.engine (ks.foldl (tickKey now clock) r).engine rs := by
  induction ks with
  | nil => exact fun r _ _ => ⟨[], (List.append_nil _).symm, .refl _⟩
  | cons key ks ih =>
    intro r hnd hlive
    rw [List.nodup_cons] at hnd
    have hrest : ∀ k ∈ ks, ∀ t, (tickKey now clock r key).engine.tcbs.get? k = some t → expired now t = false := by
      intro k hk t ht
      have hne : k ≠ key := fun h => hnd.1 (h ▸ hk)
      rw [(tickKey_ne now clock r hne).2] at ht
      exact hlive k (List.mem_cons_of_mem _ hk) t ht
    have hfirst : Changes good (.tick now clock) r.engine (tickKey now clock r key).engine
        (r.engine.onKey key (tickTcb r.engine.config now clock)).sent := by
      change Changes good _ _ (r.engine.onKey key _).engine _
      cases ht : r.engine.tcbs.get? key with
      | none => rw [onKey_of_none ht]; exact .refl _
      | some t =>
        have hexp := hlive key List.mem_cons_self t ht
        have heff : callTcb r.engine.config (.tick now clock) t = tickTcb r.engine.config now clock t := by
          rw [callTcb, onTickTcb, if_neg (by rw [hexp]; exact Bool.false_ne_true)]
        have hcall : Change (.tick now clock) r.engine _ _ := .call key t (.tick now clock) rfl ht
        rw [heff] at hcall
        rw [onKey_of_get? ht]
        exact hcall.single (htick _)
    obtain ⟨rs, hsent, hsecond⟩ := ih (tickKey now clock r key) hnd.2 hrest
    refine ⟨_ ++ rs, ?_, hfirst.trans hsecond⟩
    rw [List.foldl_cons, hsent]
    exact List.append_assoc _ _ _

/-- A tick is a series of changes. -/
theorem changes_onTick (e : TcpEngine) :
    Changes good (.tick now clock) e (e.onTick now clock).engine (e.onTick now clock).sent := by
  have hfirst := changes_foldl_expireKey htick e.tcbs.keys e
  have hlive (k : FourTuple) (t : Tcb) (h : (e.tcbs.keys.foldl (expireKey now) e).tcbs.get? k = some t) :=
    (live_foldl_expireKey h).2
  unfold onTick
  dsimp only
  generalize e.tcbs.keys.foldl (expireKey now) e = e1 at hfirst hlive ⊢
  obtain ⟨rs, hsent, hsecond⟩ := changes_foldl_tickKey htick e1.tcbs.keys { engine := e1 } e1.tcbs.nodup
    fun k _ t ht => hlive k t ht
  rw [hsent]
  exact hfirst.trans hsecond

end tick

/-! ## The other events -/

theorem changes_onKey (hgood : good e ev) (cev : ConnEvent) {f : Tcb → Effect} (hev : ev.atKey key = some cev)
    (hf : ∀ t, callTcb e.config cev t = f t) : Changes good ev e (e.onKey key f).engine (e.onKey key f).sent := by
  cases ht : e.tcbs.get? key with
  | none => rw [onKey_of_none ht]; exact .refl e
  | some t =>
    rw [onKey_of_get? ht, ← hf t]
    exact (Change.call key t cev hev ht).single hgood

theorem segment_of_none (clock : Instant) {seg : ParsedTcpSegment} (ht : e.tcbs.get? ⟨seg.dst, seg.src⟩ = none)
    (srcMac dstMac : MacAddr) :
    (e.onSegmentWithMacs clock seg srcMac dstMac).sent = [] ∧
      ((e.onSegmentWithMacs clock seg srcMac dstMac).engine = e ∨ ∃ addr l, Admits e seg addr l ∧
        (e.onSegmentWithMacs clock seg srcMac dstMac).engine =
          e.insertTcb ⟨seg.dst, seg.src⟩ ((e.passiveOpen clock seg srcMac dstMac).tcb e.config)) := by
  have hc : e.tcbs.contains ⟨seg.dst, seg.src⟩ = false := by simp [AssocMap.contains, ht]
  unfold onSegmentWithMacs
  dsimp only
  split_ifs with hrst hcon hsyn
  · rw [onKey_of_none ht]
    exact ⟨rfl, Or.inl rfl⟩
  · rw [hc] at hcon
    cases hcon
  · simp only [Bool.and_eq_true, Bool.not_eq_true', Bool.not_eq_true] at hsyn hrst
    unfold handleSynWithMacs
    cases hl : e.listenerFor seg.dst with
    | none => exact ⟨rfl, Or.inl rfl⟩
    | some al =>
      dsimp only
      split_ifs with hbacklog hroom
      · exact ⟨rfl, Or.inl rfl⟩
      · exact ⟨rfl, Or.inl rfl⟩
      · exact ⟨rfl, Or.inr ⟨al.1, al.2,
          ⟨ht, hsyn.1, hsyn.2, hrst, hl, Nat.lt_of_not_le hbacklog, Nat.lt_of_not_le hroom⟩, rfl⟩⟩
  · exact ⟨rfl, Or.inl rfl⟩

/-- A segment is a series of changes. -/
theorem changes_segment {clock : Instant} {seg : ParsedTcpSegment} {srcMac dstMac : MacAddr}
    (hgood : good e (.segment clock seg srcMac dstMac)) :
    Changes good (.segment clock seg srcMac dstMac) e (e.onSegmentWithMacs clock seg srcMac dstMac).engine
      (e.onSegmentWithMacs clock seg srcMac dstMac).sent := by
  cases ht : e.tcbs.get? ⟨seg.dst, seg.src⟩ with
  | some t =>
    have hev : (EngineEvent.segment clock seg srcMac dstMac).atKey ⟨seg.dst, seg.src⟩ = some (.segment clock seg) :=
      if_pos rfl
    rw [onSegmentWithMacs_of_get? ht]
    exact (Change.call ⟨seg.dst, seg.src⟩ t (.segment clock seg) hev ht).single hgood
  | none =>
    obtain ⟨hsent, hsame | ⟨addr, l, hadmits, hnew⟩⟩ := segment_of_none clock ht srcMac dstMac
    · rw [hsent, hsame]
      exact .refl e
    · rw [hsent, hnew]
      exact (Change.admits clock seg srcMac dstMac addr l rfl hadmits).single hgood

theorem changes_updateHandle (hgood : good e ev) (cev : ConnEvent) {f : ConnectionHandle → ConnectionHandle}
    (hev : ev.atKey key = some cev)
    (hlive : ∀ t, callTcb e.config cev t = .keep ({ t with handle := f t.handle }, []))
    (hgone : ∀ h, cev.onHandle h = f h) : Changes good ev e (e.updateHandle key f) [] := by
  unfold updateHandle
  cases ht : e.tcbs.get? key with
  | some t =>
    have hcall : Change ev e _ _ := .call key t cev hev ht
    rw [hlive] at hcall
    exact hcall.single hgood
  | none =>
    cases hh : e.closed.get? key with
    | none => exact .refl e
    | some h =>
      have hcall : Change ev e _ _ := .gone key h cev hev ht hh
      rw [hgone] at hcall
      exact hcall.single hgood

/-- **Every event is a sequence of atomic changes.** -/
theorem changes_engineStep (hgood : good e ev) (htick : ∀ e now clock, good e (.tick now clock)) :
    Changes good ev e (engineStep e ev).engine (engineStep e ev).sent := by
  cases ev with
  | segment clock seg srcMac dstMac => exact changes_segment hgood
  | tick now clock => exact changes_onTick (htick · now clock) e
  | connect clock key srcMac dstMac rx tx response =>
    change Changes good _ e
      (e.handleConnect clock key.localAddr key.remoteAddr srcMac dstMac (.new rx tx key) response).engine
      (e.handleConnect clock key.localAddr key.remoteAddr srcMac dstMac (.new rx tx key) response).sent
    rcases e.handleConnect_cases clock key srcMac dstMac rx tx response with ⟨hfull, h⟩ | ⟨hroom, h⟩
    · rw [h]
      exact (Change.full clock key srcMac dstMac rx tx response rfl hfull).single hgood
    · rw [h]
      exact (Change.connects clock key srcMac dstMac rx tx response rfl hroom).single hgood
  | listen addr backlog response => exact (Change.listens addr backlog response rfl).single hgood
  | accept addr response => exact (Change.accepts addr response rfl).single hgood
  | shutdown clock key how => exact changes_onKey hgood (.shutdown clock how) (if_pos rfl) fun _ => rfl
  | close clock key linger => exact changes_onKey hgood (.close clock linger) (if_pos rfl) fun _ => rfl
  | setOption clock key option => exact changes_onKey hgood (.setOption option) (if_pos rfl) fun _ => rfl
  | write key data => exact changes_updateHandle hgood (.write data) (if_pos rfl) (fun _ => rfl) fun _ => rfl
  | read key n => exact changes_updateHandle hgood (.read n) (if_pos rfl) (fun _ => rfl) fun _ => rfl

theorem changes_any (e : TcpEngine) (ev : EngineEvent) :
    Changes (fun _ _ => True) ev e (engineStep e ev).engine (engineStep e ev).sent :=
  changes_engineStep trivial fun _ _ _ => trivial

end TcpEngine

/-! ## Runs -/

def answerStep (e : TcpEngine) (ev : EngineEvent) : TcpEngine × List Response :=
  ((engineStep e ev).engine, (engineStep e ev).sent)

theorem run_answerStep (e : TcpEngine) (evs : List EngineEvent) : (run answerStep e evs).1 = engineRun e evs := by
  induction evs generalizing e with
  | nil => rfl
  | cons ev evs ih => exact ih _

section invariant
variable {good : TcpEngine → EngineEvent → Prop} {I : TcpEngine → Prop}
  (htick : ∀ e now clock, good e (.tick now clock))
  (hchange : ∀ ev e e' rs, good e ev → Change ev e e' rs → I e → I e')
include htick hchange

/-- What every change keeps, every event keeps. -/
theorem keeps_engineStep (hgood : good e ev) (hI : I e) : I (engineStep e ev).engine := by
  have hchanges := TcpEngine.changes_engineStep hgood htick
  generalize (engineStep e ev).engine = e', (engineStep e ev).sent = rs at hchanges
  induction hchanges with
  | refl => exact hI
  | tail _ hgood hstep ih => exact hchange _ _ _ _ hgood hstep ih

/-- **The invariant rule of the engine.** What every atomic change keeps, every run keeps.  The condition is one on
events other than ticks. -/
theorem engine_invariant {evs : List EngineEvent} (hgood : Along good answerStep e evs) (hI : I e) :
    I (engineRun e evs) := by
  rw [← run_answerStep]
  refine run_invariant (I := fun e _ => I e) (fun e _ ev hev hI => ?_) evs e [] hgood hI
  exact keeps_engineStep htick hchange hev hI

end invariant

/-! ## One connection -/

/-- A connect with this key, and room for its TCB. -/
def EngineEvent.Opens (key : FourTuple) (e : TcpEngine) : EngineEvent → Prop
  | .connect _ k .. => key = k ∧ e.tcbs.size < e.config.maxTcbs
  | _ => False

/-- What is left of a TCB after an event that may concern it. -/
def EngineEvent.leaves (cfg : EngineConfig) (key : FourTuple) (t : Tcb) (ev : EngineEvent) : Outcome :=
  (ev.atKey key).elim (.live t) fun cev => (callTcb cfg cev t).outcome

namespace TcpEngine

theorem view_onKey_of_get? {k : FourTuple} (ht : e.tcbs.get? key = some t) (cev : ConnEvent) {f : Tcb → Effect}
    (hf : callTcb e.config cev t = f t) :
    (e.onKey k f).engine.view key =
      some ((if key = k then some cev else none).elim (.live t) fun cev => (callTcb e.config cev t).outcome) := by
  split_ifs with hk
  · subst hk
    rw [view_onKey_self ht, Option.elim_some, hf]
  · rw [view_onKey_ne e hk, (view_eq_live_iff e key t).2 ht]
    rfl

theorem view_updateHandle_of_get? {k : FourTuple} (ht : e.tcbs.get? key = some t) (cev : ConnEvent)
    {f : ConnectionHandle → ConnectionHandle}
    (hf : (callTcb e.config cev t).outcome = .live { t with handle := f t.handle }) :
    (e.updateHandle k f).view key =
      some ((if key = k then some cev else none).elim (.live t) fun cev => (callTcb e.config cev t).outcome) := by
  split_ifs with hk
  · subst hk
    rw [Option.elim_some, hf, updateHandle, ht]
    simp [view]
  · rw [view_updateHandle_ne e hk, (view_eq_live_iff e key t).2 ht]
    rfl

/-- **One event, one TCB**: unless the event opens the connection of the key anew, it is an event of the TCB or leaves
it. -/
theorem view_engineStep_of_get? (ht : e.tcbs.get? key = some t) (hopens : ¬ev.Opens key e) :
    (engineStep e ev).engine.view key = some (ev.leaves e.config key t) := by
  have hsame : e.view key = some (.live t) := (view_eq_live_iff e key t).2 ht
  cases ev with
  | segment clock seg srcMac dstMac =>
    unfold EngineEvent.leaves EngineEvent.atKey engineStep
    dsimp only
    split_ifs with hk
    · subst hk
      exact (view_onSegment clock ht srcMac dstMac).1
    · rw [view_onSegment_ne e clock seg srcMac dstMac hk]
      exact hsame
  | tick now clock => exact view_onTick now clock ht
  | connect clock k srcMac dstMac rx tx response =>
    change (e.handleConnect clock k.localAddr k.remoteAddr srcMac dstMac (.new rx tx k) response).engine.view key = _
    rcases e.handleConnect_cases clock k srcMac dstMac rx tx response with ⟨-, h⟩ | ⟨hroom, h⟩
    · rw [h]
      exact hsame
    · rw [h]
      exact (view_insertTcb_ne e (fun hk => hopens ⟨hk, hroom⟩) _).trans hsame
  | listen addr backlog response => exact hsame
  | accept addr response =>
    obtain ⟨h1, h2, -⟩ := handleAccept_same e addr response
    exact (view_congr h1 h2 key).trans hsame
  | shutdown clock k how => exact view_onKey_of_get? ht (.shutdown clock how) rfl
  | close clock k linger => exact view_onKey_of_get? ht (.close clock linger) rfl
  | setOption clock k option => exact view_onKey_of_get? ht (.setOption option) rfl
  | write k data => exact view_updateHandle_of_get? ht (.write data) rfl
  | read k n => exact view_updateHandle_of_get? ht (.read n) rfl

end TcpEngine

end DpdkStdlib.Tcp

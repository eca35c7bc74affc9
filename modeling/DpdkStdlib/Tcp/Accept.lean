import DpdkStdlib.Lib.Rendezvous
import DpdkStdlib.Tcp.Change

/-!
# Accept requests and completed connections

A listener keeps the connections whose passive handshake is complete and the accept requests that found none.  Each side
takes the entry pushed last (`Vec::pop`), so the two queues are a rendezvous of its kind.
-/

namespace DpdkStdlib.Tcp
open DpdkStdlib.Lib

variable {e : TcpEngine} {addr : SocketAddr} {ev : EngineEvent} {l : ListenState} {s : Rendezvous FourTuple Channel}

/-! ## Arrivals -/

/-- The segment completes the passive open of the TCB. -/
def Tcb.completes (clock : Instant) (seg : ParsedTcpSegment) (t : Tcb) : Bool :=
  t.state == .synReceived && match (segmentTcb clock seg t).outcome with
    | .live t' => t'.state == .established
    | .removed _ => false

/-- What an event brings to the listener of an address. -/
def EngineEvent.arrival? (addr : SocketAddr) (e : TcpEngine) : EngineEvent → Option (Arrival FourTuple Channel)
  | .accept a response => if a = addr then some (.ask response) else none
  | .segment clock seg _ _ => match e.tcbs.get? ⟨seg.dst, seg.src⟩ with
    | some t =>
      if t.completes clock seg = true ∧ (e.listenerFor seg.dst).map Prod.fst = some addr then
        some (.offer ⟨seg.dst, seg.src⟩)
      else none
    | none => none
  | _ => none

/-- The request and the connection of a response that hands one out. -/
def Response.handed? : Response → Option (Channel × FourTuple)
  | .accept ch (.ok key) => some (ch, key)
  | _ => none

/-- The accept requests that an event of the engine serves, with their connections. -/
def served (addr : SocketAddr) (e : TcpEngine) (ev : EngineEvent) : List (Channel × FourTuple) :=
  if (ev.arrival? addr e).isSome then (engineStep e ev).sent.filterMap Response.handed? else []

/-- The event opens a listener on the address, in place of one that is there. -/
def EngineEvent.listensOn (addr : SocketAddr) : EngineEvent → Bool
  | .listen a .. => a == addr
  | _ => false

def arriveStep (addr : SocketAddr) (e : TcpEngine) (ev : EngineEvent) : TcpEngine × List (Arrival FourTuple Channel) :=
  ((engineStep e ev).engine, (ev.arrival? addr e).toList)

def serveStep (addr : SocketAddr) (e : TcpEngine) (ev : EngineEvent) : TcpEngine × List (Channel × FourTuple) :=
  ((engineStep e ev).engine, served addr e ev)

def asked (addr : SocketAddr) (e : TcpEngine) (evs : List EngineEvent) : List Channel :=
  (run (arriveStep addr) e evs).2.filterMap Arrival.ask?

def completed (addr : SocketAddr) (e : TcpEngine) (evs : List EngineEvent) : List FourTuple :=
  (run (arriveStep addr) e evs).2.filterMap Arrival.offer?

def listening (isnGen : IsnGenerator) (cfg : EngineConfig) (before : List EngineEvent) (addr : SocketAddr)
    (backlog : Nat) (response : Channel) : TcpEngine :=
  engineRun (.new isnGen cfg) (before ++ [.listen addr backlog response])

/-- The two queues of a listener. -/
def ListenState.queues (l : ListenState) : Rendezvous FourTuple Channel := ⟨l.completed, l.acceptQueue⟩

def ListenState.withQueues (l : ListenState) (s : Rendezvous FourTuple Channel) : ListenState :=
  { l with completed := s.offers, acceptQueue := s.asks }

/-- An accept request finds at most one connection waiting, and a connection at most one request. -/
def CalmAt (addr : SocketAddr) (e : TcpEngine) (ev : EngineEvent) : Prop :=
  ∀ l ∈ e.listeners.get? addr, ∀ a ∈ ev.arrival? addr e, l.queues.Calm a

/-! ## One call -/

theorem signal_segmentTcb (clock : Instant) (seg : ParsedTcpSegment) (t : Tcb) :
    (segmentTcb clock seg t).signal = .accepted ↔ t.completes clock seg = true := by
  unfold Tcb.completes
  generalize heff : segmentTcb clock seg t = eff
  cases segmentTcb_cases heff with
  | accepted hst => simp [hst, acceptedTcb, Tcb.setState]
  | ignored => cases hst : t.state <;> simp [Effect.keep, hst]
  | embryoReset => simp
  | reset hst | challenged hst =>
    have hne : t.state ≠ .synReceived := by rintro h; rw [h] at hst; cases hst
    simp [Effect.keep, hne]
  | refused hst | synAcked hst | established hst | finWait1Both hst | finWait1Acked hst | finWait1Fin hst
    | finWait1Open hst | finWait2Fin hst | finWait2Data hst | closeWait hst | lastAcked hst | closingAcked hst
    | finAgain hst => simp [Effect.keep, hst]

theorem signal_call_ne {cev : ConnEvent} (h : cev.segment? = none) (cfg : EngineConfig) (t : Tcb) :
    (callTcb cfg cev t).signal ≠ .accepted := by
  cases cev with
  | segment => cases h
  | write | read | shutdown | setOption => intro h; cases h
  | tick now clock =>
    change (onTickTcb cfg now clock t).signal ≠ _
    generalize heff : onTickTcb cfg now clock t = eff
    cases onTickTcb_cases heff <;> intro h <;> cases h
  | close clock linger =>
    rw [callTcb, handleClose]
    split_ifs <;> intro h <;> cases h

def EngineEvent.concernsListeners : EngineEvent → Bool
  | .segment .. | .listen .. | .accept .. => true
  | _ => false

theorem segment?_of_atKey {key : FourTuple} {cev : ConnEvent} (hev : ev.concernsListeners = false)
    (h : ev.atKey key = some cev) : cev.segment? = none := by
  cases ev with
  | segment | listen | accept => cases hev
  | connect => cases h
  | tick => cases h; rfl
  | shutdown | close | setOption | write | read =>
    dsimp only [EngineEvent.atKey] at h
    split_ifs at h
    cases h
    rfl

namespace TcpEngine

theorem listeners_store (e : TcpEngine) (key : FourTuple) (s : Outcome) : (e.store key s).listeners = e.listeners := by
  cases s <;> rfl

theorem applyEffect_of_ne {eff : Effect} (h : eff.signal ≠ .accepted) (e : TcpEngine) (key : FourTuple) :
    (e.applyEffect key eff).engine.listeners = e.listeners ∧
      (e.applyEffect key eff).sent.filterMap Response.handed? = [] := by
  unfold applyEffect
  cases hs : eff.signal with
  | quiet => exact ⟨listeners_store e key _, rfl⟩
  | accepted => exact absurd hs h
  | connected r =>
    dsimp only [answerConnect]
    split <;> exact ⟨listeners_store e key _, rfl⟩

theorem get?_of_listenerFor {a : SocketAddr} (h : e.listenerFor a = some (addr, l)) :
    e.listeners.get? addr = some l := by
  unfold listenerFor at h
  split at h
  · next hl => cases h; exact hl
  · obtain ⟨l', hl, heq⟩ := Option.map_eq_some_iff.1 h
    cases heq
    exact hl

theorem listenerFor_congr {e' : TcpEngine} (h : e'.listeners = e.listeners) (a : SocketAddr) :
    e'.listenerFor a = e.listenerFor a := by
  rw [listenerFor, h]
  rfl

theorem deliverAccepted_at (e : TcpEngine) (key : FourTuple) (h : e.listenerFor key.localAddr = some (addr, l)) :
    (e.deliverAccepted key).engine.listeners =
        e.listeners.insert addr (l.withQueues (l.queues.step (.offer key)).1) ∧
      (e.deliverAccepted key).sent.filterMap Response.handed? = (l.queues.step (.offer key)).2 := by
  unfold deliverAccepted Rendezvous.step ListenState.queues ListenState.withQueues
  rw [h]
  dsimp only
  cases l.acceptQueue.getLast? <;> exact ⟨rfl, rfl⟩

theorem handleAccept_at (h : e.listeners.get? addr = some l) (response : Channel) :
    (e.handleAccept addr response).engine.listeners =
        e.listeners.insert addr (l.withQueues (l.queues.step (.ask response)).1) ∧
      (e.handleAccept addr response).sent.filterMap Response.handed? = (l.queues.step (.ask response)).2 := by
  unfold handleAccept Rendezvous.step ListenState.queues ListenState.withQueues
  rw [h]
  dsimp only
  cases l.completed.getLast? <;> exact ⟨rfl, rfl⟩

theorem listeners_changes {good : TcpEngine → EngineEvent → Prop} {e' : TcpEngine} {rs : List Response}
    (hev : ev.concernsListeners = false) (h : Changes good ev e e' rs) :
    e'.listeners = e.listeners ∧ rs.filterMap Response.handed? = [] := by
  induction h with
  | refl => exact ⟨rfl, rfl⟩
  | tail _ _ hstep ih =>
    rw [← ih.1, List.filterMap_append, ih.2, List.nil_append]
    cases hstep with
    | call key t cev hcev => exact applyEffect_of_ne (signal_call_ne (segment?_of_atKey hev hcev) _ t) _ key
    | gone | full | connects | admits => exact ⟨rfl, rfl⟩
    | listens _ _ _ h | accepts _ _ h =>
      rw [h] at hev
      cases hev

end TcpEngine

/-- The engine has a listener on the address, with these queues. -/
def ListensAs (addr : SocketAddr) (e : TcpEngine) (s : Rendezvous FourTuple Channel) : Prop :=
  ∃ l, e.listeners.get? addr = some l ∧ l.queues = s

theorem refines_of_none (hl : ListensAs addr e s) (hnone : ev.arrival? addr e = none)
    (hsame : (engineStep e ev).engine.listeners.get? addr = e.listeners.get? addr) :
    ListensAs addr (engineStep e ev).engine (run Rendezvous.step s (ev.arrival? addr e).toList).1 ∧
      served addr e ev = (run Rendezvous.step s (ev.arrival? addr e).toList).2 := by
  rw [served, hnone]
  unfold ListensAs
  rw [hsame]
  exact ⟨hl, rfl⟩

theorem refines_of_some {a : Arrival FourTuple Channel} (hsome : ev.arrival? addr e = some a)
    (hlisteners : (engineStep e ev).engine.listeners = e.listeners.insert addr (l.withQueues (l.queues.step a).1))
    (hsent : (engineStep e ev).sent.filterMap Response.handed? = (l.queues.step a).2) :
    ListensAs addr (engineStep e ev).engine (run Rendezvous.step l.queues (ev.arrival? addr e).toList).1 ∧
      served addr e ev = (run Rendezvous.step l.queues (ev.arrival? addr e).toList).2 := by
  rw [served, hsome]
  refine ⟨⟨l.withQueues (l.queues.step a).1, ?_, rfl⟩, ?_⟩
  · rw [hlisteners, AssocMap.get?_insert_self]
  · rw [if_pos (show (some a).isSome = true from rfl), hsent]
    exact (List.append_nil _).symm

theorem exists_deliverAccepted {clock : Instant} {seg : ParsedTcpSegment} {t : Tcb}
    (ht : e.tcbs.get? ⟨seg.dst, seg.src⟩ = some t) (hcomp : t.completes clock seg = true) (srcMac dstMac : MacAddr) :
    ∃ e₁ : TcpEngine, e₁.listeners = e.listeners ∧
      (engineStep e (.segment clock seg srcMac dstMac)).engine = (e₁.deliverAccepted ⟨seg.dst, seg.src⟩).engine ∧
      (engineStep e (.segment clock seg srcMac dstMac)).sent = (e₁.deliverAccepted ⟨seg.dst, seg.src⟩).sent := by
  have hengine : engineStep e (.segment clock seg srcMac dstMac) =
      e.applyEffect ⟨seg.dst, seg.src⟩ (segmentTcb clock seg t) := TcpEngine.onSegmentWithMacs_of_get? ht srcMac dstMac
  refine ⟨e.store ⟨seg.dst, seg.src⟩ (segmentTcb clock seg t).outcome, e.listeners_store _ _, ?_⟩
  rw [hengine, TcpEngine.applyEffect, (signal_segmentTcb clock seg t).2 hcomp]
  exact ⟨rfl, rfl⟩

/-- A segment does to the listener what the rendezvous does. -/
theorem refines_segment (hl : ListensAs addr e s) (clock : Instant) (seg : ParsedTcpSegment) (srcMac dstMac : MacAddr) :
    ListensAs addr (engineStep e (.segment clock seg srcMac dstMac)).engine
        (run Rendezvous.step s ((EngineEvent.segment clock seg srcMac dstMac).arrival? addr e).toList).1 ∧
      served addr e (.segment clock seg srcMac dstMac) =
        (run Rendezvous.step s ((EngineEvent.segment clock seg srcMac dstMac).arrival? addr e).toList).2 := by
  cases ht : e.tcbs.get? ⟨seg.dst, seg.src⟩ with
  | none =>
    refine refines_of_none hl (by simp only [EngineEvent.arrival?, ht]) ?_
    change (e.onSegmentWithMacs clock seg srcMac dstMac).engine.listeners.get? addr = _
    obtain ⟨-, h | ⟨_, _, -, h⟩⟩ := TcpEngine.segment_of_none clock ht srcMac dstMac <;> rw [h]
    rfl
  | some t =>
    by_cases hcomp : t.completes clock seg = true
    · obtain ⟨e₁, hlisteners, hengine, hsent⟩ := exists_deliverAccepted ht hcomp srcMac dstMac
      have hfor := TcpEngine.listenerFor_congr hlisteners seg.dst
      cases hlf : e.listenerFor seg.dst with
      | none =>
        refine refines_of_none hl (by simp [EngineEvent.arrival?, ht, hlf]) ?_
        rw [hengine, TcpEngine.deliverAccepted, hfor, hlf]
        dsimp only
        rw [hlisteners]
      | some al =>
        obtain ⟨hat, hhanded⟩ := e₁.deliverAccepted_at ⟨seg.dst, seg.src⟩ (hfor.trans hlf)
        rw [← hengine, hlisteners] at hat
        rw [← hsent] at hhanded
        by_cases haddr : al.1 = addr
        · obtain ⟨l, hget, rfl⟩ := hl
          have hal := TcpEngine.get?_of_listenerFor hlf
          rw [haddr, hget] at hal
          cases hal
          rw [haddr] at hat
          exact refines_of_some (by simp [EngineEvent.arrival?, ht, hlf, hcomp, haddr]) hat hhanded
        · refine refines_of_none hl (by simp [EngineEvent.arrival?, ht, hlf, haddr]) ?_
          rw [hat, AssocMap.get?_insert_ne _ _ (Ne.symm haddr)]
    · refine refines_of_none hl (by simp [EngineEvent.arrival?, ht, hcomp]) ?_
      change (e.onSegmentWithMacs clock seg srcMac dstMac).engine.listeners.get? addr = _
      rw [TcpEngine.onSegmentWithMacs_of_get? ht,
        (TcpEngine.applyEffect_of_ne (fun h => hcomp ((signal_segmentTcb clock seg t).1 h)) e _).1]

/-- **A step of the engine is one of the listener's rendezvous.** -/
theorem refines_engineStep (hl : ListensAs addr e s) (hev : ev.listensOn addr = false) :
    ListensAs addr (engineStep e ev).engine (run Rendezvous.step s (ev.arrival? addr e).toList).1 ∧
      served addr e ev = (run Rendezvous.step s (ev.arrival? addr e).toList).2 := by
  have hchanges := e.changes_any ev
  cases ev with
  | segment clock seg srcMac dstMac => exact refines_segment hl clock seg srcMac dstMac
  | accept a response =>
    by_cases ha : a = addr
    · subst ha
      obtain ⟨l, hget, rfl⟩ := hl
      obtain ⟨hat, hsent⟩ := TcpEngine.handleAccept_at hget response
      exact refines_of_some (if_pos rfl) hat hsent
    · refine refines_of_none hl (if_neg ha) ?_
      change (e.handleAccept a response).engine.listeners.get? addr = _
      cases hget : e.listeners.get? a with
      | none => rw [TcpEngine.handleAccept, hget]
      | some l =>
        rw [(TcpEngine.handleAccept_at hget response).1, AssocMap.get?_insert_ne _ _ (Ne.symm ha)]
  | listen a backlog response =>
    refine refines_of_none hl rfl (AssocMap.get?_insert_ne _ _ fun h => ?_)
    rw [EngineEvent.listensOn, h, beq_self_eq_true] at hev
    cases hev
  | tick | connect | shutdown | close | setOption | write | read =>
    refine refines_of_none hl rfl ?_
    rw [(TcpEngine.listeners_changes rfl hchanges).1]

/-! ## Runs -/

theorem calm_arrivals (hl : ListensAs addr e s) (hcalm : CalmAt addr e ev) :
    Along Rendezvous.Calm Rendezvous.step s (ev.arrival? addr e).toList := by
  obtain ⟨l, hget, rfl⟩ := hl
  cases ha : ev.arrival? addr e with
  | none => trivial
  | some a => exact ⟨hcalm l hget a ha, trivial⟩

/-- **First come, first served.** Until another listen command on the address, the listener hands out its connections in
the order they complete to the accept requests in the order they come, as long as no request finds two connections
waiting and no connection two requests. -/
theorem accepts_in_order (isnGen : IsnGenerator) (cfg : EngineConfig) (before : List EngineEvent) (addr : SocketAddr)
    (backlog : Nat) (response : Channel) (evs : List EngineEvent) (hone : ∀ ev ∈ evs, ev.listensOn addr = false)
    (hcalm : Along (CalmAt addr) answerStep (listening isnGen cfg before addr backlog response) evs) :
    ∃ l, (engineRun (listening isnGen cfg before addr backlog response) evs).listeners.get? addr = some l ∧
      l.queues.Apart ∧
      Rendezvous.InOrder (asked addr (listening isnGen cfg before addr backlog response) evs)
        (completed addr (listening isnGen cfg before addr backlog response) evs)
        (run (serveStep addr) (listening isnGen cfg before addr backlog response) evs).2 l.queues := by
  have hinit : ListensAs addr (listening isnGen cfg before addr backlog response) ⟨[], []⟩ := by
    rw [listening, engineRun, List.foldl_append]
    exact ⟨_, AssocMap.get?_insert_self _ _ _, rfl⟩
  generalize listening isnGen cfg before addr backlog response = e at hcalm hinit
  have halong : Along (fun e ev => ev.listensOn addr = false ∧ CalmAt addr e ev) (serveStep addr) e evs :=
    along_congr answerStep (serveStep addr) (fun _ _ => rfl)
      ((along_of_forall (p := fun ev => ev.listensOn addr = false) hone).and hcalm)
  obtain ⟨hgood, ⟨l, hget, hqueues⟩, hserved⟩ :=
    run_refines (fun e ev => (EngineEvent.arrival? addr e ev).toList) Rendezvous.Calm (ListensAs addr)
      (fun e s ev hev hl => ⟨calm_arrivals hl hev.2, refines_engineStep hl hev.1⟩) evs e ⟨[], []⟩ halong hinit
  have horder := Rendezvous.inOrder_run _ _ (Or.inl rfl) hgood
  rw [← hserved, ← hqueues] at horder
  have hrun : (run (serveStep addr) e evs).1 = engineRun e evs := by
    rw [← run_answerStep]
    exact run_congr answerStep (serveStep addr) (fun _ _ => rfl) e evs
  exact ⟨l, hrun ▸ hget, horder.apart, horder⟩

instance (addr : SocketAddr) (e : TcpEngine) (ev : EngineEvent) : Decidable (CalmAt addr e ev) :=
  have hcalm (l : ListenState) (a : Arrival FourTuple Channel) : Decidable (l.queues.Calm a) := by
    cases a <;> exact inferInstanceAs (Decidable (_ ≤ _))
  inferInstanceAs (Decidable (∀ l ∈ _, ∀ a ∈ _, _))

def sampleServer : SocketAddr := .v4 ⟨10, 0, 0, 1⟩ 80

def sampleClient (port : UInt16) : FourTuple := ⟨sampleServer, .v4 ⟨10, 0, 0, 2⟩ port⟩

def fromClient (port : UInt16) (seq ack : BitVec 32) (flags : TcpFlags) : EngineEvent :=
  .segment 1 { fromPeer seq ack flags 1000 [] with src := (sampleClient port).remoteAddr, dst := sampleServer }
    (Vector.replicate 6 2) (Vector.replicate 6 1)

def clientSyn (port : UInt16) : EngineEvent := fromClient port 7000 0 .syn

def clientAck (port : UInt16) : EngineEvent := fromClient port 7001 101 .ack

def sampleListening : TcpEngine := listening { hash := fun _ => 100, bootInstant := 0 } {} [] sampleServer 5 0

def sampleTurns : List EngineEvent :=
  [clientSyn 4000, clientAck 4000, .accept sampleServer 1, .accept sampleServer 2, clientSyn 4001, clientAck 4001]

theorem accepts_in_order_sample :
    asked sampleServer sampleListening sampleTurns = [1, 2] ∧
      completed sampleServer sampleListening sampleTurns = [sampleClient 4000, sampleClient 4001] ∧
      ∃ l, (engineRun sampleListening sampleTurns).listeners.get? sampleServer = some l ∧ l.queues.Apart ∧
        Rendezvous.InOrder (asked sampleServer sampleListening sampleTurns)
          (completed sampleServer sampleListening sampleTurns)
          (run (serveStep sampleServer) sampleListening sampleTurns).2 l.queues :=
  ⟨by decide +kernel, by decide +kernel,
    accepts_in_order { hash := fun _ => 100, bootInstant := 0 } {} [] sampleServer 5 0 sampleTurns (by decide +kernel)
      (by decide +kernel)⟩

def sampleQueue : List EngineEvent :=
  [clientSyn 4000, clientSyn 4001, clientAck 4000, clientAck 4001, .accept sampleServer 1, .accept sampleServer 2]

/-- The first request gets the connection that completed last. -/
theorem accept_takes_last :
    asked sampleServer sampleListening sampleQueue = [1, 2] ∧
      completed sampleServer sampleListening sampleQueue = [sampleClient 4000, sampleClient 4001] ∧
      (run (serveStep sampleServer) sampleListening sampleQueue).2 = [(1, sampleClient 4001), (2, sampleClient 4000)] ∧
      (run (serveStep sampleServer) sampleListening sampleQueue).2 ≠
        (asked sampleServer sampleListening sampleQueue).zip (completed sampleServer sampleListening sampleQueue) := by
  refine ⟨by decide +kernel, by decide +kernel, by decide +kernel, by decide +kernel⟩

end DpdkStdlib.Tcp

import DpdkStdlib.Udp.Address
import DpdkStdlib.Udp.Account

/-!
# What a socket reports about its traffic (`lib.rs`)

Receiving leaves two things behind besides the datagrams: the errors that ICMP reports, and the statistics of the
connection.
-/

namespace DpdkStdlib.Udp
open DpdkStdlib.Lib

variable {cfg : SocketConfig} {n : Nat} {st : SocketState} {p : Poll}

/-! ## Errors -/

/-- The error that the frame makes a socket queue; the state of the socket does not matter. -/
def errorOf (cfg : SocketConfig) (frame : RxFrame) : Option IoError := (dispatch cfg false ⟨frame, 0⟩).error

theorem error_plainEffect (onlyV6 : Bool) (a : Arrival) : (plainEffect cfg onlyV6 a).error = none := by
  have h6 : (udp6Effect cfg a).error = none := by
    unfold udp6Effect
    split
    · rfl
    · split_ifs <;> rfl
  unfold plainEffect
  split_ifs
  · exact h6
  · split
    · unfold udpEffect
      split_ifs <;> rfl
    · exact h6

theorem error_dispatch (onlyV6 : Bool) (frame : RxFrame) (connects : Nat) :
    (dispatch cfg onlyV6 ⟨frame, connects⟩).error = errorOf cfg frame := by
  rw [errorOf]
  unfold dispatch
  dsimp only
  cases layoutOf frame.data frame.hwVlanTci with
  | none => rfl
  | some layout =>
    dsimp only
    split_ifs
    all_goals try rfl
    cases cfg.decapsulate layout frame.data with
    | some decap => rfl
    | none => exact (error_plainEffect _ _).trans (error_plainEffect _ _).symm

theorem error_resolveEffect (a : Arrival) : (resolveEffect cfg a).error = none := by
  unfold resolveEffect
  split_ifs
  all_goals try rfl
  split <;> rfl

/-- The queue of errors with its flag: never more than sixteen, and the flag tells whether there are any. -/
def Pending (pending : List IoError × Bool) : Prop :=
  pending.1.length ≤ 16 ∧ (pending.2 = true ↔ pending.1 ≠ [])

theorem foldl_pushError_sublist (errors : List IoError) : ∀ {pending : List IoError × Bool}, Pending pending →
    Pending (errors.foldl pushError pending) ∧
      ∃ kept, kept.Sublist errors ∧ (errors.foldl pushError pending).1 = pending.1 ++ kept := by
  induction errors with
  | nil => exact fun h => ⟨h, [], List.nil_sublist _, (List.append_nil _).symm⟩
  | cons error errors ih =>
    intro pending h
    rw [List.foldl_cons, pushError]
    split_ifs with hroom
    · have hpush : Pending (pending.1 ++ [error], true) := ⟨by rw [List.length_append]; exact hroom, by simp⟩
      obtain ⟨hpending, kept, hkept, heq⟩ := ih hpush
      exact ⟨hpending, error :: kept, hkept.cons_cons error, by rw [heq, List.append_assoc]; rfl⟩
    · obtain ⟨hpending, kept, hkept, heq⟩ := ih h
      exact ⟨hpending, kept, hkept.cons error, heq⟩

theorem takeError_pending (h : Pending st.pendingErrors) : Pending st.takeError.2.pendingErrors ∧
    st.takeError.1 = st.errorQueue.head? ∧ st.takeError.2.errorQueue = st.errorQueue.tail := by
  obtain ⟨hlen, hflag⟩ := h
  dsimp only [SocketState.pendingErrors] at hlen hflag
  unfold SocketState.takeError
  split_ifs with hset
  · refine ⟨⟨?_, ?_⟩, rfl, rfl⟩
    · dsimp only [SocketState.pendingErrors]
      rw [List.length_tail]
      omega
    · dsimp only [SocketState.pendingErrors]
      cases st.errorQueue.tail with
      | nil => simp
      | cons => simp [hset]
  · have hempty : st.errorQueue = [] := by
      by_contra hne
      exact hset (hflag.2 hne)
    refine ⟨⟨hlen, hflag⟩, ?_, ?_⟩ <;> rw [hempty] <;> rfl

/-! ## What a call reports -/

/-- A call on a socket in the state `st` has met these errors and counted what it will return, if its frame counts. -/
structure Poll.Reports (cfg : SocketConfig) (st : SocketState) (errors : List IoError) (p : Poll) : Prop where
  mode : p.sock.mode = st.mode
  errors : p.sock.pendingErrors = errors.foldl pushError st.pendingErrors
  connection : p.sock.connectionState =
    match p.result with
    | none => st.connectionState
    | some d =>
      if (dispatch cfg st.onlyV6 d.arrival).recorded then (st.recordRecv d.payload.length).connectionState
      else st.connectionState
  peer : ∀ d ∈ p.result, st.isForeign d.src = false

theorem Poll.reports_start (cfg : SocketConfig) (st : SocketState) : Poll.Reports cfg st [] { sock := st } :=
  ⟨rfl, rfl, rfl, by simp⟩

theorem Poll.reports_enqueue (p : Poll) (d : Datagram) :
    (p.enqueue d).sock.mode = p.sock.mode ∧ (p.enqueue d).sock.pendingErrors = p.sock.pendingErrors ∧
      (p.enqueue d).sock.connectionState = p.sock.connectionState := by
  rcases p.sock.rxEnqueue_cases d with h | ⟨queue, h, -⟩ <;> rw [Poll.enqueue, h] <;> exact ⟨rfl, rfl, rfl⟩

theorem Poll.Reports.enqueue {errors : List IoError} (h : p.Reports cfg st errors) (d : Datagram) :
    (p.enqueue d).Reports cfg st errors := by
  obtain ⟨hmode, herrors, hconnection⟩ := p.reports_enqueue d
  exact ⟨hmode.trans h.mode, herrors.trans h.errors, hconnection.trans h.connection, h.peer⟩

theorem connectionState_learn (now : Instant) (effect : FrameEffect) :
    (st.learn now effect).connectionState = st.connectionState := by
  obtain ⟨_, _, _, _, h⟩ := st.learn_eq now effect
  rw [h]

theorem Poll.Reports.learn {errors : List IoError} (h : p.Reports cfg st errors) (now : Instant) (effect : FrameEffect)
    (replies : List (List UInt8)) :
    Poll.Reports cfg st (errors ++ effect.error.toList) { p with sock := p.sock.learn now effect, replies } where
  mode := (p.sock.mode_learn now effect).trans h.mode
  errors := by rw [SocketState.pendingErrors_learn, h.errors, List.foldl_append]
  connection := (connectionState_learn now effect).trans h.connection
  peer := h.peer

theorem Poll.Reports.frame {errors : List IoError} (h : p.Reports cfg st errors) (now : Instant) (frame : RxFrame) :
    (processFrame cfg n now p frame).Reports cfg st (errors ++ (errorOf cfg frame).toList) := by
  have hmode : p.sock.onlyV6 = st.onlyV6 ∧ p.sock.connectedAddr = st.connectedAddr :=
    ⟨congrArg Mode.onlyV6 h.mode, congrArg Mode.connectedAddr h.mode⟩
  unfold processFrame
  dsimp only
  rw [hmode.1]
  have hlearn := h.learn now (dispatch cfg st.onlyV6 ⟨frame, p.sock.connects⟩)
    (p.replies ++ (dispatch cfg st.onlyV6 ⟨frame, p.sock.connects⟩).reply.toList)
  rw [error_dispatch] at hlearn
  split
  · exact hlearn
  · next d hd =>
    split_ifs with hforeign hnone
    · exact hlearn.enqueue d
    · have harrival : d.arrival = ⟨frame, p.sock.connects⟩ := by
        replace hd : Path.inline.datagram cfg st.onlyV6 ⟨frame, p.sock.connects⟩ = some d := hd
        exact Path.arrival_of_datagram hd
      have hbefore : (p.sock.learn now (dispatch cfg st.onlyV6 ⟨frame, p.sock.connects⟩)).connectionState =
          st.connectionState := by
        rw [hlearn.connection, Option.isNone_iff_eq_none.1 hnone]
      refine ⟨?_, ?_, ?_, fun x hx => ?_⟩
      · rw [← hlearn.mode, Poll.deliver]
        dsimp only
        split_ifs <;> rfl
      · rw [← hlearn.errors, Poll.deliver]
        dsimp only
        split_ifs <;> rfl
      · dsimp only [Poll.deliver]
        rw [Datagram.arrival_cut, harrival]
        split_ifs
        · rw [SocketState.recordRecv, SocketState.recordRecv, hbefore, Datagram.cut, List.length_take]
        · exact hbefore
      · obtain rfl := Option.some.inj hx
        have hpeer : (p.sock.learn now (dispatch cfg st.onlyV6 ⟨frame, p.sock.connects⟩)).connectedAddr =
            st.connectedAddr := congrArg Mode.connectedAddr hlearn.mode
        rw [SocketState.isForeign, hpeer] at hforeign
        exact Bool.eq_false_iff.2 hforeign
    · exact hlearn.enqueue d

theorem Poll.Reports.frames (frames : List RxFrame) (now : Instant) : ∀ {p : Poll} {errors : List IoError},
    p.Reports cfg st errors →
      (frames.foldl (processFrame cfg n now) p).Reports cfg st (errors ++ frames.filterMap (errorOf cfg)) := by
  induction frames with
  | nil => exact fun h => by simpa using h
  | cons frame frames ih =>
    intro p errors h
    have hrest := ih (h.frame (n := n) now frame)
    rwa [List.append_assoc, ← filterMap_cons_toList] at hrest

theorem Poll.Reports.resolve (frames : List RxFrame) (now : Instant) : ∀ {p : Poll}, p.Reports cfg st [] →
    p.result = none → (frames.foldl (resolveFrame cfg now) p).Reports cfg st [] ∧
      (frames.foldl (resolveFrame cfg now) p).result = none := by
  induction frames with
  | nil => exact fun h hnone => ⟨h, hnone⟩
  | cons frame frames ih =>
    intro p h hnone
    have hlearn := h.learn now (resolveEffect cfg ⟨frame, p.sock.connects⟩)
      (p.replies ++ (resolveEffect cfg ⟨frame, p.sock.connects⟩).reply.toList)
    rw [error_resolveEffect] at hlearn
    rw [List.foldl_cons]
    have hstep : (resolveFrame cfg now p frame).Reports cfg st [] ∧ (resolveFrame cfg now p frame).result = none := by
      unfold resolveFrame
      dsimp only
      cases (resolveEffect cfg ⟨frame, p.sock.connects⟩).datagram with
      | none => exact ⟨hlearn, hnone⟩
      | some d => exact ⟨hlearn.enqueue d, hnone⟩
    exact ih hstep.1 hstep.2

/-! ## Runs: errors -/

def takenErrors (outs : List Output) : List IoError :=
  outs.filterMap fun
    | .error e => some e
    | _ => none

def errorsOn (cfg : SocketConfig) (bursts : List Burst) : List IoError :=
  bursts.flatMap fun burst => burst.frames.filterMap (errorOf cfg)

/-- The errors pending at the start, and then errors of the bursts before `w.wire`: what was taken is what came first. -/
structure World.Reported (cfg : SocketConfig) (wire : List Burst) (start : List IoError) (w : World)
    (outs : List Output) : Prop where
  pending : Pending w.sock.pendingErrors
  reported : ∃ polled kept, wire = polled ++ w.wire ∧ List.Sublist kept (errorsOn cfg polled) ∧
    start ++ kept = takenErrors outs ++ w.sock.errorQueue

/-- An event that is not `take_error` polls some bursts and queues errors of theirs. -/
structure World.Queues (cfg : SocketConfig) (w w' : World) (outs : List Output) : Prop where
  taken : takenErrors outs = []
  queued : ∃ (polled : List Burst) (errors : List IoError), w.wire = polled ++ w'.wire ∧
    errors.Sublist (errorsOn cfg polled) ∧ w'.sock.pendingErrors = errors.foldl pushError w.sock.pendingErrors

theorem takenErrors_outputs (p : Poll) : takenErrors p.outputs = [] := by
  simp [takenErrors, Poll.outputs, List.filterMap_append, List.filterMap_map]

theorem World.queues_same {w w' : World} {outs : List Output} (houts : takenErrors outs = []) (hwire : w'.wire = w.wire)
    (hsock : w'.sock.pendingErrors = w.sock.pendingErrors) : w.Queues cfg w' outs :=
  ⟨houts, [], [], by rw [hwire]; rfl, List.Sublist.refl _, hsock⟩

theorem pendingErrors_rxDequeueInto (st : SocketState) (n : Nat) :
    (st.rxDequeueInto n).2.pendingErrors = st.pendingErrors := by
  rcases st.rxDequeueInto_cases n with ⟨-, h⟩ | ⟨_, _, _, _, -, -, h⟩ <;> rw [h] <;> rfl

theorem pendingErrors_takePacket (recorded : Bool) (pl : Pipeline) :
    (takePacket recorded n p pl).1.sock.pendingErrors = p.sock.pendingErrors := by
  unfold takePacket
  split
  · rfl
  · dsimp only
    split_ifs
    · rw [(Poll.reports_enqueue _ _).2.1]
      rfl
    · dsimp only [Poll.deliver]
      split_ifs <;> rfl

theorem pendingErrors_recvPipeline (recorded : Bool) (pl : Pipeline) :
    (recvPipeline recorded n p pl).1.sock.pendingErrors = p.sock.pendingErrors := by
  have hpop := pendingErrors_rxDequeueInto p.sock n
  unfold recvPipeline
  split_ifs
  · split
    · next h => rwa [h] at hpop
    · next h =>
      rw [h] at hpop
      rw [pendingErrors_takePacket]
      exact hpop
  · exact pendingErrors_takePacket recorded pl

theorem recvInline_queues (st : SocketState) (n : Nat) (wire : List Burst) : ∃ polled errors,
    wire = polled ++ (recvInline cfg n { sock := st } wire).2 ∧ List.Sublist errors (errorsOn cfg polled) ∧
      (recvInline cfg n { sock := st } wire).1.sock.pendingErrors = errors.foldl pushError st.pendingErrors := by
  have hpop := pendingErrors_rxDequeueInto st n
  unfold recvInline
  split
  · next h =>
    rw [h] at hpop
    exact ⟨[], [], rfl, List.nil_sublist _, hpop⟩
  · next sock h =>
    rw [h] at hpop
    cases wire with
    | nil => exact ⟨[], [], rfl, List.nil_sublist _, hpop⟩
    | cons burst wire =>
      have hreports := (Poll.reports_start cfg sock).frames (n := n) burst.frames burst.now
      refine ⟨[burst], burst.frames.filterMap (errorOf cfg), rfl, by simp [errorsOn], ?_⟩
      rw [← hpop]
      exact hreports.errors

theorem World.queues_receive (w : World) (recorded : Bool) (n : Nat) :
    w.Queues cfg (w.receive cfg recorded n).1 (w.receive cfg recorded n).2 := by
  unfold World.receive
  split
  · exact ⟨takenErrors_outputs _, recvInline_queues w.sock n w.wire⟩
  · exact World.queues_same (takenErrors_outputs _) rfl (pendingErrors_recvPipeline recorded _)

theorem error_rxFrame (pl : Pipeline) : (rxFrame cfg pl).2.error = none := by
  unfold rxFrame
  split
  · rfl
  · dsimp only
    split_ifs <;> rfl

theorem World.queues_step (w : World) (cfg : SocketConfig) {e : Event} (he : e ≠ .takeError) :
    w.Queues cfg (w.step cfg e).1 (w.step cfg e).2 := by
  cases e with
  | recvFrom n => exact w.queues_receive true n
  | tryRecvFrom n => exact w.queues_receive false n
  | connect => exact World.queues_same rfl rfl rfl
  | setOnlyV6 =>
    refine World.queues_same rfl rfl ?_
    dsimp only [World.step, SocketState.setOnlyV6]
    split <;> rfl
  | setRecvBufferSize =>
    refine World.queues_same rfl rfl ?_
    dsimp only [World.step, SocketState.setRecvBufferSize]
    split <;> rfl
  | takeError => exact absurd rfl he
  | resolvePoll =>
    unfold World.step
    dsimp only
    split
    · exact World.queues_same rfl rfl rfl
    · next burst wire hwire =>
      have hresolve := (Poll.reports_start cfg w.sock).resolve burst.frames burst.now rfl
      exact ⟨takenErrors_outputs _, [burst], [], hwire, List.nil_sublist _, hresolve.1.errors⟩
  | rxPoll =>
    unfold World.step
    dsimp only
    split
    · next burst wire _ hwire =>
      split_ifs
      · exact ⟨rfl, [burst], [], hwire, List.nil_sublist _, rfl⟩
      · exact World.queues_same rfl rfl rfl
    · exact World.queues_same rfl rfl rfl
  | rxFrame now =>
    unfold World.step
    dsimp only
    split
    · exact World.queues_same rfl rfl rfl
    · refine World.queues_same ?_ rfl ?_
      · simp [takenErrors, List.filterMap_map]
      · rw [SocketState.pendingErrors_learn, error_rxFrame]
        rfl
  | workerTake => exact World.queues_same rfl rfl rfl
  | workerFrame =>
    unfold World.step
    dsimp only
    split <;> exact World.queues_same rfl rfl rfl

/-- An event keeps the errors in order. -/
theorem World.Reported.step {wire : List Burst} {start : List IoError} {w : World} {outs : List Output}
    (h : w.Reported cfg wire start outs) (e : Event) :
    (w.step cfg e).1.Reported cfg wire start (outs ++ (w.step cfg e).2) := by
  obtain ⟨hpending, polled, kept, hwire, hsub, hall⟩ := h
  have htaken (more : List Output) : takenErrors (outs ++ more) = takenErrors outs ++ takenErrors more :=
    List.filterMap_append
  by_cases he : e = .takeError
  · subst he
    obtain ⟨hpending', hhead, htail⟩ := takeError_pending hpending
    refine ⟨hpending', polled, kept, hwire, hsub, ?_⟩
    rw [htaken]
    change _ = takenErrors outs ++ takenErrors (w.sock.takeError.1.toList.map .error) ++ w.sock.takeError.2.errorQueue
    rw [hhead, htail]
    cases hqueue : w.sock.errorQueue with
    | nil => simpa [takenErrors, hqueue] using hall
    | cons error rest => simpa [takenErrors, hqueue] using hall
  · obtain ⟨hnone, polled', errors, hwire', herrors, hsock⟩ := w.queues_step cfg he
    obtain ⟨hpending', kept', hkept, heq⟩ := foldl_pushError_sublist errors hpending
    refine ⟨by rw [hsock]; exact hpending', polled ++ polled', kept ++ kept', by rw [hwire, hwire', List.append_assoc],
      ?_, ?_⟩
    · rw [errorsOn, List.flatMap_append]
      exact hsub.append (hkept.trans herrors)
    · have hqueue : (w.step cfg e).1.sock.errorQueue = w.sock.errorQueue ++ kept' := (congrArg Prod.fst hsock).trans heq
      rw [htaken, hnone, List.append_nil, hqueue, ← List.append_assoc, hall, List.append_assoc]

/-- Errors are taken in the order they came, along a run. -/
theorem World.reported_run (w : World) (cfg : SocketConfig) (hpending : Pending w.sock.pendingErrors) (es : List Event) :
    (run (World.step cfg) w es).1.Reported cfg w.wire w.sock.errorQueue (run (World.step cfg) w es).2 := by
  have hstart : w.Reported cfg w.wire w.sock.errorQueue [] :=
    ⟨hpending, [], [], rfl, List.nil_sublist _, by simp [takenErrors]⟩
  have hrun := run_invariant (I := fun w' outs => w'.Reported cfg w.wire w.sock.errorQueue outs)
    (fun _ _ e _ h => h.step e) es w [] (along_true w es) hstart
  rwa [List.nil_append] at hrun

/-! ## Whose datagrams the errors quote -/

/-- The ICMP error in the frame quotes a UDP datagram from that address and port. -/
def QuotesUdp4 (frame : List UInt8) (ip : Ipv4Addr) (port : UInt16) : Prop :=
  ∃ layout ∈ layoutOf frame none, ∃ icmp ∈ icmpStart frame layout.l3Offset, layout.ethertype = 0x0800 ∧
    isIcmpError (byteAt frame icmp) ∧
    -- the quoted header
    byteAt frame (icmp + 8) >>> 4 &&& 0x0F = 4 ∧ 20 ≤ ipHeaderLenAt frame (icmp + 8) ∧
    byteAt frame (icmp + 8 + 9) = 17 ∧ ip = ipv4At frame (icmp + 8 + 12) ∧
    -- the quoted port
    icmp + 8 + ipHeaderLenAt frame (icmp + 8) + 4 ≤ frame.length ∧
    port = be16At frame (icmp + 8 + ipHeaderLenAt frame (icmp + 8))

/-- The ICMPv6 error in the frame quotes a UDP datagram from that address and port. -/
def QuotesUdp6 (frame : List UInt8) (ip : Ipv6Addr) (port : UInt16) : Prop :=
  ∃ layout ∈ layoutOf frame none, ∃ icmp ∈ icmpv6Start frame layout, isIcmpv6Error (byteAt frame icmp) ∧
    byteAt frame (icmp + 8) >>> 4 = 6 ∧ ip = ipv6At frame (icmp + 8 + 8) ∧
    -- behind the extension headers of the quoted packet
    ∃ nh ∈ upperLayer (frame.drop (icmp + 8)), nh.protocol = 17 ∧ icmp + 8 + nh.payloadOffset + 4 ≤ frame.length ∧
      port = be16At frame (icmp + 8 + nh.payloadOffset)

theorem quotesUdp4_of_parse {frame : List UInt8} {info : IcmpErrorInfo Ipv4Addr} (h : parseIcmpError frame = some info) :
    QuotesUdp4 frame info.originalSrcIp info.originalSrcPort := by
  obtain ⟨layout, hlayout, h⟩ := Option.bind_eq_some_iff.1 h
  split_ifs at h with heth
  dsimp only at h
  split_ifs at h with hshort
  obtain ⟨icmp, hicmp, h⟩ := Option.bind_eq_some_iff.1 h
  generalize (ite (byteAt frame icmp = 3 ∧ byteAt frame (icmp + 1) = 4) _ _ : UInt16) = mtu at h
  split_ifs at h with hlen htype hversion hihl hproto hudp
  cases h
  exact ⟨layout, hlayout, icmp, hicmp, not_not.1 heth, by simpa using htype, not_not.1 hversion, by omega,
    not_not.1 hproto, rfl, by omega, rfl⟩

theorem quotesUdp6_of_parse {frame : List UInt8} {info : IcmpErrorInfo Ipv6Addr}
    (h : parseIcmpv6Error frame = some info) : QuotesUdp6 frame info.originalSrcIp info.originalSrcPort := by
  obtain ⟨layout, hlayout, h⟩ := Option.bind_eq_some_iff.1 h
  obtain ⟨icmp, hicmp, h⟩ := Option.bind_eq_some_iff.1 h
  dsimp only at h
  generalize (ite (byteAt frame icmp = 2) _ _ : Nat) = mtu at h
  split_ifs at h with htype hlen hversion
  obtain ⟨nh, hnh, h⟩ := Option.bind_eq_some_iff.1 h
  split_ifs at h with hproto hudp
  cases h
  exact ⟨layout, hlayout, icmp, hicmp, by simpa using htype, not_not.1 hversion, rfl, nh, hnh, not_not.1 hproto,
    by omega, rfl⟩

/-- The socket may have sent a datagram from that address. -/
def SocketConfig.Sends (cfg : SocketConfig) (src : SocketAddr) : Prop :=
  src.port = cfg.localPort ∧ (cfg.localAddr.isUnspecified = true ∨ src.toIpv6Mapped = cfg.localAddr.toIpv6Mapped)

/-- The frame is an ICMP or ICMPv6 error about a datagram of the socket. -/
def SocketConfig.OwnError (cfg : SocketConfig) (frame : List UInt8) : Prop :=
  (∃ ip port, QuotesUdp4 frame ip port ∧ cfg.Sends (.v4 ip port)) ∨
    ∃ ip port, QuotesUdp6 frame ip port ∧ cfg.Sends (.v6 ip port 0 0)

/-- The frame quotes a datagram of the other family, from the wildcard address and, for IPv4, port zero. -/
def SocketConfig.Stray (cfg : SocketConfig) (frame : List UInt8) : Prop :=
  match cfg.localAddr with
  | .v4 _ port => ∃ info ∈ parseIcmpv6Error frame, info.originalSrcIp = 0 ∧ info.originalSrcPort = port
  | .v6 _ _ _ _ => ∃ info ∈ parseIcmpError frame, info.originalSrcIp = ⟨0, 0, 0, 0⟩ ∧ info.originalSrcPort = 0

theorem processIcmpFull_error {self : Handler Ipv4Addr} {frame : List UInt8} {info : IcmpErrorInfo Ipv4Addr}
    (h : self.processIcmpFull frame = some (.error info)) :
    parseIcmpError frame = some info ∧ info.originalSrcIp ∈ self.localIps := by
  unfold Handler.processIcmpFull at h
  split at h
  · cases h
  · split at h
    · next hinfo =>
      split_ifs at h with hmem
      cases h
      exact ⟨hinfo, hmem⟩
    · cases h

theorem processIcmpv6Full_error {self : Handler Ipv6Addr} {frame : List UInt8} {info : IcmpErrorInfo Ipv6Addr}
    (h : self.processIcmpv6Full frame = some (.error info)) :
    parseIcmpv6Error frame = some info ∧ info.originalSrcIp ∈ self.localIps := by
  unfold Handler.processIcmpv6Full at h
  dsimp only at h
  split at h
  · cases h
  · split at h
    · next hinfo =>
      split_ifs at h with hmem
      cases h
      exact ⟨hinfo, hmem⟩
    · cases h

theorem ownError_of_icmpEffect {frame : List UInt8} {e : IoError} (h : (icmpEffect cfg frame).error = some e)
    (hstray : ¬ cfg.Stray frame) : cfg.OwnError frame := by
  unfold icmpEffect at h
  split at h
  · cases h
  · next info hinfo =>
    obtain ⟨hparse, hmem⟩ := processIcmpFull_error hinfo
    replace hmem : info.originalSrcIp = cfg.localIpv4 := List.mem_singleton.1 hmem
    dsimp only at h
    split_ifs at h with hport
    cases hlocal : cfg.localAddr with
    | v4 ip port =>
      simp only [hlocal] at hport
      refine .inl ⟨_, _, quotesUdp4_of_parse hparse, ?_, .inr ?_⟩
      · rw [SocketConfig.localPort, hlocal]
        exact hport
      · rw [hmem, SocketConfig.localIpv4, hlocal]
        rfl
    | v6 =>
      simp only [hlocal] at hport
      rw [SocketConfig.localIpv4, hlocal] at hmem
      refine absurd ?_ hstray
      rw [SocketConfig.Stray, hlocal]
      exact ⟨info, hparse, hmem, hport⟩
  · cases h

theorem ownError_of_icmpv6Effect {frame : List UInt8} {e : IoError} (h : (icmpv6Effect cfg frame).error = some e)
    (hstray : ¬ cfg.Stray frame) : cfg.OwnError frame := by
  unfold icmpv6Effect at h
  split at h
  · cases h
  · next info hinfo =>
    obtain ⟨hparse, hmem⟩ := processIcmpv6Full_error hinfo
    replace hmem : info.originalSrcIp = cfg.localIpv6 := List.mem_singleton.1 hmem
    dsimp only at h
    split_ifs at h with hport
    cases hlocal : cfg.localAddr with
    | v4 ip port =>
      rw [SocketConfig.localIpv6, hlocal] at hmem
      rw [SocketConfig.localPort, hlocal] at hport
      refine absurd ?_ hstray
      rw [SocketConfig.Stray, hlocal]
      exact ⟨info, hparse, hmem, hport⟩
    | v6 ip port flowinfo scopeId =>
      refine .inr ⟨_, _, quotesUdp6_of_parse hparse, hport, .inr ?_⟩
      rw [hmem, SocketConfig.localIpv6, hlocal]
      rfl
  · cases h

theorem ownError_of_errorOf {frame : RxFrame} {e : IoError} (h : errorOf cfg frame = some e)
    (hstray : ¬ cfg.Stray frame.data) : cfg.OwnError frame.data := by
  unfold errorOf dispatch at h
  dsimp only at h
  split at h
  · cases h
  · split_ifs at h
    all_goals first | exact ownError_of_icmpEffect h hstray | exact ownError_of_icmpv6Effect h hstray | cases h | skip
    split at h
    · cases h
    · rw [error_plainEffect] at h
      cases h

/-- **ICMP errors.** In every run the errors taken and then those pending are errors of frames polled, in order, never
more than sixteen; the flag tells whether there are any, and `take_error` takes the oldest.  If no frame is stray, all
are about datagrams of the socket. -/
theorem icmp_errors_reported {cfg : SocketConfig} {w s : World} {es : List Event} {outs : List Output}
    (hrun : run (World.step cfg) w es = (s, outs)) (hqueue : w.sock.errorQueue = [])
    (hflag : w.sock.hasPendingError = false)
    (hstray : ∀ burst ∈ w.wire, ∀ frame ∈ burst.frames, ¬ cfg.Stray frame.data) :
    (∃ polled, w.wire = polled ++ s.wire ∧ (takenErrors outs ++ s.sock.errorQueue).Sublist (errorsOn cfg polled) ∧
      ∀ e ∈ errorsOn cfg polled, ∃ burst ∈ w.wire, ∃ frame ∈ burst.frames, errorOf cfg frame = some e ∧
        cfg.OwnError frame.data) ∧
    s.sock.errorQueue.length ≤ 16 ∧ (s.sock.hasPendingError = true ↔ s.sock.errorQueue ≠ []) ∧
    s.sock.takeError.1 = s.sock.errorQueue.head? ∧ s.sock.takeError.2.errorQueue = s.sock.errorQueue.tail ∧
    ∀ fs, s.sock.errorQueue <+:
      takenErrors (run (World.step cfg) s fs).2 ++ (run (World.step cfg) s fs).1.sock.errorQueue := by
  have hpending : Pending w.sock.pendingErrors := by simp [Pending, SocketState.pendingErrors, hqueue, hflag]
  have hreported := w.reported_run cfg hpending es
  rw [hrun] at hreported
  obtain ⟨hpending', polled, kept, hwire, hsub, hall⟩ := hreported
  rw [hqueue, List.nil_append] at hall
  obtain ⟨-, htake, hrest⟩ := takeError_pending hpending'
  refine ⟨⟨polled, hwire, hall ▸ hsub, fun e he => ?_⟩, hpending'.1, hpending'.2, htake, hrest, fun fs => ?_⟩
  · obtain ⟨burst, hburst, he⟩ := List.mem_flatMap.1 he
    obtain ⟨frame, hframe, he⟩ := List.mem_filterMap.1 he
    have hmem : burst ∈ w.wire := by
      rw [hwire]
      exact List.mem_append_left _ hburst
    exact ⟨burst, hmem, frame, hframe, he, ownError_of_errorOf he (hstray burst hmem frame hframe)⟩
  · obtain ⟨-, -, kept', -, -, hall'⟩ := s.reported_run cfg hpending' fs
    exact ⟨kept', hall'⟩

def unreachableFrame (code : UInt8) : List UInt8 :=
  [2, 2, 2, 2, 2, 2, 2, 0, 0, 0, 0, 2, 0x08, 0x00] ++
    [0x45, 0, 0, 56, 0, 0, 0x40, 0, 64, 1, 0, 0, 10, 0, 0, 2, 10, 0, 0, 1] ++ [3, code, 0, 0, 0, 0, 0, 0] ++
    [0x45, 0, 0, 29, 0, 0, 0x40, 0, 64, 17, 0, 0, 10, 0, 0, 1, 10, 0, 0, 2] ++ [0x13, 0x88, 0x17, 0x70, 0, 9, 0, 0]

/-- An unreachable port, then an unreachable host. -/
def sampleErrors : World :=
  { wire := [⟨0, [⟨unreachableFrame 3, none⟩]⟩, ⟨0, [⟨unreachableFrame 1, none⟩]⟩] }

/-- The errors arrive, and the first is taken. -/
def sampleTaken : World × List Output :=
  run (World.step sampleConfig) sampleErrors [.tryRecvFrom 100, .tryRecvFrom 100, .takeError]

theorem icmp_errors_sample :
    (takenErrors sampleTaken.2).map (·.kind) = [.connectionRefused] ∧
      sampleTaken.1.sock.errorQueue.map (·.kind) = [.other] ∧
      (∃ burst ∈ sampleErrors.wire, ∃ frame ∈ burst.frames, sampleConfig.OwnError frame.data) ∧
      sampleTaken.1.sock.errorQueue <+: takenErrors (run (World.step sampleConfig) sampleTaken.1 [.takeError]).2 ++
        (run (World.step sampleConfig) sampleTaken.1 [.takeError]).1.sock.errorQueue := by
  have hstray : ∀ burst ∈ sampleErrors.wire, ∀ frame ∈ burst.frames, ¬ sampleConfig.Stray frame.data := by
    have hnone : ∀ burst ∈ sampleErrors.wire, ∀ frame ∈ burst.frames, parseIcmpv6Error frame.data = none := by decide
    rintro burst hburst frame hframe ⟨info, hinfo, -⟩
    exact absurd ((hnone burst hburst frame hframe).symm.trans hinfo) (by simp)
  have hrun : run (World.step sampleConfig) sampleErrors [.tryRecvFrom 100, .tryRecvFrom 100, .takeError] =
    (sampleTaken.1, sampleTaken.2) := rfl
  obtain ⟨⟨polled, -, hsub, hown⟩, -, -, -, -, hnext⟩ := icmp_errors_reported hrun rfl rfl hstray
  have htaken : takenErrors sampleTaken.2 ≠ [] := by decide
  obtain ⟨e, he⟩ := List.exists_mem_of_ne_nil _ htaken
  obtain ⟨burst, hburst, frame, hframe, -, h⟩ := hown e (hsub.subset (List.mem_append_left _ he))
  exact ⟨by decide, by decide, ⟨burst, hburst, frame, hframe, h⟩, hnext [.takeError]⟩

def strayFrame : List UInt8 :=
  [2, 2, 2, 2, 2, 2, 2, 0, 0, 0, 0, 2, 0x86, 0xDD] ++ [0x60, 0, 0, 0, 0, 56, 58, 64] ++ List.replicate 32 0 ++
    [1, 4, 0, 0, 0, 0, 0, 0] ++ [0x60, 0, 0, 0, 0, 8, 17, 64] ++ List.replicate 32 0 ++
    [0x13, 0x88, 0x17, 0x70, 0, 8, 0, 0]

/-- The socket, bound to `10.0.0.1`, queues that error. -/
theorem icmp_error_misattributed :
    (run (World.step sampleConfig) (sampleWorld strayFrame) [.tryRecvFrom 100]).1.sock.errorQueue.length = 1 ∧
      errorsOn sampleConfig (sampleWorld strayFrame).wire =
        (run (World.step sampleConfig) (sampleWorld strayFrame) [.tryRecvFrom 100]).1.sock.errorQueue ∧
      ¬ sampleConfig.OwnError strayFrame := by
  have hlayout : layoutOf strayFrame none = some ⟨0x86DD, 14, none⟩ := by decide
  refine ⟨by decide, by decide, ?_⟩
  rintro (⟨ip, port, ⟨layout, hlayout', icmp, -, heth, -⟩, -⟩ |
    ⟨ip, port, ⟨layout, hlayout', icmp, hicmp, -, -, rfl, -⟩, -, h⟩)
  · obtain rfl := Option.some.inj (hlayout.symm.trans hlayout')
    exact absurd heth (by decide)
  · obtain rfl := Option.some.inj (hlayout.symm.trans hlayout')
    have hstart : icmpv6Start strayFrame ⟨0x86DD, 14, none⟩ = some 54 := by decide
    obtain rfl := Option.some.inj (hstart.symm.trans hicmp)
    rcases h with h | h
    · exact absurd h (by decide)
    · replace h : ipv6At strayFrame (54 + 8 + 8) = sampleConfig.localAddr.toIpv6Mapped := h
      exact absurd h (by decide)

/-! ## Runs: the statistics of the connection -/

def fromPeer (peer : SocketAddr) (outs : List Output) : List Datagram :=
  outs.filterMap fun
    | .returned d => if d.src = peer then some d else none
    | _ => none

/-- A frame that one of the socket's tunnels takes. -/
def SocketConfig.Tunnelled (cfg : SocketConfig) (a : Arrival) : Prop :=
  ∃ layout ∈ layoutOf a.data a.hwVlanTci, (cfg.decapsulate layout a.data).isSome
deriving Decidable

/-- The first datagram of the peer in the frames. -/
def SocketState.firstOf (cfg : SocketConfig) (peer : SocketAddr) (st : SocketState) (frames : List RxFrame) :
    Option Datagram :=
  frames.findSome? fun frame => (dispatch cfg st.onlyV6 ⟨frame, st.connects⟩).datagram.filter (·.src = peer)

/-- What a receive call finds in the queue: with a pipeline it looks only if the flag is set. -/
def World.queued (w : World) : List Datagram :=
  if w.pipeline.isNone ∨ w.sock.hasBufferedPackets then w.sock.queue.packets else []

/-- What is next for a receive call is counted, or not the peer's: the queue's head is somebody else's, the peer's
datagram comes outside of the tunnels, or `recv_from` takes from the pipeline. -/
def World.CountsNext (cfg : SocketConfig) (peer : SocketAddr) (w : World) (recvFrom : Bool) : Prop :=
  match w.queued, w.pipeline with
  | d :: _, _ => d.src ≠ peer
  | [], none => ∀ burst ∈ w.wire.head?, ∀ d ∈ w.sock.firstOf cfg peer burst.frames, ¬ cfg.Tunnelled d.arrival
  | [], some pl =>
    recvFrom = true ∨ ∀ taken ∈ pl.dequeueAppRings w.sock.rrIndex, (taken.2.2.pool.datagram taken.1).src ≠ peer

/-- What a call takes from the peer next is counted. -/
def World.CountsReturned (cfg : SocketConfig) (peer : SocketAddr) (w : World) : Event → Prop
  | .recvFrom _ => w.CountsNext cfg peer true
  | .tryRecvFrom _ => w.CountsNext cfg peer false
  | _ => True

/-- The socket is connected to the peer, and its statistics are those of these datagrams. -/
def SocketState.Counted (peer : SocketAddr) (ds : List Datagram) (st : SocketState) : Prop :=
  st.connectedAddr = some peer ∧ ∃ state, st.connectionState = some state ∧ state.packetsReceived = .ofNat ds.length ∧
    state.bytesReceived = .ofNat (ds.map (·.payload.length)).sum

section stats
variable {peer : SocketAddr} {ds : List Datagram} {w : World}

theorem fromPeer_outputs (p : Poll) : fromPeer peer p.outputs = p.result.toList.filter (·.src = peer) := by
  cases h : p.result with
  | none => simp [fromPeer, Poll.outputs, h, List.filterMap_map]
  | some d => by_cases hd : d.src = peer <;> simp [fromPeer, Poll.outputs, h, hd, List.filterMap_map]

theorem SocketState.Counted.congr (h : st.Counted peer ds) {st' : SocketState}
    (hmode : st'.connectedAddr = st.connectedAddr) (hstate : st'.connectionState = st.connectionState) :
    st'.Counted peer ds := by
  rw [Counted, hmode, hstate]
  exact h

theorem SocketState.Counted.record (h : st.Counted peer ds) (d : Datagram) {st' : SocketState}
    (hmode : st'.connectedAddr = st.connectedAddr)
    (hstate : st'.connectionState = (st.recordRecv d.payload.length).connectionState) :
    st'.Counted peer (ds ++ [d]) := by
  obtain ⟨hpeer, state, hsome, hpackets, hbytes⟩ := h
  rw [SocketState.recordRecv, hsome] at hstate
  refine ⟨hmode.trans hpeer, _, hstate, ?_, ?_⟩
  · rw [List.length_append, UInt64.ofNat_add, ← hpackets]
    rfl
  · rw [List.map_append, List.sum_append, UInt64.ofNat_add, ← hbytes]
    rfl

theorem SocketState.rxDequeueInto_fields (st : SocketState) (n : Nat) :
    (st.rxDequeueInto n).2.mode = st.mode ∧ (st.rxDequeueInto n).2.connectionState = st.connectionState ∧
      ((st.rxDequeueInto n).1 = none ↔ st.queue.packets = []) := by
  rcases st.rxDequeueInto_cases n with ⟨hempty, h⟩ | ⟨_, _, _, _, hcons, -, h⟩ <;> rw [h]
  · exact ⟨rfl, rfl, by simp [hempty]⟩
  · exact ⟨rfl, rfl, by simp [hcons]⟩

theorem counted_dequeue {d head : Datagram} {rest : List Datagram} {sock : SocketState} (h : st.Counted peer ds)
    (hpop : st.rxDequeueInto n = (some d, sock)) (hcons : st.queue.packets = head :: rest) (hhead : head.src ≠ peer) :
    sock.Counted peer (ds ++ (some d).toList.filter (·.src = peer)) := by
  have hfields := st.rxDequeueInto_fields n
  rcases st.rxDequeueInto_cases n with ⟨hempty, -⟩ | ⟨head', rest', queue, flag, hcons', -, hpop'⟩
  · rw [hempty] at hcons
    cases hcons
  · rw [hcons] at hcons'
    cases hcons'
    cases hpop.symm.trans hpop'
    have hfilter : (some (head.cut n)).toList.filter (·.src = peer) = [] := by
      simp only [Option.toList_some, List.filter_cons, List.filter_nil, Datagram.cut, hhead, decide_false]
      rfl
    rw [hpop] at hfields
    rw [hfilter, List.append_nil]
    exact h.congr (congrArg Mode.connectedAddr hfields.1) hfields.2.1

theorem src_of_isForeign (h : st.Counted peer ds) {src : SocketAddr} (hsrc : st.isForeign src = false) :
    src = peer := by
  rw [SocketState.isForeign, h.1] at hsrc
  simpa using hsrc

theorem result_processFrame {errors : List IoError} (h : p.Reports cfg st errors) (hpeer : st.connectedAddr = some peer)
    (now : Instant) (frame : RxFrame) :
    (processFrame cfg n now p frame).result = p.result.or
      (((dispatch cfg st.onlyV6 ⟨frame, st.connects⟩).datagram.filter (·.src = peer)).map (·.cut n)) := by
  have honly : p.sock.onlyV6 = st.onlyV6 := congrArg Mode.onlyV6 h.mode
  have hconnects : p.sock.connects = st.connects := congrArg Mode.connects h.mode
  have hforeign : ∀ effect src, (p.sock.learn now effect).isForeign src = decide (src ≠ peer) := by
    intro effect src
    have hconnected : (p.sock.learn now effect).connectedAddr = some peer :=
      (congrArg Mode.connectedAddr ((p.sock.mode_learn now effect).trans h.mode)).trans hpeer
    rw [SocketState.isForeign, hconnected]
    rfl
  unfold processFrame
  dsimp only
  rw [honly, hconnects]
  cases (dispatch cfg st.onlyV6 ⟨frame, st.connects⟩).datagram with
  | none => simp
  | some d =>
    dsimp only
    rw [hforeign]
    by_cases hsrc : d.src = peer
    · cases p.result <;> simp [hsrc, Poll.deliver, Poll.enqueue]
    · simp [hsrc, Poll.enqueue, Option.filter]

/-- A burst is searched for the first datagram of the peer. -/
theorem result_processFrames (frames : List RxFrame) (now : Instant) {errors : List IoError} (h : p.Reports cfg st errors)
    (hpeer : st.connectedAddr = some peer) :
    (frames.foldl (processFrame cfg n now) p).result = p.result.or ((st.firstOf cfg peer frames).map (·.cut n)) := by
  induction frames generalizing p errors with
  | nil => simp [SocketState.firstOf]
  | cons frame frames ih =>
    rw [List.foldl_cons, ih (h.frame now frame), result_processFrame h hpeer, Option.or_assoc, SocketState.firstOf,
      SocketState.firstOf, List.findSome?_cons]
    cases (dispatch cfg st.onlyV6 ⟨frame, st.connects⟩).datagram.filter (·.src = peer) <;> rfl

theorem arrival_of_firstOf {frames : List RxFrame} {d : Datagram} (h : st.firstOf cfg peer frames = some d) :
    d.src = peer ∧ (dispatch cfg st.onlyV6 d.arrival).datagram = some d := by
  obtain ⟨frame, -, hframe⟩ := List.exists_of_findSome?_eq_some h
  obtain ⟨hd, hsrc⟩ := Option.filter_eq_some_iff.1 hframe
  have harrival : d.arrival = ⟨frame, st.connects⟩ := by
    replace hd : Path.inline.datagram cfg st.onlyV6 ⟨frame, st.connects⟩ = some d := hd
    exact Path.arrival_of_datagram hd
  exact ⟨of_decide_eq_true hsrc, harrival ▸ hd⟩

theorem recorded_of_not_tunnelled {a : Arrival} {d : Datagram} (hd : (dispatch cfg onlyV6 a).datagram = some d)
    (htunnel : ¬ cfg.Tunnelled a) : (dispatch cfg onlyV6 a).recorded = true := by
  unfold dispatch at hd ⊢
  cases hlayout : layoutOf a.data a.hwVlanTci with
  | none =>
    rw [hlayout] at hd
    cases hd
  | some layout =>
    have hdecap : cfg.decapsulate layout a.data = none := by
      cases hdecap : cfg.decapsulate layout a.data with
      | none => rfl
      | some inner => exact absurd ⟨layout, hlayout, by rw [hdecap]; rfl⟩ htunnel
    rw [hlayout] at hd
    dsimp only at hd ⊢
    rw [hdecap] at hd ⊢
    split_ifs at hd ⊢
    · rw [icmpEffect_datagram] at hd
      cases hd
    · rw [icmpv6Effect_datagram] at hd
      cases hd
    · rcases plainEffect_datagram hd with ⟨rfl, parsed, hparsed, heffect⟩ | ⟨hor, heffect⟩
      · obtain ⟨hip, hudp, -⟩ := udpEffect_datagram heffect
        simp [plainEffect, hparsed, udpEffect, hip, hudp]
      · obtain ⟨parsed, hparsed, hudp, -⟩ := udp6Effect_datagram heffect
        rcases hor with rfl | hnone
        · simp [plainEffect, udp6Effect, hparsed, hudp]
        · simp [plainEffect, hnone, udp6Effect, hparsed, hudp]

theorem recvInline_counted (h : w.sock.Counted peer ds) (hpl : w.pipeline = none)
    (hcounts : w.CountsNext cfg peer recorded) :
    (recvInline cfg n { sock := w.sock } w.wire).1.sock.Counted peer
      (ds ++ fromPeer peer (recvInline cfg n { sock := w.sock } w.wire).1.outputs) := by
  have hqueued : w.queued = w.sock.queue.packets := if_pos (.inl (by rw [hpl]; rfl))
  rw [World.CountsNext, hqueued, hpl] at hcounts
  have hfields := w.sock.rxDequeueInto_fields n
  rw [fromPeer_outputs]
  unfold recvInline
  split
  · next d sock hpop =>
    dsimp only at hpop
    cases hpackets : w.sock.queue.packets with
    | nil =>
      rw [hpop] at hfields
      exact absurd (hfields.2.2.2 hpackets) (by simp)
    | cons head rest =>
      rw [hpackets] at hcounts
      exact counted_dequeue h hpop hpackets hcounts
  · next sock hpop =>
    dsimp only at hpop
    rw [hpop] at hfields
    have hempty := hfields.2.2.1 rfl
    have honly : sock.onlyV6 = w.sock.onlyV6 := congrArg Mode.onlyV6 hfields.1
    have hconnects : sock.connects = w.sock.connects := congrArg Mode.connects hfields.1
    have hsock : sock.Counted peer ds := h.congr (congrArg Mode.connectedAddr hfields.1) hfields.2.1
    rw [hempty] at hcounts
    cases hwire : w.wire with
    | nil => simpa using hsock
    | cons burst wire =>
      have hreports := (Poll.reports_start cfg sock).frames (n := n) burst.frames burst.now
      have hresult := result_processFrames (n := n) burst.frames burst.now (Poll.reports_start cfg sock) hsock.1
      dsimp only at hresult ⊢
      generalize burst.frames.foldl (processFrame cfg n burst.now) { sock := sock } = p at hresult hreports
      have hconn : p.sock.connectedAddr = sock.connectedAddr := congrArg Mode.connectedAddr hreports.mode
      have hstate := hreports.connection
      rw [Option.none_or] at hresult
      cases hfirst : sock.firstOf cfg peer burst.frames with
      | none =>
        rw [hfirst] at hresult
        rw [hresult] at hstate ⊢
        simpa using hsock.congr hconn hstate
      | some d =>
        rw [hfirst] at hresult
        obtain ⟨hsrc, hd⟩ := arrival_of_firstOf hfirst
        have hsame : w.sock.firstOf cfg peer burst.frames = some d := by
          rw [← hfirst, SocketState.firstOf, SocketState.firstOf, honly, hconnects]
        have hrecorded := recorded_of_not_tunnelled hd (hcounts burst (by rw [hwire]; rfl) d hsame)
        have hfilter : (some (d.cut n)).toList.filter (·.src = peer) = [d.cut n] := by simp [hsrc, Datagram.cut]
        rw [hresult, Option.map_some] at hstate ⊢
        dsimp only at hstate
        rw [Datagram.arrival_cut, if_pos hrecorded] at hstate
        rw [hfilter]
        exact hsock.record _ hconn hstate

theorem takePacket_counted {recorded : Bool} {pl : Pipeline} (h : p.sock.Counted peer ds) (hnone : p.result = none)
    (hcounts : recorded = true ∨
      ∀ taken ∈ pl.dequeueAppRings p.sock.rrIndex, (taken.2.2.pool.datagram taken.1).src ≠ peer) :
    (takePacket recorded n p pl).1.sock.Counted peer (ds ++ fromPeer peer (takePacket recorded n p pl).1.outputs) := by
  rw [fromPeer_outputs]
  unfold takePacket
  split
  · simpa [hnone] using h
  · next pkt rrIndex pl' hpkt =>
    dsimp only
    split_ifs with hforeign
    · obtain ⟨hmode, -, hstate⟩ := Poll.reports_enqueue { p with sock := { p.sock with rrIndex } }
        ((pl'.pool.datagram pkt).cut n)
      have hsame := h.congr (congrArg Mode.connectedAddr hmode) hstate
      have hresult : (Poll.enqueue { p with sock := { p.sock with rrIndex } }
        ((pl'.pool.datagram pkt).cut n)).result = none := hnone
      rw [hresult]
      simpa using hsame
    · have hsrc : (pl'.pool.datagram pkt).src = peer :=
        src_of_isForeign h (Bool.eq_false_iff.2 hforeign)
      have hrecorded : recorded = true := hcounts.resolve_right fun hother => hother _ hpkt hsrc
      have hfilter : (some ((pl'.pool.datagram pkt).cut n)).toList.filter (·.src = peer) =
          [(pl'.pool.datagram pkt).cut n] := by simp [hsrc]
      dsimp only [Poll.deliver]
      rw [hfilter, if_pos hrecorded]
      refine h.record _ rfl ?_
      rw [Datagram.cut, List.length_take]
      rfl

theorem recvPipeline_counted {recorded : Bool} {pl : Pipeline} (h : w.sock.Counted peer ds) (hpl : w.pipeline = some pl)
    (hcounts : w.CountsNext cfg peer recorded) :
    (recvPipeline recorded n { sock := w.sock } pl).1.sock.Counted peer
      (ds ++ fromPeer peer (recvPipeline recorded n { sock := w.sock } pl).1.outputs) := by
  have hfields := w.sock.rxDequeueInto_fields n
  rw [World.CountsNext, World.queued, hpl] at hcounts
  unfold recvPipeline
  split_ifs with hbuffered
  · rw [if_pos (.inr hbuffered)] at hcounts
    cases hpackets : w.sock.queue.packets with
    | nil =>
      rw [hpackets] at hcounts
      rcases w.sock.rxDequeueInto_cases n with ⟨-, hpop⟩ | ⟨_, _, _, _, hcons, -⟩
      · rw [hpop]
        exact takePacket_counted (h.congr rfl rfl) rfl hcounts
      · rw [hpackets] at hcons
        cases hcons
    | cons head rest =>
      rw [hpackets] at hcounts
      split
      · next d sock hpop =>
        rw [fromPeer_outputs]
        exact counted_dequeue h hpop hpackets hcounts
      · next sock hpop =>
        dsimp only at hpop
        rw [hpop, hpackets] at hfields
        exact absurd (hfields.2.2.1 rfl) (by simp)
  · rw [if_neg (by simpa using hbuffered)] at hcounts
    exact takePacket_counted h rfl hcounts

theorem World.counted_receive {recorded : Bool} (h : w.sock.Counted peer ds) (hcounts : w.CountsNext cfg peer recorded) :
    (w.receive cfg recorded n).1.sock.Counted peer (ds ++ fromPeer peer (w.receive cfg recorded n).2) := by
  unfold World.receive
  cases hpl : w.pipeline with
  | none => exact recvInline_counted h hpl hcounts
  | some pl => exact recvPipeline_counted h hpl hcounts

/-- An event counts what it returns of the peer. -/
theorem World.counted_step {e : Event} (h : w.sock.Counted peer ds) (he : ∀ addr, e ≠ .connect addr)
    (hcounts : w.CountsReturned cfg peer e) :
    (w.step cfg e).1.sock.Counted peer (ds ++ fromPeer peer (w.step cfg e).2) := by
  have hsame {w' : World} {outs : List Output} (houts : fromPeer peer outs = [])
      (hconn : w'.sock.connectedAddr = w.sock.connectedAddr)
      (hstate : w'.sock.connectionState = w.sock.connectionState) : w'.sock.Counted peer (ds ++ fromPeer peer outs) := by
    rw [houts, List.append_nil]
    exact h.congr hconn hstate
  cases e with
  | recvFrom n => exact World.counted_receive h hcounts
  | tryRecvFrom n => exact World.counted_receive h hcounts
  | connect addr => exact absurd rfl (he addr)
  | setOnlyV6 =>
    dsimp only [World.step, SocketState.setOnlyV6]
    split <;> exact hsame rfl rfl rfl
  | setRecvBufferSize =>
    dsimp only [World.step, SocketState.setRecvBufferSize]
    split <;> exact hsame rfl rfl rfl
  | takeError =>
    refine @hsame (w.step cfg .takeError).1 _ ?_ ?_ ?_
    · simp [World.step, fromPeer, List.filterMap_map]
    all_goals
      unfold World.step SocketState.takeError
      dsimp only
      split <;> rfl
  | resolvePoll =>
    unfold World.step
    dsimp only
    split
    · exact hsame rfl rfl rfl
    · next burst wire hwire =>
      obtain ⟨hreports, hnone⟩ := (Poll.reports_start cfg w.sock).resolve burst.frames burst.now rfl
      have hstate := hreports.connection
      rw [hnone] at hstate
      refine hsame ?_ (congrArg Mode.connectedAddr hreports.mode) hstate
      replace hnone : (resolvePoll cfg { sock := w.sock } burst).result = none := hnone
      rw [fromPeer_outputs, hnone]
      rfl
  | rxPoll =>
    unfold World.step
    dsimp only
    split
    · split_ifs <;> exact hsame rfl rfl rfl
    · exact hsame rfl rfl rfl
  | rxFrame now =>
    unfold World.step
    dsimp only
    split
    · exact hsame rfl rfl rfl
    · exact hsame (by simp [fromPeer, List.filterMap_map]) (congrArg Mode.connectedAddr (w.sock.mode_learn now _))
        (connectionState_learn now _)
  | workerTake => exact hsame rfl rfl rfl
  | workerFrame =>
    unfold World.step
    dsimp only
    split <;> exact hsame rfl rfl rfl

end stats

/-- **Statistics of a connection.** In every run after `connect` in which what is next for each call is counted or not the
peer's, the statistics are the number and the bytes of the datagrams returned from the peer, modulo `2 ^ 64`. -/
theorem connection_stats_exact {cfg : SocketConfig} {w : World} {peer : SocketAddr} {es : List Event}
    (hconnect : ∀ e ∈ es, ∀ addr, e ≠ .connect addr)
    (hcounts : Along (World.CountsReturned cfg peer) (World.step cfg) (w.step cfg (.connect peer)).1 es) :
    ∃ state, (run (World.step cfg) (w.step cfg (.connect peer)).1 es).1.sock.connectionState = some state ∧
      state.packetsReceived = .ofNat (fromPeer peer (run (World.step cfg) (w.step cfg (.connect peer)).1 es).2).length ∧
      state.bytesReceived = .ofNat
        ((fromPeer peer (run (World.step cfg) (w.step cfg (.connect peer)).1 es).2).map (·.payload.length)).sum := by
  have hstart : (w.step cfg (.connect peer)).1.sock.Counted peer (fromPeer peer []) := ⟨rfl, _, rfl, rfl, rfl⟩
  have hgood := (along_of_forall hconnect).and hcounts
  have hrun := run_invariant (I := fun w outs => w.sock.Counted peer (fromPeer peer outs))
    (fun w outs e hgood h => by
      have hstep := World.counted_step h hgood.1 hgood.2
      rwa [fromPeer, fromPeer, ← List.filterMap_append] at hstep) es _ [] hgood hstart
  exact hrun.2

def samplePeer : SocketAddr := .v4 ⟨10, 0, 0, 2⟩ 6000

theorem connection_stats_sample : ∃ state, (run (World.step sampleConfig)
    ((sampleWorld (sampleFrame 2 0xce)).step sampleConfig (.connect samplePeer)).1 [.recvFrom 100]).1.sock.connectionState =
      some state ∧ state.packetsReceived = 1 := by
  have hcounts : Along (World.CountsReturned sampleConfig samplePeer) (World.step sampleConfig)
      ((sampleWorld (sampleFrame 2 0xce)).step sampleConfig (.connect samplePeer)).1 [.recvFrom 100] := by
    refine ⟨?_, trivial⟩
    change ∀ burst ∈ [_].head?, _
    decide
  obtain ⟨state, hstate, hpackets, -⟩ := connection_stats_exact (by simp) hcounts
  exact ⟨state, hstate, hpackets.trans (by decide)⟩

/-- Two datagrams of the peer in one burst: the second is returned from the queue and not counted. -/
theorem connection_stats_miss :
    let w : World := { wire := [⟨0, [⟨sampleFrame 2 0xce, none⟩, ⟨sampleFrame 2 0xce, none⟩]⟩] }
    let r := run (World.step sampleConfig) w [.connect samplePeer, .recvFrom 100, .recvFrom 100]
    (fromPeer samplePeer r.2).length = 2 ∧ r.1.sock.connectionState.map (·.packetsReceived) = some 1 := by
  decide

end DpdkStdlib.Udp

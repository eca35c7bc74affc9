import DpdkStdlib.Quic.Fidelity

/-!
# Messages sent in segments

`push` cuts a message into frames as long as the message allows and the queue has room.
-/

namespace DpdkStdlib.Quic
open DpdkStdlib.Lib DpdkStdlib.Udp

variable {message : Message} {q : DpdkTxQueue} {route : Route}

/-! ## Segments -/

def DpdkTxQueue.frameArgs (q : DpdkTxQueue) (route : Route) (payload : List UInt8) : UdpFrameArgs Ipv4Addr :=
  { srcIp := route.srcIp, dstIp := route.dstIp, srcPort := route.srcPort, dstPort := route.dstPort, payload, ttl := 64
    srcMac := q.srcMac, dstMac := q.gatewayMac }

def DpdkTxQueue.segmentFrame (q : DpdkTxQueue) (route : Route) (payload : List UInt8) : List UInt8 :=
  udpFrame (q.frameArgs route payload) none route.tos

theorem DpdkTxQueue.pushSegment_eq {payload : List UInt8} (h : payload.length ≤ maxUdpPayload) :
    q.pushSegment route payload = some (.ok (), { q with
      frameBuf := q.segmentFrame route payload, pending := q.pending ++ [q.segmentFrame route payload] }) := by
  have hbuild := buildUdpFrameIntoWithTos_eq (a := q.frameArgs route payload) [] route.tos
    (Nat.le_trans h (by decide))
  rw [pushSegment, buildQuicFrame]
  exact congrArg (Option.bind · _) hbuild

theorem Message.writePayload_spec {bufLen offset n : Nat} {buffer : List UInt8}
    (h : message.writePayload (List.replicate bufLen 0) offset = .ok (n, buffer)) :
    n ≤ bufLen ∧ readSlice buffer 0 n = some ((message.bytes.drop offset).take n) ∧
      ((message.bytes.drop offset).take n).length = n := by
  rw [writePayload, List.length_replicate] at h
  cases hlen : message.writeLen bufLen offset with
  | error e =>
    rw [hlen] at h
    cases h
  | ok m =>
    rw [hlen] at h
    obtain ⟨rfl, rfl⟩ := Prod.mk.inj (Except.ok.inj h)
    obtain ⟨hbuf, hbytes⟩ := message.writeLen_le _ _ _ hlen
    have htake : ((message.bytes.drop offset).take m).length = m := by
      rw [List.length_take, List.length_drop]
      omega
    exact ⟨hbuf, readSlice_append (a := []) rfl htake.symm, htake⟩

/-! ## The loop over the segments -/

namespace DpdkTxQueue

/-- The queue `q'` is `q` with the frames of these pieces of the message, which follow each other from the offset on. -/
structure Appends (q : DpdkTxQueue) (message : Message) (route : Route) (offset : Nat) (pieces : List (List UInt8))
    (q' : DpdkTxQueue) : Prop where
  pending : q'.pending = q.pending ++ pieces.map (q.segmentFrame route)
  capacity : q'.capacity = q.capacity
  bytes : pieces.flatten <+: message.bytes.drop offset
  sizes : ∀ piece ∈ pieces, piece ≠ [] ∧ piece.length ≤ maxUdpPayload
  room : q.pending.length ≤ q.capacity → q'.pending.length ≤ q.capacity

theorem appends_nil (q : DpdkTxQueue) (message : Message) (route : Route) (offset : Nat) :
    q.Appends message route offset [] q where
  pending := (List.append_nil _).symm
  capacity := rfl
  bytes := List.nil_prefix
  sizes := by simp
  room := id

theorem Appends.cons {q' : DpdkTxQueue} {offset : Nat} {piece : List UInt8} {pieces : List (List UInt8)}
    (hroom : q.pending.length < q.capacity) (hsize : piece ≠ [] ∧ piece.length ≤ maxUdpPayload)
    (hpiece : piece <+: message.bytes.drop offset)
    (h : Appends { q with frameBuf := q.segmentFrame route piece, pending := q.pending ++ [q.segmentFrame route piece] }
      message route (offset + piece.length) pieces q') :
    q.Appends message route offset (piece :: pieces) q' where
  pending := by
    rw [h.pending, List.map_cons, List.append_assoc]
    rfl
  capacity := h.capacity
  bytes := by
    obtain ⟨rest, hrest⟩ := hpiece
    have hdrop : message.bytes.drop (offset + piece.length) = rest := by
      rw [← List.drop_drop, ← hrest, List.drop_left]
    rw [List.flatten_cons, ← hrest]
    exact (List.prefix_append_right_inj _).2 (hdrop ▸ h.bytes)
  sizes := List.forall_mem_cons.2 ⟨hsize, h.sizes⟩
  room _ := h.room (by simpa using Nat.succ_le_of_lt hroom)

theorem pushSegments_appends (message : Message) (route : Route) (written : Nat) (q : DpdkTxQueue)
    (gsoOffset totalLen segmentCount : Nat) :
    ∃ pieces q', q.pushSegments message route written gsoOffset totalLen segmentCount =
        some (Except.ok (totalLen + pieces.flatten.length), q') ∧ q.Appends message route gsoOffset pieces q' := by
  -- by induction on the room in the queue
  induction hroom : q.capacity - q.pending.length generalizing q gsoOffset totalLen segmentCount with
  | zero =>
    rw [pushSegments, dif_pos (by omega), ite_self]
    exact ⟨[], q, rfl, appends_nil q message route gsoOffset⟩
  | succ room ih =>
    rw [pushSegments, dif_neg (by omega)]
    split_ifs with hgso
    · cases hwrite : message.writePayload (List.replicate maxUdpPayload 0) gsoOffset with
      | error e => exact ⟨[], q, rfl, appends_nil q message route gsoOffset⟩
      | ok result =>
        obtain ⟨n, segBuf⟩ := result
        dsimp only
        split_ifs with hn
        · obtain ⟨hmax, hread, hlen⟩ := Message.writePayload_spec hwrite
          generalize hpiece : (message.bytes.drop gsoOffset).take n = piece at hread hlen
          obtain ⟨pieces, q', hrest, happends⟩ := ih
            { q with frameBuf := q.segmentFrame route piece, pending := q.pending ++ [q.segmentFrame route piece] }
            (gsoOffset + n) (totalLen + n) (segmentCount + 1)
            (by simp only [List.length_append, List.length_singleton]; omega)
          have hpush := @pushSegment_eq q route piece (Nat.le_trans (Nat.le_of_eq hlen) hmax)
          have hsize : piece ≠ [] ∧ piece.length ≤ maxUdpPayload :=
            ⟨List.ne_nil_of_length_pos (by omega), by omega⟩
          refine ⟨piece :: pieces, q', ?_, .cons (by omega) hsize (hpiece ▸ List.take_prefix _ _) (hlen ▸ happends)⟩
          rw [hread, Option.bind_some]
          split
          · next hnone => exact absurd (hpush.symm.trans hnone) (by simp)
          · next herror => exact absurd (hpush.symm.trans herror) (by simp)
          · next q₁ hok =>
            obtain rfl := (Prod.mk.inj (Option.some.inj (hpush.symm.trans hok))).2
            rw [hrest, List.flatten_cons, List.length_append, hlen, Nat.add_assoc]
        · exact ⟨[], q, rfl, appends_nil q message route gsoOffset⟩
    · exact ⟨[], q, rfl, appends_nil q message route gsoOffset⟩

theorem push_appends (hroute : q.route message = some route) :
    (∃ e, q.push message = some (.error e, q)) ∨
      ∃ pieces q', q.push message = some (.ok ⟨pieces.flatten.length, q.pending.length⟩, q') ∧ pieces ≠ [] ∧
        q.Appends message route 0 pieces q' ∧ q'.pending.length ≤ q.capacity := by
  unfold push
  by_cases hfull : q.pending.length ≥ q.capacity
  · rw [if_pos hfull]
    exact .inl ⟨_, rfl⟩
  rw [if_neg hfull, hroute]
  dsimp only [Option.bind_eq_bind, Option.bind_some]
  cases hwrite : message.writePayload (List.replicate maxUdpPayload 0) 0 with
  | error e => exact .inl ⟨e, rfl⟩
  | ok result =>
    obtain ⟨written, payloadBuf⟩ := result
    obtain ⟨hmax, hread, hlen⟩ := Message.writePayload_spec hwrite
    dsimp only
    split_ifs with hempty
    · exact .inl ⟨_, rfl⟩
    generalize hpiece : (message.bytes.drop 0).take written = piece at hread hlen
    rw [hread, Option.bind_some, pushSegment_eq (Nat.le_trans (Nat.le_of_eq hlen) hmax), Option.bind_some]
    dsimp only
    obtain ⟨pieces, q', hrest, happends⟩ := pushSegments_appends message route written
      { q with frameBuf := q.segmentFrame route piece, pending := q.pending ++ [q.segmentFrame route piece] }
      written written 1
    rw [hrest, Option.bind_some]
    have hsize : piece ≠ [] ∧ piece.length ≤ maxUdpPayload := ⟨List.ne_nil_of_length_pos (by omega), by omega⟩
    have hall : q.Appends message route 0 (piece :: pieces) q' :=
      .cons (by omega) hsize (hpiece ▸ List.take_prefix _ _) (by rw [hlen, Nat.zero_add]; exact happends)
    refine .inr ⟨piece :: pieces, q', ?_, List.cons_ne_nil _ _, hall, hall.room (by omega)⟩
    rw [List.flatten_cons, List.length_append, hlen]
    rfl

end DpdkTxQueue

/-! ## Sources -/

/-- An IPv4 address other than `0.0.0.0`. -/
def HasIp : SocketAddr → Prop
  | .v4 ip _ => ip ≠ ⟨0, 0, 0, 0⟩
  | .v6 _ _ _ _ => False

def HasPort : SocketAddr → Prop
  | .v4 _ port => port ≠ 0
  | .v6 _ _ _ _ => False

instance : DecidablePred HasIp := fun addr => by cases addr <;> unfold HasIp <;> infer_instance

instance : DecidablePred HasPort := fun addr => by cases addr <;> unfold HasPort <;> infer_instance

namespace DpdkTxQueue

/-- The path or the queue has an address, and the path or the queue has a port. -/
def Sourced (q : DpdkTxQueue) (message : Message) : Prop :=
  (HasIp message.path.localAddress ∨ HasIp q.localAddr) ∧
    (HasPort message.path.localAddress ∨ q.localAddr.port ≠ 0)
deriving Decidable

theorem boundIp_ne_iff (q : DpdkTxQueue) : q.boundIp ≠ ⟨0, 0, 0, 0⟩ ↔ HasIp q.localAddr := by
  rw [boundIp]
  cases q.localAddr <;> simp [HasIp]

theorem route_spec (q : DpdkTxQueue) {ip : Ipv4Addr} {port : UInt16}
    (hremote : message.path.remoteAddress = .v4 ip port) :
    ∃ route, q.route message = some route ∧ route.dstIp = ip ∧ route.dstPort = port ∧
      route.tos = ecnToTosBits message.ecn ∧
      (HasIp (.v4 route.srcIp route.srcPort) ∧ HasPort (.v4 route.srcIp route.srcPort) ↔ q.Sourced message) := by
  rw [DpdkTxQueue.route, hremote]
  refine ⟨_, rfl, rfl, rfl, rfl, ?_⟩
  rw [Sourced, ← boundIp_ne_iff]
  cases message.path.localAddress with
  | v4 ip' port' =>
    simp only [socketAddressToV4, HasIp, HasPort]
    by_cases hip : ip' = ⟨0, 0, 0, 0⟩ <;> by_cases hport : port' = 0 <;> simp [hip, hport]
  | v6 ip' port' flow scope =>
    simp only [socketAddressToV4, HasIp, HasPort, false_or]
    by_cases hip : q.boundIp = ⟨0, 0, 0, 0⟩ <;> by_cases hport : q.localAddr.port = 0 <;> simp [hip, hport]

/-! ## Frames as they are parsed -/

def segmentDatagram (message : Message) (route : Route) (piece : List UInt8) : RxDatagram :=
  { path := ⟨.v4 route.srcIp route.srcPort, message.path.remoteAddress⟩, ecn := message.ecn, payload := piece }

theorem parseToRxDatagram_segmentFrame {piece : List UInt8}
    (hremote : message.path.remoteAddress = .v4 route.dstIp route.dstPort)
    (htos : route.tos = ecnToTosBits message.ecn) (hsize : piece.length ≤ maxUdpPayload) {receiver : SocketAddr}
    (hport : receiver.port = message.path.remoteAddress.port) :
    parseToRxDatagram (q.segmentFrame route piece) receiver = some (some (segmentDatagram message route piece)) := by
  have hmax : maxUdpPayload = 1472 := rfl
  have hview := udpViewRef_udpFrame (q.frameArgs route piece) none route.tos [] (by rw [frameArgs]; dsimp only; omega)
  have hbyte : byteAt (udpFrame (q.frameArgs route piece) none route.tos ++ []) (14 + 1) = route.tos := by
    have h := byteAt_udpFrame (q.frameArgs route piece) none route.tos [] 1
    have hl3 : (builtLayout (q.frameArgs route piece) none).l3Offset = 14 := length_ethHeader _ none _
    rw [hl3] at h
    exact h
  rw [List.append_nil] at hview hbyte
  rw [parseToRxDatagram_eq, rxDatagram, segmentFrame, hview, Option.bind_some, if_pos (by rw [hport, hremote]; rfl), hbyte,
    htos, extractEcn_ecnToTosBits, segmentDatagram, hremote]
  rfl

theorem macAt_segmentFrame (q : DpdkTxQueue) (route : Route) (piece : List UInt8) :
    macAt (q.segmentFrame route piece) 0 = q.gatewayMac := by
  have h := (macAt_udpFrame (q.frameArgs route piece) none route.tos []).1
  rwa [List.append_nil] at h

/-- A push has added these frames, and a receiver parses these datagrams from them. -/
structure Sends (q : DpdkTxQueue) (message : Message) (outcome : Outcome) (q' : DpdkTxQueue)
    (frames : List (List UInt8)) (datagrams : List RxDatagram) : Prop where
  pending : q'.pending = q.pending ++ frames
  index : outcome.index = q.pending.length
  room : q'.pending.length ≤ q.capacity
  parsed : ∀ receiver : SocketAddr, receiver.port = message.path.remoteAddress.port →
    frames.map (parseToRxDatagram · receiver) = datagrams.map fun d => some (some d)
  /-- The payloads are the first bytes of the message. -/
  bytes : (datagrams.map (·.payload)).flatten = message.bytes.take outcome.len ∧ outcome.len ≤ message.bytes.length
  sizes : ∀ d ∈ datagrams, d.payload ≠ [] ∧ d.payload.length ≤ maxUdpPayload
  ecn : ∀ d ∈ datagrams, d.ecn = message.ecn
  destination : ∀ d ∈ datagrams, d.path.localAddress = message.path.remoteAddress
  gateway : ∀ frame ∈ frames, macAt frame 0 = q.gatewayMac

theorem Appends.sends {q' : DpdkTxQueue} {pieces : List (List UInt8)} (h : q.Appends message route 0 pieces q')
    (hroom : q'.pending.length ≤ q.capacity) (hremote : message.path.remoteAddress = .v4 route.dstIp route.dstPort)
    (htos : route.tos = ecnToTosBits message.ecn) :
    q.Sends message ⟨pieces.flatten.length, q.pending.length⟩ q' (pieces.map (q.segmentFrame route))
      (pieces.map (segmentDatagram message route)) where
  pending := h.pending
  index := rfl
  room := hroom
  parsed receiver hport := by
    rw [List.map_map, List.map_map]
    exact List.map_congr_left fun piece hpiece =>
      parseToRxDatagram_segmentFrame hremote htos (h.sizes piece hpiece).2 hport
  bytes := by
    have hpayloads : (pieces.map (segmentDatagram message route)).map (·.payload) = pieces := by
      rw [List.map_map]
      exact List.map_id _
    rw [hpayloads]
    exact ⟨List.prefix_iff_eq_take.1 h.bytes, h.bytes.length_le⟩
  sizes := List.forall_mem_map.2 h.sizes
  ecn := List.forall_mem_map.2 fun _ _ => rfl
  destination := List.forall_mem_map.2 fun _ _ => rfl
  gateway := List.forall_mem_map.2 fun piece _ => q.macAt_segmentFrame route piece

end DpdkTxQueue

/-- **Segmented sending.** A push with an IPv4 remote returns.  After an error the queue is as before; otherwise the new
frames carry the first bytes of the message, as many as it reports, to the remote address.  They have a source exactly if
the path or the queue has an address, and the path or the queue has a port. -/
theorem push_lossless (q : DpdkTxQueue) (message : Message) (ip : Ipv4Addr) (port : UInt16)
    (hremote : message.path.remoteAddress = .v4 ip port) :
    ∃ result q', q.push message = some (result, q') ∧ q'.capacity = q.capacity ∧
      match result with
      | .error _ => q'.pending = q.pending
      | .ok outcome => ∃ frames datagrams, q.Sends message outcome q' frames datagrams ∧
          ((∀ d ∈ datagrams, HasIp d.path.remoteAddress ∧ HasPort d.path.remoteAddress) ↔ q.Sourced message) := by
  obtain ⟨route, hroute, rfl, rfl, htos, hsourced⟩ := q.route_spec hremote
  rcases DpdkTxQueue.push_appends hroute with ⟨e, hpush⟩ | ⟨pieces, q', hpush, hne, happends, hroom⟩
  · exact ⟨.error e, q, hpush, rfl, rfl⟩
  · refine ⟨_, q', hpush, happends.capacity, _, _, happends.sends hroom hremote htos, ?_⟩
    rw [← hsourced, List.forall_mem_map]
    obtain ⟨piece, hpiece⟩ := List.exists_mem_of_ne_nil pieces hne
    exact ⟨fun h => h piece hpiece, fun h _ _ => h⟩

def sampleMessage : Message where
  path := .fromRemoteAddress (.v4 ⟨10, 0, 0, 2⟩ 4433)
  ecn := .ect0
  bytes := [1, 2, 3]
  canGso _ _ := true
  writeLen bufLen offset := .ok (min (min bufLen 2) (3 - offset))
  writeLen_le bufLen offset n h := by
    obtain rfl := Except.ok.inj h
    exact ⟨by omega, Nat.min_le_right _ _⟩

def sampleQueue (ip : Ipv4Addr) : DpdkTxQueue where
  capacity := 32
  localAddr := .v4 ip 49152
  srcMac := sampleMac 1
  gatewayMac := sampleMac 9

theorem push_lossless_sample :
    (sampleQueue ⟨10, 0, 0, 1⟩).Sourced sampleMessage ∧
    ((sampleQueue ⟨10, 0, 0, 1⟩).push sampleMessage).map (fun r => (r.1, r.2.pending.length)) =
      some (.ok ⟨3, 0⟩, 2) ∧
    ∃ result q', (sampleQueue ⟨10, 0, 0, 1⟩).push sampleMessage = some (result, q') ∧
      q'.capacity = (sampleQueue ⟨10, 0, 0, 1⟩).capacity ∧
      match result with
      | .error _ => q'.pending = (sampleQueue ⟨10, 0, 0, 1⟩).pending
      | .ok outcome => ∃ frames datagrams, (sampleQueue ⟨10, 0, 0, 1⟩).Sends sampleMessage outcome q' frames datagrams ∧
          ((∀ d ∈ datagrams, HasIp d.path.remoteAddress ∧ HasPort d.path.remoteAddress) ↔
            (sampleQueue ⟨10, 0, 0, 1⟩).Sourced sampleMessage) :=
  ⟨by decide, by decide +kernel, push_lossless (sampleQueue ⟨10, 0, 0, 1⟩) sampleMessage ⟨10, 0, 0, 2⟩ 4433 rfl⟩

/-- Bound to `0.0.0.0`, as the builder binds by default, the queue sends the client's first packets from `0.0.0.0`. -/
theorem unspecified_source :
    ((sampleQueue ⟨0, 0, 0, 0⟩).push sampleMessage).map (fun r => r.2.pending.map fun frame =>
        (parseToRxDatagram frame (.v4 ⟨10, 0, 0, 2⟩ 4433)).map (·.map (·.path.remoteAddress))) =
      some (List.replicate 2 (some (some (.v4 ⟨0, 0, 0, 0⟩ 49152)))) := by
  decide +kernel

end DpdkStdlib.Quic

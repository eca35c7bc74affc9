import DpdkStdlib.Quic.Paths

/-!
# Runs of the event loop (`event_loop.rs`)

What the loop takes from the card it gives to the endpoint, and what the endpoint pushes it offers to the card.
-/

namespace DpdkStdlib.Quic
open DpdkStdlib.Lib DpdkStdlib.Udp

/-! ## Pushes -/

namespace DpdkTxQueue

/-- A push leaves the frames before it where they are, and the capacity. -/
theorem push_grows {q q' : DpdkTxQueue} {message : Message} {result : Except TxError Outcome}
    (h : q.push message = some (result, q')) : q.pending <+: q'.pending ∧ q'.capacity = q.capacity := by
  have hsame {e : TxError} (he : q.push message = some (.error e, q)) :
      q.pending <+: q'.pending ∧ q'.capacity = q.capacity := by
    obtain ⟨-, rfl⟩ := Prod.mk.inj (Option.some.inj (he.symm.trans h))
    exact ⟨List.prefix_rfl, rfl⟩
  cases haddr : message.path.remoteAddress with
  | v4 ip port =>
    obtain ⟨route, hroute, -⟩ := q.route_spec haddr
    rcases push_appends hroute with ⟨e, hpush⟩ | ⟨pieces, q'', hpush, -, happends, -⟩
    · exact hsame hpush
    · obtain ⟨-, rfl⟩ := Prod.mk.inj (Option.some.inj (hpush.symm.trans h))
      rw [happends.pending]
      exact ⟨List.prefix_append _ _, happends.capacity⟩
  | v6 =>
    rcases Nat.lt_or_ge q.pending.length q.capacity with hroom | hfull
    · rw [push_of_ipv6 (by rw [haddr]; rfl) hroom] at h
      cases h
    · exact hsame (push_of_full message hfull)

theorem pushAll_grows (messages : List Message) : ∀ {q q' : DpdkTxQueue} {frames : List (List UInt8)},
    q.pushAll messages = (frames, some q') → q'.pending = q.pending ++ frames ∧ q'.capacity = q.capacity := by
  induction messages with
  | nil =>
    intro q q' frames h
    obtain ⟨rfl, hq⟩ := Prod.mk.inj h
    rw [← Option.some.inj hq, List.append_nil]
    exact ⟨rfl, rfl⟩
  | cons message messages ih =>
    intro q q' frames h
    rw [pushAll] at h
    cases hpush : q.push message with
    | none => rw [hpush] at h; cases h
    | some result =>
      obtain ⟨result, q₁⟩ := result
      rw [hpush] at h
      obtain ⟨rfl, hlast⟩ := Prod.mk.inj h
      obtain ⟨hrest, hcapacity⟩ := ih (q := q₁) (Prod.ext rfl hlast)
      obtain ⟨⟨added, hadded⟩, hcapacity'⟩ := push_grows hpush
      rw [hrest, ← hadded, List.drop_left, List.append_assoc]
      exact ⟨rfl, hcapacity.trans hcapacity'⟩

theorem pushAll_append (q : DpdkTxQueue) (messages messages' : List Message) :
    q.pushAll (messages ++ messages') =
      match q.pushAll messages with
      | (frames, none) => (frames, none)
      | (frames, some q') => (frames ++ (q'.pushAll messages').1, (q'.pushAll messages').2) := by
  induction messages generalizing q with
  | nil => rfl
  | cons message messages ih =>
    rw [List.cons_append, pushAll, pushAll]
    cases q.push message with
    | none => rfl
    | some result =>
      dsimp only
      rw [ih]
      cases result.2.pushAll messages with
      | mk frames last =>
        cases last with
        | none => rfl
        | some q' => simp

/-- Where a panic comes from: a push behind others, with what those queued. -/
theorem exists_panic {q : DpdkTxQueue} {messages : List Message} (h : (q.pushAll messages).2 = none) :
    ∃ before message after q', messages = before ++ message :: after ∧
      q.pushAll before = ((q.pushAll messages).1, some q') ∧ q'.push message = none := by
  induction messages generalizing q with
  | nil => cases h
  | cons message messages ih =>
    rw [pushAll] at h ⊢
    cases hpush : q.push message with
    | none => exact ⟨[], message, messages, q, rfl, rfl, hpush⟩
    | some result =>
      obtain ⟨result, q₁⟩ := result
      rw [hpush] at h
      obtain ⟨before, message', after, q', rfl, hbefore, hpanic⟩ := ih h
      refine ⟨message :: before, message', after, q', rfl, ?_, hpanic⟩
      rw [pushAll, hpush]
      dsimp only
      rw [hbefore]

/-- Frames are queued when a message for an IPv6 address finds room. -/
def Strands (q : DpdkTxQueue) (messages : List Message) : Prop :=
  ∃ before message after, messages = before ++ message :: after ∧ message.path.remoteAddress.isIpv6 = true ∧
    (q.pushAll before).1 ≠ [] ∧ q.pending.length + (q.pushAll before).1.length < q.capacity

theorem strands_iff (q : DpdkTxQueue) (messages : List Message) :
    q.Strands messages ↔ (q.pushAll messages).2 = none ∧ (q.pushAll messages).1 ≠ [] := by
  constructor
  · rintro ⟨before, message, after, rfl, hip, hframes, hroom⟩
    rw [pushAll_append]
    cases hbefore : q.pushAll before with
    | mk frames last =>
      rw [hbefore] at hframes hroom
      cases last with
      | none => exact ⟨rfl, hframes⟩
      | some q' =>
        obtain ⟨hpending, hcapacity⟩ := pushAll_grows before hbefore
        have hpush := (q'.push_eq_none_iff message).2 ⟨hip, by rw [hpending, hcapacity, List.length_append]; exact hroom⟩
        have hpanic : q'.pushAll (message :: after) = ([], none) := by rw [pushAll, hpush]
        dsimp only
        rw [hpanic, List.append_nil]
        exact ⟨rfl, hframes⟩
  · rintro ⟨hpanic, hframes⟩
    obtain ⟨before, message, after, q', rfl, hbefore, hpush⟩ := exists_panic hpanic
    obtain ⟨hip, hroom⟩ := (q'.push_eq_none_iff message).1 hpush
    obtain ⟨hpending, hcapacity⟩ := pushAll_grows before hbefore
    rw [hpending, hcapacity, List.length_append] at hroom
    refine ⟨before, message, after, rfl, hip, ?_, ?_⟩ <;> rwa [hbefore]

end DpdkTxQueue

/-! ## One iteration -/

namespace LoopState
variable {s : LoopState}

theorem rxPath_given (hs : s.rxQueue = []) (frames : Option (List (List UInt8))) :
    (s.rxPath frames).2.1 = datagramsOf s.localAddr s.icmpHandler (frames.getD []) := by
  unfold rxPath
  cases frames with
  | none => exact hs
  | some frames => simp [receiveBurst, datagramsOf, hs, List.filterMap_map]

theorem rxPath_state (s : LoopState) (frames : Option (List (List UInt8))) :
    (s.rxPath frames).1 = { s with rxQueue := [], stats := (s.rxPath frames).1.stats } := by
  unfold rxPath
  cases frames <;> rfl

theorem rxPath_stats (s : LoopState) (frames : Option (List (List UInt8))) :
    (s.rxPath frames).1.stats.datagramsReceived = s.stats.datagramsReceived +
        .ofNat (datagramsOf s.localAddr s.icmpHandler (frames.getD [])).length ∧
      (s.rxPath frames).1.stats.datagramsTransmitted = s.stats.datagramsTransmitted ∧
      (s.rxPath frames).1.stats.txDrops = s.stats.txDrops := by
  unfold rxPath
  cases frames with
  | none => simp [datagramsOf]
  | some frames => simp [receiveBurst, datagramsOf, List.filterMap_map]

/-- Every frame of the queue is offered, and counted as transmitted or dropped. -/
theorem txPath_spec (s : LoopState) (q : DpdkTxQueue) (sends : Nat → Bool) :
    (s.txPath q sends).2.map (·.1) = q.pending ∧
      (s.txPath q sends).1.stats.datagramsTransmitted + (s.txPath q sends).1.stats.txDrops =
        s.stats.datagramsTransmitted + s.stats.txDrops + .ofNat (s.txPath q sends).2.length := by
  have hlength := List.length_eq_countP_add_countP (fun x : List UInt8 × Bool => x.2) (l := (s.txPath q sends).2)
  refine ⟨List.ext_getElem (by simp [txPath, DpdkTxQueue.drain]) (by simp [txPath, DpdkTxQueue.drain]), ?_⟩
  rw [hlength, UInt64.ofNat_add]
  simp only [txPath, Bool.not_eq_true, Bool.decide_eq_false]
  ac_rfl

/-- What an iteration that is made records, and where it leaves the loop. -/
structure Iterated (s : LoopState) (it : Iteration) (s' : LoopState) (r : Record) : Prop where
  localAddr : s'.localAddr = s.localAddr
  icmpHandler : s'.icmpHandler = s.icmpHandler
  rxQueue : s'.rxQueue = []
  running : s'.running = !r.panicked
  parsed : r.parsed = datagramsOf s.localAddr s.icmpHandler (it.frames.getD [])
  given : r.given = r.parsed
  received : s'.stats.datagramsReceived = s.stats.datagramsReceived + .ofNat r.parsed.length
  pushed : r.pushed = (s.txQueue.pushAll it.messages).1
  panicked : r.panicked = true ↔ (s.txQueue.pushAll it.messages).2 = none
  emptied : r.panicked = false → s'.txQueue.pending = []
  offered : r.offered.map (·.1) = if r.panicked then [] else s.txQueue.pending ++ r.pushed
  counted : s'.stats.datagramsTransmitted + s'.stats.txDrops =
    s.stats.datagramsTransmitted + s.stats.txDrops + .ofNat r.offered.length

theorem iterated (hs : s.rxQueue = []) (hrunning : s.running = true) {it : Iteration}
    (hon : it.shutdown = false ∧ it.closed = false) : ∃ s' r, s.iterate it = (s', [r]) ∧ Iterated s it s' r := by
  set s₁ : LoopState := { s with stats := { s.stats with timerWakeups := s.stats.timerWakeups + 1 } } with hs₁
  have hgiven := rxPath_given (s := s₁) hs it.frames
  have hstate := s₁.rxPath_state it.frames
  obtain ⟨hreceived, hsent, hdrops⟩ := s₁.rxPath_stats it.frames
  unfold iterate
  rw [if_neg (by simp [hrunning]), if_neg (by simp [hon])]
  dsimp only
  rw [← hs₁, hstate]
  generalize s₁.rxPath it.frames = received at hgiven hreceived hsent hdrops
  obtain ⟨s₂, given, replies⟩ := received
  dsimp only at hgiven hreceived hsent hdrops ⊢
  cases hpush : s₁.txQueue.pushAll it.messages with
  | mk pushed last =>
    cases last with
    | none =>
      refine ⟨_, _, rfl, rfl, rfl, rfl, rfl, rfl, hgiven, hreceived, congrArg Prod.fst hpush.symm, ?_, nofun, rfl, ?_⟩
      · exact iff_of_true rfl (congrArg Prod.snd hpush)
      · simp [hsent, hdrops, s₁]
    | some q =>
      obtain ⟨hpending, -⟩ := DpdkTxQueue.pushAll_grows it.messages hpush
      refine ⟨_, _, rfl, rfl, rfl, rfl, hrunning, rfl, hgiven, hreceived, congrArg Prod.fst hpush.symm, ?_, fun _ => rfl,
        ?_, ?_⟩
      · exact iff_of_false Bool.false_ne_true fun h => by cases h.symm.trans (congrArg Prod.snd hpush)
      · rw [if_neg Bool.false_ne_true, (txPath_spec _ q it.sends).1]
        exact hpending
      · refine (txPath_spec _ q it.sends).2.trans ?_
        dsimp only
        rw [hsent, hdrops]

/-- A loop that has ended makes no more iterations. -/
theorem run_iterate_ended (h : s.running = false) (its : List Iteration) : run iterate s its = (s, []) := by
  induction its with
  | nil => rfl
  | cons it its ih =>
    have hstep : s.iterate it = (s, []) := by rw [iterate, if_pos (by simp [h])]
    rw [run_cons, hstep, ih]
    rfl

/-- The endpoint is given the datagrams of the frames, one by one and in order, until the loop ends. -/
theorem run_given (hs : s.rxQueue = []) (hrunning : s.running = true) (its : List Iteration) : ∃ polled rest,
    its = polled ++ rest ∧ (run iterate s its).2.flatMap (·.given) =
      datagramsOf s.localAddr s.icmpHandler (polled.flatMap (·.frames.getD [])) ∧
    ∀ it ∈ rest.head?, it.shutdown = true ∨ it.closed = true ∨ ∃ last ∈ polled.getLast?, ∃ message ∈ last.messages,
      message.path.remoteAddress.isIpv6 = true := by
  induction its generalizing s with
  | nil => exact ⟨[], [], rfl, rfl, by simp⟩
  | cons it its ih =>
    by_cases hon : it.shutdown = false ∧ it.closed = false
    · obtain ⟨s', r, hstep, hit⟩ := iterated hs hrunning hon
      rw [run_cons, hstep]
      cases hpanic : r.panicked with
      | true =>
        obtain ⟨before, message, after, q', hmessages, -, hpush⟩ := DpdkTxQueue.exists_panic (hit.panicked.1 hpanic)
        have hended : s'.running = false := by rw [hit.running, hpanic]; rfl
        refine ⟨[it], its, rfl, ?_, fun _ _ => .inr (.inr ⟨it, rfl, message, by simp [hmessages],
          ((q'.push_eq_none_iff message).1 hpush).1⟩)⟩
        rw [run_iterate_ended hended]
        simp [hit.given, hit.parsed]
      | false =>
        obtain ⟨polled, rest, rfl, hgiven, hrest⟩ := ih hit.rxQueue (by rw [hit.running, hpanic]; rfl)
        rw [hit.localAddr, hit.icmpHandler] at hgiven
        refine ⟨it :: polled, rest, rfl, ?_, fun it' hit' => ?_⟩
        · simp [datagramsOf, hit.given, hit.parsed, hgiven]
        · rcases hrest it' hit' with h | h | ⟨last, hlast, h⟩
          · exact .inl h
          · exact .inr (.inl h)
          · exact .inr (.inr ⟨last, by simp [List.getLast?_cons, Option.mem_def.1 hlast], h⟩)
    · have hstep : s.iterate it = ({ s with running := false }, []) := by
        rw [iterate, if_neg (by simp [hrunning]), if_pos (by simpa [or_iff_not_imp_left] using hon)]
      refine ⟨[], it :: its, rfl, ?_, fun it' hit' => ?_⟩
      · rw [run_cons, hstep, run_iterate_ended rfl]
        rfl
      · obtain rfl := Option.some.inj hit'
        rw [not_and_or, Bool.not_eq_false, Bool.not_eq_false] at hon
        exact hon.imp_right .inl

end LoopState

/-- **What the endpoint receives.** In every run of the loop it is the datagrams that the frames yield, in order, until the
loop ends.  A UDP datagram over IPv4 for the port yields the right one exactly if the frame is untagged, or the low byte of
its identification is not one and the tag ends in its ECN bits.  ICMP packets yield none. -/
theorem receive_fidelity (localAddr : SocketAddr) (icmpHandler : Handler Ipv4Addr) :
    (∀ (txQueue : DpdkTxQueue) (its : List Iteration), ∃ polled rest, its = polled ++ rest ∧
      (run LoopState.iterate { localAddr, icmpHandler, txQueue } its).2.flatMap (·.given) =
        (polled.flatMap (·.frames.getD [])).filterMap (fun frame =>
          (dispatchFrame localAddr icmpHandler frame).datagram?) ∧
      ∀ it ∈ rest.head?, it.shutdown = true ∨ it.closed = true ∨ ∃ last ∈ polled.getLast?, ∃ message ∈ last.messages,
        message.path.remoteAddress.isIpv6 = true) ∧
    (∀ (u : UdpIpv4Frame) (padding : List UInt8), u.dstPort = localAddr.port →
      (dispatchFrame localAddr icmpHandler (u.bytes ++ padding) = .datagram u.datagram ↔ u.Aligned)) ∧
    ∀ frame, IsIcmp frame → (dispatchFrame localAddr icmpHandler frame).datagram? = none :=
  ⟨fun _ its => LoopState.run_given rfl rfl its,
    fun u padding hport => u.dispatchFrame_bytes_iff padding icmpHandler hport,
    fun _ h => dispatchFrame_icmp h localAddr icmpHandler⟩

/-- A frame with options and padding is polled behind one that is nobody's. -/
theorem receive_fidelity_sample :
    optionsFrame.Aligned ∧
      dispatchFrame (.v4 ⟨10, 0, 0, 1⟩ 4433) sampleHandler (optionsFrame.bytes ++ [0, 0]) =
        .datagram optionsFrame.datagram ∧
      (run LoopState.iterate
          { localAddr := .v4 ⟨10, 0, 0, 1⟩ 4433, icmpHandler := sampleHandler, txQueue := sampleQueue ⟨10, 0, 0, 1⟩ }
          [{ frames := some [[0], optionsFrame.bytes ++ [0, 0]] }, { closed := true }]).2.flatMap (·.given) =
        [optionsFrame.datagram] :=
  ⟨nofun, ((receive_fidelity (.v4 ⟨10, 0, 0, 1⟩ 4433) sampleHandler).2.1 optionsFrame [0, 0] rfl).2 nofun,
    by decide +kernel⟩

/-- VLAN 101 is read as a congestion mark, and on VLAN 100 a packet with identification one is lost as ICMP. -/
theorem tagged_misread :
    (dispatchFrame (.v4 ⟨10, 0, 0, 1⟩ 4433) sampleHandler (taggedFrame 101 0 0x26cc).bytes).datagram?.map (·.ecn) =
        some .ect1 ∧
      (taggedFrame 101 0 0x26cc).datagram.ecn = .notEct ∧
    dispatchFrame (.v4 ⟨10, 0, 0, 1⟩ 4433) sampleHandler (taggedFrame 100 1 0x26cb).bytes = .icmp none := by
  decide

/-! ## Conservation -/

/-- Every datagram parsed is given to the endpoint, and every frame pushed offered to the backend, once, in order and
counted. -/
structure Conserves (records : List Record) (stats : ProviderStats) : Prop where
  given : ∀ r ∈ records, r.given = r.parsed
  received : stats.datagramsReceived = .ofNat (records.flatMap (·.given)).length
  offered : ∀ r ∈ records, r.offered.map (·.1) = r.pushed
  counted : stats.datagramsTransmitted + stats.txDrops = .ofNat (records.flatMap (·.pushed)).length

/-- Between iterations both queues are empty, and everything on record is counted. -/
structure Balanced (s : LoopState) (records : List Record) : Prop where
  rxQueue : s.rxQueue = []
  txQueue : s.running = true → s.txQueue.pending = []
  given : ∀ r ∈ records, r.given = r.parsed
  received : s.stats.datagramsReceived = .ofNat (records.flatMap (·.given)).length
  offered : ∀ r ∈ records, r.offered.map (·.1) = if r.panicked then [] else r.pushed
  counted : s.stats.datagramsTransmitted + s.stats.txDrops = .ofNat (records.flatMap (·.offered)).length

/-- The iteration is made, and its messages leave frames behind that are never offered. -/
def LoopState.Strands (s : LoopState) (it : Iteration) : Prop :=
  s.running = true ∧ it.shutdown = false ∧ it.closed = false ∧ s.txQueue.Strands it.messages

theorem Balanced.iterate {s : LoopState} {records : List Record} (h : Balanced s records) (it : Iteration) :
    Balanced (s.iterate it).1 (records ++ (s.iterate it).2) ∧
      (s.Strands it ↔ ∃ r ∈ (s.iterate it).2, r.panicked = true ∧ r.pushed ≠ []) := by
  cases hrunning : s.running with
  | false =>
    have hstep : s.iterate it = (s, []) := by rw [LoopState.iterate, if_pos (by simp [hrunning])]
    rw [hstep, List.append_nil]
    exact ⟨h, iff_of_false (fun hs => Bool.false_ne_true (hrunning.symm.trans hs.1)) (by simp)⟩
  | true =>
    by_cases hon : it.shutdown = false ∧ it.closed = false
    · obtain ⟨s', r, hstep, hit⟩ := LoopState.iterated h.rxQueue hrunning hon
      rw [hstep]
      have htx := h.txQueue hrunning
      have hoffered := hit.offered
      rw [htx, List.nil_append] at hoffered
      refine ⟨⟨hit.rxQueue, fun hr => hit.emptied ?_, ?_, ?_, ?_, ?_⟩, ?_⟩
      · rw [hit.running] at hr
        simpa using hr
      · simpa [or_imp, forall_and] using ⟨h.given, hit.given⟩
      · rw [hit.received, h.received, List.flatMap_append, List.length_append, UInt64.ofNat_add, ← hit.given]
        simp
      · simpa [or_imp, forall_and] using ⟨h.offered, hoffered⟩
      · rw [hit.counted, h.counted, List.flatMap_append, List.length_append, UInt64.ofNat_add]
        simp
      · simp [LoopState.Strands, hrunning, hon, DpdkTxQueue.strands_iff, hit.panicked, hit.pushed]
    · have hstep : s.iterate it = ({ s with running := false }, []) := by
        rw [LoopState.iterate, if_neg (by simp [hrunning]), if_pos (by simpa [or_iff_not_imp_left] using hon)]
      rw [hstep, List.append_nil]
      exact ⟨⟨h.rxQueue, nofun, h.given, h.received, h.offered, h.counted⟩,
        iff_of_false (fun hs => hon ⟨hs.2.1, hs.2.2.1⟩) (by simp)⟩

theorem along_strands_iff {s : LoopState} {records : List Record} (h : Balanced s records) (its : List Iteration) :
    Along (fun s it => ¬ s.Strands it) LoopState.iterate s its ↔
      ∀ r ∈ (run LoopState.iterate s its).2, r.panicked = true → r.pushed = [] := by
  induction its generalizing s records with
  | nil => simp [Along]
  | cons it its ih =>
    obtain ⟨hnext, hstrands⟩ := h.iterate it
    rw [Along, ih hnext, hstrands, run_cons]
    simp only [List.mem_append, or_imp, forall_and, not_exists, not_and, not_not]

/-- **Conservation in the event loop.** From empty queues, over any iterations, results of the backend and endpoints:
nothing is lost, given twice or reordered, and the statistics count exactly this, if and only if no message for an IPv6
address finds frames in the queue and room beside them. -/
theorem loop_conserves_iff (s : LoopState) (hrx : s.rxQueue = []) (htx : s.txQueue.pending = []) (hstats : s.stats = {})
    (its : List Iteration) :
    Conserves (run LoopState.iterate s its).2 (run LoopState.iterate s its).1.stats ↔
      Along (fun s it => ¬ s.Strands it) LoopState.iterate s its := by
  have hinit : Balanced s [] := ⟨hrx, fun _ => htx, nofun, by rw [hstats]; rfl, nofun, by rw [hstats]; rfl⟩
  have hinv := run_invariant (I := Balanced) (fun _ _ it (_ : True) h => (h.iterate it).1) its s [] (along_true _ its) hinit
  rw [along_strands_iff hinit]
  rw [List.nil_append] at hinv
  generalize run LoopState.iterate s its = last at hinv ⊢
  constructor
  · intro h r hr hpanic
    have hnone := hinv.offered r hr
    rw [if_pos hpanic, h.offered r hr] at hnone
    exact hnone
  · intro h
    have hoffered : ∀ r ∈ last.2, r.offered.map (·.1) = r.pushed := by
      intro r hr
      rw [hinv.offered r hr]
      split_ifs with hpanic
      · exact (h r hr hpanic).symm
      · rfl
    refine ⟨hinv.given, hinv.received, hoffered, hinv.counted.trans (congrArg _ ?_)⟩
    rw [List.length_flatMap, List.length_flatMap]
    refine congrArg List.sum (List.map_congr_left fun r hr => ?_)
    rw [← hoffered r hr, List.length_map]

def sampleLoop : LoopState where
  localAddr := .v4 ⟨10, 0, 0, 1⟩ 49152
  icmpHandler := sampleHandler
  txQueue := sampleQueue ⟨10, 0, 0, 1⟩

/-- The backend takes the first of two frames. -/
theorem loop_conserves_sample :
    Conserves (run LoopState.iterate sampleLoop [{ messages := [sampleMessage], sends := (· = 0) }]).2
      (run LoopState.iterate sampleLoop [{ messages := [sampleMessage], sends := (· = 0) }]).1.stats := by
  refine (loop_conserves_iff sampleLoop rfl rfl rfl _).2 ⟨fun hs => ?_, trivial⟩
  have hnone := ((sampleLoop.txQueue.strands_iff [sampleMessage]).1 hs.2.2.2).1
  revert hnone
  decide +kernel

/-- A message for `[::1]:4433` behind another: the two frames of the first are never offered. -/
theorem loop_loses :
    (run LoopState.iterate sampleLoop
        [{ messages := [sampleMessage, { sampleMessage with path := .fromRemoteAddress (.v6 1 4433 0 0) }] }]).2.map
      (fun r => (r.pushed.length, r.offered.length, r.panicked)) = [(2, 0, true)] := by
  decide +kernel

end DpdkStdlib.Quic

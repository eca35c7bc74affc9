import Mathlib.Logic.Relation
import DpdkStdlib.Lib.LockOrder

/-!
# The locks of the sockets (`lib.rs`)

Every call of a socket as the locks it takes and releases.  What the frames, the caches and the device decide is a branch;
the turns of a loop are chosen beforehand.
-/

namespace DpdkStdlib.Udp
open DpdkStdlib.Lib

inductive LeafLock
  | connectedAddr | connectionState | readTimeout | arpCache | ndpCache | errorQueue
deriving DecidableEq

/-- `rx_state` and `tx_state` are a socket's, the queues are the port's. -/
inductive SocketLock
  | rxState (socket : Nat)
  | qRx0
  | txState (socket : Nat)
  | qTx0
  | qTxDirect
  | leaf (socket : Nat) (l : LeafLock)
deriving DecidableEq

namespace SocketLock

def rank : SocketLock → Nat
  | rxState _ => 0
  | qRx0 => 1
  | txState _ => 2
  | qTx0 => 3
  | qTxDirect => 4
  | leaf _ _ => 5

def isLeaf : SocketLock → Bool
  | leaf _ _ => true
  | _ => false

end SocketLock

inductive Outcome
  | ok
  | wouldBlock
  | error
deriving DecidableEq

abbrev SocketProg := LockProg SocketLock Outcome

/-- What decides about the locks: the socket, its backend, its pipeline, and direct transmission. -/
structure LockConfig where
  socket : Nat
  dpdk : Bool
  pipeline : Bool
  direct : Bool

def oneOf (p : SocketProg) (ps : List SocketProg) : SocketProg := .choose fun n => (p :: ps).getD n p

/-- Wait for the lock, or do something else if it is taken. -/
def guarded (blocking : Bool) (l : SocketLock) (k refused : SocketProg) : SocketProg :=
  if blocking then .lock l k else .tryLock l k refused

namespace LockConfig
variable (cfg : LockConfig)

def leaf (l : LeafLock) (k : SocketProg) : SocketProg := .lock (.leaf cfg.socket l) (.unlock (.leaf cfg.socket l) k)

/-! ## The backend -/

def sendFrameMode (blocking : Bool) (k : Outcome → SocketProg) : SocketProg :=
  if cfg.dpdk then
    -- no mbuf, or the frame does not fit
    oneOf (k .error) [guarded blocking .qTx0 (.unlock .qTx0 (oneOf (k .ok) [k .error, k .wouldBlock])) (k .wouldBlock)]
  else oneOf (k .ok) [k .error, k .wouldBlock]

def directSend (k : Outcome → SocketProg) : SocketProg :=
  oneOf (k .error) [.lock .qTxDirect (.unlock .qTxDirect (oneOf (k .ok) [k .error, k .wouldBlock]))]

/-- `recv_guarded`, `try_recv_guarded` or the generic backend: the burst, an error, or a queue that is busy. -/
def recvFrames (blocking : Bool) (burst failed busy : SocketProg) : SocketProg :=
  if cfg.dpdk then guarded blocking .qRx0 (.unlock .qRx0 (oneOf burst [failed])) busy else oneOf burst [failed]

/-! ## Receiving -/

def sendAutoReply (blocking : Bool) (k : SocketProg) : SocketProg :=
  cfg.sendFrameMode blocking fun outcome => if !blocking ∧ outcome = .wouldBlock then .count k else k

/-- `process_frame_zerocopy_locked`: what the frame turns out to be. -/
def processFrame (blocking : Bool) (k : SocketProg) : SocketProg :=
  oneOf k [cfg.leaf .arpCache (oneOf k [cfg.sendAutoReply blocking k]), cfg.sendAutoReply blocking k,
    cfg.leaf .errorQueue k, cfg.leaf .ndpCache (oneOf k [cfg.sendAutoReply blocking k]),
    cfg.leaf .arpCache (cfg.leaf .connectedAddr (oneOf k [cfg.leaf .connectionState k])),
    cfg.leaf .ndpCache (cfg.leaf .connectedAddr (oneOf k [cfg.leaf .connectionState k])), cfg.leaf .connectedAddr k]

def processFrames (blocking : Bool) (k : SocketProg) : Nat → SocketProg
  | 0 => k
  | frames + 1 => cfg.processFrame blocking (processFrames blocking k frames)

def leaveRx (outcome : Outcome) : SocketProg := .unlock (.rxState cfg.socket) (.done outcome)

def tryRecvFromInlinePoll (blocking : Bool) : SocketProg :=
  guarded blocking (.rxState cfg.socket)
    (oneOf (cfg.leaveRx .ok)
      [cfg.recvFrames blocking (.choose fun frames => cfg.processFrames blocking (cfg.leaveRx .ok) frames)
        (cfg.leaveRx .error) (cfg.leaveRx .wouldBlock)])
    (.done .wouldBlock)

def tryRecvFromPipeline (blocking : Bool) : SocketProg :=
  guarded blocking (.rxState cfg.socket)
    (oneOf (cfg.leaveRx .ok) [cfg.leaf .connectedAddr (cfg.leaveRx .ok)])
    (.done .wouldBlock)

/-- The loop of `recv_from_inline`, until it returns or its deadline has come. -/
def recvFromInlineLoop : Nat → SocketProg
  | 0 => .done .wouldBlock
  | turns + 1 =>
    let next := recvFromInlineLoop turns
    .lock (.rxState cfg.socket)
      (oneOf (cfg.leaveRx .ok)
        [cfg.recvFrames true
          (oneOf (.unlock (.rxState cfg.socket) (.sleep next))
            [.choose fun frames => cfg.processFrames true (oneOf (cfg.leaveRx .ok) [.unlock (.rxState cfg.socket) next])
              frames])
          (cfg.leaveRx .error) (cfg.leaveRx .error)])

def recvFromPipelineLoop : Nat → SocketProg
  | 0 => .done .wouldBlock
  | turns + 1 =>
    let next := recvFromPipelineLoop turns
    .lock (.rxState cfg.socket)
      (oneOf (cfg.leaveRx .ok)
        [cfg.leaf .connectedAddr (.unlock (.rxState cfg.socket) next),
          cfg.leaf .connectedAddr (cfg.leaf .connectionState (cfg.leaveRx .ok)),
          cfg.leaf .connectionState (cfg.leaveRx .ok), .unlock (.rxState cfg.socket) (.sleep next)])

/-! ## Sending -/

def resolveFrame (k : SocketProg) : SocketProg :=
  oneOf k [cfg.leaf .arpCache (oneOf k [cfg.sendFrameMode true fun _ => k])]

def resolveFrames (k : SocketProg) : Nat → SocketProg
  | 0 => k
  | frames + 1 => cfg.resolveFrame (resolveFrames k frames)

/-- The polls of one attempt: the address is found, a burst fails, or the attempt is over. -/
def resolvePolls (found failed next : SocketProg) : Nat → SocketProg
  | 0 => next
  | polls + 1 =>
    .lock (.rxState cfg.socket)
      (cfg.recvFrames true
        (.choose fun frames => cfg.resolveFrames
          (.unlock (.rxState cfg.socket)
            (cfg.leaf .arpCache (oneOf found [.sleep (resolvePolls found failed next polls)]))) frames)
        (.unlock (.rxState cfg.socket) failed) (.unlock (.rxState cfg.socket) failed))

def resolveAttempts (found failed : SocketProg) : Nat → SocketProg
  | 0 => failed
  | attempts + 1 =>
    cfg.sendFrameMode true fun outcome =>
      if outcome = .ok then cfg.resolvePolls found failed (resolveAttempts found failed attempts) 10000 else failed

def resolveArp (found failed : SocketProg) : SocketProg := oneOf found [cfg.resolveAttempts found failed 3]

/-- With `tx_state`: the frame is built and handed to `send`. -/
def transmit (blocking : Bool) (send : (Outcome → SocketProg) → SocketProg) : SocketProg :=
  let leave (outcome : Outcome) : SocketProg := .unlock (.txState cfg.socket) (.done outcome)
  guarded blocking (.txState cfg.socket)
    (oneOf (leave .error) [send fun outcome =>
      if outcome = .ok then oneOf (leave .ok) [cfg.leaf .connectionState (leave .ok)] else leave outcome])
    (.done .wouldBlock)

/-- `send_to_v4`; `known` says that the cache has the next hop. -/
def sendToV4 (blocking known : Bool) : SocketProg :=
  let send := cfg.transmit blocking fun k => if cfg.direct then directSend k else cfg.sendFrameMode blocking k
  oneOf (.done .error)
    [cfg.leaf .arpCache (if known then send else oneOf send [cfg.resolveArp send (.done .error)])]

/-- `send_to_v6`, where a solicitation is sent for an address that is not known. -/
def sendToV6 (blocking known : Bool) : SocketProg :=
  let send := cfg.transmit blocking (cfg.sendFrameMode blocking)
  oneOf (.done .error)
    [cfg.leaf .ndpCache (if known then send else oneOf send [cfg.sendFrameMode blocking fun _ => send])]

end LockConfig

/-! ## The calls -/

/-- The calls on a socket; `v6` is the family of the address, `known` whether its next hop is. -/
inductive UdpCall
  | sendTo (v6 known : Bool)
  | send (v6 known : Bool)
  | trySendToNb (v6 known : Bool)
  | trySendNb (v6 known : Bool)
  | recvFrom (turns : Nat)
  | tryRecvFrom
  | tryRecvFromNb
  | connect
  /-- What the threads of a pipeline do: drain the receive queue, transmit a frame. -/
  | pipelineRecv
  | pipelineSend

namespace UdpCall

def sendToAddrMode (cfg : LockConfig) (v6 blocking known : Bool) : SocketProg :=
  if v6 then cfg.sendToV6 blocking known else cfg.sendToV4 blocking known

def prog (cfg : LockConfig) : UdpCall → SocketProg
  | sendTo v6 known => sendToAddrMode cfg v6 true known
  | send v6 known => cfg.leaf .connectedAddr (oneOf (.done .error) [sendToAddrMode cfg v6 true known])
  | trySendToNb v6 known => sendToAddrMode cfg v6 false known
  | trySendNb v6 known => cfg.leaf .connectedAddr (oneOf (.done .error) [sendToAddrMode cfg v6 false known])
  | recvFrom turns =>
    cfg.leaf .readTimeout (if cfg.pipeline then cfg.recvFromPipelineLoop turns else cfg.recvFromInlineLoop turns)
  | tryRecvFrom => if cfg.pipeline then cfg.tryRecvFromPipeline true else cfg.tryRecvFromInlinePoll true
  | tryRecvFromNb => if cfg.pipeline then cfg.tryRecvFromPipeline false else cfg.tryRecvFromInlinePoll false
  | connect => cfg.leaf .connectionState (cfg.leaf .connectedAddr (.done .ok))
  | pipelineRecv => .lock .qRx0 (.unlock .qRx0 (.done .ok))
  | pipelineSend => .lock .qTx0 (.unlock .qTx0 (.done .ok))

end UdpCall

/-! ## The order -/

/-- The program keeps the documented order when it is started with these locks. -/
abbrev Keeps (p : SocketProg) (held : List SocketLock) : Prop := Ordered SocketLock.rank p held

section order
variable {cfg : LockConfig} {held : List SocketLock} {k p : SocketProg} {ps : List SocketProg} {blocking : Bool}

theorem getD_of_forall {P : SocketProg → Prop} (h : P p) (hs : ∀ q ∈ ps, P q) (n : Nat) : P ((p :: ps).getD n p) := by
  rw [List.getD_eq_getElem?_getD]
  cases hn : (p :: ps)[n]? with
  | none => exact h
  | some q =>
    rcases List.mem_cons.1 (List.mem_of_getElem? hn) with rfl | hq
    · exact h
    · exact hs q hq

theorem keeps_oneOf (h : Keeps p held) (hs : ∀ q ∈ ps, Keeps q held) : Keeps (oneOf p ps) held := by
  intro n
  exact getD_of_forall h hs n

theorem keeps_either {q : SocketProg} (h : Keeps p held) (h' : Keeps q held) : Keeps (oneOf p [q]) held :=
  keeps_oneOf h (by simpa using h')

theorem keeps_moment {l : SocketLock} (hl : ∀ h ∈ held, h.rank < l.rank) (hk : Keeps k held) :
    Keeps (.lock l (.unlock l k)) held := by
  refine ⟨hl, List.mem_cons_self, ?_⟩
  rwa [List.erase_cons_head]

theorem keeps_guarded {l : SocketLock} {refused : SocketProg} (hl : ∀ h ∈ held, h.rank < l.rank)
    (hk : Keeps k (l :: held)) (hr : Keeps refused held) : Keeps (guarded blocking l k refused) held := by
  cases blocking with
  | false => exact ⟨hl, hk, hr⟩
  | true => exact ⟨hl, hk⟩

theorem keeps_unlock {l : SocketLock} (hk : Keeps k held) : Keeps (.unlock l k) (l :: held) := by
  refine ⟨List.mem_cons_self, ?_⟩
  rwa [List.erase_cons_head]

theorem keeps_leaf {l : LeafLock} (hl : ∀ h ∈ held, h.rank < 5) (hk : Keeps k held) : Keeps (cfg.leaf l k) held :=
  keeps_moment hl hk

theorem keeps_sendFrameMode {k : Outcome → SocketProg} (hl : ∀ h ∈ held, h.rank < 3) (hk : ∀ o, Keeps (k o) held) :
    Keeps (cfg.sendFrameMode blocking k) held := by
  have hsent : Keeps (oneOf (k .ok) [k .error, k .wouldBlock]) held := keeps_oneOf (hk _) (by simp [hk])
  unfold LockConfig.sendFrameMode
  split_ifs
  · exact keeps_either (hk _) (keeps_guarded hl (keeps_unlock hsent) (hk _))
  · exact hsent

theorem keeps_directSend {k : Outcome → SocketProg} (hl : ∀ h ∈ held, h.rank < 4) (hk : ∀ o, Keeps (k o) held) :
    Keeps (LockConfig.directSend k) held := by
  exact keeps_either (hk _) (keeps_moment hl (keeps_oneOf (hk _) (by simp [hk])))

theorem keeps_recvFrames {burst failed busy : SocketProg} (hl : ∀ h ∈ held, h.rank < 1) (hburst : Keeps burst held)
    (hfailed : Keeps failed held) (hbusy : Keeps busy held) : Keeps (cfg.recvFrames blocking burst failed busy) held := by
  have hgot : Keeps (oneOf burst [failed]) held := keeps_either hburst hfailed
  unfold LockConfig.recvFrames
  split_ifs
  · exact keeps_guarded hl (keeps_unlock hgot) hbusy
  · exact hgot

/-! With `rx_state` in hand: -/

theorem rank_rx (cfg : LockConfig) {n : Nat} (hn : 0 < n) : ∀ h ∈ [SocketLock.rxState cfg.socket], h.rank < n := by
  simpa [SocketLock.rank] using hn

theorem keeps_leaveRx (o : Outcome) : Keeps (cfg.leaveRx o) [.rxState cfg.socket] := keeps_unlock rfl

theorem keeps_sendAutoReply (hk : Keeps k [.rxState cfg.socket]) :
    Keeps (cfg.sendAutoReply blocking k) [.rxState cfg.socket] := by
  refine keeps_sendFrameMode (rank_rx cfg (by decide)) fun o => ?_
  split_ifs <;> exact hk

theorem keeps_processFrame (hk : Keeps k [.rxState cfg.socket]) :
    Keeps (cfg.processFrame blocking k) [.rxState cfg.socket] := by
  have hleaf {l : LeafLock} {k : SocketProg} (hk : Keeps k [.rxState cfg.socket]) :
      Keeps (cfg.leaf l k) [.rxState cfg.socket] := keeps_leaf (rank_rx cfg (by decide)) hk
  have hreply : Keeps (oneOf k [cfg.sendAutoReply blocking k]) [.rxState cfg.socket] :=
    keeps_either hk (keeps_sendAutoReply hk)
  have hcounted : Keeps (oneOf k [cfg.leaf .connectionState k]) [.rxState cfg.socket] :=
    keeps_either hk (hleaf hk)
  refine keeps_oneOf hk ?_
  simp only [List.forall_mem_cons, List.not_mem_nil, false_implies, implies_true, and_true]
  exact ⟨hleaf hreply, keeps_sendAutoReply hk, hleaf hk, hleaf hreply, hleaf (hleaf hcounted), hleaf (hleaf hcounted),
    hleaf hk⟩

theorem keeps_processFrames (hk : Keeps k [.rxState cfg.socket]) (frames : Nat) :
    Keeps (cfg.processFrames blocking k frames) [.rxState cfg.socket] := by
  induction frames with
  | zero => exact hk
  | succ frames ih => exact keeps_processFrame ih

theorem keeps_tryRecvFromInlinePoll : Keeps (cfg.tryRecvFromInlinePoll blocking) [] := by
  refine keeps_guarded (by simp) (keeps_either (keeps_leaveRx _) ?_) rfl
  exact keeps_recvFrames (rank_rx cfg (by decide)) (fun frames => keeps_processFrames (keeps_leaveRx _) frames)
    (keeps_leaveRx _) (keeps_leaveRx _)

theorem keeps_tryRecvFromPipeline : Keeps (cfg.tryRecvFromPipeline blocking) [] := by
  refine keeps_guarded (by simp) (keeps_either (keeps_leaveRx _) ?_) rfl
  exact keeps_leaf (rank_rx cfg (by decide)) (keeps_leaveRx _)

theorem keeps_recvFromInlineLoop (turns : Nat) : Keeps (cfg.recvFromInlineLoop turns) [] := by
  induction turns with
  | zero => rfl
  | succ turns ih =>
    refine ⟨by simp, keeps_either (keeps_leaveRx _) (keeps_recvFrames (rank_rx cfg (by decide))
      (keeps_either (keeps_unlock ⟨rfl, ih⟩) ?_) (keeps_leaveRx _) (keeps_leaveRx _))⟩
    exact fun frames => keeps_processFrames (keeps_either (keeps_leaveRx _) (keeps_unlock ih)) frames

theorem keeps_recvFromPipelineLoop (turns : Nat) : Keeps (cfg.recvFromPipelineLoop turns) [] := by
  induction turns with
  | zero => rfl
  | succ turns ih =>
    have hleaf {l : LeafLock} {k : SocketProg} (hk : Keeps k [.rxState cfg.socket]) :
        Keeps (cfg.leaf l k) [.rxState cfg.socket] := keeps_leaf (rank_rx cfg (by decide)) hk
    refine ⟨by simp, keeps_oneOf (keeps_leaveRx _) ?_⟩
    simp only [List.forall_mem_cons, List.not_mem_nil, false_implies, implies_true, and_true]
    exact ⟨hleaf (keeps_unlock ih), hleaf (hleaf (keeps_leaveRx _)), hleaf (keeps_leaveRx _), keeps_unlock ⟨rfl, ih⟩⟩

theorem keeps_resolveFrames (hk : Keeps k [.rxState cfg.socket]) (frames : Nat) :
    Keeps (cfg.resolveFrames k frames) [.rxState cfg.socket] := by
  induction frames with
  | zero => exact hk
  | succ frames ih =>
    refine keeps_either ih (keeps_leaf (rank_rx cfg (by decide)) (keeps_either ih ?_))
    exact keeps_sendFrameMode (rank_rx cfg (by decide)) fun _ => ih

theorem keeps_resolvePolls {found failed next : SocketProg} (hfound : Keeps found []) (hfailed : Keeps failed [])
    (hnext : Keeps next []) (polls : Nat) : Keeps (cfg.resolvePolls found failed next polls) [] := by
  induction polls with
  | zero => exact hnext
  | succ polls ih =>
    have hpolled : Keeps (cfg.leaf .arpCache (oneOf found [.sleep (cfg.resolvePolls found failed next polls)])) [] :=
      keeps_leaf (by simp) (keeps_either hfound ⟨rfl, ih⟩)
    exact ⟨by simp, keeps_recvFrames (rank_rx cfg (by decide))
      (fun frames => keeps_resolveFrames (keeps_unlock hpolled) frames) (keeps_unlock hfailed) (keeps_unlock hfailed)⟩

theorem keeps_resolveAttempts {found failed : SocketProg} (hfound : Keeps found []) (hfailed : Keeps failed [])
    (attempts : Nat) : Keeps (cfg.resolveAttempts found failed attempts) [] := by
  induction attempts with
  | zero => exact hfailed
  | succ attempts ih =>
    refine keeps_sendFrameMode (by simp) fun o => ?_
    split_ifs
    · exact keeps_resolvePolls hfound hfailed ih _
    · exact hfailed

/-! With `tx_state`: -/

theorem rank_tx (cfg : LockConfig) {n : Nat} (hn : 2 < n) : ∀ h ∈ [SocketLock.txState cfg.socket], h.rank < n := by
  simpa [SocketLock.rank] using hn

theorem keeps_transmit {send : (Outcome → SocketProg) → SocketProg}
    (hsend : ∀ k, (∀ o, Keeps (k o) [.txState cfg.socket]) → Keeps (send k) [.txState cfg.socket]) :
    Keeps (cfg.transmit blocking send) [] := by
  have hleave (o : Outcome) : Keeps (.unlock (.txState cfg.socket) (.done o)) [.txState cfg.socket] := keeps_unlock rfl
  refine keeps_guarded (by simp) (keeps_either (hleave _) (hsend _ fun o => ?_)) rfl
  split_ifs
  · exact keeps_either (hleave _) (keeps_leaf (rank_tx cfg (by decide)) (hleave _))
  · exact hleave _

theorem keeps_sendToAddrMode (v6 known : Bool) : Keeps (UdpCall.sendToAddrMode cfg v6 blocking known) [] := by
  have herror : Keeps (.done .error) [] := rfl
  cases v6 with
  | false =>
    have hsend : Keeps (cfg.transmit blocking fun k =>
        if cfg.direct then LockConfig.directSend k else cfg.sendFrameMode blocking k) [] := by
      refine keeps_transmit fun k hk => ?_
      split_ifs
      · exact keeps_directSend (rank_tx cfg (by decide)) hk
      · exact keeps_sendFrameMode (rank_tx cfg (by decide)) hk
    refine keeps_either herror (keeps_leaf (by simp) ?_)
    cases known with
    | true => exact hsend
    | false => exact keeps_either hsend (keeps_either hsend (keeps_resolveAttempts hsend herror 3))
  | true =>
    have hsend : Keeps (cfg.transmit blocking (cfg.sendFrameMode blocking)) [] :=
      keeps_transmit fun k hk => keeps_sendFrameMode (rank_tx cfg (by decide)) hk
    refine keeps_either herror (keeps_leaf (by simp) ?_)
    cases known with
    | true => exact hsend
    | false => exact keeps_either hsend (keeps_sendFrameMode (by simp) fun _ => hsend)

/-- Every call keeps to the order of the locks. -/
theorem keeps_prog (cfg : LockConfig) (call : UdpCall) : Keeps (call.prog cfg) [] := by
  have herror : Keeps (.done .error) [] := rfl
  cases call with
  | sendTo v6 known | trySendToNb v6 known => exact keeps_sendToAddrMode v6 known
  | send v6 known | trySendNb v6 known =>
    exact keeps_leaf (by simp) (keeps_either herror (keeps_sendToAddrMode v6 known))
  | recvFrom turns =>
    refine keeps_leaf (by simp) ?_
    split_ifs
    · exact keeps_recvFromPipelineLoop turns
    · exact keeps_recvFromInlineLoop turns
  | tryRecvFrom | tryRecvFromNb =>
    unfold UdpCall.prog
    split_ifs
    · exact keeps_tryRecvFromPipeline
    · exact keeps_tryRecvFromInlinePoll
  | connect => exact keeps_leaf (by simp) (keeps_leaf (by simp) rfl)
  | pipelineRecv => exact keeps_moment (by simp) rfl
  | pipelineSend => exact keeps_moment (by simp) rfl

end order

/-- **Deadlock freedom.** Every call takes its locks in the documented order, the leaf locks last, and holds none when it
sleeps or returns; and whenever threads, any number of them, that make such calls on any sockets are not all done, one of
them can take a step. -/
theorem calls_deadlock_free {ι : Type} (cfg : Nat → LockConfig) :
    (∀ socket call, Ordered SocketLock.rank (UdpCall.prog (cfg socket) call) []) ∧
    ∀ s : ι → LockThread SocketLock Outcome, Reachable (fun p => ∃ socket call, p = UdpCall.prog (cfg socket) call) s →
      ∀ i, (∀ r, (s i).prog ≠ .done r) → ∃ j t, (s j).Step (Free s) t := by
  refine ⟨fun socket call => keeps_prog _ _, fun s hs i hi => ?_⟩
  have hprogs : ∀ p, (∃ socket call, p = UdpCall.prog (cfg socket) call) → Ordered SocketLock.rank p [] := by
    rintro p ⟨socket, call, rfl⟩
    exact keeps_prog _ _
  have hbound : ∀ l : SocketLock, l.rank ≤ 5 := by
    intro l
    cases l <;> simp [SocketLock.rank]
  exact exists_step hbound (hs.ordered hprogs) hi

/-- Two threads are in `try_recv_from` on one socket: the first has taken `rx_state`, the second waits for it. -/
theorem calls_deadlock_free_sample : ∃ s : Bool → LockThread SocketLock Outcome,
    (s false).held = [.rxState 0] ∧ (∃ k, (s true).prog = .lock (.rxState 0) k) ∧ ∃ j t, (s j).Step (Free s) t := by
  let cfg : Nat → LockConfig := fun socket => ⟨socket, true, false, false⟩
  let idle : Bool → LockThread SocketLock Outcome := fun _ => ⟨.done .ok, []⟩
  have hidle : Reachable (fun p => ∃ socket call, p = UdpCall.prog (cfg socket) call) idle := .idle fun _ => ⟨.ok, rfl⟩
  have hfirst := hidle.call (i := false) rfl ⟨0, .tryRecvFrom, rfl⟩
  have hboth := hfirst.call (i := true) rfl ⟨0, .tryRecvFrom, rfl⟩
  have hfree : Free (Function.update (Function.update idle false ⟨UdpCall.prog (cfg 0) .tryRecvFrom, []⟩) true
      ⟨UdpCall.prog (cfg 0) .tryRecvFrom, []⟩) (.rxState 0) := by
    intro i
    cases i <;> exact List.not_mem_nil
  have hheld := hboth.step (i := false) (.lock hfree)
  have hwaits (r : Outcome) : (UdpCall.prog (cfg 0) .tryRecvFrom) ≠ .done r := by
    intro h
    cases h
  exact ⟨_, rfl, ⟨_, rfl⟩, (calls_deadlock_free cfg).2 _ hheld true hwaits⟩

/-! ## Calls that do not wait -/

/-- Everything is released, and the call ends with `WouldBlock`. -/
def GivesUp : SocketProg → Prop
  | .done outcome => outcome = .wouldBlock
  | .unlock _ k => GivesUp k
  | _ => False

/-- Where the program finds a lock taken it gives up, or counts and goes on. -/
def Declines : SocketProg → Prop
  | .done _ => True
  | .lock _ k | .unlock _ k | .sleep k | .count k => Declines k
  | .tryLock _ k refused => Declines k ∧ Declines refused ∧ (GivesUp refused ∨ ∃ k', refused = .count k')
  | .choose k => ∀ n, Declines (k n)

/-- The program waits for no lock but leaf locks, and declines where another is taken. -/
structure Prompt (p : SocketProg) : Prop where
  waits : ∀ l : SocketLock, l.isLeaf = false → ¬ MayWait l p
  declines : Declines p

/-- The non-blocking calls, on a next hop that is known. -/
def UdpCall.NonBlocking : UdpCall → Prop
  | trySendToNb _ known | trySendNb _ known => known = true
  | tryRecvFromNb => True
  | _ => False

/-- The call transmits with the function that was made for the pipeline. -/
def UdpCall.Direct (cfg : LockConfig) : UdpCall → Prop
  | trySendToNb v6 _ | trySendNb v6 _ => v6 = false ∧ cfg.direct = true
  | _ => False

section prompt
variable {cfg : LockConfig} {k p : SocketProg} {ps : List SocketProg}

theorem prompt_done (o : Outcome) : Prompt (.done o) := ⟨fun _ _ h => h, trivial⟩

theorem prompt_choose {k : Nat → SocketProg} (h : ∀ n, Prompt (k n)) : Prompt (.choose k) where
  waits l hl := by
    rintro ⟨n, hn⟩
    exact (h n).waits l hl hn
  declines n := (h n).declines

theorem prompt_oneOf (h : Prompt p) (hs : ∀ q ∈ ps, Prompt q) : Prompt (oneOf p ps) :=
  prompt_choose (getD_of_forall h hs)

theorem prompt_either {q : SocketProg} (h : Prompt p) (h' : Prompt q) : Prompt (oneOf p [q]) :=
  prompt_oneOf h (by simpa using h')

theorem prompt_leaf {l : LeafLock} (h : Prompt k) : Prompt (cfg.leaf l k) where
  waits l' hl' := by
    rintro (rfl | hk)
    · cases hl'
    · exact h.waits l' hl' hk
  declines := h.declines

theorem prompt_unlock {l : SocketLock} (h : Prompt k) : Prompt (.unlock l k) := ⟨h.waits, h.declines⟩

theorem prompt_guarded {l : SocketLock} {refused : SocketProg} (h : Prompt k) (hrefused : Prompt refused)
    (hgives : GivesUp refused ∨ ∃ k', refused = .count k') : Prompt (guarded false l k refused) where
  waits l' hl' := by
    rintro (hk | hk)
    · exact h.waits l' hl' hk
    · exact hrefused.waits l' hl' hk
  declines := ⟨h.declines, hrefused.declines, hgives⟩

theorem prompt_sendFrameMode {k : Outcome → SocketProg} (h : ∀ o, Prompt (k o))
    (hgives : GivesUp (k .wouldBlock) ∨ ∃ k', k .wouldBlock = .count k') :
    Prompt (cfg.sendFrameMode false k) := by
  have hsent : Prompt (oneOf (k .ok) [k .error, k .wouldBlock]) := prompt_oneOf (h _) (by simp [h])
  unfold LockConfig.sendFrameMode
  split_ifs
  · exact prompt_either (h _) (prompt_guarded (prompt_unlock hsent) (h _) hgives)
  · exact hsent

theorem prompt_processFrames (h : Prompt k) (frames : Nat) : Prompt (cfg.processFrames false k frames) := by
  induction frames with
  | zero => exact h
  | succ frames ih =>
    have hreply : Prompt (cfg.sendAutoReply false (cfg.processFrames false k frames)) := by
      refine prompt_sendFrameMode (fun o => ?_) (.inr ⟨_, if_pos ⟨rfl, rfl⟩⟩)
      split_ifs
      · exact ⟨ih.waits, ih.declines⟩
      · exact ih
    have hreply' : Prompt (oneOf _ [cfg.sendAutoReply false _]) := prompt_either ih hreply
    have hcounted : Prompt (oneOf _ [cfg.leaf .connectionState _]) := prompt_either ih (prompt_leaf ih)
    refine prompt_oneOf ih ?_
    simp only [List.forall_mem_cons, List.not_mem_nil, false_implies, implies_true, and_true]
    exact ⟨prompt_leaf hreply', hreply, prompt_leaf ih, prompt_leaf hreply', prompt_leaf (prompt_leaf hcounted),
      prompt_leaf (prompt_leaf hcounted), prompt_leaf ih⟩

theorem prompt_leaveRx (o : Outcome) : Prompt (cfg.leaveRx o) := prompt_unlock (prompt_done o)

theorem prompt_tryRecvFromNb : Prompt (UdpCall.tryRecvFromNb.prog cfg) := by
  unfold UdpCall.prog
  split_ifs
  · refine prompt_guarded (prompt_oneOf (prompt_leaveRx _) ?_) (prompt_done _) (.inl rfl)
    simpa using prompt_leaf (prompt_leaveRx _)
  · have hburst : Prompt (.choose fun frames => cfg.processFrames false (cfg.leaveRx .ok) frames) :=
      prompt_choose fun frames => prompt_processFrames (prompt_leaveRx _) frames
    have hgot : Prompt (oneOf _ [cfg.leaveRx .error]) := prompt_either hburst (prompt_leaveRx _)
    refine prompt_guarded (prompt_oneOf (prompt_leaveRx _) ?_) (prompt_done _) (.inl rfl)
    simp only [List.mem_singleton, forall_eq]
    unfold LockConfig.recvFrames
    split_ifs
    · exact prompt_guarded (prompt_unlock hgot) (prompt_leaveRx _) (.inl rfl)
    · exact hgot

theorem prompt_transmit : Prompt (cfg.transmit false (cfg.sendFrameMode false)) := by
  have hleave (o : Outcome) : Prompt (.unlock (.txState cfg.socket) (.done o)) := prompt_unlock (prompt_done o)
  refine prompt_guarded (prompt_oneOf (hleave _) ?_) (prompt_done _) (.inl rfl)
  simp only [List.mem_singleton, forall_eq]
  refine prompt_sendFrameMode (fun o => ?_) (.inl rfl)
  split_ifs
  · exact prompt_either (hleave _) (prompt_leaf (hleave _))
  · exact hleave o

theorem prompt_sendToAddrMode {v6 : Bool} (h : ¬ (v6 = false ∧ cfg.direct = true)) :
    Prompt (UdpCall.sendToAddrMode cfg v6 false true) := by
  cases v6 with
  | false =>
    have hdirect : cfg.direct = false := by simpa using h
    refine prompt_oneOf (prompt_done _) ?_
    simp only [List.mem_singleton, forall_eq, hdirect]
    exact prompt_leaf prompt_transmit
  | true => exact prompt_either (prompt_done _) (prompt_leaf prompt_transmit)

theorem mayWait_direct {call : UdpCall} (hcall : call.NonBlocking) (h : call.Direct cfg) :
    MayWait .qTxDirect (call.prog cfg) := by
  have hsend : cfg.direct = true → MayWait .qTxDirect (cfg.sendToV4 false true) := by
    intro hdirect
    refine ⟨1, .inr (.inl ⟨1, ?_⟩)⟩
    simp only [hdirect]
    exact ⟨1, .inl rfl⟩
  cases call with
  | trySendToNb v6 known =>
    obtain ⟨rfl, hdirect⟩ := h
    cases hcall
    exact hsend hdirect
  | trySendNb v6 known =>
    obtain ⟨rfl, hdirect⟩ := h
    cases hcall
    exact .inr ⟨1, hsend hdirect⟩
  | _ => cases h

end prompt

/-- **Non-blocking calls.** Unless it transmits directly, such a call waits for none of the guards: as long as the leaf
locks are free it goes on, and ends; where it finds a guard taken it returns `WouldBlock`, or drops and counts a reply.  A
call that transmits directly may wait for `q_tx_direct`. -/
theorem nonblocking_calls {cfg : LockConfig} {call : UdpCall} (hcall : call.NonBlocking) :
    (Prompt (call.prog cfg) ∧
      (∀ t : LockThread SocketLock Outcome, Relation.ReflTransGen (fun t t' => ∃ free, t.Step free t')
        ⟨call.prog cfg, []⟩ t → ∀ free : SocketLock → Prop, (∀ l, l.isLeaf = true → free l) →
          (∃ r, t.prog = .done r) ∨ ∃ t', t.Step free t') ∧
      Acc (fun t' t : LockThread SocketLock Outcome => ∃ free, t.Step free t') ⟨call.prog cfg, []⟩) ↔
    ¬ call.Direct cfg := by
  constructor
  · rintro ⟨hprompt, -, -⟩ hdirect
    exact hprompt.waits _ rfl (mayWait_direct hcall hdirect)
  intro hdirect
  have hprompt : Prompt (call.prog cfg) := by
    cases call with
    | trySendToNb v6 known =>
      cases hcall
      exact prompt_sendToAddrMode hdirect
    | trySendNb v6 known =>
      cases hcall
      exact prompt_leaf (prompt_either (prompt_done _) (prompt_sendToAddrMode hdirect))
    | tryRecvFromNb => exact prompt_tryRecvFromNb
    | _ => cases hcall
  refine ⟨hprompt, fun t ht free hfree => ?_, acc_step _ _⟩
  have hwaits : ∀ l : SocketLock, l.isLeaf = false → ¬ MayWait l t.prog := by
    induction ht with
    | refl => exact hprompt.waits
    | tail _ hstep ih =>
      obtain ⟨_, hstep⟩ := hstep
      exact fun l hl h => ih l hl (h.of_step hstep)
  refine step_of_not_mayWait fun l hl => hwaits l ?_
  by_contra hleaf
  exact hl (hfree l (by simpa using hleaf))

theorem nonblocking_calls_sample :
    Prompt (UdpCall.prog ⟨0, true, false, false⟩ (.trySendToNb false true)) ∧
      ¬ MayWait .qTx0 (UdpCall.prog ⟨0, true, true, true⟩ .tryRecvFromNb) := by
  have hsend : ¬ UdpCall.Direct ⟨0, true, false, false⟩ (.trySendToNb false true) := by simp [UdpCall.Direct]
  have hrecv : ¬ UdpCall.Direct ⟨0, true, true, true⟩ .tryRecvFromNb := by simp [UdpCall.Direct]
  have hcalls : (UdpCall.trySendToNb false true).NonBlocking ∧ UdpCall.tryRecvFromNb.NonBlocking := ⟨rfl, trivial⟩
  exact ⟨((nonblocking_calls hcalls.1).2 hsend).1, ((nonblocking_calls hcalls.2).2 hrecv).1.waits _ rfl⟩

/-- A thread that sends directly without blocking comes to wait for `q_tx_direct`. -/
theorem direct_send_waits : ∃ k held, Relation.ReflTransGen
      (fun t t' : LockThread SocketLock Outcome => t.Step (· ≠ .qTxDirect) t')
      ⟨UdpCall.prog ⟨0, true, true, true⟩ (.trySendToNb false true), []⟩ ⟨.lock .qTxDirect k, held⟩ ∧
    ¬ ∃ t', LockThread.Step (· ≠ .qTxDirect) ⟨.lock .qTxDirect k, held⟩ t' := by
  have hrun : ∃ k, Relation.ReflTransGen
      (fun t t' : LockThread SocketLock Outcome => t.Step (· ≠ .qTxDirect) t')
      ⟨UdpCall.prog ⟨0, true, true, true⟩ (.trySendToNb false true), []⟩ ⟨.lock .qTxDirect k, [.txState 0]⟩ := by
    apply Exists.intro
    refine .head (.choose 1) (.head (.lock (by simp)) (.head .unlock (.head (.taken (by simp)) ?_)))
    exact .head (.choose 1) (.single (.choose 1))
  obtain ⟨k, hrun⟩ := hrun
  refine ⟨k, _, hrun, ?_⟩
  rintro ⟨t', ht⟩
  cases ht with
  | lock h => exact h rfl

end DpdkStdlib.Udp

import DpdkStdlib.Tcp.Seq
import DpdkStdlib.Tcp.State

/-!
# Congestion control (`congestion.rs`)

The window arithmetic: `u32` counters are numbers with the source's saturating operations.  The engine runs `on_ack`,
`on_rto` and `backoff_rto`; nothing in it calls `update_rtt` or the three functions of fast recovery.
-/

namespace DpdkStdlib.Tcp

def u32Max : Nat := 2 ^ 32 - 1

def satAdd (a b : Nat) : Nat := min (a + b) u32Max

def satMul (a b : Nat) : Nat := min (a * b) u32Max

structure CongestionState where
  cwnd : Nat
  ssthresh : Nat
  srtt : Option Duration
  rttvar : Option Duration
  rto : Duration
  inRecovery : Bool
  recoveryPoint : SeqNum
  dupAckCount : Nat

namespace CongestionState

/-- Initial window: `min(10*MSS, max(2*MSS, 14600))`. -/
def initialWindow (mss : UInt16) : Nat := min (10 * mss.toNat) (max (2 * mss.toNat) 14600)

def new (mss : UInt16) : CongestionState where
  cwnd := initialWindow mss
  ssthresh := u32Max
  srtt := none
  rttvar := none
  rto := fromSecs 1
  inRecovery := false
  recoveryPoint := ⟨0⟩
  dupAckCount := 0

/-- A new acknowledgment: slow start below `ssthresh`, congestion avoidance above. -/
def onAck (c : CongestionState) (_bytesAcked : Nat) (mss : UInt16) : CongestionState :=
  let mss := mss.toNat
  if c.inRecovery then c
  else if c.cwnd < c.ssthresh then { c with dupAckCount := 0, cwnd := satAdd c.cwnd mss }
  else
    let increment := satMul mss mss / max c.cwnd 1
    { c with dupAckCount := 0, cwnd := satAdd c.cwnd (max increment 1) }

def effectiveWindow (c : CongestionState) (rwnd : Nat) : Nat := min c.cwnd rwnd

def backoffRto (c : CongestionState) : CongestionState := { c with rto := min (c.rto * 2) (fromSecs 60) }

/-- `on_rto`: the window collapses to one segment. -/
def onRto (c : CongestionState) (flightSize : Nat) (mss : UInt16) : CongestionState :=
  { c with
    ssthresh := max (flightSize / 2) (2 * mss.toNat)
    cwnd := mss.toNat
    inRecovery := false
    dupAckCount := 0 }

/-! ## Round-trip times and fast recovery -/

/-- A round-trip time: smoothed time, variance, and the timeout from both; `srtt` and `rttvar` are set together. -/
def updateRtt (c : CongestionState) (sample : Duration) : CongestionState :=
  let (srtt, rttvar) := match c.srtt, c.rttvar with
    | some srtt, some rttvar =>
      let diff := if sample > srtt then sample - srtt else srtt - sample
      (srtt * 7 / 8 + sample / 8, rttvar * 3 / 4 + diff / 4)
    | _, _ => (sample, sample / 2)
  let rto := srtt + max (fromMillis 1) (rttvar * 4)
  { c with srtt := some srtt, rttvar := some rttvar, rto := max (fromSecs 1) (min rto (fromSecs 60)) }

/-- `on_triple_dup_ack`: fast recovery with an inflated window. -/
def onTripleDupAck (c : CongestionState) (flightSize : Nat) (mss : UInt16) : CongestionState :=
  let ssthresh := max (flightSize / 2) (2 * mss.toNat)
  { c with ssthresh, cwnd := ssthresh + 3 * mss.toNat, inRecovery := true }

/-- The window shrinks by what was acknowledged (`saturating_sub`). -/
def onPartialAck (c : CongestionState) (bytesAcked : Nat) (_mss : UInt16) : CongestionState :=
  { c with cwnd := c.cwnd - bytesAcked }

def onRecoveryExit (c : CongestionState) : CongestionState :=
  { c with cwnd := c.ssthresh, inRecovery := false, dupAckCount := 0 }

@[simp] theorem rto_onAck (c : CongestionState) (n : Nat) (mss : UInt16) : (c.onAck n mss).rto = c.rto := by
  simp only [onAck]
  split_ifs <;> rfl

theorem effectiveWindow_le (c : CongestionState) (rwnd : Nat) : c.effectiveWindow rwnd ≤ rwnd := Nat.min_le_right _ _

end CongestionState

end DpdkStdlib.Tcp

import DpdkStdlib.Tcp.Congestion
import DpdkStdlib.Lib.Checked
import DpdkStdlib.Lib.Run

/-!
# Any history of the congestion state (`congestion.rs`)

A connection has one congestion state, and any of its functions may be called on it, in any order.  `apply` is what a
call computes; `checked` goes through the source's expressions and is `none` where one of them overflows or divides by
zero.
-/

namespace DpdkStdlib.Tcp
open DpdkStdlib.Lib

variable {sample : Duration} {c : CongestionState} {call : CongestionCall}

/-! ## Calls -/

/-- A call on the congestion state of a connection; the segment size is that of the connection. -/
inductive CongestionCall
  | ack (bytesAcked : Nat)
  | tripleDupAck (flightSize : Nat)
  | partialAck (bytesAcked : Nat)
  | recoveryExit
  | rto (flightSize : Nat)
  | backoffRto
  | updateRtt (sample : Duration)
deriving DecidableEq

namespace CongestionCall

/-- Byte counts are below `2^31`, round-trip times below an hour. -/
def InRange : CongestionCall → Prop
  | ack n | tripleDupAck n | partialAck n | rto n => n < 2 ^ 31
  | recoveryExit | backoffRto => True
  | updateRtt sample => sample < fromSecs 3600

instance : ∀ call : CongestionCall, Decidable call.InRange
  | ack n | tripleDupAck n | partialAck n | rto n => inferInstanceAs (Decidable (n < 2 ^ 31))
  | recoveryExit | backoffRto => inferInstanceAs (Decidable True)
  | updateRtt sample => inferInstanceAs (Decidable (sample < fromSecs 3600))

def apply (mss : UInt16) (c : CongestionState) : CongestionCall → CongestionState
  | ack n => c.onAck n mss
  | tripleDupAck n => c.onTripleDupAck n mss
  | partialAck n => c.onPartialAck n mss
  | recoveryExit => c.onRecoveryExit
  | rto n => c.onRto n mss
  | backoffRto => c.backoffRto
  | updateRtt sample => c.updateRtt sample

end CongestionCall

/-! ## The arithmetic of a call -/

def u32Bound : Nat := 2 ^ 32

/-- A `Duration` has 64-bit seconds. -/
def durationBound : Duration := fromSecs (2 ^ 64)

namespace CongestionState

def checkedNew (mss : UInt16) : Option CongestionState := do
  let cwnd := min (← Checked.mul u32Bound 10 mss.toNat) (max (← Checked.mul u32Bound 2 mss.toNat) 14600)
  return { new mss with cwnd }

def checkedOnAck (c : CongestionState) (mss : UInt16) : Option CongestionState := do
  let mss := mss.toNat
  if c.inRecovery then return c
  else if c.cwnd < c.ssthresh then return { c with dupAckCount := 0, cwnd := satAdd c.cwnd mss }
  else
    let increment ← Checked.div (satMul mss mss) (max c.cwnd 1)
    return { c with dupAckCount := 0, cwnd := satAdd c.cwnd (max increment 1) }

/-- `max(flight_size / 2, 2 * mss)`. -/
def checkedSsthresh (flightSize : Nat) (mss : UInt16) : Option Nat := do
  return max (← Checked.div flightSize 2) (← Checked.mul u32Bound 2 mss.toNat)

def checkedOnTripleDupAck (c : CongestionState) (flightSize : Nat) (mss : UInt16) : Option CongestionState := do
  let ssthresh ← checkedSsthresh flightSize mss
  let cwnd ← Checked.add u32Bound ssthresh (← Checked.mul u32Bound 3 mss.toNat)
  return { c with ssthresh, cwnd, inRecovery := true }

def checkedOnRto (c : CongestionState) (flightSize : Nat) (mss : UInt16) : Option CongestionState := do
  let ssthresh ← checkedSsthresh flightSize mss
  return { c with ssthresh, cwnd := mss.toNat, inRecovery := false, dupAckCount := 0 }

def checkedBackoffRto (c : CongestionState) : Option CongestionState := do
  return { c with rto := min (← Checked.mul durationBound c.rto 2) (fromSecs 60) }

def checkedDiff (sample srtt : Duration) : Option Duration :=
  if sample > srtt then Checked.sub sample srtt else Checked.sub srtt sample

/-- The estimators after a sample; `rttvar` is unwrapped. -/
def checkedEstimate (c : CongestionState) (sample : Duration) : Option (Duration × Duration) :=
  match c.srtt with
  | none => do return (sample, ← Checked.div sample 2)
  | some srtt => do
    let rttvar ← c.rttvar
    let diff ← checkedDiff sample srtt
    let rttvar ← Checked.add durationBound (← Checked.div (← Checked.mul durationBound rttvar 3) 4)
      (← Checked.div diff 4)
    let srtt ← Checked.add durationBound (← Checked.div (← Checked.mul durationBound srtt 7) 8)
      (← Checked.div sample 8)
    return (srtt, rttvar)

/-- `update_rtt`, where a `Duration` may overflow. -/
def checkedUpdateRtt (c : CongestionState) (sample : Duration) : Option CongestionState := do
  let (srtt, rttvar) ← c.checkedEstimate sample
  let rto ← Checked.add durationBound srtt (max (fromMillis 1) (← Checked.mul durationBound rttvar 4))
  return { c with srtt := some srtt, rttvar := some rttvar, rto := max (fromSecs 1) (min rto (fromSecs 60)) }

end CongestionState

/-- A call with the source's arithmetic: `none` is an overflow, a division by zero or a failed `unwrap`. -/
def CongestionCall.checked (mss : UInt16) (c : CongestionState) : CongestionCall → Option CongestionState
  | ack _ => c.checkedOnAck mss
  | tripleDupAck n => c.checkedOnTripleDupAck n mss
  | partialAck n => some (c.onPartialAck n mss)
  | recoveryExit => some c.onRecoveryExit
  | rto n => c.checkedOnRto n mss
  | backoffRto => c.checkedBackoffRto
  | updateRtt sample => c.checkedUpdateRtt sample

/-! ## What every call keeps -/

namespace CongestionState

theorem lt_durationBound {d : Nat} (h : d ≤ 8 * fromSecs 3600) : d < durationBound := by
  simp only [durationBound, fromSecs] at h ⊢
  omega

theorem mean_le {k a b bound : Nat} (hk : 0 < k) (ha : a ≤ bound) (hb : b ≤ bound) :
    a * (k - 1) / k + b / k ≤ bound := by
  calc a * (k - 1) / k + b / k ≤ (a * (k - 1) + b) / k := Nat.div_add_div_le_add_div
    _ ≤ (bound * (k - 1) + bound) / k := Nat.div_le_div_right (Nat.add_le_add (Nat.mul_le_mul_right _ ha) hb)
    _ = bound := by rw [← Nat.mul_succ, Nat.succ_eq_add_one, Nat.sub_add_cancel hk, Nat.mul_div_cancel _ hk]

/-- The estimators are set together, and are at most an hour. -/
def Estimated (c : CongestionState) : Prop :=
  (c.srtt = none ∧ c.rttvar = none) ∨
    ∃ srtt rttvar, c.srtt = some srtt ∧ c.rttvar = some rttvar ∧ srtt ≤ fromSecs 3600 ∧ rttvar ≤ fromSecs 3600

/-- The ranges of the threshold, the timeout and the estimates. -/
structure Bounded (mss : UInt16) (c : CongestionState) : Prop where
  ssthresh : 2 * mss.toNat ≤ c.ssthresh
  rto : fromSecs 1 ≤ c.rto ∧ c.rto ≤ fromSecs 60
  estimated : c.Estimated

variable {mss : UInt16} {c : CongestionState}

theorem cwnd_new (mss : UInt16) : mss.toNat ≤ (new mss).cwnd := by
  show mss.toNat ≤ min (10 * mss.toNat) (max (2 * mss.toNat) 14600)
  omega

theorem bounded_new (mss : UInt16) : (new mss).Bounded mss where
  ssthresh := by
    have := mss.toNat_lt
    show 2 * mss.toNat ≤ 2 ^ 32 - 1
    omega
  rto := ⟨le_rfl, by show fromSecs 1 ≤ fromSecs 60; decide⟩
  estimated := .inl ⟨rfl, rfl⟩

theorem checkedNew_eq (mss : UInt16) : checkedNew mss = some (new mss) := by
  have := mss.toNat_lt
  rw [checkedNew, Checked.mul_eq (by rw [u32Bound]; omega), Option.bind_eq_bind, Option.bind_some,
    Checked.mul_eq (by rw [u32Bound]; omega)]
  rfl

theorem checkedSsthresh_eq (flightSize : Nat) (mss : UInt16) :
    checkedSsthresh flightSize mss = some (max (flightSize / 2) (2 * mss.toNat)) := by
  have := mss.toNat_lt
  rw [checkedSsthresh, Checked.div_eq (by decide), Checked.mul_eq (by rw [u32Bound]; omega)]
  rfl

theorem checkedOnAck_eq (c : CongestionState) (n : Nat) (mss : UInt16) : c.checkedOnAck mss = some (c.onAck n mss) := by
  unfold checkedOnAck onAck
  dsimp only
  split_ifs
  · rfl
  · rfl
  · rw [Checked.div_eq (by omega)]
    rfl

theorem checkedOnTripleDupAck_eq (c : CongestionState) {n : Nat} (hn : n < 2 ^ 31) (mss : UInt16) :
    c.checkedOnTripleDupAck n mss = some (c.onTripleDupAck n mss) := by
  have := mss.toNat_lt
  rw [checkedOnTripleDupAck, checkedSsthresh_eq, Option.bind_eq_bind, Option.bind_some,
    Checked.mul_eq (by rw [u32Bound]; omega), Option.bind_some, Checked.add_eq (by rw [u32Bound]; omega)]
  rfl

theorem checkedOnRto_eq (c : CongestionState) (n : Nat) (mss : UInt16) :
    c.checkedOnRto n mss = some (c.onRto n mss) := by
  rw [checkedOnRto, checkedSsthresh_eq]
  rfl

theorem checkedBackoffRto_eq (h : c.rto ≤ fromSecs 60) : c.checkedBackoffRto = some c.backoffRto := by
  have hle : c.rto * 2 ≤ 8 * fromSecs 3600 := (Nat.mul_le_mul_right 2 h).trans (by decide)
  rw [checkedBackoffRto, Checked.mul_eq (lt_durationBound hle)]
  rfl

theorem checkedEstimate_eq (h : c.Estimated) (hs : sample < fromSecs 3600) :
    ∃ srtt rttvar, c.checkedEstimate sample = some (srtt, rttvar) ∧ srtt ≤ fromSecs 3600 ∧ rttvar ≤ fromSecs 3600 ∧
      c.updateRtt sample = { c with srtt := some srtt, rttvar := some rttvar,
                                    rto := max (fromSecs 1) (min (srtt + max (fromMillis 1) (rttvar * 4)) (fromSecs 60)) } := by
  rcases h with ⟨hsrtt, hrttvar⟩ | ⟨srtt, rttvar, hsrtt, hrttvar, hle, hle'⟩
  · refine ⟨sample, sample / 2, ?_, hs.le, (Nat.div_le_self _ _).trans hs.le, ?_⟩
    · rw [checkedEstimate, hsrtt, Checked.div_eq (by decide)]
      rfl
    · rw [updateRtt, hsrtt]
  · obtain ⟨diff, hdiff, hsub, hdiff'⟩ : ∃ diff, diff ≤ fromSecs 3600 ∧ checkedDiff sample srtt = some diff ∧
        (if sample > srtt then sample - srtt else srtt - sample) = diff := by
      unfold checkedDiff
      split_ifs with hgt
      · exact ⟨_, (Nat.sub_le _ _).trans hs.le, Checked.sub_eq hgt.le, rfl⟩
      · exact ⟨_, (Nat.sub_le _ _).trans hle, Checked.sub_eq (Nat.le_of_not_lt hgt), rfl⟩
    have hsrtt' : srtt * 7 / 8 + sample / 8 ≤ fromSecs 3600 := mean_le (k := 8) (by decide) hle hs.le
    have hrttvar' : rttvar * 3 / 4 + diff / 4 ≤ fromSecs 3600 := mean_le (k := 4) (by decide) hle' hdiff
    refine ⟨srtt * 7 / 8 + sample / 8, rttvar * 3 / 4 + diff / 4, ?_, hsrtt', hrttvar', ?_⟩
    · have hmul {a n : Nat} (ha : a ≤ fromSecs 3600) (hn : n ≤ 8) : a * n < durationBound :=
        lt_durationBound (by rw [Nat.mul_comm]; exact Nat.mul_le_mul hn ha)
      have hadd {a : Nat} (ha : a ≤ fromSecs 3600) : a < durationBound :=
        lt_durationBound (ha.trans (Nat.le_mul_of_pos_left _ (by decide)))
      rw [checkedEstimate, hsrtt, hrttvar]
      dsimp only [Option.bind_eq_bind, Option.bind_some]
      rw [hsub, Option.bind_some, Checked.mul_eq (hmul hle' (by decide)), Option.bind_some,
        Checked.div_eq (by decide), Option.bind_some, Checked.div_eq (by decide), Option.bind_some,
        Checked.add_eq (hadd hrttvar'), Option.bind_some, Checked.mul_eq (hmul hle (by decide)), Option.bind_some,
        Checked.div_eq (by decide), Option.bind_some, Checked.div_eq (by decide), Option.bind_some,
        Checked.add_eq (hadd hsrtt'), Option.bind_some]
      rfl
    · rw [updateRtt, hsrtt, hrttvar]
      dsimp only
      rw [hdiff']

theorem checkedUpdateRtt_eq (h : c.Estimated) (hs : sample < fromSecs 3600) :
    c.checkedUpdateRtt sample = some (c.updateRtt sample) := by
  obtain ⟨srtt, rttvar, heq, hle, hle', hupdate⟩ := checkedEstimate_eq h hs
  have hmul : rttvar * 4 ≤ 4 * fromSecs 3600 := by rw [Nat.mul_comm]; exact Nat.mul_le_mul_left 4 hle'
  have hadd : srtt + max (fromMillis 1) (rttvar * 4) ≤ 8 * fromSecs 3600 :=
    (Nat.add_le_add hle (max_le (by decide) hmul)).trans (by decide)
  rw [checkedUpdateRtt, heq, hupdate, Option.bind_eq_bind, Option.bind_some]
  dsimp only
  rw [Checked.mul_eq (lt_durationBound (hmul.trans (by decide))), Option.bind_eq_bind, Option.bind_some,
    Checked.add_eq (lt_durationBound hadd)]
  rfl

end CongestionState

theorem checked_eq {mss : UInt16} (h : c.Bounded mss) (hcall : call.InRange) :
    call.checked mss c = some (call.apply mss c) := by
  cases call with
  | ack n => exact c.checkedOnAck_eq n mss
  | tripleDupAck n => exact c.checkedOnTripleDupAck_eq hcall mss
  | partialAck n => rfl
  | recoveryExit => rfl
  | rto n => exact c.checkedOnRto_eq n mss
  | backoffRto => exact CongestionState.checkedBackoffRto_eq h.rto.2
  | updateRtt sample => exact CongestionState.checkedUpdateRtt_eq h.estimated hcall

/-- A partial acknowledgment leaves a segment of the window. -/
def CongestionCall.LeavesSegment (mss : UInt16) (c : CongestionState) : CongestionCall → Prop
  | partialAck n => n + mss.toNat ≤ c.cwnd
  | _ => True

section keeps
variable {mss : UInt16} {c : CongestionState}

theorem le_satAdd {m a b : Nat} (hm : m < 2 ^ 16) (h : m ≤ a) : m ≤ satAdd a b := by
  rw [satAdd, u32Max]
  omega

theorem bounded_onAck (h : c.Bounded mss) (n : Nat) : (c.onAck n mss).Bounded mss := by
  unfold CongestionState.onAck
  dsimp only
  split_ifs
  · exact h
  · exact ⟨h.ssthresh, h.rto, h.estimated⟩
  · exact ⟨h.ssthresh, h.rto, h.estimated⟩

theorem cwnd_onAck (h : mss.toNat ≤ c.cwnd) (n : Nat) : mss.toNat ≤ (c.onAck n mss).cwnd := by
  unfold CongestionState.onAck
  dsimp only
  split_ifs
  · exact h
  · exact le_satAdd mss.toNat_lt h
  · exact le_satAdd mss.toNat_lt h

theorem bounded_updateRtt (h : c.Bounded mss) (hs : sample < fromSecs 3600) :
    (c.updateRtt sample).Bounded mss ∧ (c.updateRtt sample).cwnd = c.cwnd := by
  obtain ⟨srtt, rttvar, -, hle, hle', hupdate⟩ := CongestionState.checkedEstimate_eq h.estimated hs
  rw [hupdate]
  refine ⟨⟨h.ssthresh, ⟨le_max_left _ _, ?_⟩, .inr ⟨srtt, rttvar, rfl, rfl, hle, hle'⟩⟩, rfl⟩
  exact max_le (by decide) (min_le_right _ _)

/-- A call keeps the ranges. -/
theorem bounded_apply (h : c.Bounded mss) (hcall : call.InRange) : (call.apply mss c).Bounded mss := by
  cases call with
  | ack n => exact bounded_onAck h n
  | tripleDupAck n => exact ⟨le_max_right _ _, h.rto, h.estimated⟩
  | partialAck n => exact ⟨h.ssthresh, h.rto, h.estimated⟩
  | recoveryExit => exact ⟨h.ssthresh, h.rto, h.estimated⟩
  | rto n => exact ⟨le_max_right _ _, h.rto, h.estimated⟩
  | backoffRto =>
    refine ⟨h.ssthresh, ⟨?_, min_le_right _ _⟩, h.estimated⟩
    exact le_min (h.rto.1.trans (Nat.le_mul_of_pos_right _ (by decide))) (by decide)
  | updateRtt sample => exact (bounded_updateRtt h hcall).1

theorem cwnd_apply_iff (hmss : 1 ≤ mss.toNat) (h : c.Bounded mss) (hcwnd : mss.toNat ≤ c.cwnd) (hcall : call.InRange) :
    mss.toNat ≤ (call.apply mss c).cwnd ↔ call.LeavesSegment mss c := by
  cases call with
  | ack n => exact iff_of_true (cwnd_onAck hcwnd n) trivial
  | tripleDupAck n =>
    refine iff_of_true ?_ trivial
    show mss.toNat ≤ max (n / 2) (2 * mss.toNat) + 3 * mss.toNat
    omega
  | partialAck n =>
    show mss.toNat ≤ c.cwnd - n ↔ n + mss.toNat ≤ c.cwnd
    omega
  | recoveryExit =>
    have hssthresh := h.ssthresh
    refine iff_of_true ?_ trivial
    show mss.toNat ≤ c.ssthresh
    omega
  | rto n => exact iff_of_true le_rfl trivial
  | backoffRto => exact iff_of_true hcwnd trivial
  | updateRtt sample => exact iff_of_true (hcwnd.trans_eq (bounded_updateRtt h hcall).2.symm) trivial

end keeps

/-! ## Histories -/

/-- A history of calls: `none` once the arithmetic of one of them fails. -/
def CongestionState.history (mss : UInt16) (calls : List CongestionCall) : Option CongestionState :=
  (checkedNew mss).bind fun c => calls.foldlM (CongestionCall.checked mss) c

def congestionStep (mss : UInt16) (c : CongestionState) (call : CongestionCall) : CongestionState × List Unit :=
  (call.apply mss c, [])

section histories
variable {mss : UInt16} {calls : List CongestionCall}

theorem foldlM_checked (hcalls : ∀ call ∈ calls, call.InRange) (h : c.Bounded mss) :
    calls.foldlM (CongestionCall.checked mss) c = some (run (congestionStep mss) c calls).1 ∧
      (run (congestionStep mss) c calls).1.Bounded mss := by
  induction calls generalizing c with
  | nil => exact ⟨rfl, h⟩
  | cons call calls ih =>
    have hrange := hcalls call List.mem_cons_self
    rw [List.foldlM_cons, checked_eq h hrange]
    exact ih (fun call' hmem => hcalls call' (List.mem_cons_of_mem _ hmem)) (bounded_apply h hrange)

/-- When a history keeps the window at a segment. -/
theorem cwnd_run_iff (hmss : 1 ≤ mss.toNat) (hcalls : ∀ call ∈ calls, call.InRange) (h : c.Bounded mss)
    (hcwnd : mss.toNat ≤ c.cwnd) :
    (∀ done rest, calls = done ++ rest → mss.toNat ≤ (run (congestionStep mss) c done).1.cwnd) ↔
      Along (fun c call => call.LeavesSegment mss c) (congestionStep mss) c calls := by
  induction calls generalizing c with
  | nil =>
    refine iff_of_true (fun done rest hsplit => ?_) trivial
    obtain ⟨rfl, -⟩ := List.append_eq_nil_iff.1 hsplit.symm
    exact hcwnd
  | cons call calls ih =>
    have hrange := hcalls call List.mem_cons_self
    have hiff := cwnd_apply_iff hmss h hcwnd hrange
    have ih := ih (fun call' hmem => hcalls call' (List.mem_cons_of_mem _ hmem)) (bounded_apply h hrange)
    constructor
    · intro hopen
      have hfirst : mss.toNat ≤ (call.apply mss c).cwnd := hopen [call] calls rfl
      exact ⟨hiff.1 hfirst, (ih hfirst).1 fun done rest hsplit => hopen (call :: done) rest
        (by rw [hsplit, List.cons_append])⟩
    · rintro ⟨hleaves, halong⟩ done rest hsplit
      cases done with
      | nil => exact hcwnd
      | cons call' done =>
        obtain ⟨rfl, hcalls'⟩ := List.cons.inj hsplit
        exact (ih (hiff.2 hleaves)).2 halong done rest hcalls'

end histories

/-- **Sane histories.** Whatever functions are called on the congestion state, in whatever order, no arithmetic fails and
the threshold and the timeout stay in their ranges.  The window is at least a segment all along exactly if every partial
acknowledgment leaves a segment of it. -/
theorem congestion_sane (mss : UInt16) (hmss : 1 ≤ mss.toNat) (calls : List CongestionCall)
    (hcalls : ∀ call ∈ calls, call.InRange) :
    (∀ done rest, calls = done ++ rest → ∃ c, CongestionState.history mss done = some c ∧
      2 * mss.toNat ≤ c.ssthresh ∧ fromSecs 1 ≤ c.rto ∧ c.rto ≤ fromSecs 60) ∧
    ((∀ done rest c, calls = done ++ rest → CongestionState.history mss done = some c → mss.toNat ≤ c.cwnd) ↔
      Along (fun c call => call.LeavesSegment mss c) (congestionStep mss) (.new mss) calls) := by
  have hhistory {done rest} (hsplit : calls = done ++ rest) :
      CongestionState.history mss done = some (run (congestionStep mss) (.new mss) done).1 ∧
        (run (congestionStep mss) (.new mss) done).1.Bounded mss := by
    rw [CongestionState.history, CongestionState.checkedNew_eq]
    exact foldlM_checked (fun call hmem => hcalls call (hsplit ▸ List.mem_append_left _ hmem))
      (CongestionState.bounded_new mss)
  rw [← cwnd_run_iff hmss hcalls (CongestionState.bounded_new mss) (CongestionState.cwnd_new mss)]
  refine ⟨fun done rest hsplit => ?_, fun h done rest hsplit => ?_, fun h done rest c hsplit hc => ?_⟩
  · obtain ⟨heq, hbounded⟩ := hhistory hsplit
    exact ⟨_, heq, hbounded.ssthresh, hbounded.rto⟩
  · exact h done rest _ hsplit (hhistory hsplit).1
  · rw [(hhistory hsplit).1] at hc
    obtain rfl := Option.some.inj hc
    exact h done rest hsplit

/-- Fast recovery with a partial acknowledgment of one segment. -/
theorem congestion_sane_recovery : ∃ c, CongestionState.history 1460
    [.updateRtt (fromMillis 20), .tripleDupAck 20000, .partialAck 1460, .recoveryExit, .ack 1460] = some c ∧
      (1460 : UInt16).toNat ≤ c.cwnd := by
  refine ⟨_, rfl, (congestion_sane 1460 (by decide)
    [.updateRtt (fromMillis 20), .tripleDupAck 20000, .partialAck 1460, .recoveryExit, .ack 1460] ?_).2.2 ?_ _ [] _
    (List.append_nil _).symm rfl⟩
  · decide
  · exact ⟨trivial, trivial, show 1460 + 1460 ≤ max (20000 / 2) (2 * 1460) + 3 * 1460 by decide, trivial, trivial, trivial⟩

/-- **A window that closes.** In fast recovery, with ten segments in flight, nine of them are acknowledged. -/
theorem window_closed : (CongestionCall.tripleDupAck 14600).InRange ∧ (CongestionCall.partialAck 13140).InRange ∧
    ∃ c, CongestionState.history 1460 [.tripleDupAck 14600, .partialAck 13140] = some c ∧ c.inRecovery ∧ c.cwnd = 0 :=
  ⟨by decide, by decide, _, rfl, rfl, rfl⟩

end DpdkStdlib.Tcp

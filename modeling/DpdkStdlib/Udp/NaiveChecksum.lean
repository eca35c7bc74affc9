import DpdkStdlib.Udp.Checksum

/-!
# The checksum word by word (`lib.rs`, `ipv6.rs`)

The reference computation of the tests adds one 16-bit word after the other, without bound, and folds the sum.  The
code adds words of 32 bits, folds the payload first, and has 32 bits for the rest.
-/

namespace DpdkStdlib.Udp
open DpdkStdlib.Lib

/-- A sum of any size, folded to 16 bits. -/
def fold (s : Nat) : Nat := if s < 65536 then s else fold (s % 65536 + s / 65536)
termination_by s
decreasing_by omega

theorem fold_eq (s : Nat) : fold s = endAround s := by
  fun_induction fold s with
  | case1 s h => exact (endAround_of_le (by omega)).symm
  | case2 s h ih => rw [ih, endAround_turn]

/-- The words of a datagram with its pseudo-header, the checksum field of the header counted as zero. -/
def naiveSum (srcIp dstIp udpHeader payload : List UInt8) : Nat :=
  wordSum srcIp + wordSum dstIp + 17 + (8 + payload.length) + udpHeaderSum udpHeader + wordSum payload

def naiveUdpChecksum (srcIp dstIp udpHeader payload : List UInt8) : UInt16 :=
  nonzeroChecksum (UInt16.ofNat (65535 - fold (naiveSum srcIp dstIp udpHeader payload)))

def udpSum (srcIp dstIp udpHeader payload : List UInt8) : Nat :=
  wordSum srcIp + wordSum dstIp + 17 + (8 + payload.length) + udpHeaderSum udpHeader + fold (wordSum payload)

/-- With zero written as all ones, checksums agree exactly where the sums do modulo `65535`. -/
theorem nonzeroChecksum_eq_naive_iff {s t : Nat} (hs : s < 2 ^ 32) (ht : 0 < t) :
    nonzeroChecksum (onesComplement s) = nonzeroChecksum (UInt16.ofNat (65535 - fold t)) ↔ s % 65535 = t % 65535 := by
  have hles := endAround_le s
  have hlet := endAround_le t
  have hmods := endAround_mod s
  have hmodt := endAround_mod t
  have hpos : 0 < endAround t := Nat.pos_of_ne_zero fun h => absurd (endAround_eq_zero.1 h) (by omega)
  have hnaive : (UInt16.ofNat (65535 - fold t)).toNat = 65535 - endAround t := by
    rw [fold_eq, UInt16.toNat_ofNat']
    omega
  rw [← UInt16.toNat_inj, toNat_nonzeroChecksum, toNat_nonzeroChecksum, toNat_onesComplement hs, hnaive]
  split_ifs <;> omega

theorem onesComplement_mod (s : Nat) : onesComplement (s % 2 ^ 32) = onesComplement s := by
  rw [onesComplement, Nat.mod_mod, onesComplement]

section
variable {udpHeader payload : List UInt8} (hheader : udpHeader.length = 8) (hpayload : payload.length < 2 ^ 32)
include hheader hpayload

theorem udpChecksum_naive_iff {srcIp dstIp : List UInt8} (hsrc : srcIp.length = 4) (hdst : dstIp.length = 4) :
    udpChecksum srcIp dstIp udpHeader payload = naiveUdpChecksum srcIp dstIp udpHeader payload ↔
      udpSum srcIp dstIp udpHeader payload < 2 ^ 32 := by
  have hsrc' := wordSum_le srcIp
  have hdst' := wordSum_le dstIp
  have hhdr := udpHeaderSum_le hheader
  have hle := endAround_le (wordSum payload)
  have hmod := endAround_mod (wordSum payload)
  rw [hsrc] at hsrc'
  rw [hdst] at hdst'
  rw [udpChecksum, onesComplementSum_eq payload hpayload, ← onesComplement_mod, naiveUdpChecksum, udpSum,
    fold_eq (wordSum payload), nonzeroChecksum_eq_naive_iff (Nat.mod_lt _ (by decide)) (by rw [naiveSum]; omega),
    naiveSum]
  -- a carry out of 32 bits is lost, and counts one modulo `65535`
  omega

theorem udp6Checksum_naive_iff (srcIp dstIp : Ipv6Addr) :
    udp6Checksum srcIp dstIp udpHeader payload =
        naiveUdpChecksum (Ipv6Addr.octets srcIp) (Ipv6Addr.octets dstIp) udpHeader payload ↔
      8 + payload.length < 2 ^ 32 := by
  have hsrc := endAround_le (wordSum (Ipv6Addr.octets srcIp))
  have hdst := endAround_le (wordSum (Ipv6Addr.octets dstIp))
  have hle := endAround_le (wordSum payload)
  have hsrc' := endAround_mod (wordSum (Ipv6Addr.octets srcIp))
  have hdst' := endAround_mod (wordSum (Ipv6Addr.octets dstIp))
  have hmod := endAround_mod (wordSum payload)
  have hhdr := udpHeaderSum_le hheader
  have hlt : pseudoHeader6Sum srcIp dstIp (8 + payload.length) + udpHeaderSum udpHeader +
      endAround (wordSum payload) < 2 ^ 32 := by
    rw [pseudoHeader6Sum, onesComplementSum_eq _ (by rw [Ipv6Addr.length_octets]; decide),
      onesComplementSum_eq _ (by rw [Ipv6Addr.length_octets]; decide)]
    omega
  rw [udp6Checksum, onesComplementSum_eq payload hpayload, not_fold32 hlt, naiveUdpChecksum,
    nonzeroChecksum_eq_naive_iff hlt (by rw [naiveSum]; omega), naiveSum, pseudoHeader6Sum,
    onesComplementSum_eq _ (by rw [Ipv6Addr.length_octets]; decide),
    onesComplementSum_eq _ (by rw [Ipv6Addr.length_octets]; decide)]
  omega

/-- **The checksums are those of the naive loop.** The payload's sum is its folded sum as an exact value; the UDP
checksums are the naive ones, zero written as all ones, exactly where the sum of the pseudo-header, the header and the
folded payload, for IPv6 the length, has 32 bits. -/
theorem checksums_naive_iff {srcIp dstIp : List UInt8} (hsrc : srcIp.length = 4) (hdst : dstIp.length = 4)
    (srcIp6 dstIp6 : Ipv6Addr) :
    onesComplementSum payload = fold (wordSum payload) ∧
    (udpChecksum srcIp dstIp udpHeader payload = naiveUdpChecksum srcIp dstIp udpHeader payload ↔
      udpSum srcIp dstIp udpHeader payload < 2 ^ 32) ∧
    (udp6Checksum srcIp6 dstIp6 udpHeader payload =
        naiveUdpChecksum (Ipv6Addr.octets srcIp6) (Ipv6Addr.octets dstIp6) udpHeader payload ↔
      8 + payload.length < 2 ^ 32) :=
  ⟨by rw [onesComplementSum_eq payload hpayload, fold_eq], udpChecksum_naive_iff hheader hpayload hsrc hdst,
    udp6Checksum_naive_iff hheader hpayload srcIp6 dstIp6⟩

end

theorem checksums_naive_three :
    onesComplementSum [0xFF, 0xFF, 1] = fold (wordSum [0xFF, 0xFF, 1]) ∧
    udpChecksum [10, 0, 0, 1] [10, 0, 0, 2] [0, 1, 0, 2, 0, 11, 0, 0] [0xFF, 0xFF, 1] =
      naiveUdpChecksum [10, 0, 0, 1] [10, 0, 0, 2] [0, 1, 0, 2, 0, 11, 0, 0] [0xFF, 0xFF, 1] := by
  have hheader : ([0, 1, 0, 2, 0, 11, 0, 0] : List UInt8).length = 8 := rfl
  have hsrc : ([10, 0, 0, 1] : List UInt8).length = 4 := rfl
  have hdst : ([10, 0, 0, 2] : List UInt8).length = 4 := rfl
  have h := checksums_naive_iff hheader (show List.length [0xFF, 0xFF, 1] < _ by decide) hsrc hdst 0 0
  exact ⟨h.1, h.2.1.2 (by rw [udpSum, fold_eq]; decide)⟩

theorem wordSum_replicate_zero (n : Nat) : wordSum (List.replicate n 0) = 0 := by
  have hzero (l : List UInt8) (hl : ∀ b ∈ l, b = 0) : wordSum l = 0 := by
    fun_induction wordSum l <;> simp_all
  exact hzero _ fun b hb => List.eq_of_mem_replicate hb

/-- A payload of zeros whose length completes the sum to `2^32`: the sum wraps to zero. -/
theorem udpChecksum_overflows : ∃ payload : List UInt8, payload.length < 2 ^ 32 ∧
    udpChecksum [0, 0, 0, 0] [0, 0, 0, 0] (List.replicate 8 0) payload ≠
      naiveUdpChecksum [0, 0, 0, 0] [0, 0, 0, 0] (List.replicate 8 0) payload := by
  have hsum (n : Nat) : udpSum [0, 0, 0, 0] [0, 0, 0, 0] (List.replicate 8 0) (List.replicate n 0) = 25 + n := by
    rw [udpSum, wordSum_replicate_zero, fold_eq, List.length_replicate]
    have hheader : udpHeaderSum (List.replicate 8 0) = 0 := by decide
    have haddr : wordSum [0, 0, 0, 0] = 0 := by decide
    rw [hheader, haddr, endAround_of_le (Nat.zero_le _)]
    omega
  obtain ⟨n, hn⟩ : ∃ n, n = 2 ^ 32 - 25 := ⟨_, rfl⟩
  have hlt : (List.replicate n (0 : UInt8)).length < 2 ^ 32 := by rw [List.length_replicate]; omega
  refine ⟨List.replicate n 0, hlt, fun h => ?_⟩
  have := (udpChecksum_naive_iff (by rw [List.length_replicate]) hlt rfl rfl).1 h
  rw [hsum] at this
  omega

end DpdkStdlib.Udp

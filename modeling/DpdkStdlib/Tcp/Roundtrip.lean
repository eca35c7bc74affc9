import DpdkStdlib.Tcp.Frames
import DpdkStdlib.Tcp.Options
import Mathlib.Tactic.IntervalCases

/-!
# Frames read back (`codec.rs`)

What `parse_tcp_packet` makes of the frames `build_tcp_frame` writes.
-/

namespace DpdkStdlib.Tcp

open DpdkStdlib.Lib

/-! ## Fields -/

theorem dataOffset_eq {n : Nat} (h : n < 16) : (UInt8.ofNat n <<< 4 >>> 4).toNat = n := by
  interval_cases n <;> decide

/-! ## Frames -/

theorem cut_of_drop {frame : List UInt8} (payload padding : List UInt8) {start ipLen : Nat}
    (hlen : frame.length = 14 + start + payload.length + padding.length)
    (hdrop : frame.drop (14 + start) = payload ++ padding) (hip : ipLen ≤ start + payload.length) :
    (if min (14 + ipLen) frame.length > 14 + start then
        (frame.drop (14 + start)).take (min (14 + ipLen) frame.length - (14 + start))
      else []) = payload.take (ipLen - start) := by
  rw [hdrop, hlen, Nat.min_eq_left (by omega), Nat.add_sub_add_left]
  split_ifs with h
  · exact List.take_append_of_le_length (by omega)
  · rw [show ipLen - start = 0 by omega, List.take_zero]

def TcpFrameParams.optionBytes (p : TcpFrameParams) : List UInt8 := serializeOptions p.options p.flags

/-- The payload as the receiver cuts it out: the IPv4 total length is truncated to its field. -/
def TcpFrameParams.cutPayload (p : TcpFrameParams) : List UInt8 :=
  p.payload.take ((40 + p.optionBytes.length + p.payload.length) % 2 ^ 16 - (40 + p.optionBytes.length))

/-- A built frame is parsed back. -/
theorem parse_build {p : TcpFrameParams} {bytes : List UInt8} (h : buildTcpFrame p = .ok bytes)
    (hopt : p.optionBytes.length ≤ 40) (padding : List UInt8) :
    parseTcpPacket (bytes ++ padding) = (parseOptions p.optionBytes).map fun options =>
      .ok { src := p.src, dst := p.dst, seq := p.seq, ack := p.ack, flags := p.flags, window := p.window, options,
            payload := p.cutPayload } := by
  have hmod := length_padOptions_mod (p.options.onWire p.flags).fields
  rw [← serializeOptions_eq] at hmod
  unfold TcpFrameParams.cutPayload
  unfold TcpFrameParams.optionBytes at hopt ⊢
  unfold buildTcpFrame at h
  cases hsrc : p.src with
  | v6 => rw [hsrc] at h; cases h
  | v4 srcIp srcPort =>
    cases hdst : p.dst with
    | v6 => rw [hsrc, hdst] at h; cases h
    | v4 dstIp dstPort =>
      rw [hsrc, hdst] at h
      dsimp only at h
      obtain rfl := Except.ok.inj h
      clear h
      obtain ⟨d0, d1, d2, d3, d4, d5, hd⟩ := toList_mac p.dstMac
      obtain ⟨s0, s1, s2, s3, s4, s5, hs⟩ := toList_mac p.srcMac
      generalize serializeOptions p.options p.flags = opts at hopt hmod ⊢
      generalize tcpChecksum _ _ _ = cksum
      generalize ipv4Checksum _ = ipCksum
      generalize hlen : UInt16.ofNat (20 + (20 + opts.length) + p.payload.length) = ipLen
      simp only [ethHeader, ipHeader, tcpHeader, hd, hs, beBytes16, beBytes32, Ipv4Addr.octets, List.cons_append,
        List.nil_append, List.append_assoc]
      rw [parseTcpPacket, if_neg (by simp only [List.length_cons]; omega)]
      change (if (UInt8.ofNat ((20 + opts.length) / 4) <<< 4 >>> 4).toNat < 5 then _ else _) = _
      rw [dataOffset_eq (by omega), if_neg (by omega)]
      have hhl : (20 + opts.length) / 4 * 4 = 20 + opts.length := by omega
      have htcp : 14 + ((69 : UInt8) &&& 15).toNat * 4 = 34 := rfl
      rw [hhl, htcp, if_neg (by simp only [List.length_cons, List.length_append]; omega)]
      change Option.bind (parseOptions (List.take _ (opts ++ (p.payload ++ padding)))) _ = _
      rw [Nat.add_sub_cancel_left, List.take_left, Option.map_eq_bind]
      congr 1
      funext options
      change some (Except.ok (ParsedTcpSegment.mk (.v4 srcIp (fromBe16 _ _)) (.v4 dstIp (fromBe16 _ _))
        ⟨fromBe32 _ _ _ _⟩ ⟨fromBe32 _ _ _ _⟩ p.flags (fromBe16 _ _) options (if _ then _ else _))) = _
      simp only [fromBe16_beBytes16, fromBe32_beBytes32]
      rw [show 34 + (20 + opts.length) = 14 + (40 + opts.length) by omega, cut_of_drop p.payload padding]
      · rw [← hlen, UInt16.toNat_ofNat', show 20 + (20 + opts.length) = 40 + opts.length by omega]
        rfl
      · simp only [List.length_cons, List.length_append]
        omega
      · rw [show 14 + (40 + opts.length) = opts.length + 54 by omega]
        simp only [List.drop_succ_cons]
        exact List.drop_left
      · rw [← hlen, UInt16.toNat_ofNat']
        have := Nat.mod_le (20 + (20 + opts.length) + p.payload.length) (2 ^ 16)
        omega

/-! ## Checksums -/

theorem wordSum_ipHeader (srcIp dstIp : Ipv4Addr) (ttl : UInt8) (ipTotalLen cksum : UInt16) :
    wordSum (ipHeader srcIp dstIp ttl ipTotalLen cksum) =
      wordSum (ipHeader srcIp dstIp ttl ipTotalLen 0) + cksum.toNat := by
  have key : ∀ x, wordSum (ipHeader srcIp dstIp ttl ipTotalLen x) =
      wordSum ([0x45, 0x00] ++ beBytes16 ipTotalLen ++ [0x00, 0x00, 0x40, 0x00, ttl, 6]) +
        wordSum (srcIp.octets ++ dstIp.octets) + x.toNat := by
    intro x
    rw [← wordSum_field x _ (by simp)]
    simp only [ipHeader, List.append_assoc]
  rw [key cksum, key 0, UInt16.toNat_zero, Nat.add_zero]

theorem wordSum_tcpHeader (p : TcpFrameParams) (srcPort dstPort : UInt16) (tcpHeaderLen : Nat) (cksum : UInt16)
    (rest : List UInt8) :
    wordSum (tcpHeader p srcPort dstPort tcpHeaderLen cksum ++ rest) =
      wordSum (tcpHeader p srcPort dstPort tcpHeaderLen 0 ++ rest) + cksum.toNat := by
  have key : ∀ x, wordSum (tcpHeader p srcPort dstPort tcpHeaderLen x ++ rest) =
      wordSum (beBytes16 srcPort ++ beBytes16 dstPort ++ beBytes32 p.seq.val ++ beBytes32 p.ack.val ++
          [UInt8.ofNat (tcpHeaderLen / 4) <<< 4, p.flags.bits] ++ beBytes16 p.window) +
        wordSum ([0x00, 0x00] ++ rest) + x.toNat := by
    intro x
    rw [← wordSum_field x _ (by simp)]
    simp only [tcpHeader, List.append_assoc]
  rw [key cksum, key 0, UInt16.toNat_zero, Nat.add_zero]

theorem length_ipHeader (srcIp dstIp : Ipv4Addr) (ttl : UInt8) (ipTotalLen cksum : UInt16) :
    (ipHeader srcIp dstIp ttl ipTotalLen cksum).length = 20 := rfl

theorem length_tcpHeader (p : TcpFrameParams) (srcPort dstPort : UInt16) (tcpHeaderLen : Nat) (cksum : UInt16) :
    (tcpHeader p srcPort dstPort tcpHeaderLen cksum).length = 20 := rfl

theorem ipv4Checksum_verify (srcIp dstIp : Ipv4Addr) (ttl : UInt8) (ipTotalLen : UInt16) :
    ipv4Checksum (ipHeader srcIp dstIp ttl ipTotalLen (ipv4Checksum (ipHeader srcIp dstIp ttl ipTotalLen 0))) = 0 := by
  have hle := wordSum_le (ipHeader srcIp dstIp ttl ipTotalLen 0)
  rw [length_ipHeader] at hle
  rw [ipv4Checksum, wordSum_ipHeader]
  exact onesComplement_verify (by omega)

theorem tcpChecksum_verify (p : TcpFrameParams) (srcIp dstIp : Ipv4Addr) (srcPort dstPort : UInt16) (tcpHeaderLen : Nat)
    {rest : List UInt8} (hlen : rest.length < 2 ^ 16) :
    tcpChecksum srcIp.octets dstIp.octets (tcpHeader p srcPort dstPort tcpHeaderLen (tcpChecksum srcIp.octets
      dstIp.octets (tcpHeader p srcPort dstPort tcpHeaderLen 0 ++ rest)) ++ rest) = 0 := by
  have hsrc := wordSum_le srcIp.octets
  have hdst := wordSum_le dstIp.octets
  have hseg := wordSum_le (tcpHeader p srcPort dstPort tcpHeaderLen 0 ++ rest)
  rw [List.length_append, length_tcpHeader] at hseg
  rw [show srcIp.octets.length = 4 from rfl] at hsrc
  rw [show dstIp.octets.length = 4 from rfl] at hdst
  generalize hck : tcpChecksum _ _ (tcpHeader p srcPort dstPort tcpHeaderLen 0 ++ rest) = cksum
  rw [tcpChecksum, List.length_append, length_tcpHeader] at hck
  rw [tcpChecksum, wordSum_tcpHeader, List.length_append, length_tcpHeader, ← Nat.add_assoc, ← hck]
  exact onesComplement_verify (by omega)

/-! ## The whole frame -/

/-- **Round trip.** A frame whose options fit the header and whose packet fits its length field is built, read back as
it was, whatever padding follows it, and both its checksums verify. -/
theorem codec_roundtrip (p : TcpFrameParams) {srcIp dstIp : Ipv4Addr} {srcPort dstPort : UInt16}
    (hsrc : p.src = .v4 srcIp srcPort) (hdst : p.dst = .v4 dstIp dstPort)
    (hopt : (serializeOptions p.options p.flags).length ≤ 40)
    (hlen : 20 + (20 + (serializeOptions p.options p.flags).length) + p.payload.length < 2 ^ 16) :
    ∃ frame, buildTcpFrame p = .ok frame ∧
      (∀ padding, parseTcpPacket (frame ++ padding) =
        some (.ok { src := p.src, dst := p.dst, seq := p.seq, ack := p.ack, flags := p.flags, window := p.window
                    options := p.options.onWire p.flags, payload := p.payload })) ∧
      tcpChecksum srcIp.octets dstIp.octets (frame.drop 34) = 0 ∧
      ipv4Checksum ((frame.drop 14).take 20) = 0 := by
  have hcut : p.cutPayload = p.payload := by
    unfold TcpFrameParams.cutPayload TcpFrameParams.optionBytes
    rw [Nat.mod_eq_of_lt (by omega), Nat.add_sub_cancel_left, List.take_length]
  have hbuild : ∃ eth, eth.length = 14 ∧ buildTcpFrame p = .ok (eth ++ (ipHeader srcIp dstIp p.ttl
      (UInt16.ofNat (20 + (20 + (serializeOptions p.options p.flags).length) + p.payload.length))
      (ipv4Checksum (ipHeader srcIp dstIp p.ttl
        (UInt16.ofNat (20 + (20 + (serializeOptions p.options p.flags).length) + p.payload.length)) 0)) ++
      (tcpHeader p srcPort dstPort (20 + (serializeOptions p.options p.flags).length)
        (tcpChecksum srcIp.octets dstIp.octets
          (tcpHeader p srcPort dstPort (20 + (serializeOptions p.options p.flags).length) 0 ++
            (serializeOptions p.options p.flags ++ p.payload))) ++
        (serializeOptions p.options p.flags ++ p.payload)))) := by
    refine ⟨ethHeader p, by simp [ethHeader], ?_⟩
    rw [buildTcpFrame, hsrc, hdst]
    simp only [List.append_assoc]
  obtain ⟨eth, heth, hbuild⟩ := hbuild
  refine ⟨_, hbuild, fun padding => ?_, ?_, ?_⟩
  · rw [parse_build hbuild hopt padding, TcpFrameParams.optionBytes, parse_serialize hopt, hcut]
    rfl
  · rw [← List.append_assoc, List.drop_left' (by rw [List.length_append, heth, length_ipHeader])]
    exact tcpChecksum_verify _ _ _ _ _ _ (by rw [List.length_append]; omega)
  · rw [List.drop_left' heth, List.take_left' (length_ipHeader _ _ _ _ _)]
    exact ipv4Checksum_verify _ _ _ _

def sampleParams : TcpFrameParams where
  srcMac := sampleMac 1
  dstMac := sampleMac 2
  src := .v4 ⟨10, 0, 0, 1⟩ 4000
  dst := .v4 ⟨10, 0, 0, 2⟩ 80
  seq := ⟨1000⟩
  ack := ⟨2000⟩
  flags := .syn
  window := 65535
  options := { mss := some 1400, sackBlocks := [(3000, 4000)] }
  payload := [1, 2, 3]
  ttl := 64

theorem codec_roundtrip_sample :
    ∃ frame, buildTcpFrame sampleParams = .ok frame ∧
      (∀ padding, parseTcpPacket (frame ++ padding) =
        some (.ok { src := .v4 ⟨10, 0, 0, 1⟩ 4000, dst := .v4 ⟨10, 0, 0, 2⟩ 80, seq := ⟨1000⟩, ack := ⟨2000⟩
                    flags := .syn, window := 65535, payload := [1, 2, 3]
                    options := { mss := some 1400, windowScale := some 7, sackPermitted := true
                                 timestamps := some (0, 0), sackBlocks := [(3000, 4000)] } })) ∧
      tcpChecksum (Ipv4Addr.mk 10 0 0 1).octets (Ipv4Addr.mk 10 0 0 2).octets (frame.drop 34) = 0 ∧
      ipv4Checksum ((frame.drop 14).take 20) = 0 :=
  codec_roundtrip sampleParams rfl rfl (by decide) (by decide)

end DpdkStdlib.Tcp

import DpdkStdlib.Tcp.Roundtrip

/-!
# Frames that are too large (`codec.rs`)

A TCP header has room for forty bytes of options, an IPv4 packet for 65535 bytes.  The builders truncate the lengths to
their fields.
-/

namespace DpdkStdlib.Tcp
open DpdkStdlib.Lib

/-- An mbuf: the size of its buffer, where the data starts in it, and the bytes from there on if it has a buffer. -/
structure Mbuf where
  bufLen : UInt16
  dataOff : UInt16
  data : Option (List UInt8)
  dataLen : UInt16 := 0
  packetLen : Nat := 0

/-- `build_tcp_packet`: the result, and the mbuf after it. -/
def buildTcpPacket (mbuf : Mbuf) (p : TcpFrameParams) : Except TcpError Unit × Mbuf :=
  match buildTcpFrame p with
  | .error e => (.error e, mbuf)
  | .ok frame =>
    let tcpHeaderLen := 20 + (serializeOptions p.options p.flags).length
    let totalFrameLen := 14 + 20 + tcpHeaderLen + p.payload.length
    let availableRoom := mbuf.bufLen.toNat - mbuf.dataOff.toNat
    if availableRoom < totalFrameLen then
      (.error (.invalidPacket ("mbuf buffer too small: need " ++ toString totalFrameLen ++ " bytes, have " ++
        toString availableRoom)), mbuf)
    else
      let mbuf := { mbuf with dataLen := UInt16.ofNat availableRoom }
      match mbuf.data with
      | none => (.error (.invalidPacket "mbuf has no data region"), mbuf)
      | some data =>
        (.ok (), { mbuf with data := some (frame ++ data.drop totalFrameLen), dataLen := UInt16.ofNat totalFrameLen,
                             packetLen := totalFrameLen })

/-- Options that the data offset cannot tell, or a packet that the total length cannot. -/
def TcpFrameParams.Oversized (p : TcpFrameParams) : Prop :=
  40 < (serializeOptions p.options p.flags).length ∨
    65535 < 20 + (20 + (serializeOptions p.options p.flags).length) + p.payload.length
deriving Decidable

theorem buildTcpFrame_error_iff (p : TcpFrameParams) :
    (∃ e, buildTcpFrame p = .error e) ↔ p.src.isIpv6 ∨ p.dst.isIpv6 := by
  unfold buildTcpFrame
  cases hsrc : p.src with
  | v6 => exact iff_of_true ⟨_, rfl⟩ (.inl rfl)
  | v4 =>
    cases hdst : p.dst with
    | v6 => exact iff_of_true ⟨_, rfl⟩ (.inr rfl)
    | v4 => exact iff_of_false (fun ⟨_, h⟩ => by cases h) (fun h => h.elim Bool.false_ne_true Bool.false_ne_true)

theorem buildTcpPacket_error_iff (mbuf : Mbuf) (p : TcpFrameParams) :
    (∃ e, (buildTcpPacket mbuf p).1 = .error e) ↔ (p.src.isIpv6 ∨ p.dst.isIpv6) ∨
      mbuf.bufLen.toNat - mbuf.dataOff.toNat <
        14 + 20 + (20 + (serializeOptions p.options p.flags).length) + p.payload.length ∨ mbuf.data = none := by
  rw [← buildTcpFrame_error_iff]
  unfold buildTcpPacket
  cases hframe : buildTcpFrame p with
  | error e => exact iff_of_true ⟨e, rfl⟩ (.inl ⟨e, rfl⟩)
  | ok frame =>
    dsimp only
    split_ifs with hroom
    · exact iff_of_true ⟨_, rfl⟩ (.inr (.inl hroom))
    · cases hdata : mbuf.data with
      | none => exact iff_of_true ⟨_, rfl⟩ (.inr (.inr rfl))
      | some data =>
        refine iff_of_false (fun ⟨_, h⟩ => by cases h) ?_
        rintro (h | h | h)
        · obtain ⟨_, h⟩ := h
          cases h
        · exact hroom h
        · cases h

/-- **Oversized frames.** Both builders refuse a frame that does not fit exactly if one of its addresses is IPv6. -/
theorem oversized_refused_iff (mbuf : Mbuf) (p : TcpFrameParams) :
    (p.Oversized → (∃ e, buildTcpFrame p = .error e) ∧ ∃ e, (buildTcpPacket mbuf p).1 = .error e) ↔
      ¬p.Oversized ∨ p.src.isIpv6 ∨ p.dst.isIpv6 := by
  rw [buildTcpFrame_error_iff, buildTcpPacket_error_iff]
  constructor
  · intro h
    by_cases hover : p.Oversized
    · exact .inr (h hover).1
    · exact .inl hover
  · rintro (hfits | haddr) hover
    · exact absurd hover hfits
    · exact ⟨haddr, .inl haddr⟩

def sackParams : TcpFrameParams :=
  { sampleParams with flags := .ack, options := { sackBlocks := List.replicate 5 (3000, 4000) } }

/-- **Options that overflow.** Five SACK blocks take 44 bytes: both builders write a header whose data offset is zero,
and the parser refuses the frame. -/
theorem sack_overflows : sackParams.Oversized ∧ ∃ frame mbuf, buildTcpFrame sackParams = .ok frame ∧
    buildTcpPacket { bufLen := 2176, dataOff := 128, data := some (List.replicate 2048 0) } sackParams = (.ok (), mbuf) ∧
    frame[34 + 12]? = some 0 ∧ parseTcpPacket frame = some (.error (.invalidPacket "invalid data-offset: 0")) :=
  ⟨by decide, _, _, rfl, rfl, rfl, by decide +kernel⟩

end DpdkStdlib.Tcp

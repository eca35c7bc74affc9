import DpdkStdlib.Udp.Reading

/-!
# Link headers

* `EthHeader` : an Ethernet header, tagged or not, as `detect_vlan` reads it;
* `parseArpPacket_of_layout` : the parser for ARP looks where the layout says.
-/

namespace DpdkStdlib.Udp
open DpdkStdlib.Lib

structure EthHeader (ethertype : UInt16) where
  bytes : List UInt8
  tci : Option UInt16
  detected : layoutOf bytes none = some ⟨ethertype, bytes.length, tci⟩

theorem parseArpPacket_of_layout {frame : List UInt8} {hw : Option UInt16} {layout : FrameLayout}
    (hlayout : layoutOf frame hw = some layout) : parseArpPacket frame =
      if layout.ethertype ≠ 0x0806 then none
      else if frame.length < layout.l3Offset + 28 then none
      else arpPacketAt frame layout.l3Offset := by
  unfold layoutOf at hlayout
  split_ifs at hlayout with h14 htag h18 <;> cases hlayout
  · have hinner : be16At frame 12 = 0x8100 ∧ frame.length ≥ 18 := ⟨htag, by omega⟩
    simp only [parseArpPacket, if_neg h14, if_pos hinner]
  · have hinner : ¬ (be16At frame 12 = 0x8100 ∧ frame.length ≥ 18) := fun h => htag h.1
    simp only [parseArpPacket, if_neg h14, if_neg hinner]

section header
variable {ethertype : UInt16}

namespace EthHeader

theorem length_ge (self : EthHeader ethertype) : 14 ≤ self.bytes.length := by
  obtain ⟨hl3, -⟩ := layoutOf_bounds self.detected
  dsimp only at hl3
  omega

theorem srcMac_extend (self : EthHeader ethertype) (c : List UInt8) : macAt (self.bytes ++ c) 6 = macAt self.bytes 6 := by
  have hlen := self.length_ge
  exact macAt_extend c (by omega)

end EthHeader

end header

end DpdkStdlib.Udp

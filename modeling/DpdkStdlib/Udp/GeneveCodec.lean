import DpdkStdlib.Udp.Decap

/-!
# The GENEVE header codec (`geneve.rs`)

`encode` and `parse` are inverse to each other on the headers that parse back (`GeneveHeader.WellFormed`) and on the
byte strings that `parse` accepts, up to the bits that the format reserves: `parse` ignores them and `encode` clears them.
-/

namespace DpdkStdlib.Udp
open DpdkStdlib.Lib

/-! ## Bits of a byte -/

theorem flags_of_byte (b : UInt8) :
    ((if b &&& 0x80 != 0 then 0x80 else 0) ||| (if b &&& 0x40 != 0 then 0x40 else 0) : UInt8) = b &&& 0xC0 := by
  have h : ∀ i : Fin 256, ((if UInt8.ofNat i &&& 0x80 != 0 then 0x80 else 0) |||
      (if UInt8.ofNat i &&& 0x40 != 0 then 0x40 else 0) : UInt8) = UInt8.ofNat i &&& 0xC0 := by
    decide +kernel
  simpa using h ⟨b.toNat, b.toNat_lt⟩

theorem and_of_version {b : UInt8} (h : (b >>> 6) &&& 0x03 = 0) : b &&& 0x3F = b := by
  have hb : ∀ i : Fin 256, (UInt8.ofNat i >>> 6) &&& 0x03 = 0 → UInt8.ofNat i &&& 0x3F = UInt8.ofNat i := by
    decide +kernel
  have := hb ⟨b.toNat, b.toNat_lt⟩
  simp only [UInt8.ofNat_toNat] at this
  exact this h

theorem ofNat_words (b : UInt8) : UInt8.ofNat (b.toNat * 4 / 4) = b := by
  rw [Nat.mul_div_cancel _ (by decide), UInt8.ofNat_toNat]

theorem vniBytes_vniAt (data : List UInt8) (i : Nat) :
    vniBytes (vniAt data i) = [byteAt data i, byteAt data (i + 1), byteAt data (i + 2)] := by
  have h0 := (byteAt data i).toNat_lt
  have h1 := (byteAt data (i + 1)).toNat_lt
  have h2 := (byteAt data (i + 2)).toNat_lt
  have hbyte : ∀ (n : Nat) (b : UInt8), n % 256 = b.toNat → UInt8.ofNat n = b := by
    intro n b hn
    apply UInt8.toNat_inj.1
    rw [UInt8.toNat_ofNat']
    exact hn
  rw [vniBytes_eq, toNat_vniAt, hbyte _ (byteAt data i) (by omega), hbyte _ (byteAt data (i + 1)) (by omega),
    hbyte _ (byteAt data (i + 2)) (by omega)]

theorem vniAt_lt (data : List UInt8) (i : Nat) : (vniAt data i).toNat < 2 ^ 24 := by
  have h0 := (byteAt data i).toNat_lt
  have h1 := (byteAt data (i + 1)).toNat_lt
  have h2 := (byteAt data (i + 2)).toNat_lt
  rw [toNat_vniAt]
  omega

/-! ## Reserved bits -/

/-- The bits of an option that are not reserved: all but the three high bits of the length byte. -/
def GeneveTlvOption.mask (opt : GeneveTlvOption) : List UInt8 :=
  [0xFF, 0xFF, 0xFF, 0x1F] ++ List.replicate opt.data.length 0xFF

def GeneveHeader.mask (header : GeneveHeader) : List UInt8 :=
  [0xFF, 0xC0, 0xFF, 0xFF, 0xFF, 0xFF, 0xFF, 0] ++ header.options.flatMap GeneveTlvOption.mask

theorem GeneveTlvOption.length_mask (opt : GeneveTlvOption) : opt.mask.length = 4 + opt.data.length := by
  rw [GeneveTlvOption.mask, List.length_append, List.length_replicate]
  rfl

theorem zipWith_and_replicate (l : List UInt8) : List.zipWith (· &&& ·) l (List.replicate l.length 0xFF) = l := by
  induction l with
  | nil => rfl
  | cons b l ih =>
    have hb : b &&& 0xFF = b := UInt8.and_neg_one
    rw [List.length_cons, List.replicate_succ, List.zipWith_cons_cons, ih, hb]

/-! ## Options -/

theorem GeneveTlvOption.bytes_slice {data : List UInt8} {off : Nat}
    (hlen : off + 4 + (byteAt data (off + 3) &&& 0x1F).toNat * 4 ≤ data.length) :
    let opt : GeneveTlvOption :=
      { cls := be16At data off, optionType := byteAt data (off + 2)
        data := (data.drop (off + 4)).take ((byteAt data (off + 3) &&& 0x1F).toNat * 4) }
    opt.data.length = (byteAt data (off + 3) &&& 0x1F).toNat * 4 ∧ opt.WellFormed ∧
      opt.bytes = List.zipWith (· &&& ·) ((data.drop off).take (4 + opt.data.length)) opt.mask := by
  intro opt
  have hdata : opt.data.length = (byteAt data (off + 3) &&& 0x1F).toNat * 4 := length_slice hlen
  have hwords : (byteAt data (off + 3) &&& 0x1F).toNat < 32 := by
    rw [UInt8.toNat_and]
    exact Nat.lt_succ_of_le Nat.and_le_right
  have hslice : (data.drop off).take (4 + opt.data.length) =
      [byteAt data off, byteAt data (off + 1), byteAt data (off + 2), byteAt data (off + 3)] ++ opt.data := by
    rw [drop_eq_byteAt_cons (by omega), drop_eq_byteAt_cons (by omega), drop_eq_byteAt_cons (by omega),
      drop_eq_byteAt_cons (by omega), Nat.add_comm, hdata]
    rfl
  refine ⟨hdata, ⟨by omega, by omega⟩, ?_⟩
  have hmask : ∀ b : UInt8, b &&& 0xFF = b := fun b => UInt8.and_neg_one
  have hcls : beBytes16 opt.cls = [byteAt data off, byteAt data (off + 1)] := beBytes16_fromBe16 _ _
  rw [hslice, GeneveTlvOption.mask, List.zipWith_append (by rfl), zipWith_and_replicate, GeneveTlvOption.bytes, hcls,
    hdata, ofNat_words]
  simp only [List.zipWith_cons_cons, List.zipWith_nil_left, hmask, UInt8.and_assoc, UInt8.and_self, List.cons_append,
    List.nil_append, opt]

/-- The loop reads well-formed options up to the end, and changes none but reserved bits. -/
theorem GeneveHeader.parseOptions_spec {data : List UInt8} {total fuel off : Nat} {options : List GeneveTlvOption}
    (htotal : total ≤ data.length) (hoff : off ≤ total) (hwords : (total - off) % 4 = 0)
    (h : GeneveHeader.parseOptions data total fuel off = some options) :
    (∀ opt ∈ options, opt.WellFormed) ∧ (options.flatMap GeneveTlvOption.bytes).length = total - off ∧
      options.flatMap GeneveTlvOption.bytes =
        List.zipWith (· &&& ·) ((data.drop off).take (total - off)) (options.flatMap GeneveTlvOption.mask) := by
  induction fuel generalizing off options with
  | zero => cases h
  | succ fuel ih =>
    rw [GeneveHeader.parseOptions] at h
    by_cases hmore : off + 4 ≤ total
    · rw [if_pos hmore] at h
      dsimp only at h
      by_cases hlong : off + 4 + (byteAt data (off + 3) &&& 0x1F).toNat * 4 > total
      · rw [if_pos hlong] at h
        cases h
      rw [if_neg hlong] at h
      obtain ⟨rest, hrest, hoptions⟩ := Option.bind_eq_some_iff.1 h
      cases hoptions
      have hfits : off + 4 + (byteAt data (off + 3) &&& 0x1F).toNat * 4 ≤ data.length := by omega
      obtain ⟨hdata, hopt, hbytes⟩ := GeneveTlvOption.bytes_slice hfits
      obtain ⟨hwf, hlength, hflat⟩ := ih (by omega) (by omega) hrest
      generalize GeneveTlvOption.mk (be16At data off) (byteAt data (off + 2)) _ = opt at hdata hopt hbytes ⊢
      have hnext : off + 4 + (byteAt data (off + 3) &&& 0x1F).toNat * 4 = off + (4 + opt.data.length) := by omega
      rw [hnext] at hlength hflat
      have hsplit := slice_append_slice data (i := off) (m := 4 + opt.data.length) (n := total - off) (by omega)
      refine ⟨List.forall_mem_cons.2 ⟨hopt, hwf⟩, ?_, ?_⟩
      · rw [List.flatMap_cons, List.length_append, opt.length_bytes, hlength]
        omega
      · rw [List.flatMap_cons, List.flatMap_cons, ← hsplit,
          List.zipWith_append (by rw [length_slice (by omega), opt.length_mask]), ← hbytes, hflat, Nat.sub_sub]
    · rw [if_neg hmore] at h
      cases h
      have hend : total - off = 0 := by omega
      rw [hend]
      exact ⟨fun _ ho => absurd ho List.not_mem_nil, rfl, rfl⟩

/-! ## Headers -/

theorem GeneveHeader.parse_eq_some {data : List UInt8} {header : GeneveHeader}
    (h : GeneveHeader.parse data = some header) :
    (byteAt data 0 >>> 6) &&& 0x03 = 0 ∧ 8 + (byteAt data 0 &&& 0x3F).toNat * 4 ≤ data.length ∧
      be16At data 2 = 0x6558 ∧ ∃ options,
        GeneveHeader.parseOptions data (8 + (byteAt data 0 &&& 0x3F).toNat * 4)
          (8 + (byteAt data 0 &&& 0x3F).toNat * 4) 8 = some options ∧
        header = { version := 0, optionsLen := (byteAt data 0 &&& 0x3F).toNat * 4, oam := byteAt data 1 &&& 0x80 != 0
                   critical := byteAt data 1 &&& 0x40 != 0, protocolType := 0x6558, vni := vniAt data 4, options } := by
  rw [GeneveHeader.parse] at h
  dsimp only at h
  split_ifs at h with hshort hversion hlen htype
  obtain ⟨options, hoptions, hheader⟩ := Option.bind_eq_some_iff.1 h
  cases hheader
  exact ⟨not_not.1 hversion, Nat.not_lt.1 hlen, not_not.1 htype, options, hoptions,
    by rw [not_not.1 hversion, not_not.1 htype]⟩

theorem GeneveHeader.bytes_of_parse {data : List UInt8} {header : GeneveHeader}
    (h : GeneveHeader.parse data = some header) :
    header.WellFormed ∧ header.headerLen ≤ data.length ∧
      header.bytes = List.zipWith (· &&& ·) (data.take header.headerLen) header.mask := by
  obtain ⟨hversion, hlen, htype, options, hoptions, rfl⟩ := GeneveHeader.parse_eq_some h
  obtain ⟨hwf, hlength, hflat⟩ := GeneveHeader.parseOptions_spec hlen (by omega) (by omega) hoptions
  have hwords : (byteAt data 0 &&& 0x3F).toNat < 64 := by
    rw [UInt8.toNat_and]
    exact Nat.lt_succ_of_le Nat.and_le_right
  rw [Nat.add_sub_cancel_left] at hlength hflat
  refine ⟨⟨rfl, rfl, vniAt_lt data 4, hlength.symm, hwf, by dsimp only; omega⟩, hlen, ?_⟩
  have hmask : ∀ b : UInt8, b &&& 0xFF = b := fun b => UInt8.and_neg_one
  have hbase : data.take 8 = [byteAt data 0, byteAt data 1, byteAt data 2, byteAt data 3, byteAt data 4, byteAt data 5,
      byteAt data 6, byteAt data 7] := by
    rw [← List.drop_zero (l := data), drop_eq_byteAt_cons (by omega), drop_eq_byteAt_cons (by omega),
      drop_eq_byteAt_cons (by omega), drop_eq_byteAt_cons (by omega), drop_eq_byteAt_cons (by omega),
      drop_eq_byteAt_cons (by omega), drop_eq_byteAt_cons (by omega), drop_eq_byteAt_cons (by omega)]
    rfl
  have htypes : beBytes16 0x6558 = [byteAt data 2, byteAt data 3] := by
    rw [← htype]
    exact beBytes16_fromBe16 _ _
  rw [GeneveHeader.headerLen, List.take_add, GeneveHeader.mask, List.zipWith_append (by rw [hbase]; rfl), ← hflat,
    GeneveHeader.bytes, GeneveHeader.baseBytes, hbase]
  congr 1
  dsimp only
  have hzero : ((0 : UInt8) &&& 0x03) <<< 6 ||| byteAt data 0 = byteAt data 0 := UInt8.zero_or
  rw [ofNat_words, and_of_version hversion, and_of_version hversion, hzero, flags_of_byte, htypes, vniBytes_vniAt]
  simp only [List.zipWith_cons_cons, List.zipWith_nil_left, hmask, List.cons_append, List.nil_append, UInt8.and_zero]

/-- **GENEVE codec.** A header of version 0 for Ethernet, with a VNI of 24 bits and options of whole words, is parsed
from its encoding, whatever follows.  Of a parsed header, the options fill `options_len` bytes, and encoding gives its
bytes back, with the reserved bits cleared. -/
theorem geneve_codec :
    (∀ header : GeneveHeader, header.version = 0 → header.protocolType = 0x6558 → header.vni ≤ 0xFFFFFF →
      (∀ opt ∈ header.options, opt.data.length % 4 = 0 ∧ opt.data.length ≤ 124) →
      (header.options.map (4 + ·.data.length)).sum = header.optionsLen → header.optionsLen ≤ 252 →
      ∀ out : List UInt8, header.headerLen ≤ out.length →
        ∃ bytes, bytes.length = header.headerLen ∧ header.encode out = some (bytes ++ out.drop header.headerLen) ∧
          ∀ rest, GeneveHeader.parse (bytes ++ rest) = some header) ∧
    ∀ (data : List UInt8) (header : GeneveHeader), GeneveHeader.parse data = some header →
      (header.options.map (4 + ·.data.length)).sum = header.optionsLen ∧ header.headerLen ≤ data.length ∧
        ∀ out : List UInt8, header.headerLen ≤ out.length →
          header.encode out = some
            (List.zipWith (· &&& ·) (data.take header.headerLen) header.mask ++ out.drop header.headerLen) := by
  have hsum : ∀ header : GeneveHeader, header.Consistent ↔
      (header.options.map (4 + ·.data.length)).sum = header.optionsLen := by
    intro header
    rw [GeneveHeader.Consistent, List.length_flatMap, eq_comm]
    simp only [GeneveTlvOption.length_bytes]
  refine ⟨?_, ?_⟩
  · intro header hversion htype hvni hoptions hlen hmax out hout
    have hconsistent := (hsum header).2 hlen
    have hheader : header.WellFormed := by
      refine ⟨hversion, htype, ?_, hconsistent, ?_, by omega⟩
      · have := UInt32.le_iff_toNat_le.1 hvni
        change _ ≤ 16777215 at this
        omega
      · intro opt hopt
        exact ⟨(hoptions opt hopt).1, by have := (hoptions opt hopt).2; omega⟩
    exact ⟨header.bytes, GeneveHeader.length_bytes hconsistent, GeneveHeader.encode_append hconsistent hout,
      GeneveHeader.parse_bytes hheader⟩
  · intro data header h
    obtain ⟨hheader, hlen, hbytes⟩ := GeneveHeader.bytes_of_parse h
    refine ⟨(hsum header).1 hheader.consistent, hlen, ?_⟩
    intro out hout
    rw [GeneveHeader.encode_append hheader.consistent hout, hbytes]

/-- VNI 100 with an option of four bytes; then its bytes with every reserved bit set. -/
theorem geneve_codec_sample :
    let header : GeneveHeader :=
      { GeneveHeader.new 100 with optionsLen := 8, oam := true, options := [⟨0x0102, 1, [0xAA, 0xBB, 0xCC, 0xDD]⟩] }
    let data : List UInt8 := [2, 0xBF, 0x65, 0x58, 0, 0, 100, 0xFF, 1, 2, 1, 0xE1, 0xAA, 0xBB, 0xCC, 0xDD, 7]
    (∃ bytes, header.encode (List.replicate 16 0) = some (bytes ++ []) ∧
      ∀ rest, GeneveHeader.parse (bytes ++ rest) = some header) ∧
    GeneveHeader.parse data = some header ∧
      header.encode (List.replicate 16 0) =
        some [2, 0x80, 0x65, 0x58, 0, 0, 100, 0, 1, 2, 1, 1, 0xAA, 0xBB, 0xCC, 0xDD] := by
  intro header data
  obtain ⟨bytes, -, hencode, hparse⟩ := geneve_codec.1 header rfl rfl (by decide)
    (by simp [header]) rfl (by decide) (List.replicate 16 0) (by decide)
  have hdata : GeneveHeader.parse data = some header := by decide +kernel
  exact ⟨⟨bytes, hencode, hparse⟩, hdata, (geneve_codec.2 data header hdata).2.2 (List.replicate 16 0) (by decide)⟩

end DpdkStdlib.Udp

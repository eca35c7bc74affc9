import DpdkStdlib.Tcp.Codec

/-!
# What the parser accepts (`codec.rs`)

`parse_tcp_packet` finds the TCP header with the length nibble of the IPv4 header, and reads options whose lengths the
sender wrote.
-/

namespace DpdkStdlib.Tcp
open DpdkStdlib.Lib

/-! ## The option loop -/

theorem sackBlocksFrom_total (data : List UInt8) (i : Nat) : ∀ (n b : Nat) (acc : List (BitVec 32 × BitVec 32)),
    ∃ blocks, sackBlocksFrom data i n b acc = some blocks
  | 0, _, acc => ⟨acc, rfl⟩
  | n + 1, b, acc => by
    rw [sackBlocksFrom]
    dsimp only
    split_ifs with hfit
    · simp (disch := omega) only [getElem?_of_lt, Option.bind_eq_bind, Option.bind_some]
      exact sackBlocksFrom_total data i n (b + 1) _
    · exact sackBlocksFrom_total data i n (b + 1) acc

/-- What a turn of the loop at index `i` can do, given the turns that are left: end the loop, or go on further ahead. -/
def Turn (data : List UInt8) (i : Nat) (f : Nat → Option TcpOptions) : Prop :=
  (∃ opts, ∀ fuel, f fuel = some opts) ∨
    ∃ i' opts, i < i' ∧ ∀ fuel, f fuel = parseOptionsLoop data fuel i' opts

namespace Turn
variable {data : List UInt8} {i : Nat}

theorem stop (opts : TcpOptions) : Turn data i fun _ => some opts := .inl ⟨opts, fun _ => rfl⟩

theorem move {i' : Nat} (h : i < i') (opts : TcpOptions) : Turn data i fun fuel => parseOptionsLoop data fuel i' opts :=
  .inr ⟨i', opts, h, fun _ => rfl⟩

theorem ite {c : Prop} [Decidable c] {f g : Nat → Option TcpOptions} (hf : c → Turn data i f) (hg : ¬c → Turn data i g) :
    Turn data i fun fuel => if c then f fuel else g fuel := by
  by_cases h : c
  · simp only [if_pos h]
    exact hf h
  · simp only [if_neg h]
    exact hg h

theorem read {j : Nat} (h : j < data.length) {f : UInt8 → Nat → Option TcpOptions} (hf : ∀ x, Turn data i (f x)) :
    Turn data i fun fuel => data[j]? >>= fun x => f x fuel := by
  simp only [getElem?_of_lt h, Option.bind_eq_bind, Option.bind_some]
  exact hf _

theorem sack {n b : Nat} {acc : List (BitVec 32 × BitVec 32)}
    {f : List (BitVec 32 × BitVec 32) → Nat → Option TcpOptions} (hf : ∀ x, Turn data i (f x)) :
    Turn data i fun fuel => sackBlocksFrom data i n b acc >>= fun x => f x fuel := by
  obtain ⟨blocks, h⟩ := sackBlocksFrom_total data i n b acc
  simp only [h, Option.bind_eq_bind, Option.bind_some]
  exact hf _

end Turn

theorem optionTurn {data : List UInt8} {i : Nat} (hi : i < data.length) (opts : TcpOptions) :
    Turn data i fun fuel => parseOptionsLoop data (fuel + 1) i opts := by
  simp only [parseOptionsLoop, if_pos hi]
  refine .read hi fun kind => .ite (fun _ => .stop opts) fun _ => .ite (fun _ => .move (by omega) opts) fun _ => ?_
  refine .ite (fun _ => .ite (fun h => .read (by omega) fun _ => .read (by omega) fun _ => .move (by omega) _)
    fun _ => .stop opts) fun _ => ?_
  refine .ite (fun _ => .ite (fun h => .read (by omega) fun _ => .move (by omega) _) fun _ => .stop opts) fun _ => ?_
  refine .ite (fun _ => .ite (fun h => .move (by omega) _) fun _ => .stop opts) fun _ => ?_
  refine .ite (fun _ => .ite (fun _ => .stop opts) fun h => .read (by omega) fun len =>
    .ite (fun _ => .stop opts) fun h => .sack fun _ => .move (by omega) _) fun _ => ?_
  refine .ite (fun _ => .ite (fun h => ?_) fun _ => .stop opts) fun _ => ?_
  · refine .read (by omega) fun _ => .read (by omega) fun _ => .read (by omega) fun _ => .read (by omega) fun _ => ?_
    refine .read (by omega) fun _ => .read (by omega) fun _ => .read (by omega) fun _ => .read (by omega) fun _ => ?_
    exact .move (by omega) _
  · exact .ite (fun _ => .stop opts) fun h => .read (by omega) fun len =>
      .ite (fun _ => .stop opts) fun h => .move (by omega) _

/-- The loop ends within its turns. -/
theorem parseOptionsLoop_ends (data : List UInt8) : ∀ (fuel i : Nat) (opts : TcpOptions), data.length ≤ i + fuel →
    ∃ opts', ∀ k, parseOptionsLoop data (fuel + k) i opts = some opts'
  | fuel, i, opts, hfuel => by
    by_cases hi : i < data.length
    · cases fuel with
      | zero => omega
      | succ fuel =>
        rcases optionTurn hi opts with ⟨opts', hstop⟩ | ⟨i', opts', hlt, hmove⟩
        · exact ⟨opts', fun k => by rw [Nat.succ_add]; exact hstop _⟩
        · obtain ⟨opts'', hrest⟩ := parseOptionsLoop_ends data fuel i' opts' (by omega)
          exact ⟨opts'', fun k => by rw [Nat.succ_add]; exact (hmove _).trans (hrest k)⟩
    · refine ⟨opts, fun k => ?_⟩
      cases fuel + k with
      | zero => rfl
      | succ n => rw [parseOptionsLoop, if_neg hi]

theorem parseOptions_total (data : List UInt8) : ∃ opts, parseOptions data = some opts ∧
    ∀ fuel, data.length ≤ fuel → parseOptionsLoop data fuel 0 {} = some opts := by
  obtain ⟨opts, h⟩ := parseOptionsLoop_ends data data.length 0 {} (by omega)
  refine ⟨opts, h 0, fun fuel hfuel => ?_⟩
  obtain ⟨k, rfl⟩ := Nat.exists_eq_add_of_le hfuel
  exact h k

/-! ## Frames -/

def be32At (b : List UInt8) (i : Nat) : BitVec 32 :=
  fromBe32 (byteAt b i) (byteAt b (i + 1)) (byteAt b (i + 2)) (byteAt b (i + 3))

def ipIhl (frame : List UInt8) : Nat := (byteAt frame 14 &&& 0x0F).toNat

def tcpStart (frame : List UInt8) : Nat := 14 + ipIhl frame * 4

def tcpHeaderLenAt (frame : List UInt8) : Nat := (byteAt frame (tcpStart frame + 12) >>> 4).toNat * 4

def ipTotalLenOf (frame : List UInt8) : Nat := (be16At frame 16).toNat

def optionBytesAt (frame : List UInt8) : List UInt8 :=
  (frame.drop (tcpStart frame + 20)).take (tcpHeaderLenAt frame - 20)

/-- The checks that the parser makes of a frame. -/
structure Accepted (frame : List UInt8) : Prop where
  length : 54 ≤ frame.length
  ethertype : be16At frame 12 = 0x0800
  protocol : byteAt frame 23 = 6
  tcpHeader : tcpStart frame + 20 ≤ frame.length
  dataOffset : 20 ≤ tcpHeaderLenAt frame
  options : tcpStart frame + tcpHeaderLenAt frame ≤ frame.length

/-- The segment of an accepted frame; its payload ends with the IP packet. -/
def segmentAt (frame : List UInt8) (options : TcpOptions) : ParsedTcpSegment :=
  let tcp := tcpStart frame
  let payloadStart := tcp + tcpHeaderLenAt frame
  let ipEnd := min (14 + ipTotalLenOf frame) frame.length
  { src := .v4 ⟨byteAt frame 26, byteAt frame 27, byteAt frame 28, byteAt frame 29⟩ (be16At frame tcp)
    dst := .v4 ⟨byteAt frame 30, byteAt frame 31, byteAt frame 32, byteAt frame 33⟩ (be16At frame (tcp + 2))
    seq := ⟨be32At frame (tcp + 4)⟩
    ack := ⟨be32At frame (tcp + 8)⟩
    flags := ⟨byteAt frame (tcp + 13)⟩
    window := be16At frame (tcp + 14)
    options
    payload := if ipEnd > payloadStart then (frame.drop payloadStart).take (ipEnd - payloadStart) else [] }

/-- The result of the parser on a frame: a segment if its checks pass, an error otherwise. -/
def Parses (frame : List UInt8) (r : Option (Except TcpError ParsedTcpSegment)) : Prop :=
  (Accepted frame ∧ ∃ options, parseOptions (optionBytesAt frame) = some options ∧
    r = some (.ok (segmentAt frame options))) ∨ ¬Accepted frame ∧ ∃ e, r = some (.error e)

namespace Parses
variable {frame : List UInt8}

theorem refuse (h : ¬Accepted frame) (e : TcpError) : Parses frame (some (.error e)) := .inr ⟨h, e, rfl⟩

theorem ite {c : Prop} [Decidable c] {r r' : Option (Except TcpError ParsedTcpSegment)} (hr : c → Parses frame r)
    (hr' : ¬c → Parses frame r') : Parses frame (if c then r else r') := by
  split_ifs with h
  · exact hr h
  · exact hr' h

theorem read {j : Nat} (h : j < frame.length) {f : UInt8 → Option (Except TcpError ParsedTcpSegment)}
    (hf : Parses frame (f (byteAt frame j))) : Parses frame (frame[j]? >>= f) := by
  rw [getElem?_of_lt h]
  exact hf

theorem read₂ {j : Nat} (h : j + 1 < frame.length) {f : UInt8 → UInt8 → Option (Except TcpError ParsedTcpSegment)}
    (hf : Parses frame (f (byteAt frame j) (byteAt frame (j + 1)))) :
    Parses frame (frame[j]? >>= fun a => frame[j + 1]? >>= f a) := read (by omega) (read h hf)

theorem read₄ {j : Nat} (h : j + 3 < frame.length)
    {f : UInt8 → UInt8 → UInt8 → UInt8 → Option (Except TcpError ParsedTcpSegment)}
    (hf : Parses frame (f (byteAt frame j) (byteAt frame (j + 1)) (byteAt frame (j + 2)) (byteAt frame (j + 3)))) :
    Parses frame (frame[j]? >>= fun a => frame[j + 1]? >>= fun b => frame[j + 2]? >>= fun c => frame[j + 3]? >>= f a b c) :=
  read₂ (by omega) (read₂ (j := j + 2) h hf)

end Parses

theorem parses (frame : List UInt8) : Parses frame (parseTcpPacket frame) := by
  unfold parseTcpPacket
  refine .ite (fun h => .refuse (fun ha => absurd ha.length (by omega)) _) fun hlen => ?_
  refine .read₂ (by omega) ?_
  refine .ite (fun h => .refuse (fun ha => h ha.ethertype) _) fun heth => ?_
  refine .read (by omega) (.read (by omega) ?_)
  refine .ite (fun h => .refuse (fun ha => h ha.protocol) _) fun hproto => ?_
  refine .read₄ (by omega) (.read₄ (by omega) ?_)
  refine .ite (fun h => .refuse (fun ha => absurd ha.tcpHeader (Nat.not_le.2 h)) _) fun htcp => ?_
  refine .read₂ (by omega) (.read₂ (by omega) (.read₄ (by omega) (.read₄ (by omega) (.read (by omega) ?_))))
  refine .ite (fun h => .refuse (fun ha => absurd ha.dataOffset ?_) _) fun hoffset => ?_
  · rw [tcpHeaderLenAt, tcpStart, ipIhl]
    omega
  refine .ite (fun h => .refuse (fun ha => absurd ha.options (Nat.not_le.2 h)) _) fun hopt => ?_
  refine .read (by omega) (.read₂ (by omega) ?_)
  have haccepted : Accepted frame := by
    refine ⟨Nat.not_lt.1 hlen, not_not.1 heth, not_not.1 hproto, Nat.not_lt.1 htcp, ?_, Nat.not_lt.1 hopt⟩
    rw [tcpHeaderLenAt, tcpStart, ipIhl]
    omega
  obtain ⟨options, hoptions, -⟩ := parseOptions_total (optionBytesAt frame)
  change Parses frame (parseOptions (optionBytesAt frame) >>= _)
  rw [hoptions]
  refine .read₂ (by omega) (.inl ⟨haccepted, options, hoptions, rfl⟩)

/-! ## IPv4 headers -/

/-- A valid IPv4 header: version 4, at least five words, and a total length that is there. -/
structure Ipv4HeaderFits (frame : List UInt8) : Prop where
  version : byteAt frame 14 >>> 4 = 4
  ihl : 5 ≤ ipIhl frame
  covers : ipIhl frame * 4 + tcpHeaderLenAt frame ≤ ipTotalLenOf frame
  present : ipTotalLenOf frame ≤ frame.length - 14

/-- A segment read from a frame with a valid IPv4 header, and its fields from the bytes behind that header. -/
structure HeadersValid (frame : List UInt8) (seg : ParsedTcpSegment) : Prop extends Ipv4HeaderFits frame where
  after : 14 + 20 ≤ tcpStart frame ∧ 14 + ipIhl frame * 4 ≤ tcpStart frame
  ports : seg.src.port = be16At frame (tcpStart frame) ∧ seg.dst.port = be16At frame (tcpStart frame + 2)
  flags : seg.flags = ⟨byteAt frame (tcpStart frame + 13)⟩
  options : parseOptions ((frame.drop (tcpStart frame + 20)).take (tcpHeaderLenAt frame - 20)) = some seg.options

/-- **What the parser accepts.** On every byte string the parser ends without an index out of range.  What it accepts has
a valid IPv4 header exactly if the frame has one, or fails a check that the parser makes: version, header length and
total length are not among them. -/
theorem parser_valid_iff (frame : List UInt8) :
    (∃ r, parseTcpPacket frame = some r) ∧
    (∀ fuel, (optionBytesAt frame).length ≤ fuel →
      parseOptionsLoop (optionBytesAt frame) fuel 0 {} = parseOptions (optionBytesAt frame)) ∧
    ((∀ seg, parseTcpPacket frame = some (.ok seg) → HeadersValid frame seg) ↔
      (Accepted frame → Ipv4HeaderFits frame)) := by
  obtain ⟨opts, hopts, hfuel⟩ := parseOptions_total (optionBytesAt frame)
  refine ⟨?_, fun fuel hle => (hfuel fuel hle).trans hopts.symm, ?_⟩
  · rcases parses frame with ⟨-, options, -, h⟩ | ⟨-, e, h⟩
    · exact ⟨_, h⟩
    · exact ⟨_, h⟩
  · rcases parses frame with ⟨haccepted, options, hoptions, h⟩ | ⟨hrefused, e, h⟩
    · constructor
      · intro hvalid _
        exact (hvalid _ h).toIpv4HeaderFits
      · intro hfits seg hseg
        obtain rfl : segmentAt frame options = seg := by
          rw [h] at hseg
          exact Except.ok.inj (Option.some.inj hseg)
        have hihl := (hfits haccepted).ihl
        refine ⟨hfits haccepted, ⟨?_, le_rfl⟩, ⟨rfl, rfl⟩, rfl, hoptions⟩
        rw [tcpStart]
        omega
    · refine iff_of_true (fun seg hseg => ?_) fun haccepted => absurd haccepted hrefused
      rw [h] at hseg
      cases hseg

def headlessFrame : List UInt8 :=
  List.replicate 12 0 ++ [0x08, 0x00] ++ List.replicate 9 0 ++ [6, 0, 0, 0x50, 0, 0, 0] ++ List.replicate 24 0

/-- **A header of length zero.** The ports are read from the first words of the IPv4 header. -/
theorem headless_accepted : ∃ seg, parseTcpPacket headlessFrame = some (.ok seg) ∧ ipIhl headlessFrame = 0 ∧
    tcpStart headlessFrame = 14 ∧ ¬HeadersValid headlessFrame seg := by
  refine ⟨_, rfl, by decide, by decide, fun h => absurd h.ihl (by decide)⟩

end DpdkStdlib.Tcp

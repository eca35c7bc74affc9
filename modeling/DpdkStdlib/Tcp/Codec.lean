import DpdkStdlib.Lib.OnesComplement
import DpdkStdlib.Tcp.Seq
import DpdkStdlib.Tcp.State

/-!
# The TCP codec (`codec.rs`)

`buildTcpFrame` writes an Ethernet, IPv4 and TCP header and the payload; `parseTcpPacket` reads a segment back from
the bytes of a frame.  A result `none` of the parser is an index out of range (the source would panic); its
`Except` is the source's `Result`.

Fixed-width fields are read and written big-endian; lengths are truncated to their fields as the source's `as`
conversions do.
-/

namespace DpdkStdlib.Tcp

open DpdkStdlib.Lib

/-! ## Data types -/

structure TcpFlags where
  bits : UInt8
deriving DecidableEq

namespace TcpFlags

def fin : TcpFlags := ⟨0x01⟩
def syn : TcpFlags := ⟨0x02⟩
def rst : TcpFlags := ⟨0x04⟩
def ack : TcpFlags := ⟨0x10⟩

def contains (self flag : TcpFlags) : Bool := self.bits &&& flag.bits == flag.bits

def union (self other : TcpFlags) : TcpFlags := ⟨self.bits ||| other.bits⟩

end TcpFlags

structure TcpOptions where
  mss : Option UInt16 := none
  windowScale : Option UInt8 := none
  sackPermitted : Bool := false
  timestamps : Option (BitVec 32 × BitVec 32) := none
  sackBlocks : List (BitVec 32 × BitVec 32) := []
deriving DecidableEq

structure ParsedTcpSegment where
  src : SocketAddr
  dst : SocketAddr
  seq : SeqNum
  ack : SeqNum
  flags : TcpFlags
  window : UInt16
  options : TcpOptions
  payload : List UInt8
deriving DecidableEq

structure TcpFrameParams where
  srcMac : MacAddr
  dstMac : MacAddr
  src : SocketAddr
  dst : SocketAddr
  seq : SeqNum
  ack : SeqNum
  flags : TcpFlags
  window : UInt16
  options : TcpOptions
  payload : List UInt8
  ttl : UInt8
deriving DecidableEq

/-! ## Checksums -/

def ipv4Checksum (header : List UInt8) : UInt16 := onesComplement (wordSum header)

/-- `tcp_checksum`: over the pseudo-header and the segment. -/
def tcpChecksum (srcIp dstIp tcpSegment : List UInt8) : UInt16 :=
  onesComplement (wordSum srcIp + wordSum dstIp + 6 + tcpSegment.length + wordSum tcpSegment)

/-! ## Building -/

/-- `vec` padded with EOL bytes to a multiple of four. -/
def padOptions (buf : List UInt8) : List UInt8 := buf ++ List.replicate ((4 - buf.length % 4) % 4) 0

/-- `serialize_options`: in a SYN the defaults are filled in. -/
def serializeOptions (options : TcpOptions) (flags : TcpFlags) : List UInt8 :=
  let isSyn := flags.contains .syn
  let mss := match options.mss with
    | some mss => [2, 4] ++ beBytes16 mss
    | none => if isSyn then [2, 4] ++ beBytes16 1460 else []
  let windowScale := match options.windowScale with
    | some ws => [1, 3, 3, ws]
    | none => if isSyn then [1, 3, 3, 7] else []
  let sackPermitted := if options.sackPermitted || isSyn then [1, 1, 4, 2] else []
  let timestamps := match options.timestamps with
    | some (tsval, tsecr) => [1, 1, 8, 10] ++ beBytes32 tsval ++ beBytes32 tsecr
    | none => if isSyn then [1, 1, 8, 10] ++ beBytes32 0 ++ beBytes32 0 else []
  let sackBlocks := if options.sackBlocks.isEmpty then []
    else [1, 1, 5, UInt8.ofNat (2 + options.sackBlocks.length * 8)] ++
      options.sackBlocks.flatMap fun b => beBytes32 b.1 ++ beBytes32 b.2
  padOptions (mss ++ windowScale ++ sackPermitted ++ timestamps ++ sackBlocks)

def ethHeader (p : TcpFrameParams) : List UInt8 := p.dstMac.toList ++ p.srcMac.toList ++ beBytes16 0x0800

def ipHeader (srcIp dstIp : Ipv4Addr) (ttl : UInt8) (ipTotalLen cksum : UInt16) : List UInt8 :=
  [0x45, 0x00] ++ beBytes16 ipTotalLen ++ [0x00, 0x00, 0x40, 0x00, ttl, 6] ++ beBytes16 cksum ++
    srcIp.octets ++ dstIp.octets

def tcpHeader (p : TcpFrameParams) (srcPort dstPort : UInt16) (tcpHeaderLen : Nat) (cksum : UInt16) : List UInt8 :=
  beBytes16 srcPort ++ beBytes16 dstPort ++ beBytes32 p.seq.val ++ beBytes32 p.ack.val ++
    [UInt8.ofNat (tcpHeaderLen / 4) <<< 4, p.flags.bits] ++ beBytes16 p.window ++ beBytes16 cksum ++ [0x00, 0x00]

/-- `build_tcp_frame`; IPv6 addresses are refused. -/
def buildTcpFrame (p : TcpFrameParams) : Except TcpError (List UInt8) :=
  match p.src, p.dst with
  | .v4 srcIp srcPort, .v4 dstIp dstPort =>
    let optionsBytes := serializeOptions p.options p.flags
    let tcpHeaderLen := 20 + optionsBytes.length
    let ipTotalLen := UInt16.ofNat (20 + tcpHeaderLen + p.payload.length)
    let ipCksum := ipv4Checksum (ipHeader srcIp dstIp p.ttl ipTotalLen 0)
    let cksum := tcpChecksum srcIp.octets dstIp.octets
      (tcpHeader p srcPort dstPort tcpHeaderLen 0 ++ optionsBytes ++ p.payload)
    .ok (ethHeader p ++ ipHeader srcIp dstIp p.ttl ipTotalLen ipCksum ++
      tcpHeader p srcPort dstPort tcpHeaderLen cksum ++ optionsBytes ++ p.payload)
  | _, _ => .error (.invalidPacket "IPv6 not supported in TCP codec (use build_tcp6_frame)")

/-! ## Parsing -/

/-- The SACK blocks of an option that starts at `i`, from block `b` on. -/
def sackBlocksFrom (data : List UInt8) (i : Nat) : Nat → Nat → List (BitVec 32 × BitVec 32) →
    Option (List (BitVec 32 × BitVec 32))
  | 0, _, acc => some acc
  | n + 1, b, acc =>
    let off := i + 2 + b * 8
    if off + 8 ≤ data.length then do
      let left := fromBe32 (← data[off]?) (← data[off + 1]?) (← data[off + 2]?) (← data[off + 3]?)
      let right := fromBe32 (← data[off + 4]?) (← data[off + 5]?) (← data[off + 6]?) (← data[off + 7]?)
      sackBlocksFrom data i n (b + 1) (acc ++ [(left, right)])
    else sackBlocksFrom data i n (b + 1) acc

/-- The option loop at index `i`; every turn moves `i` forward, so `data.length` turns are enough. -/
def parseOptionsLoop (data : List UInt8) : Nat → Nat → TcpOptions → Option TcpOptions
  | 0, _, opts => some opts
  | fuel + 1, i, opts =>
    if i < data.length then do
      let kind ← data[i]?
      if kind = 0 then return opts
      else if kind = 1 then parseOptionsLoop data fuel (i + 1) opts
      else if kind = 2 then
        if i + 4 ≤ data.length ∧ data[i + 1]? = some 4 then
          parseOptionsLoop data fuel (i + 4) { opts with mss := some (fromBe16 (← data[i + 2]?) (← data[i + 3]?)) }
        else return opts
      else if kind = 3 then
        if i + 3 ≤ data.length ∧ data[i + 1]? = some 3 then
          parseOptionsLoop data fuel (i + 3) { opts with windowScale := some (← data[i + 2]?) }
        else return opts
      else if kind = 4 then
        if i + 2 ≤ data.length ∧ data[i + 1]? = some 2 then
          parseOptionsLoop data fuel (i + 2) { opts with sackPermitted := true }
        else return opts
      else if kind = 5 then
        if i + 2 > data.length then return opts
        else
          let len := (← data[i + 1]?).toNat
          if i + len > data.length ∨ len < 2 then return opts
          else
            let blocks ← sackBlocksFrom data i ((len - 2) / 8) 0 opts.sackBlocks
            parseOptionsLoop data fuel (i + len) { opts with sackBlocks := blocks }
      else if kind = 8 then
        if i + 10 ≤ data.length ∧ data[i + 1]? = some 10 then
          let tsval := fromBe32 (← data[i + 2]?) (← data[i + 3]?) (← data[i + 4]?) (← data[i + 5]?)
          let tsecr := fromBe32 (← data[i + 6]?) (← data[i + 7]?) (← data[i + 8]?) (← data[i + 9]?)
          parseOptionsLoop data fuel (i + 10) { opts with timestamps := some (tsval, tsecr) }
        else return opts
      else if i + 1 ≥ data.length then return opts
      else
        let len := (← data[i + 1]?).toNat
        if len < 2 ∨ i + len > data.length then return opts
        else parseOptionsLoop data fuel (i + len) opts
    else some opts

def parseOptions (data : List UInt8) : Option TcpOptions := parseOptionsLoop data data.length 0 {}

/-- Four lower-case hexadecimal digits, as `04x` formats. -/
def hex4 (n : Nat) : String :=
  let digits := Nat.toDigits 16 n
  String.ofList (List.replicate (4 - digits.length) '0' ++ digits)

/-- `parse_tcp_packet`; `none` is an index out of range. -/
def parseTcpPacket (frame : List UInt8) : Option (Except TcpError ParsedTcpSegment) := do
  if frame.length < 54 then
    return .error (.invalidPacket s!"frame too short: {frame.length} bytes, minimum 54")
  let ethertype := fromBe16 (← frame[12]?) (← frame[13]?)
  if ethertype ≠ 0x0800 then
    return .error (.invalidPacket ("not IPv4: ethertype 0x" ++ hex4 ethertype.toNat))
  let ipHeaderLen := ((← frame[14]?) &&& 0x0F).toNat * 4
  let proto ← frame[14 + 9]?
  if proto ≠ 6 then
    return .error (.invalidPacket ("not TCP: protocol " ++ toString proto.toNat))
  let srcIp := Ipv4Addr.mk (← frame[14 + 12]?) (← frame[14 + 13]?) (← frame[14 + 14]?) (← frame[14 + 15]?)
  let dstIp := Ipv4Addr.mk (← frame[14 + 16]?) (← frame[14 + 17]?) (← frame[14 + 18]?) (← frame[14 + 19]?)
  let tcp := 14 + ipHeaderLen
  if frame.length < tcp + 20 then
    return .error (.invalidPacket "frame too short for TCP header")
  let srcPort := fromBe16 (← frame[tcp]?) (← frame[tcp + 1]?)
  let dstPort := fromBe16 (← frame[tcp + 2]?) (← frame[tcp + 3]?)
  let seq := SeqNum.mk (fromBe32 (← frame[tcp + 4]?) (← frame[tcp + 5]?) (← frame[tcp + 6]?) (← frame[tcp + 7]?))
  let ack := SeqNum.mk (fromBe32 (← frame[tcp + 8]?) (← frame[tcp + 9]?) (← frame[tcp + 10]?) (← frame[tcp + 11]?))
  let dataOffset := ((← frame[tcp + 12]?) >>> 4).toNat
  if dataOffset < 5 then
    return .error (.invalidPacket ("invalid data-offset: " ++ toString dataOffset))
  let tcpHeaderLen := dataOffset * 4
  if frame.length < tcp + tcpHeaderLen then
    return .error (.invalidPacket ("frame too short for TCP options: need " ++ toString tcpHeaderLen ++
      " bytes at offset " ++ toString tcp ++ ", have " ++ toString (frame.length - tcp)))
  let flags := TcpFlags.mk (← frame[tcp + 13]?)
  let window := fromBe16 (← frame[tcp + 14]?) (← frame[tcp + 15]?)
  let options ← parseOptions ((frame.drop (tcp + 20)).take (tcpHeaderLen - 20))
  -- the payload ends with the IPv4 total length, not with the frame: short frames are padded
  let payloadStart := tcp + tcpHeaderLen
  let ipTotalLen := (fromBe16 (← frame[14 + 2]?) (← frame[14 + 3]?)).toNat
  let ipEnd := min (14 + ipTotalLen) frame.length
  let payload := if ipEnd > payloadStart then (frame.drop payloadStart).take (ipEnd - payloadStart) else []
  return .ok { src := .v4 srcIp srcPort, dst := .v4 dstIp dstPort, seq, ack, flags, window, options, payload }

end DpdkStdlib.Tcp

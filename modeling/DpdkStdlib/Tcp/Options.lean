import DpdkStdlib.Tcp.Codec

/-!
# TCP options read back (`codec.rs`)

What `parse_options` makes of the bytes `serialize_options` writes.  The parser is a loop over an index; `Reads` says
what a stretch of bytes does to the options read so far, whatever stands before and after it, and stretches compose.
-/

namespace DpdkStdlib.Tcp
open DpdkStdlib.Lib

/-- The options a frame carries: a SYN announces a default for every option that is absent. -/
def TcpOptions.onWire (options : TcpOptions) (flags : TcpFlags) : TcpOptions :=
  let isSyn := flags.contains .syn
  { mss := options.mss <|> if isSyn then some 1460 else none
    windowScale := options.windowScale <|> if isSyn then some 7 else none
    sackPermitted := options.sackPermitted || isSyn
    timestamps := options.timestamps <|> if isSyn then some (0, 0) else none
    sackBlocks := options.sackBlocks }

/-! ## Stretches of option bytes -/

/-- The loop passes `bytes` in at most one turn per byte, wherever they stand, and applies `f` to the options. -/
def Reads (bytes : List UInt8) (f : TcpOptions → TcpOptions) : Prop :=
  ∃ turns ≤ bytes.length, ∀ (data : List UInt8) (i fuel : Nat) (rest : List UInt8) (opts : TcpOptions),
    data.drop i = bytes ++ rest →
      parseOptionsLoop data (fuel + turns) i opts = parseOptionsLoop data fuel (i + bytes.length) (f opts)

theorem getElem?_of_drop {data l : List UInt8} {i : Nat} (h : data.drop i = l) (k : Nat) : data[i + k]? = l[k]? := by
  rw [← h, List.getElem?_drop]

theorem length_of_drop {data l : List UInt8} {i : Nat} (h : data.drop i = l) (hpos : 0 < l.length) :
    data.length = i + l.length := by
  have hlen := congrArg List.length h
  rw [List.length_drop] at hlen
  omega

namespace Reads

theorem nil : Reads [] id := ⟨0, Nat.le_refl 0, fun _ _ _ _ _ _ => rfl⟩

theorem append {bytes bytes' : List UInt8} {f f' : TcpOptions → TcpOptions} (h : Reads bytes f)
    (h' : Reads bytes' f') : Reads (bytes ++ bytes') (f' ∘ f) := by
  obtain ⟨turns, hle, hrun⟩ := h
  obtain ⟨turns', hle', hrun'⟩ := h'
  refine ⟨turns' + turns, by rw [List.length_append]; omega, fun data i fuel rest opts hdrop => ?_⟩
  rw [List.append_assoc] at hdrop
  have hnext : data.drop (i + bytes.length) = bytes' ++ rest := by
    rw [← List.drop_drop, hdrop, List.drop_left]
  rw [← Nat.add_assoc, hrun data i _ _ opts hdrop, hrun' data _ fuel rest _ hnext, List.length_append, Nat.add_assoc]
  rfl

theorem of_turn {bytes : List UInt8} {f : TcpOptions → TcpOptions} (hpos : 0 < bytes.length)
    (h : ∀ (data : List UInt8) (i fuel : Nat) (rest : List UInt8) (opts : TcpOptions), data.drop i = bytes ++ rest →
      i < data.length → i + bytes.length ≤ data.length →
      parseOptionsLoop data (fuel + 1) i opts = parseOptionsLoop data fuel (i + bytes.length) (f opts)) :
    Reads bytes f := by
  refine ⟨1, hpos, fun data i fuel rest opts hdrop => ?_⟩
  have hlen := length_of_drop hdrop (by rw [List.length_append]; omega)
  rw [List.length_append] at hlen
  exact h data i fuel rest opts hdrop (by omega) (by omega)

theorem nop : Reads [1] id := by
  refine of_turn (Nat.succ_pos _) fun data i fuel rest opts hdrop hi hfit => ?_
  have h0 : data[i]? = some 1 := getElem?_of_drop hdrop 0
  rw [parseOptionsLoop, if_pos hi, h0]
  rfl

theorem mss (m : UInt16) : Reads ([2, 4] ++ beBytes16 m) fun o => { o with mss := some m } := by
  refine of_turn (Nat.succ_pos _) fun data i fuel rest opts hdrop hi hfit => ?_
  have h0 : data[i]? = some 2 := getElem?_of_drop hdrop 0
  have h1 : data[i + 1]? = some 4 := getElem?_of_drop hdrop 1
  have h2 : data[i + 2]? = some (UInt8.ofNat (m.toNat / 256)) := getElem?_of_drop hdrop 2
  have h3 : data[i + 3]? = some (UInt8.ofNat m.toNat) := getElem?_of_drop hdrop 3
  rw [parseOptionsLoop, if_pos hi, h0]
  change (if i + 4 ≤ data.length ∧ data[i + 1]? = some 4 then _ else _) = _
  rw [if_pos ⟨hfit, h1⟩, h2, h3]
  change parseOptionsLoop data fuel (i + 4) { opts with mss := some (fromBe16 _ _) } = _
  rw [fromBe16_beBytes16]
  rfl

theorem windowScale (ws : UInt8) : Reads [3, 3, ws] fun o => { o with windowScale := some ws } := by
  refine of_turn (Nat.succ_pos _) fun data i fuel rest opts hdrop hi hfit => ?_
  have h0 : data[i]? = some 3 := getElem?_of_drop hdrop 0
  have h1 : data[i + 1]? = some 3 := getElem?_of_drop hdrop 1
  have h2 : data[i + 2]? = some ws := getElem?_of_drop hdrop 2
  rw [parseOptionsLoop, if_pos hi, h0]
  change (if i + 3 ≤ data.length ∧ data[i + 1]? = some 3 then _ else _) = _
  rw [if_pos ⟨hfit, h1⟩, h2]
  rfl

theorem sackPermitted : Reads [4, 2] fun o => { o with sackPermitted := true } := by
  refine of_turn (Nat.succ_pos _) fun data i fuel rest opts hdrop hi hfit => ?_
  have h0 : data[i]? = some 4 := getElem?_of_drop hdrop 0
  have h1 : data[i + 1]? = some 2 := getElem?_of_drop hdrop 1
  rw [parseOptionsLoop, if_pos hi, h0]
  change (if i + 2 ≤ data.length ∧ data[i + 1]? = some 2 then _ else _) = _
  rw [if_pos ⟨hfit, h1⟩]
  rfl

theorem timestamps (tsval tsecr : BitVec 32) :
    Reads ([8, 10] ++ beBytes32 tsval ++ beBytes32 tsecr) fun o => { o with timestamps := some (tsval, tsecr) } := by
  refine of_turn (Nat.succ_pos _) fun data i fuel rest opts hdrop hi hfit => ?_
  have h0 : data[i]? = some 8 := getElem?_of_drop hdrop 0
  have h1 : data[i + 1]? = some 10 := getElem?_of_drop hdrop 1
  rw [parseOptionsLoop, if_pos hi, h0]
  change (if i + 10 ≤ data.length ∧ data[i + 1]? = some 10 then _ else _) = _
  rw [if_pos ⟨hfit, h1⟩]
  simp only [getElem?_of_drop hdrop]
  change parseOptionsLoop data fuel (i + 10) { opts with timestamps := some (fromBe32 _ _ _ _, fromBe32 _ _ _ _) } = _
  rw [fromBe32_beBytes32, fromBe32_beBytes32]
  rfl

end Reads

def sackBytes (blocks : List (BitVec 32 × BitVec 32)) : List UInt8 :=
  blocks.flatMap fun b => beBytes32 b.1 ++ beBytes32 b.2

theorem length_sackBytes (blocks : List (BitVec 32 × BitVec 32)) : (sackBytes blocks).length = blocks.length * 8 := by
  induction blocks with
  | nil => rfl
  | cons b blocks ih =>
    rw [sackBytes, List.flatMap_cons, List.length_append, ← sackBytes, ih, List.length_cons, Nat.succ_mul, Nat.add_comm]
    rfl

theorem sackBlocksFrom_sackBytes {data rest : List UInt8} {i b : Nat} (blocks acc : List (BitVec 32 × BitVec 32))
    (hdrop : data.drop (i + 2 + b * 8) = sackBytes blocks ++ rest) :
    sackBlocksFrom data i blocks.length b acc = some (acc ++ blocks) := by
  induction blocks generalizing b acc with
  | nil => rw [List.append_nil]; rfl
  | cons block blocks ih =>
    rw [sackBytes, List.flatMap_cons, ← sackBytes, List.append_assoc] at hdrop
    have hlen := length_of_drop hdrop (Nat.succ_pos _)
    have hnext : data.drop (i + 2 + (b + 1) * 8) = sackBytes blocks ++ rest := by
      rw [show i + 2 + (b + 1) * 8 = i + 2 + b * 8 + 8 by omega, ← List.drop_drop, hdrop]
      rfl
    rw [List.length_cons, sackBlocksFrom]
    dsimp only
    rw [if_pos (by rw [hlen, List.length_append]; exact Nat.add_le_add_left (Nat.le_add_right 8 _) _)]
    have h0 := getElem?_of_drop hdrop 0
    rw [Nat.add_zero] at h0
    rw [h0]
    simp only [getElem?_of_drop hdrop]
    change sackBlocksFrom data i blocks.length (b + 1) (acc ++ [(fromBe32 _ _ _ _, fromBe32 _ _ _ _)]) = _
    rw [fromBe32_beBytes32, fromBe32_beBytes32, ih _ hnext, List.append_assoc]
    rfl

theorem Reads.sack {blocks : List (BitVec 32 × BitVec 32)} (h : 2 + blocks.length * 8 < 256) :
    Reads ([5, UInt8.ofNat (2 + blocks.length * 8)] ++ sackBytes blocks)
      fun o => { o with sackBlocks := o.sackBlocks ++ blocks } := by
  have hlen : ([5, UInt8.ofNat (2 + blocks.length * 8)] ++ sackBytes blocks).length = 2 + blocks.length * 8 := by
    rw [List.length_append, length_sackBytes]
    rfl
  refine of_turn (Nat.succ_pos _) fun data i fuel rest opts hdrop hi hfit => ?_
  rw [hlen] at hfit ⊢
  have h0 : data[i]? = some 5 := getElem?_of_drop hdrop 0
  have h1 : data[i + 1]? = some (UInt8.ofNat (2 + blocks.length * 8)) := getElem?_of_drop hdrop 1
  have hnat : (UInt8.ofNat (2 + blocks.length * 8)).toNat = 2 + blocks.length * 8 := by
    rw [UInt8.toNat_ofNat', Nat.mod_eq_of_lt h]
  have hblocks : data.drop (i + 2 + 0 * 8) = sackBytes blocks ++ rest := by
    rw [Nat.zero_mul, Nat.add_zero, ← List.drop_drop, hdrop]
    rfl
  rw [parseOptionsLoop, if_pos hi, h0]
  change (if i + 2 > data.length then _ else _) = _
  rw [if_neg (by omega), h1]
  change (if i + (UInt8.ofNat (2 + blocks.length * 8)).toNat > data.length ∨ _ then _ else _) = _
  rw [hnat, if_neg (by omega), Nat.add_sub_cancel_left, Nat.mul_div_cancel _ (by decide),
    sackBlocksFrom_sackBytes blocks _ hblocks]
  rfl

/-! ## Whole option fields -/

/-- The loop ends at the padding. -/
theorem parseOptionsLoop_padding {data : List UInt8} {i n : Nat} (h : data.drop i = List.replicate n 0) (fuel : Nat)
    (opts : TcpOptions) : parseOptionsLoop data fuel i opts = some opts := by
  cases fuel with
  | zero => rfl
  | succ fuel =>
    cases n with
    | zero => rw [parseOptionsLoop, if_neg (Nat.not_lt.2 (List.drop_eq_nil_iff.1 h))]
    | succ n =>
      have h0 : data[i]? = some 0 := getElem?_of_drop h 0
      have hlen := length_of_drop h (by rw [List.length_replicate]; exact Nat.succ_pos n)
      rw [List.length_replicate] at hlen
      rw [parseOptionsLoop, if_pos (by omega), h0]
      rfl

theorem Reads.parseOptions {bytes : List UInt8} {f : TcpOptions → TcpOptions} (h : Reads bytes f) (n : Nat) :
    parseOptions (bytes ++ List.replicate n 0) = some (f {}) := by
  obtain ⟨turns, hle, hrun⟩ := h
  have hfuel : (bytes ++ List.replicate n (0 : UInt8)).length =
      (bytes ++ List.replicate n (0 : UInt8)).length - turns + turns := by
    rw [List.length_append]
    omega
  rw [Tcp.parseOptions, hfuel, hrun _ 0 _ (List.replicate n 0) {} rfl]
  exact parseOptionsLoop_padding (by rw [Nat.zero_add, List.drop_left]) _ _

theorem length_padOptions_mod (buf : List UInt8) : (padOptions buf).length % 4 = 0 := by
  rw [padOptions, List.length_append, List.length_replicate]
  omega

def TcpOptions.fields (o : TcpOptions) : List UInt8 :=
  o.mss.elim [] (fun mss => [2, 4] ++ beBytes16 mss) ++ o.windowScale.elim [] (fun ws => [1, 3, 3, ws]) ++
    (if o.sackPermitted then [1, 1, 4, 2] else []) ++
    o.timestamps.elim [] (fun ts => [1, 1, 8, 10] ++ beBytes32 ts.1 ++ beBytes32 ts.2) ++
    if o.sackBlocks.isEmpty then []
    else [1, 1, 5, UInt8.ofNat (2 + o.sackBlocks.length * 8)] ++ sackBytes o.sackBlocks

theorem serializeOptions_eq (options : TcpOptions) (flags : TcpFlags) :
    serializeOptions options flags = padOptions (options.onWire flags).fields := by
  obtain ⟨mss, windowScale, sackPermitted, timestamps, sackBlocks⟩ := options
  unfold serializeOptions TcpOptions.onWire
  cases flags.contains .syn <;> cases mss <;> cases windowScale <;> cases sackPermitted <;> cases timestamps <;> rfl

theorem Reads.fields {o : TcpOptions} (h : o.fields.length ≤ 40) :
    Reads o.fields fun opts =>
      { mss := o.mss.or opts.mss
        windowScale := o.windowScale.or opts.windowScale
        sackPermitted := o.sackPermitted || opts.sackPermitted
        timestamps := o.timestamps.or opts.timestamps
        sackBlocks := opts.sackBlocks ++ o.sackBlocks } := by
  have hmss : Reads (o.mss.elim [] fun mss => [2, 4] ++ beBytes16 mss)
      fun opts => { opts with mss := o.mss.or opts.mss } := by
    cases o.mss with
    | none => exact Reads.nil
    | some m => exact Reads.mss m
  have hws : Reads (o.windowScale.elim [] fun ws => [1, 3, 3, ws])
      fun opts => { opts with windowScale := o.windowScale.or opts.windowScale } := by
    cases o.windowScale with
    | none => exact Reads.nil
    | some ws => exact Reads.nop.append (Reads.windowScale ws)
  have hsp : Reads (if o.sackPermitted then [1, 1, 4, 2] else [])
      fun opts => { opts with sackPermitted := o.sackPermitted || opts.sackPermitted } := by
    cases o.sackPermitted with
    | false => exact Reads.nil
    | true => exact (Reads.nop.append Reads.nop).append Reads.sackPermitted
  have hts : Reads (o.timestamps.elim [] fun ts => [1, 1, 8, 10] ++ beBytes32 ts.1 ++ beBytes32 ts.2)
      fun opts => { opts with timestamps := o.timestamps.or opts.timestamps } := by
    cases o.timestamps with
    | none => exact Reads.nil
    | some ts => exact (Reads.nop.append Reads.nop).append (Reads.timestamps ts.1 ts.2)
  have hsack : Reads (if o.sackBlocks.isEmpty then []
      else [1, 1, 5, UInt8.ofNat (2 + o.sackBlocks.length * 8)] ++ sackBytes o.sackBlocks)
      fun opts => { opts with sackBlocks := opts.sackBlocks ++ o.sackBlocks } := by
    have hfit : (if o.sackBlocks.isEmpty then []
        else [1, 1, 5, UInt8.ofNat (2 + o.sackBlocks.length * 8)] ++ sackBytes o.sackBlocks).length ≤ 40 := by
      rw [TcpOptions.fields, List.length_append] at h
      omega
    cases hb : o.sackBlocks with
    | nil =>
      simp only [List.append_nil]
      exact Reads.nil
    | cons b bs =>
      rw [hb, if_neg (by simp), List.length_append, length_sackBytes] at hfit
      rw [if_neg (by simp)]
      exact (Reads.nop.append Reads.nop).append (Reads.sack (by simp only [List.length_cons] at hfit ⊢; omega))
  exact (((hmss.append hws).append hsp).append hts).append hsack

/-- **Round trip of the options.** Serialised options with room in the header are read back, the defaults of a SYN
filled in. -/
theorem parse_serialize {options : TcpOptions} {flags : TcpFlags} (h : (serializeOptions options flags).length ≤ 40) :
    parseOptions (serializeOptions options flags) = some (options.onWire flags) := by
  rw [serializeOptions_eq] at h ⊢
  have hle : (options.onWire flags).fields.length ≤ 40 := by
    rw [padOptions, List.length_append] at h
    omega
  rw [padOptions, (Reads.fields hle).parseOptions]
  simp only [Option.or_none, Bool.or_false, List.nil_append]

end DpdkStdlib.Tcp

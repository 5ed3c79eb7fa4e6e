import PpmlIot.Signecc.Radio

/-!
# Frame headers

What the development assumes of RIOT's header functions, and functions that satisfy it: the layout
of data frames whose addresses have two or eight bytes.
-/

namespace PpmlIot.Signecc

open Library

/-- RIOT's header functions read the header only. -/
def HeaderLocal (net : Ieee802154) : Prop :=
  ∀ left right : Memory, net.getFrameHdrLen left ≠ 0 →
    (∀ index < net.getFrameHdrLen left, left index = right index) →
      net.getFrameHdrLen right = net.getFrameHdrLen left ∧ net.getDst right = net.getDst left ∧
        net.getSrc right = net.getSrc left ∧ net.getSeq right = net.getSeq left

/-- A header that is not empty, and a frame that starts with it is reported to have a header of its
length. -/
def Reported (net : Ieee802154) (header : List UInt8) : Prop :=
  header.length ≠ 0 ∧ ∀ frame : Memory, frame.slice 0 header.length = header →
    net.getFrameHdrLen frame = header.length

/-- Two or eight bytes, the lengths of short and long addresses. -/
def EncodableAddr (addr : List UInt8) : Prop :=
  addr.length = 2 ∨ addr.length = 8

/-- The frame control flags that the program passes on for those of a device. -/
def frameFlags (net : Ieee802154) (flags : UInt16) : UInt8 :=
  (flags &&& net.sendMask).toUInt8 ||| fcfTypeData

/-- Between addresses of two or eight bytes a header is built and reported. -/
def BuildsHeaders (net : Ieee802154) : Prop :=
  ∀ (src dst : List UInt8) (srcPan dstPan flags : UInt16) (seq : UInt8),
    EncodableAddr src → EncodableAddr dst →
      Reported net (net.setFrameHdr src dst srcPan dstPan (frameFlags net flags) seq)

/-- A header that was built carries what it was built for. -/
def EncodesHeaders (net : Ieee802154) : Prop :=
  ∀ (src dst : List UInt8) (srcPan dstPan flags : UInt16) (seq : UInt8), EncodableAddr src →
    let header := net.setFrameHdr src dst srcPan dstPan (frameFlags net flags) seq
    header ≠ [] → ∀ frame : Memory, frame.slice 0 header.length = header →
      (net.getDst frame).1 = dst ∧ (dst ≠ [] → (net.getDst frame).2 = dstPan) ∧
        net.getSrc frame = (src, srcPan) ∧ net.getSeq frame = seq

/-- No header is built for a destination of other than zero, two or eight bytes. -/
def RejectsLengths (net : Ieee802154) : Prop :=
  ∀ (src dst : List UInt8) (srcPan dstPan flags : UInt16) (seq : UInt8),
    dst.length ≠ 0 → ¬ EncodableAddr dst →
      net.setFrameHdr src dst srcPan dstPan (frameFlags net flags) seq = []

/-- The address that a device gives as the source of its frames. -/
def ownAddr (net : Ieee802154) (dev : Netdev) : List UInt8 :=
  if dev.flags &&& net.srcModeLong ≠ 0 then dev.longAddr.toList else dev.shortAddr.toList

theorem encodableAddr_ownAddr (net : Ieee802154) (dev : Netdev) :
    EncodableAddr (ownAddr net dev) := by
  rw [ownAddr]
  split
  · exact .inr dev.longAddr.toList_length
  · exact .inl dev.shortAddr.toList_length

theorem EncodableAddr.ne_nil {addr : List UInt8} (encodable : EncodableAddr addr) : addr ≠ [] := by
  rintro rfl
  rcases encodable with two | eight
  · cases two
  · cases eight

theorem buildHeader_eq (net : Ieee802154) (dev : Netdev) (dstPan : UInt16) (dst : List UInt8) :
    buildHeader net dev dstPan dst =
      net.setFrameHdr (ownAddr net dev) dst (srcPan dev) (effectivePan dev dstPan)
        (frameFlags net dev.flags) dev.seq := rfl

section Built

variable {net : Ieee802154}

theorem BuildsHeaders.reported (builds : BuildsHeaders net) (dev : Netdev) (dstPan : UInt16)
    {dst : List UInt8} (encodable : EncodableAddr dst) :
    Reported net (buildHeader net dev dstPan dst) := by
  rw [buildHeader_eq]
  exact builds _ _ _ _ _ _ (encodableAddr_ownAddr net dev) encodable

theorem BuildsHeaders.ne_nil (builds : BuildsHeaders net) (dev : Netdev) (dstPan : UInt16)
    {dst : List UInt8} (encodable : EncodableAddr dst) : buildHeader net dev dstPan dst ≠ [] :=
  List.length_eq_zero_iff.not.mp (builds.reported dev dstPan encodable).1

/-- What is found in a frame that starts with the header of a device. -/
theorem EncodesHeaders.fields (encodes : EncodesHeaders net) {dev : Netdev} {dstPan : UInt16}
    {dst : List UInt8} (built : buildHeader net dev dstPan dst ≠ []) {frame : Memory}
    (whole : frame.slice 0 (buildHeader net dev dstPan dst).length =
      buildHeader net dev dstPan dst) :
    (net.getDst frame).1 = dst ∧ (dst ≠ [] → (net.getDst frame).2 = effectivePan dev dstPan) ∧
      net.getSrc frame = (ownAddr net dev, srcPan dev) ∧ net.getSeq frame = dev.seq := by
  rw [buildHeader_eq] at built whole
  exact encodes _ _ _ _ _ _ (encodableAddr_ownAddr net dev) built frame whole

theorem RejectsLengths.buildHeader_eq_nil (rejects : RejectsLengths net) (dev : Netdev)
    (dstPan : UInt16) {dst : List UInt8} (nonempty : dst ≠ []) (other : ¬ EncodableAddr dst) :
    buildHeader net dev dstPan dst = [] := by
  rw [buildHeader_eq]
  exact rejects _ _ _ _ _ _ (List.length_eq_zero_iff.not.mpr nonempty) other

end Built

namespace DataFrame

def addrMode : Nat → Option UInt8
  | 2 => some 2
  | 8 => some 3
  | _ => none

def addrLen (mode : UInt8) : Option Nat :=
  if mode = 2 then some 2 else if mode = 3 then some 8 else none

/-- Lengths of the destination and source addresses, and whether the source PAN is left out. -/
def layout (frame : Memory) : Option (Nat × Nat × Bool) :=
  match addrLen (frame 1 >>> 2 &&& 3), addrLen (frame 1 >>> 6) with
  | some dstLen, some srcLen => some (dstLen, srcLen, frame 0 &&& 0x40 ≠ 0)
  | _, _ => none

def panAt (frame : Memory) (index : Nat) : UInt16 :=
  (frame index).toUInt16 ||| (frame (index + 1)).toUInt16 <<< 8

/-- The address stored, last byte first, at an index. -/
def addrAt (frame : Memory) (index length : Nat) : List UInt8 :=
  (frame.slice index length).reverse

def panWidth (compressed : Bool) : Nat :=
  if compressed then 0 else 2

end DataFrame

open DataFrame in
/-- The header functions on data frames. -/
def dataFrameNet : Ieee802154 where
  getFrameHdrLen frame :=
    match layout frame with
    | some (dstLen, srcLen, compressed) => 5 + dstLen + panWidth compressed + srcLen
    | none => 0
  getDst frame :=
    match layout frame with
    | some (dstLen, _, _) => (addrAt frame 5 dstLen, panAt frame 3)
    | none => ([], 0)
  getSrc frame :=
    match layout frame with
    | some (dstLen, srcLen, compressed) =>
        (addrAt frame (5 + dstLen + panWidth compressed) srcLen,
          panAt frame (if compressed then 3 else 5 + dstLen))
    | none => ([], 0)
  getSeq frame := frame 2
  setFrameHdr src dst srcPan dstPan flags seq :=
    match addrMode dst.length, addrMode src.length with
    | some dstMode, some srcMode =>
        let modes := dstMode <<< 2 ||| srcMode <<< 6
        if srcPan = dstPan then
          (flags ||| 0x40) :: modes :: seq :: (lePair dstPan ++ dst.reverse ++ src.reverse)
        else
          flags :: modes :: seq :: (lePair dstPan ++ dst.reverse ++ lePair srcPan ++ src.reverse)
    | _, _ => []
  sendMask := 0x0028
  srcModeLong := 0x0004

theorem getFrameHdrLen_dataFrameNet {frame : Memory} (control : frame 0 = 0x41)
    (modes : frame 1 = 0x88) : dataFrameNet.getFrameHdrLen frame = 9 := by
  simp only [dataFrameNet, DataFrame.layout, control, modes]
  decide

/-- The fields of a frame whose layout is known. -/
theorem fields_of_layout {frame : Memory} {dstLen srcLen : Nat} {compressed : Bool}
    (found : DataFrame.layout frame = some (dstLen, srcLen, compressed)) :
    dataFrameNet.getFrameHdrLen frame =
        5 + dstLen + DataFrame.panWidth compressed + srcLen ∧
      dataFrameNet.getDst frame = (DataFrame.addrAt frame 5 dstLen, DataFrame.panAt frame 3) ∧
      dataFrameNet.getSrc frame =
        (DataFrame.addrAt frame (5 + dstLen + DataFrame.panWidth compressed) srcLen,
          DataFrame.panAt frame (if compressed then 3 else 5 + dstLen)) := by
  simp only [dataFrameNet, found, and_self]

/-- The flags that the program passes on never contain the compression bit. -/
theorem frameFlags_and (flags : UInt16) : frameFlags dataFrameNet flags &&& 0x40 = 0 := by
  have every : ∀ v : Fin 256, (UInt8.ofFin v &&& 0x28 ||| 0x01) &&& 0x40 = 0 := by decide +kernel
  have mask : (flags &&& dataFrameNet.sendMask).toUInt8 = flags.toUInt8 &&& 0x28 := by
    rw [UInt16.toUInt8_and]
    rfl
  rw [frameFlags, mask]
  exact every flags.toUInt8.toFin

theorem or_compression_and (flags : UInt8) : (flags ||| 0x40) &&& 0x40 ≠ 0 := by
  have every : ∀ v : Fin 256, (UInt8.ofFin v ||| 0x40) &&& 0x40 ≠ 0 := by decide +kernel
  exact every flags.toFin

/-- The layout of a frame is given by its first two bytes. -/
theorem layout_of_modes {frame : Memory} {control : UInt8} {dstLen srcLen : Nat}
    {dstMode srcMode : UInt8} {compressed : Bool} (dst : DataFrame.addrMode dstLen = some dstMode)
    (src : DataFrame.addrMode srcLen = some srcMode) (first : frame 0 = control)
    (second : frame 1 = dstMode <<< 2 ||| srcMode <<< 6)
    (bit : decide (control &&& 0x40 ≠ 0) = compressed) :
    DataFrame.layout frame = some (dstLen, srcLen, compressed) := by
  have modes (length : Nat) (mode : UInt8) (known : DataFrame.addrMode length = some mode) :
      length = 2 ∧ mode = 2 ∨ length = 8 ∧ mode = 3 := by
    unfold DataFrame.addrMode at known
    split at known
    · exact .inl ⟨rfl, (Option.some.inj known).symm⟩
    · exact .inr ⟨rfl, (Option.some.inj known).symm⟩
    · cases known
  rw [DataFrame.layout, first, second, bit]
  rcases modes dstLen dstMode dst with ⟨rfl, rfl⟩ | ⟨rfl, rfl⟩ <;>
    rcases modes srcLen srcMode src with ⟨rfl, rfl⟩ | ⟨rfl, rfl⟩ <;> rfl

theorem exists_addrMode {addr : List UInt8} (encodable : EncodableAddr addr) :
    ∃ mode, DataFrame.addrMode addr.length = some mode := by
  rcases encodable with two | eight
  · exact ⟨2, by rw [two]; rfl⟩
  · exact ⟨3, by rw [eight]; rfl⟩

theorem panAt_of_slice {frame : Memory} {index : Nat} {pan : UInt16}
    (stored : frame.slice index 2 = lePair pan) : DataFrame.panAt frame index = pan := by
  have bytes : [frame index, frame (index + 1)] =
      [UInt8.ofNat pan.toNat, UInt8.ofNat (pan.toNat / 256)] := stored
  have first := (List.cons.inj bytes).1
  have second := List.singleton_inj.mp (List.cons.inj bytes).2
  have := pan.toNat_lt
  apply UInt16.toNat_inj.mp
  rw [DataFrame.panAt, toNat_pair, first, second, UInt8.toNat_ofNat', UInt8.toNat_ofNat']
  omega

/-- How a header is put together: control byte, address modes, sequence number, destination PAN and
address, source PAN unless it is left out, and source address. -/
structure DataHeader (src dst : List UInt8) (srcPan dstPan : UInt16) (seq : UInt8)
    (header : List UInt8) where
  control : UInt8
  modes : UInt8
  compressed : Bool
  same_pan : compressed = true → srcPan = dstPan
  header_eq : header =
    [control, modes, seq] ++ (lePair dstPan ++ (dst.reverse ++
      ((if compressed then [] else lePair srcPan) ++ src.reverse)))
  layout_eq : ∀ frame : Memory, frame 0 = control → frame 1 = modes →
    DataFrame.layout frame = some (dst.length, src.length, compressed)

/-- A header that was built is put together in this way. -/
theorem exists_dataHeader {src dst : List UInt8} {srcPan dstPan flags : UInt16} {seq : UInt8}
    (encodable : EncodableAddr src)
    (built :
      dataFrameNet.setFrameHdr src dst srcPan dstPan (frameFlags dataFrameNet flags) seq ≠ []) :
    Nonempty (DataHeader src dst srcPan dstPan seq
      (dataFrameNet.setFrameHdr src dst srcPan dstPan (frameFlags dataFrameNet flags) seq)) := by
  have uncompressed := frameFlags_and flags
  generalize frameFlags dataFrameNet flags = control at built uncompressed ⊢
  obtain ⟨srcMode, src_mode⟩ := exists_addrMode encodable
  cases dst_mode : DataFrame.addrMode dst.length with
  | none =>
      simp only [dataFrameNet, dst_mode] at built
      exact absurd rfl built
  | some dstMode =>
      have modes (frame : Memory) (first : UInt8) (compressed : Bool)
          (bit : decide (first &&& 0x40 ≠ 0) = compressed) (first_eq : frame 0 = first)
          (second : frame 1 = dstMode <<< 2 ||| srcMode <<< 6) :
          DataFrame.layout frame = some (dst.length, src.length, compressed) :=
        layout_of_modes dst_mode src_mode first_eq second bit
      by_cases same : srcPan = dstPan
      · refine ⟨⟨control ||| 0x40, dstMode <<< 2 ||| srcMode <<< 6, true, fun _ => same, ?_,
          fun frame => modes frame _ true (decide_eq_true (or_compression_and control))⟩⟩
        simp [dataFrameNet, dst_mode, src_mode, same]
      · refine ⟨⟨control, dstMode <<< 2 ||| srcMode <<< 6, false, by simp, ?_,
          fun frame => modes frame _ false (decide_eq_false (not_not.mpr uncompressed))⟩⟩
        simp [dataFrameNet, dst_mode, src_mode, same]

namespace DataHeader

variable {src dst header : List UInt8} {srcPan dstPan : UInt16} {seq : UInt8} {frame : Memory}

theorem length_eq (shape : DataHeader src dst srcPan dstPan seq header) :
    header.length = 5 + dst.length + DataFrame.panWidth shape.compressed + src.length := by
  have pan_length (pan : UInt16) : (lePair pan).length = 2 := Hex.length_bytesLE 2 _
  rw [congrArg List.length shape.header_eq]
  cases shape.compressed <;> simp [pan_length, DataFrame.panWidth] <;> omega

theorem layout_of_prefix (shape : DataHeader src dst srcPan dstPan seq header)
    (whole : frame.slice 0 header.length = header) :
    DataFrame.layout frame = some (dst.length, src.length, shape.compressed) := by
  have byte_eq (index : Nat) : (frame.slice 0 header.length)[index]? = header[index]? := by
    rw [whole]
  apply shape.layout_eq
  · simpa [Memory.slice, shape.header_eq] using byte_eq 0
  · simpa [Memory.slice, shape.header_eq] using byte_eq 1

/-- Where the addresses and PANs of the header lie in a frame that starts with it. -/
theorem parts_of_prefix (shape : DataHeader src dst srcPan dstPan seq header)
    (whole : frame.slice 0 header.length = header) :
    DataFrame.addrAt frame 5 dst.length = dst ∧
      DataFrame.addrAt frame (5 + dst.length + DataFrame.panWidth shape.compressed) src.length =
        src ∧
      DataFrame.panAt frame 3 = dstPan ∧
      DataFrame.panAt frame (if shape.compressed then 3 else 5 + dst.length) = srcPan := by
  have pan_length (pan : UInt16) : (lePair pan).length = 2 := Hex.length_bytesLE 2 _
  let start := [shape.control, shape.modes, seq] ++ lePair dstPan
  let middle := if shape.compressed then [] else lePair srcPan
  have start_length : start.length = 5 := by simp [start, pan_length]
  have middle_length : middle.length = DataFrame.panWidth shape.compressed := by
    dsimp only [middle]
    split <;> simp [DataFrame.panWidth, *]
  have layout : header = start ++ (dst.reverse ++ (middle ++ (src.reverse ++ []))) := by
    rw [List.append_nil]
    conv_lhs => rw [shape.header_eq]
    simp only [start, middle, List.append_assoc]
  have part (front between back : List UInt8) (split : header = front ++ (between ++ back)) :
      frame.slice front.length between.length = between := by
    rw [split] at whole
    exact Memory.slice_middle front between back whole
  have dst_found := part start dst.reverse _ layout
  have src_found := part (start ++ (dst.reverse ++ middle)) src.reverse []
    (by simpa only [List.append_assoc] using layout)
  have dstPan_found := part [shape.control, shape.modes, seq] (lePair dstPan) _ shape.header_eq
  have srcPan_found := part (start ++ dst.reverse) middle _
    (by simpa only [List.append_assoc] using layout)
  rw [List.length_reverse, start_length] at dst_found
  have src_start : (start ++ (dst.reverse ++ middle)).length =
      5 + dst.length + DataFrame.panWidth shape.compressed := by
    rw [List.length_append, start_length, List.length_append, List.length_reverse, middle_length,
      ← Nat.add_assoc]
  rw [src_start, List.length_reverse] at src_found
  have dst_pan : DataFrame.panAt frame 3 = dstPan := by
    rw [pan_length] at dstPan_found
    exact panAt_of_slice dstPan_found
  refine ⟨?_, ?_, dst_pan, ?_⟩
  · rw [DataFrame.addrAt, dst_found, List.reverse_reverse]
  · rw [DataFrame.addrAt, src_found, List.reverse_reverse]
  · cases compressed : shape.compressed with
    | true => rw [if_pos rfl, dst_pan, shape.same_pan compressed]
    | false =>
        simp only [middle, compressed, Bool.false_eq_true, if_false, List.length_append,
          List.length_reverse, start_length, pan_length] at srcPan_found ⊢
        exact panAt_of_slice srcPan_found

/-- The addresses, PANs and sequence number found in a frame that starts with the header. -/
theorem fields_of_prefix (shape : DataHeader src dst srcPan dstPan seq header)
    (whole : frame.slice 0 header.length = header) :
    dataFrameNet.getFrameHdrLen frame = header.length ∧
      dataFrameNet.getDst frame = (dst, dstPan) ∧ dataFrameNet.getSrc frame = (src, srcPan) ∧
      dataFrameNet.getSeq frame = seq := by
  have seq_eq : frame 2 = seq := by
    have byte_eq : (frame.slice 0 header.length)[2]? = header[2]? := by rw [whole]
    simpa [Memory.slice, shape.header_eq] using byte_eq
  obtain ⟨len_eq, dst_eq, src_eq⟩ := fields_of_layout (shape.layout_of_prefix whole)
  obtain ⟨dst_addr, src_addr, dst_pan, src_pan⟩ := shape.parts_of_prefix whole
  refine ⟨len_eq.trans shape.length_eq.symm, ?_, ?_, seq_eq⟩
  · rw [dst_eq, dst_addr, dst_pan]
  · rw [src_eq, src_addr, src_pan]

end DataHeader

theorem setFrameHdr_ne_nil {src dst : List UInt8} (src_encodable : EncodableAddr src)
    (dst_encodable : EncodableAddr dst) (srcPan dstPan : UInt16) (flags seq : UInt8) :
    dataFrameNet.setFrameHdr src dst srcPan dstPan flags seq ≠ [] := by
  obtain ⟨srcMode, src_mode⟩ := exists_addrMode src_encodable
  obtain ⟨dstMode, dst_mode⟩ := exists_addrMode dst_encodable
  simp only [dataFrameNet, dst_mode, src_mode]
  split
  · exact List.cons_ne_nil _ _
  · exact List.cons_ne_nil _ _

theorem buildsHeaders_dataFrameNet : BuildsHeaders dataFrameNet := by
  intro src dst srcPan dstPan flags seq src_encodable dst_encodable
  have built := setFrameHdr_ne_nil src_encodable dst_encodable srcPan dstPan
    (frameFlags dataFrameNet flags) seq
  obtain ⟨shape⟩ := exists_dataHeader src_encodable built
  exact ⟨List.length_eq_zero_iff.not.mpr built, fun frame whole =>
    (shape.fields_of_prefix whole).1⟩

theorem encodesHeaders_dataFrameNet : EncodesHeaders dataFrameNet := by
  intro src dst srcPan dstPan flags seq encodable header built frame whole
  obtain ⟨shape⟩ := exists_dataHeader encodable built
  obtain ⟨-, dst_eq, src_eq, seq_eq⟩ := shape.fields_of_prefix whole
  rw [dst_eq]
  exact ⟨rfl, fun _ => rfl, src_eq, seq_eq⟩

theorem rejectsLengths_dataFrameNet : RejectsLengths dataFrameNet := by
  intro src dst srcPan dstPan flags seq _ other
  have dst_mode : DataFrame.addrMode dst.length = none := by
    unfold DataFrame.addrMode
    split
    · exact absurd (.inl ‹_›) other
    · exact absurd (.inr ‹_›) other
    · rfl
  simp only [dataFrameNet, dst_mode]

theorem headerLocal_dataFrameNet : HeaderLocal dataFrameNet := by
  intro left right accepted agree
  cases found : DataFrame.layout left with
  | none => simp [dataFrameNet, found] at accepted
  | some fields =>
      obtain ⟨dstLen, srcLen, compressed⟩ := fields
      have length_eq : dataFrameNet.getFrameHdrLen left =
          5 + dstLen + DataFrame.panWidth compressed + srcLen := by
        simp [dataFrameNet, found]
      rw [length_eq] at agree
      have same (index : Nat) (inside : index < 5 + dstLen + DataFrame.panWidth compressed) :
          right index = left index := (agree index (by omega)).symm
      have found_right : DataFrame.layout right = some (dstLen, srcLen, compressed) := by
        rw [← found, DataFrame.layout, DataFrame.layout, same 0 (by omega), same 1 (by omega)]
      have dst : DataFrame.addrAt right 5 dstLen = DataFrame.addrAt left 5 dstLen := by
        rw [DataFrame.addrAt, DataFrame.addrAt,
          Memory.slice_congr fun index _ below => same index (by omega)]
      have src : DataFrame.addrAt right (5 + dstLen + DataFrame.panWidth compressed) srcLen =
          DataFrame.addrAt left (5 + dstLen + DataFrame.panWidth compressed) srcLen := by
        rw [DataFrame.addrAt, DataFrame.addrAt,
          Memory.slice_congr fun index _ below => (agree index (by omega)).symm]
      have dstPan : DataFrame.panAt right 3 = DataFrame.panAt left 3 := by
        rw [DataFrame.panAt, DataFrame.panAt, same 3 (by omega), same 4 (by omega)]
      have srcPan : DataFrame.panAt right (if compressed then 3 else 5 + dstLen) =
          DataFrame.panAt left (if compressed then 3 else 5 + dstLen) := by
        cases compressed with
        | true => exact dstPan
        | false =>
            simp only [DataFrame.panWidth, Bool.false_eq_true, if_false] at same ⊢
            rw [DataFrame.panAt, DataFrame.panAt, same _ (by omega), same _ (by omega)]
      refine ⟨?_, ?_, ?_, same 2 (by omega)⟩
      · simp only [dataFrameNet, found, found_right]
      · simp only [dataFrameNet, found, found_right, dst, dstPan]
      · simp only [dataFrameNet, found, found_right, src, srcPan]

end PpmlIot.Signecc

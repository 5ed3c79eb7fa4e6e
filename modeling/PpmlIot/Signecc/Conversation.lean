import PpmlIot.Signecc.AddressFormat
import PpmlIot.Signecc.CommandRoundTrip
import PpmlIot.Signecc.Console

/-!
# Conversations

Two users talk to each other through the consoles of their nodes.  A text typed on one node is read
on the other from the lines behind `Text:`, and an answer is typed with the PAN and the address that
the other node printed for the sender.
-/

namespace PpmlIot.Signecc

open Library Library.Console

/-- The text that is read from a console. -/
def readText (console : Text) : Text :=
  readWrapped "Text: " "     " console

/-- Every byte behind the header is read as one character. -/
theorem readText_recv (crypto : Crypto) (net : Ieee802154) (node : NodeState) (call : RecvCall)
    (dump : HexDump) (header : net.getFrameHdrLen (call.reception.store node.buffer) ≠ 0) :
    readText (consoleText dump (recv crypto net node call).actions) =
      let buffer := call.reception.store node.buffer
      let mhrLen := net.getFrameHdrLen buffer
      (buffer.slice mhrLen (call.reception.dataLen - mhrLen)).map shown := by
  let buffer := call.reception.store node.buffer
  let mhrLen := net.getFrameHdrLen buffer
  let items := textItems buffer mhrLen call.reception.dataLen
  obtain ⟨front, back, header_eq, front_known, back_known⟩ := headerLines_eq net buffer
  obtain ⟨before, behind, lines, before_known, behind_known⟩ :=
    recvLines_eq crypto net node call dump header
  have single := single_recvLines crypto net node call dump
  have other {labels : List String} {lines : List Line}
      (apart : ∀ other ∈ labels, Apart "Text: " other)
      (known : Known labels lines) : ∀ line ∈ lines, Other "Text: " line :=
    .of_labels (by decide) apart known
  have verdict_apart : Apart "Text: " "Signature verification " := by decide
  have source_apart : Apart "Text: " "Src. PAN: 0x" := by decide
  have headed : ∀ line ∈ headerLines net buffer, Other "Text: " line := by
    rw [header_eq, List.forall_mem_append, List.forall_mem_cons]
    exact ⟨other (by decide) front_known, .of_apart source_apart, other (by decide) back_known⟩
  have split : recvLines crypto net node call dump =
      (⟨"", []⟩ :: headerLines net buffer ++ dump.consoleLines ++ before ++
        ((recv crypto net node call).actions.filterMap verdict).map verdictLine ++ behind) ++
        (⟨"Text: ", (wrap items).1⟩ :: (wrap items).2.map (Line.mk "     ")) ++
        [rssiLine call.rxInfo, ⟨"", []⟩] := by
    rw [lines, textLines]
    simp [items, buffer, mhrLen]
  have characters : items.map Prod.fst =
      (buffer.slice mhrLen (call.reception.dataLen - mhrLen)).map shown := by
    simp only [items, textItems, Memory.slice, List.map_map, List.range'_eq_map_range]
    rfl
  rw [consoleText_recv, readText]
  rw [split] at single ⊢
  rw [readWrapped_written single, wrap_flatten, characters]
  · simp only [List.cons_append, List.forall_mem_cons, List.forall_mem_append, List.forall_mem_map]
    exact ⟨by decide, ⟨⟨⟨headed, other_consoleLines rfl rfl dump⟩, other (by decide) before_known⟩,
      fun _ _ => .of_apart verdict_apart⟩, other (by decide) behind_known⟩
  · intro line first
    obtain rfl : rssiLine call.rxInfo = line := by simpa using first
    exact .of_apart (by decide : Apart "     " "RSSI: ")

/-- A payload behind a header that is reported with its length is read as a whole. -/
theorem readText_frame (crypto : Crypto) {net : Ieee802154} (node : NodeState) {call : RecvCall}
    (dump : HexDump) {header payload : List UInt8} (reported : Reported net header)
    (fits : (header ++ payload).length ≤ maxPktLength)
    (received : call.reception = .frame (header ++ payload) fits) :
    readText (consoleText dump (recv crypto net node call).actions) = payload.map shown := by
  have inside : 0 + header.length ≤ (header ++ payload).length := by simp
  have front : (call.reception.store node.buffer).slice 0 header.length = header := by
    rw [received, Reception.store]
    simpa using Memory.slice_write node.buffer 0 inside
  have length := reported.2 _ front
  have behind : (call.reception.store node.buffer).slice header.length payload.length =
      payload := by
    have room : header.length + payload.length ≤ (header ++ payload).length := by simp
    rw [received, Reception.store]
    simpa using Memory.slice_write node.buffer 0 room
  have count : call.reception.dataLen - header.length = payload.length := by
    rw [received, Reception.dataLen, List.length_append, Nat.add_sub_cancel_left]
  rw [readText_recv crypto net node call dump (length ▸ reported.1)]
  dsimp only
  rw [length, count, behind]

theorem map_shown_of_printable {text : List UInt8}
    (printable : ∀ c ∈ text, 0x1F < c ∧ c < 0x80) : text.map shown = chars text := by
  apply List.map_congr_left
  intro c member
  rw [shown, if_pos (printable c member)]

/-- What is typed with `txtreqsign` or `txtsnd` for an address of two or eight bytes, with a text
that fits a frame, is read on the console of every node that receives the frame: a question mark for
the tag, then the text and what else lay in the buffer up to a NUL, with a question mark for each
byte outside 0x20 to 0x7F.  A text of bytes from 0x20 to 0x7F on a terminated buffer is read as it
was typed. -/
theorem text_shown (crypto : Crypto) (net : Ieee802154) (builds : BuildsHeaders net)
    (request : TextRequest net) {tag : UInt8} (command : tag = 0xFF ∨ tag = 0xEE) :
    ∃ device header payload,
      (textCommand tag net request.radios request.call request.argv).actions.filterMap
          transmission = [(device, header, payload)] ∧
        ∀ (node : NodeState) (call : RecvCall) (dump : HexDump)
          (fits : (header ++ payload).length ≤ maxPktLength),
          call.reception = .frame (header ++ payload) fits →
            let console := consoleText dump (recv crypto net node call).actions
            readText console =
                '?' :: (request.text ++ Memory.cString request.leftover).map shown ∧
              ((∀ c ∈ request.text, 0x1F < c ∧ c < 0x80) →
                request.call.dataBuffer.bytes.toList[1 + request.text.length]? = some 0 →
                readText console = '?' :: request.arguments.text.chars) := by
  have nonzero : tag ≠ 0 := by
    rcases command with rfl | rfl <;> decide
  have tag_shown : shown tag = '?' := by
    rcases command with rfl | rfl <;> rfl
  refine ⟨_, _, _, request.transmissions nonzero, ?_⟩
  intro node call dump fits received
  have read := readText_frame crypto node dump (request.header_reported builds) fits received
  rw [List.cons_append, List.map_cons, tag_shown] at read
  refine ⟨read, ?_⟩
  intro printable terminated
  rw [read, request.cString_leftover_eq_nil_iff.mpr terminated, List.append_nil,
    map_shown_of_printable printable]
  rfl

/-- The text `hello`, typed on a zeroed stack, is read on every node that receives it. -/
theorem hello_shown :
    ∃ device header payload,
      (textCommand 0xEE dataFrameNet (helloRequest 0).radios (helloRequest 0).call
          (helloRequest 0).argv).actions.filterMap transmission = [(device, header, payload)] ∧
        ∀ (node : NodeState) (call : RecvCall) (dump : HexDump)
          (fits : (header ++ payload).length ≤ maxPktLength),
          call.reception = .frame (header ++ payload) fits →
            readText (consoleText dump (recv sampleCrypto dataFrameNet node call).actions) =
              "?hello".toList := by
  obtain ⟨device, header, payload, sent, shows⟩ :=
    text_shown sampleCrypto dataFrameNet buildsHeaders_dataFrameNet (helloRequest 0) (.inr rfl)
  have text : (helloRequest 0).text = helloBytes := rfl
  have printable : ∀ c ∈ (helloRequest 0).text, 0x1F < c ∧ c < 0x80 := by
    rw [text]
    simp [helloBytes]
  refine ⟨device, header, payload, sent, ?_⟩
  intro node call dump fits received
  exact (shows node call dump fits received).2 printable rfl

/-- The text of an address is the text that is read as it. -/
theorem addressOf_printed {text : CString} {bytes : List UInt8} (nonempty : bytes ≠ [])
    (printed : text.chars = printAddr bytes) : addressOf text.bytes = some bytes := by
  obtain ⟨grouping, singly, text_eq, bytes_eq⟩ := exists_printed nonempty
  rw [chars_injective (printed.trans text_eq.symm), ← bytes_eq]
  exact (addressOf_text grouping).1 (tolerated_of_singlySeparated singly)

/-- A number printed with `%04x` is read as its two bytes, the upper one first. -/
theorem addressOf_pan {text : CString} {value : Nat}
    (printed : text.chars = Hex.fixed Nat.digitChar 4 value) :
    addressOf text.bytes = some (Hex.bytesBE 2 value) := by
  have read : Hex.unhexlify text.chars = some (Hex.bytesBE 2 value) := by
    rw [printed]
    exact Hex.unhexlify_fixed_of_reads digitValue_digitChar 2 value
  have length : text.bytes.length = 4 := by
    have count := congrArg List.length printed
    rwa [Hex.length_fixed, CString.chars, List.length_map] at count
  let group : Group isHexDigit :=
    { gap := []
      run := text.bytes
      foreign := by simp
      digits := fun c member =>
        (Hex.digits_of_unhexlify read).2 _ (List.mem_map_of_mem member)
      nonempty := by
        intro empty
        rw [empty] at length
        cases length }
  have run_bytes : runBytes text.bytes = Hex.bytesBE 2 value := by
    rw [runBytes, length, chars, ← CString.chars, show 4 % 2 = 0 by rfl, List.replicate_zero,
      List.nil_append, read, Option.getD_some]
  have tolerated : Tolerated (.single group) :=
    tolerated_of_singlySeparated ⟨rfl, by simp [Grouping.single]⟩
  have found := (addressOf_text (.single group)).1 tolerated
  simpa [group, addressBytes, Grouping.text_single, run_bytes] using found

/-- A command line with the PAN and the address that were printed names that PAN and address. -/
theorem parseArguments_printed (stack : Memory) {name iface pan addr text : CString}
    {srcPan : UInt16} {src : List UInt8} (nonempty : src ≠ []) (short : src.length ≤ 8)
    (pan_printed : pan.chars = Hex.fixed Nat.digitChar 4 srcPan.toNat)
    (addr_printed : addr.chars = printAddr src) :
    parseArguments stack [name, iface, pan, addr, text] =
      some { iface := atoi iface, pan := srcPan, addr := src, text } := by
  obtain ⟨pan_result, pan_out⟩ :=
    parseAddr_of_address (fun _ => 0) (addressOf_pan pan_printed) (show _ ≤ 2 by simp)
  obtain ⟨addr_result, addr_out⟩ :=
    parseAddr_of_address stack (addressOf_printed nonempty addr_printed) short
  have positive : 0 < src.length := List.length_pos_iff.mpr nonempty
  have pair : Hex.bytesBE 2 srcPan.toNat =
      [UInt8.ofNat (srcPan.toNat / 256), UInt8.ofNat srcPan.toNat] := rfl
  rw [pair] at pan_result pan_out
  have swapped : byteorderSwaps ((UInt8.ofNat (srcPan.toNat / 256)).toUInt16 |||
      (UInt8.ofNat srcPan.toNat).toUInt16 <<< 8) = srcPan := by
    apply UInt16.toNat_inj.mp
    have bound := srcPan.toNat_lt
    have upper : srcPan.toNat / 256 < 256 := by omega
    rw [toNat_byteorderSwaps, toNat_pair, UInt8.toNat_ofNat', UInt8.toNat_ofNat',
      Nat.mod_eq_of_lt upper, Nat.add_mul_mod_self_left, Nat.mod_eq_of_lt upper,
      Nat.add_mul_div_left _ _ (by decide), Nat.div_eq_of_lt upper, Nat.zero_add]
    exact Nat.div_add_mod srcPan.toNat 256
  have rest : parseRest stack srcPan iface addr text =
      some { iface := atoi iface, pan := srcPan, addr := src, text } := by
    have found : ¬ (src.length : Int) ≤ 0 := by omega
    simp only [parseRest, addr_result, addr_out, found, if_false, Int.toNat_natCast]
    rw [Memory.slice_write_self]
  have first : (Memory.write (fun _ => 0) 0
      [UInt8.ofNat (srcPan.toNat / 256), UInt8.ofNat srcPan.toNat]) 0 =
      UInt8.ofNat (srcPan.toNat / 256) := rfl
  have second : (Memory.write (fun _ => 0) 0
      [UInt8.ofNat (srcPan.toNat / 256), UInt8.ofNat srcPan.toNat]) 1 =
      UInt8.ofNat srcPan.toNat := rfl
  simp only [parseArguments, pan_result, pan_out, first, second, swapped, rest]
  rfl

/-- The line of the sender determines the PAN and the address that are typed from it. -/
theorem printed_of_sourceLine {pan addr : Text} {src : List UInt8} {srcPan : UInt16}
    (solid : ',' ∉ pan)
    (line : "Src. PAN: 0x".toList ++ (pan ++ ", Src. addr.: ".toList ++ addr) ++ ['\n'] =
      (sourceLine src srcPan).text ++ ['\n']) :
    pan = Hex.fixed Nat.digitChar 4 srcPan.toNat ∧ addr = printAddr src := by
  have bodies : pan ++ ',' :: (" Src. addr.: ".toList ++ addr) =
      Hex.fixed Nat.digitChar 4 srcPan.toNat ++
        ',' :: (" Src. addr.: ".toList ++ printAddr src) := by
    have body := List.append_cancel_left (List.append_cancel_right line)
    simpa [sourceLine] using body
  obtain ⟨pan_eq, rest⟩ := Text.eq_of_cut solid (not_mem_fixed rfl 4 srcPan.toNat) bodies
  exact ⟨pan_eq, List.append_cancel_left rest⟩

/-- A frame that a device sent behind a header, to an address of two or eight bytes and with
whatever payload, arrives at a node. -/
structure Arrival (net : Ieee802154) where
  sender : Netdev
  dstPan : UInt16
  dst : List UInt8
  payload : List UInt8
  valid_addr : EncodableAddr dst
  node : NodeState
  call : RecvCall
  fits : (buildHeader net sender dstPan dst ++ payload).length ≤ maxPktLength
  received : call.reception = .frame (buildHeader net sender dstPan dst ++ payload) fits

def Arrival.console {net : Ieee802154} (crypto : Crypto) (dump : HexDump) (arrival : Arrival net) :
    Text :=
  consoleText dump (recv crypto net arrival.node arrival.call).actions

/-- A `txtreqsign` or `txtsnd` command with a PAN and an address, on an existing interface. -/
structure TypedCommand where
  tag : UInt8
  command : tag = 0xFF ∨ tag = 0xEE
  radios : Radios
  call : CommandCall
  name : CString
  iface : CString
  pan : CString
  addr : CString
  text : CString
  valid_iface : unsigned (atoi iface) < radios.devs.length

namespace TypedCommand

def argv (typed : TypedCommand) : List CString :=
  [typed.name, typed.iface, typed.pan, typed.addr, typed.text]

def dev (typed : TypedCommand) : Netdev :=
  typed.radios.devs.get ⟨_, typed.valid_iface⟩

/-- The command hands one frame to its device, and the frame is addressed to this address in this
PAN; a PAN of zero stands for that of the device. -/
def Reaches (net : Ieee802154) (typed : TypedCommand) (addr : List UInt8) (pan : UInt16) : Prop :=
  ∃ header rest,
    (textCommand typed.tag net typed.radios typed.call typed.argv).actions.filterMap
        transmission = [(unsigned (atoi typed.iface), header, typed.tag :: rest)] ∧
      header ≠ [] ∧ ∀ frame : Memory, frame.slice 0 header.length = header →
        net.getDst frame = (addr, if pan = 0 then typed.dev.pan else pan)

/-- A command reaches the address and the PAN that are typed as they are printed. -/
theorem reaches_of_printed {net : Ieee802154} (builds : BuildsHeaders net)
    (encodes : EncodesHeaders net) (typed : TypedCommand) {addr : List UInt8} {pan : UInt16}
    (valid_addr : EncodableAddr addr)
    (pan_printed : typed.pan.chars = Hex.fixed Nat.digitChar 4 pan.toNat)
    (addr_printed : typed.addr.chars = printAddr addr) : typed.Reaches net addr pan := by
  have nonzero : typed.tag ≠ 0 := by
    rcases typed.command with tag | tag <;> rw [tag] <;> decide
  have nonempty := valid_addr.ne_nil
  have short : addr.length ≤ 8 := by
    rcases valid_addr with two | eight <;> omega
  have parsed : parseArguments typed.call.addr typed.argv =
      some { iface := atoi typed.iface, pan, addr, text := typed.text } :=
    parseArguments_printed typed.call.addr nonempty short pan_printed addr_printed
  have built := builds.ne_nil typed.dev pan valid_addr
  obtain ⟨rest, sent⟩ : ∃ rest,
      (textCommand typed.tag net typed.radios typed.call typed.argv).actions.filterMap
          transmission =
        [(unsigned (atoi typed.iface), buildHeader net typed.dev pan addr, typed.tag :: rest)] := by
    rw [textCommand, parsed]
    simp only [send]
    rw [sendFrame_filterMap blind_transmission net _ typed.valid_iface, cString_fillBuffer nonzero]
    exact ⟨_, rfl⟩
  refine ⟨buildHeader net typed.dev pan addr, rest, sent, built, ?_⟩
  intro frame whole
  obtain ⟨dst, dst_pan, -⟩ := encodes.fields built whole
  rw [Prod.ext_iff]
  refine ⟨dst, ?_⟩
  rw [dst_pan nonempty, effectivePan, srcPan_eq]

end TypedCommand

/-- Whoever receives a frame that `send` or `send2` put behind a header, to an address of two or
eight bytes, and answers it with a command, with the PAN and the address read from the line of the
sender, reaches the device that the frame came from; a PAN of zero stands for that of the answering
device. -/
theorem answer_reaches_sender (crypto : Crypto) (net : Ieee802154) (builds : BuildsHeaders net)
    (encodes : EncodesHeaders net) (dump : HexDump) (arrival : Arrival net) (answer : TypedCommand)
    (solid : ',' ∉ answer.pan.chars)
    (read : labelled "Src. PAN: 0x" (arrival.console crypto dump) =
      ["Src. PAN: 0x".toList ++ (answer.pan.chars ++ ", Src. addr.: ".toList ++
        answer.addr.chars) ++ ['\n']]) :
    answer.Reaches net (ownAddr net arrival.sender) arrival.sender.pan := by
  let header := buildHeader net arrival.sender arrival.dstPan arrival.dst
  let buffer := arrival.call.reception.store arrival.node.buffer
  have reported : Reported net header :=
    builds.reported arrival.sender arrival.dstPan arrival.valid_addr
  have front : buffer.slice 0 header.length = header := by
    have inside : 0 + header.length ≤ (header ++ arrival.payload).length := by simp
    simp only [buffer, arrival.received, Reception.store]
    simpa using Memory.slice_write arrival.node.buffer 0 inside
  have source : net.getSrc buffer = (ownAddr net arrival.sender, arrival.sender.pan) := by
    have built := builds.ne_nil arrival.sender arrival.dstPan arrival.valid_addr
    rw [(encodes.fields built front).2.2.1, srcPan_eq]
  have expected : net.getFrameHdrLen buffer ≠ 0 := by
    rw [reported.2 buffer front]
    exact reported.1
  have printed : labelled "Src. PAN: 0x" (arrival.console crypto dump) =
      if net.getFrameHdrLen buffer = 0 then []
      else [(sourceLine (net.getSrc buffer).1 (net.getSrc buffer).2).text ++ ['\n']] :=
    labelled_source crypto net arrival.node arrival.call dump
  rw [read, if_neg expected, source, List.singleton_inj] at printed
  obtain ⟨pan_printed, addr_printed⟩ := printed_of_sourceLine solid printed
  exact answer.reaches_of_printed builds encodes (encodableAddr_ownAddr net arrival.sender)
    pan_printed addr_printed

/-- A dump of one line. -/
def sampleDump : HexDump where
  lines := ["00000000  EE  68  69".toList]
  single := by decide
  offset := List.forall_mem_singleton.mpr ⟨'0', rfl, rfl⟩

/-- A text from the device with the address `07:08` in the PAN `0023`. -/
def sampleArrival : Arrival dataFrameNet where
  sender := replyDevice freshNode.radios
  dstPan := 0
  dst := [0x12, 0x34]
  payload := [0xEE, 0x68, 0x69]
  valid_addr := .inl rfl
  node := freshNode
  call :=
    { receivePayload [] (Nat.zero_le _) with
      reception := .frame
        (buildHeader dataFrameNet (replyDevice freshNode.radios) 0 [0x12, 0x34] ++
          [0xEE, 0x68, 0x69]) (by decide) }
  fits := by decide
  received := rfl

/-- The command line `txtsnd 0 0023 07:08 hello`. -/
def sampleAnswer : TypedCommand where
  tag := 0xEE
  command := .inr rfl
  radios := freshNode.radios
  call := (helloRequest 0).call
  name := ⟨[0x74, 0x78, 0x74, 0x73, 0x6e, 0x64], by decide⟩
  iface := helloArgv.getD 1 helloText
  pan := ⟨[0x30, 0x30, 0x32, 0x33], by decide⟩
  addr := ⟨[0x30, 0x37, 0x3a, 0x30, 0x38], by decide⟩
  text := helloText
  valid_iface := by decide

theorem sample_answer_reaches_sender : sampleAnswer.Reaches dataFrameNet [7, 8] 0x0023 :=
  answer_reaches_sender sampleCrypto dataFrameNet buildsHeaders_dataFrameNet
    encodesHeaders_dataFrameNet sampleDump sampleArrival sampleAnswer (by decide)
    ((labelled_source ..).trans (by decide +kernel))

end PpmlIot.Signecc

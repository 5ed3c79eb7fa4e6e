import PpmlIot.Library.Console
import PpmlIot.Signecc.Receive

/-!
# The console of a receiver

`recv` prints what it received: the header, a dump of the payload, the messages of the branch taken
and the payload as text.  Payload bytes are printed in hexadecimal digits, or as text between the
codes of blank and delete, so a frame cannot make a line of its own: what starts like a verdict or
like the line of the sender is one.
-/

namespace PpmlIot.Signecc

open Library Library.Console

/-- What `od_hex_dump` writes: lines that start with an offset in hexadecimal digits. -/
structure HexDump where
  lines : List Text
  single : ∀ line ∈ lines, '\n' ∉ line
  offset : ∀ line ∈ lines, ∃ c, line.head? = some c ∧ (Hex.digitValue c).isSome

def HexDump.consoleLines (dump : HexDump) : List Line :=
  dump.lines.map fun body => ⟨"", body⟩

/-- The text that an action writes, given what `od_hex_dump` writes. -/
def Action.text (dump : HexDump) : Action → Text
  | .print text => text
  | .read .dump _ _ => written dump.consoleLines
  | _ => []

def consoleText (dump : HexDump) (actions : List Action) : Text :=
  actions.flatMap (Action.text dump)

section Text

variable (dump : HexDump)

@[simp]
theorem consoleText_nil : consoleText dump [] = [] := rfl

@[simp]
theorem consoleText_cons (action : Action) (actions : List Action) :
    consoleText dump (action :: actions) = action.text dump ++ consoleText dump actions := by
  simp [consoleText]

@[simp]
theorem consoleText_append (front back : List Action) :
    consoleText dump (front ++ back) = consoleText dump front ++ consoleText dump back :=
  List.flatMap_append

@[simp]
theorem text_print (text : Text) : (Action.print text).text dump = text := rfl

@[simp]
theorem text_say (text : String) : (Action.say text).text dump = text.toList := rfl

@[simp]
theorem text_read_dump (start length : Nat) :
    (Action.read .dump start length).text dump = written dump.consoleLines := rfl

@[simp]
theorem text_printFlag (control mask : UInt8) (set unset : String) :
    (printFlag control mask set unset).text dump =
      (if control &&& mask ≠ 0 then set else unset).toList := rfl

theorem consoleText_printBytes (bytes : List UInt8) :
    consoleText dump (printBytes bytes) = Hex.spaced 2 (bytes.map UInt8.toNat) := by
  simp [consoleText, printBytes, Hex.spaced, List.flatMap_map]

end Text

/-- The frame type printed for a frame control byte, without its newline. -/
def frameType (control : UInt8) : String :=
  match (control &&& 0x07).toNat with
  | 0 => "BEACON"
  | 1 => "DATA"
  | 2 => "ACK"
  | 3 => "MACCMD"
  | _ => "UNKNOWN"

/-- The line that names the sender of a frame. -/
def sourceLine (src : List UInt8) (srcPan : UInt16) : Line :=
  ⟨"Src. PAN: 0x", Hex.fixed Nat.digitChar 4 srcPan.toNat ++ ", Src. addr.: ".toList ++
    printAddr src⟩

def headerLines (net : Ieee802154) (buffer : Memory) : List Line :=
  let (dst, dstPan) := net.getDst buffer
  let (src, srcPan) := net.getSrc buffer
  let control := buffer 0
  let flag (mask : UInt8) (set unset : String) : Text :=
    (if control &&& mask ≠ 0 then set else unset).toList
  [⟨frameType control, []⟩,
    ⟨"Dest. PAN: 0x", Hex.fixed Nat.digitChar 4 dstPan.toNat ++ ", Dest. addr.: ".toList ++
      printAddr dst⟩,
    sourceLine src srcPan,
    ⟨"Security: ", flag 0x08 "1, " "0, " ++ "Frame pend.: ".toList ++ flag 0x10 "1, " "0, " ++
      "ACK req.: ".toList ++ flag 0x20 "1, " "0, " ++ "PAN comp.: ".toList ++ flag 0x40 "1" "0"⟩,
    ⟨"Version: ", Text.decimal ((buffer 1 &&& 0x30) >>> 4).toNat ++ ", Seq.: ".toList ++
      Text.decimal (net.getSeq buffer).toNat⟩]

def sentLines (net : Ieee802154) (call : RecvCall) (dev : Netdev) (dstPan : UInt16)
    (dst data : List UInt8) : List Line :=
  if call.driverSend (buildHeader net dev dstPan dst) data < 0 then
    [⟨"txtsnd: Error on sending", []⟩]
  else
    [⟨"txtsnd: send ", Text.decimal data.length ++ " bytes to ".toList ++ printAddr dst ++
      " (PAN: ".toList ++ printAddr (lePair (effectivePan dev dstPan)) ++ ")".toList⟩]

def requestLines (net : Ieee802154) (call : RecvCall) (buffer : Memory) (radios : Radios)
    (mhrLen dataLen : Nat) : List Line :=
  let (src, srcPan) := net.getSrc buffer
  let msgSize := sizeSub (sizeSub dataLen mhrLen) 1 % 256
  [⟨"MSG 0xFF: ", Hex.spaced 2 ((buffer.slice (mhrLen + 1) msgSize).map UInt8.toNat)⟩,
      ⟨"HASH calc", []⟩, ⟨"DONE", []⟩, ⟨"Sign deterministic", []⟩] ++
    (if (call.uECCSign lPrivate1 lPublic1Front).isNone then
      [⟨"", []⟩, ⟨"Signature generated", []⟩]
    else []) ++
    [⟨"DONE", []⟩, ⟨"Make packet", []⟩,
      ⟨"Generated signature: ", Hex.spaced 2 ((replySignature call).toList.map UInt8.toNat)⟩,
      ⟨"Calculated hash: ", Hex.spaced 2 (lPublic1Front.toList.map UInt8.toNat)⟩,
      ⟨"DONE", []⟩, ⟨"Sending sign and hash", []⟩] ++
    sentLines net call (replyDevice radios) srcPan src
      (replyBytes (replySignature call) lPublic1Front) ++ [⟨"DONE", []⟩]

/-- The line of a verdict. -/
def verdictLine (verified : Bool) : Line :=
  ⟨"Signature verification ", (if verified then "OK" else "FAILED").toList⟩

def replyLines (crypto : Crypto) (buffer : Memory) (mhrLen : Nat) : List Line :=
  let lSig : Signature := readArray buffer (mhrLen + 1) 64
  let lHash : Digest := readArray buffer (mhrLen + 64 + 1) 32
  [⟨"saving signature and hash to array", []⟩,
    ⟨"Received signature: ", Hex.spaced 2 (lSig.toList.map UInt8.toNat)⟩,
    ⟨"Received hash: ", Hex.spaced 2 (lHash.toList.map UInt8.toNat)⟩, ⟨"DONE", []⟩,
    ⟨"MSG 0xFE: ", Hex.spaced 2 ((buffer.slice 0 (64 + 32 + 2)).map UInt8.toNat)⟩,
    ⟨"Verify", []⟩, ⟨"", []⟩, verdictLine (crypto.uECCVerify lPublic1 lHash lSig), ⟨"DONE", []⟩]

def payloadLines (crypto : Crypto) (net : Ieee802154) (call : RecvCall) (buffer : Memory)
    (radios : Radios) (mhrLen dataLen : Nat) : List Line :=
  if buffer mhrLen = 0xFF then
    requestLines net call buffer radios mhrLen dataLen
  else if buffer mhrLen = 0xFE then
    replyLines crypto buffer mhrLen
  else
    [⟨"", []⟩, ⟨"ERROR, msg not recognized", []⟩]

/-- The character printed for a payload byte. -/
def shown (byte : UInt8) : Char :=
  if byte > 0x1F ∧ byte < 0x80 then Char.ofNat byte.toNat else '?'

/-- The characters of the payload's text, with those behind which the line is broken. -/
def textItems (buffer : Memory) (mhrLen dataLen : Nat) : List (Char × Bool) :=
  (List.range' mhrLen (dataLen - mhrLen)).map fun i =>
    (shown (buffer i), decide ((i - mhrLen + 1) % 122 = 1 ∧ i - mhrLen ≠ 0))

def textLines (buffer : Memory) (mhrLen dataLen : Nat) : List Line :=
  let (first, others) := wrap (textItems buffer mhrLen dataLen)
  ⟨"Text: ", first⟩ :: others.map fun line => ⟨"     ", line⟩

def rssiLine (rxInfo : RxInfo) : Line :=
  ⟨"RSSI: ", Text.decimal rxInfo.rssi.toNat ++ ", LQI: ".toList ++
    Text.decimal rxInfo.lqi.toNat⟩

/-- The lines that `recv` writes. -/
def recvLines (crypto : Crypto) (net : Ieee802154) (node : NodeState) (call : RecvCall)
    (dump : HexDump) : List Line :=
  let buffer := call.reception.store node.buffer
  let dataLen := call.reception.dataLen
  let mhrLen := net.getFrameHdrLen buffer
  if mhrLen = 0 then
    [⟨"", []⟩, ⟨"Unexpected MHR for incoming packet", []⟩]
  else
    ⟨"", []⟩ :: headerLines net buffer ++ dump.consoleLines ++
      payloadLines crypto net call buffer node.radios mhrLen dataLen ++
      textLines buffer mhrLen dataLen ++ [rssiLine call.rxInfo, ⟨"", []⟩]

section Layout

variable (dump : HexDump)

theorem toList_frameTypeText (control : UInt8) :
    (frameTypeText control).toList = (frameType control).toList ++ ['\n'] := by
  unfold frameTypeText frameType
  generalize (control &&& 0x07).toNat = kind
  rcases kind with _ | _ | _ | _ | kind <;> first | rfl | simp

theorem consoleText_printHeader (net : Ieee802154) (buffer : Memory) :
    consoleText dump (printHeader net buffer) = written (headerLines net buffer) := by
  have last (flag : Prop) [Decidable flag] :
      (if flag then "0\n" else "1\n").toList = (if flag then "0" else "1").toList ++ ['\n'] := by
    split <;> rfl
  have read : (Action.read .header 0 2).text dump = [] := rfl
  simp [printHeader, headerLines, sourceLine, Line.text, toList_frameTypeText, last, read]

theorem consoleText_printText (buffer : Memory) (mhrLen dataLen : Nat) :
    "Text: ".toList ++ (consoleText dump (printText buffer mhrLen dataLen) ++ ['\n']) =
      written (textLines buffer mhrLen dataLen) := by
  have characters : consoleText dump (printText buffer mhrLen dataLen) =
      (textItems buffer mhrLen dataLen).flatMap fun item =>
        item.1 :: if item.2 then '\n' :: "     ".toList else [] := by
    rw [consoleText, printText, textItems, List.flatMap_assoc, List.flatMap_map]
    apply List.flatMap_congr
    intro i _
    by_cases ends : (i - mhrLen + 1) % 122 = 1 ∧ i - mhrLen ≠ 0
    · simp [ends, shown, Action.text, Action.say]
    · simp [ends, shown, Action.text]
  rw [characters, flatMap_eq_wrap]
  simp [textLines, written, Line.text, List.flatMap_map]

theorem consoleText_sendFrame (net : Ieee802154) (call : RecvCall) (radios : Radios)
    (dstPan : UInt16) (dst data : List UInt8) :
    consoleText dump (sendFrame net call.driverSend radios 0 dstPan dst data).actions =
      written (sentLines net call (replyDevice radios) dstPan dst data) := by
  have nonempty := radios.nonempty
  have inside : ¬ unsigned 0 > radios.devs.length - 1 := by
    simp [unsigned]
  have length_nonneg : ¬ ((buildHeader net (replyDevice radios) dstPan dst).length : Int) < 0 := by
    omega
  have transmitted (device : Nat) (header payload : List UInt8) :
      (Action.transmit device header payload).text dump = [] := rfl
  have device : radios.devs.get ⟨unsigned 0, unsigned_zero_lt radios⟩ = replyDevice radios := rfl
  simp only [sendFrame, inside, dite_false, device, length_nonneg, if_false, sentLines]
  split <;> simp [transmitted, Line.text]

theorem consoleText_requestToSign (crypto : Crypto) (net : Ieee802154) (call : RecvCall)
    (buffer : Memory) (radios : Radios) (mhrLen dataLen : Nat) :
    consoleText dump (requestToSign crypto net call buffer radios mhrLen dataLen).1 =
      written (requestLines net call buffer radios mhrLen dataLen) := by
  have payload := slice_buildReply call.signReplyData (replySignature call) lPublic1Front
  have dataLength : (2 + 64 + 32 : UInt8).toNat = 2 + 64 + 32 := rfl
  have read (start length : Nat) : (Action.read .message start length).text dump = [] := rfl
  have hashed (message : List UInt8) (digest : Digest) :
      (Action.hash message digest).text dump = [] := rfl
  have signed (digest : Digest) (outcome : Option Signature) :
      (Action.sign digest outcome).text dump = [] := rfl
  have called (iface : Int) (dstPan : UInt16) (dst data : List UInt8) :
      (Action.send2 iface dstPan dst data).text dump = [] := rfl
  have generated : consoleText dump
      (if (call.uECCSign lPrivate1 lPublic1Front).isNone then [.say "\nSignature generated\n"]
        else []) =
      written (if (call.uECCSign lPrivate1 lPublic1Front).isNone then
        [⟨"", []⟩, ⟨"Signature generated", []⟩] else []) := by
    split <;> simp [Line.text]
  have hashing (message : List UInt8) (digest lHash : Digest) (outcome : Option Signature) :
      consoleText dump [.say "\n", .say "HASH calc\n", .hash message digest, .say "DONE\n",
        .say "Sign deterministic\n", .sign lHash outcome] =
        '\n' :: written [⟨"HASH calc", []⟩, ⟨"DONE", []⟩, ⟨"Sign deterministic", []⟩] := by
    simp [hashed, signed, Line.text]
  have packing : consoleText dump [.say "DONE\n", .say "Make packet\n",
      .say "Generated signature: "] =
      written [⟨"DONE", []⟩, ⟨"Make packet", []⟩] ++ "Generated signature: ".toList := by
    simp [Line.text]
  have sending (dstPan : UInt16) (dst data : List UInt8) : consoleText dump [.say "\n",
      .say "DONE\n", .say "Sending sign and hash\n", .send2 0 dstPan dst data] =
      '\n' :: written [⟨"DONE", []⟩, ⟨"Sending sign and hash", []⟩] := by
    simp [called, Line.text]
  have done : consoleText dump [.say "DONE\n"] = written [⟨"DONE", []⟩] := by
    simp [Line.text]
  have newline (rest : Text) : "\n".toList ++ rest = '\n' :: rest := rfl
  rw [replySignature] at payload
  simp only [requestToSign, requestLines, send2, dataLength, payload, replySignature,
    consoleText_append, consoleText_sendFrame, consoleText_printBytes, hashing, generated, packing,
    sending, done, written_append]
  simp only [written_cons, written_nil, Line.text, consoleText_cons, consoleText_nil, text_say,
    read, newline, List.append_assoc, List.cons_append, List.nil_append, List.append_nil]

theorem consoleText_signReceived (crypto : Crypto) (buffer : Memory) (mhrLen : Nat) :
    consoleText dump (signReceived crypto buffer mhrLen) =
      written (replyLines crypto buffer mhrLen) := by
  have read (use : Use) (start length : Nat) (other : use ≠ .dump) :
      (Action.read use start length).text dump = [] := by
    cases use <;> first | rfl | exact absurd rfl other
  have verified (digest : Digest) (signature : Signature) :
      (Action.verify digest signature).text dump = [] := rfl
  have reported (verdict : Bool) : (Action.report verdict).text dump = [] := rfl
  have printed (verdict : Bool) :
      verdictText verdict = '\n' :: ((verdictLine verdict).text ++ ['\n']) := by
    cases verdict <;> rfl
  simp [signReceived, replyLines, consoleText_printBytes, read, verified, reported, printed,
    Line.text]

/-- The text that `recv` writes is that of its lines. -/
theorem consoleText_recv (crypto : Crypto) (net : Ieee802154) (node : NodeState)
    (call : RecvCall) :
    consoleText dump (recv crypto net node call).actions =
      written (recvLines crypto net node call dump) := by
  let buffer := call.reception.store node.buffer
  let mhrLen := net.getFrameHdrLen buffer
  have branch : consoleText dump (handlePayload crypto net call buffer node.radios mhrLen
      call.reception.dataLen).1 =
      written (payloadLines crypto net call buffer node.radios mhrLen call.reception.dataLen) := by
    rw [handlePayload, payloadLines]
    split
    · exact consoleText_requestToSign ..
    · split
      · exact consoleText_signReceived ..
      · simp [Line.text]
  have text := consoleText_printText dump buffer mhrLen call.reception.dataLen
  by_cases header : mhrLen = 0
  · simp [recv, recvLines, buffer, mhrLen, header, Line.text]
  · have lines : written (recvLines crypto net node call dump) =
        '\n' :: (written (headerLines net buffer) ++ (written dump.consoleLines ++
          (written (payloadLines crypto net call buffer node.radios mhrLen
            call.reception.dataLen) ++ (written (textLines buffer mhrLen call.reception.dataLen) ++
              ((rssiLine call.rxInfo).text ++ ['\n', '\n']))))) := by
      rw [recvLines]
      simp only [buffer, mhrLen] at header ⊢
      simp [header, Line.text]
    let ending : List Action := [.say "\n", .print ("RSSI: ".toList ++
      Text.decimal call.rxInfo.rssi.toNat ++ ", LQI: ".toList ++
        Text.decimal call.rxInfo.lqi.toNat ++ "\n\n".toList)]
    have actions : (recv crypto net node call).actions =
        [.say "\n"] ++ (printHeader net buffer ++
          ([.read .dump mhrLen (sizeSub call.reception.dataLen mhrLen), .read .tag mhrLen 1,
              .dispatch (buffer mhrLen)] ++
            ((handlePayload crypto net call buffer node.radios mhrLen
                call.reception.dataLen).1 ++
              ([.say "Text: "] ++
                (printText buffer mhrLen call.reception.dataLen ++ ending))))) := by
      simp only [recv]
      rw [if_neg header]
      simp [buffer, mhrLen, ending]
    have opened : consoleText dump [.say "\n"] = ['\n'] := rfl
    have dumped (tag : UInt8) : consoleText dump
        [.read .dump mhrLen (sizeSub call.reception.dataLen mhrLen), .read .tag mhrLen 1,
          .dispatch tag] = written dump.consoleLines :=
      List.append_nil _
    have labelled : consoleText dump [.say "Text: "] = "Text: ".toList := rfl
    have ended : consoleText dump ending =
        ['\n'] ++ ((rssiLine call.rxInfo).text ++ ['\n', '\n']) := by
      simp [ending, rssiLine, Line.text]
    rw [actions, lines, ← text, ← branch, ← consoleText_printHeader dump]
    simp only [consoleText_append, opened, dumped, labelled, ended]
    simp only [List.append_assoc, List.cons_append, List.nil_append]

end Layout

theorem digitValue_digitChar : ∀ v < 16, Hex.digitValue (Nat.digitChar v) = some v := by
  intro v small
  have every : ∀ v ∈ List.range 16, Hex.digitValue (Nat.digitChar v) = some v := by decide
  exact every v (List.mem_range.mpr small)

theorem not_mem_fixed {c : Char} (foreign : Hex.digitValue c = none) (width value : Nat) :
    c ∉ Hex.fixed Nat.digitChar width value := by
  induction width generalizing value with
  | zero => simp [Hex.fixed]
  | succ width induction =>
      rw [Hex.fixed, List.mem_append, not_or, List.mem_singleton]
      refine ⟨induction (value / 16), ?_⟩
      rintro rfl
      rw [digitValue_digitChar _ (Nat.mod_lt value (by decide))] at foreign
      cases foreign

theorem not_mem_printAddr {c : Char} (foreign : Hex.digitValue c = none) (colon : c ≠ ':')
    (addr : List UInt8) : c ∉ printAddr addr := by
  intro member
  obtain ⟨⟨byte, i⟩, -, inside⟩ := List.mem_flatMap.mp member
  dsimp only at inside
  rcases List.mem_append.mp inside with separator | digit
  · split at separator
    · exact colon (List.mem_singleton.mp separator)
    · cases separator
  · exact not_mem_fixed foreign 2 byte.toNat digit

theorem newline_not_mem_fixed (width value : Nat) :
    '\n' ∉ Hex.fixed Nat.digitChar width value :=
  not_mem_fixed rfl width value

theorem newline_not_mem_printAddr (addr : List UInt8) : '\n' ∉ printAddr addr :=
  not_mem_printAddr rfl (by decide) addr

theorem shown_ne_newline (byte : UInt8) : shown byte ≠ '\n' := by
  have every : ∀ v ∈ List.range 256, shown (UInt8.ofNat v) ≠ '\n' := by
    decide +kernel
  simpa using every byte.toNat (List.mem_range.mpr byte.toNat_lt)

theorem newline_not_mem_ite (flag : Prop) [Decidable flag] {set unset : String}
    (set_single : '\n' ∉ set.toList) (unset_single : '\n' ∉ unset.toList) :
    '\n' ∉ (if flag then set else unset).toList := by
  split
  · exact set_single
  · exact unset_single

theorem newline_not_mem_frameType (control : UInt8) : '\n' ∉ (frameType control).toList := by
  unfold frameType
  split <;> decide

theorem single_headerLines (net : Ieee802154) (buffer : Memory) :
    ∀ line ∈ headerLines net buffer, line.Single := by
  intro line member
  simp only [headerLines, List.mem_cons, List.not_mem_nil, or_false] at member
  rcases member with rfl | rfl | rfl | rfl | rfl
  · simpa [Line.Single, Line.text] using newline_not_mem_frameType (buffer 0)
  · simp [Line.Single, Line.text, newline_not_mem_fixed, newline_not_mem_printAddr]
  · simp [Line.Single, Line.text, sourceLine, newline_not_mem_fixed, newline_not_mem_printAddr]
  · simp only [Line.Single, Line.text, List.mem_append, not_or]
    refine ⟨by decide, ⟨⟨⟨⟨⟨⟨?_, by decide⟩, ?_⟩, by decide⟩, ?_⟩, by decide⟩, ?_⟩⟩ <;>
      exact newline_not_mem_ite _ (by decide) (by decide)
  · simp [Line.Single, Line.text, Text.newline_not_mem_decimal]

theorem single_requestLines (net : Ieee802154) (call : RecvCall) (buffer : Memory)
    (radios : Radios) (mhrLen dataLen : Nat) :
    ∀ line ∈ requestLines net call buffer radios mhrLen dataLen, line.Single := by
  have sent (dstPan : UInt16) (dst data : List UInt8) :
      ∀ line ∈ sentLines net call (replyDevice radios) dstPan dst data, line.Single := by
    unfold sentLines
    split <;>
      simp [Line.Single, Line.text, Text.newline_not_mem_decimal, newline_not_mem_printAddr]
  have generated (failed : Prop) [Decidable failed] :
      ∀ line ∈ (if failed then [⟨"", []⟩, ⟨"Signature generated", []⟩] else [] : List Line),
        line.Single := by
    split <;> simp [Line.Single, Line.text]
  simp only [requestLines, List.forall_mem_append]
  refine ⟨⟨⟨⟨?_, generated _⟩, ?_⟩, sent _ _ _⟩, ?_⟩ <;>
    simp [Line.Single, Line.text, Hex.newline_not_mem_spaced]

theorem single_replyLines (crypto : Crypto) (buffer : Memory) (mhrLen : Nat) :
    ∀ line ∈ replyLines crypto buffer mhrLen, line.Single := by
  have verdict (verified : Bool) : '\n' ∉ (if verified then "OK" else "FAILED").toList :=
    newline_not_mem_ite _ (by decide) (by decide)
  simp [replyLines, verdictLine, Line.Single, Line.text, Hex.newline_not_mem_spaced, verdict]

theorem single_textLines (buffer : Memory) (mhrLen dataLen : Nat) :
    ∀ line ∈ textLines buffer mhrLen dataLen, line.Single := by
  have characters : ∀ item ∈ textItems buffer mhrLen dataLen, item.1 ≠ '\n' := by
    intro item member
    obtain ⟨i, -, rfl⟩ := List.mem_map.mp member
    exact shown_ne_newline (buffer i)
  obtain ⟨first, others⟩ := newline_not_mem_wrap characters
  intro line member
  rcases List.mem_cons.mp member with rfl | other
  · simp [Line.Single, Line.text, first]
  · obtain ⟨body, body_mem, rfl⟩ := List.mem_map.mp other
    simp [Line.Single, Line.text, others body body_mem]

theorem single_recvLines (crypto : Crypto) (net : Ieee802154) (node : NodeState)
    (call : RecvCall) (dump : HexDump) :
    ∀ line ∈ recvLines crypto net node call dump, line.Single := by
  have dumped : ∀ line ∈ dump.consoleLines, line.Single := by
    intro line member
    obtain ⟨body, body_mem, rfl⟩ := List.mem_map.mp member
    exact dump.single body body_mem
  have payload (buffer : Memory) (mhrLen dataLen : Nat) : ∀ line ∈
      payloadLines crypto net call buffer node.radios mhrLen dataLen, line.Single := by
    unfold payloadLines
    split
    · exact single_requestLines _ _ _ _ _ _
    · split
      · exact single_replyLines _ _ _
      · simp [Line.Single, Line.text]
  dsimp only [recvLines]
  split
  · simp [Line.Single, Line.text]
  · simp only [List.cons_append, List.forall_mem_cons, List.forall_mem_append]
    refine ⟨?_, ⟨⟨⟨single_headerLines _ _, dumped⟩, payload _ _ _⟩, single_textLines _ _ _⟩, ?_⟩
    · simp [Line.Single, Line.text]
    · simp [Line.Single, Line.text, rssiLine, Text.newline_not_mem_decimal]

/-- The labels of the messages of a branch, verdicts aside. -/
def branchLabels : List String :=
  ["MSG 0xFF: ", "HASH calc", "DONE", "Sign deterministic", "Signature generated", "Make packet",
    "Generated signature: ", "Calculated hash: ", "Sending sign and hash",
    "txtsnd: Error on sending", "txtsnd: send ", "saving signature and hash to array",
    "Received signature: ", "Received hash: ", "MSG 0xFE: ", "Verify", "ERROR, msg not recognized"]

/-- Empty lines and lines with one of these labels. -/
def Known (labels : List String) (lines : List Line) : Prop :=
  ∀ line ∈ lines, line = ⟨"", []⟩ ∨ line.label ∈ labels

theorem known_requestLines (net : Ieee802154) (call : RecvCall) (buffer : Memory)
    (radios : Radios) (mhrLen dataLen : Nat) :
    Known branchLabels (requestLines net call buffer radios mhrLen dataLen) := by
  have sent (dstPan : UInt16) (dst data : List UInt8) :
      Known branchLabels (sentLines net call (replyDevice radios) dstPan dst data) := by
    unfold sentLines
    split <;> simp [Known, branchLabels]
  have generated (failed : Prop) [Decidable failed] :
      Known branchLabels (if failed then [⟨"", []⟩, ⟨"Signature generated", []⟩] else []) := by
    split <;> simp [Known, branchLabels]
  simp only [Known, requestLines, List.forall_mem_append]
  refine ⟨⟨⟨⟨?_, generated _⟩, ?_⟩, sent _ _ _⟩, ?_⟩ <;> simp [branchLabels]

/-- The lines of a branch are known ones and those of its verdicts. -/
theorem payloadLines_eq (crypto : Crypto) (net : Ieee802154) (call : RecvCall) (buffer : Memory)
    (radios : Radios) (mhrLen dataLen : Nat) :
    ∃ front back, payloadLines crypto net call buffer radios mhrLen dataLen =
        front ++ (((handlePayload crypto net call buffer radios mhrLen dataLen).1.filterMap
          verdict).map verdictLine ++ back) ∧
      Known branchLabels front ∧ Known branchLabels back := by
  unfold payloadLines handlePayload
  split
  · refine ⟨_, [], ?_, known_requestLines net call buffer radios mhrLen dataLen, by simp [Known]⟩
    rw [requestToSign_filterMap blind_verdict]
    simp [verdict]
  · split
    · refine ⟨(replyLines crypto buffer mhrLen).take 7, [⟨"DONE", []⟩], ?_, ?_, ?_⟩
      · rw [signReceived_filterMap blind_verdict]
        rfl
      · simp [Known, branchLabels, replyLines]
      · simp [Known, branchLabels]
    · exact ⟨[⟨"", []⟩, ⟨"ERROR, msg not recognized", []⟩], [], rfl, by simp [Known, branchLabels],
        by simp [Known]⟩

def headerLabels : List String :=
  ["BEACON", "DATA", "ACK", "MACCMD", "UNKNOWN", "Dest. PAN: 0x", "Security: ", "Version: "]

theorem headerLines_eq (net : Ieee802154) (buffer : Memory) :
    ∃ front back, headerLines net buffer =
        front ++ (sourceLine (net.getSrc buffer).1 (net.getSrc buffer).2 :: back) ∧
      Known headerLabels front ∧ Known headerLabels back := by
  have kind (control : UInt8) : frameType control ∈ headerLabels := by
    unfold frameType
    split <;> simp [headerLabels]
  refine ⟨(headerLines net buffer).take 2, (headerLines net buffer).drop 3, rfl, ?_, ?_⟩
  · simp only [Known, headerLines, List.take_succ_cons, List.take_zero, List.forall_mem_cons]
    exact ⟨.inr (kind _), .inr (by simp [headerLabels]), by simp⟩
  · simp [Known, headerLines, headerLabels]

theorem known_textLines (buffer : Memory) (mhrLen dataLen : Nat) :
    Known ["Text: ", "     "] (textLines buffer mhrLen dataLen) := by
  intro line member
  rcases List.mem_cons.mp member with rfl | other
  · exact .inr (by simp)
  · obtain ⟨body, -, rfl⟩ := List.mem_map.mp other
    exact .inr (by simp)

/-- The lines of a dump start with a digit. -/
theorem other_consoleLines {label : String} {c : Char} (label_head : label.toList.head? = some c)
    (foreign : Hex.digitValue c = none) (dump : HexDump) :
    ∀ line ∈ dump.consoleLines, Other label line := by
  intro line member
  obtain ⟨body, body_mem, rfl⟩ := List.mem_map.mp member
  obtain ⟨d, head, digit⟩ := dump.offset body body_mem
  refine .of_head label_head head ?_
  rintro rfl
  rw [foreign] at digit
  cases digit

theorem known_ending (rxInfo : RxInfo) : Known ["RSSI: "] [rssiLine rxInfo, ⟨"", []⟩] := by
  simp [Known, rssiLine]

section Recv

variable (crypto : Crypto) (net : Ieee802154) (node : NodeState) (call : RecvCall) (dump : HexDump)

/-- The lines of `recv` around those of the branch taken. -/
theorem recvLines_eq (header : net.getFrameHdrLen (call.reception.store node.buffer) ≠ 0) :
    let buffer := call.reception.store node.buffer
    let mhrLen := net.getFrameHdrLen buffer
    let dataLen := call.reception.dataLen
    ∃ before behind, recvLines crypto net node call dump =
        (⟨"", []⟩ :: headerLines net buffer ++ dump.consoleLines ++ before) ++
          (((recv crypto net node call).actions.filterMap verdict).map verdictLine ++
            (behind ++ textLines buffer mhrLen dataLen ++ [rssiLine call.rxInfo, ⟨"", []⟩])) ∧
      Known branchLabels before ∧ Known branchLabels behind := by
  intro buffer mhrLen dataLen
  obtain ⟨before, behind, payload_eq, known⟩ :=
    payloadLines_eq crypto net call buffer node.radios mhrLen dataLen
  have verdicts : (recv crypto net node call).actions.filterMap verdict =
      (handlePayload crypto net call buffer node.radios mhrLen dataLen).1.filterMap verdict := by
    rw [recv_filterMap blind_verdict header]
    rfl
  refine ⟨before, behind, ?_, known⟩
  simp only [recvLines, if_neg header]
  rw [payload_eq, verdicts]
  simp [buffer, mhrLen, dataLen]

theorem recvLines_of_unexpected
    (header : net.getFrameHdrLen (call.reception.store node.buffer) = 0) :
    recvLines crypto net node call dump =
        [⟨"", []⟩, ⟨"Unexpected MHR for incoming packet", []⟩] ++ ([] ++ []) ∧
      (recv crypto net node call).actions.filterMap verdict = [] := by
  simp [recvLines, recv, header, blind_verdict.say]

theorem labelled_verdict :
    labelled "Signature verification " (consoleText dump (recv crypto net node call).actions) =
      ((recv crypto net node call).actions.filterMap verdict).map
        fun verified => (verdictLine verified).text ++ ['\n'] := by
  let buffer := call.reception.store node.buffer
  have single := single_recvLines crypto net node call dump
  have other {labels : List String} {lines : List Line}
      (apart : ∀ other ∈ labels, Apart "Signature verification " other)
      (known : Known labels lines) : ∀ line ∈ lines, Other "Signature verification " line :=
    .of_labels (by decide) apart known
  rw [consoleText_recv]
  by_cases header : net.getFrameHdrLen buffer = 0
  · obtain ⟨lines, silent⟩ := recvLines_of_unexpected crypto net node call dump header
    rw [lines] at single ⊢
    rw [silent]
    exact labelled_written_of_others single (by simp; decide) (by simp) (by simp)
  · obtain ⟨front, back, header_eq, front_known, back_known⟩ := headerLines_eq net buffer
    obtain ⟨before, behind, lines, before_known, behind_known⟩ :=
      recvLines_eq crypto net node call dump header
    have source_apart : Apart "Signature verification " "Src. PAN: 0x" := by decide
    have headed : ∀ line ∈ headerLines net buffer, Other "Signature verification " line := by
      rw [header_eq, List.forall_mem_append, List.forall_mem_cons]
      exact ⟨other (by decide) front_known, .of_apart source_apart, other (by decide) back_known⟩
    rw [lines] at single ⊢
    rw [labelled_written_of_others single, List.map_map]
    · rfl
    · simp only [List.cons_append, List.forall_mem_cons, List.forall_mem_append]
      exact ⟨by decide, ⟨headed, other_consoleLines rfl rfl dump⟩, other (by decide) before_known⟩
    · intro line member
      obtain ⟨verified, -, rfl⟩ := List.mem_map.mp member
      exact List.prefix_append ..
    · simp only [List.forall_mem_append]
      exact ⟨⟨other (by decide) behind_known, other (by decide) (known_textLines _ _ _)⟩,
        other (by decide) (known_ending _)⟩

theorem labelled_source :
    labelled "Src. PAN: 0x" (consoleText dump (recv crypto net node call).actions) =
      let buffer := call.reception.store node.buffer
      if net.getFrameHdrLen buffer = 0 then []
      else [(sourceLine (net.getSrc buffer).1 (net.getSrc buffer).2).text ++ ['\n']] := by
  let buffer := call.reception.store node.buffer
  have single := single_recvLines crypto net node call dump
  have other {labels : List String} {lines : List Line}
      (apart : ∀ other ∈ labels, Apart "Src. PAN: 0x" other)
      (known : Known labels lines) : ∀ line ∈ lines, Other "Src. PAN: 0x" line :=
    .of_labels (by decide) apart known
  rw [consoleText_recv]
  by_cases header : net.getFrameHdrLen buffer = 0
  · have lines := (recvLines_of_unexpected crypto net node call dump header).1
    rw [lines] at single ⊢
    dsimp only
    rw [if_pos header]
    exact labelled_written_of_others single (by simp; decide) (by simp) (by simp)
  · obtain ⟨front, back, header_eq, front_known, back_known⟩ := headerLines_eq net buffer
    obtain ⟨before, behind, lines, before_known, behind_known⟩ :=
      recvLines_eq crypto net node call dump header
    have verdict_apart : Apart "Src. PAN: 0x" "Signature verification " := by decide
    have split : recvLines crypto net node call dump =
        (⟨"", []⟩ :: front) ++ ([sourceLine (net.getSrc buffer).1 (net.getSrc buffer).2] ++
          (back ++ dump.consoleLines ++ before ++
            ((recv crypto net node call).actions.filterMap verdict).map verdictLine ++ behind ++
            textLines buffer (net.getFrameHdrLen buffer) call.reception.dataLen ++
            [rssiLine call.rxInfo, ⟨"", []⟩])) := by
      rw [lines, header_eq]
      simp [buffer]
    rw [split] at single ⊢
    dsimp only
    rw [labelled_written_of_others single, if_neg header]
    · rfl
    · rw [List.forall_mem_cons]
      exact ⟨by decide, other (by decide) front_known⟩
    · intro line member
      rw [List.mem_singleton.mp member]
      exact List.prefix_append ..
    · simp only [List.forall_mem_append, List.forall_mem_map]
      exact ⟨⟨⟨⟨⟨⟨other (by decide) back_known, other_consoleLines rfl rfl dump⟩,
        other (by decide) before_known⟩, fun _ _ => .of_apart verdict_apart⟩,
        other (by decide) behind_known⟩, other (by decide) (known_textLines _ _ _)⟩,
        other (by decide) (known_ending _)⟩

end Recv

/-- The verdict lines that `recv` writes are those of its verdicts, and one line names the sender
of the frame in the buffer; the payload cannot make `recv` write another such line. -/
theorem console_not_forged (crypto : Crypto) (net : Ieee802154) (node : NodeState)
    (call : RecvCall) (dump : HexDump) :
    labelled "Signature verification " (consoleText dump (recv crypto net node call).actions) =
        ((recv crypto net node call).actions.filterMap verdict).map
          (fun verified => (verdictLine verified).text ++ ['\n']) ∧
      labelled "Src. PAN: 0x" (consoleText dump (recv crypto net node call).actions) =
        if net.getFrameHdrLen (call.reception.store node.buffer) = 0 then []
        else [(sourceLine (net.getSrc (call.reception.store node.buffer)).1
          (net.getSrc (call.reception.store node.buffer)).2).text ++ ['\n']] :=
  ⟨labelled_verdict crypto net node call dump, labelled_source crypto net node call dump⟩

end PpmlIot.Signecc

import PpmlIot.Signecc.FrameHeader

/-!
# The receive path

`recv` fetches one frame from the driver into a static buffer, prints its header, branches on the
first payload byte and prints the payload.  Lengths are computed in the types of the source,
`size_t` and `uint8_t`; nothing is checked between the driver's result and the first use of the
buffer, and the model checks nothing there either.
-/

namespace PpmlIot.Signecc

open Library

/-- `AT86RF2XX_MAX_PKT_LENGTH`, the size of the static buffer. -/
def maxPktLength : Nat := 127

/-- The result of the driver's `recv`. -/
inductive Reception
  /-- A negative error; nothing is written. -/
  | error (errno : Nat) (positive : 0 < errno) (int : errno ≤ 2147483648)
  /-- The bytes of a frame, written to the start of the buffer. -/
  | frame (bytes : List UInt8) (fits : bytes.length ≤ maxPktLength)

namespace Reception

/-- The buffer after the driver's `recv`. -/
def store : Reception → Memory → Memory
  | .error _ _ _, buffer => buffer
  | .frame bytes _, buffer => buffer.write 0 bytes

/-- The driver's result as the `size_t` that `recv` keeps. -/
def dataLen : Reception → Nat
  | .error errno _ _ => 4294967296 - errno
  | .frame bytes _ => bytes.length

def count : Reception → Nat
  | .error _ _ _ => 0
  | .frame bytes _ => bytes.length

/-- Behind what was received lies what lay there before. -/
theorem store_apply_of_le {reception : Reception} {buffer : Memory} {index : Nat}
    (beyond : reception.count ≤ index) : reception.store buffer index = buffer index := by
  cases reception with
  | error errno positive int => rfl
  | frame bytes fits =>
      apply Memory.write_apply_of_le
      rw [Nat.zero_add]
      exact beyond

end Reception

structure RxInfo where
  rssi : UInt8
  lqi : UInt8

/-- What one call of `recv` meets: the driver's answers, the signing primitive, and what lies in the
stack memory of the local arrays that the call does not initialise. -/
structure RecvCall where
  reception : Reception
  rxInfo : RxInfo
  uECCSign : SigningCall
  lSig : Signature
  signReplyData : Memory
  driverSend : List UInt8 → List UInt8 → Int

structure NodeState where
  /-- The static receive buffer and the memory behind it. -/
  buffer : Memory
  radios : Radios

/-- A call of `recv`: what it did, and the state it leaves. -/
structure RecvRun where
  actions : List Action
  node : NodeState

def printBytes (bytes : List UInt8) : List Action :=
  bytes.map fun byte => .print (Hex.fixed Hex.upperDigit 2 byte.toNat ++ [' '])

/-- Print one bit of the frame control field. -/
def printFlag (control mask : UInt8) (set unset : String) : Action :=
  .say (if control &&& mask ≠ 0 then set else unset)

/-- The frame type printed for a frame control byte. -/
def frameTypeText (control : UInt8) : String :=
  match (control &&& 0x07).toNat with
  | 0 => "BEACON\n"
  | 1 => "DATA\n"
  | 2 => "ACK\n"
  | 3 => "MACCMD\n"
  | _ => "UNKNOWN\n"

/-- The lines printed about the header of a frame. -/
def printHeader (net : Ieee802154) (buffer : Memory) : List Action :=
  let (dst, dstPan) := net.getDst buffer
  let (src, srcPan) := net.getSrc buffer
  let control := buffer 0
  [.read .header 0 2, .say (frameTypeText control),
    .print ("Dest. PAN: 0x".toList ++ Hex.fixed Nat.digitChar 4 dstPan.toNat ++
      ", Dest. addr.: ".toList),
    .print (printAddr dst),
    .print ("\nSrc. PAN: 0x".toList ++ Hex.fixed Nat.digitChar 4 srcPan.toNat ++
      ", Src. addr.: ".toList),
    .print (printAddr src), .say "\nSecurity: ", printFlag control 0x08 "1, " "0, ",
    .say "Frame pend.: ", printFlag control 0x10 "1, " "0, ", .say "ACK req.: ",
    printFlag control 0x20 "1, " "0, ", .say "PAN comp.: ", printFlag control 0x40 "1\n" "0\n",
    .say "Version: ",
    .print (Text.decimal ((buffer 1 &&& 0x30) >>> 4).toNat ++ ", ".toList),
    .print ("Seq.: ".toList ++ Text.decimal (net.getSeq buffer).toNat ++ "\n".toList)]

/-- `signReplyData` after the reply has been put together in it. -/
def buildReply (signReplyData : Memory) (lSig : Signature) (lHash : Digest) : Memory :=
  (((signReplyData.write 0 [0xFE]).write 1 lSig.toList).write (64 + 1) lHash.toList).write
    (64 + 32 + 1) [0]

/-- The first half of `l_public1`, as the 32 bytes that `memcpy` takes from it. -/
def lPublic1Front : Digest := ⟨lPublic1.take 32, by decide⟩

/-- `case 0xFF`: hash the message, sign, and reply to the sender. -/
def requestToSign (crypto : Crypto) (net : Ieee802154) (call : RecvCall) (buffer : Memory)
    (radios : Radios) (mhrLen dataLen : Nat) : List Action × Radios :=
  let (src, srcPan) := net.getSrc buffer
  let msgSize := sizeSub (sizeSub dataLen mhrLen) 1 % 256
  let msgBuffer := buffer.slice (mhrLen + 1) msgSize
  let context := updateSha256 initSha256 msgBuffer msgSize
  let calculated := finishSha256 crypto context
  -- `memcpy(l_hash, l_public1, 32)` replaces the digest just calculated
  let lHash := lPublic1Front
  let outcome := call.uECCSign lPrivate1 lHash
  let lSig := outcome.getD call.lSig
  let reply := buildReply call.signReplyData lSig lHash
  let sent := send2 net call.driverSend radios 0 srcPan src reply (2 + 64 + 32)
  ([.read .message (mhrLen + 1) msgSize, .say "MSG 0xFF: "] ++ printBytes msgBuffer ++
      [.say "\n", .say "HASH calc\n", .hash context calculated, .say "DONE\n",
        .say "Sign deterministic\n", .sign lHash outcome] ++
      (if outcome.isNone then [.say "\nSignature generated\n"] else []) ++
      [.say "DONE\n", .say "Make packet\n", .say "Generated signature: "] ++
      printBytes lSig.toList ++ [.say "\n", .say "Calculated hash: "] ++
      printBytes lHash.toList ++
      [.say "\n", .say "DONE\n", .say "Sending sign and hash\n",
        .send2 0 srcPan src (reply.slice 0 (2 + 64 + 32))] ++
      sent.actions ++ [.say "DONE\n"],
    sent.radios)

def readArray (buffer : Memory) (start size : Nat) : List.Vector UInt8 size :=
  ⟨buffer.slice start size, buffer.length_slice start size⟩

/-- `case 0xFE`: verify the signature and digest found behind the tag. -/
def signReceived (crypto : Crypto) (buffer : Memory) (mhrLen : Nat) : List Action :=
  let lSig : Signature := readArray buffer (mhrLen + 1) 64
  let lHash : Digest := readArray buffer (mhrLen + 64 + 1) 32
  let verified := crypto.uECCVerify lPublic1 lHash lSig
  [.say "saving signature and hash to array\n", .read .signature (mhrLen + 1) 64,
      .read .digest (mhrLen + 64 + 1) 32, .say "Received signature: "] ++
    printBytes lSig.toList ++ [.say "\n", .say "Received hash: "] ++ printBytes lHash.toList ++
    [.say "\n", .say "DONE\n", .say "MSG 0xFE: ", .read .printed 0 (64 + 32 + 2)] ++
    printBytes (buffer.slice 0 (64 + 32 + 2)) ++
    [.say "\n", .say "Verify\n", .verify lHash lSig, .report verified,
      .print (verdictText verified), .say "DONE\n"]

/-- The loop that prints the payload as text; `MAX_LINE - sizeof("txt: ")` is 122. -/
def printText (buffer : Memory) (mhrLen dataLen : Nat) : List Action :=
  (List.range' mhrLen (dataLen - mhrLen)).flatMap fun i =>
    [.read .printed i 1,
      .print [if buffer i > 0x1F ∧ buffer i < 0x80 then Char.ofNat (buffer i).toNat else '?']] ++
      (if (i - mhrLen + 1) % 122 = 1 ∧ i - mhrLen ≠ 0 then [.say "\n     "] else [])

/-- The branch on the first payload byte. -/
def handlePayload (crypto : Crypto) (net : Ieee802154) (call : RecvCall) (buffer : Memory)
    (radios : Radios) (mhrLen dataLen : Nat) : List Action × Radios :=
  if buffer mhrLen = 0xFF then
    requestToSign crypto net call buffer radios mhrLen dataLen
  else if buffer mhrLen = 0xFE then
    (signReceived crypto buffer mhrLen, radios)
  else
    ([.say "\nERROR, msg not recognized\n"], radios)

def recv (crypto : Crypto) (net : Ieee802154) (node : NodeState) (call : RecvCall) : RecvRun :=
  let buffer := call.reception.store node.buffer
  let dataLen := call.reception.dataLen
  let mhrLen := net.getFrameHdrLen buffer
  if mhrLen = 0 then
    { actions := [.say "\n", .say "Unexpected MHR for incoming packet\n"]
      node := { node with buffer } }
  else
    let branch := handlePayload crypto net call buffer node.radios mhrLen dataLen
    { actions :=
        [.say "\n"] ++ printHeader net buffer ++
          [.read .dump mhrLen (sizeSub dataLen mhrLen), .read .tag mhrLen 1,
            .dispatch (buffer mhrLen)] ++
          branch.1 ++ [.say "Text: "] ++ printText buffer mhrLen dataLen ++
          [.say "\n",
            .print ("RSSI: ".toList ++ Text.decimal call.rxInfo.rssi.toNat ++ ", LQI: ".toList ++
              Text.decimal call.rxInfo.lqi.toNat ++ "\n\n".toList)]
      node := { buffer, radios := branch.2 } }

/-! ## Observations

A blind observation of `recv` passes over everything but the branch taken for the payload.
-/

section Observations

variable {β : Type*} {pick : Action → Option β}

theorem Blind.printFlag (blind : Blind pick) (control mask : UInt8) (set unset : String) :
    pick (printFlag control mask set unset) = none :=
  blind.say _

theorem filterMap_printBytes (blind : Blind pick) (bytes : List UInt8) :
    (printBytes bytes).filterMap pick = [] := by
  simp [printBytes, blind.print]

theorem filterMap_printHeader (blind : Blind pick) (net : Ieee802154) (buffer : Memory) :
    (printHeader net buffer).filterMap pick = [] := by
  simp [printHeader, blind.print, blind.read, blind.say, blind.printFlag]

theorem filterMap_printText (blind : Blind pick) (buffer : Memory) (mhrLen dataLen : Nat) :
    (printText buffer mhrLen dataLen).filterMap pick = [] := by
  rw [printText, List.filterMap_eq_nil_iff]
  intro action member
  obtain ⟨i, -, action_mem⟩ := List.mem_flatMap.mp member
  simp only [List.mem_append, List.mem_cons, List.not_mem_nil, or_false] at action_mem
  rcases action_mem with (rfl | rfl) | newline
  · exact blind.read ..
  · exact blind.print _
  · split at newline
    · rw [List.mem_singleton.mp newline]
      exact blind.say _
    · cases newline

/-- Past the header, `recv` is observed through the branch it takes. -/
theorem recv_filterMap (blind : Blind pick) {crypto : Crypto} {net : Ieee802154}
    {node : NodeState} {call : RecvCall}
    (header : net.getFrameHdrLen (call.reception.store node.buffer) ≠ 0) :
    (recv crypto net node call).actions.filterMap pick =
      let buffer := call.reception.store node.buffer
      let mhrLen := net.getFrameHdrLen buffer
      (pick (.dispatch (buffer mhrLen))).toList ++
        (handlePayload crypto net call buffer node.radios mhrLen
          call.reception.dataLen).1.filterMap pick := by
  simp [recv, header, filterMap_printHeader blind, filterMap_printText blind,
    filterMap_cons_toList, blind.say, blind.read, blind.print]

/-- The reply as the bytes sent: the tag, the signature, the digest and a closing zero. -/
def replyBytes (lSig : Signature) (lHash : Digest) : List UInt8 :=
  0xFE :: (lSig.toList ++ lHash.toList ++ [0])

/-- The four copies into `signReplyData` lie side by side and fill it. -/
theorem slice_buildReply (signReplyData : Memory) (lSig : Signature) (lHash : Digest) :
    (buildReply signReplyData lSig lHash).slice 0 (2 + 64 + 32) = replyBytes lSig lHash := by
  have sig_length : lSig.toList.length = 64 := lSig.toList_length
  have hash_length : lHash.toList.length = 32 := lHash.toList_length
  let tagged := signReplyData.write 0 [0xFE]
  let signed := tagged.write 1 lSig.toList
  let hashed := signed.write (64 + 1) lHash.toList
  have tag : (hashed.write (64 + 32 + 1) [0]).slice 0 1 = [0xFE] := by
    rw [Memory.slice_write_of_le (by decide), Memory.slice_write_of_le (by decide),
      Memory.slice_write_of_le (by decide)]
    exact Memory.slice_write_self signReplyData 0 [0xFE]
  have signature : (hashed.write (64 + 32 + 1) [0]).slice 1 64 = lSig.toList := by
    rw [Memory.slice_write_of_le (by decide), Memory.slice_write_of_le (by decide)]
    simpa only [sig_length] using Memory.slice_write_self tagged 1 lSig.toList
  have digest : (hashed.write (64 + 32 + 1) [0]).slice 65 32 = lHash.toList := by
    rw [Memory.slice_write_of_le (by decide)]
    simpa only [hash_length] using Memory.slice_write_self signed (64 + 1) lHash.toList
  have zero : (hashed.write (64 + 32 + 1) [0]).slice 97 1 = [0] :=
    Memory.slice_write_self hashed 97 [0]
  change (hashed.write (64 + 32 + 1) [0]).slice 0 (1 + (64 + (32 + 1))) = _
  rw [Memory.slice_add, Memory.slice_add, Memory.slice_add, tag, signature, digest, zero]
  simp [replyBytes]

theorem msgSize_eq {mhrLen dataLen : Nat} (tag_inside : mhrLen < dataLen)
    (fits : dataLen ≤ maxPktLength) :
    sizeSub (sizeSub dataLen mhrLen) 1 % 256 = dataLen - mhrLen - 1 := by
  rw [maxPktLength] at fits
  have difference : sizeSub dataLen mhrLen = dataLen - mhrLen :=
    sizeSub_of_le (by omega) (by omega)
  rw [difference, sizeSub_of_le (by omega) (by omega), Nat.mod_eq_of_lt (by omega)]

theorem unsigned_zero_lt (radios : Radios) : unsigned 0 < radios.devs.length :=
  radios.nonempty

def replyDevice (radios : Radios) : Netdev :=
  radios.devs.get ⟨0, radios.nonempty⟩

/-- The signature that a call puts into its reply. -/
def replySignature (call : RecvCall) : Signature :=
  (call.uECCSign lPrivate1 lPublic1Front).getD call.lSig

/-- What a request makes the node do: hash the message, sign, call `send2` and transmit. -/
theorem requestToSign_filterMap (blind : Blind pick) (crypto : Crypto) (net : Ieee802154)
    (call : RecvCall) (buffer : Memory) (radios : Radios) (mhrLen dataLen : Nat) :
    (requestToSign crypto net call buffer radios mhrLen dataLen).1.filterMap pick =
      let (src, srcPan) := net.getSrc buffer
      let message := buffer.slice (mhrLen + 1) (sizeSub (sizeSub dataLen mhrLen) 1 % 256)
      let reply := replyBytes (replySignature call) lPublic1Front
      let header := buildHeader net (replyDevice radios) srcPan src
      (pick (.hash message (crypto.sha256 message))).toList ++
        (pick (.sign lPublic1Front (call.uECCSign lPrivate1 lPublic1Front))).toList ++
        (pick (.send2 0 srcPan src reply)).toList ++ (pick (.transmit 0 header reply)).toList := by
  have frame := sendFrame_filterMap blind net call.driverSend (unsigned_zero_lt radios)
    (net.getSrc buffer).2 (net.getSrc buffer).1
    (replyBytes (replySignature call) lPublic1Front)
  have quiet : (if (call.uECCSign lPrivate1 lPublic1Front).isNone then
      [Action.say "\nSignature generated\n"] else []).filterMap pick = [] := by
    split <;> simp [blind.say]
  have context (message : List UInt8) (size : Nat) (whole : message.length = size) :
      updateSha256 initSha256 message size = message := by
    simp [updateSha256, initSha256, ← whole]
  have payload := slice_buildReply call.signReplyData (replySignature call) lPublic1Front
  have dataLength : (2 + 64 + 32 : UInt8).toNat = 2 + 64 + 32 := rfl
  rw [replySignature] at payload frame ⊢
  simp only [requestToSign, send2, List.filterMap_append, filterMap_printBytes blind, quiet,
    filterMap_cons_toList, List.filterMap_nil, blind.say, blind.read, Option.toList_none,
    List.nil_append, List.append_nil, context _ _ (Memory.length_slice ..), dataLength, payload,
    frame, List.append_assoc]
  rfl

/-- What a reply makes the node do: verify and print the verdict. -/
theorem signReceived_filterMap (blind : Blind pick) (crypto : Crypto) (buffer : Memory)
    (mhrLen : Nat) :
    (signReceived crypto buffer mhrLen).filterMap pick =
      let lSig : Signature := readArray buffer (mhrLen + 1) 64
      let lHash : Digest := readArray buffer (mhrLen + 64 + 1) 32
      (pick (.verify lHash lSig)).toList ++
        (pick (.report (crypto.uECCVerify lPublic1 lHash lSig))).toList := by
  simp only [signReceived, List.filterMap_append, filterMap_printBytes blind,
    filterMap_cons_toList, List.filterMap_nil, blind.print, blind.say, blind.read,
    Option.toList_none, List.nil_append, List.append_nil]

end Observations

/-- A call of `recv` that receives a frame whose header is reported with its true length and whose
payload is a tag followed by a body. -/
structure TaggedFrame (net : Ieee802154) (node : NodeState) (call : RecvCall) (tag : UInt8)
    (body : List UInt8) where
  header : List UInt8
  fits : (header ++ tag :: body).length ≤ maxPktLength
  received : call.reception = .frame (header ++ tag :: body) fits
  reported : net.getFrameHdrLen (call.reception.store node.buffer) = header.length
  accepted : header.length ≠ 0

namespace TaggedFrame

/-- A frame received behind a header that is reported with its length. -/
def ofReported {net : Ieee802154} {header : List UInt8} (reported : Reported net header)
    (node : NodeState) (call : RecvCall) (tag : UInt8) (body : List UInt8)
    (fits : (header ++ tag :: body).length ≤ maxPktLength)
    (received : call.reception = .frame (header ++ tag :: body) fits) :
    TaggedFrame net node call tag body where
  header := header
  fits := fits
  received := received
  reported := by
    apply reported.2
    rw [received, Reception.store]
    have inside : 0 + header.length ≤ (header ++ tag :: body).length := by simp
    simpa using Memory.slice_write node.buffer 0 inside
  accepted := reported.1

variable {net : Ieee802154} {node : NodeState} {call : RecvCall} {tag : UInt8} {body : List UInt8}

theorem dataLen_eq (frame : TaggedFrame net node call tag body) :
    call.reception.dataLen = frame.header.length + 1 + body.length := by
  rw [frame.received]
  simp [Reception.dataLen]
  omega

theorem tag_eq (frame : TaggedFrame net node call tag body) :
    call.reception.store node.buffer frame.header.length = tag := by
  rw [frame.received, Reception.store, Memory.write_apply (by omega) (by simp)]
  simp

theorem slice_eq (frame : TaggedFrame net node call tag body) (offset length : Nat)
    (inside : offset + length ≤ body.length) :
    (call.reception.store node.buffer).slice (frame.header.length + 1 + offset) length =
      (body.drop offset).take length := by
  have position : frame.header.length + 1 + offset = 0 + (frame.header.length + 1 + offset) := by
    omega
  rw [frame.received, Reception.store, position, Memory.slice_write _ _ (by simp; omega)]
  congr 1
  rw [show frame.header ++ tag :: body = (frame.header ++ [tag]) ++ body by simp,
    show frame.header.length + 1 + offset = (frame.header ++ [tag]).length + offset by simp,
    ← List.drop_drop, List.drop_left]

/-- A blind observation of the call is one of its dispatch and of the branch taken for the tag. -/
theorem recv_filterMap {β : Type*} {pick : Action → Option β} (blind : Blind pick)
    (crypto : Crypto) (frame : TaggedFrame net node call tag body) :
    (recv crypto net node call).actions.filterMap pick =
      (pick (.dispatch tag)).toList ++
        (handlePayload crypto net call (call.reception.store node.buffer) node.radios
          frame.header.length call.reception.dataLen).1.filterMap pick := by
  rw [Signecc.recv_filterMap blind (frame.reported.trans_ne frame.accepted)]
  simp only [frame.reported, frame.tag_eq]

end TaggedFrame

/-- What a request makes the node do: hash the message, sign, call `send2` and transmit. -/
theorem recv_request {β : Type*} {pick : Action → Option β} (blind : Blind pick) (crypto : Crypto)
    {net : Ieee802154} {node : NodeState} {call : RecvCall} {message : List UInt8}
    (frame : TaggedFrame net node call 0xFF message) :
    (recv crypto net node call).actions.filterMap pick =
      let (src, srcPan) := net.getSrc (call.reception.store node.buffer)
      let reply := replyBytes (replySignature call) lPublic1Front
      let header := buildHeader net (replyDevice node.radios) srcPan src
      (pick (.dispatch 0xFF)).toList ++ (pick (.hash message (crypto.sha256 message))).toList ++
        (pick (.sign lPublic1Front (call.uECCSign lPrivate1 lPublic1Front))).toList ++
        (pick (.send2 0 srcPan src reply)).toList ++ (pick (.transmit 0 header reply)).toList := by
  have fits := frame.fits
  simp only [List.length_append, List.length_cons] at fits
  have size : sizeSub (sizeSub call.reception.dataLen frame.header.length) 1 % 256 =
      message.length := by
    rw [msgSize_eq (by rw [frame.dataLen_eq]; omega) (by rw [frame.dataLen_eq]; omega),
      frame.dataLen_eq]
    omega
  have hashed := frame.slice_eq 0 message.length (by simp)
  simp only [Nat.add_zero, List.drop_zero, List.take_length] at hashed
  rw [frame.recv_filterMap blind crypto, handlePayload, frame.tag_eq, if_pos rfl,
    requestToSign_filterMap blind, size, hashed]
  simp only [List.append_assoc]

/-- What a complete reply makes the node do: verify the digest and signature it carries. -/
theorem recv_reply {β : Type*} {pick : Action → Option β} (blind : Blind pick) (crypto : Crypto)
    {net : Ieee802154} {node : NodeState} {call : RecvCall} {lSig : Signature} {lHash : Digest}
    {rest : List UInt8}
    (frame : TaggedFrame net node call 0xFE (lSig.toList ++ (lHash.toList ++ rest))) :
    (recv crypto net node call).actions.filterMap pick =
      (pick (.dispatch 0xFE)).toList ++ (pick (.verify lHash lSig)).toList ++
        (pick (.report (crypto.uECCVerify lPublic1 lHash lSig))).toList := by
  have sig_length : lSig.toList.length = 64 := lSig.toList_length
  have hash_length : lHash.toList.length = 32 := lHash.toList_length
  have signature :
      readArray (call.reception.store node.buffer) (frame.header.length + 1) 64 = lSig := by
    apply Subtype.ext
    have found := frame.slice_eq 0 64 (by simp)
    rwa [List.drop_zero, List.take_left' sig_length] at found
  have digest :
      readArray (call.reception.store node.buffer) (frame.header.length + 64 + 1) 32 = lHash := by
    apply Subtype.ext
    have found := frame.slice_eq 64 32 (by simp; omega)
    have position : frame.header.length + 1 + 64 = frame.header.length + 64 + 1 := by omega
    rwa [position, List.drop_left' sig_length, List.take_left' hash_length] at found
  rw [frame.recv_filterMap blind crypto, handlePayload, frame.tag_eq, if_neg (by decide),
    if_pos rfl, signReceived_filterMap blind, signature, digest]
  simp only [List.append_assoc]

/-- A node with one radio and an empty buffer. -/
def freshNode : NodeState where
  buffer _ := 0
  radios := ⟨[⟨0, 0x0023, ⟨[1, 2, 3, 4, 5, 6, 7, 8], rfl⟩, ⟨[7, 8], rfl⟩, 0⟩], by decide⟩

/-- The reception of a frame with a given payload from address `12:34`. -/
def receivePayload (payload : List UInt8) (fits : payload.length ≤ 118) : RecvCall where
  reception :=
    .frame ([0x41, 0x88, 0x01, 0x23, 0x00, 0x08, 0x07, 0x34, 0x12] ++ payload)
      (by simp [maxPktLength]; omega)
  rxInfo := ⟨0, 0⟩
  uECCSign _ _ := some (List.Vector.replicate 64 1)
  lSig := List.Vector.replicate 64 0
  signReplyData _ := 0
  driverSend _ _ := 0

def receiveTagged (tag : UInt8) (body : List UInt8) (fits : (tag :: body).length ≤ 118) :
    TaggedFrame dataFrameNet freshNode (receivePayload (tag :: body) fits) tag body where
  header := [0x41, 0x88, 0x01, 0x23, 0x00, 0x08, 0x07, 0x34, 0x12]
  fits := by
    simp only [List.length_cons] at fits
    simp [maxPktLength]
    omega
  received := rfl
  reported := getFrameHdrLen_dataFrameNet rfl rfl
  accepted := by decide

/-- The reception of a reply with the signature and digest of the log. -/
def receiveLogReply : RecvCall :=
  receivePayload (replyBytes logSignature logDigest) (by decide)

end PpmlIot.Signecc

import PpmlIot.Signecc.ReceiveBounds
import PpmlIot.Signecc.SigningService

/-!
# From a reply to its receiver

The reply is put together at offsets computed from the sizes of local arrays and handed to `send2`
with its length as a `uint8_t`; the receiver takes it apart at offsets counted from the end of a
header of any length.  The two agree for every signature and digest, whatever bytes they hold.
-/

namespace PpmlIot.Signecc

open Library

/-- The reply that `recv` builds and sends, for any signature and digest. -/
def sendReply (net : Ieee802154) (driverSend : List UInt8 → List UInt8 → Int) (radios : Radios)
    (dstPan : UInt16) (dst : List UInt8) (signReplyData : Memory) (lSig : Signature)
    (lHash : Digest) : SendRun :=
  send2 net driverSend radios 0 dstPan dst (buildReply signReplyData lSig lHash) (2 + 64 + 32)

/-- The reply is transmitted whole behind `header`, fits a frame with its check sequence, and makes
any node that receives it verify this digest and signature, from bytes of the frame only. -/
structure ReplyArrives (crypto : Crypto) (net : Ieee802154) (header : List UInt8)
    (lSig : Signature) (lHash : Digest) (actions : List Action) : Prop where
  handed : actions.filterMap transmission = [(0, header, replyBytes lSig lHash)]
  whole : (replyBytes lSig lHash).length = 98
  fits : header.length + (replyBytes lSig lHash).length + 2 ≤ maxPktLength
  received : ∀ (node : NodeState) (call : RecvCall)
    (fits : (header ++ replyBytes lSig lHash).length ≤ maxPktLength),
    call.reception = .frame (header ++ replyBytes lSig lHash) fits →
      let actions := (recv crypto net node call).actions
      actions.filterMap dispatchedTag = [0xFE] ∧
        actions.filterMap verification = [(lHash, lSig)] ∧
        InBounds (header ++ replyBytes lSig lHash).length actions

theorem length_replyBytes (lSig : Signature) (lHash : Digest) :
    (replyBytes lSig lHash).length = 98 := by
  have sig_length : lSig.toList.length = 64 := lSig.toList_length
  have hash_length : lHash.toList.length = 32 := lHash.toList_length
  simp [replyBytes, sig_length, hash_length]

theorem sendReply_transmission (net : Ieee802154)
    (driverSend : List UInt8 → List UInt8 → Int) (radios : Radios) (dstPan : UInt16)
    (dst : List UInt8) (signReplyData : Memory) (lSig : Signature) (lHash : Digest) :
    (sendReply net driverSend radios dstPan dst signReplyData lSig lHash).actions.filterMap
        transmission =
      [(0, buildHeader net (replyDevice radios) dstPan dst, replyBytes lSig lHash)] := by
  rw [sendReply, send2, sendFrame_filterMap blind_transmission net _ (unsigned_zero_lt radios)]
  exact congrArg (fun payload => [(0, buildHeader net (replyDevice radios) dstPan dst, payload)])
    (slice_buildReply signReplyData lSig lHash)

/-- What `recv` transmits for a request is a reply of `sendReply`. -/
theorem SigningRequest.transmissions_eq_sendReply (crypto : Crypto) {net : Ieee802154}
    (request : SigningRequest net) :
    (request.actions crypto).filterMap transmission =
      (sendReply net request.call.driverSend request.node.radios request.source.2 request.source.1
        request.call.signReplyData (replySignature request.call)
        lPublic1Front).actions.filterMap transmission := by
  rw [request.transmissions, sendReply_transmission]

/-- A received reply is complete. -/
theorem completeFrame_of_reply {net : Ieee802154} {node : NodeState} {call : RecvCall}
    {lSig : Signature} {lHash : Digest}
    (frame : TaggedFrame net node call 0xFE (lSig.toList ++ lHash.toList ++ [0])) :
    CompleteFrame net node call := by
  have sig_length : lSig.toList.length = 64 := lSig.toList_length
  have hash_length : lHash.toList.length = 32 := lHash.toList_length
  have count : call.reception.count = frame.header.length + 98 := by
    rw [frame.received]
    simp [Reception.count, sig_length, hash_length]
  have reported : reportedLen net node call = frame.header.length := frame.reported
  rw [CompleteFrame, reported, count]
  exact .inr ⟨by omega, fun _ => by omega⟩

/-- A reply behind a header of at most 23 bytes arrives. -/
theorem replyArrives_of_transmission (crypto : Crypto) {net : Ieee802154} {header : List UInt8}
    {lSig : Signature} {lHash : Digest} {actions : List Action} (reported : Reported net header)
    (short : header.length ≤ 23)
    (handed : actions.filterMap transmission = [(0, header, replyBytes lSig lHash)]) :
    ReplyArrives crypto net header lSig lHash actions where
  handed := handed
  whole := length_replyBytes lSig lHash
  fits := by
    rw [length_replyBytes, maxPktLength]
    omega
  received := by
    intro node call fits received
    have frame : TaggedFrame net node call 0xFE (lSig.toList ++ lHash.toList ++ [0]) :=
      .ofReported reported node call 0xFE _ fits received
    have reply : TaggedFrame net node call 0xFE (lSig.toList ++ (lHash.toList ++ [0])) := by
      rwa [← List.append_assoc]
    have bounded := @inBounds_of_completeFrame crypto _ _ _ (completeFrame_of_reply frame)
    rw [received] at bounded
    refine ⟨?_, ?_, bounded⟩
    · rw [recv_reply blind_dispatchedTag crypto reply]
      rfl
    · rw [recv_reply blind_verification crypto reply]
      rfl

/-- `recv` answers a request with a reply of `sendReply`, and a reply with any signature and digest
behind any header of at most 23 bytes arrives unchanged. -/
theorem reply_round_trip (crypto : Crypto) (net : Ieee802154) :
    (∀ request : SigningRequest net,
      (request.actions crypto).filterMap transmission =
        (sendReply net request.call.driverSend request.node.radios request.source.2
          request.source.1 request.call.signReplyData (replySignature request.call)
          lPublic1Front).actions.filterMap transmission) ∧
    ∀ (driverSend : List UInt8 → List UInt8 → Int) (radios : Radios) (dstPan : UInt16)
      (dst : List UInt8) (signReplyData : Memory) (lSig : Signature) (lHash : Digest),
      let header := buildHeader net (replyDevice radios) dstPan dst
      Reported net header → header.length ≤ 23 →
        ReplyArrives crypto net header lSig lHash
          (sendReply net driverSend radios dstPan dst signReplyData lSig lHash).actions := by
  refine ⟨fun request => request.transmissions_eq_sendReply crypto, ?_⟩
  intro driverSend radios dstPan dst signReplyData lSig lHash header reported short
  exact replyArrives_of_transmission crypto reported short
    (sendReply_transmission net driverSend radios dstPan dst signReplyData lSig lHash)

/-- A reply full of zeros arrives behind the header for a short address. -/
theorem zero_reply_round_trip :
    ReplyArrives sampleCrypto dataFrameNet
      (buildHeader dataFrameNet (replyDevice freshNode.radios) 0 [0x12, 0x34])
      (List.Vector.replicate 64 0) (List.Vector.replicate 32 0)
      (sendReply dataFrameNet (fun _ _ => 0) freshNode.radios 0 [0x12, 0x34] (fun _ => 0xAA)
        (List.Vector.replicate 64 0) (List.Vector.replicate 32 0)).actions :=
  (reply_round_trip sampleCrypto dataFrameNet).2 _ _ _ _ _ _ _
    (buildsHeaders_dataFrameNet.reported _ _ (.inl rfl)) (by decide)

end PpmlIot.Signecc

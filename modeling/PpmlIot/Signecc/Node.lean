import PpmlIot.Library.Runs
import PpmlIot.Signecc.Command
import PpmlIot.Signecc.Receive

/-!
# Runs of a node

A node executes shell commands and receptions in any order.  A reply is judged by itself: the
verdict printed for it is that of `uECC_verify` on the signature and digest it carries, and nothing
a node sent before plays a part in it.  The tag is looked for where the header is reported to end,
also in a frame that ends there.
-/

namespace PpmlIot.Signecc

open Library

/-- What can happen at a node. -/
inductive Event
  | txtreqsign (call : CommandCall) (argv : List CString)
  | txtsnd (call : CommandCall) (argv : List CString)
  /-- A call of `recv`, for a frame from any sender. -/
  | recv (call : RecvCall)

/-- What a node does at an event, and its state afterwards. -/
def perform (crypto : Crypto) (net : Ieee802154) (node : NodeState) : Event → RecvRun
  | .txtreqsign call argv =>
      let sent := txtreqsign net node.radios call argv
      { actions := sent.actions, node := { node with radios := sent.radios } }
  | .txtsnd call argv =>
      let sent := txtsnd net node.radios call argv
      { actions := sent.actions, node := { node with radios := sent.radios } }
  | .recv call => recv crypto net node call

def advance (crypto : Crypto) (net : Ieee802154) (node : NodeState) (event : Event) : NodeState :=
  (perform crypto net node event).node

/-- The texts that `txtreqsign` was asked to send. -/
def requestedTexts (events : List Event) : List (List UInt8) :=
  events.filterMap fun
    | .txtreqsign call argv =>
        (parseArguments call.addr argv).map fun arguments => arguments.text.bytes
    | _ => none

/-- In the run of these events, each reply reported as verified carries the digest of a text
requested before. -/
def RepliesBound (crypto : Crypto) (net : Ieee802154) (node : NodeState) (events : List Event) :
    Prop :=
  ∀ front call back, events = front ++ .recv call :: back →
    let state := front.foldl (advance crypto net) node
    true ∈ (recv crypto net state call).actions.filterMap verdict →
      ∀ (lSig : Signature) (lHash : Digest) (rest : List UInt8)
        (_ : TaggedFrame net state call 0xFE (lSig.toList ++ (lHash.toList ++ rest))),
        ∃ text ∈ requestedTexts front, crypto.sha256 text = lHash

/-- A verdict is printed only when the byte of the receive buffer behind the reported header is
0xFE: the first payload byte of a frame that has one, a byte that lay in the buffer before when the
frame ends with its header or the driver fails.  The verdict is that of `uECC_verify` on the bytes
of the buffer behind this byte. -/
structure VerdictOfReply (crypto : Crypto) (net : Ieee802154) (node : NodeState) (call : RecvCall)
    (verified : Bool) : Prop where
  tagged : call.reception.store node.buffer
    (net.getFrameHdrLen (call.reception.store node.buffer)) = 0xFE
  tag_received : ∀ bytes fits, call.reception = .frame bytes fits →
    net.getFrameHdrLen (call.reception.store node.buffer) < bytes.length →
      bytes[net.getFrameHdrLen (call.reception.store node.buffer)]? = some 0xFE
  tag_stale : call.reception.count ≤ net.getFrameHdrLen (call.reception.store node.buffer) →
    node.buffer (net.getFrameHdrLen (call.reception.store node.buffer)) = 0xFE
  verdict_eq : verified =
    let buffer := call.reception.store node.buffer
    let mhrLen := net.getFrameHdrLen buffer
    crypto.uECCVerify lPublic1 (readArray buffer (mhrLen + 64 + 1) 32)
      (readArray buffer (mhrLen + 1) 64)

/-- Where a tag found behind the header comes from. -/
theorem VerdictOfReply.of_tagged {crypto : Crypto} {net : Ieee802154} {node : NodeState}
    {call : RecvCall} {verified : Bool}
    (tagged : call.reception.store node.buffer
      (net.getFrameHdrLen (call.reception.store node.buffer)) = 0xFE)
    (verdict_eq : verified =
      let buffer := call.reception.store node.buffer
      let mhrLen := net.getFrameHdrLen buffer
      crypto.uECCVerify lPublic1 (readArray buffer (mhrLen + 64 + 1) 32)
        (readArray buffer (mhrLen + 1) 64)) :
    VerdictOfReply crypto net node call verified := by
  refine ⟨tagged, ?_, ?_, verdict_eq⟩
  · intro bytes fits received inside
    rw [received, Reception.store] at tagged inside ⊢
    rw [Memory.write_apply (Nat.zero_le _) (by simpa using inside)] at tagged
    rw [List.getElem?_eq_getElem inside]
    exact congrArg some tagged
  · intro beyond
    rwa [Reception.store_apply_of_le beyond] at tagged

theorem verdicts_textCommand {tag : UInt8} (nonzero : tag ≠ 0) (net : Ieee802154)
    (radios : Radios) (call : CommandCall) (argv : List CString) :
    (textCommand tag net radios call argv).actions.filterMap verdict = [] := by
  rcases textCommand_filterMap blind_verdict nonzero net radios call argv with
    silent | ⟨device, header, rest, transmitted⟩
  · exact silent
  · exact transmitted

theorem verdictOfReply_of_mem {crypto : Crypto} {net : Ieee802154} {node : NodeState}
    {call : RecvCall} {verified : Bool}
    (member : verified ∈ (recv crypto net node call).actions.filterMap verdict) :
    VerdictOfReply crypto net node call verified := by
  by_cases header : net.getFrameHdrLen (call.reception.store node.buffer) = 0
  · simp [recv, header, blind_verdict.say] at member
  · rw [recv_filterMap blind_verdict header] at member
    dsimp only at member
    rw [handlePayload] at member
    split at member
    · rw [requestToSign_filterMap blind_verdict] at member
      cases member
    · split at member
      · rename_i tagged
        rw [signReceived_filterMap blind_verdict] at member
        exact .of_tagged tagged (List.mem_singleton.mp member)
      · cases member

/-- In every run of a node, a verdict is printed only in a call of `recv` that finds the tag of a
reply behind the reported header, in the frame or, past its end, among the bytes that lay in the
buffer before; and for a reply that carries a signature and a digest it is the verdict of
`uECC_verify` on these under `l_public1`. -/
theorem reply_verdicts (crypto : Crypto) (net : Ieee802154) (node : NodeState)
    (events : List Event) :
    ∀ step ∈ steps (advance crypto net) node events,
      (∀ verified ∈ (perform crypto net step.1 step.2).actions.filterMap verdict,
        ∃ call, step.2 = .recv call ∧ VerdictOfReply crypto net step.1 call verified) ∧
      ∀ call, step.2 = .recv call → ∀ (lSig : Signature) (lHash : Digest) (rest : List UInt8)
        (_ : TaggedFrame net step.1 call 0xFE (lSig.toList ++ (lHash.toList ++ rest))),
        (perform crypto net step.1 step.2).actions.filterMap verdict =
          [crypto.uECCVerify lPublic1 lHash lSig] := by
  rintro ⟨state, event⟩ -
  constructor
  · intro verified member
    cases event with
    | txtreqsign call argv =>
        rw [perform, txtreqsign, verdicts_textCommand (by decide)] at member
        cases member
    | txtsnd call argv =>
        rw [perform, txtsnd, verdicts_textCommand (by decide)] at member
        cases member
    | recv call => exact ⟨call, rfl, verdictOfReply_of_mem member⟩
  · rintro call rfl lSig lHash rest frame
    rw [perform, recv_reply blind_verdict crypto frame]
    rfl

/-- A reply with the signature and digest of the log, received by a node that requested nothing. -/
def logReplyFrame : TaggedFrame dataFrameNet freshNode receiveLogReply 0xFE
    (logSignature.toList ++ (logDigest.toList ++ [0])) := by
  rw [← List.append_assoc]
  exact receiveTagged 0xFE (logSignature.toList ++ logDigest.toList ++ [0]) (by decide)

theorem log_reply_verdict :
    (perform sampleCrypto dataFrameNet freshNode (.recv receiveLogReply)).actions.filterMap
      verdict = [true] :=
  ((reply_verdicts sampleCrypto dataFrameNet freshNode [.recv receiveLogReply]
    (freshNode, .recv receiveLogReply) List.mem_cons_self).2 receiveLogReply rfl logSignature
      logDigest [0] logReplyFrame).trans (by decide +kernel)

/-- It attests nothing that the node requested. -/
theorem log_reply_unbound :
    ¬ RepliesBound sampleCrypto dataFrameNet freshNode [.recv receiveLogReply] := by
  intro bound
  have accepted : (recv sampleCrypto dataFrameNet freshNode receiveLogReply).actions.filterMap
      verdict = [true] := by
    rw [recv_reply blind_verdict sampleCrypto logReplyFrame]
    decide +kernel
  obtain ⟨text, requested, -⟩ := bound [] receiveLogReply [] rfl (by simp [accepted])
    logSignature logDigest [0] logReplyFrame
  cases requested

end PpmlIot.Signecc

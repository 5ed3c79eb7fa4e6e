import PpmlIot.Signecc.Receive

/-!
# The signing service

A request to sign is a frame whose payload is the tag `0xFF` and a message.  The reply is meant to
carry the message's digest and a signature of it.  The copy of `l_public1` over the digest makes
every reply carry the same 32 bytes, so the reply is right for exactly those messages whose digest
happens to be these bytes.
-/

namespace PpmlIot.Signecc

open Library

/-- The node signed the digest of `message`, and the reply handed to `send2` is the tag, the
signature so produced, that digest and a zero. -/
def AttestsMessage (crypto : Crypto) (message : List UInt8) (actions : List Action) : Prop :=
  ∃ lSig : Signature,
    actions.filterMap signingCall = [(crypto.sha256 message, some lSig)] ∧
      actions.filterMap replyData =
        [0xFE :: (lSig.toList ++ (crypto.sha256 message).toList ++ [0])]

/-- The 32 bytes that stand in the place of the digest in each reply handed to `send2`. -/
def carriedDigests (actions : List Action) : List (List UInt8) :=
  (actions.filterMap replyData).map fun data => (data.drop (1 + 64)).take 32

/-- A request to sign, as a node meets it. -/
structure SigningRequest (net : Ieee802154) where
  node : NodeState
  call : RecvCall
  message : List UInt8
  frame : TaggedFrame net node call 0xFF message

namespace SigningRequest

variable {net : Ieee802154}

def actions (crypto : Crypto) (request : SigningRequest net) : List Action :=
  (recv crypto net request.node request.call).actions

/-- Source address and PAN of the frame that carries the request. -/
def source (request : SigningRequest net) : List UInt8 × UInt16 :=
  net.getSrc (request.call.reception.store request.node.buffer)

theorem signingCalls (crypto : Crypto) (request : SigningRequest net) :
    (request.actions crypto).filterMap signingCall =
      [(lPublic1Front, request.call.uECCSign lPrivate1 lPublic1Front)] := by
  rw [actions, recv_request blind_signingCall crypto request.frame]
  rfl

theorem replies (crypto : Crypto) (request : SigningRequest net) :
    (request.actions crypto).filterMap replyData =
      [replyBytes (replySignature request.call) lPublic1Front] := by
  rw [actions, recv_request blind_replyData crypto request.frame]
  rfl

theorem transmissions (crypto : Crypto) (request : SigningRequest net) :
    (request.actions crypto).filterMap transmission =
      [(0, buildHeader net (replyDevice request.node.radios) request.source.2 request.source.1,
        replyBytes (replySignature request.call) lPublic1Front)] := by
  rw [actions, recv_request blind_transmission crypto request.frame]
  rfl

/-- Every reply carries the front half of the public key. -/
theorem carriedDigests_eq (crypto : Crypto) (request : SigningRequest net) :
    carriedDigests (request.actions crypto) = [lPublic1Front.toList] := by
  have sig_length : (replySignature request.call).toList.length = 64 :=
    (replySignature request.call).toList_length
  have hash_length : lPublic1Front.toList.length = 32 := lPublic1Front.toList_length
  rw [carriedDigests, request.replies, List.map_singleton, replyBytes, Nat.add_comm 1 64,
    List.drop_succ_cons, List.append_assoc, List.drop_left' sig_length,
    List.take_left' hash_length]

end SigningRequest

/-- A request is answered with a signature of its message's digest exactly when that digest is the
front half of the public key and the signing primitive succeeds on it; two requests are answered
with different digests whenever their messages have different digests exactly when the digests are
the same. -/
theorem request_attested_iff (crypto : Crypto) (net : Ieee802154) :
    (∀ request : SigningRequest net,
      AttestsMessage crypto request.message (request.actions crypto) ↔
        crypto.sha256 request.message = lPublic1Front ∧
          (request.call.uECCSign lPrivate1 lPublic1Front).isSome) ∧
    ∀ first second : SigningRequest net,
      (crypto.sha256 first.message ≠ crypto.sha256 second.message →
        carriedDigests (first.actions crypto) ≠ carriedDigests (second.actions crypto)) ↔
        crypto.sha256 first.message = crypto.sha256 second.message := by
  constructor
  · intro request
    rw [AttestsMessage, request.signingCalls, request.replies]
    constructor
    · rintro ⟨lSig, signed, -⟩
      obtain ⟨digest, outcome⟩ := Prod.mk.inj (List.singleton_inj.mp signed)
      exact ⟨digest.symm, by rw [outcome]; rfl⟩
    · rintro ⟨digest, success⟩
      obtain ⟨lSig, outcome⟩ := Option.isSome_iff_exists.mp success
      refine ⟨lSig, by rw [digest, outcome], ?_⟩
      rw [replySignature, outcome, digest, Option.getD_some, replyBytes]
  · intro first second
    constructor
    · intro distinct
      by_contra different
      exact distinct different (by rw [first.carriedDigests_eq, second.carriedDigests_eq])
    · intro same different
      exact absurd same different

def greetingRequest (message : List UInt8) (short : message.length = 5) :
    SigningRequest dataFrameNet where
  node := freshNode
  call := receivePayload (0xFF :: message) (by simp [short])
  message := message
  frame := receiveTagged 0xFF message (by simp [short])

/-- The message `hello` is not attested, and `world` gets the same digest although its own
differs. -/
theorem greetings_not_attested :
    let hello := greetingRequest helloBytes rfl
    let world := greetingRequest [0x77, 0x6f, 0x72, 0x6c, 0x64] rfl
    ¬ AttestsMessage sampleCrypto hello.message (hello.actions sampleCrypto) ∧
      sampleCrypto.sha256 hello.message ≠ sampleCrypto.sha256 world.message ∧
      carriedDigests (hello.actions sampleCrypto) =
        carriedDigests (world.actions sampleCrypto) := by
  refine ⟨?_, by decide +kernel, ?_⟩
  · rintro ⟨lSig, signed, -⟩
    rw [SigningRequest.signingCalls] at signed
    have digest := (Prod.mk.inj (List.singleton_inj.mp signed)).1
    exact absurd digest (by decide +kernel)
  · rw [SigningRequest.carriedDigests_eq, SigningRequest.carriedDigests_eq]

end PpmlIot.Signecc

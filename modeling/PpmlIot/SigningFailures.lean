import PpmlIot.Sensors.SensorsSign
import PpmlIot.Signecc.Node
import PpmlIot.Stm32.Node

/-!
# Signing failures

Three programs sign and emit in a loop: the `signecc` node for requests, the sensor node and the
STM32 node in every iteration.  None of them stops when the signing primitive fails, so what is
emitted then is whatever the signature variable held.  In each run every emitted signature stems
from a signing call that succeeded on the digest emitted with it exactly when no signing call fails.
-/

namespace PpmlIot

open Library

/-- The signing calls of one step of a program, with digest and outcome, and the pairs of digest and
signature that the step emits. -/
structure SigningStep (Hash Sig : Type) where
  calls : List (Hash × Option Sig)
  emitted : List (Hash × Sig)

namespace SigningStep

variable {Hash Sig : Type}

/-- Each emitted signature was produced, in the same step, by a successful call on the digest
emitted with it. -/
def Attested (step : SigningStep Hash Sig) : Prop :=
  ∀ pair ∈ step.emitted, (pair.1, some pair.2) ∈ step.calls

def Succeeds (step : SigningStep Hash Sig) : Prop :=
  ∀ call ∈ step.calls, call.2.isSome

/-- A step that calls once and emits the outcome, or a fallback, is attested if it succeeds. -/
theorem attested_iff_of_single {step : SigningStep Hash Sig} (digest : Hash)
    (outcome : Option Sig) (fallback : Sig) (calls : step.calls = [(digest, outcome)])
    (emitted : step.emitted = [(digest, outcome.getD fallback)]) :
    step.Attested ↔ step.Succeeds := by
  rw [Attested, Succeeds, calls, emitted]
  cases outcome with
  | none => simp
  | some signature => simp

/-- A step without signatures is attested and succeeds. -/
theorem attested_iff_of_nil {step : SigningStep Hash Sig} (calls : step.calls = [])
    (emitted : step.emitted = []) : step.Attested ↔ step.Succeeds := by
  simp [Attested, Succeeds, calls, emitted]

end SigningStep

namespace Signecc

/-- Digest and signature of a transmitted frame that is tagged as a reply. -/
def emittedReply : Action → Option (List UInt8 × List UInt8)
  | .transmit _ _ payload =>
      if payload.head? = some 0xFE then
        some ((payload.drop (1 + 64)).take 32, (payload.drop 1).take 64)
      else
        none
  | _ => none

def signingBytes : Action → Option (List UInt8 × Option (List UInt8))
  | .sign digest outcome => some (digest.toList, outcome.map List.Vector.toList)
  | _ => none

def signingStep (crypto : Crypto) (net : Ieee802154) (node : NodeState) (event : Event) :
    SigningStep (List UInt8) (List UInt8) where
  calls := (perform crypto net node event).actions.filterMap signingBytes
  emitted := (perform crypto net node event).actions.filterMap emittedReply

theorem blind_emittedReply : Blind emittedReply := ⟨fun _ => rfl, fun _ _ _ => rfl⟩

theorem blind_signingBytes : Blind signingBytes := ⟨fun _ => rfl, fun _ _ _ => rfl⟩

theorem emittedReply_replyBytes (device : Nat) (header : List UInt8) (lSig : Signature)
    (lHash : Digest) :
    emittedReply (.transmit device header (replyBytes lSig lHash)) =
      some (lHash.toList, lSig.toList) := by
  have sig_length : lSig.toList.length = 64 := lSig.toList_length
  have hash_length : lHash.toList.length = 32 := lHash.toList_length
  have digest : ((replyBytes lSig lHash).drop (1 + 64)).take 32 = lHash.toList := by
    rw [replyBytes, Nat.add_comm 1 64, List.drop_succ_cons, List.append_assoc,
      List.drop_left' sig_length, List.take_left' hash_length]
  have signature : ((replyBytes lSig lHash).drop 1).take 64 = lSig.toList := by
    rw [replyBytes, List.drop_one, List.tail_cons, List.append_assoc, List.take_left' sig_length]
  rw [emittedReply, digest, signature]
  rfl

/-- A command signs nothing and emits no reply. -/
theorem attested_iff_of_textCommand {tag : UInt8} (nonzero : tag ≠ 0) (no_reply : tag ≠ 0xFE)
    {net : Ieee802154} {radios : Radios} {call : CommandCall} {argv : List CString}
    {step : SigningStep (List UInt8) (List UInt8)}
    (calls : step.calls =
      (textCommand tag net radios call argv).actions.filterMap signingBytes)
    (emitted : step.emitted =
      (textCommand tag net radios call argv).actions.filterMap emittedReply) :
    step.Attested ↔ step.Succeeds := by
  apply SigningStep.attested_iff_of_nil
  · rw [calls]
    rcases textCommand_filterMap blind_signingBytes nonzero net radios call argv with
      silent | ⟨device, header, rest, transmitted⟩
    · exact silent
    · exact transmitted
  · rw [emitted]
    rcases textCommand_filterMap blind_emittedReply nonzero net radios call argv with
      silent | ⟨device, header, rest, transmitted⟩
    · exact silent
    · rw [transmitted]
      simp [emittedReply, no_reply]

/-- A reception emits a signature for a request only, and then the outcome of its signing call or
what lay on the stack. -/
theorem attested_iff_of_recv (crypto : Crypto) (net : Ieee802154) (node : NodeState)
    (call : RecvCall) :
    (signingStep crypto net node (.recv call)).Attested ↔
      (signingStep crypto net node (.recv call)).Succeeds := by
  by_cases header : net.getFrameHdrLen (call.reception.store node.buffer) = 0
  · apply SigningStep.attested_iff_of_nil <;>
      simp [signingStep, perform, recv, header, blind_signingBytes.say, blind_emittedReply.say]
  · let buffer := call.reception.store node.buffer
    let mhrLen := net.getFrameHdrLen buffer
    have calls : (signingStep crypto net node (.recv call)).calls =
        (handlePayload crypto net call buffer node.radios mhrLen
          call.reception.dataLen).1.filterMap signingBytes :=
      recv_filterMap blind_signingBytes header
    have emitted : (signingStep crypto net node (.recv call)).emitted =
        (handlePayload crypto net call buffer node.radios mhrLen
          call.reception.dataLen).1.filterMap emittedReply :=
      recv_filterMap blind_emittedReply header
    rw [handlePayload] at calls emitted
    by_cases request : buffer mhrLen = 0xFF
    · rw [if_pos request, requestToSign_filterMap blind_signingBytes] at calls
      rw [if_pos request, requestToSign_filterMap blind_emittedReply] at emitted
      apply SigningStep.attested_iff_of_single lPublic1Front.toList
        ((call.uECCSign lPrivate1 lPublic1Front).map List.Vector.toList) call.lSig.toList calls
      have transmitted : (signingStep crypto net node (.recv call)).emitted =
          (emittedReply (.transmit 0
            (buildHeader net (replyDevice node.radios) (net.getSrc buffer).2 (net.getSrc buffer).1)
            (replyBytes (replySignature call) lPublic1Front))).toList := emitted
      rw [transmitted, emittedReply_replyBytes, replySignature]
      cases call.uECCSign lPrivate1 lPublic1Front <;> rfl
    · rw [if_neg request] at calls emitted
      by_cases reply : buffer mhrLen = 0xFE
      · rw [if_pos reply, signReceived_filterMap blind_signingBytes] at calls
        rw [if_pos reply, signReceived_filterMap blind_emittedReply] at emitted
        exact SigningStep.attested_iff_of_nil calls emitted
      · rw [if_neg reply] at calls emitted
        exact SigningStep.attested_iff_of_nil calls emitted

theorem attested_iff (crypto : Crypto) (net : Ieee802154) (node : NodeState) (event : Event) :
    (signingStep crypto net node event).Attested ↔
      (signingStep crypto net node event).Succeeds := by
  cases event with
  | txtreqsign call argv => exact attested_iff_of_textCommand (by decide) (by decide) rfl rfl
  | txtsnd call argv => exact attested_iff_of_textCommand (by decide) (by decide) rfl rfl
  | recv call => exact attested_iff_of_recv crypto net node call

end Signecc

namespace Sensors

def printedHash : Action → Option Digest
  | .printHash lHash => some lHash
  | _ => none

def printedSignature : Action → Option Signature
  | .printSignature lSig => some lSig
  | _ => none

def signingStep (crypto : Crypto) (locals : Locals) (readings : Readings) :
    SigningStep Digest Signature where
  calls := (iterate crypto locals readings).1.filterMap signingCall
  emitted := ((iterate crypto locals readings).1.filterMap printedHash).zip
    ((iterate crypto locals readings).1.filterMap printedSignature)

theorem attested_iff (crypto : Crypto) (locals : Locals) (readings : Readings) :
    (signingStep crypto locals readings).Attested ↔
      (signingStep crypto locals readings).Succeeds := by
  apply SigningStep.attested_iff_of_single (lHash crypto locals readings)
    (outcome crypto locals readings) locals.lSig
  · exact iterate_filterMap (fun _ => rfl) crypto locals readings
  · have hashes : (iterate crypto locals readings).1.filterMap printedHash =
        [lHash crypto locals readings] :=
      iterate_filterMap (fun _ => rfl) crypto locals readings
    have signatures : (iterate crypto locals readings).1.filterMap printedSignature =
        [(outcome crypto locals readings).getD locals.lSig] :=
      iterate_filterMap (fun _ => rfl) crypto locals readings
    rw [signingStep, hashes, signatures]
    rfl

end Sensors

namespace Stm32

def signingCall : Action → Option (Digest × Option EcdsaSignature)
  | .sign digest outcome => some (digest, outcome)
  | _ => none

def printedSignature : Action → Option EcdsaSignature
  | .printSignature signature => some signature
  | _ => none

def signingStep (crypto : Crypto) (privateKey : Mpi) (state : LoopState)
    (ecdsaGenerateSignature : GenerateSignature) : SigningStep Digest EcdsaSignature where
  calls := (iterate crypto privateKey state ecdsaGenerateSignature).1.filterMap signingCall
  emitted :=
    ((iterate crypto privateKey state ecdsaGenerateSignature).1.filterMap printedDigest).zip
      ((iterate crypto privateKey state ecdsaGenerateSignature).1.filterMap printedSignature)

theorem attested_iff (crypto : Crypto) (privateKey : Mpi) (state : LoopState)
    (ecdsaGenerateSignature : GenerateSignature) :
    (signingStep crypto privateKey state ecdsaGenerateSignature).Attested ↔
      (signingStep crypto privateKey state ecdsaGenerateSignature).Succeeds :=
  SigningStep.attested_iff_of_single _ _ state.signature rfl rfl

end Stm32

/-- In every run of each of the three programs, the emitted signatures stem from successful calls on
the digests emitted with them exactly when every signing call of the run succeeds. -/
theorem emitted_signatures_iff (crypto : Crypto) :
    (∀ (net : Signecc.Ieee802154) (node : Signecc.NodeState) (events : List Signecc.Event),
      (∀ step ∈ steps (Signecc.advance crypto net) node events,
        (Signecc.signingStep crypto net step.1 step.2).Attested) ↔
        ∀ step ∈ steps (Signecc.advance crypto net) node events,
          (Signecc.signingStep crypto net step.1 step.2).Succeeds) ∧
    (∀ (locals : Sensors.Locals) (iterations : List Sensors.Readings),
      (∀ step ∈ steps (Sensors.loopNext crypto) locals iterations,
        (Sensors.signingStep crypto step.1 step.2).Attested) ↔
        ∀ step ∈ steps (Sensors.loopNext crypto) locals iterations,
          (Sensors.signingStep crypto step.1 step.2).Succeeds) ∧
    ∀ (privateKey : Stm32.Mpi) (signings : List Stm32.GenerateSignature),
      (∀ step ∈ steps (Stm32.loopNext crypto privateKey) Stm32.reset signings,
        (Stm32.signingStep crypto privateKey step.1 step.2).Attested) ↔
        ∀ step ∈ steps (Stm32.loopNext crypto privateKey) Stm32.reset signings,
          (Stm32.signingStep crypto privateKey step.1 step.2).Succeeds := by
  refine ⟨fun net node events => ?_, fun locals iterations => ?_, fun privateKey signings => ?_⟩
  · exact forall_steps_congr fun step => Signecc.attested_iff crypto net step.1 step.2
  · exact forall_steps_congr fun step => Sensors.attested_iff crypto step.1 step.2
  · exact forall_steps_congr fun step =>
      Stm32.attested_iff crypto privateKey step.1 step.2

/-- A request to sign `hello` during which the signing primitive fails. -/
def failedRequest : Signecc.RecvCall :=
  { Signecc.receivePayload (0xFF :: helloBytes) (by decide) with uECCSign := fun _ _ => none }

/-- The `signecc` node sends stack bytes as a signature; the sensor node and the STM32 node repeat
the signature of the iteration before with a new digest. -/
theorem failed_signing_emitted :
    (¬ ∀ step ∈ steps (Signecc.advance sampleCrypto Signecc.dataFrameNet) Signecc.freshNode
        [.recv failedRequest],
      (Signecc.signingStep sampleCrypto Signecc.dataFrameNet step.1 step.2).Attested) ∧
    (¬ ∀ step ∈ steps (Sensors.loopNext sampleCrypto) sensorLocals
        [sensorReadings fun _ _ => some logSignature, sensorReadings fun _ _ => none],
      (Sensors.signingStep sampleCrypto step.1 step.2).Attested) ∧
    ¬ ∀ step ∈ steps (Stm32.loopNext sampleCrypto ⟨[1]⟩) Stm32.reset
        [oneSignature, fun _ _ => none],
      (Stm32.signingStep sampleCrypto ⟨[1]⟩ step.1 step.2).Attested := by
  refine ⟨fun attested => ?_, fun attested => ?_, fun attested => ?_⟩
  · have succeeds := (Signecc.attested_iff sampleCrypto Signecc.dataFrameNet _ _).mp
      (attested _ List.mem_cons_self)
    have failed : (Signecc.signingStep sampleCrypto Signecc.dataFrameNet Signecc.freshNode
        (.recv failedRequest)).calls = [(lPublic1.take 32, none)] := by
      decide +kernel
    exact absurd (succeeds _ (by rw [failed]; exact List.mem_cons_self)) (by decide)
  · have succeeds := (Sensors.attested_iff sampleCrypto _ _).mp
      (attested _ (List.mem_cons_of_mem _ List.mem_cons_self))
    have failed := succeeds (_, none)
      (by
        rw [Sensors.signingStep, Sensors.iterate_filterMap fun _ => rfl]
        exact List.mem_cons_self)
    cases failed
  · have succeeds := (Stm32.attested_iff sampleCrypto ⟨[1]⟩ _ _).mp
      (attested _ (List.mem_cons_of_mem _ List.mem_cons_self))
    have failed := succeeds (_, none) List.mem_cons_self
    cases failed

end PpmlIot

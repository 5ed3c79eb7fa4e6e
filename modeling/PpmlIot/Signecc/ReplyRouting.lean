import PpmlIot.Signecc.SigningService

/-!
# Where replies go

`recv` is called with the device that received a frame and uses it for the reception only.  The
reply is sent with `send2` on device 0, and a source PAN of zero is replaced by that device's own.
-/

namespace PpmlIot.Signecc

open Library

/-- A request to sign that arrives on one of the devices. -/
structure DeviceRequest (net : Ieee802154) extends SigningRequest net where
  device : Fin node.radios.devs.length

namespace DeviceRequest

variable {net : Ieee802154}

def dev (request : DeviceRequest net) : Netdev :=
  request.node.radios.devs.get request.device

/-- The radios after the call. -/
def radiosAfter (crypto : Crypto) (request : DeviceRequest net) : Radios :=
  (recv crypto net request.node request.call).node.radios

end DeviceRequest

/-- One frame is transmitted, on the device that received the request; its header is addressed to
the request's source and carries the device's own address and sequence number; and the other devices
stay as they are. -/
structure RepliesToRequester (crypto : Crypto) {net : Ieee802154} (request : DeviceRequest net) :
    Prop where
  routed : ∃ header payload,
    (request.actions crypto).filterMap transmission = [(request.device.val, header, payload)] ∧
      ∀ memory : Memory, memory.slice 0 header.length = header →
        net.getDst memory = request.source ∧
          (net.getSrc memory).1 = ownAddr net request.dev ∧ net.getSeq memory = request.dev.seq
  others : ∀ index, index ≠ request.device.val →
    (request.radiosAfter crypto).devs[index]? = request.node.radios.devs[index]?

namespace DeviceRequest

variable {net : Ieee802154}

/-- A request uses up a sequence number of device 0, and changes nothing else. -/
theorem radiosAfter_eq (crypto : Crypto) (request : DeviceRequest net) :
    request.radiosAfter crypto =
      let dev := replyDevice request.node.radios
      request.node.radios.update 0 { dev with seq := dev.seq + 1 } := by
  have frame := request.frame
  have branch : request.radiosAfter crypto =
      (handlePayload crypto net request.call (request.call.reception.store request.node.buffer)
        request.node.radios frame.header.length request.call.reception.dataLen).2 := by
    rw [radiosAfter, recv, if_neg (frame.reported.trans_ne frame.accepted), frame.reported]
  rw [branch, handlePayload, if_pos frame.tag_eq]
  exact sendFrame_radios (unsigned_zero_lt request.node.radios)

end DeviceRequest

/-- The request came in on device 0, and its source PAN is one that `send2` does not replace by
another. -/
def Routable {net : Ieee802154} (request : DeviceRequest net) : Prop :=
  request.device.val = 0 ∧
    (request.source.2 ≠ 0 ∨ (replyDevice request.node.radios).pan = 0)

theorem effectivePan_eq_iff {dev : Netdev} {dstPan : UInt16} :
    effectivePan dev dstPan = dstPan ↔ dstPan ≠ 0 ∨ dev.pan = 0 := by
  rw [effectivePan, srcPan_eq]
  by_cases zero : dstPan = 0
  · simp [zero]
  · simp [zero]

/-- A request from an address of two or eight bytes is answered to its sender exactly when it came
in on device 0 with a source PAN other than zero, or zero like that of the device. -/
theorem reply_routing_iff (crypto : Crypto) (net : Ieee802154) (builds : BuildsHeaders net)
    (encodes : EncodesHeaders net) (request : DeviceRequest net)
    (source : EncodableAddr request.source.1) :
    RepliesToRequester crypto request ↔ Routable request := by
  let dev := replyDevice request.node.radios
  let reply := buildHeader net dev request.source.2 request.source.1
  have built : reply ≠ [] := builds.ne_nil dev _ source
  have fields (memory : Memory) (whole : memory.slice 0 reply.length = reply) :=
    encodes.fields built whole
  have addressed := source.ne_nil
  constructor
  · rintro ⟨⟨header, payload, sent, decoded⟩, -⟩
    rw [request.transmissions, List.singleton_inj, Prod.mk.injEq, Prod.mk.injEq] at sent
    obtain ⟨device, rfl, -⟩ := sent
    have whole := Memory.slice_write_self (fun _ => 0) 0 reply
    have destination := (decoded _ whole).1
    have pan := (fields _ whole).2.1 addressed
    rw [destination] at pan
    exact ⟨device.symm, effectivePan_eq_iff.mp pan.symm⟩
  · rintro ⟨device, pan⟩
    have same : request.dev = dev := by
      rw [DeviceRequest.dev]
      congr 1
      exact Fin.ext device
    constructor
    · refine ⟨reply, replyBytes (replySignature request.call) lPublic1Front, ?_, ?_⟩
      · rw [request.transmissions, device]
      · intro memory whole
        obtain ⟨dst, dst_pan, src, seq⟩ := fields memory whole
        rw [same]
        refine ⟨Prod.ext dst ?_, congrArg Prod.fst src, seq⟩
        rw [dst_pan addressed, effectivePan_eq_iff]
        exact pan
    · intro index other
      rw [device] at other
      rw [request.radiosAfter_eq, Radios.update, List.getElem?_set_ne other.symm]

def twoRadioNode : NodeState :=
  let first := replyDevice freshNode.radios
  { freshNode with
    radios :=
      ⟨[first,
          { first with
            longAddr := ⟨[9, 2, 3, 4, 5, 6, 7, 8], rfl⟩
            shortAddr := ⟨[7, 9], rfl⟩ }],
        by simp⟩ }

theorem length_helloRequest : (0xFF :: helloBytes).length ≤ 118 := by decide

/-- The request to sign `hello` from address `12:34`, received on one of the radios. -/
def helloOn (device : Fin 2) : DeviceRequest dataFrameNet where
  node := twoRadioNode
  call := receivePayload (0xFF :: helloBytes) length_helloRequest
  message := helloBytes
  frame :=
    let frame := receiveTagged 0xFF helloBytes length_helloRequest
    { header := frame.header
      fits := frame.fits
      received := frame.received
      reported := frame.reported
      accepted := frame.accepted }
  device := device

theorem source_helloOn (device : Fin 2) : (helloOn device).source = ([0x12, 0x34], 0x0023) := by
  decide +kernel +revert

theorem first_radio_replies : RepliesToRequester sampleCrypto (helloOn 0) := by
  apply (reply_routing_iff sampleCrypto dataFrameNet buildsHeaders_dataFrameNet
    encodesHeaders_dataFrameNet (helloOn 0) (.inl (by rw [source_helloOn]; rfl))).mpr
  exact ⟨rfl, .inl (by rw [source_helloOn]; decide)⟩

/-- A request on the second radio is answered on the first. -/
theorem second_radio_not_replied : ¬ RepliesToRequester sampleCrypto (helloOn 1) := by
  rintro ⟨⟨header, payload, sent, -⟩, -⟩
  rw [SigningRequest.transmissions, List.singleton_inj, Prod.mk.injEq] at sent
  exact absurd sent.1 (by decide)

end PpmlIot.Signecc

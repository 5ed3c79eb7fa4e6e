import PpmlIot.Signecc.Command
import PpmlIot.Signecc.Receive

/-!
# From a command to a receiver

`send` measures `dataBuffer` with `strlen`, and nothing terminates the text copied into it.  The
payload is the tag and the text exactly when the byte left on the stack right behind the text is
NUL; then a node that receives the frame dispatches on the tag and, for a request, hashes the text.
-/

namespace PpmlIot.Signecc

open Library

/-- A `txtreqsign` or `txtsnd` command that names an existing interface and an address of two or
eight bytes, with a text that fits a frame. -/
structure TextRequest (net : Ieee802154) where
  radios : Radios
  call : CommandCall
  argv : List CString
  arguments : Arguments
  parsed : parseArguments call.addr argv = some arguments
  valid_iface : unsigned arguments.iface < radios.devs.length
  valid_addr : EncodableAddr arguments.addr
  fits : (buildHeader net (radios.devs.get ⟨unsigned arguments.iface, valid_iface⟩) arguments.pan
    arguments.addr).length + 1 + arguments.text.bytes.length ≤ maxPktLength

/-- The driver is handed the tag and the text as payload, and any node that receives the frame
unchanged dispatches on the tag and hashes the text of a request. -/
structure RoundTrip (crypto : Crypto) (net : Ieee802154) (tag : UInt8) (text : List UInt8)
    (actions : List Action) : Prop where
  handed : (actions.filterMap transmission).map (fun frame => frame.2.2) = [tag :: text]
  received : ∀ frame ∈ actions.filterMap transmission, ∀ (node : NodeState) (call : RecvCall)
    (fits : (frame.2.1 ++ frame.2.2).length ≤ maxPktLength),
    call.reception = .frame (frame.2.1 ++ frame.2.2) fits →
      (recv crypto net node call).actions.filterMap dispatchedTag = [tag] ∧
        (tag = 0xFF → (recv crypto net node call).actions.filterMap hashedMessage = [text])

namespace TextRequest

variable {net : Ieee802154}

def text (request : TextRequest net) : List UInt8 :=
  request.arguments.text.bytes

def header (request : TextRequest net) : List UInt8 :=
  buildHeader net (request.radios.devs.get ⟨_, request.valid_iface⟩) request.arguments.pan
    request.arguments.addr

/-- The bytes left on the stack behind the text. -/
def leftover (request : TextRequest net) : List UInt8 :=
  (request.call.dataBuffer.bytes.toList ++ request.call.dataBuffer.beyond).drop
    (1 + request.text.length)

theorem length_lt (request : TextRequest net) : 1 + request.text.length < 512 := by
  have fits := request.fits
  rw [maxPktLength] at fits
  rw [text]
  omega

theorem head_leftover (request : TextRequest net) :
    request.leftover.head? = request.call.dataBuffer.bytes.toList[1 + request.text.length]? := by
  rw [leftover, List.head?_drop, List.getElem?_append_left]
  rw [request.call.dataBuffer.bytes.toList_length]
  exact request.length_lt

/-- Exactly one frame is handed to the driver; its payload goes on behind the text up to the first
NUL left on the stack. -/
theorem transmissions (request : TextRequest net) {tag : UInt8} (nonzero : tag ≠ 0) :
    (textCommand tag net request.radios request.call request.argv).actions.filterMap
        transmission =
      [(unsigned request.arguments.iface, request.header,
        tag :: request.text ++ Memory.cString request.leftover)] := by
  rw [textCommand, request.parsed]
  simp only [send]
  rw [sendFrame_filterMap blind_transmission net _ request.valid_iface,
    cString_fillBuffer nonzero]
  rfl

/-- Nothing stands behind the text exactly when the byte behind it is NUL. -/
theorem cString_leftover_eq_nil_iff (request : TextRequest net) :
    Memory.cString request.leftover = [] ↔
      request.call.dataBuffer.bytes.toList[1 + request.text.length]? = some 0 := by
  have inside : 1 + request.text.length < request.call.dataBuffer.bytes.toList.length := by
    rw [request.call.dataBuffer.bytes.toList_length]
    exact request.length_lt
  rw [Memory.cString_eq_nil_iff, request.head_leftover, List.getElem?_eq_getElem inside]
  simp

theorem header_reported (builds : BuildsHeaders net) (request : TextRequest net) :
    Reported net request.header :=
  builds.reported (request.radios.devs.get ⟨_, request.valid_iface⟩) request.arguments.pan
    request.valid_addr

theorem roundTrip_iff (crypto : Crypto) (builds : BuildsHeaders net) (request : TextRequest net)
    {tag : UInt8} (command : tag = 0xFF ∨ tag = 0xEE) :
    RoundTrip crypto net tag request.text
        (textCommand tag net request.radios request.call request.argv).actions ↔
      request.call.dataBuffer.bytes.toList[1 + request.text.length]? = some 0 := by
  have nonzero : tag ≠ 0 := by
    rcases command with rfl | rfl <;> decide
  rw [← request.cString_leftover_eq_nil_iff]
  constructor
  · rintro ⟨handed, -⟩
    rw [request.transmissions nonzero, List.map_singleton, List.singleton_inj,
      List.append_right_eq_self] at handed
    exact handed
  · intro terminated
    have frames := request.transmissions nonzero
    rw [terminated, List.append_nil] at frames
    constructor
    · rw [frames]
      rfl
    · rw [frames]
      intro frame member node call fits received
      obtain rfl := List.mem_singleton.mp member
      have tagged :=
        TaggedFrame.ofReported (request.header_reported builds) node call tag request.text fits
          received
      rcases command with rfl | rfl
      · rw [recv_request blind_dispatchedTag crypto tagged,
          recv_request blind_hashedMessage crypto tagged]
        exact ⟨rfl, fun _ => rfl⟩
      · refine ⟨?_, fun wrong => absurd wrong (by decide)⟩
        rw [tagged.recv_filterMap blind_dispatchedTag, handlePayload, tagged.tag_eq,
          if_neg (by decide), if_neg (by decide)]
        rfl

end TextRequest

/-- A text sent with `txtreqsign` or `txtsnd` to an address of two or eight bytes arrives under its
tag, and unchanged, exactly when the byte left in `dataBuffer` right behind it is NUL. -/
theorem text_round_trip_iff (crypto : Crypto) (net : Ieee802154) (builds : BuildsHeaders net)
    (request : TextRequest net) :
    (RoundTrip crypto net 0xFF request.text
        (txtreqsign net request.radios request.call request.argv).actions ↔
      request.call.dataBuffer.bytes.toList[1 + request.text.length]? = some 0) ∧
    (RoundTrip crypto net 0xEE request.text
        (txtsnd net request.radios request.call request.argv).actions ↔
      request.call.dataBuffer.bytes.toList[1 + request.text.length]? = some 0) :=
  ⟨request.roundTrip_iff crypto builds (.inl rfl), request.roundTrip_iff crypto builds (.inr rfl)⟩

/-- The command line `txtreqsign 0 12:34 hello`. -/
def helloArgv : List CString :=
  [⟨[0x74, 0x78, 0x74, 0x72, 0x65, 0x71, 0x73, 0x69, 0x67, 0x6e], by decide⟩, ⟨[0x30], by decide⟩,
    ⟨[0x31, 0x32, 0x3a, 0x33, 0x34], by decide⟩, ⟨helloBytes, by decide⟩]

/-- The last word of this command line. -/
def helloText : CString := ⟨helloBytes, by decide⟩

theorem parseArguments_helloArgv : parseArguments (fun _ => 0) helloArgv =
    some { iface := 0, pan := 0, addr := [0x12, 0x34], text := ⟨helloBytes, by decide⟩ } := by
  decide +kernel

/-- The command on a node with one radio and one value in every byte left in `dataBuffer`. -/
def helloRequest (stack : UInt8) : TextRequest dataFrameNet where
  radios := freshNode.radios
  call :=
    { addr := fun _ => 0
      dataBuffer := ⟨List.Vector.replicate 512 stack, []⟩
      driverSend := fun _ _ => 0 }
  argv := helloArgv
  arguments := { iface := 0, pan := 0, addr := [0x12, 0x34], text := ⟨helloBytes, by decide⟩ }
  parsed := parseArguments_helloArgv
  valid_iface := by decide
  valid_addr := .inl rfl
  fits := by decide

/-- On a zeroed stack the text arrives. -/
theorem text_round_trip_hello :
    RoundTrip sampleCrypto dataFrameNet 0xFF helloBytes
      (txtreqsign dataFrameNet (helloRequest 0).radios (helloRequest 0).call
        (helloRequest 0).argv).actions :=
  (text_round_trip_iff sampleCrypto dataFrameNet buildsHeaders_dataFrameNet
    (helloRequest 0)).1.mpr (by decide)

/-- On a stack full of the letter `A` the payload is longer than the text. -/
theorem hello_not_round_trip :
    ¬ RoundTrip sampleCrypto dataFrameNet 0xFF helloBytes
      (txtreqsign dataFrameNet (helloRequest 0x41).radios (helloRequest 0x41).call
        (helloRequest 0x41).argv).actions := by
  intro arrives
  have terminated := ((helloRequest 0x41).roundTrip_iff sampleCrypto buildsHeaders_dataFrameNet
    (.inl rfl)).mp arrives
  revert terminated
  decide

end PpmlIot.Signecc

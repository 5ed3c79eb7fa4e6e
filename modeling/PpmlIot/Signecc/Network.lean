import PpmlIot.Library.Medium
import PpmlIot.Signecc.CommandRoundTrip
import PpmlIot.Signecc.Node

/-!
# Nodes over the air

Any number of nodes exchange requests, texts and replies.  A node receives frames that some node
transmitted, in any order and any number of times, and its driver may fail at any time; `recv` then
handles what the buffer still holds from an earlier frame.  The commands typed name addresses of two
or eight bytes: to any other address the text goes out without a header, and it can then pass for
any frame.
-/

namespace PpmlIot.Signecc

open Library

/-- A frame handed to a driver: the node, what it was doing, the device, the header and the
payload. -/
structure Sent (Party : Type*) where
  party : Party
  event : Event
  device : Nat
  header : List UInt8
  payload : List UInt8

def Sent.frame {Party : Type*} (sent : Sent Party) : List UInt8 :=
  sent.header ++ sent.payload

/-- The command is refused or names an address of two or eight bytes. -/
def Addressed (call : CommandCall) (argv : List CString) : Prop :=
  ∀ arguments, parseArguments call.addr argv = some arguments → EncodableAddr arguments.addr

/-- The driver returns an error. -/
def Reception.Failed : Reception → Prop
  | .error _ _ _ => True
  | .frame _ _ => False

/-- What happens without a frame: a command that is refused or names an address of two or eight
bytes, or a call of `recv` in which the driver fails. -/
def Spontaneous : Event → Prop
  | .txtreqsign call argv => Addressed call argv
  | .txtsnd call argv => Addressed call argv
  | .recv call => call.reception.Failed

section Network

variable {Party : Type*}

/-- The reception of a frame that was sent. -/
def Arrives (event : Event) (sent : Sent Party) : Prop :=
  ∃ call fits, event = .recv call ∧ call.reception = .frame sent.frame fits

/-- The frames handed to drivers by a list of actions. -/
def transmitted (party : Party) (event : Event) (actions : List Action) : List (Sent Party) :=
  (actions.filterMap transmission).map fun (device, header, payload) =>
    { party, event, device, header, payload }

def network (Party : Type*) (crypto : Crypto) (net : Ieee802154) :
    Protocol Party NodeState Event (Sent Party) where
  react party node event :=
    let run := perform crypto net node event
    (run.node, transmitted party event run.actions)
  arrives := Arrives
  spontaneous := Spontaneous

/-- The nodes have just started: nothing was sent or received. -/
structure Started (start : World Party NodeState (Sent Party)) : Prop where
  silent : start.air = []
  blank : ∀ party address, (start.states party).buffer address = 0

/-- The buffer holds nothing yet, or a frame of the air at its start. -/
def Holds (air : List (Sent Party)) (buffer : Memory) : Prop :=
  (∀ address, buffer address = 0) ∨
    ∃ sent ∈ air, buffer.slice 0 sent.frame.length = sent.frame

theorem Holds.append {air : List (Sent Party)} {buffer : Memory} (holds : Holds air buffer)
    (later : List (Sent Party)) : Holds (air ++ later) buffer := by
  rcases holds with blank | ⟨sent, member, held⟩
  · exact .inl blank
  · exact .inr ⟨sent, List.mem_append_left later member, held⟩

theorem buffer_recv (crypto : Crypto) (net : Ieee802154) (node : NodeState) (call : RecvCall) :
    (recv crypto net node call).node.buffer = call.reception.store node.buffer := by
  rw [recv]
  split <;> rfl

/-- A frame received from the air is at the start of the buffer, and after a failure the buffer
holds what it held before. -/
theorem Holds.store {air : List (Sent Party)} {node : NodeState} {call : RecvCall}
    (holds : Holds air node.buffer)
    (possible : call.reception.Failed ∨ ∃ sent ∈ air, Arrives (.recv call) sent) :
    Holds air (call.reception.store node.buffer) := by
  rcases possible with failed | ⟨sent, member, same, fits, event, received⟩
  · cases reception : call.reception with
    | error errno positive int => exact holds
    | frame bytes fits => simp [reception, Reception.Failed] at failed
  · obtain rfl : call = same := by simpa using event
    refine .inr ⟨sent, member, ?_⟩
    rw [received]
    exact Memory.slice_write_self node.buffer 0 sent.frame

section Buffer

variable {β : Type*} {pick : Action → Option β} {net : Ieee802154} {node : NodeState}
  {call : RecvCall}

/-- A buffer of zeros asks for nothing. -/
theorem recv_blank (crypto : Crypto) (blind : Blind pick)
    (dispatched : ∀ tag, pick (.dispatch tag) = none)
    (blank : ∀ address, call.reception.store node.buffer address = 0) :
    (recv crypto net node call).actions.filterMap pick = [] := by
  by_cases header : net.getFrameHdrLen (call.reception.store node.buffer) = 0
  · simp [recv, header, blind.say]
  · rw [recv_filterMap blind header]
    dsimp only
    rw [dispatched, handlePayload, blank, if_neg (by decide), if_neg (by decide)]
    simp [blind.say]

/-- `recv` takes the branch for the tag of the frame at the start of the buffer. -/
theorem recv_held (crypto : Crypto) (blind : Blind pick)
    (dispatched : ∀ tag, pick (.dispatch tag) = none)
    {header body : List UInt8} {tag : UInt8} (reported : Reported net header)
    (held : (call.reception.store node.buffer).slice 0 (header ++ tag :: body).length =
      header ++ tag :: body) :
    (recv crypto net node call).actions.filterMap pick =
      if tag = 0xFF then
        (requestToSign crypto net call (call.reception.store node.buffer) node.radios
          header.length call.reception.dataLen).1.filterMap pick
      else if tag = 0xFE then
        (signReceived crypto (call.reception.store node.buffer) header.length).filterMap pick
      else [] := by
  have front := Memory.slice_middle [] header (tag :: body) held
  have found := Memory.slice_middle header [tag] body held
  have header_eq := reported.2 _ front
  have tag_eq : call.reception.store node.buffer header.length = tag := by
    simpa [Memory.slice] using found
  rw [recv_filterMap blind (header_eq.trans_ne reported.1)]
  dsimp only
  rw [dispatched, header_eq, handlePayload, tag_eq]
  split
  · rfl
  · split
    · rfl
    · simp [blind.say]

end Buffer

/-- A reply, and the request it answers: the request was sent by a `txtreqsign` command, the reply
carries the signature made when the request was handled, and it is addressed to the request's source
address, on the request's PAN or, if that is zero, on the replier's own. -/
structure Answers (net : Ieee802154) (request reply : Sent Party) : Prop where
  asked : ∃ call argv text, request.event = .txtreqsign call argv ∧ request.payload = 0xFF :: text
  answered : ∃ call, reply.event = .recv call ∧
    reply.payload = replyBytes (replySignature call) lPublic1Front
  device : reply.device = 0
  addressed : ∀ there back : Memory, there.slice 0 request.header.length = request.header →
    back.slice 0 reply.header.length = reply.header →
      (net.getDst back).1 = (net.getSrc there).1 ∧
        (net.getDst back).2 =
          if (net.getSrc there).2 = 0 then (net.getSrc back).2 else (net.getSrc there).2

/-- What a frame was sent for, after the frames in front of it. -/
inductive Purpose (net : Ieee802154) (front : List (Sent Party)) (sent : Sent Party) : Prop
  | request (call : CommandCall) (argv : List CString) (text : List UInt8)
      (event : sent.event = .txtreqsign call argv) (payload : sent.payload = 0xFF :: text)
  | text (call : CommandCall) (argv : List CString) (text : List UInt8)
      (event : sent.event = .txtsnd call argv) (payload : sent.payload = 0xEE :: text)
  | reply (request : Sent Party) (earlier : request ∈ front) (answers : Answers net request sent)

/-- A frame with a header for an address of two or eight bytes, sent for a purpose. -/
structure Explained (net : Ieee802154) (front : List (Sent Party)) (sent : Sent Party) :
    Prop where
  header : ∃ dev dstPan dst, EncodableAddr dst ∧
    sent.header = buildHeader net dev dstPan dst
  purpose : Purpose net front sent

theorem Purpose.append {net : Ieee802154} {front : List (Sent Party)} {sent : Sent Party}
    (purpose : Purpose net front sent) (later : List (Sent Party)) :
    Purpose net (front ++ later) sent := by
  cases purpose with
  | request call argv text event payload => exact .request call argv text event payload
  | text call argv text event payload => exact .text call argv text event payload
  | reply request earlier answers =>
      exact .reply request (List.mem_append_left later earlier) answers

theorem head?_replyBytes (lSig : Signature) (lHash : Digest) :
    (replyBytes lSig lHash).head? = some 0xFE := rfl

section Reactions

variable {crypto : Crypto} {net : Ieee802154}

theorem mem_transmitted {party : Party} {event : Event} {actions : List Action}
    {sent : Sent Party} (member : sent ∈ transmitted party event actions) :
    sent.event = event ∧
      (sent.device, sent.header, sent.payload) ∈ actions.filterMap transmission := by
  obtain ⟨frame, frame_mem, rfl⟩ := List.mem_map.mp member
  exact ⟨rfl, frame_mem⟩

/-- What a command transmits is explained by itself. -/
theorem explained_of_textCommand {tag : UInt8} (nonzero : tag ≠ 0) {radios : Radios}
    {call : CommandCall} {argv : List CString} (addressed : Addressed call argv)
    {device : Nat} {header payload : List UInt8}
    (member : (device, header, payload) ∈
      (textCommand tag net radios call argv).actions.filterMap transmission) :
    (∃ dev dstPan dst, EncodableAddr dst ∧
      header = buildHeader net dev dstPan dst) ∧ ∃ text, payload = tag :: text := by
  rcases textCommand_transmissions nonzero net radios call argv with
    silent | ⟨arguments, inside, rest, parsed, transmissions⟩
  · rw [silent] at member
    cases member
  · rw [transmissions, List.mem_singleton, Prod.mk.injEq, Prod.mk.injEq] at member
    obtain ⟨-, rfl, rfl⟩ := member
    exact ⟨⟨_, _, _, addressed arguments parsed, rfl⟩, rest, rfl⟩

/-- The frame at the start of the buffer decides what is transmitted: one reply for a request, and
nothing for anything else. -/
theorem transmissions_of_held (crypto : Crypto) (builds : BuildsHeaders net) {node : NodeState}
    {call : RecvCall} {front : List (Sent Party)} {sent : Sent Party}
    (explained : Explained net front sent)
    (held : (call.reception.store node.buffer).slice 0 sent.frame.length = sent.frame) :
    (recv crypto net node call).actions.filterMap transmission =
      if sent.payload.head? = some 0xFF then
        let source := net.getSrc (call.reception.store node.buffer)
        [(0, buildHeader net (replyDevice node.radios) source.2 source.1,
          replyBytes (replySignature call) lPublic1Front)]
      else [] := by
  obtain ⟨dev, dstPan, dst, encodable, header⟩ := explained.header
  have reported : Reported net sent.header := header ▸ builds.reported dev dstPan encodable
  have branch {tag : UInt8} {body : List UInt8} (payload : sent.payload = tag :: body) :=
    recv_held crypto blind_transmission (fun _ => rfl) reported
      (by rwa [Sent.frame, payload] at held)
  cases explained.purpose with
  | request _ _ text _ payload =>
      rw [branch payload, if_pos rfl, payload, List.head?_cons, if_pos rfl,
        requestToSign_filterMap blind_transmission]
      rfl
  | text _ _ text _ payload =>
      rw [branch payload, if_neg (by decide), if_neg (by decide), payload, List.head?_cons,
        if_neg (by decide)]
  | reply _ _ answers =>
      obtain ⟨_, _, payload⟩ := answers.answered
      rw [branch payload, if_neg (by decide), if_pos rfl, payload, head?_replyBytes,
        if_neg (by decide), signReceived_filterMap blind_transmission]
      rfl

/-- Signature and digest of a reply lie where `recv` looks for them. -/
theorem parts_of_reply {buffer : Memory} {header : List UInt8} {lSig : Signature} {lHash : Digest}
    (held : buffer.slice 0 (header ++ replyBytes lSig lHash).length =
      header ++ replyBytes lSig lHash) :
    readArray buffer (header.length + 1) 64 = lSig ∧
      readArray buffer (header.length + 64 + 1) 32 = lHash := by
  have sig_length : lSig.toList.length = 64 := lSig.toList_length
  have hash_length : lHash.toList.length = 32 := lHash.toList_length
  have layout : header ++ replyBytes lSig lHash =
      (header ++ [0xFE]) ++ (lSig.toList ++ (lHash.toList ++ [0])) := by simp [replyBytes]
  rw [layout] at held
  have signature := Memory.slice_middle (header ++ [0xFE]) lSig.toList _ held
  have digest := Memory.slice_middle (header ++ [0xFE] ++ lSig.toList) lHash.toList [0]
    (by simpa only [List.append_assoc] using held)
  rw [List.length_append, List.length_singleton, sig_length] at signature
  rw [List.length_append, List.length_append, List.length_singleton, sig_length,
    hash_length, Nat.add_right_comm] at digest
  exact ⟨Subtype.ext signature, Subtype.ext digest⟩

/-- Likewise it decides the verdict: that of `uECC_verify` on what a reply carries. -/
theorem verdicts_of_held (crypto : Crypto) (builds : BuildsHeaders net) {node : NodeState}
    {call : RecvCall} {front : List (Sent Party)} {sent : Sent Party}
    (explained : Explained net front sent)
    (held : (call.reception.store node.buffer).slice 0 sent.frame.length = sent.frame) :
    (∃ signing, sent.event = .recv signing ∧ sent.payload.head? = some 0xFE ∧
      (recv crypto net node call).actions.filterMap verdict =
        [crypto.uECCVerify lPublic1 lPublic1Front (replySignature signing)]) ∨
      sent.payload.head? ≠ some 0xFE ∧
        (recv crypto net node call).actions.filterMap verdict = [] := by
  obtain ⟨dev, dstPan, dst, encodable, header⟩ := explained.header
  have reported : Reported net sent.header := header ▸ builds.reported dev dstPan encodable
  have branch {tag : UInt8} {body : List UInt8} (payload : sent.payload = tag :: body) :=
    recv_held crypto blind_verdict (fun _ => rfl) reported
      (by rwa [Sent.frame, payload] at held)
  cases explained.purpose with
  | request _ _ text _ payload =>
      right
      rw [branch payload, if_pos rfl, payload, requestToSign_filterMap blind_verdict]
      exact ⟨by simp, rfl⟩
  | text _ _ text _ payload =>
      right
      rw [branch payload, if_neg (by decide), if_neg (by decide), payload]
      exact ⟨by simp, rfl⟩
  | reply _ _ answers =>
      obtain ⟨signing, event, payload⟩ := answers.answered
      refine .inl ⟨signing, event, by rw [payload, head?_replyBytes], ?_⟩
      obtain ⟨signature, digest⟩ := parts_of_reply (by rwa [Sent.frame, payload] at held)
      rw [branch payload, if_neg (by decide), if_pos rfl, signReceived_filterMap blind_verdict,
        signature, digest]
      rfl

/-- The reply to a request at the start of the buffer answers it. -/
theorem answers_of_held (builds : BuildsHeaders net) (encodes : EncodesHeaders net)
    {node : NodeState} {call : RecvCall} {front : List (Sent Party)} {request reply : Sent Party}
    (explained : Explained net front request) (asks : request.payload.head? = some 0xFF)
    (held : (call.reception.store node.buffer).slice 0 request.frame.length = request.frame)
    (event : reply.event = .recv call) (device : reply.device = 0)
    (header : reply.header = buildHeader net (replyDevice node.radios)
      (net.getSrc (call.reception.store node.buffer)).2
      (net.getSrc (call.reception.store node.buffer)).1)
    (payload : reply.payload = replyBytes (replySignature call) lPublic1Front) :
    (∃ dev dstPan dst, EncodableAddr dst ∧
      reply.header = buildHeader net dev dstPan dst) ∧ Answers net request reply := by
  obtain ⟨dev, dstPan, dst, encodable, request_header⟩ := explained.header
  have source (there : Memory) (whole : there.slice 0 request.header.length = request.header) :
      net.getSrc there = (ownAddr net dev, srcPan dev) := by
    rw [request_header] at whole
    exact (encodes.fields (builds.ne_nil dev dstPan encodable) whole).2.2.1
  rw [source _ (Memory.slice_middle [] request.header request.payload held)] at header
  have own := encodableAddr_ownAddr net dev
  refine ⟨⟨_, _, _, own, header⟩, ?_, ⟨call, event, payload⟩, device, ?_⟩
  · cases explained.purpose with
    | request asking argv text event payload => exact ⟨asking, argv, text, event, payload⟩
    | text _ _ _ _ payload => simp [payload] at asks
    | reply _ _ answers =>
        obtain ⟨_, _, payload⟩ := answers.answered
        rw [payload, head?_replyBytes] at asks
        simp at asks
  · intro there back there_whole back_whole
    rw [header] at back_whole
    obtain ⟨dst_eq, dst_pan, src_eq, -⟩ :=
      encodes.fields (builds.ne_nil (replyDevice node.radios) (srcPan dev) own) back_whole
    rw [source there there_whole, src_eq, dst_eq, dst_pan own.ne_nil]
    exact ⟨rfl, rfl⟩

variable (Party) in
/-- In every run each frame is explained by frames before it. -/
theorem network_traces (crypto : Crypto) (builds : BuildsHeaders net)
    (encodes : EncodesHeaders net) :
    (network Party crypto net).Traces (fun air node => Holds air node.buffer)
      (Explained net) where
  keeps_grows air later node holds := holds.append later
  cause_grows air later sent explained := ⟨explained.header, explained.purpose.append later⟩
  reacts air party node event justified holds possible := by
    cases event with
    | txtreqsign call argv =>
        have addressed : Addressed call argv := by
          rcases possible with addressed | ⟨_, -, _, _, wrong, -⟩
          · exact addressed
          · cases wrong
        refine ⟨holds, fun sent member => ?_⟩
        obtain ⟨event, member⟩ := mem_transmitted member
        obtain ⟨header, text, payload⟩ := explained_of_textCommand (by decide) addressed member
        exact ⟨header, .request call argv text event payload⟩
    | txtsnd call argv =>
        have addressed : Addressed call argv := by
          rcases possible with addressed | ⟨_, -, _, _, wrong, -⟩
          · exact addressed
          · cases wrong
        refine ⟨holds, fun sent member => ?_⟩
        obtain ⟨event, member⟩ := mem_transmitted member
        obtain ⟨header, text, payload⟩ := explained_of_textCommand (by decide) addressed member
        exact ⟨header, .text call argv text event payload⟩
    | recv call =>
        have stored : Holds air (call.reception.store node.buffer) := holds.store possible
        refine ⟨(buffer_recv crypto net node call).symm ▸ stored, fun sent member => ?_⟩
        obtain ⟨event, member⟩ := mem_transmitted member
        change (sent.device, sent.header, sent.payload) ∈
          (recv crypto net node call).actions.filterMap transmission at member
        rcases stored with blank | ⟨heard, heard_mem, held⟩
        · rw [recv_blank crypto blind_transmission (fun _ => rfl) blank] at member
          cases member
        · obtain ⟨front, before, explained⟩ := justified.of_mem heard_mem
          rw [transmissions_of_held crypto builds explained held] at member
          split at member
          · rename_i asks
            rw [List.mem_singleton, Prod.mk.injEq, Prod.mk.injEq] at member
            obtain ⟨device, header, payload⟩ := member
            obtain ⟨built, answers⟩ :=
              answers_of_held builds encodes explained asks held event device header payload
            exact ⟨built, .reply heard heard_mem answers⟩
          · cases member

end Reactions

section Runs

variable {crypto : Crypto} {net : Ieee802154} {start : World Party NodeState (Sent Party)}
  {occurrences : List (Occurrence Party Event)}

theorem Started.traced (started : Started start) :
    Protocol.Traced (fun air node => Holds air node.buffer) (Explained net) start where
  kept party := .inl (started.blank party)
  justified := started.silent ▸ Protocol.justified_nil

/-- A frame with the tag of a reply answers an earlier request. -/
theorem Explained.answers {front : List (Sent Party)} {sent : Sent Party}
    (explained : Explained net front sent) (replies : sent.payload.head? = some 0xFE) :
    ∃ request ∈ front, Answers net request sent := by
  cases explained.purpose with
  | request _ _ _ _ payload => simp [payload] at replies
  | text _ _ _ _ payload => simp [payload] at replies
  | reply request earlier answers => exact ⟨request, earlier, answers⟩

/-- Signing succeeds, with a signature that is accepted. -/
def Signs (crypto : Crypto) (call : RecvCall) : Prop :=
  ∃ lSig, call.uECCSign lPrivate1 lPublic1Front = some lSig ∧
    crypto.uECCVerify lPublic1 lPublic1Front lSig = true

theorem Signs.verified {call : RecvCall} (signs : Signs crypto call) :
    crypto.uECCVerify lPublic1 lPublic1Front (replySignature call) = true := by
  obtain ⟨lSig, outcome, accepted⟩ := signs
  rw [replySignature, outcome]
  exact accepted

/-- The verdicts printed at an occurrence. -/
def verdictsAt (crypto : Crypto) (net : Ieee802154) (world : World Party NodeState (Sent Party))
    (occurrence : Occurrence Party Event) : List Bool :=
  (perform crypto net (world.states occurrence.party) occurrence.event).actions.filterMap verdict

/-- A frame with the tag of a reply. -/
def Sent.replies (sent : Sent Party) : Bool :=
  sent.payload.head? = some 0xFE

/-- A command transmits at most one frame, and that is no reply. -/
theorem responsive_of_command {tag : UInt8} (nonzero : tag ≠ 0) (other : tag ≠ 0xFE)
    {world : World Party NodeState (Sent Party)} {occurrence : Occurrence Party Event}
    (possible : (network Party crypto net).Possible world occurrence)
    (unheard : ∀ call, occurrence.event ≠ .recv call) {radios : Radios} {call : CommandCall}
    {argv : List CString}
    (sends : ((network Party crypto net).reaction world occurrence).2 =
      transmitted occurrence.party occurrence.event
        (textCommand tag net radios call argv).actions) :
    (network Party crypto net).Responsive Sent.replies world occurrence := by
  have source : occurrence.source = none := by
    cases source : occurrence.source with
    | none => rfl
    | some index =>
        obtain ⟨sent, -, call, -, event, -⟩ := possible.arrives source
        exact absurd event (unheard call)
  rcases textCommand_transmissions nonzero net radios call argv with
    silent | ⟨arguments, inside, rest, -, frame⟩
  · rw [transmitted, silent] at sends
    exact ⟨by simp [sends], by simp [sends], by simp [source]⟩
  · rw [transmitted, frame] at sends
    exact ⟨by simp [sends], by simp [sends, source, Sent.replies, other], by simp [source]⟩

/-- The reception of a frame transmits a reply if the frame is a request, and otherwise nothing. -/
theorem responsive_of_reception (builds : BuildsHeaders net)
    {world : World Party NodeState (Sent Party)} {occurrence : Occurrence Party Event}
    (traced : Protocol.Traced (fun air node => Holds air node.buffer) (Explained net) world)
    (possible : (network Party crypto net).Possible world occurrence) {index : Nat}
    (source : occurrence.source = some index) :
    (network Party crypto net).Responsive Sent.replies world occurrence := by
  obtain ⟨heard, found, call, fits, event, received⟩ := possible.arrives source
  obtain ⟨front, -, explained⟩ := traced.justified.of_mem (List.mem_of_getElem? found)
  have held : (call.reception.store (world.states occurrence.party).buffer).slice 0
      heard.frame.length = heard.frame := by
    rw [received]
    exact Memory.slice_write_self _ 0 heard.frame
  have sends : ((network Party crypto net).reaction world occurrence).2 =
      transmitted occurrence.party occurrence.event
        (recv crypto net (world.states occurrence.party) call).actions := by
    rw [Protocol.reaction, event]
    rfl
  rw [transmitted, transmissions_of_held crypto builds explained held] at sends
  split at sends
  · rename_i asks
    refine ⟨by simp [sends], by simp [sends, source, Sent.replies, head?_replyBytes], ?_⟩
    intro place sent same place_found replies
    obtain rfl : index = place := Option.some.inj (source.symm.trans same)
    obtain rfl : heard = sent := Option.some.inj (found.symm.trans place_found)
    simp [Sent.replies, asks] at replies
  · exact ⟨by simp [sends], by simp [sends], by simp [sends]⟩

variable [DecidableEq Party]

/-- In every run whose commands name addresses of two or eight bytes, whatever is lost, repeated or
reordered and wherever drivers fail, each reply in the air answers a request sent before it by a
`txtreqsign` command, and goes to the address that the request came from, in its PAN or, if that is
zero, in the PAN of the node that replies. -/
theorem replies_solicited (crypto : Crypto) (builds : BuildsHeaders net)
    (encodes : EncodesHeaders net) (started : Started start)
    (run : (network Party crypto net).Run start occurrences) :
    ∀ front reply back, ((network Party crypto net).after start occurrences).air =
        front ++ reply :: back →
      reply.payload.head? = some 0xFE → ∃ request ∈ front, Answers net request reply := by
  intro front reply back split replies
  have traced := ((network_traces Party crypto builds encodes).traced_of_run started.traced run).2
  exact (traced.justified front reply back split).answers replies

theorem event_of_mem_air (started : Started start) {sent : Sent Party}
    (member : sent ∈ ((network Party crypto net).after start occurrences).air) :
    ∃ occurrence ∈ occurrences, occurrence.event = sent.event := by
  rcases Protocol.mem_air_after member with initial | ⟨step, step_mem, sent_mem⟩
  · rw [started.silent] at initial
    cases initial
  · have inputs : ∀ step ∈ steps (network Party crypto net).next start occurrences,
        step.2 ∈ occurrences :=
      (forall_steps_input_iff start occurrences).mpr fun _ member => member
    exact ⟨step.2, inputs step step_mem, (mem_transmitted sent_mem).1.symm⟩

/-- If signing works at every node, then in every run whose commands name addresses of two or eight
bytes the reception of a reply prints one verdict, that the signature is valid, the reception of
another frame prints none, and no other verdict is ever printed. -/
theorem verdicts_of_run (crypto : Crypto) (builds : BuildsHeaders net)
    (encodes : EncodesHeaders net) (started : Started start)
    (run : (network Party crypto net).Run start occurrences)
    (works : ∀ occurrence ∈ occurrences, ∀ call, occurrence.event = .recv call →
      Signs crypto call) :
    ∀ step ∈ steps (network Party crypto net).next start occurrences,
      (∀ index sent, step.2.source = some index → step.1.air[index]? = some sent →
        verdictsAt crypto net step.1 step.2 =
          if sent.payload.head? = some 0xFE then [true] else []) ∧
      ∀ verified ∈ verdictsAt crypto net step.1 step.2, verified = true := by
  rintro ⟨world, occurrence⟩ step_mem
  have traced :=
    ((network_traces Party crypto builds encodes).traced_of_run started.traced run).1 _ step_mem
  have possible : (network Party crypto net).Possible world occurrence := run _ step_mem
  -- a buffer with a frame of the air gives the verdict of that frame
  have verdicts {call : RecvCall} {sent : Sent Party} (member : sent ∈ world.air)
      (event : occurrence.event = .recv call)
      (held : (call.reception.store (world.states occurrence.party).buffer).slice 0
        sent.frame.length = sent.frame) :
      verdictsAt crypto net world occurrence =
        if sent.payload.head? = some 0xFE then [true] else [] := by
    obtain ⟨front, -, explained⟩ := traced.justified.of_mem member
    rw [verdictsAt, event]
    rcases verdicts_of_held crypto builds explained held with
      ⟨signing, signed, replies, verdicts⟩ | ⟨other, verdicts⟩
    · have final := (Protocol.air_prefix_of_step step_mem).subset member
      obtain ⟨cause, cause_mem, same⟩ := event_of_mem_air started final
      rw [if_pos replies]
      exact verdicts.trans (by rw [(works cause cause_mem signing (same.trans signed)).verified])
    · rw [if_neg other]
      exact verdicts
  constructor
  · intro index sent source found
    obtain ⟨heard, found', call, fits, event, received⟩ := possible.arrives source
    obtain rfl : heard = sent := Option.some.inj (found'.symm.trans found)
    apply verdicts (List.mem_of_getElem? found) event
    rw [received]
    exact Memory.slice_write_self _ 0 heard.frame
  · intro verified member
    cases event : occurrence.event with
    | txtreqsign call argv =>
        rw [verdictsAt, event, perform, txtreqsign, verdicts_textCommand (by decide)] at member
        cases member
    | txtsnd call argv =>
        rw [verdictsAt, event, perform, txtsnd, verdicts_textCommand (by decide)] at member
        cases member
    | recv call =>
        have stored := (traced.kept occurrence.party).store
          (event ▸ possible.spontaneous_or_arrives)
        rcases stored with blank | ⟨heard, heard_mem, held⟩
        · rw [verdictsAt, event] at member
          rw [perform, recv_blank crypto blind_verdict (fun _ => rfl) blank] at member
          cases member
        · rw [verdicts heard_mem event held] at member
          split at member
          · exact List.mem_singleton.mp member
          · cases member

/-- In a run whose commands name addresses of two or eight bytes, if drivers do not fail and no
frame is received twice by one node, each command accounts for one frame and at most one reply from
each node, so without commands the air falls silent. -/
theorem traffic_le [Fintype Party] (crypto : Crypto) (builds : BuildsHeaders net)
    (encodes : EncodesHeaders net) (started : Started start)
    (run : (network Party crypto net).Run start occurrences)
    (driven : ∀ occurrence ∈ occurrences, occurrence.source = none →
      ∀ call, occurrence.event ≠ .recv call)
    (once : (occurrences.filterMap Protocol.arrival).Nodup) :
    ((network Party crypto net).after start occurrences).air.length ≤
      occurrences.countP (fun occurrence => occurrence.source.isNone) *
        (1 + Fintype.card Party) := by
  have traced := ((network_traces Party crypto builds encodes).traced_of_run started.traced run).1
  have inputs : ∀ step ∈ steps (network Party crypto net).next start occurrences,
      step.2.source = none → ∀ call, step.2.event ≠ .recv call :=
    (forall_steps_input_iff start occurrences).mpr driven
  have responsive : ∀ step ∈ steps (network Party crypto net).next start occurrences,
      (network Party crypto net).Responsive Sent.replies step.1 step.2 := by
    intro step member
    have possible := run step member
    cases source : step.2.source with
    | some index => exact responsive_of_reception builds (traced step member) possible source
    | none =>
        have unheard := inputs step member source
        cases event : step.2.event with
        | txtreqsign call argv =>
            have sends : ((network Party crypto net).reaction step.1 step.2).2 =
                transmitted step.2.party step.2.event
                  (textCommand 0xFF net (step.1.states step.2.party).radios call argv).actions := by
              rw [Protocol.reaction, event]
              rfl
            exact responsive_of_command (by decide) (by decide) possible unheard sends
        | txtsnd call argv =>
            have sends : ((network Party crypto net).reaction step.1 step.2).2 =
                transmitted step.2.party step.2.event
                  (textCommand 0xEE net (step.1.states step.2.party).radios call argv).actions := by
              rw [Protocol.reaction, event]
              rfl
            exact responsive_of_command (by decide) (by decide) possible unheard sends
        | recv call => exact absurd event (unheard call)
  exact Protocol.length_air_le started.silent run responsive once

end Runs

end Network

/-- A signature of the front half of the public key that verifies under `l_public1`. -/
def frontSignature : Signature :=
  ⟨[0x62, 0xb8, 0xc7, 0xb7, 0x1c, 0x37, 0xaa, 0x46,
      0xd2, 0xd5, 0x40, 0x02, 0xcb, 0x6c, 0x91, 0x01,
      0x5a, 0x6f, 0x11, 0x2a, 0x40, 0xdd, 0x16, 0x2a,
      0x9c, 0x4b, 0x33, 0x77, 0xcd, 0x40, 0x86, 0xcd,
      0x42, 0xd4, 0xc2, 0x5e, 0xf7, 0x8a, 0xa4, 0xc6,
      0x5e, 0xc9, 0xf5, 0xb5, 0x43, 0x84, 0xf5, 0x81,
      0xc6, 0x41, 0xc3, 0x8b, 0x0b, 0x45, 0xe3, 0xda,
      0x27, 0x9f, 0x49, 0x62, 0x5f, 0xa9, 0x28, 0xc3], rfl⟩

/-- Verification of this signature. -/
def frontCrypto : Crypto :=
  { sampleCrypto with
    uECCVerify := fun key digest signature =>
      key = lPublic1 ∧ digest = lPublic1Front ∧ signature = frontSignature }

/-- A reception at a node that signs with this signature. -/
def receiveFront (bytes : List UInt8) (fits : bytes.length ≤ maxPktLength) : RecvCall where
  reception := .frame bytes fits
  rxInfo := ⟨0, 0⟩
  uECCSign _ _ := some frontSignature
  lSig := List.Vector.replicate 64 0
  signReplyData _ := 0
  driverSend _ _ := 0

/-- Two nodes with the addresses `07:08` and `12:34`. -/
def helloWorld : World (Fin 2) NodeState (Sent (Fin 2)) where
  states party :=
    if party = 0 then freshNode
    else
      { buffer := fun _ => 0
        radios := ⟨[{ replyDevice freshNode.radios with shortAddr := ⟨[0x12, 0x34], rfl⟩ }],
          by simp⟩ }
  air := []

def helloCommand : Event :=
  .txtreqsign (helloRequest 0).call helloArgv

def helloAsked : Sent (Fin 2) where
  party := 0
  event := helloCommand
  device := 0
  header := [0x41, 0x88, 0x00, 0x23, 0x00, 0x34, 0x12, 0x08, 0x07]
  payload := 0xFF :: helloBytes

theorem length_helloAsked : helloAsked.frame.length ≤ maxPktLength := by decide

def helloAnswer : Sent (Fin 2) where
  party := 1
  event := .recv (receiveFront helloAsked.frame length_helloAsked)
  device := 0
  header := [0x41, 0x88, 0x00, 0x23, 0x00, 0x08, 0x07, 0x34, 0x12]
  payload := replyBytes frontSignature lPublic1Front

theorem length_helloAnswer : helloAnswer.frame.length ≤ maxPktLength := by decide

/-- One node asks for a signature of `hello`, the other answers, and the first checks the answer. -/
def helloExchange : List (Occurrence (Fin 2) Event) :=
  [⟨0, helloCommand, none⟩, ⟨1, helloAnswer.event, some 0⟩,
    ⟨0, .recv (receiveFront helloAnswer.frame length_helloAnswer), some 1⟩]

theorem started_helloWorld : Started helloWorld where
  silent := rfl
  blank party address := by
    rw [helloWorld]
    dsimp only
    split <;> rfl

abbrev helloNetwork : Protocol (Fin 2) NodeState Event (Sent (Fin 2)) :=
  network (Fin 2) frontCrypto dataFrameNet

theorem asked_helloExchange :
    (helloNetwork.after helloWorld (helloExchange.take 1)).air = [helloAsked] := by
  have frames := (helloRequest 0).transmissions (show (0xFF : UInt8) ≠ 0 by decide)
  change transmitted 0 helloCommand (textCommand 0xFF dataFrameNet (helloRequest 0).radios
    (helloRequest 0).call (helloRequest 0).argv).actions = _
  rw [transmitted, frames]
  rfl

theorem answered_helloExchange :
    (helloNetwork.after helloWorld (helloExchange.take 2)).air = [helloAsked, helloAnswer] := by
  have reported : Reported dataFrameNet helloAsked.header :=
    buildsHeaders_dataFrameNet.reported (replyDevice freshNode.radios) 0
      (show EncodableAddr [0x12, 0x34] from .inl rfl)
  have frame : TaggedFrame dataFrameNet (helloWorld.states 1)
      (receiveFront helloAsked.frame length_helloAsked) 0xFF helloBytes :=
    .ofReported reported _ _ 0xFF helloBytes length_helloAsked rfl
  have answered : transmitted 1 helloAnswer.event
      (recv frontCrypto dataFrameNet (helloWorld.states 1)
        (receiveFront helloAsked.frame length_helloAsked)).actions = [helloAnswer] := by
    rw [transmitted, recv_request blind_transmission frontCrypto frame]
    rfl
  exact congrArg₂ List.append asked_helloExchange answered

theorem run_helloExchange : helloNetwork.Run helloWorld helloExchange := by
  have addressed : Addressed (helloRequest 0).call helloArgv := by
    intro arguments parsed
    obtain rfl := Option.some.inj (parseArguments_helloArgv.symm.trans parsed)
    exact .inl rfl
  have asked : helloNetwork.Possible (helloNetwork.after helloWorld (helloExchange.take 1))
      ⟨1, helloAnswer.event, some 0⟩ :=
    ⟨helloAsked, by rw [asked_helloExchange, List.getElem?_cons_zero], _, length_helloAsked, rfl,
      rfl⟩
  have answered : helloNetwork.Possible (helloNetwork.after helloWorld (helloExchange.take 2))
      ⟨0, .recv (receiveFront helloAnswer.frame length_helloAnswer), some 1⟩ :=
    ⟨helloAnswer, by rw [answered_helloExchange]; rfl, _, length_helloAnswer, rfl, rfl⟩
  rw [Protocol.Run, helloExchange, steps_cons, steps_cons, steps_cons, steps_nil,
    List.forall_mem_cons, List.forall_mem_cons, List.forall_mem_singleton]
  exact ⟨addressed, asked, answered⟩

theorem air_helloExchange :
    (helloNetwork.after helloWorld helloExchange).air = [helloAsked, helloAnswer] := by
  have reported : Reported dataFrameNet helloAnswer.header :=
    buildsHeaders_dataFrameNet.reported (replyDevice (helloWorld.states 1).radios) 0
      (show EncodableAddr [0x07, 0x08] from .inl rfl)
  have silent (node : NodeState) : transmitted 0
      (.recv (receiveFront helloAnswer.frame length_helloAnswer))
      (recv frontCrypto dataFrameNet node
        (receiveFront helloAnswer.frame length_helloAnswer)).actions =
        ([] : List (Sent (Fin 2))) := by
    have frame : TaggedFrame dataFrameNet node
        (receiveFront helloAnswer.frame length_helloAnswer) 0xFE
        (frontSignature.toList ++ (lPublic1Front.toList ++ [0])) :=
      .ofReported reported _ _ 0xFE _ length_helloAnswer rfl
    rw [transmitted, recv_reply blind_transmission frontCrypto frame]
    rfl
  have third (world : World (Fin 2) NodeState (Sent (Fin 2))) :
      (helloNetwork.reaction world
        ⟨0, .recv (receiveFront helloAnswer.frame length_helloAnswer), some 1⟩).2 = [] :=
    silent (world.states 0)
  have final := Protocol.air_after_concat helloNetwork helloWorld (helloExchange.take 2)
    ⟨0, .recv (receiveFront helloAnswer.frame length_helloAnswer), some 1⟩
  rw [third, answered_helloExchange] at final
  exact final

/-- The reply in this exchange answers the request. -/
theorem hello_reply_solicited :
    ∃ request ∈ [helloAsked], Answers dataFrameNet request helloAnswer :=
  replies_solicited frontCrypto buildsHeaders_dataFrameNet encodesHeaders_dataFrameNet
    started_helloWorld run_helloExchange [helloAsked] helloAnswer [] air_helloExchange rfl

theorem hello_verdict :
    verdictsAt frontCrypto dataFrameNet (helloNetwork.after helloWorld (helloExchange.take 2))
      ⟨0, .recv (receiveFront helloAnswer.frame length_helloAnswer), some 1⟩ = [true] := by
  have signs (call : RecvCall) (occurrence : Occurrence (Fin 2) Event)
      (member : occurrence ∈ helloExchange) (event : occurrence.event = .recv call) :
      Signs frontCrypto call := by
    refine ⟨frontSignature, ?_, by simp [frontCrypto]⟩
    simp only [helloExchange, List.mem_cons, List.not_mem_nil, or_false] at member
    rcases member with rfl | rfl | rfl <;> cases event <;> rfl
  exact (verdicts_of_run frontCrypto buildsHeaders_dataFrameNet encodesHeaders_dataFrameNet
    started_helloWorld run_helloExchange (fun occurrence member call event =>
      signs call occurrence member event) _
      (List.mem_cons_of_mem _ (List.mem_cons_of_mem _ List.mem_cons_self))).1 1 helloAnswer rfl
      (congrArg (fun air => air[1]?) answered_helloExchange)

theorem hello_traffic :
    (helloNetwork.after helloWorld helloExchange).air.length ≤
      helloExchange.countP (fun occurrence => occurrence.source.isNone) *
        (1 + Fintype.card (Fin 2)) :=
  traffic_le frontCrypto buildsHeaders_dataFrameNet encodesHeaders_dataFrameNet
    started_helloWorld run_helloExchange (by
      intro occurrence member source call
      simp only [helloExchange, List.mem_cons, List.not_mem_nil, or_false] at member
      rcases member with rfl | rfl | rfl
      · simp [helloCommand]
      · cases source
      · cases source) (by decide)

end PpmlIot.Signecc

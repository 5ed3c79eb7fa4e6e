import PpmlIot.Signecc.CommandRoundTrip

/-!
# Headers that cannot be built

`ieee802154_set_frame_hdr` reports a failure by the length 0, and `send` and `send2` look for a
negative length.  A failure is therefore never noticed: the payload goes to the driver behind an
empty header.
-/

namespace PpmlIot.Signecc

open Library

/-- If no header can be built, the function fails and hands nothing to the driver; and each frame
that it hands to the driver starts with a header, which carries the requested destination and, where
there is one, its PAN. -/
structure HeaderGuarded (net : Ieee802154) (radios : Radios) (iface : Int) (dstPan : UInt16)
    (dst : List UInt8) (run : SendRun) : Prop where
  failure : ∀ inside : unsigned iface < radios.devs.length,
    buildHeader net (radios.devs.get ⟨unsigned iface, inside⟩) dstPan dst = [] →
      run.result ≠ 0 ∧ run.actions.filterMap transmission = []
  complete : ∀ frame ∈ run.actions.filterMap transmission, frame.2.1 ≠ [] ∧
    ∀ memory : Memory, memory.slice 0 frame.2.1.length = frame.2.1 →
      (net.getDst memory).1 = dst ∧
        (dst ≠ [] → ∀ inside : unsigned iface < radios.devs.length,
          (net.getDst memory).2 =
            effectivePan (radios.devs.get ⟨unsigned iface, inside⟩) dstPan)

/-- The same for a command: one that is rejected fails and hands nothing to the driver. -/
def CommandGuarded (net : Ieee802154) (radios : Radios) (call : CommandCall)
    (argv : List CString) (run : SendRun) : Prop :=
  match parseArguments call.addr argv with
  | none => run.result ≠ 0 ∧ run.actions.filterMap transmission = []
  | some arguments =>
      HeaderGuarded net radios arguments.iface arguments.pan arguments.addr run

/-- On a missing interface nothing is handed to the driver. -/
theorem sendFrame_outside {net : Ieee802154} {driverSend : List UInt8 → List UInt8 → Int}
    {radios : Radios} {iface : Int} (outside : ¬ unsigned iface < radios.devs.length)
    (dstPan : UInt16) (dst data : List UInt8) :
    (sendFrame net driverSend radios iface dstPan dst data).actions.filterMap transmission =
      [] := by
  have beyond : unsigned iface > radios.devs.length - 1 := by
    have := radios.nonempty
    omega
  simp only [sendFrame, beyond, dite_true]
  rfl

/-- The common code is guarded exactly when the header can be built, if it comes to that. -/
theorem sendFrame_guarded_iff {net : Ieee802154} (encodes : EncodesHeaders net)
    (driverSend : List UInt8 → List UInt8 → Int) (radios : Radios) (iface : Int) (dstPan : UInt16)
    (dst data : List UInt8) :
    HeaderGuarded net radios iface dstPan dst
        (sendFrame net driverSend radios iface dstPan dst data) ↔
      ∀ inside : unsigned iface < radios.devs.length,
        buildHeader net (radios.devs.get ⟨unsigned iface, inside⟩) dstPan dst ≠ [] := by
  constructor
  · intro guarded inside empty
    have silent := (guarded.failure inside empty).2
    rw [sendFrame_filterMap blind_transmission net _ inside] at silent
    cases silent
  · intro built
    constructor
    · intro inside empty
      exact absurd empty (built inside)
    · intro frame member
      by_cases inside : unsigned iface < radios.devs.length
      · rw [sendFrame_filterMap blind_transmission net _ inside] at member
        obtain rfl := List.mem_singleton.mp member
        refine ⟨built inside, fun memory whole => ?_⟩
        obtain ⟨dst_eq, pan_eq, -⟩ := encodes.fields (built inside) whole
        exact ⟨dst_eq, fun nonempty _ => pan_eq nonempty⟩
      · rw [sendFrame_outside inside] at member
        cases member

/-- A header is built for two and eight bytes, and possibly for none. -/
theorem buildHeader_ne_nil_iff {net : Ieee802154} (builds : BuildsHeaders net)
    (rejects : RejectsLengths net) {dst : List UInt8} (dev : Netdev) (dstPan : UInt16) :
    buildHeader net dev dstPan dst ≠ [] ↔
      EncodableAddr dst ∨
        dst = [] ∧
          net.setFrameHdr (ownAddr net dev) [] (srcPan dev) (effectivePan dev dstPan)
            (frameFlags net dev.flags) dev.seq ≠ [] := by
  constructor
  · intro built
    by_cases empty : dst = []
    · rw [buildHeader_eq, empty] at built
      exact .inr ⟨empty, built⟩
    · by_contra other
      exact built (rejects.buildHeader_eq_nil dev dstPan empty fun encodable =>
        other (.inl encodable))
  · rintro (encodable | ⟨rfl, built⟩)
    · exact builds.ne_nil dev dstPan encodable
    · exact built

/-- The address of an accepted command is not empty. -/
theorem parseArguments_addr_ne_nil {stack : Memory} {argv : List CString} {arguments : Arguments}
    (parsed : parseArguments stack argv = some arguments) : arguments.addr ≠ [] := by
  have rest {pan : UInt16} {iface addr text : CString}
      (found : parseRest stack pan iface addr text = some arguments) : arguments.addr ≠ [] := by
    dsimp only [parseRest] at found
    split at found
    · cases found
    · rw [← Option.some.inj found]
      intro empty
      have length := congrArg List.length empty
      rw [Memory.length_slice, List.length_nil] at length
      omega
  unfold parseArguments at parsed
  split at parsed
  · exact rest parsed
  · dsimp only at parsed
    split at parsed
    · cases parsed
    · exact rest parsed
  · cases parsed

theorem textCommand_guarded_iff {net : Ieee802154} (encodes : EncodesHeaders net)
    (builds : BuildsHeaders net) (rejects : RejectsLengths net) (tag : UInt8) (radios : Radios)
    (call : CommandCall) (argv : List CString) :
    CommandGuarded net radios call argv (textCommand tag net radios call argv) ↔
      ∀ arguments, parseArguments call.addr argv = some arguments →
        unsigned arguments.iface < radios.devs.length →
          EncodableAddr arguments.addr := by
  rw [CommandGuarded, textCommand]
  cases parsed : parseArguments call.addr argv with
  | none => exact iff_of_true ⟨Int.one_ne_zero, rfl⟩ fun _ impossible => by cases impossible
  | some arguments =>
      have nonempty := parseArguments_addr_ne_nil parsed
      dsimp only [send]
      rw [sendFrame_guarded_iff encodes]
      constructor
      · intro built other found inside
        obtain rfl := Option.some.inj found
        rcases (buildHeader_ne_nil_iff builds rejects _ _).mp (built inside) with
          encodable | ⟨empty, -⟩
        · exact encodable
        · exact absurd empty nonempty
      · intro lengths inside
        exact (buildHeader_ne_nil_iff builds rejects _ _).mpr
          (.inl (lengths arguments rfl inside))

/-- `txtreqsign` and `txtsnd` never send without a header exactly when the address of the command,
if it is accepted for an existing interface, has two or eight bytes; `send2` exactly when the
interface is missing, the address has two or eight bytes, or it is empty and `setFrameHdr` builds a
header for an empty destination. -/
theorem header_failure_iff (net : Ieee802154) (encodes : EncodesHeaders net)
    (builds : BuildsHeaders net) (rejects : RejectsLengths net) (radios : Radios) :
    (∀ (call : CommandCall) (argv : List CString),
      (CommandGuarded net radios call argv (txtreqsign net radios call argv) ↔
        ∀ arguments, parseArguments call.addr argv = some arguments →
          unsigned arguments.iface < radios.devs.length →
            EncodableAddr arguments.addr) ∧
      (CommandGuarded net radios call argv (txtsnd net radios call argv) ↔
        ∀ arguments, parseArguments call.addr argv = some arguments →
          unsigned arguments.iface < radios.devs.length →
            EncodableAddr arguments.addr)) ∧
    ∀ (driverSend : List UInt8 → List UInt8 → Int) (iface : Int) (dstPan : UInt16)
      (dst : List UInt8) (data : Memory) (dataLength : UInt8),
      HeaderGuarded net radios iface dstPan dst
          (send2 net driverSend radios iface dstPan dst data dataLength) ↔
        ∀ inside : unsigned iface < radios.devs.length,
          EncodableAddr dst ∨ dst = [] ∧
            let dev := radios.devs.get ⟨unsigned iface, inside⟩
            net.setFrameHdr (ownAddr net dev) [] (srcPan dev) (effectivePan dev dstPan)
              (frameFlags net dev.flags) dev.seq ≠ [] := by
  refine ⟨fun call argv => ⟨?_, ?_⟩, ?_⟩
  · exact textCommand_guarded_iff encodes builds rejects 0xFF radios call argv
  · exact textCommand_guarded_iff encodes builds rejects 0xEE radios call argv
  · intro driverSend iface dstPan dst data dataLength
    rw [send2, sendFrame_guarded_iff encodes]
    exact forall_congr' fun inside => buildHeader_ne_nil_iff builds rejects _ dstPan

theorem hello_guarded :
    CommandGuarded dataFrameNet (helloRequest 0).radios (helloRequest 0).call helloArgv
      (txtreqsign dataFrameNet (helloRequest 0).radios (helloRequest 0).call helloArgv) := by
  apply ((header_failure_iff dataFrameNet encodesHeaders_dataFrameNet buildsHeaders_dataFrameNet
    rejectsLengths_dataFrameNet (helloRequest 0).radios).1 (helloRequest 0).call helloArgv).1.mpr
  intro arguments parsed _
  have known := parseArguments_helloArgv.symm.trans parsed
  rw [← Option.some.inj known]
  exact .inl rfl

/-- The command line `txtreqsign 0 12 hello`. -/
def byteAddrArgv : List CString :=
  helloArgv.set 2 ⟨[0x31, 0x32], by decide⟩

/-- Its text is sent without a header. -/
theorem byteAddr_not_guarded :
    ¬ CommandGuarded dataFrameNet (helloRequest 0).radios (helloRequest 0).call byteAddrArgv
      (txtreqsign dataFrameNet (helloRequest 0).radios (helloRequest 0).call byteAddrArgv) := by
  rw [txtreqsign, textCommand_guarded_iff encodesHeaders_dataFrameNet buildsHeaders_dataFrameNet
    rejectsLengths_dataFrameNet]
  intro lengths
  have parsed : parseArguments (helloRequest 0).call.addr byteAddrArgv =
      some { iface := 0, pan := 0, addr := [0x12], text := helloText } := by
    decide +kernel
  rcases lengths _ parsed (by decide) with two | eight
  · cases two
  · cases eight

end PpmlIot.Signecc

import PpmlIot.Signecc.CommandRoundTrip
import PpmlIot.Signecc.ParseAddr

/-!
# The PAN argument

The bytes of a PAN are parsed to the left end of a `le_uint16_t` and swapped there.  Two bytes come
to stand where they belong; a single byte ends up as the upper one.
-/

namespace PpmlIot.Signecc

open Library

/-- A `txtreqsign` or `txtsnd` command line that is accepted and names an existing interface. -/
structure AcceptedCommand where
  radios : Radios
  call : CommandCall
  argv : List CString
  arguments : Arguments
  parsed : parseArguments call.addr argv = some arguments
  valid_iface : unsigned arguments.iface < radios.devs.length

def AcceptedCommand.dev (command : AcceptedCommand) : Netdev :=
  command.radios.devs.get ⟨unsigned command.arguments.iface, command.valid_iface⟩

/-- The command hands the driver one frame, and its header is built for this destination PAN. -/
def PassesPan (command : AcceptedCommand) (dstPan : UInt16) : Prop :=
  ∀ (tag : UInt8) (net : Ieee802154), ∃ src srcPan flags seq,
    ((textCommand tag net command.radios command.call command.argv).actions.filterMap
      transmission).map (fun frame => frame.2.1) =
      [net.setFrameHdr src command.arguments.addr srcPan dstPan flags seq]

/-- The bytes that `_parse_addr` finds in a PAN argument. -/
def panBytes (pan : CString) : List UInt8 :=
  let parsed := parseAddr (fun _ => 0) 2 (some pan)
  parsed.out.slice 0 parsed.result.toNat

theorem parseRest_pan {stack : Memory} {pan : UInt16} {iface addr text : CString}
    {arguments : Arguments} (parsed : parseRest stack pan iface addr text = some arguments) :
    arguments.pan = pan := by
  dsimp only [parseRest] at parsed
  split at parsed
  · cases parsed
  · rw [← Option.some.inj parsed]

/-- An accepted PAN argument has one or two bytes, which become the upper and lower one. -/
theorem parseArguments_pan {stack : Memory} {name iface pan addr text : CString}
    {arguments : Arguments}
    (parsed : parseArguments stack [name, iface, pan, addr, text] = some arguments) :
    (∃ upper, panBytes pan = [upper] ∧ arguments.pan.toNat = 256 * upper.toNat) ∨
      ∃ upper lower, panBytes pan = [upper, lower] ∧
        arguments.pan.toNat = 256 * upper.toNat + lower.toNat := by
  rw [parseArguments] at parsed
  split at parsed
  · cases parsed
  · rename_i accepted
    rcases parseAddr_cases (fun _ => 0) 2 pan with ⟨bytes, address, fits, result, out⟩ | ⟨-, zero⟩
    · have found : panBytes pan = bytes := by
        rw [panBytes, result, out, Int.toNat_natCast]
        exact Memory.slice_write_self (fun _ => 0) 0 bytes
      rw [parseRest_pan parsed, toNat_byteorderSwaps, toNat_pair, out]
      match bytes, fits, address_ne_nil address with
      | [upper], _, _ =>
          refine .inl ⟨upper, found, ?_⟩
          have := upper.toNat_lt
          change 256 * ((upper.toNat + 256 * 0) % 256) + (upper.toNat + 256 * 0) / 256 = _
          omega
      | [upper, lower], _, _ =>
          refine .inr ⟨upper, lower, found, ?_⟩
          have := upper.toNat_lt
          have := lower.toNat_lt
          change 256 * ((upper.toNat + 256 * lower.toNat) % 256) +
            (upper.toNat + 256 * lower.toNat) / 256 = _
          omega
    · exact absurd (.inl zero.le) accepted

theorem passesPan_iff {command : AcceptedCommand} {dstPan : UInt16} :
    PassesPan command dstPan ↔ dstPan = effectivePan command.dev command.arguments.pan := by
  have headers (tag : UInt8) (net : Ieee802154) :
      ((textCommand tag net command.radios command.call command.argv).actions.filterMap
          transmission).map (fun frame => frame.2.1) =
        [buildHeader net command.dev command.arguments.pan command.arguments.addr] := by
    rw [textCommand, command.parsed]
    simp only [send]
    rw [sendFrame_filterMap blind_transmission net _ command.valid_iface]
    rfl
  constructor
  · intro passes
    -- a header whose length tells the PAN
    let counting : Ieee802154 :=
      { dataFrameNet with setFrameHdr := fun _ _ _ pan _ _ => List.replicate pan.toNat 0 }
    obtain ⟨src, srcPan, flags, seq, header⟩ := passes 0xFF counting
    rw [headers, List.singleton_inj] at header
    have lengths := congrArg List.length header
    simp only [counting, buildHeader, List.length_replicate] at lengths
    exact UInt16.toNat_inj.mp lengths.symm
  · rintro rfl tag net
    exact ⟨_, _, _, _, headers tag net⟩

/-- The PAN passed on for an argument: its value, or 256 times its value if it has one byte. -/
theorem passesPan_argument {command : AcceptedCommand} {name iface pan addr text : CString}
    (argv : command.argv = [name, iface, pan, addr, text])
    (nonzero : Hex.ofBytesBE (panBytes pan) ≠ 0) {dstPan : UInt16}
    (passes : PassesPan command dstPan) :
    ((panBytes pan).length = 2 ∧ dstPan.toNat = Hex.ofBytesBE (panBytes pan)) ∨
      (panBytes pan).length = 1 ∧ dstPan.toNat = 256 * Hex.ofBytesBE (panBytes pan) := by
  have parsed := command.parsed
  rw [argv] at parsed
  have requested (positive : command.arguments.pan.toNat ≠ 0) :
      dstPan = command.arguments.pan := by
    rw [passesPan_iff.mp passes, effectivePan, if_neg]
    intro zero
    exact positive (congrArg UInt16.toNat zero)
  rcases parseArguments_pan parsed with ⟨upper, found, value⟩ | ⟨upper, lower, found, value⟩
  · right
    rw [found] at nonzero ⊢
    have number : Hex.ofBytesBE [upper] = upper.toNat := by simp [Hex.ofBytesBE]
    rw [number] at nonzero ⊢
    rw [requested (by omega), value]
    exact ⟨rfl, rfl⟩
  · left
    rw [found] at nonzero ⊢
    have number : Hex.ofBytesBE [upper, lower] = 256 * upper.toNat + lower.toNat := by
      simp [Hex.ofBytesBE]
    rw [number] at nonzero ⊢
    rw [requested (by omega), value]
    exact ⟨rfl, rfl⟩

/-- An accepted command passes on one PAN.  A PAN argument with a value other than zero addresses
the PAN of this value exactly when two bytes are parsed from it; two spellings of one value address
the same PAN exactly when they have the same number of bytes; without a PAN argument the device's
own PAN is addressed. -/
theorem pan_argument_iff (command : AcceptedCommand) :
    (∃! dstPan, PassesPan command dstPan) ∧
      ∀ dstPan, PassesPan command dstPan →
        (∀ name iface pan addr text, command.argv = [name, iface, pan, addr, text] →
          Hex.ofBytesBE (panBytes pan) ≠ 0 →
            (dstPan.toNat = Hex.ofBytesBE (panBytes pan) ↔ (panBytes pan).length = 2) ∧
            ∀ (other : AcceptedCommand) (dstPan' : UInt16)
              (name' iface' pan' addr' text' : CString),
              PassesPan other dstPan' → other.argv = [name', iface', pan', addr', text'] →
              Hex.ofBytesBE (panBytes pan') = Hex.ofBytesBE (panBytes pan) →
                (dstPan' = dstPan ↔ (panBytes pan').length = (panBytes pan).length)) ∧
        ∀ name iface addr text, command.argv = [name, iface, addr, text] →
          dstPan = command.dev.pan := by
  refine ⟨⟨_, passesPan_iff.mpr rfl, fun _ passes => passesPan_iff.mp passes⟩, ?_⟩
  intro dstPan passes
  constructor
  · intro name iface pan addr text argv nonzero
    have passed := passesPan_argument argv nonzero passes
    constructor
    · omega
    · intro other dstPan' name' iface' pan' addr' text' passes' argv' same
      have passed' := passesPan_argument argv' (same ▸ nonzero) passes'
      rw [← UInt16.toNat_inj]
      omega
  · intro name iface addr text argv
    have parsed := command.parsed
    rw [argv] at parsed
    rw [passesPan_iff.mp passes, effectivePan, if_pos (parseRest_pan parsed), srcPan_eq]

/-- The command line `txtreqsign 0 <pan> 12:34 hello` on a node with one radio. -/
def panArgv (pan : CString) : List CString :=
  helloArgv.insertIdx 2 pan

def panCommand (pan : CString) (arguments : Arguments) (iface : arguments.iface = 0)
    (parsed : parseArguments (fun _ => 0) (panArgv pan) = some arguments) : AcceptedCommand where
  radios := freshNode.radios
  call :=
    { addr := fun _ => 0
      dataBuffer := ⟨List.Vector.replicate 512 0, []⟩
      driverSend := fun _ _ => 0 }
  argv := panArgv pan
  arguments := arguments
  parsed := parsed
  valid_iface := by
    rw [iface]
    decide

/-- The command with the PAN `00:23`. -/
def widePanCommand : AcceptedCommand :=
  panCommand ⟨[0x30, 0x30, 0x3a, 0x32, 0x33], by decide⟩
    ⟨0, 0x0023, [0x12, 0x34], helloText⟩ rfl (by decide +kernel)

/-- The command with the PAN `23`. -/
def shortPanCommand : AcceptedCommand :=
  panCommand ⟨[0x32, 0x33], by decide⟩ ⟨0, 0x2300, [0x12, 0x34], helloText⟩ rfl
    (by decide +kernel)

/-- Written with two bytes, the PAN is the one addressed. -/
theorem widePan_addressed :
    (∃! dstPan, PassesPan widePanCommand dstPan) ∧ PassesPan widePanCommand 0x0023 ∧
      (0x0023 : UInt16).toNat =
        Hex.ofBytesBE (panBytes ⟨[0x30, 0x30, 0x3a, 0x32, 0x33], by decide⟩) := by
  obtain ⟨single, denotes⟩ := pan_argument_iff widePanCommand
  have passes : PassesPan widePanCommand 0x0023 := passesPan_iff.mpr rfl
  obtain ⟨value_iff, -⟩ := (denotes 0x0023 passes).1 _ _ _ _ _ rfl (by decide +kernel)
  exact ⟨single, passes, value_iff.mpr (by decide +kernel)⟩

/-- Written with one byte, another PAN is addressed. -/
theorem shortPan_misaddressed :
    PassesPan shortPanCommand 0x2300 ∧
      (0x2300 : UInt16).toNat ≠ Hex.ofBytesBE (panBytes ⟨[0x32, 0x33], by decide⟩) ∧
      Hex.ofBytesBE (panBytes ⟨[0x32, 0x33], by decide⟩) ≠ 0 :=
  ⟨passesPan_iff.mpr rfl, by decide +kernel, by decide +kernel⟩

end PpmlIot.Signecc

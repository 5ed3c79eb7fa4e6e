import PpmlIot.Signecc.Conversation

/-!
# The command `ifconfig`

`ifconfig` prints one block for each device.  The driver is asked for the options of the device one
by one, into locals that are not initialised; the block ends at the first failure of an option that
is required.  Whatever the driver answers, one line for each device names it, and the addresses and
the PAN in this line, typed on another node, address this device.
-/

namespace PpmlIot.Signecc

open Library Library.Console

/-- The options that `ifconfig_list` asks for. -/
inductive Netopt
  | addrLen
  | srcLen
  | maxPacketSize
  | ipv6Iid
  | channelPage
  | txPower
  | isWired
  | preloading
  | autoack
  | rawmode
  | autocca
  | csma
  deriving DecidableEq

/-- The driver's `get`: its result, and the bytes that it writes to the start of the local. -/
abbrev GetOption := Netopt → Int × List UInt8

/-- The stack memory of the locals `array_val`, `enable_val` and `u16_val`. -/
structure IfconfigLocals where
  arrayVal : Memory
  enableVal : Memory
  u16Val : Memory

/-- A `uint16_t` local. -/
def u16At (u16Val : Memory) : Nat := Nat.ofDigits 256 ((u16Val.slice 0 2).map UInt8.toNat)

/-- Ask for an option that is required and print it; after an error the rest is not reached. -/
def required (get : GetOption) (option : Netopt) (before after : String) (u16Val : Memory)
    (rest : Memory → Int × List Action) : Int × List Action :=
  let (res, bytes) := get option
  let u16Val := u16Val.write 0 bytes
  if res < 0 then
    (1, [.say "(err)\n"])
  else
    let (result, actions) := rest u16Val
    (result, .print (before.toList ++ Text.decimal (u16At u16Val) ++ after.toList) :: actions)

/-- Ask for a flag and print its name if it is enabled, where `NETOPT_ENABLE` is these bytes. -/
def flagged (get : GetOption) (netoptEnable : List UInt8) (option : Netopt) (name : String)
    (enableVal : Memory) (rest : Memory → List Action) : List Action :=
  let (res, bytes) := get option
  let enableVal := enableVal.write 0 bytes
  (if res > 0 ∧ enableVal.slice 0 netoptEnable.length = netoptEnable then [.say name] else []) ++
    rest enableVal

/-- The first line of a block, as far as it does not depend on the driver. -/
def ifaceHead (idx : Nat) (dev : Netdev) : List Action :=
  [.print ("Iface ".toList ++ Text.decimalWidth 3 idx ++ "  HWaddr: ".toList),
    .print (printAddr dev.shortAddr.toList), .say ", Long HWaddr: ",
    .print (printAddr dev.longAddr.toList),
    .print (", PAN: 0x".toList ++ Hex.fixed Nat.digitChar 4 dev.pan.toNat)]

/-- The line of flags. -/
def flagLine (get : GetOption) (netoptEnable : List UInt8) (enableVal : Memory) : List Action :=
  .say "         " :: flagged get netoptEnable .preloading "  PRELOAD" enableVal fun enableVal =>
    flagged get netoptEnable .autoack "  AUTOACK" enableVal fun enableVal =>
      flagged get netoptEnable .rawmode "  RAW" enableVal fun enableVal =>
        flagged get netoptEnable .autocca "  AUTOCCA" enableVal fun enableVal =>
          flagged get netoptEnable .csma "  CSMA" enableVal fun _ => [.say "\n"]

/-- What `ifconfig_list` meets on a device: the driver, the bytes of `NETOPT_ENABLE`, the stack
memory and the field `chan`. -/
structure IfconfigCall where
  get : GetOption
  netoptEnable : List UInt8
  locals : IfconfigLocals
  chan : UInt8

/-- The part of `ifconfig_list` from the channel on. -/
def channelLines (call : IfconfigCall) (u16Val : Memory) : Int × List Action :=
  let (result, actions) :=
    required call.get .channelPage ", Ch.page: " "" u16Val fun u16Val =>
      required call.get .txPower ", TXPower: " " dBm" u16Val fun _ =>
        (0, .say (if (call.get .isWired).1 < 0 then ", wireless\n" else ", wired\n") ::
          flagLine call.get call.netoptEnable call.locals.enableVal)
  (result, .print ("\n           Channel: ".toList ++ Text.decimal call.chan.toNat) :: actions)

/-- The interface identifier, if the driver has one. -/
def iidLine (call : IfconfigCall) : List Action :=
  let (res, bytes) := call.get .ipv6Iid
  let arrayVal := call.locals.arrayVal.write 0 bytes
  if res > 0 then
    [.say "\n           IPv6 IID: ", .print (printAddr (arrayVal.slice 0 res.toNat))]
  else []

/-- `ifconfig_list`: the result and what is printed. -/
def ifconfigList (call : IfconfigCall) (idx : Nat) (dev : Netdev) : Int × List Action :=
  let (result, actions) :=
    required call.get .addrLen "\n           Address length: " "" call.locals.u16Val fun u16Val =>
      required call.get .srcLen ", Source address length: " "" u16Val fun u16Val =>
        required call.get .maxPacketSize ", Max.Payload: " "" u16Val fun u16Val =>
          let (result, actions) := channelLines call u16Val
          (result, iidLine call ++ actions)
  (result, ifaceHead idx dev ++ actions)

/-- `ifconfig`: the results of `ifconfig_list` are not looked at. -/
def ifconfig (calls : Nat → IfconfigCall) (radios : Radios) : Int × List Action :=
  (0, radios.devs.zipIdx.flatMap fun (dev, idx) => (ifconfigList (calls idx) idx dev).2)

/-- The text ends a line and goes on with lines that start with a blank. -/
def EndsLine (text : Text) : Prop :=
  ∃ part lines, text = part ++ '\n' :: written lines ∧ '\n' ∉ part ∧
    ∀ line ∈ lines, line.Single ∧ line.text.head? = some ' '

/-- The text goes on in a line, or starts an indented one. -/
def Continues (text : Text) : Prop :=
  '\n' ∉ text ∨ ∃ rest, text = '\n' :: ' ' :: rest ∧ '\n' ∉ rest

theorem EndsLine.append {front text : Text} (continues : Continues front) (ends : EndsLine text) :
    EndsLine (front ++ text) := by
  obtain ⟨part, lines, rfl, part_single, indented⟩ := ends
  rcases continues with single | ⟨rest, rfl, single⟩
  · exact ⟨front ++ part, lines, by simp, by simp [single, part_single], indented⟩
  · refine ⟨[], ⟨" ", rest ++ part⟩ :: lines, by simp [Line.text], by simp, ?_⟩
    rw [List.forall_mem_cons]
    exact ⟨⟨by simp [Line.Single, Line.text, single, part_single], by simp [Line.text]⟩, indented⟩

theorem Continues.append {front text : Text} (continues : Continues front)
    (single : '\n' ∉ text) : Continues (front ++ text) := by
  rcases continues with front_single | ⟨rest, rfl, rest_single⟩
  · exact .inl (by simp [front_single, single])
  · exact .inr ⟨rest ++ text, rfl, by simp [rest_single, single]⟩

theorem endsLine_newline : EndsLine ['\n'] :=
  ⟨[], [], rfl, by simp, by simp⟩

section Blocks

variable (dump : HexDump)

theorem endsLine_required {get : GetOption} {option : Netopt} {before after : String}
    {u16Val : Memory} {rest : Memory → Int × List Action} (continues : Continues before.toList)
    (after_single : '\n' ∉ after.toList)
    (ends : ∀ u16Val, EndsLine (consoleText dump (rest u16Val).2)) :
    EndsLine (consoleText dump (required get option before after u16Val rest).2) := by
  simp only [required]
  split
  · have failed : consoleText dump [.say "(err)\n"] = "(err)".toList ++ ['\n'] := rfl
    rw [failed]
    exact .append (.inl (by decide)) endsLine_newline
  · rw [consoleText_cons, text_print]
    refine .append ?_ (ends _)
    exact (continues.append (Text.newline_not_mem_decimal _)).append after_single

theorem endsLine_flagged {get : GetOption} {netoptEnable : List UInt8} {option : Netopt}
    {name : String} {enableVal : Memory} {rest : Memory → List Action}
    (name_single : '\n' ∉ name.toList)
    (ends : ∀ enableVal, EndsLine (consoleText dump (rest enableVal))) :
    EndsLine (consoleText dump (flagged get netoptEnable option name enableVal rest)) := by
  simp only [flagged, consoleText_append]
  refine .append (.inl ?_) (ends _)
  split
  · simpa using name_single
  · simp

theorem endsLine_flagLine (get : GetOption) (netoptEnable : List UInt8) (enableVal : Memory) :
    EndsLine ('\n' :: consoleText dump (flagLine get netoptEnable enableVal)) := by
  rw [flagLine, consoleText_cons, text_say, ← List.cons_append]
  refine .append (.inr ⟨"        ".toList, rfl, by decide⟩) ?_
  refine endsLine_flagged dump (by decide) fun _ => ?_
  refine endsLine_flagged dump (by decide) fun _ => ?_
  refine endsLine_flagged dump (by decide) fun _ => ?_
  refine endsLine_flagged dump (by decide) fun _ => ?_
  refine endsLine_flagged dump (by decide) fun _ => ?_
  exact endsLine_newline

theorem endsLine_channelLines (call : IfconfigCall) (u16Val : Memory) :
    EndsLine (consoleText dump (channelLines call u16Val).2) := by
  have wired (flag : Prop) [Decidable flag] :
      EndsLine (consoleText dump (.say (if flag then ", wireless\n" else ", wired\n") ::
        flagLine call.get call.netoptEnable call.locals.enableVal)) := by
    have flags := endsLine_flagLine dump call.get call.netoptEnable call.locals.enableVal
    have wireless : ", wireless\n".toList = ", wireless".toList ++ ['\n'] := rfl
    have wired : ", wired\n".toList = ", wired".toList ++ ['\n'] := rfl
    rw [consoleText_cons, text_say]
    split
    · rw [wireless, List.append_assoc]
      exact .append (.inl (by decide)) flags
    · rw [wired, List.append_assoc]
      exact .append (.inl (by decide)) flags
  have channel : Continues ("\n           Channel: ".toList ++ Text.decimal call.chan.toNat) :=
    .append (.inr ⟨"          Channel: ".toList, rfl, by decide⟩) (Text.newline_not_mem_decimal _)
  simp only [channelLines, consoleText_cons, text_print]
  refine .append channel ?_
  refine endsLine_required dump (.inl (by decide)) (by decide) fun _ => ?_
  exact endsLine_required dump (.inl (by decide)) (by decide) fun _ => wired _

theorem continues_iidLine (call : IfconfigCall) : Continues (consoleText dump (iidLine call)) := by
  simp only [iidLine]
  split
  · simp only [consoleText_cons, consoleText_nil, text_say, text_print, List.append_nil]
    exact .append (.inr ⟨"          IPv6 IID: ".toList, rfl, by decide⟩)
      (newline_not_mem_printAddr _)
  · exact .inl (by simp)

/-- What follows the head of a block ends the line of the head and goes on indented. -/
theorem endsLine_ifconfigList (call : IfconfigCall) (idx : Nat) (dev : Netdev) :
    ∃ text, consoleText dump (ifconfigList call idx dev).2 =
        consoleText dump (ifaceHead idx dev) ++ text ∧ EndsLine text := by
  simp only [ifconfigList, consoleText_append]
  refine ⟨_, rfl, ?_⟩
  refine endsLine_required dump ?_ (by decide) fun _ => ?_
  · exact .inr ⟨"          Address length: ".toList, rfl, by decide⟩
  refine endsLine_required dump (.inl (by decide)) (by decide) fun _ => ?_
  refine endsLine_required dump (.inl (by decide)) (by decide) fun u16Val => ?_
  rw [consoleText_append]
  exact .append (continues_iidLine dump call) (endsLine_channelLines dump call u16Val)

end Blocks

/-- The part of a device's line that does not depend on the driver, behind `Iface`. -/
def ifaceBody (idx : Nat) (dev : Netdev) : Text :=
  Text.decimalWidth 3 idx ++ "  HWaddr: ".toList ++ printAddr dev.shortAddr.toList ++
    ", Long HWaddr: ".toList ++ printAddr dev.longAddr.toList ++ ", PAN: 0x".toList ++
    Hex.fixed Nat.digitChar 4 dev.pan.toNat

theorem newline_not_mem_ifaceBody (idx : Nat) (dev : Netdev) : '\n' ∉ ifaceBody idx dev := by
  have number : '\n' ∉ Text.decimalWidth 3 idx :=
    Text.not_mem_of_isNumeral rfl fun _ => Text.isNumeral_of_mem_decimalWidth
  simp [ifaceBody, number, newline_not_mem_printAddr, newline_not_mem_fixed]

/-- A block is the line of its device and indented lines. -/
theorem exists_lines_ifconfigList (dump : HexDump) (call : IfconfigCall) (idx : Nat)
    (dev : Netdev) :
    ∃ part lines, consoleText dump (ifconfigList call idx dev).2 =
        written (⟨"Iface ", ifaceBody idx dev ++ part⟩ :: lines) ∧
      (∀ line ∈ (⟨"Iface ", ifaceBody idx dev ++ part⟩ :: lines : List Line), line.Single) ∧
      ∀ line ∈ lines, Other "Iface " line := by
  obtain ⟨text, block, part, lines, rfl, part_single, indented⟩ :=
    endsLine_ifconfigList dump call idx dev
  refine ⟨part, lines, ?_, ?_, ?_⟩
  · rw [block]
    simp [ifaceHead, ifaceBody, Line.text]
  · rw [List.forall_mem_cons]
    refine ⟨?_, fun line member => (indented line member).1⟩
    simp [Line.Single, Line.text, newline_not_mem_ifaceBody, part_single]
  · intro line member
    exact .of_head rfl (indented line member).2 (by decide)

/-- Whatever the driver answers, `ifconfig` prints one line for each device in order, and it starts
with the device's addresses and PAN. -/
theorem labelled_ifconfig (dump : HexDump) (calls : Nat → IfconfigCall) (radios : Radios) :
    ∃ parts : Netdev × Nat → Text,
      labelled "Iface " (consoleText dump (ifconfig calls radios).2) =
        radios.devs.zipIdx.map fun entry =>
          "Iface ".toList ++ (ifaceBody entry.2 entry.1 ++ parts entry) ++ ['\n'] := by
  choose parts lines block single other using fun entry : Netdev × Nat =>
    exists_lines_ifconfigList dump (calls entry.2) entry.2 entry.1
  let head (entry : Netdev × Nat) : Line := ⟨"Iface ", ifaceBody entry.2 entry.1 ++ parts entry⟩
  have whole : consoleText dump (ifconfig calls radios).2 =
      written (radios.devs.zipIdx.flatMap fun entry => head entry :: lines entry) := by
    rw [ifconfig, consoleText, List.flatMap_assoc, written, List.flatMap_assoc]
    exact List.flatMap_congr fun entry _ => block entry
  have all_single : ∀ line ∈ radios.devs.zipIdx.flatMap fun entry => head entry :: lines entry,
      line.Single := by
    intro line member
    obtain ⟨entry, -, inside⟩ := List.mem_flatMap.mp member
    exact single entry line inside
  have kept (entry : Netdev × Nat) : (head entry :: lines entry).filter
      (fun line => "Iface ".toList.isPrefixOf (line.text ++ ['\n'])) = [head entry] := by
    rw [List.filter_cons_of_pos, List.filter_eq_nil_iff.mpr]
    · intro line member
      rw [List.isPrefixOf_iff_prefix]
      exact other entry line member
    · rw [List.isPrefixOf_iff_prefix, Line.text, List.append_assoc]
      exact List.prefix_append ..
  refine ⟨parts, ?_⟩
  rw [whole, labelled_written all_single, List.filter_flatMap]
  simp only [kept]
  rw [← List.map_eq_flatMap, List.map_map]
  rfl

/-- What a user reads in the line of a device. -/
structure IfaceReading (line : Text) where
  front : Text
  short : Text
  long : Text
  pan : Text
  rest : Text
  line_eq : line = "Iface ".toList ++ (front ++ "HWaddr: ".toList ++ short ++
    ", Long HWaddr: ".toList ++ long ++ ", PAN: 0x".toList ++ pan ++ rest)
  front_solid : 'H' ∉ front
  short_solid : ',' ∉ short
  long_solid : ',' ∉ long
  pan_length : pan.length = 4

/-- The addresses and the PAN that are read are those of the device. -/
theorem IfaceReading.eq_printed {line part : Text} {idx : Nat} {dev : Netdev}
    (reading : IfaceReading line)
    (printed : line = "Iface ".toList ++ (ifaceBody idx dev ++ part) ++ ['\n']) :
    reading.short = printAddr dev.shortAddr.toList ∧
      reading.long = printAddr dev.longAddr.toList ∧
      reading.pan = Hex.fixed Nat.digitChar 4 dev.pan.toNat := by
  have number : 'H' ∉ Text.decimalWidth 3 idx ++ "  ".toList := by
    have numeral : 'H' ∉ Text.decimalWidth 3 idx :=
      Text.not_mem_of_isNumeral rfl fun _ => Text.isNumeral_of_mem_decimalWidth
    simp [numeral]
  have comma (addr : List UInt8) : ',' ∉ printAddr addr := not_mem_printAddr rfl (by decide) addr
  rw [reading.line_eq] at printed
  have bodies := List.append_cancel_left (printed.trans (List.append_assoc ..))
  have whole : reading.front ++ 'H' :: ("Waddr: ".toList ++ (reading.short ++
      ',' :: (" Long HWaddr: ".toList ++ (reading.long ++
        ',' :: (" PAN: 0x".toList ++ (reading.pan ++ reading.rest)))))) =
      (Text.decimalWidth 3 idx ++ "  ".toList) ++ 'H' :: ("Waddr: ".toList ++
        (printAddr dev.shortAddr.toList ++ ',' :: (" Long HWaddr: ".toList ++
          (printAddr dev.longAddr.toList ++ ',' :: (" PAN: 0x".toList ++
            (Hex.fixed Nat.digitChar 4 dev.pan.toNat ++ (part ++ ['\n']))))))) := by
    simpa [ifaceBody] using bodies
  obtain ⟨-, addresses⟩ := Text.eq_of_cut reading.front_solid number whole
  obtain ⟨short, longs⟩ := Text.eq_of_cut reading.short_solid (comma _)
    (List.append_cancel_left addresses)
  obtain ⟨long, pans⟩ := Text.eq_of_cut reading.long_solid (comma _)
    (List.append_cancel_left longs)
  have pan := List.append_inj_left (List.append_cancel_left pans) (by
    rw [reading.pan_length, Hex.length_fixed])
  exact ⟨short, long, pan⟩

/-- Whatever the driver answers to `ifconfig`, the PAN and either address that are read in the line
of a device and typed into a command on any node reach this device; a PAN of zero stands for that of
the device the command is sent on. -/
theorem ifconfig_reaches (net : Ieee802154) (builds : BuildsHeaders net)
    (encodes : EncodesHeaders net) (dump : HexDump) (calls : Nat → IfconfigCall) (radios : Radios) :
    (labelled "Iface " (consoleText dump (ifconfig calls radios).2)).length =
        radios.devs.length ∧
      ∀ (idx : Nat) (line : Text),
        (labelled "Iface " (consoleText dump (ifconfig calls radios).2))[idx]? = some line →
          ∃ dev, radios.devs[idx]? = some dev ∧
            ∀ (reading : IfaceReading line) (typed : TypedCommand),
              typed.pan.chars = reading.pan →
                (typed.addr.chars = reading.short →
                  typed.Reaches net dev.shortAddr.toList dev.pan) ∧
                (typed.addr.chars = reading.long →
                  typed.Reaches net dev.longAddr.toList dev.pan) := by
  obtain ⟨parts, lines⟩ := labelled_ifconfig dump calls radios
  rw [lines]
  constructor
  · rw [List.length_map, List.length_zipIdx]
  · intro idx line found
    rw [List.getElem?_map, Option.map_eq_some_iff] at found
    obtain ⟨⟨dev, index⟩, entry, printed⟩ := found
    obtain ⟨found, rfl⟩ : radios.devs[idx]? = some dev ∧ index = idx := by
      rw [List.getElem?_zipIdx, Option.map_eq_some_iff] at entry
      obtain ⟨other, other_found, pair⟩ := entry
      simp only [Prod.mk.injEq, Nat.zero_add] at pair
      exact ⟨pair.1 ▸ other_found, pair.2.symm⟩
    refine ⟨dev, found, ?_⟩
    intro reading typed pan
    obtain ⟨short_eq, long_eq, pan_eq⟩ := reading.eq_printed printed.symm
    constructor
    · intro addr
      exact typed.reaches_of_printed builds encodes (.inl (List.Vector.toList_length _))
        (pan.trans pan_eq) (addr.trans short_eq)
    · intro addr
      exact typed.reaches_of_printed builds encodes (.inr (List.Vector.toList_length _))
        (pan.trans pan_eq) (addr.trans long_eq)

/-- A driver that fails to give the channel page. -/
def sampleIfconfig : IfconfigCall where
  get option := if option = .channelPage then (-95, []) else (2, [1, 0])
  netoptEnable := [1, 0]
  locals := ⟨fun _ => 0, fun _ => 0, fun _ => 0⟩
  chan := 26

def sampleLine : Text :=
  "Iface   0  HWaddr: 07:08, Long HWaddr: 01:02:03:04:05:06:07:08, PAN: 0x0023\n".toList

def sampleReading : IfaceReading sampleLine where
  front := "  0  ".toList
  short := "07:08".toList
  long := "01:02:03:04:05:06:07:08".toList
  pan := "0023".toList
  rest := ['\n']
  line_eq := by decide
  front_solid := by decide
  short_solid := by decide
  long_solid := by decide
  pan_length := rfl

/-- The address `07:08` and the PAN `0023` read in this line reach the device. -/
theorem sample_ifconfig_reaches : sampleAnswer.Reaches dataFrameNet [7, 8] 0x0023 := by
  obtain ⟨dev, found, reaches⟩ := (ifconfig_reaches dataFrameNet buildsHeaders_dataFrameNet
    encodesHeaders_dataFrameNet sampleDump (fun _ => sampleIfconfig) freshNode.radios).2 0
    sampleLine (by decide +kernel)
  obtain rfl : replyDevice freshNode.radios = dev := Option.some.inj found
  exact (reaches sampleReading sampleAnswer (by decide)).1 (by decide)

end PpmlIot.Signecc

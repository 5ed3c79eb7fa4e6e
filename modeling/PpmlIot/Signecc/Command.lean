import PpmlIot.Signecc.Radio

/-!
# The shell commands

`txtreqsign` and `txtsnd` parse an interface, an optional PAN and an address, put a tag and the text
into a buffer on the stack and call `send`, which measures the buffer with `strlen`.  The buffer is
not initialised and the text is copied without its terminator, so the bytes left on the stack are
part of a call.
-/

namespace PpmlIot.Signecc

open Library

inductive Access
  | input (index : Nat)
  | output (index : Nat)
  deriving DecidableEq

/-- `_dehex` -/
def dehex (c : UInt8) (default : Int) : Int :=
  if '0'.toUInt8 ≤ c ∧ c ≤ '9'.toUInt8 then
    (c.toNat : Int) - '0'.toNat
  else if 'A'.toUInt8 ≤ c ∧ c ≤ 'F'.toUInt8 then
    (c.toNat : Int) - 'A'.toNat + 10
  else if 'a'.toUInt8 ≤ c ∧ c ≤ 'f'.toUInt8 then
    (c.toNat : Int) - 'a'.toNat + 10
  else
    default

/-- The variables of `_parse_addr` while it scans its input. -/
structure Scan where
  out : Memory
  outEnd : Nat
  count : Nat
  assertCell : Bool
  /-- The bytes touched so far, latest first. -/
  touched : List Access

/-- Count a cell and store it; `none` when there is no room. -/
def Scan.cell (scan : Scan) (outLen : Nat) (a b : Int) : Except Scan Scan :=
  let counted := { scan with count := scan.count + 1, assertCell := false }
  if counted.count > outLen then
    .error counted
  else
    .ok
      { counted with
        out := scan.out.write scan.outEnd [UInt8.ofNat ((a.toNat <<< 4) ||| b.toNat)]
        outEnd := scan.outEnd + 1
        touched := .output scan.outEnd :: scan.touched }

/-- The backward loop, with `end_str` at the last of the characters that are left; an error is a
`return 0`. -/
def scanBack (input : List UInt8) (outLen : Nat) : Nat → Scan → Except Scan Scan
  | 0, scan => .ok scan
  | left + 1, scan =>
      let read := { scan with touched := .input left :: scan.touched }
      let b := dehex (input.getD left 0) (-1)
      if b < 0 then
        if scan.assertCell then .error read
        else scanBack input outLen left { read with assertCell := true }
      else
        match left with
        | 0 => read.cell outLen 0 b
        | left + 1 =>
            let read := { read with touched := .input left :: read.touched }
            let a := dehex (input.getD left 0) 0
            match read.cell outLen a b with
            | .error full => .error full
            | .ok stored => scanBack input outLen left stored

/-- The loop `while (end_str[1])`, from index `index` with `rest` behind it. -/
def seekEnd : Nat → List UInt8 → Nat
  | index, [] => index
  | index, _ :: rest => seekEnd (index + 1) rest

/-- The loop that reverses `out`. -/
def reverseOut : Nat → Nat → Memory × List Access → Memory × List Access
  | _, 0, state => state
  | out, outEnd + 1, (memory, touched) =>
      if out < outEnd then
        reverseOut (out + 1) outEnd
          ((memory.write outEnd [memory out]).write out [memory outEnd],
            .output out :: .output outEnd :: touched)
      else
        (memory, touched)

structure AddrParse where
  result : Int
  out : Memory
  touched : List Access

/-- `_parse_addr`; a missing input is `NULL`. -/
def parseAddr (out : Memory) (outLen : Nat) : Option CString → AddrParse
  | none => { result := 0, out, touched := [] }
  | some input =>
      match input.bytes with
      | [] => { result := 0, out, touched := [.input 0] }
      | first :: rest =>
          let last := seekEnd 0 rest
          let start : Scan :=
            { out, outEnd := 0, count := 0, assertCell := true
              touched := (List.range (last + 2)).map .input }
          match scanBack (first :: rest) outLen (last + 1) start with
          | .error scan => { result := 0, out := scan.out, touched := scan.touched }
          | .ok scan =>
              if scan.assertCell then
                { result := 0, out := scan.out, touched := scan.touched }
              else
                let (out, touched) := reverseOut 0 scan.outEnd (scan.out, scan.touched)
                { result := scan.count, out, touched }

/-- `atoi`: blanks, a sign and decimal digits, saturating at the bounds of `int`. -/
def atoi (text : CString) : Int :=
  let isDigit (c : UInt8) : Bool := '0'.toUInt8 ≤ c ∧ c ≤ '9'.toUInt8
  let number (digits : List UInt8) : Int :=
    (digits.takeWhile isDigit).foldl (fun value c => 10 * value + (c.toNat - '0'.toNat : Nat)) 0
  let value :=
    match text.bytes.dropWhile fun c => c = 0x20 ∨ 0x09 ≤ c ∧ c ≤ 0x0d with
    | 0x2d :: digits => -number digits
    | 0x2b :: digits => number digits
    | digits => number digits
  max (-2147483648) (min 2147483647 value)

/-- What lies on the stack under the 512 bytes of `dataBuffer`, and behind them up to the next
NUL. -/
structure StackBytes where
  bytes : List.Vector UInt8 512
  beyond : List UInt8

/-- What one call of a command meets: the stack memory of its local arrays and the driver. -/
structure CommandCall where
  addr : Memory
  dataBuffer : StackBytes
  driverSend : List UInt8 → List UInt8 → Int

structure Arguments where
  iface : Int
  pan : UInt16
  addr : List UInt8
  text : CString
  deriving DecidableEq

def parseRest (stack : Memory) (pan : UInt16) (iface addr text : CString) : Option Arguments :=
  let parsed := parseAddr stack 8 addr
  if parsed.result ≤ 0 then none
  else some { iface := atoi iface, pan, addr := parsed.out.slice 0 parsed.result.toNat, text }

/-- The arguments of `txtreqsign` and `txtsnd`, with the stack memory under `addr`; `none` when the
usage is printed. -/
def parseArguments (stack : Memory) : List CString → Option Arguments
  | [_, iface, addr, text] => parseRest stack 0 iface addr text
  | [_, iface, pan, addr, text] =>
      let parsed := parseAddr (fun _ => 0) 2 pan
      if parsed.result ≤ 0 ∨ parsed.result > 2 then none
      else
        let u16 := (parsed.out 0).toUInt16 ||| (parsed.out 1).toUInt16 <<< 8
        parseRest stack (byteorderSwaps u16) iface addr text
  | _ => none

/-- `txtreqsign_usage` and `txtsnd_usage` -/
def usage (argv : List CString) : Action :=
  .print ("usage: ".toList ++ (argv.head?.map CString.chars).getD [] ++
    " <iface> [<pan>] <addr> <text>\n".toList)

/-- `dataBuffer` after the tag and the text have been stored in it, and what lies behind it. -/
def fillBuffer (tag : UInt8) (buffer : StackBytes) (text : CString) : List UInt8 :=
  Memory.splice (Memory.splice (buffer.bytes.toList ++ buffer.beyond) 0 [tag]) 1 text.bytes

/-- The common body of `txtreqsign` and `txtsnd`. -/
def textCommand (tag : UInt8) (net : Ieee802154) (radios : Radios) (call : CommandCall)
    (argv : List CString) : SendRun :=
  match parseArguments call.addr argv with
  | none => { result := 1, actions := [usage argv], radios }
  | some arguments =>
      send net call.driverSend radios arguments.iface arguments.pan arguments.addr
        (fillBuffer tag call.dataBuffer arguments.text)

def txtreqsign : Ieee802154 → Radios → CommandCall → List CString → SendRun :=
  textCommand 0xFF

def txtsnd : Ieee802154 → Radios → CommandCall → List CString → SendRun :=
  textCommand 0xEE

/-- `send` takes the tag, the text and the leftover bytes behind the text up to a NUL. -/
theorem cString_fillBuffer {tag : UInt8} (nonzero : tag ≠ 0) (buffer : StackBytes)
    (text : CString) :
    Memory.cString (fillBuffer tag buffer text) =
      tag :: text.bytes ++ Memory.cString
        ((buffer.bytes.toList ++ buffer.beyond).drop (1 + text.bytes.length)) := by
  have nul_free : 0 ∉ tag :: text.bytes := by
    simp [text.nul_free, nonzero.symm]
  obtain ⟨first, rest, stack⟩ : ∃ first rest,
      buffer.bytes.toList ++ buffer.beyond = first :: rest := by
    apply List.exists_cons_of_length_pos
    simp
  have layout : fillBuffer tag buffer text =
      (tag :: text.bytes) ++
        (buffer.bytes.toList ++ buffer.beyond).drop (1 + text.bytes.length) := by
    rw [fillBuffer, stack]
    simp [Memory.splice, Nat.add_comm 1]
  rw [layout, Memory.cString_append nul_free]

/-- A blind observation of a command sees at most one frame, whose payload starts with the tag. -/
theorem textCommand_filterMap {β : Type*} {pick : Action → Option β} (blind : Blind pick)
    {tag : UInt8} (nonzero : tag ≠ 0) (net : Ieee802154) (radios : Radios) (call : CommandCall)
    (argv : List CString) :
    (textCommand tag net radios call argv).actions.filterMap pick = [] ∨
      ∃ device header rest, (textCommand tag net radios call argv).actions.filterMap pick =
        (pick (.transmit device header (tag :: rest))).toList := by
  unfold textCommand
  cases parseArguments call.addr argv with
  | none => exact .inl (by simp [usage, blind.print])
  | some arguments =>
      by_cases inside : unsigned arguments.iface < radios.devs.length
      · right
        dsimp only
        rw [send, sendFrame_filterMap blind net _ inside, cString_fillBuffer nonzero]
        exact ⟨_, _, _, rfl⟩
      · left
        have nonempty := radios.nonempty
        have outside : unsigned arguments.iface > radios.devs.length - 1 := by omega
        simp [send, sendFrame, outside, blind.print]

/-- A command transmits nothing, or one frame for the address it names, whose payload starts with
the tag. -/
theorem textCommand_transmissions {tag : UInt8} (nonzero : tag ≠ 0) (net : Ieee802154)
    (radios : Radios) (call : CommandCall) (argv : List CString) :
    (textCommand tag net radios call argv).actions.filterMap transmission = [] ∨
      ∃ arguments inside rest, parseArguments call.addr argv = some arguments ∧
        (textCommand tag net radios call argv).actions.filterMap transmission =
          [(unsigned arguments.iface,
            buildHeader net (radios.devs.get ⟨unsigned arguments.iface, inside⟩) arguments.pan
              arguments.addr, tag :: rest)] := by
  unfold textCommand
  cases parseArguments call.addr argv with
  | none => exact .inl rfl
  | some arguments =>
      by_cases inside : unsigned arguments.iface < radios.devs.length
      · right
        refine ⟨arguments, inside, arguments.text.bytes ++ Memory.cString
          ((call.dataBuffer.bytes.toList ++ call.dataBuffer.beyond).drop
            (1 + arguments.text.bytes.length)), rfl, ?_⟩
        dsimp only
        rw [send, sendFrame_filterMap blind_transmission net _ inside, cString_fillBuffer nonzero]
        rfl
      · left
        have nonempty := radios.nonempty
        have outside : unsigned arguments.iface > radios.devs.length - 1 := by omega
        simp [send, sendFrame, outside, blind_transmission.print]

end PpmlIot.Signecc

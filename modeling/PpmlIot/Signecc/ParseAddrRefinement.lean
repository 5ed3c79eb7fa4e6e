import PpmlIot.Signecc.ParseAddrLoops

/-!
# The loops refine the address parser

With its pointers and loops `_parse_addr` returns what `parseAddr` returns, leaves the same bytes in
the output and touches the same bytes, whatever lies around the string and around the output.
-/

namespace PpmlIot.Signecc

open Library

def Access.touch : Access → Touch
  | .input index => .input index
  | .output index => .output index

/-- The same bytes from the start of the output on. -/
def SameBytes (bytes : Int → UInt8) (out : Memory) : Prop :=
  ∀ index : Nat, bytes index = out index

/-- The same bytes touched, in any order. -/
def SameTouches (touched : List Touch) (accesses : List Access) : Prop :=
  ∀ touch, touch ∈ touched ↔ touch ∈ accesses.map Access.touch

/-- A return of the loops is that of a run of `parseAddr`. -/
structure Agrees (returned : Returned) (parse : AddrParse) : Prop where
  result : returned.result = parse.result
  bytes : SameBytes returned.pointers.bytes parse.out
  touched : SameTouches returned.pointers.touched parse.touched

theorem SameBytes.write {bytes : Int → UInt8} {out : Memory} (same : SameBytes bytes out)
    (index : Nat) (byte : UInt8) :
    SameBytes (Function.update bytes index byte) (out.write index [byte]) := by
  intro other
  rw [Memory.write_singleton_apply]
  split
  · rename_i equal
    rw [equal, Function.update_self]
  · rename_i different
    rw [Function.update_of_ne (by omega), same]

theorem SameTouches.cons {touched : List Touch} {accesses : List Access}
    (same : SameTouches touched accesses) (access : Access) :
    SameTouches (access.touch :: touched) (access :: accesses) := by
  intro touch
  rw [List.map_cons, List.mem_cons, List.mem_cons, same touch]

theorem SameTouches.range {touched : List Touch} {count : Nat}
    (same : SameTouches touched ((List.range count).map .input)) :
    SameTouches (.input count :: touched) ((List.range (count + 1)).map .input) := by
  intro touch
  rw [List.range_succ, List.map_append, List.map_append, List.mem_append, List.mem_cons,
    same touch, or_comm]
  exact or_congr_right List.mem_singleton.symm

/-- The variables of the reversal are the arguments of `reverseOut`. -/
structure Reverses (pointers : Pointers) (front behind : Nat) (memory : Memory)
    (accesses : List Access) : Prop where
  out : pointers.out = front
  outEnd : pointers.outEnd = behind
  bytes : SameBytes pointers.bytes memory
  touched : SameTouches pointers.touched accesses

/-- What the reversal is to come to, and the count that is returned then. -/
structure ReversesTo (final : Memory × List Access) (count : Nat) (pointers : Pointers) :
    Prop where
  count : pointers.count = count
  state : ∃ front behind memory accesses, Reverses pointers front behind memory accesses ∧
    reverseOut front behind (memory, accesses) = final

/-- One turn of the reversal is one of `reverseOut`, and none returns. -/
theorem ReversesTo.turn {final : Memory × List Access} {count : Nat} {pointers : Pointers}
    (reverses : ReversesTo final count pointers) (returned : Returned → Prop) :
    (reverseTurn pointers).Meets
      (fun next => ReversesTo final count next ∧ next.outEnd.toNat < pointers.outEnd.toNat)
      (fun last => last.count = count ∧ SameBytes last.bytes final.1 ∧
        SameTouches last.touched final.2)
      returned := by
  obtain ⟨counted, front, behind, memory, accesses, ⟨out, outEnd, bytes, touched⟩, rfl⟩ :=
    reverses
  rw [reverseTurn, out, outEnd]
  dsimp only
  cases behind with
  | zero =>
      rw [if_neg (by omega)]
      exact ⟨counted, bytes, touched⟩
  | succ behind =>
      rw [Nat.cast_add_one, add_sub_cancel_right, reverseOut]
      by_cases apart : front < behind
      · rw [if_pos (Int.ofNat_lt.mpr apart), if_pos apart, bytes front, bytes behind]
        have swapped := (bytes.write behind (memory front)).write front (memory behind)
        have noted := (touched.cons (.output behind)).cons (.output front)
        refine ⟨⟨counted, front + 1, behind, _, _, ⟨?_, rfl, swapped, noted⟩, rfl⟩, ?_⟩
        · exact (Nat.cast_add_one front).symm
        · change (behind : Int).toNat < (behind + 1 : Int).toNat
          omega
      · rw [if_neg (mt Int.ofNat_lt.mp apart), if_neg apart]
        exact ⟨counted, bytes, touched⟩

theorem Reverses.loop {pointers : Pointers} {behind : Nat} {memory : Memory}
    {accesses : List Access} (reverses : Reverses pointers 0 behind memory accesses) {fuel : Nat}
    (enough : behind < fuel) :
    ∃ returned,
      runLoop reverseTurn (fun reversed => some ⟨reversed.count, reversed⟩) fuel pointers =
        some returned ∧
      Agrees returned
        { result := pointers.count
          out := (reverseOut 0 behind (memory, accesses)).1
          touched := (reverseOut 0 behind (memory, accesses)).2 } := by
  have start : ReversesTo (reverseOut 0 behind (memory, accesses)) pointers.count pointers :=
    ⟨rfl, 0, behind, memory, accesses, reverses, rfl⟩
  have outEnd := reverses.outEnd
  refine runLoop_ends (fun state => state.outEnd.toNat) (fun _ before => before.turn _) ?_ start
    (by omega)
  intro last ⟨count, bytes, touched⟩
  exact ⟨_, rfl, congrArg Nat.cast count, bytes, touched⟩

/-- The variables of the loops are those of the scan, with `left` characters in front of it. -/
structure Follows (pointers : Pointers) (left : Nat) (scan : Scan) : Prop where
  endStr : pointers.endStr = left - 1
  out : pointers.out = 0
  outEnd : pointers.outEnd = scan.outEnd
  count : pointers.count = scan.count
  assertCell : pointers.assertCell = scan.assertCell
  bytes : SameBytes pointers.bytes scan.out
  touched : SameTouches pointers.touched scan.touched

/-- What a scan of the string is to come to; each byte stored took a character. -/
def ScansTo (string : CString) (outLen : Nat) (parse : AddrParse) (pointers : Pointers) : Prop :=
  ∃ left scan, Follows pointers left scan ∧ scan.outEnd + left ≤ string.bytes.length ∧
    conclude (scanBack string.bytes outLen left scan) = parse

section Scan

variable {string : CString} {outLen left : Nat} {pointers : Pointers} {scan : Scan}

theorem Follows.endStr_eq (follows : Follows pointers (left + 1) scan) :
    pointers.endStr = left := by
  rw [follows.endStr, Nat.cast_add_one, add_sub_cancel_right]

theorem Follows.flag (follows : Follows pointers left scan) (flag : Bool) :
    Follows { pointers with assertCell := flag } left { scan with assertCell := flag } :=
  { follows with assertCell := rfl }

theorem Follows.readBack (follows : Follows pointers (left + 1) scan) :
    Follows pointers.readBack left (scan.reading left) where
  endStr := congrArg (· - 1) follows.endStr_eq
  out := follows.out
  outEnd := follows.outEnd
  count := follows.count
  assertCell := follows.assertCell
  bytes := follows.bytes
  touched := by
    have noted := follows.touched.cons (.input left)
    rwa [Access.touch, ← follows.endStr_eq] at noted

theorem Follows.readUpper_zero (follows : Follows pointers 0 scan) (input : Int → UInt8) :
    Pointers.readUpper input pointers = (((0 : Nat) : Int), pointers) := by
  have endStr := follows.endStr
  rw [Pointers.readUpper, if_neg (by omega)]
  rfl

theorem Follows.readUpper_succ (follows : Follows pointers (left + 1) scan)
    (short : left ≤ string.bytes.length) (around : Int → UInt8) :
    Pointers.readUpper (memoryAround string around) pointers =
      ((((hexValue (string.bytes.getD left 0)).getD 0 : Nat) : Int), pointers.readBack) := by
  have nonneg : (left : Int) ≥ 0 := Int.natCast_nonneg _
  rw [Pointers.readUpper, follows.endStr_eq, if_pos nonneg, memoryAround_of_le string around short,
    (dehex_eq _).2]

/-- The end of a turn behind its reads is `Scan.cell`. -/
theorem Follows.cell (follows : Follows pointers left scan)
    (unflagged : pointers.assertCell = false) (short : scan.outEnd + left < string.bytes.length)
    (a b : Int) {before : Nat} (closer : (pointers.endStr + 1).toNat < before)
    (last : Pointers → Prop) :
    (if pointers.count + 1 > outLen then
        Turn.finish ⟨0, { pointers with count := pointers.count + 1 }⟩
      else
        Turn.again (Pointers.store { pointers with count := pointers.count + 1 }
          (UInt8.ofNat ((a.toNat <<< 4) ||| b.toNat)))).Meets
      (fun next => ScansTo string outLen
        (conclude (scan.cell outLen a b >>= scanBack string.bytes outLen left)) next ∧
          (next.endStr + 1).toNat < before)
      last
      (fun returned => Agrees returned
        (conclude (scan.cell outLen a b >>= scanBack string.bytes outLen left))) := by
  rw [Scan.cell, follows.count]
  dsimp only
  by_cases full : scan.count + 1 > outLen
  · rw [if_pos full, if_pos full]
    exact ⟨rfl, follows.bytes, follows.touched⟩
  · rw [if_neg full, if_neg full]
    generalize UInt8.ofNat ((a.toNat <<< 4) ||| b.toNat) = byte
    have stored : Follows (Pointers.store { pointers with count := scan.count + 1 } byte) left
        { out := scan.out.write scan.outEnd [byte], outEnd := scan.outEnd + 1
          count := scan.count + 1, assertCell := false
          touched := .output scan.outEnd :: scan.touched } := by
      have written := follows.bytes.write scan.outEnd byte
      have noted := follows.touched.cons (.output scan.outEnd)
      rw [← follows.outEnd] at written
      rw [Access.touch, ← follows.outEnd] at noted
      exact ⟨follows.endStr, follows.out, congrArg (· + 1) follows.outEnd, rfl, unflagged, written,
        noted⟩
    have passed : scan.outEnd + 1 + left ≤ string.bytes.length := by omega
    exact ⟨⟨left, _, stored, passed, rfl⟩, closer⟩

/-- One turn of the backward scan is one of `scanBack`. -/
theorem ScansTo.turn {parse : AddrParse} (scans : ScansTo string outLen parse pointers)
    (around : Int → UInt8) :
    (scanTurn (memoryAround string around) outLen pointers).Meets
      (fun next => ScansTo string outLen parse next ∧
        (next.endStr + 1).toNat < (pointers.endStr + 1).toNat)
      (fun last => ∃ scan, Follows last 0 scan ∧ scan.outEnd ≤ string.bytes.length ∧
        conclude (.ok scan) = parse)
      (fun returned => Agrees returned parse) := by
  obtain ⟨left, scan, follows, short, rfl⟩ := scans
  rw [scanTurn]
  cases left with
  | zero =>
      have endStr := follows.endStr
      rw [if_neg (by omega)]
      exact ⟨scan, follows, short, rfl⟩
  | succ left =>
      have endStr := follows.endStr_eq
      have read := follows.readBack
      have nearer : (pointers.readBack.endStr + 1).toNat < (left + 1 : Int).toNat := by
        simp only [Pointers.readBack, Pointers.touch]
        omega
      rw [if_pos (by omega), endStr, memoryAround_of_le string around (by omega)]
      cases found : hexValue (string.bytes.getD left 0) with
      | none =>
          rw [scanBack_foreign found, ← follows.assertCell]
          dsimp only
          rw [if_pos (dehex_neg_iff.mpr found)]
          change Turn.Meets _ _ _ (if pointers.assertCell = true then _ else _)
          split
          · exact ⟨rfl, read.bytes, read.touched⟩
          · exact ⟨⟨left, _, read.flag true, Nat.le_of_lt short, rfl⟩, nearer⟩
      | some low =>
          have nonneg : ¬ (low : Int) < 0 := by omega
          rw [dehex_of_digit found]
          dsimp only
          rw [if_neg nonneg]
          have digit := read.flag false
          cases left with
          | zero =>
              rw [scanBack_first found, digit.readUpper_zero]
              exact digit.cell rfl short _ _ nearer _
          | succ left =>
              rw [scanBack_pair found, digit.readUpper_succ (by omega)]
              have second := digit.readBack
              have further := second.endStr
              exact second.cell rfl (Nat.lt_of_succ_lt short) _ _ (by omega) _

theorem Follows.reverseLoop (follows : Follows pointers 0 scan) {fuel : Nat}
    (enough : scan.outEnd < fuel) :
    ∃ returned, reverseLoop fuel pointers = some returned ∧
      Agrees returned (conclude (.ok scan)) := by
  rw [Signecc.reverseLoop, conclude, ← follows.assertCell, ← follows.count]
  split
  · exact ⟨_, rfl, rfl, follows.bytes, follows.touched⟩
  · exact Reverses.loop ⟨follows.out, follows.outEnd, follows.bytes, follows.touched⟩ enough

theorem ScansTo.loop {parse : AddrParse} (scans : ScansTo string outLen parse pointers)
    (around : Int → UInt8) {fuel : Nat} (enough : string.bytes.length < fuel) :
    ∃ returned, scanLoop (memoryAround string around) outLen fuel pointers = some returned ∧
      Agrees returned parse := by
  have short : (pointers.endStr + 1).toNat < fuel := by
    obtain ⟨left, scan, follows, passed, -⟩ := scans
    have endStr := follows.endStr
    omega
  refine runLoop_ends (fun state => (state.endStr + 1).toNat) (fun _ state => state.turn around) ?_
    scans short
  rintro last ⟨scan, follows, passed, rfl⟩
  exact follows.reverseLoop (by omega)

end Scan

/-- The variables of `parseAddr` when characters are read up to an index. -/
def readUpTo (out : Memory) (index : Nat) : Scan :=
  { out, outEnd := 0, count := 0, assertCell := true
    touched := (List.range (index + 1)).map .input }

def Passes (string : CString) (out : Memory) (pointers : Pointers) : Prop :=
  ∃ index, index < string.bytes.length ∧ Follows pointers (index + 1) (readUpTo out index)

section Seek

variable {string : CString} {out : Memory} {pointers : Pointers}

theorem Follows.seek {index : Nat} (follows : Follows pointers (index + 1) (readUpTo out index)) :
    Follows { pointers.touch (.input (index + 1 : Nat)) with endStr := (index + 1 : Nat) }
      (index + 2) (readUpTo out (index + 1)) :=
  { follows with
    endStr := by
      rw [Nat.cast_add index 2]
      exact (add_sub_assoc (index : Int) 2 1).symm
    touched := follows.touched.range }

/-- The first loop reads up to the terminator. -/
theorem Passes.turn (passes : Passes string out pointers) (outLen : Nat) (around : Int → UInt8) :
    (seekTurn (memoryAround string around) pointers).Meets
      (fun next => Passes string out next ∧
        (string.bytes.length - next.endStr).toNat <
          (string.bytes.length - pointers.endStr).toNat)
      (ScansTo string outLen (conclude (scanInput out outLen string.bytes)))
      (fun returned => Agrees returned (conclude (scanInput out outLen string.bytes))) := by
  obtain ⟨index, inside, follows⟩ := passes
  have read := follows.touched.range
  rw [seekTurn, follows.endStr_eq, ← Nat.cast_add_one]
  split
  · rename_i nonzero
    have more : index + 1 ≠ string.bytes.length := mt (memoryAround_eq_zero inside).mpr nonzero
    refine ⟨⟨index + 1, by omega, follows.seek⟩, ?_⟩
    dsimp only
    omega
  · rename_i zero
    have last := (memoryAround_eq_zero inside).mp (not_not.mp zero)
    refine ⟨string.bytes.length, readUpTo out string.bytes.length, ?_, by simp [readUpTo], rfl⟩
    rw [← last]
    exact { follows with touched := read }

theorem Passes.loop (passes : Passes string out pointers) (outLen : Nat) (around : Int → UInt8)
    {fuel : Nat} (enough : string.bytes.length < fuel) :
    ∃ returned, seekLoop (memoryAround string around) outLen fuel pointers = some returned ∧
      Agrees returned (conclude (scanInput out outLen string.bytes)) := by
  let variant (state : Pointers) : Nat := (string.bytes.length - state.endStr).toNat
  have short : variant pointers < fuel := by
    obtain ⟨index, inside, follows⟩ := passes
    have endStr := follows.endStr_eq
    change (string.bytes.length - pointers.endStr).toNat < fuel
    omega
  exact runLoop_ends variant (fun _ state => state.turn outLen around)
    (fun _ last => ScansTo.loop last around enough) passes short

end Seek

/-- `_parse_addr` with its loops agrees with `parseAddr`, whatever lies around the input and the
output. -/
theorem parseAddrLoops_agrees (input : Option CString) (around bytes : Int → UInt8)
    (outLen fuel : Nat) :
    ∃ returned,
      parseAddrLoops (inputLength input + 1 + fuel) bytes outLen
        (input.map fun string => memoryAround string around) = some returned ∧
      Agrees returned (parseAddr (fun index => bytes index) outLen input) := by
  cases input with
  | none => exact ⟨_, rfl, rfl, fun _ => rfl, fun _ => Iff.rfl⟩
  | some string =>
      rw [Option.map_some, parseAddrLoops]
      split
      · rename_i ended
        have empty : string.bytes = [] := by
          have zero := (memoryAround_eq_zero (Nat.zero_le _)).mp ended
          exact List.length_eq_zero_iff.mp zero.symm
        refine ⟨_, rfl, ?_⟩
        rw [parseAddr, empty]
        exact ⟨rfl, fun _ => rfl, fun _ => Iff.rfl⟩
      · rename_i more
        have nonempty : string.bytes ≠ [] := by
          intro empty
          exact more ((memoryAround_eq_zero (Nat.zero_le _)).mpr (by rw [empty, List.length_nil]))
        rw [parseAddr_some _ _ nonempty]
        refine Passes.loop ⟨0, List.length_pos_iff.mpr nonempty, ?_⟩ outLen around ?_
        · exact ⟨rfl, rfl, rfl, rfl, rfl, fun _ => rfl, fun _ => Iff.rfl⟩
        · change string.bytes.length < string.bytes.length + 1 + fuel
          omega

end PpmlIot.Signecc

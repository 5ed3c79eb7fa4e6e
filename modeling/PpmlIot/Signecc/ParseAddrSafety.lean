import PpmlIot.Signecc.ParseAddrLoops

/-!
# The safety of the address parser

On every input the loops of `_parse_addr` end and touch nothing outside the string and the first
`out_len` bytes of the output.  The invariant of the backward scan links its position, the number of
cells and the next byte of the output: twice the cells and the characters left make no more than the
length of the string.
-/

namespace PpmlIot.Signecc

open Library

/-- A byte of the string, its terminator included, or one of the first `outLen` of the output. -/
def Inside (input : Option CString) (outLen : Nat) : Touch → Prop
  | .input offset => input.isSome ∧ 0 ≤ offset ∧ offset ≤ inputLength input
  | .output offset => 0 ≤ offset ∧ offset < outLen

/-- A return of `_parse_addr` that is safe.  The result is that of an `int` as well, as a string of
less than 4 GiB has less than 2 ^ 31 cells. -/
structure Safe (input : Option CString) (outLen : Nat) (bytes : Int → UInt8)
    (returned : Returned) : Prop where
  touched : ∀ touch ∈ returned.pointers.touched, Inside input outLen touch
  result : 0 ≤ returned.result ∧ returned.result ≤ outLen
  int_result : inputLength input + 1 < 2 ^ 32 → returned.result < 2 ^ 31
  unchanged : ∀ offset, offset < 0 ∨ min returned.pointers.count outLen ≤ offset →
    returned.pointers.bytes offset = bytes offset

section Invariants

variable {string : CString} {outLen : Nat} {bytes : Int → UInt8} {pointers : Pointers}

/-- What holds from the first loop to the last. -/
structure Sound (string : CString) (outLen : Nat) (bytes : Int → UInt8) (pointers : Pointers) :
    Prop where
  touched : ∀ touch ∈ pointers.touched, Inside (some string) outLen touch
  cells : 2 * pointers.count ≤ string.bytes.length + 1
  unchanged : ∀ offset, offset < 0 ∨ min pointers.count outLen ≤ offset →
    pointers.bytes offset = bytes offset

theorem Sound.touch (sound : Sound string outLen bytes pointers) {touch : Touch}
    (inside : Inside (some string) outLen touch) :
    Sound string outLen bytes (pointers.touch touch) where
  touched := List.forall_mem_cons.mpr ⟨inside, sound.touched⟩
  cells := sound.cells
  unchanged := sound.unchanged

theorem Sound.finish (sound : Sound string outLen bytes pointers) {result : Int}
    (range : 0 ≤ result ∧ result ≤ outLen) (counted : result ≤ pointers.count) :
    Safe (some string) outLen bytes ⟨result, pointers⟩ where
  touched := sound.touched
  result := range
  int_result := by
    intro addressable
    have cells := sound.cells
    have length : inputLength (some string) = string.bytes.length := rfl
    simp only
    omega
  unchanged := sound.unchanged

/-- Before a turn of the first loop. -/
structure Seeking (string : CString) (outLen : Nat) (bytes : Int → UInt8) (pointers : Pointers) :
    Prop where
  sound : Sound string outLen bytes pointers
  endStr : 0 ≤ pointers.endStr ∧ pointers.endStr < string.bytes.length
  count : pointers.count = 0
  outEnd : pointers.outEnd = 0
  out : pointers.out = 0

/-- Before a turn of the backward scan. -/
structure Scanning (string : CString) (outLen : Nat) (bytes : Int → UInt8) (pointers : Pointers) :
    Prop where
  sound : Sound string outLen bytes pointers
  endStr : -1 ≤ pointers.endStr ∧ pointers.endStr < string.bytes.length
  left : 0 ≤ pointers.endStr → 2 * pointers.count + pointers.endStr < string.bytes.length
  count : pointers.count ≤ outLen
  outEnd : pointers.outEnd = pointers.count
  out : pointers.out = 0

/-- Before a turn of the reversal. -/
structure Reversing (string : CString) (outLen : Nat) (bytes : Int → UInt8) (pointers : Pointers) :
    Prop where
  sound : Sound string outLen bytes pointers
  count : pointers.count ≤ outLen
  outEnd : pointers.outEnd ≤ pointers.count
  out : 0 ≤ pointers.out

theorem inside_input (offset : Int) (nonneg : 0 ≤ offset)
    (short : offset ≤ string.bytes.length) : Inside (some string) outLen (.input offset) :=
  ⟨rfl, nonneg, short⟩

/-- The terminator stops the first loop at the last character. -/
theorem Seeking.turn (seeking : Seeking string outLen bytes pointers) (around : Int → UInt8) :
    (seekTurn (memoryAround string around) pointers).Meets
      (fun next => Seeking string outLen bytes next ∧
        (string.bytes.length - next.endStr).toNat <
          (string.bytes.length - pointers.endStr).toNat)
      (Scanning string outLen bytes) (Safe (some string) outLen bytes) := by
  obtain ⟨sound, ⟨nonneg, short⟩, count, outEnd, out⟩ := seeking
  have read := sound.touch (inside_input (pointers.endStr + 1) (by omega) (by omega))
  rw [seekTurn]
  split
  · rename_i nonzero
    have more : pointers.endStr + 1 ≠ string.bytes.length := by
      intro ended
      rw [ended] at nonzero
      exact nonzero ((memoryAround_eq_zero le_rfl).mpr rfl)
    refine ⟨⟨⟨read.touched, read.cells, read.unchanged⟩, ?_, count, outEnd, out⟩, ?_⟩
    · constructor <;> dsimp only <;> omega
    · dsimp only
      omega
  · refine ⟨read, ?_, ?_, ?_, ?_, out⟩
    all_goals simp only [Pointers.touch, count, outEnd]
    all_goals omega

/-- In a turn of the backward scan, behind the reads: there is a cell to be counted. -/
structure Counting (string : CString) (outLen : Nat) (bytes : Int → UInt8) (pointers : Pointers) :
    Prop where
  sound : Sound string outLen bytes pointers
  endStr : -1 ≤ pointers.endStr ∧ pointers.endStr < string.bytes.length
  left : 0 ≤ pointers.endStr →
    2 * (pointers.count + 1) + pointers.endStr < string.bytes.length
  cells : 2 * (pointers.count + 1) ≤ string.bytes.length + 1
  count : pointers.count ≤ outLen
  outEnd : pointers.outEnd = pointers.count
  out : pointers.out = 0

theorem Sound.readBack (sound : Sound string outLen bytes pointers) (nonneg : 0 ≤ pointers.endStr)
    (short : pointers.endStr ≤ string.bytes.length) :
    Sound string outLen bytes pointers.readBack where
  touched := (sound.touch (inside_input pointers.endStr nonneg short)).touched
  cells := sound.cells
  unchanged := sound.unchanged

/-- The second read of a turn takes a character that is left, or none. -/
theorem Scanning.readUpper (scanning : Scanning string outLen bytes pointers)
    (nonneg : 0 ≤ pointers.endStr) (input : Int → UInt8) :
    let cell := (Pointers.readUpper input { pointers.readBack with assertCell := false }).2
    Counting string outLen bytes cell ∧ cell.endStr < pointers.endStr := by
  obtain ⟨sound, range, left, room, outEnd, out⟩ := scanning
  have below := left nonneg
  have first := sound.readBack nonneg (by omega)
  have digit : Sound string outLen bytes { pointers.readBack with assertCell := false } :=
    ⟨first.touched, first.cells, first.unchanged⟩
  dsimp only
  rw [Pointers.readUpper]
  split
  · rename_i more
    simp only [Pointers.readBack, Pointers.touch] at more
    have second := digit.readBack more (by simp only [Pointers.readBack, Pointers.touch]; omega)
    refine ⟨⟨second, ?_, ?_, ?_, room, outEnd, out⟩, ?_⟩
    all_goals simp only [Pointers.readBack, Pointers.touch]
    all_goals omega
  · rename_i spent
    simp only [Pointers.readBack, Pointers.touch] at spent
    refine ⟨⟨digit, ?_, ?_, ?_, room, outEnd, out⟩, ?_⟩
    all_goals simp only [Pointers.readBack, Pointers.touch]
    all_goals omega

/-- A cell that there is no room for ends the function before anything is stored. -/
theorem Counting.full (counting : Counting string outLen bytes pointers)
    (full : pointers.count + 1 > outLen) :
    Safe (some string) outLen bytes ⟨0, { pointers with count := pointers.count + 1 }⟩ := by
  have room := counting.count
  have counted : Sound string outLen bytes { pointers with count := pointers.count + 1 } := by
    refine ⟨counting.sound.touched, counting.cells, ?_⟩
    intro offset outside
    dsimp only at outside
    exact counting.sound.unchanged offset (by omega)
  exact counted.finish (by simp) (Int.natCast_nonneg _)

/-- A cell that there is room for is stored behind the others. -/
theorem Counting.store (counting : Counting string outLen bytes pointers)
    (room : ¬ pointers.count + 1 > outLen) (byte : UInt8) :
    Scanning string outLen bytes
      (Pointers.store { pointers with count := pointers.count + 1 } byte) := by
  obtain ⟨sound, range, left, cells, count, outEnd, out⟩ := counting
  refine ⟨⟨?_, cells, ?_⟩, range, left, not_lt.mp room, ?_, out⟩
  · refine List.forall_mem_cons.mpr ⟨?_, sound.touched⟩
    change 0 ≤ pointers.outEnd ∧ pointers.outEnd < outLen
    omega
  · intro offset outside
    simp only [Pointers.store, Pointers.touch] at outside ⊢
    have other : offset ≠ pointers.outEnd := by omega
    rw [Function.update_of_ne other]
    exact sound.unchanged offset (by omega)
  · simp only [Pointers.store, Pointers.touch]
    omega

/-- A turn of the backward scan reads one or two characters and stores at most one cell. -/
theorem Scanning.turn (scanning : Scanning string outLen bytes pointers)
    (input : Int → UInt8) :
    (scanTurn input outLen pointers).Meets
      (fun next => Scanning string outLen bytes next ∧
        (next.endStr + 1).toNat < (pointers.endStr + 1).toNat)
      (Scanning string outLen bytes) (Safe (some string) outLen bytes) := by
  rw [scanTurn]
  split
  · rename_i nonneg
    have range := scanning.endStr
    have read := scanning.sound.readBack nonneg (by omega)
    dsimp only
    split
    · split
      · exact read.finish (by simp) (Int.natCast_nonneg _)
      · have below := scanning.left nonneg
        refine ⟨⟨⟨read.touched, read.cells, read.unchanged⟩, ?_, ?_, scanning.count,
          scanning.outEnd, scanning.out⟩, ?_⟩
        all_goals simp only [Pointers.readBack, Pointers.touch]
        all_goals omega
    · obtain ⟨counting, closer⟩ := scanning.readUpper nonneg input
      split
      · rename_i full
        exact counting.full full
      · rename_i room
        refine ⟨counting.store room _, ?_⟩
        exact (Int.toNat_lt_toNat (by omega)).mpr (Int.add_lt_add_right closer 1)
  · exact scanning

/-- The two pointers of the reversal stay among the cells. -/
theorem Reversing.turn (reversing : Reversing string outLen bytes pointers) :
    (reverseTurn pointers).Meets
      (fun next => Reversing string outLen bytes next ∧ next.outEnd.toNat < pointers.outEnd.toNat)
      (fun last => Sound string outLen bytes last ∧ last.count ≤ outLen)
      (Safe (some string) outLen bytes) := by
  obtain ⟨sound, room, outEnd, out⟩ := reversing
  rw [reverseTurn]
  dsimp only
  split
  · rename_i apart
    refine ⟨⟨⟨?_, sound.cells, ?_⟩, room, ?_, ?_⟩, ?_⟩
    · refine List.forall_mem_cons.mpr ⟨?_, List.forall_mem_cons.mpr ⟨?_, sound.touched⟩⟩
      · change 0 ≤ pointers.out ∧ pointers.out < outLen
        omega
      · change 0 ≤ pointers.outEnd - 1 ∧ pointers.outEnd - 1 < outLen
        omega
    · intro offset outside
      simp only [Pointers.touch] at outside ⊢
      have not_out : offset ≠ pointers.out := by omega
      have not_outEnd : offset ≠ pointers.outEnd - 1 := by omega
      rw [Function.update_of_ne not_out, Function.update_of_ne not_outEnd]
      exact sound.unchanged offset outside
    all_goals simp only [Pointers.touch]
    all_goals omega
  · exact ⟨⟨sound.touched, sound.cells, sound.unchanged⟩, room⟩

theorem Reversing.loop (reversing : Reversing string outLen bytes pointers) {fuel : Nat}
    (enough : pointers.outEnd.toNat < fuel) :
    ∃ returned,
      runLoop reverseTurn (fun reversed => some ⟨reversed.count, reversed⟩) fuel pointers =
        some returned ∧
      Safe (some string) outLen bytes returned := by
  refine runLoop_ends (fun state => state.outEnd.toNat) (fun _ => Reversing.turn) ?_ reversing
    enough
  intro last ⟨sound, room⟩
  exact ⟨_, rfl, sound.finish ⟨Int.natCast_nonneg _, Int.ofNat_le.mpr room⟩ le_rfl⟩

theorem Scanning.reverseLoop (scanning : Scanning string outLen bytes pointers) {fuel : Nat}
    (enough : string.bytes.length < fuel) :
    ∃ returned, reverseLoop fuel pointers = some returned ∧
      Safe (some string) outLen bytes returned := by
  have cells := scanning.sound.cells
  have outEnd := scanning.outEnd
  rw [Signecc.reverseLoop]
  split
  · exact ⟨_, rfl, scanning.sound.finish (by simp) (Int.natCast_nonneg _)⟩
  · exact Reversing.loop ⟨scanning.sound, scanning.count, outEnd.le, scanning.out.ge⟩ (by omega)

theorem Scanning.loop (scanning : Scanning string outLen bytes pointers)
    (input : Int → UInt8) {fuel : Nat} (enough : string.bytes.length < fuel) :
    ∃ returned, scanLoop input outLen fuel pointers = some returned ∧
      Safe (some string) outLen bytes returned := by
  have range := scanning.endStr
  exact runLoop_ends (fun state => (state.endStr + 1).toNat) (fun _ state => state.turn input)
    (fun _ last => last.reverseLoop enough) scanning (by omega)

theorem Seeking.loop (seeking : Seeking string outLen bytes pointers) (around : Int → UInt8)
    {fuel : Nat} (enough : string.bytes.length < fuel) :
    ∃ returned, seekLoop (memoryAround string around) outLen fuel pointers = some returned ∧
      Safe (some string) outLen bytes returned := by
  have range := seeking.endStr
  let variant (state : Pointers) : Nat := (string.bytes.length - state.endStr).toNat
  have short : variant pointers < fuel := by
    change (string.bytes.length - pointers.endStr).toNat < fuel
    omega
  exact runLoop_ends variant (fun _ state => state.turn around)
    (fun _ (last : Scanning _ _ _ _) => last.loop _ enough) seeking short

theorem Sound.start (string : CString) (outLen : Nat) (bytes : Int → UInt8) :
    Sound string outLen bytes (Pointers.start bytes) where
  touched := List.forall_mem_nil _
  cells := Nat.zero_le _
  unchanged := fun _ _ => rfl

end Invariants

/-- The loops of `_parse_addr` end on every input, within as many turns as the string with its
terminator has bytes, and the return is safe. -/
theorem parseAddr_safe (input : Option CString) (around bytes : Int → UInt8)
    (outLen fuel : Nat) :
    ∃ returned,
      parseAddrLoops (inputLength input + 1 + fuel) bytes outLen
        (input.map fun string => memoryAround string around) = some returned ∧
      Safe input outLen bytes returned := by
  cases input with
  | none =>
      refine ⟨_, rfl, ?_, ⟨le_rfl, Int.natCast_nonneg _⟩, ?_, fun _ _ => rfl⟩
      · exact List.forall_mem_nil _
      · exact fun _ => Int.pow_pos (by omega)
  | some string =>
      have looked := (Sound.start string outLen bytes).touch (inside_input 0 le_rfl (by omega))
      rw [Option.map_some, parseAddrLoops]
      split
      · exact ⟨_, rfl, looked.finish (by simp) (Int.natCast_nonneg _)⟩
      · rename_i nonempty
        have long : 0 < string.bytes.length :=
          Nat.pos_of_ne_zero fun empty =>
            nonempty ((memoryAround_eq_zero (Nat.zero_le _)).mpr empty.symm)
        refine Seeking.loop ⟨looked, ?_, rfl, rfl, rfl⟩ around ?_
        · exact ⟨le_rfl, Int.natCast_pos.mpr long⟩
        · change string.bytes.length < string.bytes.length + 1 + fuel
          omega

end PpmlIot.Signecc

import Mathlib.Data.List.GetD
import PpmlIot.Library.Grouping
import PpmlIot.Signecc.Command

/-!
# The address parser

`_parse_addr` scans its input from the end, stores a byte for every one or two digits and at last
reverses what it stored.  Seen from the end of the input it is a machine on the characters that are
left and one flag; the digit of a run that is left over takes the character in front of it as its
upper half, whatever that is.
-/

namespace PpmlIot.Signecc

open Library

def hexValue (c : UInt8) : Option Nat :=
  Hex.digitValue (Char.ofNat c.toNat)

def isHexDigit (c : UInt8) : Bool :=
  (hexValue c).isSome

/-- The bytes found by the backward scan, in the order in which they are found; `none` when the
input is rejected. -/
def cells : Bool → List UInt8 → Option (List UInt8)
  | assertCell, [] => if assertCell then none else some []
  | _, [c] => (hexValue c).map fun low => [UInt8.ofNat low]
  | assertCell, c :: d :: rest =>
      match hexValue c with
      | none => if assertCell then none else cells true (d :: rest)
      | some low =>
          (cells false rest).map fun bytes =>
            UInt8.ofNat (16 * (hexValue d).getD 0 + low) :: bytes

theorem cells_foreign {c : UInt8} (foreign : hexValue c = none) (assertCell : Bool)
    (rest : List UInt8) :
    cells assertCell (c :: rest) = if assertCell then none else cells true rest := by
  cases rest with
  | nil =>
      simp only [cells, foreign, Option.map_none, if_true]
      split <;> rfl
  | cons d rest => simp only [cells, foreign]

theorem cells_digit {c : UInt8} {low : Nat} (digit : hexValue c = some low) (assertCell : Bool)
    (d : UInt8) (rest : List UInt8) :
    cells assertCell (c :: d :: rest) =
      (cells false rest).map (UInt8.ofNat (16 * (hexValue d).getD 0 + low) :: ·) := by
  simp only [cells, digit]

theorem cells_last {c : UInt8} {low : Nat} (digit : hexValue c = some low) (assertCell : Bool) :
    cells assertCell [c] = some [UInt8.ofNat low] := by
  simp only [cells, digit, Option.map_some]

/-- The bytes of an address, if it is accepted in an output of any length. -/
def addressOf (text : List UInt8) : Option (List UInt8) :=
  (cells true text.reverse).map List.reverse

theorem hexValue_lt {c : UInt8} {value : Nat} (found : hexValue c = some value) : value < 16 := by
  have every : ∀ c : Fin 256, ∀ value ∈ hexValue (UInt8.ofFin c), value < 16 := by decide +kernel
  exact every c.toFin value found

/-- `_dehex` gives the value of a digit and its default for any other character. -/
theorem dehex_eq (c : UInt8) :
    dehex c (-1) = ((hexValue c).map Int.ofNat).getD (-1) ∧ dehex c 0 = (hexValue c).getD 0 := by
  have every : ∀ c : Fin 256,
      dehex (UInt8.ofFin c) (-1) = ((hexValue (UInt8.ofFin c)).map Int.ofNat).getD (-1) ∧
        dehex (UInt8.ofFin c) 0 = (hexValue (UInt8.ofFin c)).getD 0 := by decide +kernel
  exact every c.toFin

theorem dehex_neg_iff {c : UInt8} : dehex c (-1) < 0 ↔ hexValue c = none := by
  rw [(dehex_eq c).1]
  cases hexValue c with
  | none => simp
  | some value => simp

theorem byte_eq (high : Nat) {low : Nat} (low_small : low < 16) :
    UInt8.ofNat (((high : Int).toNat <<< 4) ||| (low : Int).toNat) =
      UInt8.ofNat (16 * high + low) := by
  have sum := Nat.shiftLeft_add_eq_or_of_lt (show low < 2 ^ 4 from low_small) high
  rw [Int.toNat_natCast, Int.toNat_natCast, ← sum, Nat.shiftLeft_eq, Nat.mul_comm]

/-- What the scan leaves to be reversed, and how many cells it counted, if it accepts. -/
def accepted : Except Scan Scan → Option (Memory × Nat × Nat)
  | .error _ => none
  | .ok scan => if scan.assertCell then none else some (scan.out, scan.outEnd, scan.count)

/-- The outcome of storing further cells from `count` on. -/
def stored (out : Memory) (count outLen : Nat) (bytes : List UInt8) :
    Option (Memory × Nat × Nat) :=
  if count + bytes.length ≤ outLen then
    some (out.write count bytes, count + bytes.length, count + bytes.length)
  else
    none

theorem stored_cons (out : Memory) (count outLen : Nat) (byte : UInt8) (bytes : List UInt8) :
    stored out count outLen (byte :: bytes) =
      stored (out.write count [byte]) (count + 1) outLen bytes := by
  have join := Memory.write_append out count [byte] bytes
  rw [List.length_singleton, List.singleton_append] at join
  rw [stored, stored, join, List.length_cons, Nat.add_right_comm, Nat.add_assoc]

theorem stored_full {out : Memory} {count outLen : Nat} (full : outLen ≤ count) (byte : UInt8)
    (bytes : List UInt8) : stored out count outLen (byte :: bytes) = none := by
  rw [stored, if_neg]
  rw [List.length_cons]
  omega

/-- Storing one cell and going on stores that cell and what is found later. -/
theorem accepted_cell {outLen : Nat} {scan : Scan} (aligned : scan.outEnd = scan.count)
    {high low : Nat} (low_small : low < 16) {proceed : Scan → Except Scan Scan}
    {found : Option (List UInt8)}
    (later : ∀ next : Scan, next.outEnd = next.count → next.count ≤ outLen →
      next.assertCell = false →
        accepted (proceed next) = found.bind (stored next.out next.count outLen)) :
    accepted (scan.cell outLen high low >>= proceed) =
      (found.map (UInt8.ofNat (16 * high + low) :: ·)).bind
        (stored scan.out scan.count outLen) := by
  rw [Option.bind_map]
  rcases Nat.lt_or_ge scan.count outLen with more | full
  · have counted : ¬ scan.count + 1 > outLen := by omega
    simp only [Scan.cell, counted, if_false]
    refine (later _ (congrArg (· + 1) aligned) (show scan.count + 1 ≤ outLen by omega) rfl).trans ?_
    rw [byte_eq high low_small, aligned]
    congr 1
    funext bytes
    exact (stored_cons ..).symm
  · have counted : scan.count + 1 > outLen := by omega
    simp only [Scan.cell, counted, if_true]
    cases found with
    | none => rfl
    | some bytes => exact (stored_full full _ bytes).symm

section ScanBack

variable {input : List UInt8} {left low : Nat}

/-- The scan with one more read of the input noted. -/
def Scan.reading (scan : Scan) (index : Nat) : Scan :=
  { scan with touched := .input index :: scan.touched }

theorem scanBack_foreign (found : hexValue (input.getD left 0) = none) (outLen : Nat)
    (scan : Scan) :
    scanBack input outLen (left + 1) scan =
      if scan.assertCell then .error (scan.reading left)
      else scanBack input outLen left { scan.reading left with assertCell := true } := by
  cases left <;> simp only [scanBack, dehex_neg_iff.mpr found, if_true] <;> rfl

theorem dehex_of_digit {c : UInt8} (found : hexValue c = some low) : dehex c (-1) = low := by
  rw [(dehex_eq c).1, found]
  rfl

/-- A digit at the front of the input is a cell of its own. -/
theorem scanBack_first (found : hexValue (input.getD 0 0) = some low) (outLen : Nat)
    (scan : Scan) :
    scanBack input outLen 1 scan =
      (scan.reading 0).cell outLen (0 : Nat) low >>= Except.ok := by
  have nonneg : ¬ (low : Int) < 0 := by omega
  simp only [scanBack, dehex_of_digit found, nonneg, if_false, Scan.reading, Nat.cast_zero]
  generalize Scan.cell _ outLen _ _ = outcome
  cases outcome <;> rfl

/-- Any other digit makes a cell with the character in front of it. -/
theorem scanBack_pair (found : hexValue (input.getD (left + 1) 0) = some low) (outLen : Nat)
    (scan : Scan) :
    scanBack input outLen (left + 2) scan =
      ((scan.reading (left + 1)).reading left).cell outLen
        ((hexValue (input.getD left 0)).getD 0 : Nat) low >>= scanBack input outLen left := by
  have nonneg : ¬ (low : Int) < 0 := by omega
  simp only [scanBack, dehex_of_digit found, nonneg, if_false, (dehex_eq _).2, Scan.reading]
  generalize Scan.cell _ outLen _ _ = outcome
  cases outcome <;> rfl

/-- What is left of the input, from its end. -/
theorem reverse_take_succ (below : left < input.length) :
    (input.take (left + 1)).reverse = input.getD left 0 :: (input.take left).reverse := by
  rw [List.take_add_one, List.getElem?_eq_getElem below, List.getD_eq_getElem _ _ below,
    List.reverse_append]
  rfl

end ScanBack

theorem accepted_ok {outLen : Nat} {scan : Scan} (aligned : scan.outEnd = scan.count)
    (room : scan.count ≤ outLen) (unflagged : scan.assertCell = false) :
    accepted (.ok scan) = (some []).bind (stored scan.out scan.count outLen) := by
  rw [accepted, unflagged, Option.bind_some, stored, List.length_nil, Nat.add_zero, if_pos room,
    Memory.write_nil, aligned]
  rfl

/-- The backward loop stores what `cells` finds, as far as there is room. -/
theorem accepted_scanBack (input : List UInt8) (outLen left : Nat) (scan : Scan)
    (inside : left ≤ input.length) (aligned : scan.outEnd = scan.count)
    (room : scan.count ≤ outLen) :
    accepted (scanBack input outLen left scan) =
      (cells scan.assertCell (input.take left).reverse).bind
        (stored scan.out scan.count outLen) := by
  induction left using Nat.strongRecOn generalizing scan with
  | ind left induction =>
      cases left with
      | zero =>
          rw [scanBack, List.take_zero, List.reverse_nil, cells]
          cases flag : scan.assertCell with
          | true =>
              rw [accepted, flag]
              rfl
          | false => exact accepted_ok aligned room flag
      | succ left =>
          rw [reverse_take_succ inside]
          cases found : hexValue (input.getD left 0) with
          | none =>
              rw [scanBack_foreign found, cells_foreign found]
              split
              · rfl
              · exact induction left (by omega) _ (by omega) aligned room
          | some low =>
              cases left with
              | zero =>
                  have read_aligned : (scan.reading 0).outEnd = (scan.reading 0).count := aligned
                  rw [scanBack_first found, List.take_zero, List.reverse_nil, cells_last found]
                  refine (accepted_cell read_aligned (hexValue_lt found) fun _ =>
                    accepted_ok).trans ?_
                  rw [Nat.mul_zero, Nat.zero_add]
                  rfl
              | succ left =>
                  have read_aligned : ((scan.reading (left + 1)).reading left).outEnd =
                      ((scan.reading (left + 1)).reading left).count := aligned
                  rw [scanBack_pair found, reverse_take_succ (by omega), cells_digit found]
                  refine accepted_cell read_aligned (hexValue_lt found) ?_
                  intro next next_aligned next_room unflagged
                  rw [induction left (by omega) next (by omega) next_aligned next_room, unflagged]

theorem seekEnd_eq (index : Nat) (rest : List UInt8) :
    seekEnd index rest = index + rest.length := by
  induction rest generalizing index with
  | nil => rfl
  | cons c rest induction =>
      rw [seekEnd, induction, List.length_cons]
      omega

/-- The two indices of the reversal close in on each other, and swap everything on the way. -/
theorem reverseOut_apply (out outEnd : Nat) (memory : Memory) (touched : List Access)
    (address : Nat) :
    (reverseOut out outEnd (memory, touched)).1 address =
      if out ≤ address ∧ address < outEnd then memory (out + outEnd - 1 - address)
      else memory address := by
  induction outEnd generalizing out memory touched with
  | zero => rw [reverseOut, if_neg (by omega)]
  | succ outEnd induction =>
      rw [reverseOut]
      by_cases apart : out < outEnd
      · rw [if_pos apart, induction]
        have swapped (address : Nat) :
            ((memory.write outEnd [memory out]).write out [memory outEnd]) address =
              if address = out then memory outEnd
              else if address = outEnd then memory out
              else memory address := by
          rw [Memory.write_singleton_apply, Memory.write_singleton_apply]
        simp only [swapped]
        by_cases between : out + 1 ≤ address ∧ address < outEnd
        · rw [if_pos between, if_neg (by omega), if_neg (by omega), if_pos (by omega)]
          congr 1
          omega
        · rw [if_neg between]
          by_cases first : address = out
          · rw [if_pos first, if_pos (by omega), first]
            congr 1
            omega
          · rw [if_neg first]
            by_cases last : address = outEnd
            · rw [if_pos last, if_pos (by omega), last]
              congr 1
              omega
            · rw [if_neg last, if_neg (by omega)]
      · rw [if_neg apart]
        split
        · rw [show out + (outEnd + 1) - 1 - address = address by omega]
        · rfl

/-- Reversing in place what was just stored. -/
theorem reverseOut_write (memory : Memory) (bytes : List UInt8) (touched : List Access) :
    (reverseOut 0 bytes.length (memory.write 0 bytes, touched)).1 =
      memory.write 0 bytes.reverse := by
  funext address
  rw [reverseOut_apply]
  by_cases inside : address < bytes.length
  · rw [if_pos ⟨Nat.zero_le _, inside⟩, Memory.write_apply (Nat.zero_le _) (by omega),
      Memory.write_apply (Nat.zero_le _) (by rwa [List.length_reverse]), List.getElem_reverse]
    congr 1
    omega
  · rw [if_neg (by omega), Memory.write_apply_of_le (by omega),
      Memory.write_apply_of_le (by rw [List.length_reverse]; omega)]

theorem accepted_eq_some {outcome : Except Scan Scan} {out : Memory} {outEnd count : Nat}
    (found : accepted outcome = some (out, outEnd, count)) :
    ∃ scan, outcome = .ok scan ∧ scan.assertCell = false ∧ scan.out = out ∧
      scan.outEnd = outEnd ∧ scan.count = count := by
  cases outcome with
  | error scan => cases found
  | ok scan =>
      rw [accepted] at found
      split at found
      · cases found
      · rename_i unflagged
        obtain ⟨out_eq, outEnd_eq, count_eq⟩ := by
          simpa only [Option.some.injEq, Prod.mk.injEq] using found
        exact ⟨scan, rfl, by simpa using unflagged, out_eq, outEnd_eq, count_eq⟩

/-- The backward loop run by `_parse_addr`. -/
def scanInput (out : Memory) (outLen : Nat) (input : List UInt8) : Except Scan Scan :=
  scanBack input outLen input.length
    { out, outEnd := 0, count := 0, assertCell := true
      touched := (List.range (input.length + 1)).map .input }

theorem accepted_scanInput (out : Memory) (outLen : Nat) (input : List UInt8) :
    accepted (scanInput out outLen input) =
      (addressOf input).bind fun bytes =>
        if bytes.length ≤ outLen then some (out.write 0 bytes.reverse, bytes.length, bytes.length)
        else none := by
  rw [scanInput, accepted_scanBack input outLen input.length _ le_rfl rfl (Nat.zero_le _),
    List.take_length, addressOf, Option.bind_map]
  congr 1
  funext bytes
  simp [stored]

/-- The part of `_parse_addr` behind the backward loop. -/
def conclude : Except Scan Scan → AddrParse
  | .error scan => { result := 0, out := scan.out, touched := scan.touched }
  | .ok scan =>
      if scan.assertCell then
        { result := 0, out := scan.out, touched := scan.touched }
      else
        let (out, touched) := reverseOut 0 scan.outEnd (scan.out, scan.touched)
        { result := scan.count, out, touched }

theorem parseAddr_some (out : Memory) (outLen : Nat) {input : CString}
    (nonempty : input.bytes ≠ []) :
    parseAddr out outLen (some input) = conclude (scanInput out outLen input.bytes) := by
  obtain ⟨first, rest, text⟩ := List.exists_cons_of_ne_nil nonempty
  have last : seekEnd 0 rest + 1 = (first :: rest).length := by
    rw [seekEnd_eq, Nat.zero_add, List.length_cons]
  have scanned : scanBack (first :: rest) outLen (seekEnd 0 rest + 1)
      { out, outEnd := 0, count := 0, assertCell := true
        touched := (List.range (seekEnd 0 rest + 1 + 1)).map .input } =
        scanInput out outLen (first :: rest) := by
    rw [scanInput, last]
  rw [parseAddr, text]
  exact congrArg conclude scanned

/-- `_parse_addr` returns the number of bytes of an accepted address that fits the output, and
writes these bytes. -/
theorem parseAddr_of_address (out : Memory) {outLen : Nat} {input : CString} {bytes : List UInt8}
    (address : addressOf input.bytes = some bytes) (fits : bytes.length ≤ outLen) :
    (parseAddr out outLen (some input)).result = bytes.length ∧
      (parseAddr out outLen (some input)).out = out.write 0 bytes := by
  have nonempty : input.bytes ≠ [] := by
    intro empty
    rw [empty] at address
    cases address
  have found := accepted_scanInput out outLen input.bytes
  rw [address, Option.bind_some, if_pos fits] at found
  obtain ⟨scan, outcome, unflagged, out_eq, outEnd_eq, count_eq⟩ := accepted_eq_some found
  have reversed := reverseOut_write out bytes.reverse scan.touched
  rw [List.length_reverse, List.reverse_reverse] at reversed
  rw [parseAddr_some out outLen nonempty, outcome]
  simp only [conclude, unflagged, Bool.false_eq_true, if_false, count_eq, out_eq, outEnd_eq,
    reversed, and_self]

theorem parseAddr_of_not_address {out : Memory} {outLen : Nat} {input : CString}
    (rejected : ∀ bytes, addressOf input.bytes = some bytes → outLen < bytes.length) :
    (parseAddr out outLen (some input)).result = 0 := by
  by_cases nonempty : input.bytes = []
  · simp [parseAddr, nonempty]
  · have found := accepted_scanInput out outLen input.bytes
    have none_found : accepted (scanInput out outLen input.bytes) = none := by
      rw [found]
      cases address : addressOf input.bytes with
      | none => rfl
      | some bytes => exact if_neg (Nat.not_le_of_lt (rejected bytes address))
    rw [parseAddr_some out outLen nonempty]
    cases outcome : scanInput out outLen input.bytes with
    | error scan => rfl
    | ok scan =>
        rw [outcome, accepted] at none_found
        split at none_found
        · rename_i flagged
          simp [conclude, flagged]
        · cases none_found

/-- What `_parse_addr` returns, and what it then writes. -/
theorem parseAddr_cases (out : Memory) (outLen : Nat) (input : CString) :
    (∃ bytes, addressOf input.bytes = some bytes ∧ bytes.length ≤ outLen ∧
      (parseAddr out outLen (some input)).result = bytes.length ∧
      (parseAddr out outLen (some input)).out = out.write 0 bytes) ∨
    (∀ bytes, addressOf input.bytes = some bytes → outLen < bytes.length) ∧
      (parseAddr out outLen (some input)).result = 0 := by
  by_cases found : ∃ bytes, addressOf input.bytes = some bytes ∧ bytes.length ≤ outLen
  · obtain ⟨bytes, address, fits⟩ := found
    exact .inl ⟨bytes, address, fits, parseAddr_of_address out address fits⟩
  · have rejected (bytes : List UInt8) (address : addressOf input.bytes = some bytes) :
        outLen < bytes.length := by
      by_contra fits
      exact found ⟨bytes, address, Nat.le_of_not_lt fits⟩
    exact .inr ⟨rejected, parseAddr_of_not_address rejected⟩

theorem address_ne_nil {text bytes : List UInt8} (address : addressOf text = some bytes) :
    bytes ≠ [] := by
  rintro rfl
  have empty : cells true text.reverse = some [] := by simpa [addressOf] using address
  rcases backwards : text.reverse with _ | ⟨c, _ | ⟨d, rest⟩⟩ <;> rw [backwards] at empty
  · cases empty
  · cases value : hexValue c with
    | none => simp [cells, value] at empty
    | some low => simp [cells, value] at empty
  · cases value : hexValue c with
    | none => simp [cells_foreign value] at empty
    | some low => simp [cells_digit value] at empty

end PpmlIot.Signecc

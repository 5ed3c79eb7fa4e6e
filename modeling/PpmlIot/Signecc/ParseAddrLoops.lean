import Mathlib.Logic.Function.Basic
import PpmlIot.Library.Loop
import PpmlIot.Signecc.ParseAddr

/-!
# The loops of the address parser

`_parse_addr` with its pointers, as distances from `in` and `out`, and its three loops turn by turn.
Nothing keeps a pointer inside its object here: the input lies in a memory with other bytes on both
sides of it, and so does the output.  The loops compute what `parseAddr` computes.
-/

namespace PpmlIot.Signecc

open Library

/-- A byte at a distance from the start of the input or of the output. -/
inductive Touch
  | input (offset : Int)
  | output (offset : Int)
  deriving DecidableEq

/-- The variables of `_parse_addr`, the memory around its output and the bytes touched, latest
first. -/
structure Pointers where
  endStr : Int
  out : Int
  outEnd : Int
  count : Nat
  assertCell : Bool
  bytes : Int → UInt8
  touched : List Touch

/-- The result of `_parse_addr` and its variables on return. -/
structure Returned where
  result : Int
  pointers : Pointers

namespace Pointers

/-- The variables at the call. -/
def start (bytes : Int → UInt8) : Pointers :=
  { endStr := 0, out := 0, outEnd := 0, count := 0, assertCell := true, bytes, touched := [] }

def touch (pointers : Pointers) (touch : Touch) : Pointers :=
  { pointers with touched := touch :: pointers.touched }

/-- `*end_str--` -/
def readBack (pointers : Pointers) : Pointers :=
  { pointers.touch (.input pointers.endStr) with endStr := pointers.endStr - 1 }

/-- The second read of a turn: `if (end_str >= in) a = _dehex(*end_str--, 0)`. -/
def readUpper (input : Int → UInt8) (pointers : Pointers) : Int × Pointers :=
  if pointers.endStr ≥ 0 then
    (dehex (input pointers.endStr) 0, pointers.readBack)
  else
    (0, pointers)

/-- `*out_end++ = byte` -/
def store (pointers : Pointers) (byte : UInt8) : Pointers :=
  { pointers.touch (.output pointers.outEnd) with
    bytes := Function.update pointers.bytes pointers.outEnd byte
    outEnd := pointers.outEnd + 1 }

end Pointers

/-- A turn of `while (end_str[1])`. -/
def seekTurn (input : Int → UInt8) (pointers : Pointers) : Turn Pointers Returned :=
  let read := pointers.touch (.input (pointers.endStr + 1))
  if input (pointers.endStr + 1) ≠ 0 then
    .again { read with endStr := pointers.endStr + 1 }
  else
    .leave read

/-- A turn of `while (end_str >= in)`. -/
def scanTurn (input : Int → UInt8) (outLen : Nat) (pointers : Pointers) :
    Turn Pointers Returned :=
  if pointers.endStr ≥ 0 then
    let b := dehex (input pointers.endStr) (-1)
    let read := pointers.readBack
    if b < 0 then
      if read.assertCell then .finish ⟨0, read⟩
      else .again { read with assertCell := true }
    else
      let (a, cell) := Pointers.readUpper input { read with assertCell := false }
      let counted := { cell with count := cell.count + 1 }
      if counted.count > outLen then .finish ⟨0, counted⟩
      else .again (counted.store (UInt8.ofNat ((a.toNat <<< 4) ||| b.toNat)))
  else
    .leave pointers

/-- A turn of `while (out < --out_end)`. -/
def reverseTurn (pointers : Pointers) : Turn Pointers Returned :=
  let back := { pointers with outEnd := pointers.outEnd - 1 }
  if back.out < back.outEnd then
    let tmp := back.bytes back.outEnd
    let moved := Function.update back.bytes back.outEnd (back.bytes back.out)
    .again
      { (back.touch (.output back.outEnd)).touch (.output back.out) with
        bytes := Function.update moved back.out tmp
        out := back.out + 1 }
  else
    .leave back

/-- The loop `while (out < --out_end)` and what stands around it. -/
def reverseLoop (fuel : Nat) (scanned : Pointers) : Option Returned :=
  if scanned.assertCell then
    some ⟨0, scanned⟩
  else
    runLoop reverseTurn (fun reversed => some ⟨reversed.count, reversed⟩) fuel scanned

/-- The loop `while (end_str >= in)` and what stands behind it. -/
def scanLoop (input : Int → UInt8) (outLen fuel : Nat) (sought : Pointers) : Option Returned :=
  runLoop (scanTurn input outLen) (reverseLoop fuel) fuel sought

/-- The loop `while (end_str[1])` and what stands behind it. -/
def seekLoop (input : Int → UInt8) (outLen fuel : Nat) (start : Pointers) : Option Returned :=
  runLoop (seekTurn input) (scanLoop input outLen fuel) fuel start

/-- `_parse_addr`; a missing input is `NULL`. -/
def parseAddrLoops (fuel : Nat) (bytes : Int → UInt8) (outLen : Nat)
    (input : Option (Int → UInt8)) : Option Returned :=
  match input with
  | none => some ⟨0, Pointers.start bytes⟩
  | some input =>
      let looked := (Pointers.start bytes).touch (.input 0)
      if input 0 = 0 then some ⟨0, looked⟩
      else seekLoop input outLen fuel looked

/-- A string in a memory: its bytes, its terminator, and other bytes on both sides. -/
def memoryAround (string : CString) (around : Int → UInt8) (offset : Int) : UInt8 :=
  if 0 ≤ offset ∧ offset ≤ string.bytes.length then string.bytes.getD offset.toNat 0
  else around offset

def inputLength (input : Option CString) : Nat :=
  (input.map fun string => string.bytes.length).getD 0

theorem memoryAround_of_le (string : CString) (around : Int → UInt8) {index : Nat}
    (inside : index ≤ string.bytes.length) :
    memoryAround string around index = string.bytes.getD index 0 := by
  rw [memoryAround, if_pos ⟨Int.natCast_nonneg _, Int.ofNat_le.mpr inside⟩, Int.toNat_natCast]

/-- Only the terminator of a string is zero. -/
theorem memoryAround_eq_zero {string : CString} {around : Int → UInt8} {index : Nat}
    (inside : index ≤ string.bytes.length) :
    memoryAround string around index = 0 ↔ index = string.bytes.length := by
  constructor
  · intro zero
    by_contra other
    have short : index < string.bytes.length := Nat.lt_of_le_of_ne inside other
    rw [memoryAround_of_le string around inside, List.getD_eq_getElem _ _ short] at zero
    exact string.nul_free (zero ▸ List.getElem_mem short)
  · rintro rfl
    rw [memoryAround_of_le string around le_rfl, List.getD_eq_default _ _ le_rfl]

end PpmlIot.Signecc

import Mathlib.Data.List.Basic

/-!
# Byte memory

Memory seen from the start of one object, the ranges read from it and the copies made into it.  An
address past the object is an address like any other: what lies there is part of the memory.
-/

namespace Library

/-- Byte-addressed memory, with addresses counted from the start of one object. -/
abbrev Memory := Nat → UInt8

/-- A NUL-terminated string, without its terminator. -/
structure CString where
  bytes : List UInt8
  nul_free : 0 ∉ bytes
  deriving DecidableEq

def CString.chars (string : CString) : List Char :=
  string.bytes.map fun byte => Char.ofNat byte.toNat

namespace Memory

/-- The `length` bytes from `start` on. -/
def slice (memory : Memory) (start length : Nat) : List UInt8 :=
  (List.range length).map fun offset => memory (start + offset)

/-- Copy `bytes` into memory at `start`. -/
def write (memory : Memory) (start : Nat) (bytes : List UInt8) : Memory := fun address =>
  if start ≤ address then bytes[address - start]?.getD (memory address) else memory address

/-- The bytes up to the first NUL; a list without one is read to its end. -/
def cString (bytes : List UInt8) : List UInt8 :=
  bytes.takeWhile (· != 0)

/-- Copy `data` over the part of `bytes` that starts at `start`. -/
def splice (bytes : List UInt8) (start : Nat) (data : List UInt8) : List UInt8 :=
  bytes.take start ++ data ++ bytes.drop (start + data.length)

@[simp]
theorem length_slice (memory : Memory) (start length : Nat) :
    (memory.slice start length).length = length := by
  simp [slice]

theorem slice_congr {left right : Memory} {start length : Nat}
    (agree : ∀ address, start ≤ address → address < start + length →
      left address = right address) :
    left.slice start length = right.slice start length := by
  apply List.map_congr_left
  intro offset member
  have inside := List.mem_range.mp member
  exact agree (start + offset) (by omega) (by omega)

theorem slice_add (memory : Memory) (start first second : Nat) :
    memory.slice start (first + second) =
      memory.slice start first ++ memory.slice (start + first) second := by
  simp only [slice, List.range_add, List.map_append, List.map_map, List.append_cancel_left_eq]
  apply List.map_congr_left
  intro offset _
  simp [Nat.add_assoc]

/-- The parts of a range that is known as a whole. -/
theorem slice_middle {memory : Memory} (front middle back : List UInt8)
    (whole : memory.slice 0 (front ++ (middle ++ back)).length = front ++ (middle ++ back)) :
    memory.slice front.length middle.length = middle := by
  rw [List.length_append, List.length_append, slice_add, slice_add, Nat.zero_add] at whole
  obtain ⟨-, rest⟩ := List.append_inj whole (length_slice ..)
  exact (List.append_inj rest (length_slice ..)).1

theorem write_apply {memory : Memory} {start address : Nat} {bytes : List UInt8}
    (above : start ≤ address) (inside : address - start < bytes.length) :
    memory.write start bytes address = bytes[address - start] := by
  simp [write, above, inside]

theorem write_apply_of_lt {memory : Memory} {start address : Nat} {bytes : List UInt8}
    (below : address < start) : memory.write start bytes address = memory address := by
  rw [write, if_neg (Nat.not_le.mpr below)]

theorem write_apply_of_le {memory : Memory} {start address : Nat} {bytes : List UInt8}
    (beyond : start + bytes.length ≤ address) :
    memory.write start bytes address = memory address := by
  have outside : bytes.length ≤ address - start := by omega
  simp [write, List.getElem?_eq_none outside]

theorem write_singleton_apply (memory : Memory) (start : Nat) (byte : UInt8) (address : Nat) :
    memory.write start [byte] address = if address = start then byte else memory address := by
  rcases Nat.lt_trichotomy address start with below | rfl | above
  · rw [write_apply_of_lt below, if_neg (by omega)]
  · rw [if_pos rfl, write, if_pos (Nat.le_refl address), Nat.sub_self]
    rfl
  · rw [write_apply_of_le above, if_neg (by omega)]

@[simp]
theorem write_nil (memory : Memory) (start : Nat) : memory.write start [] = memory := by
  funext address
  simp [write]

/-- Two adjacent copies are one. -/
theorem write_append (memory : Memory) (start : Nat) (front back : List UInt8) :
    (memory.write start front).write (start + front.length) back =
      memory.write start (front ++ back) := by
  funext address
  rcases Nat.lt_or_ge address (start + front.length) with early | late
  · rw [write_apply_of_lt early]
    rcases Nat.lt_or_ge address start with before | inside
    · rw [write_apply_of_lt before, write_apply_of_lt before]
    · rw [write_apply inside (by omega), write_apply inside (by rw [List.length_append]; omega),
        List.getElem_append_left (by omega)]
  · have behind : memory.write start front address = memory address := write_apply_of_le late
    rw [write, if_pos late, behind, write, if_pos (by omega),
      List.getElem?_append_right (by omega), Nat.sub_sub]

/-- A range inside a copy holds the corresponding part of what was copied. -/
theorem slice_write (memory : Memory) (start : Nat) {offset length : Nat} {bytes : List UInt8}
    (inside : offset + length ≤ bytes.length) :
    (memory.write start bytes).slice (start + offset) length =
      (bytes.drop offset).take length := by
  apply List.ext_getElem
  · simp
    omega
  · intro index index_lt _
    rw [length_slice] at index_lt
    have source : start + offset + index - start = offset + index := by omega
    simp only [slice, List.getElem_map, List.getElem_range, List.getElem_take, List.getElem_drop]
    rw [write_apply (by omega) (by omega)]
    simp [source]

theorem slice_write_self (memory : Memory) (start : Nat) (bytes : List UInt8) :
    (memory.write start bytes).slice start bytes.length = bytes := by
  have inside : 0 + bytes.length ≤ bytes.length := by simp
  simpa using slice_write memory start inside

theorem slice_write_of_le {memory : Memory} {start first length : Nat} {bytes : List UInt8}
    (before : first + length ≤ start) :
    (memory.write start bytes).slice first length = memory.slice first length :=
  slice_congr fun _ _ _ => write_apply_of_lt (by omega)

@[simp]
theorem cString_nil : cString [] = [] := rfl

theorem cString_append {text : List UInt8} (nul_free : 0 ∉ text) (rest : List UInt8) :
    cString (text ++ rest) = text ++ cString rest := by
  apply List.takeWhile_append_of_pos
  intro byte member
  simpa using fun zero : byte = 0 => nul_free (zero ▸ member)

theorem cString_eq_nil_iff {bytes : List UInt8} :
    cString bytes = [] ↔ bytes.head?.getD 0 = 0 := by
  cases bytes with
  | nil => simp
  | cons byte bytes => by_cases zero : byte = 0 <;> simp [cString, zero]

end Memory
end Library

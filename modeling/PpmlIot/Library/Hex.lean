import Mathlib.Data.Nat.Digits.Defs
import Mathlib.Tactic.Positivity
import Mathlib.Tactic.Ring
import PpmlIot.Library.Text

/-!
# Hexadecimal text and byte orders

Fixed-width hexadecimal conversions, numbers as big- and little-endian bytes, and `unhexlify`, which
reads pairs of digits back.  The link between them is `unhexlify_fixed`: the digits of a number are
the digits of its big-endian bytes.
-/

namespace Library

namespace Hex

/-- Upper-case hexadecimal digit of a value below sixteen. -/
def upperDigit (value : Nat) : Char :=
  (Nat.digitChar value).toUpper

/-- Value of a hexadecimal digit of either case. -/
def digitValue (c : Char) : Option Nat :=
  if '0' ≤ c ∧ c ≤ '9' then
    some (c.toNat - '0'.toNat)
  else if 'A' ≤ c ∧ c ≤ 'F' then
    some (c.toNat - 'A'.toNat + 10)
  else if 'a' ≤ c ∧ c ≤ 'f' then
    some (c.toNat - 'a'.toNat + 10)
  else
    none

/-- The last `width` hexadecimal digits of a number: `%0wX` when the number has no more. -/
def fixed (digit : Nat → Char) : Nat → Nat → Text
  | 0, _ => []
  | width + 1, value => fixed digit width (value / 16) ++ [digit (value % 16)]

/-- Fixed-width conversions, each followed by a blank. -/
def spaced (width : Nat) (values : List Nat) : Text :=
  values.flatMap fun value => fixed upperDigit width value ++ [' ']

/-- Number denoted by a text of hexadecimal digits. -/
def number (text : Text) : Nat :=
  text.foldl (fun value c => 16 * value + (digitValue c).getD 0) 0

/-- The last `width` bytes of a number, most significant first. -/
def bytesBE : Nat → Nat → List UInt8
  | 0, _ => []
  | width + 1, value => bytesBE width (value / 256) ++ [UInt8.ofNat value]

/-- The last `width` bytes of a number, least significant first. -/
def bytesLE : Nat → Nat → List UInt8
  | 0, _ => []
  | width + 1, value => UInt8.ofNat value :: bytesLE width (value / 256)

def ofBytesBE (bytes : List UInt8) : Nat :=
  bytes.foldl (fun value byte => 256 * value + byte.toNat) 0

/-- The numbers held, most significant byte first, by `count` pieces of `width` bytes. -/
def words (width : Nat) : Nat → List UInt8 → List Nat
  | 0, _ => []
  | count + 1, bytes => ofBytesBE (bytes.take width) :: words width count (bytes.drop width)

/-- Bytes denoted by pairs of hexadecimal digits; odd or foreign text is rejected. -/
def unhexlify : Text → Option (List UInt8)
  | [] => some []
  | [_] => none
  | high :: low :: rest =>
      match digitValue high, digitValue low with
      | some h, some l => (unhexlify rest).map fun bytes => UInt8.ofNat (16 * h + l) :: bytes
      | _, _ => none

theorem digitValue_upperDigit {value : Nat} (small : value < 16) :
    digitValue (upperDigit value) = some value := by
  have all : ∀ v ∈ List.range 16, digitValue (upperDigit v) = some v := by decide
  exact all value (List.mem_range.mpr small)

theorem isSpace_eq_false_of_digitValue {c : Char} (digit : (digitValue c).isSome) :
    Text.isSpace c = false := by
  by_contra space
  simp only [Bool.not_eq_false, Text.isSpace, decide_eq_true_eq, List.mem_cons,
    List.not_mem_nil, or_false] at space
  rcases space with rfl | rfl | rfl | rfl | rfl | rfl <;> cases digit

theorem ne_of_digitValue {c other : Char} (digit : (digitValue c).isSome)
    (foreign : digitValue other = none) : c ≠ other := by
  rintro rfl
  rw [foreign] at digit
  cases digit

@[simp]
theorem length_fixed (digit : Nat → Char) (width value : Nat) :
    (fixed digit width value).length = width := by
  induction width generalizing value with
  | zero => rfl
  | succ width induction => simp [fixed, induction]

theorem isSome_digitValue_of_mem_fixed {width value : Nat} {c : Char}
    (member : c ∈ fixed upperDigit width value) : (digitValue c).isSome := by
  induction width generalizing value with
  | zero => cases member
  | succ width induction =>
      rcases List.mem_append.mp member with earlier | last
      · exact induction earlier
      · rw [List.mem_singleton.mp last, digitValue_upperDigit (Nat.mod_lt _ (by decide))]
        rfl

/-- Numbers converted one after the other contain no whitespace. -/
theorem isSpace_eq_false_of_mem_digits {α : Type*} {width : Nat} {value : α → Nat}
    {values : List α} {c : Char}
    (member : c ∈ values.flatMap fun entry => fixed upperDigit width (value entry)) :
    Text.isSpace c = false := by
  obtain ⟨entry, -, digit⟩ := List.mem_flatMap.mp member
  exact isSpace_eq_false_of_digitValue (isSome_digitValue_of_mem_fixed digit)

theorem number_append_singleton (text : Text) (c : Char) :
    number (text ++ [c]) = 16 * number text + (digitValue c).getD 0 := by
  simp [number]

theorem number_fixed (width value : Nat) :
    number (fixed upperDigit width value) = value % 16 ^ width := by
  induction width generalizing value with
  | zero => simp [fixed, number, Nat.mod_one]
  | succ width induction =>
      rw [fixed, number_append_singleton, induction,
        digitValue_upperDigit (Nat.mod_lt _ (by decide)), Option.getD_some, pow_succ', Nat.mod_mul]
      exact Nat.add_comm _ _

/-- Numbers that fit their conversions are determined by the conversions side by side. -/
theorem flatMap_fixed_injective {width : Nat} (positive : width ≠ 0) {left right : List Nat}
    (left_fits : ∀ value ∈ left, value < 16 ^ width)
    (right_fits : ∀ value ∈ right, value < 16 ^ width)
    (equal : left.flatMap (fixed upperDigit width) = right.flatMap (fixed upperDigit width)) :
    left = right := by
  have printed (value : Nat) (values : List Nat) :
      (value :: values).flatMap (fixed upperDigit width) ≠ [] := by
    intro empty
    have count := congrArg List.length empty
    simp [positive] at count
  induction left generalizing right with
  | nil =>
      cases right with
      | nil => rfl
      | cons other right => exact absurd equal.symm (printed other right)
  | cons value left induction =>
      cases right with
      | nil => exact absurd equal (printed value left)
      | cons other right =>
          rw [List.flatMap_cons, List.flatMap_cons] at equal
          obtain ⟨first, rest⟩ := List.append_inj equal (by simp)
          have numbers := congrArg number first
          rw [number_fixed, number_fixed,
            Nat.mod_eq_of_lt (left_fits value List.mem_cons_self),
            Nat.mod_eq_of_lt (right_fits other List.mem_cons_self)] at numbers
          rw [numbers, induction (fun v member => left_fits v (List.mem_cons_of_mem _ member))
            (fun v member => right_fits v (List.mem_cons_of_mem _ member)) rest]

@[simp]
theorem length_bytesBE (width value : Nat) : (bytesBE width value).length = width := by
  induction width generalizing value with
  | zero => rfl
  | succ width induction => simp [bytesBE, induction]

@[simp]
theorem length_bytesLE (width value : Nat) : (bytesLE width value).length = width := by
  induction width generalizing value with
  | zero => rfl
  | succ width induction => simp [bytesLE, induction]

/-- The low bytes of a number stand behind the bytes of its quotient. -/
theorem bytesBE_add (high low value : Nat) :
    bytesBE (high + low) value = bytesBE high (value / 256 ^ low) ++ bytesBE low value := by
  induction low generalizing value with
  | zero => simp [bytesBE]
  | succ low induction =>
      rw [← Nat.add_assoc, bytesBE, induction, bytesBE, List.append_assoc, Nat.div_div_eq_div_mul,
        pow_succ']

theorem bytesBE_mod (width value : Nat) :
    bytesBE width (value % 256 ^ width) = bytesBE width value := by
  induction width generalizing value with
  | zero => rfl
  | succ width induction =>
      have quotient : value % 256 ^ (width + 1) / 256 = value / 256 % 256 ^ width := by
        rw [pow_succ', Nat.mod_mul_right_div_self]
      have last : UInt8.ofNat (value % 256 ^ (width + 1)) = UInt8.ofNat value := by
        apply UInt8.toNat_inj.mp
        simp [pow_succ']
      rw [bytesBE, bytesBE, quotient, last, induction]

/-- The bytes of a number are those of its digits in base `256 ^ width`, the last digit first. -/
theorem bytesBE_ofDigits {width : Nat} {digits : List Nat}
    (small : ∀ digit ∈ digits, digit < 256 ^ width) :
    bytesBE (width * digits.length) (Nat.ofDigits (256 ^ width) digits) =
      digits.reverse.flatMap (bytesBE width) := by
  induction digits with
  | nil => rfl
  | cons digit digits induction =>
      have digit_small : digit < 256 ^ width := small digit List.mem_cons_self
      have rest := induction fun other member => small other (List.mem_cons_of_mem digit member)
      have quotient : Nat.ofDigits (256 ^ width) (digit :: digits) / 256 ^ width =
          Nat.ofDigits (256 ^ width) digits := by
        rw [Nat.ofDigits_cons, Nat.add_mul_div_left _ _ (by positivity),
          Nat.div_eq_of_lt digit_small, Nat.zero_add]
      have remainder : Nat.ofDigits (256 ^ width) (digit :: digits) % 256 ^ width = digit := by
        rw [Nat.ofDigits_cons, Nat.add_mul_mod_self_left, Nat.mod_eq_of_lt digit_small]
      rw [List.length_cons, Nat.mul_succ, bytesBE_add, quotient, rest, ← bytesBE_mod width,
        remainder, List.reverse_cons, List.flatMap_append, List.flatMap_singleton]

/-- The non-zero digits of a number are those of any digits that denote it. -/
theorem filter_digits_ofDigits {base : Nat} (large : 1 < base) {digits : List Nat}
    (small : ∀ digit ∈ digits, digit < base) :
    (Nat.digits base (Nat.ofDigits base digits)).filter (· ≠ 0) = digits.filter (· ≠ 0) := by
  induction digits with
  | nil => simp
  | cons digit digits induction =>
      have rest := induction fun other member => small other (List.mem_cons_of_mem _ member)
      rw [Nat.ofDigits_cons]
      by_cases zero : digit = 0 ∧ Nat.ofDigits base digits = 0
      · rw [zero.2, Nat.digits_zero] at rest
        rw [zero.1, zero.2]
        simpa using rest
      · have nonzero : digit ≠ 0 ∨ Nat.ofDigits base digits ≠ 0 := by
          rwa [not_and_or] at zero
        rw [Nat.digits_add base large digit _ (small digit List.mem_cons_self) nonzero,
          List.filter_cons, List.filter_cons, rest]

theorem ofBytesBE_append_singleton (bytes : List UInt8) (byte : UInt8) :
    ofBytesBE (bytes ++ [byte]) = 256 * ofBytesBE bytes + byte.toNat := by
  simp [ofBytesBE]

theorem ofBytesBE_bytesBE (width value : Nat) :
    ofBytesBE (bytesBE width value) = value % 256 ^ width := by
  induction width generalizing value with
  | zero => simp [bytesBE, ofBytesBE, Nat.mod_one]
  | succ width induction =>
      rw [bytesBE, ofBytesBE_append_singleton, induction, pow_succ', Nat.mod_mul]
      simp [Nat.add_comm]

theorem ofBytesBE_append (front back : List UInt8) :
    ofBytesBE (front ++ back) = 256 ^ back.length * ofBytesBE front + ofBytesBE back := by
  induction back using List.reverseRecOn with
  | nil => simp [ofBytesBE]
  | append_singleton back byte induction =>
      rw [← List.append_assoc, ofBytesBE_append_singleton, ofBytesBE_append_singleton, induction,
        List.length_append, List.length_singleton, pow_succ]
      ring

theorem ofBytesBE_lt (bytes : List UInt8) : ofBytesBE bytes < 256 ^ bytes.length := by
  induction bytes using List.reverseRecOn with
  | nil => decide
  | append_singleton bytes byte induction =>
      rw [ofBytesBE_append_singleton, List.length_append, List.length_singleton, pow_succ]
      have := byte.toNat_lt
      omega

@[simp]
theorem length_words (width count : Nat) (bytes : List UInt8) :
    (words width count bytes).length = count := by
  induction count generalizing bytes with
  | zero => rfl
  | succ count induction => simp [words, induction]

theorem words_lt {width count : Nat} {bytes : List UInt8} {word : Nat}
    (member : word ∈ words width count bytes) : word < 256 ^ width := by
  induction count generalizing bytes with
  | zero => cases member
  | succ count induction =>
      rcases List.mem_cons.mp member with rfl | later
      · calc
          ofBytesBE (bytes.take width) < 256 ^ (bytes.take width).length := ofBytesBE_lt _
          _ ≤ 256 ^ width := Nat.pow_le_pow_right (by decide) (List.length_take_le ..)
      · exact induction later

/-- The pieces of a number's bytes are its digits, the last digit first. -/
theorem ofBytesBE_eq_ofDigits {width count : Nat} {bytes : List UInt8}
    (whole : bytes.length = width * count) :
    ofBytesBE bytes = Nat.ofDigits (256 ^ width) (words width count bytes).reverse := by
  induction count generalizing bytes with
  | zero => simp [List.eq_nil_of_length_eq_zero whole, words, ofBytesBE]
  | succ count induction =>
      have rest : (bytes.drop width).length = width * count := by
        rw [List.length_drop, whole, Nat.mul_succ, Nat.add_sub_cancel]
      conv_lhs => rw [← List.take_append_drop width bytes]
      rw [words, List.reverse_cons, Nat.ofDigits_append, ofBytesBE_append, induction rest, rest,
        List.length_reverse, length_words, pow_mul, Nat.ofDigits_singleton, Nat.add_comm]

/-- Fixed-width bytes determine a number that fits the width. -/
theorem bytesBE_injective {width left right : Nat} (left_fits : left < 256 ^ width)
    (right_fits : right < 256 ^ width) (equal : bytesBE width left = bytesBE width right) :
    left = right := by
  have numbers := congrArg ofBytesBE equal
  rwa [ofBytesBE_bytesBE, ofBytesBE_bytesBE, Nat.mod_eq_of_lt left_fits,
    Nat.mod_eq_of_lt right_fits] at numbers

/-! ## Reading digits back -/

/-- Reading goes on behind a text that was read completely. -/
theorem unhexlify_append {front : Text} {bytes : List UInt8}
    (read : unhexlify front = some bytes) (rest : Text) :
    unhexlify (front ++ rest) = (unhexlify rest).map (bytes ++ ·) := by
  induction front using unhexlify.induct generalizing bytes with
  | case1 =>
      cases read
      simp
  | case2 c => simp [unhexlify] at read
  | case3 high low front h l high_value low_value induction =>
      simp only [unhexlify, high_value, low_value, Option.map_eq_some_iff] at read
      obtain ⟨tail, tail_read, rfl⟩ := read
      simp only [List.cons_append, unhexlify, high_value, low_value, induction tail_read]
      cases unhexlify rest <;> rfl
  | case4 high low front foreign =>
      rw [unhexlify] at read
      split at read
      · rename_i h l high_value low_value
        exact (foreign h l high_value low_value).elim
      · cases read

/-- Only digits are read, two for each byte. -/
theorem digits_of_unhexlify {text : Text} {bytes : List UInt8}
    (read : unhexlify text = some bytes) :
    text.length = 2 * bytes.length ∧ ∀ c ∈ text, (digitValue c).isSome := by
  induction text using unhexlify.induct generalizing bytes with
  | case1 =>
      cases read
      simp
  | case2 c => simp [unhexlify] at read
  | case3 high low rest h l high_value low_value induction =>
      simp only [unhexlify, high_value, low_value, Option.map_eq_some_iff] at read
      obtain ⟨tail, tail_read, rfl⟩ := read
      obtain ⟨length, digits⟩ := induction tail_read
      constructor
      · simp only [List.length_cons, length]
        ring
      · simpa [high_value, low_value] using digits
  | case4 high low rest foreign =>
      rw [unhexlify] at read
      split at read
      · rename_i h l high_value low_value
        exact (foreign h l high_value low_value).elim
      · cases read

section Reads

variable {digit : Nat → Char}

theorem unhexlify_pair_of_reads (reads : ∀ v < 16, digitValue (digit v) = some v) (value : Nat) :
    unhexlify (fixed digit 2 value) = some [UInt8.ofNat value] := by
  have high : digitValue (digit (value / 16 % 16)) = some (value / 16 % 16) :=
    reads _ (Nat.mod_lt _ (by decide))
  have low : digitValue (digit (value % 16)) = some (value % 16) :=
    reads _ (Nat.mod_lt _ (by decide))
  simp only [fixed, List.nil_append, List.cons_append, unhexlify, high, low, Option.map_some]
  congr 2
  apply UInt8.toNat_inj.mp
  simp only [UInt8.toNat_ofNat']
  omega

/-- Hexadecimal digits of a number, in either case, are read as its big-endian bytes. -/
theorem unhexlify_fixed_of_reads (reads : ∀ v < 16, digitValue (digit v) = some v)
    (width value : Nat) :
    unhexlify (fixed digit (2 * width) value) = some (bytesBE width value) := by
  induction width generalizing value with
  | zero => rfl
  | succ width induction =>
      have split : fixed digit (2 * (width + 1)) value =
          fixed digit (2 * width) (value / 256) ++ fixed digit 2 value := by
        rw [show 2 * (width + 1) = 2 * width + 1 + 1 by ring]
        simp [fixed, Nat.div_div_eq_div_mul]
      rw [split, unhexlify_append (induction (value / 256)), unhexlify_pair_of_reads reads]
      rfl

end Reads

theorem unhexlify_pair (value : Nat) :
    unhexlify (fixed upperDigit 2 value) = some [UInt8.ofNat value] :=
  unhexlify_pair_of_reads (fun _ => digitValue_upperDigit) value

theorem unhexlify_fixed (width value : Nat) :
    unhexlify (fixed upperDigit (2 * width) value) = some (bytesBE width value) :=
  unhexlify_fixed_of_reads (fun _ => digitValue_upperDigit) width value

theorem unhexlify_flatMap_fixed (width : Nat) (values : List Nat) :
    unhexlify (values.flatMap (fixed upperDigit (2 * width))) =
      some (values.flatMap (bytesBE width)) := by
  induction values with
  | nil => rfl
  | cons value values induction =>
      rw [List.flatMap_cons, unhexlify_append (unhexlify_fixed width value), induction]
      rfl

theorem unhexlify_flatMap_bytes (bytes : List UInt8) :
    unhexlify (bytes.flatMap fun byte => fixed upperDigit 2 byte.toNat) = some bytes := by
  induction bytes with
  | nil => rfl
  | cons byte bytes induction =>
      rw [List.flatMap_cons, unhexlify_append (unhexlify_pair byte.toNat), induction]
      simp

/-- Without the blanks, spaced conversions stand side by side. -/
theorem without_spaced (width : Nat) (values : List Nat) :
    Text.without ' ' (spaced width values) = values.flatMap (fixed upperDigit width) := by
  induction values with
  | nil => rfl
  | cons value values induction =>
      have digits : ' ' ∉ fixed upperDigit width value := fun member =>
        ne_of_digitValue (isSome_digitValue_of_mem_fixed member) rfl rfl
      rw [spaced, List.flatMap_cons, Text.without_append, Text.without_append,
        Text.without_eq_self digits, List.flatMap_cons, ← induction, spaced]
      simp [Text.without]

theorem digit_or_blank_of_mem_spaced {width : Nat} {values : List Nat} {c : Char}
    (member : c ∈ spaced width values) : (digitValue c).isSome ∨ c = ' ' := by
  obtain ⟨value, -, inside⟩ := List.mem_flatMap.mp member
  rcases List.mem_append.mp inside with digit | blank
  · exact .inl (isSome_digitValue_of_mem_fixed digit)
  · exact .inr (List.mem_singleton.mp blank)

theorem not_mem_spaced {c : Char} (foreign : digitValue c = none) (visible : c ≠ ' ')
    (width : Nat) (values : List Nat) : c ∉ spaced width values := by
  intro member
  rcases digit_or_blank_of_mem_spaced member with digit | blank
  · exact ne_of_digitValue digit foreign rfl
  · exact visible blank

theorem newline_not_mem_spaced (width : Nat) (values : List Nat) : '\n' ∉ spaced width values :=
  not_mem_spaced rfl (by decide) width values

/-- The `index`-th piece of a text made of pieces of one width. -/
theorem take_drop_flatMap {α : Type*} {width : Nat} {print : α → Text}
    (uniform : ∀ value, (print value).length = width) (values : List α) (index : Nat)
    (inside : index < values.length) :
    ((values.flatMap print).drop (width * index)).take width = print values[index] := by
  induction values generalizing index with
  | nil => simp at inside
  | cons value values induction =>
      cases index with
      | zero => simp [← uniform value]
      | succ index =>
          have skip : width * (index + 1) = (print value).length + width * index := by
            rw [uniform value]
            ring
          rw [List.flatMap_cons, skip, ← List.drop_drop, List.drop_left]
          simpa using induction index (by simpa using inside)

end Hex
end Library

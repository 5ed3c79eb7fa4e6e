import Mathlib.Algebra.Order.Ring.Rat
import Mathlib.Tactic.FieldSimp
import Mathlib.Tactic.Ring
import PpmlIot.Library.Text

/-!
# Decimal numerals

The rational number a decimal numeral stands for, and the numerals with a fixed number of places
that are printed from a whole part and a rest.
-/

namespace Library.Decimal

/-- The value of digits with or without a point among them. -/
def unsignedValue (text : Text) : Option ℚ :=
  let whole := text.takeWhile Char.isDigit
  match text.dropWhile Char.isDigit with
  | [] => if whole = [] then none else some (Nat.ofDigitChars 10 whole 0)
  | c :: fraction =>
      if c = '.' ∧ whole ≠ [] ∧ fraction ≠ [] ∧ fraction.all Char.isDigit then
        some ((Nat.ofDigitChars 10 (whole ++ fraction) 0 : ℚ) / 10 ^ fraction.length)
      else
        none

/-- The value of a numeral, with blanks and a minus sign allowed in front of its digits. -/
def value (text : Text) : Option ℚ :=
  match text.dropWhile (· == ' ') with
  | [] => none
  | c :: rest => if c = '-' then (unsignedValue rest).map Neg.neg else unsignedValue (c :: rest)

/-- The integer that a numeral without a point stands for. -/
def integer (text : Text) : Int :=
  match text.dropWhile (· == ' ') with
  | [] => 0
  | c :: rest =>
      if c = '-' then -Nat.ofDigitChars 10 rest 0 else Nat.ofDigitChars 10 (c :: rest) 0

/-- `%wi.%0pi`: a whole part and a rest printed as one numeral. -/
def fixedPoint (width places : Nat) (whole rest : Int) : Text :=
  Text.decimalWidth width whole ++ '.' :: Text.decimalZeros places rest

theorem unsignedValue_point {whole fraction : Text} (whole_digits : ∀ c ∈ whole, c.isDigit)
    (fraction_digits : ∀ c ∈ fraction, c.isDigit) (whole_nonempty : whole ≠ [])
    (fraction_nonempty : fraction ≠ []) :
    unsignedValue (whole ++ '.' :: fraction) =
      some ((Nat.ofDigitChars 10 (whole ++ fraction) 0 : ℚ) / 10 ^ fraction.length) := by
  have front : (whole ++ '.' :: fraction).takeWhile Char.isDigit = whole := by
    rw [List.takeWhile_append_of_pos whole_digits]
    simp
  have back : (whole ++ '.' :: fraction).dropWhile Char.isDigit = '.' :: fraction := by
    rw [List.dropWhile_append_of_pos whole_digits]
    simp
  have all : fraction.all Char.isDigit := List.all_eq_true.mpr fraction_digits
  simp [unsignedValue, front, back, whole_nonempty, fraction_nonempty, all]

/-- A sign behind the point spoils a numeral. -/
theorem unsignedValue_point_eq_none {whole fraction : Text}
    (whole_digits : ∀ c ∈ whole, c.isDigit) {c : Char} (inside : c ∈ fraction)
    (foreign : c.isDigit = false) : unsignedValue (whole ++ '.' :: fraction) = none := by
  have back : (whole ++ '.' :: fraction).dropWhile Char.isDigit = '.' :: fraction := by
    rw [List.dropWhile_append_of_pos whole_digits]
    simp
  have spoilt : fraction.all Char.isDigit = false :=
    List.all_eq_false.mpr ⟨c, inside, by simp [foreign]⟩
  simp [unsignedValue, back, spoilt]

theorem dropWhile_blanks (count : Nat) (text : Text) :
    (List.replicate count ' ' ++ text).dropWhile (· == ' ') = text.dropWhile (· == ' ') :=
  List.dropWhile_append_of_pos fun c member => by simp [List.eq_of_mem_replicate member]

theorem value_blanks (count : Nat) (text : Text) :
    value (List.replicate count ' ' ++ text) = value text := by
  rw [value, value, dropWhile_blanks]

theorem value_neg (text : Text) : value ('-' :: text) = (unsignedValue text).map Neg.neg := by
  simp [value]

theorem ne_of_isDigit {c other : Char} (digit : c.isDigit) (foreign : other.isDigit = false) :
    c ≠ other := by
  rintro rfl
  rw [foreign] at digit
  cases digit

theorem value_of_digit {c : Char} (digit : c.isDigit) (text : Text) :
    value (c :: text) = unsignedValue (c :: text) := by
  have solid : c ≠ ' ' := ne_of_isDigit digit rfl
  have unsigned : c ≠ '-' := ne_of_isDigit digit rfl
  simp [value, solid, unsigned]

/-- The characters of numerals. -/
def isNumeral (c : Char) : Bool := Text.isNumeral c || c == '.'

theorem isNumeral_of_unsignedValue {text : Text} {number : ℚ}
    (denotes : unsignedValue text = some number) : ∀ c ∈ text, isNumeral c = true := by
  intro c member
  rw [← List.takeWhile_append_dropWhile (p := Char.isDigit) (l := text)] at member
  rcases List.mem_append.mp member with digit | later
  · simp [isNumeral, Text.isNumeral, List.mem_takeWhile_imp digit]
  · unfold unsignedValue at denotes
    cases found : text.dropWhile Char.isDigit with
    | nil => simp [found] at later
    | cons point fraction =>
        rw [found] at later denotes
        simp only [Option.ite_none_right_eq_some] at denotes
        obtain ⟨⟨rfl, -, -, digits⟩, -⟩ := denotes
        rcases List.mem_cons.mp later with rfl | digit
        · rfl
        · simp [isNumeral, Text.isNumeral, List.all_eq_true.mp digits c digit]

/-- What has a value consists of blanks, signs, digits and points. -/
theorem isNumeral_of_value {text : Text} {number : ℚ} (denotes : value text = some number) :
    ∀ c ∈ text, isNumeral c = true := by
  intro c member
  rw [← List.takeWhile_append_dropWhile (p := (· == ' ')) (l := text)] at member
  rcases List.mem_append.mp member with blank | later
  · have equal : c = ' ' := by simpa using List.mem_takeWhile_imp blank
    rw [equal]
    rfl
  · unfold value at denotes
    cases found : text.dropWhile (· == ' ') with
    | nil => simp [found] at later
    | cons first rest =>
        rw [found] at later denotes
        simp only at denotes
        split at denotes
        · rename_i minus
          obtain ⟨magnitude, unsigned, -⟩ := Option.map_eq_some_iff.mp denotes
          rcases List.mem_cons.mp later with rfl | digit
          · rw [minus]
            rfl
          · exact isNumeral_of_unsignedValue unsigned c digit
        · exact isNumeral_of_unsignedValue denotes c later

theorem isDigit_of_mem_zeros {count number : Nat} {c : Char}
    (member : c ∈ List.replicate count '0' ++ Nat.toDigits 10 number) : c.isDigit := by
  rcases List.mem_append.mp member with zero | digit
  · rw [List.eq_of_mem_replicate zero]
    rfl
  · exact Text.isDigit_of_mem_toDigits digit

theorem ofDigitChars_zeros (count number : Nat) :
    Nat.ofDigitChars 10 (List.replicate count '0' ++ Nat.toDigits 10 number) 0 = number := by
  rw [Nat.ofDigitChars_append, Nat.ofDigitChars_replicate_zero, Nat.mul_zero,
    Nat.ofDigitChars_ten_toDigits]

theorem integer_of_digits {text : Text} (digits : ∀ c ∈ text, c.isDigit) :
    integer text = Nat.ofDigitChars 10 text 0 := by
  cases text with
  | nil => rfl
  | cons c text =>
      have solid : c ≠ ' ' := ne_of_isDigit (digits c List.mem_cons_self) rfl
      have unsigned : c ≠ '-' := ne_of_isDigit (digits c List.mem_cons_self) rfl
      simp [integer, solid, unsigned]

theorem integer_neg (text : Text) : integer ('-' :: text) = -Nat.ofDigitChars 10 text 0 := by
  simp [integer]

/-- An integer is read back from its numeral. -/
theorem integer_decimalWidth (width : Nat) (number : Int) :
    integer (Text.decimalWidth width number) = number := by
  have skipped : integer (Text.decimalWidth width number) = integer (Text.decimal number) := by
    rw [Text.decimalWidth, integer, integer, dropWhile_blanks]
  rw [skipped, Text.decimal]
  split
  · rw [integer_neg, Nat.ofDigitChars_ten_toDigits]
    omega
  · rw [integer_of_digits fun _ => Text.isDigit_of_mem_toDigits, Nat.ofDigitChars_ten_toDigits]
    omega

theorem integer_decimalZeros (width : Nat) (number : Int) :
    integer (Text.decimalZeros width number) = number := by
  rw [Text.decimalZeros]
  split
  · rw [List.append_assoc, List.singleton_append, integer_neg, ofDigitChars_zeros]
    omega
  · rw [List.nil_append, integer_of_digits fun _ => isDigit_of_mem_zeros, ofDigitChars_zeros]
    omega

section FixedPoint

variable {width places : Nat} {whole rest : Int}

/-- The sign of the whole part is the sign of the numeral. -/
theorem value_fixedPoint_eq :
    value (fixedPoint width places whole rest) =
      (unsignedValue (Nat.toDigits 10 whole.natAbs ++ '.' :: Text.decimalZeros places rest)).map
        fun magnitude => if whole < 0 then -magnitude else magnitude := by
  rw [fixedPoint, Text.decimalWidth, List.append_assoc, value_blanks, Text.decimal]
  split
  · rw [List.cons_append, value_neg]
  · obtain ⟨c, digits, printed⟩ :=
      List.exists_cons_of_ne_nil (Nat.toDigits_ne_nil (n := whole.natAbs) (b := 10))
    have digit : c.isDigit := Text.isDigit_of_mem_toDigits (printed ▸ List.mem_cons_self)
    rw [printed, List.cons_append, value_of_digit digit]
    simp

theorem decimalZeros_of_nonneg (nonneg : 0 ≤ rest) :
    Text.decimalZeros places rest =
      List.replicate (places - (Nat.toDigits 10 rest.natAbs).length) '0' ++
        Nat.toDigits 10 rest.natAbs := by
  simp [Text.decimalZeros, not_lt.mpr nonneg]

theorem length_decimalZeros (positive : 0 < places) (nonneg : 0 ≤ rest)
    (small : rest < 10 ^ places) : (Text.decimalZeros places rest).length = places := by
  have fits : (Nat.toDigits 10 rest.natAbs).length ≤ places := by
    rw [Nat.length_toDigits_le_iff (by decide) positive]
    have magnitude : ((rest.natAbs : Nat) : Int) < ((10 ^ places : Nat) : Int) := by
      rw [Int.natAbs_of_nonneg nonneg]
      exact_mod_cast small
    exact_mod_cast magnitude
  rw [decimalZeros_of_nonneg nonneg, List.length_append, List.length_replicate]
  omega

/-- A rest that is not negative and fits the places is the fraction of the numeral. -/
theorem value_fixedPoint (positive : 0 < places) (nonneg : 0 ≤ rest)
    (small : rest < 10 ^ places) :
    value (fixedPoint width places whole rest) =
      some (if whole < 0 then (whole - rest / 10 ^ places : ℚ)
        else (whole + rest / 10 ^ places : ℚ)) := by
  have length := length_decimalZeros positive nonneg small
  have fraction_digits : ∀ c ∈ Text.decimalZeros places rest, c.isDigit := by
    rw [decimalZeros_of_nonneg nonneg]
    exact fun _ => isDigit_of_mem_zeros
  have digits : Nat.ofDigitChars 10
      (Nat.toDigits 10 whole.natAbs ++ Text.decimalZeros places rest) 0 =
        10 ^ places * whole.natAbs + rest.natAbs := by
    rw [Nat.ofDigitChars_append, Nat.ofDigitChars_ten_toDigits,
      Nat.ofDigitChars_eq_ofDigitChars_zero, length, decimalZeros_of_nonneg nonneg,
      ofDigitChars_zeros]
  have fraction_nonempty : Text.decimalZeros places rest ≠ [] :=
    List.ne_nil_of_length_pos (by rwa [length])
  rw [value_fixedPoint_eq, unsignedValue_point (fun _ => Text.isDigit_of_mem_toDigits)
    fraction_digits Nat.toDigits_ne_nil fraction_nonempty, digits, length, Option.map_some]
  have rest_cast : ((rest.natAbs : Nat) : ℚ) = rest := by
    rw [Nat.cast_natAbs, abs_of_nonneg nonneg]
  push_cast
  rw [rest_cast, Nat.cast_natAbs]
  congr 1
  split
  · rename_i negative
    rw [abs_of_neg negative]
    push_cast
    field_simp
    ring
  · rename_i not_negative
    rw [abs_of_nonneg (not_lt.mp not_negative)]
    field_simp

/-- With a negative rest the text is no numeral. -/
theorem value_fixedPoint_eq_none (negative : rest < 0) :
    value (fixedPoint width places whole rest) = none := by
  have minus : '-' ∈ Text.decimalZeros places rest := by
    simp [Text.decimalZeros, negative]
  rw [value_fixedPoint_eq,
    unsignedValue_point_eq_none (fun _ => Text.isDigit_of_mem_toDigits) minus rfl, Option.map_none]

/-- Whole part and rest are read back, whatever their signs. -/
theorem fixedPoint_injective {whole' rest' : Int}
    (same : fixedPoint width places whole rest = fixedPoint width places whole' rest') :
    whole = whole' ∧ rest = rest' := by
  have no_point : '.' ∉ Text.decimalWidth width whole :=
    Text.not_mem_of_isNumeral rfl fun _ => Text.isNumeral_of_mem_decimalWidth
  have no_other_point : '.' ∉ Text.decimalZeros places rest :=
    Text.not_mem_of_isNumeral rfl fun _ => Text.isNumeral_of_mem_decimalZeros
  obtain ⟨front, -, back⟩ :=
    (List.append_cons_inj_of_notMem no_point no_other_point).mp same
  constructor
  · rw [← integer_decimalWidth width whole, front, integer_decimalWidth]
  · rw [← integer_decimalZeros places rest, back, integer_decimalZeros]

end FixedPoint

end Library.Decimal

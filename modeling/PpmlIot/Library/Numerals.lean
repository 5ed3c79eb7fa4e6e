import PpmlIot.Library.Decimal

/-!
# The numbers in a text

What a reader finds who looks for integers in a text: each run of digits and minus signs that has a
digit is one.  A character of another kind separates the text into two that are read independently,
so numerals with texts between them are read one by one.
-/

namespace Library

namespace Numerals

def inNumeral (c : Char) : Bool :=
  c.isDigit || c == '-'

/-- A run without digits stands for nothing. -/
def ofRun (run : Text) : List Int :=
  if run.any Char.isDigit then [Decimal.integer run] else []

/-- The integers in a text, from left to right. -/
def numerals (text : Text) : List Int :=
  (text.splitOnP fun c => !inNumeral c).flatMap ofRun

/-- A text is read independently in front of a separator and behind it. -/
theorem numerals_append_cons {c : Char} (foreign : inNumeral c = false) (front rest : Text) :
    numerals (front ++ c :: rest) = numerals front ++ numerals rest := by
  have separates : (!inNumeral c) = true := by
    rw [foreign]
    rfl
  rw [numerals, List.splitOnP_append_cons front rest separates, List.flatMap_append]
  rfl

@[simp]
theorem numerals_append_blank (front rest : Text) :
    numerals (front ++ ' ' :: rest) = numerals front ++ numerals rest :=
  numerals_append_cons rfl front rest

/-- A run that has a digit is one numeral. -/
theorem numerals_of_run {run : Text} (inside : ∀ c ∈ run, inNumeral c = true) {c : Char}
    (member : c ∈ run) (digit : c.isDigit) : numerals run = [Decimal.integer run] := by
  have solid : ∀ c ∈ run, (!inNumeral c) = false := by
    intro c member
    rw [inside c member]
    rfl
  have found : run.any Char.isDigit = true := List.any_eq_true.mpr ⟨c, member, digit⟩
  rw [numerals, List.splitOnP_eq_singleton solid, List.flatMap_singleton, ofRun, if_pos found]

theorem exists_digit (number : Nat) : ∃ c ∈ Nat.toDigits 10 number, c.isDigit := by
  obtain ⟨c, digits, printed⟩ :=
    List.exists_cons_of_ne_nil (Nat.toDigits_ne_nil (n := number) (b := 10))
  have member : c ∈ Nat.toDigits 10 number := printed ▸ List.mem_cons_self
  exact ⟨c, member, Text.isDigit_of_mem_toDigits member⟩

theorem inNumeral_of_isDigit {c : Char} (digit : c.isDigit) : inNumeral c = true := by
  rw [inNumeral, digit, Bool.true_or]

/-- An integer is found in what `%0wi` prints for it. -/
@[simp]
theorem numerals_decimalZeros (width : Nat) (number : Int) :
    numerals (Text.decimalZeros width number) = [number] := by
  obtain ⟨c, member, digit⟩ := exists_digit number.natAbs
  have inside : ∀ c ∈ Text.decimalZeros width number, inNumeral c = true := by
    intro c member
    rw [Text.decimalZeros, List.append_assoc] at member
    rcases List.mem_append.mp member with sign | digits
    · split at sign
      · rw [List.mem_singleton.mp sign]
        rfl
      · cases sign
    · exact inNumeral_of_isDigit (Decimal.isDigit_of_mem_zeros digits)
  rw [numerals_of_run inside (List.mem_append_right _ member) digit, Decimal.integer_decimalZeros]

theorem decimal_eq_decimalZeros (number : Int) :
    Text.decimal number = Text.decimalZeros 0 number := by
  rw [Text.decimal, Text.decimalZeros]
  split <;> simp

@[simp]
theorem numerals_decimal (number : Int) : numerals (Text.decimal number) = [number] := by
  rw [decimal_eq_decimalZeros, numerals_decimalZeros]

/-- An integer is found in what `%wi` prints for it. -/
@[simp]
theorem numerals_decimalWidth (width : Nat) (number : Int) :
    numerals (Text.decimalWidth width number) = [number] := by
  rw [Text.decimalWidth]
  induction width - (Text.decimal number).length with
  | zero => exact numerals_decimal number
  | succ blanks induction =>
      have blank := numerals_append_blank [] (List.replicate blanks ' ' ++ Text.decimal number)
      rw [List.replicate_succ, List.cons_append]
      exact blank.trans induction

/-- The text starts with a character that ends a numeral. -/
def startsForeign (text : Text) : Bool :=
  text.head?.any fun c => !inNumeral c

/-- A text without numbers that can stand between numerals. -/
def separates (text : Text) : Bool :=
  startsForeign text && (text.getLast?.any fun c => !inNumeral c) && (numerals text).isEmpty

/-- Numerals, each with a text in front of it. -/
def fieldsText (fields : List (Text × Text)) : Text :=
  fields.flatMap fun field => field.1 ++ field.2

theorem numerals_append_of_startsForeign {rest : Text} (starts : startsForeign rest)
    (front : Text) : numerals (front ++ rest) = numerals front ++ numerals rest := by
  rw [startsForeign, Option.any_eq_true] at starts
  obtain ⟨c, head, foreign⟩ := starts
  obtain ⟨tail, rfl⟩ := List.head?_eq_some_iff.mp head
  rw [Bool.not_eq_true'] at foreign
  rw [numerals_append_cons foreign, ← List.nil_append (c :: tail), numerals_append_cons foreign]
  rfl

/-- A separating text contributes nothing. -/
theorem numerals_of_separates {text : Text} (separating : separates text) (rest : Text) :
    numerals (text ++ rest) = numerals rest := by
  simp only [separates, Bool.and_eq_true, Option.any_eq_true, List.isEmpty_iff] at separating
  obtain ⟨⟨-, c, last, foreign⟩, silent⟩ := separating
  obtain ⟨front, rfl⟩ := List.getLast?_eq_some_iff.mp last
  rw [Bool.not_eq_true'] at foreign
  rw [numerals_append_cons foreign] at silent
  rw [List.append_assoc, List.singleton_append, numerals_append_cons foreign,
    List.append_eq_nil_iff.mp silent |>.1, List.nil_append]

theorem startsForeign_fieldsText {fields : List (Text × Text)}
    (separated : ∀ field ∈ fields, separates field.1) {rest : Text} (starts : startsForeign rest) :
    startsForeign (fieldsText fields ++ rest) := by
  cases fields with
  | nil => exact starts
  | cons field fields =>
      have separating := separated field List.mem_cons_self
      simp only [separates, Bool.and_eq_true] at separating
      have first := separating.1.1
      rw [startsForeign, Option.any_eq_true] at first ⊢
      obtain ⟨c, head, foreign⟩ := first
      refine ⟨c, ?_, foreign⟩
      rw [fieldsText, List.flatMap_cons, List.append_assoc, List.append_assoc, List.head?_append,
        head, Option.some_or]

/-- The numbers in a line of fields are those of its numerals. -/
theorem numerals_fieldsText {fields : List (Text × Text)}
    (separated : ∀ field ∈ fields, separates field.1) {rest : Text} (starts : startsForeign rest) :
    numerals (fieldsText fields ++ rest) =
      (fields.flatMap fun field => numerals field.2) ++ numerals rest := by
  induction fields with
  | nil => rfl
  | cons field fields induction =>
      have later (other : Text × Text) (member : other ∈ fields) : separates other.1 :=
        separated other (List.mem_cons_of_mem field member)
      have behind := startsForeign_fieldsText later starts
      rw [fieldsText, List.flatMap_cons, List.append_assoc, List.append_assoc,
        numerals_of_separates (separated field List.mem_cons_self)]
      change numerals (field.2 ++ (fieldsText fields ++ rest)) = _
      rw [numerals_append_of_startsForeign behind, induction later, List.flatMap_cons,
        List.append_assoc]

end Numerals
end Library

import Mathlib.Data.List.DropRight
import Mathlib.Data.List.Infix

/-!
# Line-oriented text

Byte strings read character by character: fields, lines, deletion of a pattern, trimming, and the
decimal conversions of `printf`.  Each operation comes with the equation it satisfies on text that
was printed in pieces.
-/

namespace Library

/-- A byte string, one character for each byte. -/
abbrev Text := List Char

namespace Text

/-- The whitespace characters of the C locale. -/
def isSpace (c : Char) : Bool :=
  c ∈ [' ', '\t', '\n', '\r', '\x0b', '\x0c']

def strip (text : Text) : Text :=
  (text.dropWhile isSpace).rdropWhile isSpace

/-- Delete every occurrence of one character. -/
def without (c : Char) (text : Text) : Text :=
  text.filter (· != c)

/-- Delete occurrences of `pattern`, left to right, after skipping `skip` characters of a match. -/
def removeFrom (pattern : Text) : Nat → Text → Text
  | _, [] => []
  | skip + 1, _ :: rest => removeFrom pattern skip rest
  | 0, c :: rest =>
      if pattern.isPrefixOf (c :: rest) then
        removeFrom pattern (pattern.length - 1) rest
      else
        c :: removeFrom pattern 0 rest

/-- Delete the non-overlapping occurrences of `pattern`, left to right. -/
def remove (pattern text : Text) : Text :=
  removeFrom pattern 0 text

/-- The lines of a text, each with its newline; a last line may lack one. -/
def lines : Text → List Text
  | [] => []
  | c :: rest =>
      if c = '\n' then
        [c] :: lines rest
      else
        match lines rest with
        | [] => [[c]]
        | line :: others => (c :: line) :: others

/-- The first field of a split is everything before the first separator. -/
theorem head_splitOn (separator : Char) (text : Text) :
    (text.splitOn separator).head? = some (text.takeWhile (· != separator)) := by
  induction text with
  | nil => simp
  | cons c text induction =>
      rw [List.splitOn_cons_eq_if_modifyHead]
      by_cases separated : c = separator
      · simp [separated]
      · obtain ⟨field, fields, split⟩ :=
          List.exists_cons_of_ne_nil (List.splitOn_ne_nil separator text)
        rw [split] at induction ⊢
        simp only [List.head?_cons, Option.some.injEq] at induction
        simp [separated, induction]

/-- A text is cut at the first occurrence of a character in one way only. -/
theorem eq_of_cut {c : Char} {left right rest other : Text} (left_solid : c ∉ left)
    (right_solid : c ∉ right) (same : left ++ c :: rest = right ++ c :: other) :
    left = right ∧ rest = other := by
  have front {text rest : Text} (solid : c ∉ text) :
      (text ++ c :: rest).takeWhile (· != c) = text := by
    rw [List.takeWhile_append_of_pos]
    · simp
    · intro d member
      simpa using fun equal : d = c => solid (equal ▸ member)
  have fronts := congrArg (List.takeWhile (· != c)) same
  rw [front left_solid, front right_solid] at fronts
  subst fronts
  exact ⟨rfl, (List.cons.inj (List.append_cancel_left same)).2⟩

/-- A part of a text with three fields of its own: there are no fewer fields in the text, and if
there are three, the part's outer fields are cut and its middle field is whole. -/
theorem fields_of_infix {separator : Char} {part text first second third : Text}
    (inside : part <:+: text) (fields : part.splitOn separator = [first, second, third]) :
    3 ≤ (text.splitOn separator).length ∧ ∀ left middle right,
      text.splitOn separator = [left, middle, right] →
        first <:+ left ∧ second = middle ∧ third <+: right := by
  obtain ⟨front, back, rfl⟩ := inside
  have joined : [separator].intercalate (part.splitOn separator) = part :=
    List.intercalate_splitOn separator
  rw [fields] at joined
  have whole : front ++ part ++ back =
      (front ++ first) ++ separator :: (second ++ separator :: (third ++ back)) := by
    rw [← joined]
    simp [List.intercalate]
  have some_field (text : Text) : 0 < (text.splitOn separator).length :=
    List.length_pos_iff.mpr (List.splitOn_ne_nil separator text)
  have one_field (text : Text) (one : (text.splitOn separator).length = 1) :
      text.splitOn separator = [text] := by
    obtain ⟨field, single⟩ := List.length_eq_one_iff.mp one
    have joined : [separator].intercalate (text.splitOn separator) = text :=
      List.intercalate_splitOn separator
    rw [single] at joined ⊢
    rw [← joined]
    simp [List.intercalate]
  have front_field := some_field (front ++ first)
  have middle_field := some_field second
  have back_field := some_field (third ++ back)
  rw [whole, List.splitOn_append_cons_self, List.splitOn_append_cons_self]
  constructor
  · simp only [List.length_append]
    omega
  · intro left middle right equal
    have count := congrArg List.length equal
    simp only [List.length_append, List.length_cons, List.length_nil] at count
    rw [one_field (front ++ first) (by omega), one_field second (by omega),
      one_field (third ++ back) (by omega)] at equal
    simp only [List.cons_append, List.nil_append, List.cons.injEq, and_true] at equal
    obtain ⟨rfl, rfl, rfl⟩ := equal
    exact ⟨List.suffix_append .., rfl, List.prefix_append ..⟩

theorem dropWhile_isSpace_eq_self {text : Text} (solid : ∀ c ∈ text, isSpace c = false) :
    text.dropWhile isSpace = text := by
  cases text with
  | nil => rfl
  | cons c text => simp [solid c List.mem_cons_self]

theorem rdropWhile_isSpace_eq_self {text : Text} (solid : ∀ c ∈ text, isSpace c = false) :
    text.rdropWhile isSpace = text := by
  rw [List.rdropWhile_eq_self_iff]
  intro nonempty
  simp [solid _ (List.getLast_mem nonempty)]

theorem strip_eq_self {text : Text} (solid : ∀ c ∈ text, isSpace c = false) :
    strip text = text := by
  rw [strip, dropWhile_isSpace_eq_self solid, rdropWhile_isSpace_eq_self solid]

/-- Whitespace behind a text without any is what trimming removes. -/
theorem strip_append_spaces {text spaces : Text} (solid : ∀ c ∈ text, isSpace c = false)
    (blank : ∀ c ∈ spaces, isSpace c = true) : strip (text ++ spaces) = text := by
  have front : (text ++ spaces).dropWhile isSpace = if text = [] then [] else text ++ spaces := by
    cases text with
    | nil => simpa [List.dropWhile_eq_nil_iff] using blank
    | cons first rest => simp [solid first List.mem_cons_self]
  rw [strip, front]
  split
  · rename_i empty
    rw [empty]
    rfl
  · induction spaces using List.reverseRecOn with
    | nil => simpa using rdropWhile_isSpace_eq_self solid
    | append_singleton spaces last induction =>
        rw [← List.append_assoc, List.rdropWhile_concat_pos _ _ _ (blank last (by simp))]
        apply induction
        · intro c member
          exact blank c (by simp [member])
        · rename_i nonempty
          obtain ⟨first, rest, rfl⟩ := List.exists_cons_of_ne_nil nonempty
          simp [solid first List.mem_cons_self]

/-- Whitespace behind a text that neither starts nor ends with any is what trimming removes. -/
theorem strip_append_of_ends {text spaces : Text}
    (head : ∀ c, text.head? = some c → isSpace c = false)
    (last : ∀ c, text.getLast? = some c → isSpace c = false)
    (blank : ∀ c ∈ spaces, isSpace c = true) : strip (text ++ spaces) = text := by
  cases text with
  | nil => exact strip_append_spaces (by simp) blank
  | cons first rest =>
      have front : ((first :: rest) ++ spaces).dropWhile isSpace = (first :: rest) ++ spaces := by
        simp [head first rfl]
      rw [strip, front]
      clear front
      induction spaces using List.reverseRecOn with
      | nil =>
          rw [List.append_nil, List.rdropWhile_eq_self_iff]
          intro nonempty
          simp [last _ (List.getLast?_eq_some_getLast nonempty)]
      | append_singleton spaces c induction =>
          rw [← List.append_assoc, List.rdropWhile_concat_pos _ _ _ (blank c (by simp))]
          exact induction fun other member => blank other (by simp [member])

theorem removeFrom_append (pattern skipped text : Text) :
    removeFrom pattern skipped.length (skipped ++ text) = remove pattern text := by
  induction skipped with
  | nil => rfl
  | cons c skipped induction => simpa [removeFrom] using induction

theorem remove_pattern_append {pattern : Text} (nonempty : pattern ≠ []) (text : Text) :
    remove pattern (pattern ++ text) = remove pattern text := by
  obtain ⟨c, rest, rfl⟩ := List.exists_cons_of_ne_nil nonempty
  have matched : (c :: rest).isPrefixOf (c :: (rest ++ text)) = true := by
    rw [List.isPrefixOf_iff_prefix]
    exact ⟨text, rfl⟩
  rw [remove, List.cons_append, removeFrom, if_pos matched]
  exact removeFrom_append (c :: rest) rest text

/-- A text that lacks one character of the pattern has no occurrence to delete. -/
theorem remove_eq_self_of_not_mem {pattern text : Text} {c : Char} (inside : c ∈ pattern)
    (absent : c ∉ text) : remove pattern text = text := by
  induction text with
  | nil => rfl
  | cons first text induction =>
      have unmatched : ¬ pattern.isPrefixOf (first :: text) := by
        rw [List.isPrefixOf_iff_prefix]
        intro occurrence
        exact absent (occurrence.subset inside)
      rw [remove, removeFrom, if_neg unmatched]
      congr 1
      exact induction fun member => absent (List.mem_cons_of_mem first member)

theorem without_append (c : Char) (left right : Text) :
    without c (left ++ right) = without c left ++ without c right :=
  List.filter_append ..

theorem without_eq_self {c : Char} {text : Text} (absent : c ∉ text) : without c text = text := by
  rw [without, List.filter_eq_self]
  intro other member
  simpa using fun equal : other = c => absent (equal ▸ member)

theorem mem_removeFrom {pattern text : Text} {c : Char} (nonempty : pattern ≠ [])
    (foreign : c ∉ pattern) (inside : c ∈ text) (skip : Nat) (unskipped : c ∉ text.take skip) :
    c ∈ removeFrom pattern skip text := by
  induction text generalizing skip with
  | nil => cases inside
  | cons first text induction =>
      cases skip with
      | succ skip =>
          rw [List.take_succ_cons, List.mem_cons, not_or] at unskipped
          rw [List.mem_cons, or_iff_right unskipped.1] at inside
          exact induction inside skip unskipped.2
      | zero =>
          rw [removeFrom]
          split
          · rename_i matched
            obtain ⟨rest, occurrence⟩ := List.isPrefixOf_iff_prefix.mp matched
            cases pattern with
            | nil => exact absurd rfl nonempty
            | cons start pattern =>
                obtain ⟨rfl, rfl⟩ := List.cons.inj occurrence
                rw [List.mem_cons, not_or] at foreign
                rw [List.mem_cons, or_iff_right foreign.1] at inside
                exact induction inside _ (by simpa using foreign.2)
          · rcases List.mem_cons.mp inside with rfl | later
            · exact List.mem_cons_self
            · exact List.mem_cons_of_mem first (induction later 0 (by simp))

/-- A character that the pattern lacks is not deleted. -/
theorem mem_remove {pattern text : Text} {c : Char} (nonempty : pattern ≠ [])
    (foreign : c ∉ pattern) (inside : c ∈ text) : c ∈ remove pattern text :=
  mem_removeFrom nonempty foreign inside 0 (by simp)

theorem mem_without {c other : Char} {text : Text} (different : c ≠ other) (inside : c ∈ text) :
    c ∈ without other text := by
  simpa [without, inside] using different

theorem mem_strip {c : Char} {text : Text} (solid : isSpace c = false) (inside : c ∈ text) :
    c ∈ strip text := by
  have kept {text : Text} (inside : c ∈ text) : c ∈ text.dropWhile isSpace := by
    rw [← List.takeWhile_append_dropWhile (p := isSpace) (l := text), List.mem_append] at inside
    refine inside.resolve_left fun space => ?_
    rw [List.mem_takeWhile_imp space] at solid
    cases solid
  rw [strip, List.rdropWhile, List.mem_reverse]
  exact kept (List.mem_reverse.mpr (kept inside))

/-! ## Lines -/

@[simp]
theorem lines_nil : lines [] = [] := rfl

/-- The text up to and including the first newline is the first line. -/
theorem lines_append_newline {line : Text} (single : '\n' ∉ line) (rest : Text) :
    lines (line ++ '\n' :: rest) = (line ++ ['\n']) :: lines rest := by
  induction line with
  | nil => simp [lines]
  | cons c line induction =>
      have different : c ≠ '\n' := fun equal => single (equal ▸ List.mem_cons_self)
      have tail := induction fun member => single (List.mem_cons_of_mem c member)
      rw [List.cons_append, lines, if_neg different, tail]
      rfl

theorem lines_newline (rest : Text) : lines ('\n' :: rest) = ['\n'] :: lines rest :=
  lines_append_newline List.not_mem_nil rest

/-- Lines printed one after the other are read back one by one. -/
theorem lines_flatMap {printed : List Text} (single : ∀ line ∈ printed, '\n' ∉ line)
    (rest : Text) :
    lines (printed.flatMap (· ++ ['\n']) ++ rest) =
      printed.map (· ++ ['\n']) ++ lines rest := by
  induction printed with
  | nil => rfl
  | cons line printed induction =>
      have tail := induction fun other member => single other (List.mem_cons_of_mem line member)
      have head := lines_append_newline (single line List.mem_cons_self)
        (printed.flatMap (· ++ ['\n']) ++ rest)
      simpa [tail] using head

/-- A text that ends with a newline is made of whole lines. -/
theorem exists_flatMap_eq (text : Text) :
    ∃ printed : List Text, text ++ ['\n'] = printed.flatMap (· ++ ['\n']) ∧
      ∀ line ∈ printed, '\n' ∉ line := by
  induction text with
  | nil => exact ⟨[[]], rfl, by simp⟩
  | cons c text induction =>
      obtain ⟨printed, whole, single⟩ := induction
      rw [List.cons_append, whole]
      by_cases newline : c = '\n'
      · refine ⟨[] :: printed, by rw [newline]; rfl, ?_⟩
        rw [List.forall_mem_cons]
        exact ⟨List.not_mem_nil, single⟩
      · cases printed with
        | nil => simp at whole
        | cons line others =>
            rw [List.forall_mem_cons] at single
            refine ⟨(c :: line) :: others, rfl, ?_⟩
            rw [List.forall_mem_cons]
            exact ⟨by simpa [Ne.symm newline] using single.1, single.2⟩

/-- A text that ends with a newline is read independently of what follows. -/
theorem lines_append_ended (text rest : Text) :
    lines (text ++ '\n' :: rest) = lines (text ++ ['\n']) ++ lines rest := by
  obtain ⟨printed, whole, single⟩ := exists_flatMap_eq text
  have front := lines_flatMap single []
  rw [List.append_nil, lines_nil, List.append_nil] at front
  rw [← List.singleton_append, ← List.append_assoc, whole, lines_flatMap single, front]

theorem lines_of_single {text : Text} (single : '\n' ∉ text) :
    lines text = if text = [] then [] else [text] := by
  induction text with
  | nil => rfl
  | cons c text induction =>
      have different : c ≠ '\n' := fun equal => single (equal ▸ List.mem_cons_self)
      rw [lines, if_neg different, induction fun member => single (List.mem_cons_of_mem c member)]
      cases text <;> rfl

/-- A part of a line is put in front of the first line behind it. -/
theorem lines_append_part {part rest head : Text} {tail : List Text} (single : '\n' ∉ part)
    (found : lines rest = head :: tail) : lines (part ++ rest) = (part ++ head) :: tail := by
  induction part with
  | nil => exact found
  | cons c part induction =>
      have different : c ≠ '\n' := fun equal => single (equal ▸ List.mem_cons_self)
      have later := induction fun member => single (List.mem_cons_of_mem c member)
      rw [List.cons_append, lines, if_neg different, later]
      rfl

theorem lines_eq_nil_iff {text : Text} : lines text = [] ↔ text = [] := by
  cases text with
  | nil => simp
  | cons c text =>
      rw [lines]
      split
      · simp
      · split <;> simp

/-- A part of a text with no newline before its last character is a part of a line. -/
theorem exists_line_of_infix {part text : Text} (nonempty : part ≠ [])
    (single : '\n' ∉ part.dropLast) (inside : part <:+: text) :
    ∃ line ∈ lines text, part <:+: line := by
  induction text with
  | nil => exact absurd (List.infix_nil.mp inside) nonempty
  | cons c text induction =>
      rcases List.infix_cons_iff.mp inside with ⟨rest, start⟩ | later
      · rw [← start]
        by_cases ended : '\n' ∈ part
        · have split := List.dropLast_append_getLast nonempty
          have last : part.getLast nonempty = '\n' := by
            rw [← split, List.mem_append, or_iff_right single, List.mem_singleton] at ended
            exact ended.symm
          rw [last] at split
          refine ⟨part, ?_, List.infix_rfl⟩
          rw [← split, List.append_assoc, List.singleton_append, lines_append_newline single]
          exact List.mem_cons_self
        · cases found : lines rest with
          | nil =>
              rw [lines_eq_nil_iff.mp found, List.append_nil, lines_of_single ended,
                if_neg nonempty]
              exact ⟨part, List.mem_singleton_self part, List.infix_rfl⟩
          | cons head tail =>
              rw [lines_append_part ended found]
              exact ⟨part ++ head, List.mem_cons_self, List.infix_append_left⟩
      · obtain ⟨line, member, found⟩ := induction later
        rw [lines]
        split
        · exact ⟨line, List.mem_cons_of_mem _ member, found⟩
        · split
          · rename_i empty
            rw [empty] at member
            cases member
          · rename_i head tail split
            rw [split] at member
            rcases List.mem_cons.mp member with rfl | member
            · exact ⟨c :: line, List.mem_cons_self, List.infix_cons found⟩
            · exact ⟨line, List.mem_cons_of_mem _ member, found⟩

/-- What a text of whole lines can be cut to: some of the lines, and a part of the next one. -/
theorem exists_cut {printed : List Text} {text : Text}
    (cut : text <+: printed.flatMap (· ++ ['\n'])) :
    ∃ front back part, printed = front ++ back ∧ text = front.flatMap (· ++ ['\n']) ++ part ∧
      (part = [] ∨ ∃ line rest, back = line :: rest ∧ part <+: line) := by
  induction printed generalizing text with
  | nil => exact ⟨[], [], [], rfl, by simpa using cut, .inl rfl⟩
  | cons line printed induction =>
      rw [List.flatMap_cons] at cut
      rcases List.prefix_or_prefix_of_prefix cut (List.prefix_append _ _) with inside | ⟨later, rfl⟩
      · rcases List.prefix_concat_iff.mp inside with rfl | part
        · exact ⟨[line], printed, [], rfl, by simp, .inl rfl⟩
        · exact ⟨[], line :: printed, text, rfl, rfl, .inr ⟨line, printed, rfl, part⟩⟩
      · obtain ⟨front, back, part, rfl, rfl, next⟩ :=
          induction ((List.prefix_append_right_inj _).mp cut)
        exact ⟨line :: front, back, part, rfl, by simp, next⟩

/-- Whole lines at the start of a text that is cut inside a line are some of its whole lines. -/
theorem map_prefix_of_flatMap {whole front : List Text} {part : Text}
    (whole_single : ∀ line ∈ whole, '\n' ∉ line) (front_single : ∀ line ∈ front, '\n' ∉ line)
    (part_single : '\n' ∉ part)
    (start : whole.flatMap (· ++ ['\n']) <+: front.flatMap (· ++ ['\n']) ++ part) :
    whole.map (· ++ ['\n']) <+: front.map (· ++ ['\n']) := by
  obtain ⟨rest, joined⟩ := start
  have same := congrArg lines joined
  rw [lines_flatMap whole_single, lines_flatMap front_single, lines_of_single part_single] at same
  rcases List.append_eq_append_iff.mp same with ⟨more, longer, -⟩ | ⟨more, longer, behind⟩
  · exact ⟨more, longer.symm⟩
  · cases more with
    | nil => exact ⟨[], by rw [longer, List.append_nil, List.append_nil]⟩
    | cons line more =>
        have ended : line ∈ whole.map (· ++ ['\n']) := by simp [longer]
        obtain ⟨text, -, rfl⟩ := List.mem_map.mp ended
        have found : text ++ ['\n'] ∈ if part = [] then [] else [part] := by simp [behind]
        split at found
        · cases found
        · rw [← List.mem_singleton.mp found] at part_single
          simp at part_single

/-! ## Decimal conversions -/

/-- `%i`: an optional sign and the decimal digits. -/
def decimal (value : Int) : Text :=
  if value < 0 then '-' :: Nat.toDigits 10 value.natAbs else Nat.toDigits 10 value.natAbs

/-- `%wi`: the numeral, filled up with blanks on the left. -/
def decimalWidth (width : Nat) (value : Int) : Text :=
  List.replicate (width - (decimal value).length) ' ' ++ decimal value

/-- `%0wi`: the numeral, filled up with zeros between the sign and the digits. -/
def decimalZeros (width : Nat) (value : Int) : Text :=
  let sign : Text := if value < 0 then ['-'] else []
  let digits := Nat.toDigits 10 value.natAbs
  sign ++ List.replicate (width - sign.length - digits.length) '0' ++ digits

def isNumeral (c : Char) : Bool :=
  c.isDigit || c == '-' || c == ' '

theorem isDigit_of_mem_toDigits {value : Nat} {c : Char} (member : c ∈ Nat.toDigits 10 value) :
    c.isDigit :=
  Nat.isDigit_of_mem_toDigits (by decide) (by decide) member

theorem isNumeral_of_mem_toDigits {value : Nat} {c : Char} (member : c ∈ Nat.toDigits 10 value) :
    isNumeral c = true := by
  simp [isNumeral, isDigit_of_mem_toDigits member]

theorem isNumeral_of_mem_decimal {value : Int} {c : Char} (member : c ∈ decimal value) :
    isNumeral c = true := by
  unfold decimal at member
  split at member
  · rcases List.mem_cons.mp member with rfl | digit
    · rfl
    · exact isNumeral_of_mem_toDigits digit
  · exact isNumeral_of_mem_toDigits member

theorem isNumeral_of_mem_decimalWidth {width : Nat} {value : Int} {c : Char}
    (member : c ∈ decimalWidth width value) : isNumeral c = true := by
  rcases List.mem_append.mp member with blank | digit
  · rw [List.eq_of_mem_replicate blank]
    rfl
  · exact isNumeral_of_mem_decimal digit

theorem isNumeral_of_mem_decimalZeros {width : Nat} {value : Int} {c : Char}
    (member : c ∈ decimalZeros width value) : isNumeral c = true := by
  simp only [decimalZeros, List.mem_append] at member
  rcases member with (sign | zero) | digit
  · split at sign
    · rw [List.mem_singleton.mp sign]
      rfl
    · cases sign
  · rw [List.eq_of_mem_replicate zero]
    rfl
  · exact isNumeral_of_mem_toDigits digit

theorem not_mem_of_isNumeral {text : Text} {foreign : Char} (other : isNumeral foreign = false)
    (numeral : ∀ c ∈ text, isNumeral c = true) : foreign ∉ text := by
  intro member
  exact Bool.false_ne_true (other.symm.trans (numeral foreign member))

theorem newline_not_mem_decimal (value : Int) : '\n' ∉ decimal value :=
  not_mem_of_isNumeral rfl fun _ => isNumeral_of_mem_decimal

theorem newline_not_mem_decimalWidth (width : Nat) (value : Int) :
    '\n' ∉ decimalWidth width value :=
  not_mem_of_isNumeral rfl fun _ => isNumeral_of_mem_decimalWidth

theorem newline_not_mem_decimalZeros (width : Nat) (value : Int) :
    '\n' ∉ decimalZeros width value :=
  not_mem_of_isNumeral rfl fun _ => isNumeral_of_mem_decimalZeros

end Text
end Library

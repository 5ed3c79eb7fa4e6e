import PpmlIot.Library.Text

/-!
# Console output

Text written line by line, each line behind a fixed label, and text wrapped into lines.  A line can
be mistaken for another only if one of the two labels is the start of the other, whatever stands
behind the labels.
-/

namespace Library

namespace Console

/-- A line without its newline: a label and what is written behind it. -/
structure Line where
  label : String
  body : Text

def Line.text (line : Line) : Text :=
  line.label.toList ++ line.body

def Line.Single (line : Line) : Prop :=
  '\n' ∉ line.text

/-- The text that some lines are written as. -/
def written (lines : List Line) : Text :=
  lines.flatMap fun line => line.text ++ ['\n']

/-- The lines of a text that start with a label. -/
def labelled (label : String) (text : Text) : List Text :=
  (Text.lines text).filter fun line => label.toList.isPrefixOf line

/-- Neither label is the start of the other. -/
def Apart (label other : String) : Prop :=
  ¬ label.toList <+: other.toList ∧ ¬ other.toList <+: label.toList

instance (label other : String) : Decidable (Apart label other) :=
  inferInstanceAs (Decidable (_ ∧ _))

/-- The line does not start with the label. -/
def Other (label : String) (line : Line) : Prop :=
  ¬ label.toList <+: line.text ++ ['\n']

instance (label : String) (line : Line) : Decidable (Other label line) :=
  inferInstanceAs (Decidable (¬ _))

@[simp]
theorem written_nil : written [] = [] := rfl

@[simp]
theorem written_cons (line : Line) (lines : List Line) :
    written (line :: lines) = line.text ++ '\n' :: written lines := by
  simp [written]

@[simp]
theorem written_append (front back : List Line) :
    written (front ++ back) = written front ++ written back :=
  List.flatMap_append

theorem lines_written {lines : List Line} (single : ∀ line ∈ lines, line.Single) :
    Text.lines (written lines) = lines.map fun line => line.text ++ ['\n'] := by
  have texts : ∀ text ∈ lines.map Line.text, '\n' ∉ text := by
    intro text member
    obtain ⟨line, line_mem, rfl⟩ := List.mem_map.mp member
    exact single line line_mem
  have read := Text.lines_flatMap texts []
  rw [List.flatMap_map, List.map_map, List.append_nil, Text.lines_nil, List.append_nil] at read
  exact read

/-- What stands behind a label cannot make its line start with a label apart from it. -/
theorem Other.of_apart {label : String} {line : Line} (apart : Apart label line.label) :
    Other label line := by
  intro start
  rw [Line.text, List.append_assoc] at start
  rcases List.prefix_or_prefix_of_prefix start (List.prefix_append ..) with inside | around
  · exact apart.1 inside
  · exact apart.2 around

theorem Other.of_head {label : String} {line : Line} {c d : Char}
    (label_head : label.toList.head? = some c) (line_head : line.text.head? = some d)
    (different : c ≠ d) : Other label line := by
  rintro ⟨rest, joined⟩
  have heads := congrArg List.head? joined
  rw [List.head?_append, List.head?_append, label_head, line_head] at heads
  exact different (Option.some.inj heads)

/-- Empty lines and lines with other labels do not start with a label apart from these. -/
theorem Other.of_labels {label : String} {labels : List String} {lines : List Line}
    (blank : Other label ⟨"", []⟩) (apart : ∀ other ∈ labels, Apart label other)
    (known : ∀ line ∈ lines, line = ⟨"", []⟩ ∨ line.label ∈ labels) :
    ∀ line ∈ lines, Other label line := by
  intro line member
  rcases known line member with rfl | found
  · exact blank
  · exact .of_apart (apart line.label found)

theorem labelled_written {lines : List Line} (single : ∀ line ∈ lines, line.Single)
    (label : String) :
    labelled label (written lines) =
      (lines.filter fun line => label.toList.isPrefixOf (line.text ++ ['\n'])).map
        fun line => line.text ++ ['\n'] := by
  rw [labelled, lines_written single, List.filter_map]
  rfl

/-- If a label occurs in one place of the output only, the lines with this label are those there. -/
theorem labelled_written_of_others {front own back : List Line} {label : String}
    (single : ∀ line ∈ front ++ (own ++ back), line.Single)
    (front_other : ∀ line ∈ front, Other label line)
    (own_label : ∀ line ∈ own, label.toList <+: line.text)
    (back_other : ∀ line ∈ back, Other label line) :
    labelled label (written (front ++ (own ++ back))) =
      own.map fun line => line.text ++ ['\n'] := by
  have dropped {lines : List Line} (other : ∀ line ∈ lines, Other label line) :
      lines.filter (fun line => label.toList.isPrefixOf (line.text ++ ['\n'])) = [] := by
    rw [List.filter_eq_nil_iff]
    intro line member
    rw [List.isPrefixOf_iff_prefix]
    exact other line member
  have kept : own.filter (fun line => label.toList.isPrefixOf (line.text ++ ['\n'])) = own := by
    rw [List.filter_eq_self]
    intro line member
    rw [List.isPrefixOf_iff_prefix]
    exact (own_label line member).trans (List.prefix_append ..)
  rw [labelled_written single, List.filter_append, List.filter_append, dropped front_other,
    dropped back_other, kept, List.nil_append, List.append_nil]

/-- The lines of a text in which some characters, the flagged ones, end their line. -/
def wrap : List (Char × Bool) → Text × List Text
  | [] => ([], [])
  | (c, ends) :: rest =>
      let (first, others) := wrap rest
      if ends then ([c], first :: others) else (c :: first, others)

/-- Nothing is lost by wrapping. -/
theorem wrap_flatten (items : List (Char × Bool)) :
    (wrap items).1 ++ (wrap items).2.flatten = items.map Prod.fst := by
  induction items with
  | nil => rfl
  | cons item items induction =>
      obtain ⟨c, ends⟩ := item
      cases ends <;> simp [wrap, ← induction]

/-- A text written character by character, with a newline and an indent behind the flagged ones, is
the text of the wrapped lines. -/
theorem flatMap_eq_wrap (indent : Text) (items : List (Char × Bool)) :
    (items.flatMap fun item => item.1 :: if item.2 then '\n' :: indent else []) ++ ['\n'] =
      (wrap items).1 ++ '\n' :: (wrap items).2.flatMap fun line => indent ++ (line ++ ['\n']) := by
  induction items with
  | nil => rfl
  | cons item items induction =>
      obtain ⟨c, ends⟩ := item
      rw [List.flatMap_cons, List.append_assoc, induction]
      cases ends <;> simp [wrap]

theorem newline_not_mem_wrap {items : List (Char × Bool)} (single : ∀ item ∈ items, item.1 ≠ '\n') :
    '\n' ∉ (wrap items).1 ∧ ∀ line ∈ (wrap items).2, '\n' ∉ line := by
  have absent : '\n' ∉ (wrap items).1 ++ (wrap items).2.flatten := by
    rw [wrap_flatten]
    intro member
    obtain ⟨item, item_mem, newline⟩ := List.mem_map.mp member
    exact single item item_mem newline
  rw [List.mem_append, not_or] at absent
  refine ⟨absent.1, ?_⟩
  intro line line_mem member
  exact absent.2 (List.mem_flatten.mpr ⟨line, line_mem, member⟩)

/-- What a reader takes for a wrapped text: the line with a label and the indented lines right
behind it, without label, indents and newlines. -/
def readWrapped (label indent : String) (text : Text) : Text :=
  match (Text.lines text).dropWhile fun line => !label.toList.isPrefixOf line with
  | [] => []
  | first :: rest =>
      (first.drop label.length).dropLast ++
        (rest.takeWhile fun line => indent.toList.isPrefixOf line).flatMap fun line =>
          (line.drop indent.length).dropLast

/-- A wrapped text is read back if no earlier line starts with its label and the next line is not
indented. -/
theorem readWrapped_written {label indent : String} {front back : List Line} {first : Text}
    {others : List Text}
    (single : ∀ line ∈ front ++ (⟨label, first⟩ :: others.map (Line.mk indent)) ++ back,
      line.Single)
    (front_other : ∀ line ∈ front, Other label line)
    (back_other : ∀ line, back.head? = some line → Other indent line) :
    readWrapped label indent
        (written (front ++ (⟨label, first⟩ :: others.map (Line.mk indent)) ++ back)) =
      first ++ others.flatten := by
  let whole (line : Line) : Text := line.text ++ ['\n']
  have skipped : ∀ text ∈ front.map whole, (!label.toList.isPrefixOf text) = true := by
    intro text member
    obtain ⟨line, line_mem, rfl⟩ := List.mem_map.mp member
    rw [Bool.not_eq_true', Bool.eq_false_iff, Ne, List.isPrefixOf_iff_prefix]
    exact front_other line line_mem
  have found : label.toList.isPrefixOf (whole ⟨label, first⟩) = true := by
    rw [List.isPrefixOf_iff_prefix]
    exact (List.prefix_append _ first).trans (List.prefix_append ..)
  have indented : ∀ text ∈ (others.map (Line.mk indent)).map whole,
      indent.toList.isPrefixOf text = true := by
    intro text member
    obtain ⟨line, line_mem, rfl⟩ := List.mem_map.mp member
    obtain ⟨body, -, rfl⟩ := List.mem_map.mp line_mem
    rw [List.isPrefixOf_iff_prefix]
    exact (List.prefix_append _ body).trans (List.prefix_append ..)
  have ended : (back.map whole).takeWhile (fun line => indent.toList.isPrefixOf line) = [] := by
    cases back with
    | nil => rfl
    | cons next back =>
        have other := back_other next rfl
        rw [Other, ← List.isPrefixOf_iff_prefix, Bool.not_eq_true] at other
        rw [List.map_cons, List.takeWhile_cons, other]
        rfl
  have body (label : String) (text : Text) :
      ((whole ⟨label, text⟩).drop label.length).dropLast = text := by
    rw [← String.length_toList]
    simp [whole, Line.text]
  have lines : (Text.lines (written
      (front ++ (⟨label, first⟩ :: others.map (Line.mk indent)) ++ back))).dropWhile
        (fun line => !label.toList.isPrefixOf line) =
      whole ⟨label, first⟩ :: ((others.map (Line.mk indent)).map whole ++ back.map whole) := by
    rw [lines_written single, List.map_append, List.map_append, List.append_assoc,
      List.dropWhile_append_of_pos skipped, List.map_cons, List.cons_append, List.dropWhile_cons,
      found]
    rfl
  rw [readWrapped, lines]
  dsimp only
  rw [body, List.takeWhile_append_of_pos indented, ended, List.append_nil, List.map_map,
    List.flatMap_map]
  congr 1
  rw [← List.flatMap_id']
  exact List.flatMap_congr fun text _ => body indent text

end Console
end Library

import PpmlIot.Library.Text

/-!
# Reading lines with a timeout

A reader collects characters up to a newline or a timeout, whichever comes first, and returns what
it has collected.  So it returns parts of lines, and if timeouts fall between lines only, the lines.
-/

namespace Library

namespace Readline

/-- What the reader meets next. -/
inductive Signal
  | char (c : Char)
  | timeout

/-- The characters received. -/
def received (signals : List Signal) : Text :=
  signals.filterMap fun
    | .char c => some c
    | .timeout => none

/-- What the reader returns, with some characters already collected. -/
def chunks : Text → List Signal → List Text
  | _, [] => []
  | pending, .char c :: signals =>
      if c = '\n' then (pending ++ [c]) :: chunks [] signals else chunks (pending ++ [c]) signals
  | pending, .timeout :: signals => pending :: chunks [] signals

/-- Timeouts occur between lines only, counting the characters already collected. -/
inductive Punctual : Text → List Signal → Prop
  | nil (pending : Text) : Punctual pending []
  | newline {pending : Text} {signals : List Signal} (later : Punctual [] signals) :
      Punctual pending (.char '\n' :: signals)
  | char {pending : Text} {signals : List Signal} {c : Char} (inside : c ≠ '\n')
      (later : Punctual (pending ++ [c]) signals) : Punctual pending (.char c :: signals)
  | timeout {signals : List Signal} (later : Punctual [] signals) :
      Punctual [] (.timeout :: signals)

@[simp]
theorem received_nil : received [] = [] := rfl

@[simp]
theorem received_char (c : Char) (signals : List Signal) :
    received (.char c :: signals) = c :: received signals := rfl

@[simp]
theorem received_timeout (signals : List Signal) :
    received (.timeout :: signals) = received signals := rfl

theorem received_map_char (text : Text) : received (text.map .char) = text := by
  induction text with
  | nil => rfl
  | cons c text induction => simp [induction]

theorem punctual_map_char (pending text : Text) : Punctual pending (text.map .char) := by
  induction text generalizing pending with
  | nil => exact .nil pending
  | cons c text induction =>
      by_cases newline : c = '\n'
      · exact newline ▸ .newline (induction [])
      · exact .char newline (induction (pending ++ [c]))

/-- What is returned was received in one piece, and ends at the first newline in it. -/
theorem infix_of_mem_chunks {pending chunk : Text} {signals : List Signal}
    (single : '\n' ∉ pending) (member : chunk ∈ chunks pending signals) :
    chunk <:+: pending ++ received signals ∧ '\n' ∉ chunk.dropLast := by
  induction signals generalizing pending with
  | nil => cases member
  | cons signal signals induction =>
      have later (member : chunk ∈ chunks [] signals) :
          chunk <:+: received signals ∧ '\n' ∉ chunk.dropLast :=
        induction (by simp) member
      cases signal with
      | timeout =>
          rcases List.mem_cons.mp member with rfl | member
          · exact ⟨List.infix_append_left,
              fun newline => single (List.dropLast_subset chunk newline)⟩
          · exact ⟨List.infix_append_of_infix_right (later member).1, (later member).2⟩
      | char c =>
          have joined : pending ++ received (.char c :: signals) =
              (pending ++ [c]) ++ received signals := by simp
          rw [joined]
          rw [chunks] at member
          split at member
          · rcases List.mem_cons.mp member with rfl | member
            · exact ⟨List.infix_append_left, by simpa using single⟩
            · exact ⟨List.infix_append_of_infix_right (later member).1, (later member).2⟩
          · rename_i other
            exact induction (by simp [single, Ne.symm other]) member

/-- A timeout can only cut a line short: what is returned is part of a line of the text that the
characters received are part of. -/
theorem exists_line_of_mem_chunks {text chunk : Text} {signals : List Signal}
    (heard : received signals <:+: text) (member : chunk ∈ chunks [] signals)
    (nonempty : chunk ≠ []) : ∃ line ∈ Text.lines text, chunk <:+: line := by
  obtain ⟨inside, single⟩ := infix_of_mem_chunks (by simp) member
  exact Text.exists_line_of_infix nonempty single (inside.trans heard)

/-- If timeouts occur between lines only, whole lines are returned one by one. -/
theorem chunks_of_punctual {printed : List Text} (single : ∀ line ∈ printed, '\n' ∉ line)
    {pending : Text} (pending_single : '\n' ∉ pending) {signals : List Signal}
    (punctual : Punctual pending signals)
    (whole : pending ++ received signals = printed.flatMap (· ++ ['\n'])) :
    (chunks pending signals).filter (· ≠ []) = printed.map (· ++ ['\n']) := by
  induction punctual generalizing printed with
  | nil pending =>
      cases printed with
      | nil => rfl
      | cons line printed =>
          rw [received_nil, List.append_nil] at whole
          exact absurd (by simp [whole]) pending_single
  | timeout later induction => exact induction single (by simp) whole
  | char inside later induction =>
      rw [chunks, if_neg inside]
      exact induction single (by simp [pending_single, Ne.symm inside]) (by simpa using whole)
  | @newline pending signals later induction =>
      rw [received_char] at whole
      cases printed with
      | nil => simp at whole
      | cons line printed =>
          have line_single := single line List.mem_cons_self
          have later_single (other : Text) (member : other ∈ printed) : '\n' ∉ other :=
            single other (List.mem_cons_of_mem line member)
          rw [List.flatMap_cons, List.append_assoc, List.singleton_append] at whole
          have lines := congrArg Text.lines whole
          rw [Text.lines_append_newline pending_single,
            Text.lines_append_newline line_single] at lines
          obtain rfl : pending = line := List.append_cancel_right (List.cons.inj lines).1
          have rest := (List.cons.inj (List.append_cancel_left whole)).2
          rw [chunks, if_pos rfl, List.filter_cons_of_pos (by simp),
            induction later_single (by simp) rest, List.map_cons]

end Readline
end Library

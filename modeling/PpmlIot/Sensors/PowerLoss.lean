import PpmlIot.Sensors.LogRoundTrip

/-!
# Logs of nodes that lose power

A node may lose power at any character of its serial text and start again, with its title, behind
what was logged before.  The log verifier then reads lines that are cut short and lines put together
from two sessions.  It accepts none of them, and it accepts every record that was logged completely.
-/

namespace PpmlIot.Sensors

open Library Host

def accepted (attempts : List Verification) : List Verification :=
  attempts.filter Verification.verified

/-- The verifications of some lines that succeed. -/
def acceptedFrom (verifyDigest : VerifyDigest) (state : ParserState) (ds : List Text) :
    List Verification :=
  accepted (verificationsFrom verifyDigest state ds)

section Lines

variable {verifyDigest : VerifyDigest} {state : ParserState}

theorem acceptedFrom_append (front back : List Text) :
    acceptedFrom verifyDigest state (front ++ back) =
      acceptedFrom verifyDigest state front ++
        acceptedFrom verifyDigest (front.foldl (parserNext verifyDigest) state) back := by
  rw [acceptedFrom, verificationsFrom_append, accepted, List.filter_append]
  rfl

theorem acceptedFrom_cons (d : Text) (rest : List Text) :
    acceptedFrom verifyDigest state (d :: rest) =
      acceptedFrom verifyDigest state [d] ++
        acceptedFrom verifyDigest (parserNext verifyDigest state d) rest :=
  acceptedFrom_append [d] rest

theorem acceptedFrom_singleton (d : Text) :
    acceptedFrom verifyDigest state [d] =
      if hasLabel "Signature:" d then
        accepted [verify verifyDigest (parserNext verifyDigest state d)]
      else [] := by
  rw [acceptedFrom, verificationsFrom_cons]
  split <;> rfl

/-- Nothing is accepted from a line with a character that is no digit and not in the label. -/
theorem acceptedFrom_of_foreign {d : Text} {c : Char} (foreign : Hex.digitValue c = none)
    (solid : Text.isSpace c = false) (unlabelled : c ∉ "Signature: ".toList) (inside : c ∈ d) :
    acceptedFrom verifyDigest state [d] = [] := by
  rw [acceptedFrom_singleton]
  split
  · rename_i labelled
    have visible : c ≠ ' ' := by
      rintro rfl
      cases solid
    have kept : c ∈ (parserNext verifyDigest state d).signature := by
      rw [parserNext_eq]
      simp only [labelled, if_true]
      exact Text.mem_strip solid (Text.mem_without visible
        (Text.mem_remove (by decide) unlabelled inside))
    have unread : Hex.unhexlify (parserNext verifyDigest state d).signature = none := by
      by_contra read
      obtain ⟨bytes, read⟩ := Option.ne_none_iff_exists'.mp read
      have digit := (Hex.digits_of_unhexlify read).2 c kept
      rw [foreign] at digit
      cases digit
    simp [accepted, verify, unread]
  · rfl

end Lines

/-- A line without its newline: whatever part of it is read in its place, nothing is accepted, or
what would be accepted from the whole line. -/
structure Durable (verifyDigest : VerifyDigest) (d : Text) : Prop where
  single : '\n' ∉ d
  cut : ∀ state part, part <+: d → acceptedFrom verifyDigest state [part] = [] ∨
    acceptedFrom verifyDigest state [part] = acceptedFrom verifyDigest state [d ++ ['\n']]

section Durable

variable {verifyDigest : VerifyDigest}

theorem hasLabel_of_front {label : String} {part d : Text} (start : part <+: d)
    (labelled : hasLabel label part = true) : label.toList <:+: d.takeWhile (· != ' ') := by
  rw [hasLabel, decide_eq_true_eq, firstField_eq] at labelled
  obtain ⟨rest, rfl⟩ := start
  refine labelled.trans ?_
  rw [List.takeWhile_append]
  split
  · exact ((List.takeWhile_prefix _).trans (List.prefix_append _ _)).isInfix
  · exact List.infix_rfl

/-- No part of a line with another first field asks for a verification. -/
theorem durable_of_unsigned {d : Text} (single : '\n' ∉ d)
    (unsigned : ¬ "Signature:".toList <:+: d.takeWhile (· != ' ')) : Durable verifyDigest d where
  single := single
  cut state part start := by
    left
    rw [acceptedFrom_singleton, if_neg]
    exact fun labelled => unsigned (hasLabel_of_front start labelled)

/-- The content of a part of a labelled line that reaches beyond the label. -/
theorem content_part {label : String} {width : Nat} {values : List Nat} {digits : Text}
    (colon : ':' ∈ label.toList) (start : digits <+: Hex.spaced width values) :
    content label (label.toList ++ ' ' :: digits) = Text.without ' ' digits := by
  have pattern : (label ++ " ").toList = label.toList ++ [' '] := by
    simp
  have inside : ':' ∈ (label ++ " ").toList := by
    simp [colon]
  have no_colon : ':' ∉ digits := fun member =>
    Hex.not_mem_spaced rfl (by decide) width values (start.subset member)
  have layout : label.toList ++ ' ' :: digits = (label ++ " ").toList ++ digits := by
    simp
  rw [content, layout, Text.remove_pattern_append (List.ne_nil_of_mem inside),
    Text.remove_eq_self_of_not_mem inside no_colon]
  apply Text.strip_eq_self
  intro c member
  rw [Text.without, List.mem_filter] at member
  rcases Hex.digit_or_blank_of_mem_spaced (start.subset member.1) with digit | blank
  · exact Hex.isSpace_eq_false_of_digitValue digit
  · simp [blank] at member

/-- Nothing is accepted with a signature of other than 128 digits. -/
theorem accepted_of_length (sized : AcceptsSized verifyDigest) {state : ParserState}
    (short : state.signature.length ≠ 128) : accepted [verify verifyDigest state] = [] := by
  have rejected : (verify verifyDigest state).verified = false := by
    by_contra verified
    simp only [verify, Bool.not_eq_false, Option.any_eq_true, Option.bind_eq_bind,
      Option.bind_eq_some_iff, Option.some.injEq] at verified
    obtain ⟨_, ⟨signature, read, digest, -, rfl⟩, accepts⟩ := verified
    apply short
    rw [(Hex.digits_of_unhexlify read).1, sized _ _ _ accepts]
  simp [accepted, rejected]

/-- The signature line, with its label and digits in place. -/
theorem parserNext_part {state : ParserState} {d : Text}
    (field : d.takeWhile (· != ' ') = "Signature:".toList) :
    hasLabel "Signature:" d = true ∧
      parserNext verifyDigest state d = { state with signature := content "Signature:" d } := by
  have other {label : String} (absent : ¬ label.toList <:+: "Signature:".toList) :
      hasLabel label d = false := by
    rw [hasLabel, firstField_eq, field]
    exact decide_eq_false absent
  have labelled : hasLabel "Signature:" d = true := by
    rw [hasLabel, firstField_eq, field]
    decide
  refine ⟨labelled, ?_⟩
  have data : hasLabel "Data:" d = false := other (by decide)
  have hash : hasLabel "Hash:" d = false := other (by decide)
  simp [parserNext_eq, labelled, data, hash]

/-- A `Signature` line of 64 bytes is accepted whole or not at all. -/
theorem durable_signature (sized : AcceptsSized verifyDigest) {values : List Nat}
    (length : values.length = 64) :
    Durable verifyDigest ("Signature:".toList ++ ' ' :: Hex.spaced 2 values) where
  single := by
    simp [Hex.newline_not_mem_spaced]
  cut state part start := by
    by_cases labelled : hasLabel "Signature:" part = true
    · obtain ⟨behind, rfl⟩ : "Signature:".toList <+: part := by
        apply List.prefix_of_prefix_length_le (List.prefix_append _ _) start
        rw [hasLabel, decide_eq_true_eq, firstField_eq] at labelled
        exact (labelled.trans (List.takeWhile_prefix _).isInfix).length_le
      rw [List.prefix_append_right_inj] at start
      have field (rest : Text) :
          ("Signature:".toList ++ ' ' :: rest).takeWhile (· != ' ') = "Signature:".toList := rfl
      cases behind with
      | nil =>
          have step := @parserNext_part verifyDigest state ("Signature:".toList ++ []) rfl
          left
          have size : (content "Signature:" ("Signature:".toList ++ [])).length ≠ 128 := by decide
          rw [acceptedFrom_singleton, if_pos step.1, step.2]
          exact accepted_of_length sized size
      | cons c digits =>
          obtain ⟨rfl, inner⟩ := List.cons_prefix_cons.mp start
          have cut := @parserNext_part verifyDigest state _ (field digits)
          have full : content "Signature:" (hexLine "Signature:" 2 values) =
              values.flatMap (Hex.fixed Hex.upperDigit 2) := content_hexLine (by decide)
          have size : (values.flatMap (Hex.fixed Hex.upperDigit 2)).length = 128 := by
            simp [List.length_flatMap, length]
          have shorter : Text.without ' ' digits <+:
              values.flatMap (Hex.fixed Hex.upperDigit 2) := by
            rw [← Hex.without_spaced]
            exact inner.filter _
          rw [acceptedFrom_singleton, if_pos cut.1, cut.2, content_part (by decide) inner]
          by_cases whole : (Text.without ' ' digits).length = 128
          · right
            have step := @parserNext_part verifyDigest state (hexLine "Signature:" 2 values) rfl
            have line : "Signature:".toList ++ ' ' :: Hex.spaced 2 values ++ ['\n'] =
                hexLine "Signature:" 2 values := by simp [hexLine]
            rw [line, acceptedFrom_singleton, if_pos step.1, step.2, full,
              shorter.eq_of_length (whole.trans size.symm)]
          · left
            exact accepted_of_length sized whole
    · left
      rw [acceptedFrom_singleton, if_neg labelled]

/-- Whole lines that are durable. -/
def DurableText (verifyDigest : VerifyDigest) (text : Text) : Prop :=
  ∃ printed : List Text, text = printed.flatMap (· ++ ['\n']) ∧
    ∀ d ∈ printed, Durable verifyDigest d

theorem DurableText.append {left right : Text} (left_durable : DurableText verifyDigest left)
    (right_durable : DurableText verifyDigest right) :
    DurableText verifyDigest (left ++ right) := by
  obtain ⟨front, rfl, front_durable⟩ := left_durable
  obtain ⟨back, rfl, back_durable⟩ := right_durable
  refine ⟨front ++ back, by rw [List.flatMap_append], ?_⟩
  intro d member
  rcases List.mem_append.mp member with earlier | later
  · exact front_durable d earlier
  · exact back_durable d later

theorem DurableText.of_displays {text : Text} {shown : List Text}
    (displays : Displays text shown) : DurableText verifyDigest text := by
  obtain ⟨printed, rfl, quiet, -⟩ := displays
  refine ⟨printed, rfl, fun d member => durable_of_unsigned (quiet d member).1 ?_⟩
  intro labelled
  apply (quiet d member).2
  rw [List.takeWhile_append]
  split
  · exact List.mem_append_left _ ((List.takeWhile_prefix _).subset (labelled.subset (by decide)))
  · exact labelled.subset (by decide)

theorem DurableText.of_line {d : Text} (durable : Durable verifyDigest d) :
    DurableText verifyDigest (d ++ ['\n']) :=
  ⟨[d], by simp, by simpa using durable⟩

/-- A line with another label is durable. -/
theorem durableText_hexLine {label : String} (solid : ' ' ∉ label.toList)
    (single : '\n' ∉ label.toList) (unsigned : ¬ "Signature:".toList <:+: label.toList)
    (width : Nat) (values : List Nat) :
    DurableText verifyDigest (hexLine label width values) := by
  have whole : label.toList.takeWhile (· != ' ') = label.toList := by
    rw [List.takeWhile_eq_self_iff]
    intro c member
    simpa using fun blank : c = ' ' => solid (blank ▸ member)
  have line : Durable verifyDigest (label.toList ++ ' ' :: Hex.spaced width values) := by
    apply durable_of_unsigned (by simp [single, Hex.newline_not_mem_spaced])
    rw [List.takeWhile_append, whole]
    simpa using unsigned
  have text := DurableText.of_line line
  simpa [hexLine] using text

theorem durableText_record (sized : AcceptsSized verifyDigest) (message : List.Vector Int32 15)
    (digest : Digest) (signature : Signature) :
    DurableText verifyDigest (recordText message digest signature) := by
  have data : DurableText verifyDigest (Action.printData message).text :=
    durableText_hexLine (by decide) (by decide) (by decide) 8 _
  have hash : DurableText verifyDigest (Action.printHash digest).text :=
    durableText_hexLine (by decide) (by decide) (by decide) 2 _
  have sign : DurableText verifyDigest (Action.printSignature signature).text := by
    have length : (signature.toList.map UInt8.toNat).length = 64 := by simp
    have text := DurableText.of_line (durable_signature sized length)
    simpa [Action.text, hexLine] using text
  exact data.append (hash.append sign)

theorem durableText_iterate (sized : AcceptsSized verifyDigest) (crypto : Crypto)
    (locals : Locals) (readings : Readings) :
    DurableText verifyDigest (serial (iterate crypto locals readings).1) := by
  obtain ⟨front, displays, printed⟩ := displays_iterate crypto locals readings
  have record := durableText_record sized (msgBuffer locals readings) (lHash crypto locals readings)
    ((outcome crypto locals readings).getD locals.lSig)
  rw [printed]
  exact (DurableText.of_displays displays).append (record.append (.of_displays displays_blank))

theorem durableText_serialText (sized : AcceptsSized verifyDigest) (crypto : Crypto)
    (startup : Startup) (locals : Locals) (iterations : List Readings) :
    DurableText verifyDigest (serialText crypto startup locals iterations) := by
  have loop : DurableText verifyDigest (serial
      ((steps (loopNext crypto) locals iterations).flatMap fun step =>
        (iterate crypto step.1 step.2).1)) := by
    induction iterations generalizing locals with
    | nil => exact ⟨[], rfl, by simp⟩
    | cons readings iterations induction =>
        rw [steps_cons, List.flatMap_cons, serial_append]
        exact (durableText_iterate sized crypto locals readings).append (induction _)
  have front : DurableText verifyDigest (serial (startUp startup).1) :=
    .of_displays (displays_startUp startup)
  change DurableText verifyDigest (serial (main crypto startup locals iterations))
  rw [main]
  dsimp only
  split
  · rw [serial_append]
    exact front.append loop
  · exact front

end Durable

/-- The verifications of the records of some iterations. -/
def records (crypto : Crypto) (verifyDigest : VerifyDigest) (startup : Startup) (locals : Locals)
    (iterations : List Readings) : List Verification :=
  if startup.initialized then
    (steps (loopNext crypto) locals iterations).map fun step =>
      verify verifyDigest (iterationState crypto step.1 step.2)
  else []

/-- A session is verified alike whatever the log holds before it. -/
theorem verificationsFrom_serialText (crypto : Crypto) (verifyDigest : VerifyDigest)
    (startup : Startup) (locals : Locals) (iterations : List Readings) (state : ParserState) :
    verificationsFrom verifyDigest state
        (Text.lines (serialText crypto startup locals iterations)) =
      records crypto verifyDigest startup locals iterations := by
  have loop (state : ParserState) :
      verificationsFrom verifyDigest state (Text.lines (serial
        ((steps (loopNext crypto) locals iterations).flatMap fun step =>
          (iterate crypto step.1 step.2).1))) =
        (steps (loopNext crypto) locals iterations).map fun step =>
          verify verifyDigest (iterationState crypto step.1 step.2) := by
    induction iterations generalizing locals state with
    | nil => rfl
    | cons readings iterations induction =>
        rw [steps_cons, List.flatMap_cons, serial_append, verificationsFrom_iterate, induction]
        rfl
  have front := (displays_startUp startup).verificationsFrom_append verifyDigest state
  change verificationsFrom verifyDigest state
    (Text.lines (serial (main crypto startup locals iterations))) = _
  rw [main, records]
  dsimp only
  rw [(startUp_snd startup).1]
  split
  · rw [serial_append, front, loop]
  · have silent := front []
    rw [List.append_nil] at silent
    exact silent

def title : Text :=
  "IoT-Lab M3 node sensors test application - with ecc sign".toList

theorem exists_serialText_eq (crypto : Crypto) (startup : Startup) (locals : Locals)
    (iterations : List Readings) :
    ∃ rest, serialText crypto startup locals iterations = title ++ '\n' :: rest := by
  have literal : "IoT-Lab M3 node sensors test application - with ecc sign\n\n".toList =
      title ++ ['\n', '\n'] := by decide
  have first (later : List Action) :
      ((Action.say "IoT-Lab M3 node sensors test application - with ecc sign\n\n") ::
        later).flatMap Action.text = title ++ '\n' :: ('\n' :: later.flatMap Action.text) := by
    rw [List.flatMap_cons, Action.say, Action.text, literal]
    simp
  have startup_eq : (startUp startup).1 =
      .say "IoT-Lab M3 node sensors test application - with ecc sign\n\n" ::
        (startUp startup).1.tail := rfl
  rw [serialText, main]
  dsimp only
  split
  · rw [startup_eq, List.cons_append, first]
    exact ⟨_, rfl⟩
  · rw [startup_eq, first]
    exact ⟨_, rfl⟩

/-- A session of a node, and how much of its serial text was logged. -/
structure Session (crypto : Crypto) where
  startup : Startup
  locals : Locals
  iterations : List Readings
  logged : Text
  cut : logged <+: serialText crypto startup locals iterations

/-- The text starts with a line that is no record and spoils every record it is read with. -/
def Interrupts (text : Text) : Prop :=
  ∃ d rest, Text.lines text = d :: rest ∧ 'I' ∈ d ∧ ':' ∉ d.takeWhile (· != ' ')

theorem interrupts_of_session {crypto : Crypto} (session : Session crypto)
    (nonempty : session.logged ≠ []) {rest : Text} (spoils : rest = [] ∨ Interrupts rest) :
    Interrupts (session.logged ++ rest) := by
  obtain ⟨behind, text⟩ := exists_serialText_eq crypto session.startup session.locals
    session.iterations
  have cut := session.cut
  have title_single : '\n' ∉ title := by decide
  have no_colon : ':' ∉ title := by decide
  rw [text, ← List.singleton_append, ← List.append_assoc] at cut
  rcases List.prefix_or_prefix_of_prefix cut (List.prefix_append _ _) with inside | ⟨later, whole⟩
  · rcases List.prefix_concat_iff.mp inside with whole | part
    · refine ⟨title ++ ['\n'], Text.lines rest, ?_, by decide, by decide⟩
      rw [whole, List.append_assoc, List.singleton_append, Text.lines_append_newline title_single]
    · have single : '\n' ∉ session.logged := fun member => title_single (part.subset member)
      have colon : ':' ∉ session.logged := fun member => no_colon (part.subset member)
      have head : 'I' ∈ session.logged := by
        obtain ⟨first, others, split⟩ := List.exists_cons_of_ne_nil nonempty
        rw [split] at part ⊢
        obtain ⟨rfl, -⟩ := List.cons_prefix_cons.mp part
        exact List.mem_cons_self
      rcases spoils with rfl | ⟨d, tail, lines, -, field⟩
      · refine ⟨session.logged, [], ?_, head, ?_⟩
        · rw [List.append_nil, Text.lines_of_single single, if_neg nonempty]
        · exact fun member => colon ((List.takeWhile_prefix _).subset member)
      · refine ⟨session.logged ++ d, tail, Text.lines_append_part single lines,
          List.mem_append_left d head, ?_⟩
        rw [List.takeWhile_append]
        split
        · simp [colon, field]
        · exact fun member => colon ((List.takeWhile_prefix _).subset member)
  · refine ⟨title ++ ['\n'], Text.lines (later ++ rest), ?_, by decide, by decide⟩
    rw [← whole, List.append_assoc, List.append_assoc, List.singleton_append,
      Text.lines_append_newline title_single]

theorem interrupts_of_sessions {crypto : Crypto} (sessions : List (Session crypto)) :
    sessions.flatMap Session.logged = [] ∨ Interrupts (sessions.flatMap Session.logged) := by
  induction sessions with
  | nil => exact .inl rfl
  | cons session sessions induction =>
      rw [List.flatMap_cons]
      by_cases empty : session.logged = []
      · rw [empty]
        exact induction
      · exact .inr (interrupts_of_session session empty induction)

/-- What is accepted of a session: some of its records that verify, from the first one on; all those
of the iterations that were logged, but for empty lines at the end; each with the digest, signature
and readings of an iteration. -/
structure KeepsRecords {crypto : Crypto} (verifyDigest : VerifyDigest) (session : Session crypto)
    (part : List Verification) : Prop where
  order : part <+: accepted
    (records crypto verifyDigest session.startup session.locals session.iterations)
  complete : ∀ count text empty, serialText crypto session.startup session.locals
      (session.iterations.take count) = text ++ '\n' :: List.replicate empty '\n' →
    text ++ ['\n'] <+: session.logged →
    accepted (records crypto verifyDigest session.startup session.locals
      (session.iterations.take count)) <+: part
  genuine : ∀ attempt ∈ part,
    ∃ step ∈ steps (loopNext crypto) session.locals session.iterations,
      ReadsRecord crypto verifyDigest step.1 step.2 attempt

section Sessions

variable {crypto : Crypto} {verifyDigest : VerifyDigest}

/-- The accepted verifications of the records are those of iterations. -/
theorem readsRecord_of_mem_records {startup : Startup} {locals : Locals}
    {iterations : List Readings} {attempt : Verification}
    (member : attempt ∈ accepted (records crypto verifyDigest startup locals iterations)) :
    ∃ step ∈ steps (loopNext crypto) locals iterations,
      ReadsRecord crypto verifyDigest step.1 step.2 attempt := by
  have read := (List.mem_filter.mp member).1
  rw [records] at read
  split at read
  · obtain ⟨step, step_mem, rfl⟩ := List.mem_map.mp read
    exact ⟨step, step_mem, readsRecord_iterationState crypto verifyDigest step.1 step.2⟩
  · cases read

theorem acceptedFrom_serialText (startup : Startup) (locals : Locals)
    (iterations : List Readings) (state : ParserState) :
    acceptedFrom verifyDigest state (Text.lines (serialText crypto startup locals iterations)) =
      accepted (records crypto verifyDigest startup locals iterations) := by
  rw [acceptedFrom, verificationsFrom_serialText]

theorem acceptedFrom_empty (state : ParserState) (empty : Nat) :
    acceptedFrom verifyDigest state (Text.lines (List.replicate empty '\n')) = [] := by
  induction empty with
  | zero => rfl
  | succ empty induction =>
      rw [List.replicate_succ, Text.lines_newline, acceptedFrom,
        verificationsFrom_cons_of_not_mem _ _ (by decide)]
      exact induction

theorem acceptedFrom_front {state : ParserState} {front whole : List Text}
    (start : front <+: whole) :
    acceptedFrom verifyDigest state front <+: acceptedFrom verifyDigest state whole := by
  obtain ⟨back, rfl⟩ := start
  rw [acceptedFrom_append]
  exact List.prefix_append _ _

/-- A line cut short in front of another session is not accepted, and that session is verified as
if the line were not there, in some state. -/
theorem acceptedFrom_spoiled {state : ParserState} {part rest : Text} (single : '\n' ∉ part)
    (spoils : Interrupts rest) :
    ∃ state', acceptedFrom verifyDigest state (Text.lines (part ++ rest)) =
      acceptedFrom verifyDigest state' (Text.lines rest) := by
  obtain ⟨d, tail, lines, inside, field⟩ := spoils
  have passed (state : ParserState) : acceptedFrom verifyDigest state (d :: tail) =
      acceptedFrom verifyDigest state tail := by
    rw [acceptedFrom, verificationsFrom_cons_of_not_mem _ _ field, acceptedFrom]
  have rejected : acceptedFrom verifyDigest state [part ++ d] = [] :=
    acceptedFrom_of_foreign (c := 'I') rfl rfl (by decide) (List.mem_append_right part inside)
  refine ⟨parserNext verifyDigest state (part ++ d), ?_⟩
  rw [Text.lines_append_part single lines, acceptedFrom_cons, rejected, List.nil_append, lines,
    passed]

/-- One session: the lines logged completely, and the line that is cut. -/
theorem keepsRecords_of_cut (sized : AcceptsSized verifyDigest) (session : Session crypto)
    {rest : Text} (spoils : rest = [] ∨ Interrupts rest) (state : ParserState) :
    ∃ part state', KeepsRecords verifyDigest session part ∧
      acceptedFrom verifyDigest state (Text.lines (session.logged ++ rest)) =
        part ++ acceptedFrom verifyDigest state' (Text.lines rest) := by
  obtain ⟨printed, text, durable⟩ := durableText_serialText sized crypto session.startup
    session.locals session.iterations
  obtain ⟨front, back, part, rfl, logged, next⟩ := Text.exists_cut (text ▸ session.cut)
  have front_single (d : Text) (member : d ∈ front) : '\n' ∉ d :=
    (durable d (List.mem_append_left back member)).single
  have part_single : '\n' ∉ part := by
    rcases next with rfl | ⟨d, others, rfl, start⟩
    · simp
    · exact fun member => (durable d (by simp)).single (start.subset member)
  let whole := acceptedFrom verifyDigest state (front.map (· ++ ['\n']))
  let after := (front.map (· ++ ['\n'])).foldl (parserNext verifyDigest) state
  have text_lines : accepted (records crypto verifyDigest session.startup session.locals
      session.iterations) =
        whole ++ acceptedFrom verifyDigest after (back.map (· ++ ['\n'])) := by
    have lines := Text.lines_flatMap (fun d member => (durable d member).single) []
    rw [List.append_nil, Text.lines_nil, List.append_nil, ← text] at lines
    rw [← acceptedFrom_serialText _ _ _ state, lines, List.map_append, acceptedFrom_append]
  -- what the line that is cut contributes is nothing, or what it would contribute as a whole
  obtain ⟨own, state', own_prefix, split⟩ : ∃ own state',
      own <+: acceptedFrom verifyDigest after (back.map (· ++ ['\n'])) ∧
        acceptedFrom verifyDigest after (Text.lines (part ++ rest)) =
          own ++ acceptedFrom verifyDigest state' (Text.lines rest) := by
    rcases spoils with rfl | spoils
    · rw [List.append_nil, Text.lines_of_single part_single]
      refine ⟨_, after, ?_, (List.append_nil _).symm⟩
      rcases next with rfl | ⟨d, others, rfl, start⟩
      · exact List.nil_prefix
      · split
        · exact List.nil_prefix
        · rcases (durable d (by simp)).cut after part start with nothing | same
          · rw [nothing]
            exact List.nil_prefix
          · rw [same]
            exact acceptedFrom_front ⟨others.map (· ++ ['\n']), by simp⟩
    · obtain ⟨state', same⟩ := @acceptedFrom_spoiled verifyDigest after part rest part_single spoils
      exact ⟨[], state', List.nil_prefix, same⟩
  refine ⟨whole ++ own, state', ⟨?_, ?_, ?_⟩, ?_⟩
  · rw [text_lines]
    exact (List.prefix_append_right_inj whole).mpr own_prefix
  · intro count text empty counted logged_text
    obtain ⟨ended, ended_text, ended_single⟩ := Text.exists_flatMap_eq text
    have ended_lines := Text.lines_flatMap ended_single []
    rw [List.append_nil, Text.lines_nil, List.append_nil, ← ended_text] at ended_lines
    rw [logged, ended_text] at logged_text
    have within := Text.map_prefix_of_flatMap ended_single front_single part_single logged_text
    rw [← acceptedFrom_serialText _ _ _ state, counted, Text.lines_append_ended,
      acceptedFrom_append, acceptedFrom_empty, List.append_nil, ended_lines]
    exact (acceptedFrom_front within).trans (List.prefix_append _ _)
  · intro attempt member
    apply readsRecord_of_mem_records
    rw [text_lines]
    exact ((List.prefix_append_right_inj whole).mpr own_prefix).subset member
  · rw [logged, List.append_assoc, Text.lines_flatMap front_single, acceptedFrom_append, split,
      List.append_assoc]

theorem exists_parts (sized : AcceptsSized verifyDigest) (sessions : List (Session crypto))
    (state : ParserState) :
    ∃ parts, List.Forall₂ (KeepsRecords verifyDigest) sessions parts ∧
      acceptedFrom verifyDigest state (Text.lines (sessions.flatMap Session.logged)) =
        parts.flatten := by
  induction sessions generalizing state with
  | nil => exact ⟨[], .nil, rfl⟩
  | cons session sessions induction =>
      obtain ⟨part, state', keeps, split⟩ :=
        keepsRecords_of_cut sized session (interrupts_of_sessions sessions) state
      obtain ⟨parts, kept, later⟩ := induction state'
      refine ⟨part :: parts, .cons keeps kept, ?_⟩
      rw [List.flatMap_cons, split, later, List.flatten_cons]

end Sessions

/-- In a log of any number of sessions of nodes, each ended by a loss of power at any character, the
verifier accepts, session by session and in order, the records of that session from the first one on
that verify: all of those logged to the end of their `Signature` line, and none that is put together
from two sessions. -/
theorem log_of_sessions (crypto : Crypto) (verifyDigest : VerifyDigest)
    (sized : AcceptsSized verifyDigest) (sessions : List (Session crypto)) :
    ∃ parts, List.Forall₂ (KeepsRecords verifyDigest) sessions parts ∧
      accepted (verifications verifyDigest (sessions.flatMap Session.logged)) = parts.flatten :=
  exists_parts sized sessions initial

/-- A session of one iteration, logged up to a character. -/
def sampleSession (length : Nat) : Session sampleCrypto where
  startup := sampleStartup
  locals := sensorLocals
  iterations := [sensorReadings fun _ _ => some logSignature]
  logged := (serialText sampleCrypto sampleStartup sensorLocals
    [sensorReadings fun _ _ => some logSignature]).take length
  cut := List.take_prefix ..

/-- A node that loses power in its `Signature` line, and is then logged to the end. -/
theorem sample_log_of_sessions :
    ∃ parts, List.Forall₂ (KeepsRecords sampleVerifyDigest)
        [sampleSession 900, sampleSession 1019] parts ∧
      accepted (verifications sampleVerifyDigest
        ([sampleSession 900, sampleSession 1019].flatMap Session.logged)) = parts.flatten :=
  log_of_sessions sampleCrypto sampleVerifyDigest acceptsSized_sampleVerifyDigest _

end PpmlIot.Sensors

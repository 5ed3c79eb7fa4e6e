import PpmlIot.Crypto
import PpmlIot.Library.Hex
import PpmlIot.Library.Runs

/-!
# The log verifier

`signDataParse.py` reads a log line by line and keeps three texts across lines.  A `Signature` line
is verified over the hash that is kept at that time; the data that is kept is printed and otherwise
unused.  So an accepted line tells that its signature belongs to the last `Hash` line above it, and
nothing about the `Data` lines.
-/

namespace PpmlIot.Host

open Library

def pkString : Text :=
  ("543e98f814550813b51a1d0202d70eaba098746191123d9650fad594a286a8b0" ++
    "d07bda36ba8ed39aa016110e1b6e8113d7f423a1b29baff66bc42adfbde4615c").toList

def vk : List UInt8 :=
  (Hex.unhexlify pkString).getD []

/-- The verifier's key is the nodes' public key. -/
theorem vk_eq : vk = lPublic1 := by
  decide +kernel

/-- The variables that persist from line to line. -/
structure ParserState where
  signature : Text
  data : Text
  hashing : Text

/-- What the script holds and does at a `Signature` line: the arguments of `verify_digest`, missing
when `unhexlify` raises, and the verdict. -/
structure Verification where
  data : Text
  arguments : Option (List UInt8 × List UInt8)
  verified : Bool
  deriving DecidableEq

inductive Output
  | line (text : Text)
  | verification (attempt : Verification)

def Output.text : Output → Text
  | .line text => text
  | .verification attempt =>
      (if attempt.verified then "\tVerification OK" else "\tVerification ERROR").toList

def Output.verification? : Output → Option Verification
  | .line _ => none
  | .verification attempt => some attempt

/-- The two texts that tell a verdict. -/
def verdictTexts : List Text :=
  ["\tVerification OK".toList, "\tVerification ERROR".toList]

/-- `dataArray[0]` -/
def firstField (d : Text) : Text :=
  (d.splitOn ' ').headD []

/-- The test for one of the labels. -/
def hasLabel (label : String) (d : Text) : Bool :=
  label.toList <:+: firstField d

/-- The text behind a label, without blanks. -/
def content (label : String) (d : Text) : Text :=
  Text.strip (Text.without ' ' (Text.remove (label ++ " ").toList d))

/-- The attempt made at a `Signature` line. -/
def verify (verifyDigest : VerifyDigest) (state : ParserState) : Verification :=
  let arguments := do
    let signature ← Hex.unhexlify state.signature
    let digest ← Hex.unhexlify state.hashing
    some (signature, digest)
  { data := state.data
    arguments
    verified := arguments.any fun (signature, digest) => verifyDigest vk signature digest }

/-- The first of the three tests on a line. -/
def readData (state : ParserState) (d : Text) : ParserState × List Output :=
  if hasLabel "Data:" d then
    let data := content "Data:" d
    ({ state with data }, [.line ("DATA: ".toList ++ data)])
  else
    (state, [])

def readHash (state : ParserState) (d : Text) : ParserState × List Output :=
  if hasLabel "Hash:" d then
    let hashing := content "Hash:" d
    ({ state with hashing }, [.line ("HASH: ".toList ++ hashing)])
  else
    (state, [])

def readSignature (verifyDigest : VerifyDigest) (state : ParserState) (d : Text) :
    ParserState × List Output :=
  if hasLabel "Signature:" d then
    let signature := content "Signature:" d
    let state := { state with signature }
    (state, [.line ("SIGN: ".toList ++ signature), .verification (verify verifyDigest state),
      .line []])
  else
    (state, [])

/-- The body of the loop. -/
def parseLine (verifyDigest : VerifyDigest) (state : ParserState) (d : Text) :
    ParserState × List Output :=
  let (state, data) := readData state d
  let (state, hash) := readHash state d
  let (state, signature) := readSignature verifyDigest state d
  (state, data ++ hash ++ signature)

def initial : ParserState where
  signature := []
  data := []
  hashing := []

def parserNext (verifyDigest : VerifyDigest) (state : ParserState) (d : Text) : ParserState :=
  (parseLine verifyDigest state d).1

/-- What the script prints for the lines of a file. -/
def signDataParse (verifyDigest : VerifyDigest) (file : Text) : List Output :=
  (steps (parserNext verifyDigest) initial (Text.lines file)).flatMap fun step =>
    (parseLine verifyDigest step.1 step.2).2

def verifications (verifyDigest : VerifyDigest) (file : Text) : List Verification :=
  (signDataParse verifyDigest file).filterMap Output.verification?

/-- The verdicts among the texts printed for a file. -/
def verdicts (verifyDigest : VerifyDigest) (file : Text) : List Text :=
  ((signDataParse verifyDigest file).map Output.text).filter (· ∈ verdictTexts)

section Line

variable {verifyDigest : VerifyDigest} {state : ParserState} {d : Text}

theorem firstField_eq (d : Text) : firstField d = d.takeWhile (· != ' ') := by
  rw [firstField, List.headD_eq_head?_getD, Text.head_splitOn]
  rfl

theorem hasLabel_eq_false (label : String) (colon : ':' ∈ label.toList)
    (absent : ':' ∉ d.takeWhile (· != ' ')) : hasLabel label d = false := by
  rw [hasLabel, decide_eq_false_iff_not, firstField_eq]
  intro occurrence
  exact absent (occurrence.subset colon)

/-- Each variable changes at the lines with its label. -/
theorem parserNext_eq :
    parserNext verifyDigest state d =
      { signature :=
          if hasLabel "Signature:" d then content "Signature:" d else state.signature
        data := if hasLabel "Data:" d then content "Data:" d else state.data
        hashing := if hasLabel "Hash:" d then content "Hash:" d else state.hashing } := by
  simp only [parserNext, parseLine, readData, readHash, readSignature]
  split_ifs <;> rfl

/-- A verification is made at a `Signature` line only, in the state that the line leaves. -/
theorem verification_parseLine :
    (parseLine verifyDigest state d).2.filterMap Output.verification? =
      if hasLabel "Signature:" d then [verify verifyDigest (parserNext verifyDigest state d)]
      else [] := by
  simp only [parserNext, parseLine, readData, readHash, readSignature]
  split_ifs <;> rfl

theorem not_mem_verdictTexts {text : Text} (untabbed : text.head? ≠ some '\t') :
    text ∉ verdictTexts := by
  intro verdict
  rcases List.mem_pair.mp verdict with rfl | rfl
  · exact untabbed rfl
  · exact untabbed rfl

theorem text_verification_mem (attempt : Verification) :
    (Output.verification attempt).text ∈ verdictTexts := by
  rw [Output.text]
  cases attempt.verified
  · exact List.mem_cons_of_mem _ List.mem_cons_self
  · exact List.mem_cons_self

/-- Past the verdicts the script prints lines that do not start with a tab. -/
theorem untabbed_of_mem {text : Text}
    (printed : .line text ∈ (parseLine verifyDigest state d).2) : text.head? ≠ some '\t' := by
  simp only [parseLine, List.mem_append] at printed
  rcases printed with (data | hash) | signature
  · rw [readData] at data
    split at data
    · cases List.mem_singleton.mp data
      simp
    · cases data
  · rw [readHash] at hash
    split at hash
    · cases List.mem_singleton.mp hash
      simp
    · cases hash
  · rw [readSignature] at signature
    split at signature
    · simp only [List.mem_cons, Output.line.injEq, reduceCtorEq, List.not_mem_nil, or_false,
        false_or] at signature
      rcases signature with rfl | rfl <;> simp
    · cases signature

theorem verdicts_of_untabbed {outputs : List Output}
    (untabbed : ∀ text, .line text ∈ outputs → text.head? ≠ some '\t') :
    (outputs.map Output.text).filter (· ∈ verdictTexts) =
      (outputs.filterMap Output.verification?).map fun attempt =>
        (Output.verification attempt).text := by
  induction outputs with
  | nil => rfl
  | cons output outputs induction =>
      have rest := induction fun text member => untabbed text (List.mem_cons_of_mem _ member)
      cases output with
      | line text =>
          have silent : Output.text (.line text) ∉ verdictTexts :=
            not_mem_verdictTexts (untabbed text List.mem_cons_self)
          rw [List.map_cons, List.filter_cons_of_neg (by simpa using silent), rest]
          rfl
      | verification attempt =>
          have spoken := text_verification_mem attempt
          rw [List.map_cons, List.filter_cons_of_pos (by simpa using spoken), rest]
          rfl

end Line

/-- What is printed for some lines, and the verifications among it. -/
def outputsFrom (verifyDigest : VerifyDigest) (state : ParserState) (ds : List Text) :
    List Output :=
  (steps (parserNext verifyDigest) state ds).flatMap fun step =>
    (parseLine verifyDigest step.1 step.2).2

def verificationsFrom (verifyDigest : VerifyDigest) (state : ParserState) (ds : List Text) :
    List Verification :=
  (outputsFrom verifyDigest state ds).filterMap Output.verification?

theorem verificationsFrom_append (verifyDigest : VerifyDigest) (state : ParserState)
    (front back : List Text) :
    verificationsFrom verifyDigest state (front ++ back) =
      verificationsFrom verifyDigest state front ++
        verificationsFrom verifyDigest (front.foldl (parserNext verifyDigest) state) back := by
  rw [verificationsFrom, outputsFrom, steps_append, List.flatMap_append, List.filterMap_append]
  rfl

theorem verificationsFrom_cons (verifyDigest : VerifyDigest) (state : ParserState) (d : Text)
    (rest : List Text) :
    verificationsFrom verifyDigest state (d :: rest) =
      (if hasLabel "Signature:" d then [verify verifyDigest (parserNext verifyDigest state d)]
        else []) ++ verificationsFrom verifyDigest (parserNext verifyDigest state d) rest := by
  rw [verificationsFrom, outputsFrom, steps_cons, List.flatMap_cons, List.filterMap_append,
    verification_parseLine]
  rfl

/-- A line whose first field lacks a colon is passed over. -/
theorem outputsFrom_cons_of_not_mem (verifyDigest : VerifyDigest) (state : ParserState)
    {d : Text} (absent : ':' ∉ d.takeWhile (· != ' ')) (rest : List Text) :
    outputsFrom verifyDigest state (d :: rest) = outputsFrom verifyDigest state rest := by
  have data := hasLabel_eq_false "Data:" (by decide) absent
  have hash := hasLabel_eq_false "Hash:" (by decide) absent
  have signature := hasLabel_eq_false "Signature:" (by decide) absent
  have silent : parseLine verifyDigest state d = (state, []) := by
    simp [parseLine, readData, readHash, readSignature, data, hash, signature]
  rw [outputsFrom, steps_cons, List.flatMap_cons, parserNext, silent]
  rfl

theorem verificationsFrom_cons_of_not_mem (verifyDigest : VerifyDigest) (state : ParserState)
    {d : Text} (absent : ':' ∉ d.takeWhile (· != ' ')) (rest : List Text) :
    verificationsFrom verifyDigest state (d :: rest) =
      verificationsFrom verifyDigest state rest := by
  rw [verificationsFrom, outputsFrom_cons_of_not_mem verifyDigest state absent, verificationsFrom]

/-- The content of the last line with a label, empty when there is none. -/
def lastContent (label : String) (ds : List Text) : Text :=
  ((ds.filter (hasLabel label)).getLast?.map (content label)).getD []

theorem lastContent_append_singleton (label : String) (ds : List Text) (d : Text) :
    lastContent label (ds ++ [d]) =
      if hasLabel label d then content label d else lastContent label ds := by
  cases found : hasLabel label d <;> simp [lastContent, List.filter_append, found]

def stateAfter (ds : List Text) : ParserState where
  signature := lastContent "Signature:" ds
  data := lastContent "Data:" ds
  hashing := lastContent "Hash:" ds

/-- The variables keep the content of the last lines. -/
theorem foldl_parserNext (verifyDigest : VerifyDigest) (ds : List Text) :
    ds.foldl (parserNext verifyDigest) initial = stateAfter ds := by
  induction ds using List.reverseRecOn with
  | nil => rfl
  | append_singleton ds d induction =>
      rw [List.foldl_append, List.foldl_cons, List.foldl_nil, induction]
      simp only [parserNext_eq, stateAfter, lastContent_append_singleton]

def endsInSignature (ds : List Text) : Bool :=
  ds.getLast?.any (hasLabel "Signature:")

/-- The lines up to each `Signature` line of a file, in order. -/
def signatureLines (file : Text) : List (List Text) :=
  (Text.lines file).inits.filter endsInSignature

theorem parserNext_stateAfter (verifyDigest : VerifyDigest) (ds : List Text) (d : Text) :
    parserNext verifyDigest (stateAfter ds) d = stateAfter (ds ++ [d]) := by
  rw [← foldl_parserNext verifyDigest, ← foldl_parserNext verifyDigest, List.foldl_append]
  rfl

theorem verificationsFrom_initial (verifyDigest : VerifyDigest) (ds : List Text) :
    verificationsFrom verifyDigest initial ds =
      (ds.inits.filter endsInSignature).map fun above =>
        verify verifyDigest (stateAfter above) := by
  induction ds using List.reverseRecOn with
  | nil => rfl
  | append_singleton ds d induction =>
      rw [verificationsFrom_append, induction, foldl_parserNext, verificationsFrom_cons,
        parserNext_stateAfter, List.inits_append]
      cases signed : hasLabel "Signature:" d <;>
        simp [endsInSignature, signed, verificationsFrom, outputsFrom]

/-- The verdicts printed for a file are those of its verifications. -/
theorem verdicts_eq (verifyDigest : VerifyDigest) (file : Text) :
    verdicts verifyDigest file =
      (verifications verifyDigest file).map fun attempt => (Output.verification attempt).text := by
  apply verdicts_of_untabbed
  intro text printed
  obtain ⟨step, -, member⟩ := List.mem_flatMap.mp printed
  exact untabbed_of_mem member

/-- The signature on the last of these lines and the bytes of their last `Hash` line. -/
def Carries (above : List Text) (signature digest : List UInt8) : Prop :=
  Hex.unhexlify (content "Signature:" (above.getLastD [])) = some signature ∧
    Hex.unhexlify (lastContent "Hash:" above) = some digest

/-- The signature on the last of these lines is one of their last hash, under the fixed key. -/
def SignsLastHash (verifyDigest : VerifyDigest) (above : List Text) : Prop :=
  ∃ signature digest, Carries above signature digest ∧ verifyDigest vk signature digest = true

theorem lastContent_of_endsInSignature {above : List Text} (signed : endsInSignature above) :
    lastContent "Signature:" above = content "Signature:" (above.getLastD []) := by
  cases above using List.reverseRecOn with
  | nil => cases signed
  | append_singleton ds d =>
      have labelled : hasLabel "Signature:" d = true := by simpa [endsInSignature] using signed
      rw [lastContent_append_singleton, if_pos labelled, List.getLastD_concat]

theorem arguments_eq_some_iff {verifyDigest : VerifyDigest} {state : ParserState}
    {signature digest : List UInt8} :
    (verify verifyDigest state).arguments = some (signature, digest) ↔
      Hex.unhexlify state.signature = some signature ∧
        Hex.unhexlify state.hashing = some digest := by
  rw [verify]
  cases Hex.unhexlify state.signature <;> cases Hex.unhexlify state.hashing <;> simp

theorem verified_iff {verifyDigest : VerifyDigest} {state : ParserState} :
    (verify verifyDigest state).verified = true ↔
      ∃ signature digest, (verify verifyDigest state).arguments = some (signature, digest) ∧
        verifyDigest vk signature digest = true := by
  have verified_eq : (verify verifyDigest state).verified =
      (verify verifyDigest state).arguments.any fun (signature, digest) =>
        verifyDigest vk signature digest := rfl
  rw [verified_eq, Option.any_eq_true]
  simp only [Prod.exists]

/-- What an attempt at the last of these lines, a `Signature` line, is about. -/
structure AttemptAt (verifyDigest : VerifyDigest) (above : List Text) (attempt : Verification) :
    Prop where
  arguments_iff : ∀ signature digest,
    attempt.arguments = some (signature, digest) ↔ Carries above signature digest
  verified_iff : attempt.verified = true ↔ SignsLastHash verifyDigest above

theorem attemptAt_stateAfter (verifyDigest : VerifyDigest) {above : List Text}
    (signed : endsInSignature above) :
    AttemptAt verifyDigest above (verify verifyDigest (stateAfter above)) := by
  have arguments_iff (signature digest : List UInt8) :
      (verify verifyDigest (stateAfter above)).arguments = some (signature, digest) ↔
        Carries above signature digest := by
    rw [arguments_eq_some_iff, Carries, ← lastContent_of_endsInSignature signed]
    rfl
  refine ⟨arguments_iff, ?_⟩
  rw [verified_iff]
  simp only [arguments_iff, SignsLastHash]

/-- The verdict printed at the last of these lines. -/
structure VerdictAt (verifyDigest : VerifyDigest) (above : List Text) (text : Text) : Prop where
  ok_iff : text = "\tVerification OK".toList ↔ SignsLastHash verifyDigest above
  error_iff : text = "\tVerification ERROR".toList ↔ ¬ SignsLastHash verifyDigest above

theorem verdictAt_of_attemptAt {verifyDigest : VerifyDigest} {above : List Text}
    {attempt : Verification} (made : AttemptAt verifyDigest above attempt) :
    VerdictAt verifyDigest above (Output.verification attempt).text := by
  have texts_ne : "\tVerification OK".toList ≠ "\tVerification ERROR".toList := by decide
  cases verified : attempt.verified with
  | true =>
      have text_eq : (Output.verification attempt).text = "\tVerification OK".toList := by
        rw [Output.text, verified, if_pos rfl]
      have signs := made.verified_iff.mp verified
      rw [text_eq]
      exact ⟨iff_of_true rfl signs, iff_of_false texts_ne (not_not.mpr signs)⟩
  | false =>
      have text_eq : (Output.verification attempt).text = "\tVerification ERROR".toList := by
        rw [Output.text, verified, if_neg Bool.false_ne_true]
      have fails : ¬ SignsLastHash verifyDigest above :=
        fun signs => Bool.false_ne_true (verified.symm.trans (made.verified_iff.mpr signs))
      rw [text_eq]
      exact ⟨iff_of_false texts_ne.symm fails, iff_of_true rfl fails⟩

/-- For every file, one attempt is made and one verdict printed at each `Signature` line, in order.
The attempt is about the bytes of the signature on that line and of the last `Hash` line so far, and
the verdict is `Verification OK` exactly when both texts unhexlify and the signature verifies over
that hash under the fixed key. -/
theorem log_verifications (verifyDigest : VerifyDigest) (file : Text) :
    List.Forall₂ (AttemptAt verifyDigest) (signatureLines file)
        (verifications verifyDigest file) ∧
      List.Forall₂ (VerdictAt verifyDigest) (signatureLines file) (verdicts verifyDigest file) := by
  have verifications_eq : verifications verifyDigest file =
      (signatureLines file).map fun above => verify verifyDigest (stateAfter above) :=
    verificationsFrom_initial verifyDigest (Text.lines file)
  have attempts : ∀ above ∈ signatureLines file,
      AttemptAt verifyDigest above (verify verifyDigest (stateAfter above)) := by
    intro above member
    exact attemptAt_stateAfter verifyDigest (List.mem_filter.mp member).2
  constructor
  · rw [verifications_eq, List.forall₂_map_right_iff, List.forall₂_same]
    exact attempts
  · rw [verdicts_eq, verifications_eq, List.map_map, List.forall₂_map_right_iff, List.forall₂_same]
    exact fun above member => verdictAt_of_attemptAt (attempts above member)

/-- The bytes that a node hashes for its 15 words, from the big-endian bytes of the words. -/
def littleEndianWords : List UInt8 → List UInt8
  | a :: b :: c :: d :: rest => d :: c :: b :: a :: littleEndianWords rest
  | rest => rest

/-- The lines since the previous `Signature` line, of lines that end with a `Signature` line. -/
def record (above : List Text) : List Text :=
  above.dropLast.rtakeWhile fun d => !hasLabel "Signature:" d

/-- Since the previous `Signature` line there is a `Data` line and a `Hash` line. -/
def HasRecord (above : List Text) : Prop :=
  (record above).any (hasLabel "Data:") ∧ (record above).any (hasLabel "Hash:")

/-- The last hash is that of the 15 words of the last data. -/
def HashesData (crypto : Crypto) (above : List Text) : Prop :=
  ∃ words ∈ Hex.unhexlify (lastContent "Data:" (record above)), words.length = 15 * 4 ∧
    Hex.unhexlify (lastContent "Hash:" (record above)) =
      some (crypto.sha256 (littleEndianWords words)).toList

/-- At the last of these lines the script prints `Verification OK`. -/
def PrintsOk (verifyDigest : VerifyDigest) (above : List Text) : Prop :=
  ∃ front d, above = front ++ [d] ∧
    "\tVerification OK".toList ∈
      (parseLine verifyDigest (front.foldl (parserNext verifyDigest) initial) d).2.map Output.text

/-- Wherever the script prints `Verification OK`, it is for a record whose hash is that of its data,
and the signature is one of that hash. -/
def LogIntegrity (crypto : Crypto) (verifyDigest : VerifyDigest) (file : Text) : Prop :=
  ∀ above, above <+: Text.lines file → PrintsOk verifyDigest above →
    HasRecord above ∧ HashesData crypto above ∧ SignsLastHash verifyDigest above

/-- The words of the first record of the log, with another accelerometer reading. -/
def editedWords : List Nat :=
  [0x99, 0x158, 0xFFFFFAD0, 0x8C0, 0xFFFFFFBB, 0x6A, 0x5B, 0, 0x3D9, 0x26, 0x17F, 0, 0, 0, 0]

/-- The first record of the log with these words in its data. -/
def editedLog : List Text :=
  ["Data: ".toList ++ Hex.spaced 8 editedWords ++ ['\n'],
    "Hash: ".toList ++ Hex.spaced 2 (logDigest.toList.map UInt8.toNat) ++ ['\n'],
    "Signature: ".toList ++ Hex.spaced 2 (logSignature.toList.map UInt8.toNat) ++ ['\n']]

/-- The same with its signature a second time. -/
def repeatedLog : List Text :=
  editedLog ++ editedLog.drop 2

theorem lines_repeatedLog : Text.lines repeatedLog.flatten = repeatedLog := by
  decide +kernel

theorem printsOk_editedLog : PrintsOk sampleVerifyDigest editedLog :=
  ⟨editedLog.take 2, editedLog.getD 2 [], rfl, by decide +kernel⟩

theorem printsOk_repeatedLog : PrintsOk sampleVerifyDigest repeatedLog :=
  ⟨editedLog, editedLog.getD 2 [], rfl, by decide +kernel⟩

theorem not_hashesData_editedLog : ¬ HashesData sampleCrypto editedLog := by
  rintro ⟨words, read, -, hash⟩
  have words_eq : words = editedWords.flatMap (Hex.bytesBE 4) := by
    apply Option.some.inj
    rw [← Option.mem_def.mp read]
    decide +kernel
  rw [words_eq] at hash
  revert hash
  decide +kernel

theorem not_hasRecord_repeatedLog : ¬ HasRecord repeatedLog := by
  rintro ⟨data, -⟩
  revert data
  decide +kernel

/-- A file with an edited record and its signature repeated has no integrity: the edited record is
accepted although its hash is not that of its data, and the second signature although no data and no
hash came since the first. -/
theorem editedLog_accepted :
    ¬ LogIntegrity sampleCrypto sampleVerifyDigest repeatedLog.flatten ∧
      (∃ above, above <+: Text.lines repeatedLog.flatten ∧ PrintsOk sampleVerifyDigest above ∧
        HasRecord above ∧ ¬ HashesData sampleCrypto above) ∧
      ∃ above, above <+: Text.lines repeatedLog.flatten ∧ PrintsOk sampleVerifyDigest above ∧
        ¬ HasRecord above := by
  rw [lines_repeatedLog]
  have edited : editedLog <+: repeatedLog := List.prefix_append ..
  refine ⟨?_, ⟨editedLog, edited, printsOk_editedLog, ?_, not_hashesData_editedLog⟩,
    repeatedLog, List.prefix_rfl, printsOk_repeatedLog, not_hasRecord_repeatedLog⟩
  · intro integrity
    rw [LogIntegrity, lines_repeatedLog] at integrity
    exact not_hashesData_editedLog (integrity editedLog edited printsOk_editedLog).2.1
  · exact ⟨by decide +kernel, by decide +kernel⟩

end PpmlIot.Host

import PpmlIot.Host.ProvideKeyAndVerify
import PpmlIot.Library.Readline
import PpmlIot.Stm32.LineFormat

/-!
# A session of the node and the serial verifier

The verifier reads with a timeout of one second, so it may be handed a line in pieces, and it may
start to listen in the middle of one.  A piece may still be reported as verified, with the end of
the counter's text as its message; its digest and signature are those that an iteration printed.
-/

namespace PpmlIot.Stm32

open Library Host

/-- What the verifier prints for the characters and timeouts it meets. -/
def responses (verifyDigest : VerifyDigest) (publicKey : List UInt8)
    (signals : List Readline.Signal) : List Response :=
  (Readline.chunks [] signals).map (receiveLine verifyDigest publicKey)

section Iterations

variable (crypto : Crypto) (privateKey : Mpi)

/-- The digest that an iteration signs and prints. -/
def iterationDigest (step : LoopState × GenerateSignature) : Digest :=
  crypto.sha256 ((sprintf step.1.message step.1.genericCounter).slice 0 128)

/-- The signature that an iteration prints. -/
def iterationSignature (step : LoopState × GenerateSignature) : EcdsaSignature :=
  (step.2 privateKey (iterationDigest crypto step)).getD step.1.signature

def iterationLine (step : LoopState × GenerateSignature) : Text :=
  line step.1.genericCounter (iterationDigest crypto step)
    (iterationSignature crypto privateKey step)

/-- The bytes that the verifier reads the printed signature as. -/
def signatureBytes (step : LoopState × GenerateSignature) : List UInt8 :=
  (signatureWords (iterationSignature crypto privateKey step)).flatMap (Hex.bytesBE 4)

end Iterations

/-- The iterations of a run. -/
def runSteps (crypto : Crypto) (startup : Startup) (signings : List GenerateSignature) :
    List (LoopState × GenerateSignature) :=
  steps (loopNext crypto startup.privateKey) reset signings

/-- The lines of a session, without their newlines. -/
def sessionLines (crypto : Crypto) (startup : Startup) (signings : List GenerateSignature) :
    List Text :=
  ["STM32L432 Nucleo\r".toList, "ECDSA PhD\r".toList, ['\r'],
      printMpi startup.privateKey ++ "Initialization Done\r".toList] ++
    (runSteps crypto startup signings).map fun step =>
      (iterationLine crypto startup.privateKey step).dropLast

theorem line_eq (counter : UInt8) (digest : Digest) (signature : EcdsaSignature) :
    (line counter digest signature).dropLast ++ ['\n'] = line counter digest signature := by
  have layout : line counter digest signature =
      (Text.decimal counter.toNat ++ ' ' :: (printArray digest.toList 32 ++
        ' ' :: (printMpi signature.r ++ printMpi signature.s ++ ['\r']))) ++ ['\n'] := by
    simp [line]
  rw [layout, List.dropLast_concat]

/-- A run writes these lines. -/
theorem serialText_eq (crypto : Crypto) (startup : Startup) (signings : List GenerateSignature) :
    serialText (main crypto startup signings) =
      (sessionLines crypto startup signings).flatMap (· ++ ['\n']) := by
  have initial : serialText (startUp startup) =
      ["STM32L432 Nucleo\r".toList, "ECDSA PhD\r".toList, ['\r'],
        printMpi startup.privateKey ++ "Initialization Done\r".toList].flatMap
          (· ++ ['\n']) := by
    cases h : startup.yarrowInit <;> cases h' : startup.yarrowSeed <;>
      simp [serialText, startUp, Action.text, h, h']
  have looped (state : LoopState) (signings : List GenerateSignature) :
      serialText ((steps (loopNext crypto startup.privateKey) state signings).flatMap fun step =>
          (iterate crypto startup.privateKey step.1 step.2).1) =
        ((steps (loopNext crypto startup.privateKey) state signings).map fun step =>
          (iterationLine crypto startup.privateKey step).dropLast).flatMap (· ++ ['\n']) := by
    rw [serialText, List.flatMap_assoc, List.flatMap_map]
    apply List.flatMap_congr
    intro step _
    rw [text_iterate, iterationLine, line_eq]
    rfl
  rw [main, sessionLines, List.flatMap_append, ← initial, runSteps, ← looped]
  simp only [serialText, List.flatMap_append]

theorem newline_not_mem {text : Text} (solid : ∀ c ∈ text, Text.isSpace c = false) : '\n' ∉ text :=
  fun member => absurd (solid '\n' member) (by decide)

theorem isSpace_eq_false_of_mem_printMpi {a : Mpi} {c : Char} (member : c ∈ printMpi a) :
    Text.isSpace c = false := by
  rw [printMpi_eq] at member
  exact Hex.isSpace_eq_false_of_mem_digits member

theorem newline_not_mem_line (counter : UInt8) (digest : Digest) (signature : EcdsaSignature) :
    '\n' ∉ (line counter digest signature).dropLast := by
  have layout : (line counter digest signature).dropLast =
      Text.decimal counter.toNat ++ ' ' :: (printArray digest.toList 32 ++
        ' ' :: (printMpi signature.r ++ printMpi signature.s ++ ['\r'])) := by
    refine List.append_cancel_right (?_ : _ ++ ['\n'] = _ ++ ['\n'])
    rw [line_eq]
    simp [line]
  have counter_single : '\n' ∉ Text.decimal counter.toNat :=
    Text.not_mem_of_isNumeral rfl fun _ => Text.isNumeral_of_mem_decimal
  have digest_single : '\n' ∉ printArray digest.toList 32 := by
    rw [printArray_digest]
    exact newline_not_mem fun _ => Hex.isSpace_eq_false_of_mem_digits
  have r_single : '\n' ∉ printMpi signature.r :=
    newline_not_mem fun _ => isSpace_eq_false_of_mem_printMpi
  have s_single : '\n' ∉ printMpi signature.s :=
    newline_not_mem fun _ => isSpace_eq_false_of_mem_printMpi
  simp [layout, counter_single, digest_single, r_single, s_single]

theorem newline_not_mem_sessionLines {crypto : Crypto} {startup : Startup}
    {signings : List GenerateSignature} :
    ∀ line ∈ sessionLines crypto startup signings, '\n' ∉ line := by
  have key_single : '\n' ∉ printMpi startup.privateKey :=
    newline_not_mem fun _ => isSpace_eq_false_of_mem_printMpi
  intro text member
  rcases List.mem_append.mp member with initial | looped
  · simp only [List.mem_cons, List.not_mem_nil, or_false] at initial
    rcases initial with rfl | rfl | rfl | rfl <;> simp [key_single]
  · obtain ⟨step, -, rfl⟩ := List.mem_map.mp looped
    exact newline_not_mem_line _ _ _

theorem few_fields_privateKey_line (a : Mpi) :
    ((printMpi a ++ "Initialization Done\r".toList ++ ['\n']).splitOn ' ').length < 3 := by
  have solid : ' ' ∉ printMpi a :=
    space_not_mem fun _ => isSpace_eq_false_of_mem_printMpi
  have layout : printMpi a ++ "Initialization Done\r".toList ++ ['\n'] =
      (printMpi a ++ "Initialization".toList) ++ ' ' :: "Done\r\n".toList := by
    simp
  rw [layout, List.splitOn_append_cons_self_of_not_mem (by simp [solid]), List.length_cons]
  decide

/-- The lines before the loop have fewer than three fields; the others are those of `line`. -/
theorem sessionLines_cases {crypto : Crypto} {startup : Startup}
    {signings : List GenerateSignature} {text : Text}
    (member : text ∈ Text.lines (serialText (main crypto startup signings))) :
    (text.splitOn ' ').length < 3 ∨
      ∃ step ∈ runSteps crypto startup signings,
        text = iterationLine crypto startup.privateKey step := by
  have single : ∀ line ∈ sessionLines crypto startup signings, '\n' ∉ line :=
    newline_not_mem_sessionLines
  have whole := Text.lines_flatMap single []
  rw [List.append_nil, Text.lines_nil, List.append_nil, ← serialText_eq] at whole
  rw [whole] at member
  obtain ⟨printed, printed_mem, rfl⟩ := List.mem_map.mp member
  rcases List.mem_append.mp printed_mem with initial | looped
  · left
    simp only [List.mem_cons, List.not_mem_nil, or_false] at initial
    rcases initial with rfl | rfl | rfl | rfl
    · decide
    · decide
    · decide
    · exact few_fields_privateKey_line _
  · obtain ⟨step, taken, rfl⟩ := List.mem_map.mp looped
    exact .inr ⟨step, taken, line_eq ..⟩

/-- Signing yields numbers of at most 256 bits. -/
def Fits (signing : GenerateSignature) : Prop :=
  ∀ key digest signature, signing key digest = some signature →
    signature.r.value < 2 ^ 256 ∧ signature.s.value < 2 ^ 256

theorem fits_iterationSignature {crypto : Crypto} {startup : Startup}
    {signings : List GenerateSignature} (fits : ∀ signing ∈ signings, Fits signing)
    {step : LoopState × GenerateSignature} (taken : step ∈ runSteps crypto startup signings) :
    (iterationSignature crypto startup.privateKey step).r.value < 2 ^ 256 ∧
      (iterationSignature crypto startup.privateKey step).s.value < 2 ^ 256 := by
  let stored (signature : EcdsaSignature) : Prop :=
    signature.r.value < 2 ^ 256 ∧ signature.s.value < 2 ^ 256
  have printed (step : LoopState × GenerateSignature) (possible : Fits step.2)
      (before : stored step.1.signature) :
      stored (iterationSignature crypto startup.privateKey step) := by
    cases outcome : step.2 startup.privateKey (iterationDigest crypto step) with
    | none =>
        rw [iterationSignature, outcome]
        exact before
    | some signature =>
        rw [iterationSignature, outcome]
        exact possible _ _ _ outcome
  have possible : ∀ step ∈ runSteps crypto startup signings, Fits step.2 :=
    (forall_steps_input_iff reset signings).mpr fits
  have preserved (state : LoopState) (signing : GenerateSignature) : Fits signing →
      stored state.signature →
        stored (loopNext crypto startup.privateKey state signing).signature :=
    printed (state, signing)
  have initial : stored reset.signature := by
    decide
  have kept : ∀ step ∈ runSteps crypto startup signings, stored step.1.signature :=
    (invariant_of_possible preserved initial possible).1
  exact printed step (possible step taken) (kept step taken)

theorem length_signatureBytes_le {crypto : Crypto} {startup : Startup}
    {signings : List GenerateSignature} (fits : ∀ signing ∈ signings, Fits signing)
    {step : LoopState × GenerateSignature} (taken : step ∈ runSteps crypto startup signings) :
    (signatureBytes crypto startup.privateKey step).length ≤ 64 := by
  obtain ⟨r_fits, s_fits⟩ := fits_iterationSignature fits taken
  have r_words := length_printedWords_le r_fits
  have s_words := length_printedWords_le s_fits
  rw [signatureBytes, length_signatureBytes]
  omega

/-- A part of the printed signature that is read as 64 bytes is all of it. -/
theorem read_part {signature : EcdsaSignature} {part : Text} {bytes : List UInt8}
    (front : part <+: printMpi signature.r ++ printMpi signature.s ++ ['\r', '\n'])
    (read : Hex.unhexlify (Text.strip part) = some bytes) (length : bytes.length = 64)
    (bound : ((signatureWords signature).flatMap (Hex.bytesBE 4)).length ≤ 64) :
    bytes = (signatureWords signature).flatMap (Hex.bytesBE 4) := by
  let digits := (signatureWords signature).flatMap (Hex.fixed Hex.upperDigit (2 * 4))
  have solid : ∀ c ∈ digits, Text.isSpace c = false := fun _ => Hex.isSpace_eq_false_of_mem_digits
  have blank : ∀ c ∈ ['\r', '\n'], Text.isSpace c = true := by
    simp [Text.isSpace]
  have whole : Hex.unhexlify digits = some ((signatureWords signature).flatMap (Hex.bytesBE 4)) :=
    Hex.unhexlify_flatMap_fixed 4 _
  have stripped : Text.strip part <+: digits := by
    rw [printSignature_eq] at front
    rcases List.prefix_or_prefix_of_prefix front (List.prefix_append digits _) with
      inside | ⟨rest, rfl⟩
    · rwa [Text.strip_eq_self fun c member => solid c (inside.subset member)]
    · have behind := (List.prefix_append_right_inj _).mp front
      rw [Text.strip_append_spaces solid fun c member => blank c (behind.subset member)]
  have part_length := (Hex.digits_of_unhexlify read).1
  have digits_length := (Hex.digits_of_unhexlify whole).1
  have all := stripped.eq_of_length_le (by omega)
  rw [all, whole, Option.some.injEq] at read
  exact read.symm

/-- Whatever part of a session the verifier hears, and wherever its timeouts fall, what it reports
as verified is an iteration of the session: the digest and the signature of that iteration verify,
and the message reported is the end of that iteration's counter. -/
theorem verified_of_session {verifyDigest : VerifyDigest} {publicKey : List UInt8} {crypto : Crypto}
    {startup : Startup} {signings : List GenerateSignature} {signals : List Readline.Signal}
    (sized : AcceptsSized verifyDigest) (fits : ∀ signing ∈ signings, Fits signing)
    (heard : Readline.received signals <:+: serialText (main crypto startup signings)) {msg : Text}
    (reported : .verified msg ∈ responses verifyDigest publicKey signals) :
    ∃ step ∈ runSteps crypto startup signings,
      msg <:+ Text.decimal step.1.genericCounter.toNat ∧
        verifyDigest publicKey (signatureBytes crypto startup.privateKey step)
          (iterationDigest crypto step).toList = true := by
  obtain ⟨chunk, returned, response⟩ := List.mem_map.mp reported
  obtain ⟨hash, digest, sign, signature, fields, digest_read, sign_read, verified⟩ :=
    receiveLine_eq_verified_iff.mp response
  have nonempty : chunk ≠ [] := by
    rintro rfl
    simp at fields
  obtain ⟨text, printed, part⟩ := Readline.exists_line_of_mem_chunks heard returned nonempty
  obtain ⟨many, cut⟩ := Text.fields_of_infix part fields
  rcases sessionLines_cases printed with few | ⟨step, taken, rfl⟩
  · omega
  · obtain ⟨message_end, rfl, sign_front⟩ := cut _ _ _ (splitOn_line ..)
    rw [read_digest, Option.some.injEq] at digest_read
    have signature_eq := read_part sign_front sign_read (sized _ _ _ verified)
      (length_signatureBytes_le fits taken)
    refine ⟨step, taken, message_end, ?_⟩
    rw [digest_read, signatureBytes, ← signature_eq]
    exact verified

section Transcript

variable {verifyDigest : VerifyDigest} {publicKey : List UInt8} {crypto : Crypto}
variable {startup : Startup} {signings : List GenerateSignature}

/-- The signature of an iteration verifies, and none of its words is left out. -/
def Verifies (verifyDigest : VerifyDigest) (publicKey : List UInt8) (crypto : Crypto)
    (privateKey : Mpi) (step : LoopState × GenerateSignature) : Prop :=
  let signature := iterationSignature crypto privateKey step
  signature.r.NoZeroWord ∧ signature.s.NoZeroWord ∧
    verifyDigest publicKey
      (Hex.bytesBE 32 signature.r.value ++ Hex.bytesBE 32 signature.s.value)
      (iterationDigest crypto step).toList = true

instance (verifyDigest : VerifyDigest) (publicKey : List UInt8) (crypto : Crypto)
    (privateKey : Mpi) (step : LoopState × GenerateSignature) :
    Decidable (Verifies verifyDigest publicKey crypto privateKey step) :=
  inferInstanceAs (Decidable (_ ∧ _ ∧ _))

/-- What the verifier is to print for a session: four lines that it cannot parse, the key among
them, and a verdict on each iteration. -/
def transcript (verifyDigest : VerifyDigest) (publicKey : List UInt8) (crypto : Crypto)
    (startup : Startup) (signings : List GenerateSignature) : List Response :=
  [.unparsed "STM32L432 Nucleo".toList, .unparsed "ECDSA PhD".toList, .unparsed [],
      .unparsed (printMpi startup.privateKey ++ "Initialization Done".toList)] ++
    (runSteps crypto startup signings).map fun step =>
      if Verifies verifyDigest publicKey crypto startup.privateKey step then
        .verified (Text.decimal step.1.genericCounter.toNat)
      else
        .rejected (iterationLine crypto startup.privateKey step)

theorem verifyDigest_signatureBytes_iff (sized : AcceptsSized verifyDigest)
    (fits : ∀ signing ∈ signings, Fits signing) {step : LoopState × GenerateSignature}
    (taken : step ∈ runSteps crypto startup signings) :
    verifyDigest publicKey (signatureBytes crypto startup.privateKey step)
        (iterationDigest crypto step).toList = true ↔
      Verifies verifyDigest publicKey crypto startup.privateKey step := by
  obtain ⟨r_fits, s_fits⟩ := fits_iterationSignature fits taken
  have whole (r_words : (iterationSignature crypto startup.privateKey step).r.NoZeroWord)
      (s_words : (iterationSignature crypto startup.privateKey step).s.NoZeroWord) :
      signatureBytes crypto startup.privateKey step =
        Hex.bytesBE 32 (iterationSignature crypto startup.privateKey step).r.value ++
          Hex.bytesBE 32 (iterationSignature crypto startup.privateKey step).s.value := by
    rw [signatureBytes, signatureWords, List.flatMap_append, bytes_printedWords r_fits r_words,
      bytes_printedWords s_fits s_words]
  constructor
  · intro verified
    have length := sized _ _ _ verified
    have r_bound := length_printedWords_le r_fits
    have s_bound := length_printedWords_le s_fits
    rw [signatureBytes, length_signatureBytes] at length
    have r_words := (length_printedWords_iff r_fits).mp (by omega)
    have s_words := (length_printedWords_iff s_fits).mp (by omega)
    rw [whole r_words s_words] at verified
    exact ⟨r_words, s_words, verified⟩
  · rintro ⟨r_words, s_words, verified⟩
    rw [whole r_words s_words]
    exact verified

theorem receiveLine_iterationLine (sized : AcceptsSized verifyDigest)
    (fits : ∀ signing ∈ signings, Fits signing) {step : LoopState × GenerateSignature}
    (taken : step ∈ runSteps crypto startup signings) :
    receiveLine verifyDigest publicKey (iterationLine crypto startup.privateKey step) =
      if Verifies verifyDigest publicKey crypto startup.privateKey step then
        .verified (Text.decimal step.1.genericCounter.toNat)
      else
        .rejected (iterationLine crypto startup.privateKey step) := by
  have verified : verifyDigest publicKey (signatureBytes crypto startup.privateKey step)
        (iterationDigest crypto step).toList = true ↔
      Verifies verifyDigest publicKey crypto startup.privateKey step :=
    verifyDigest_signatureBytes_iff sized fits taken
  have fields := splitOn_line step.1.genericCounter (iterationDigest crypto step)
    (iterationSignature crypto startup.privateKey step)
  have sign_read := read_signature (iterationSignature crypto startup.privateKey step)
  rw [← signatureBytes] at sign_read
  rw [← iterationLine] at fields
  simp only [receiveLine, fields, sign_read, read_digest]
  exact if_congr verified rfl rfl

theorem receiveLine_eq_silent_iff {newData : Text} :
    receiveLine verifyDigest publicKey newData = .silent ↔ newData = [] := by
  constructor
  · intro silent
    unfold receiveLine at silent
    split at silent
    · split at silent
      · split at silent <;> cases silent
      · cases silent
    · split at silent
      · cases silent
      · rename_i empty
        exact List.eq_nil_of_length_eq_zero (by omega)
  · rintro rfl
    simp [receiveLine]

/-- A line of fewer than three fields is printed without the whitespace around it. -/
theorem receiveLine_of_few {newData : Text} (few : (newData.splitOn ' ').length < 3)
    (nonempty : newData ≠ []) :
    receiveLine verifyDigest publicKey newData = .unparsed (Text.strip newData) := by
  rw [receiveLine]
  split
  · rename_i fields
    simp [fields] at few
  · rw [if_pos (List.length_pos_iff.mpr nonempty)]

theorem strip_privateKey_line {a : Mpi} :
    Text.strip (printMpi a ++ "Initialization Done\r".toList ++ ['\n']) =
      printMpi a ++ "Initialization Done".toList := by
  have layout : printMpi a ++ "Initialization Done\r".toList ++ ['\n'] =
      (printMpi a ++ "Initialization Done".toList) ++ ['\r', '\n'] := by
    simp
  rw [layout]
  apply Text.strip_append_of_ends
  · intro c first
    cases digits : printMpi a with
    | nil =>
        rw [digits] at first
        obtain rfl : 'I' = c := by simpa using first
        rfl
    | cons digit rest =>
        rw [digits] at first
        obtain rfl : digit = c := by simpa using first
        exact isSpace_eq_false_of_mem_printMpi (digits ▸ List.mem_cons_self)
  · intro c last
    rw [List.getLast?_append_of_ne_nil _ (by decide)] at last
    obtain rfl : 'e' = c := by simpa using last
    rfl
  · simp [Text.isSpace]

/-- The four lines before the loop cannot be parsed. -/
theorem receiveLine_initial (startup : Startup) :
    [("STM32L432 Nucleo\r".toList : Text), "ECDSA PhD\r".toList, ['\r'],
        printMpi startup.privateKey ++ "Initialization Done\r".toList].map
          (fun line => receiveLine verifyDigest publicKey (line ++ ['\n'])) =
      [.unparsed "STM32L432 Nucleo".toList, .unparsed "ECDSA PhD".toList, .unparsed [],
        .unparsed (printMpi startup.privateKey ++ "Initialization Done".toList)] := by
  have title : Text.strip ("STM32L432 Nucleo\r".toList ++ ['\n']) = "STM32L432 Nucleo".toList := by
    decide
  have subtitle : Text.strip ("ECDSA PhD\r".toList ++ ['\n']) = "ECDSA PhD".toList := by
    decide
  have blank : Text.strip (['\r'] ++ ['\n']) = [] := by
    decide
  simp only [List.map_cons, List.map_nil]
  rw [receiveLine_of_few (by decide) (by decide), title,
    receiveLine_of_few (by decide) (by decide), subtitle,
    receiveLine_of_few (by decide) (by decide), blank,
    receiveLine_of_few (few_fields_privateKey_line _) (by simp), strip_privateKey_line]

/-- If the verifier hears a whole session and its timeouts fall between the lines, it prints the
transcript: an iteration is reported as verified exactly when its signature verifies and none of its
words is zero. -/
theorem transcript_of_session (sized : AcceptsSized verifyDigest)
    (fits : ∀ signing ∈ signings, Fits signing) {signals : List Readline.Signal}
    (punctual : Readline.Punctual [] signals)
    (heard : Readline.received signals = serialText (main crypto startup signings)) :
    (responses verifyDigest publicKey signals).filter (· ≠ .silent) =
      transcript verifyDigest publicKey crypto startup signings := by
  have spoken : (fun response : Response => decide (response ≠ .silent)) ∘
      receiveLine verifyDigest publicKey = fun chunk => decide (chunk ≠ []) := by
    funext chunk
    exact decide_eq_decide.mpr (not_congr receiveLine_eq_silent_iff)
  have lines := Readline.chunks_of_punctual newline_not_mem_sessionLines (by simp) punctual
    (heard.trans (serialText_eq crypto startup signings))
  have looped (step : LoopState × GenerateSignature)
      (taken : step ∈ runSteps crypto startup signings) :
      receiveLine verifyDigest publicKey
          ((iterationLine crypto startup.privateKey step).dropLast ++ ['\n']) = _ :=
    (congrArg _ (line_eq ..)).trans (receiveLine_iterationLine sized fits taken)
  rw [responses, List.filter_map, spoken, lines, sessionLines, transcript]
  simp only [List.map_append, List.map_map]
  congr 1
  · exact receiveLine_initial startup
  · exact List.map_congr_left looped

end Transcript

/-- Signing that yields the signature of the counter message 0. -/
def zeroSigning : GenerateSignature := fun _ _ =>
  some ⟨sampleStartup.mpiReadRaw (zeroSignature.toList.take 32),
    sampleStartup.mpiReadRaw (zeroSignature.toList.drop 32)⟩

theorem fits_zeroSigning : ∀ signing ∈ [zeroSigning, zeroSigning], Fits signing := by
  intro signing member key digest signature signed
  simp only [List.mem_cons, List.not_mem_nil, or_false, or_self] at member
  rw [member, zeroSigning, Option.some.injEq] at signed
  rw [← signed]
  decide +kernel

/-- A session that is heard from its fourth character on, with a timeout behind the next one. -/
def lateSignals : List Readline.Signal :=
  let chars := (serialText (main sampleCrypto sampleStartup [zeroSigning, zeroSigning])).drop 3
  (chars.take 1).map .char ++ .timeout :: (chars.drop 1).map .char

/-- The verifier that starts late reports the first iteration of the session. -/
theorem zero_verified_of_session :
    .verified ['0'] ∈ responses sampleVerifyDigest lPublic1 lateSignals ∧
      ∃ step ∈ runSteps sampleCrypto sampleStartup [zeroSigning, zeroSigning],
        ['0'] <:+ Text.decimal step.1.genericCounter.toNat ∧
          sampleVerifyDigest lPublic1
            (signatureBytes sampleCrypto sampleStartup.privateKey step)
            (iterationDigest sampleCrypto step).toList = true := by
  have reported : .verified ['0'] ∈ responses sampleVerifyDigest lPublic1 lateSignals := by
    decide +kernel
  have heard : Readline.received lateSignals <:+:
      serialText (main sampleCrypto sampleStartup [zeroSigning, zeroSigning]) := by
    decide +kernel
  exact ⟨reported,
    verified_of_session acceptsSized_sampleVerifyDigest fits_zeroSigning heard reported⟩

/-- A session heard from the first character to the last. -/
def wholeSignals : List Readline.Signal :=
  .timeout :: (serialText (main sampleCrypto sampleStartup [zeroSigning, zeroSigning])).map .char

theorem zero_transcript_of_session :
    (responses sampleVerifyDigest lPublic1 wholeSignals).filter (· ≠ .silent) =
      transcript sampleVerifyDigest lPublic1 sampleCrypto sampleStartup
        [zeroSigning, zeroSigning] := by
  have punctual : Readline.Punctual [] wholeSignals :=
    .timeout (Readline.punctual_map_char [] _)
  have heard : Readline.received wholeSignals =
      serialText (main sampleCrypto sampleStartup [zeroSigning, zeroSigning]) := by
    rw [wholeSignals, Readline.received_timeout, Readline.received_map_char]
  exact transcript_of_session acceptsSized_sampleVerifyDigest fits_zeroSigning punctual heard

end PpmlIot.Stm32

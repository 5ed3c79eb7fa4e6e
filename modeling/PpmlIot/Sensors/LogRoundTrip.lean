import PpmlIot.Host.SignDataParse
import PpmlIot.Sensors.PrintedLines

/-!
# From a sensor node's log to its verifier

The log verifier reads back what the sensor node prints.  Every line for a human reader lacks a
label in its first field and is passed over, and the three lines of a record give one verification
of the digest and signature of that iteration.  The words in the data are read back as the readings
signed.
-/

namespace PpmlIot.Sensors

open Library Host

/-- Lines without a label leave the parser's variables alone and make it print nothing. -/
theorem Displays.outputsFrom_append {text : Text} {shown : List Text}
    (displays : Displays text shown) (verifyDigest : VerifyDigest) (state : ParserState)
    (rest : Text) :
    outputsFrom verifyDigest state (Text.lines (text ++ rest)) =
      outputsFrom verifyDigest state (Text.lines rest) := by
  obtain ⟨printed, rfl, quiet, -⟩ := displays
  rw [Text.lines_flatMap fun d member => (quiet d member).1]
  induction printed with
  | nil => rfl
  | cons d printed induction =>
      have tail := induction fun other member => quiet other (List.mem_cons_of_mem d member)
      rw [List.map_cons, List.cons_append,
        outputsFrom_cons_of_not_mem _ _ (quiet d List.mem_cons_self).2, tail]

theorem Displays.verificationsFrom_append {text : Text} {shown : List Text}
    (displays : Displays text shown) (verifyDigest : VerifyDigest) (state : ParserState)
    (rest : Text) :
    verificationsFrom verifyDigest state (Text.lines (text ++ rest)) =
      verificationsFrom verifyDigest state (Text.lines rest) := by
  rw [verificationsFrom, displays.outputsFrom_append, verificationsFrom]

theorem Displays.outputsFrom_eq_nil {text : Text} {shown : List Text}
    (displays : Displays text shown) (verifyDigest : VerifyDigest) (state : ParserState) :
    outputsFrom verifyDigest state (Text.lines text) = [] := by
  have silent := displays.outputsFrom_append verifyDigest state []
  rwa [List.append_nil] at silent

section HexLine

variable {label : String} {width : Nat} {values : List Nat}

theorem lines_hexLine (single : '\n' ∉ label.toList) (rest : Text) :
    Text.lines (hexLine label width values ++ rest) =
      hexLine label width values :: Text.lines rest := by
  have whole : '\n' ∉ label.toList ++ ' ' :: Hex.spaced width values := by
    simp [single, Hex.newline_not_mem_spaced]
  simpa [hexLine] using Text.lines_append_newline whole rest

/-- The first field of a labelled line is its label. -/
theorem hasLabel_hexLine (other : String) (solid : ' ' ∉ label.toList) :
    hasLabel other (hexLine label width values) = decide (other.toList <:+: label.toList) := by
  have whole : label.toList.takeWhile (· != ' ') = label.toList := by
    rw [List.takeWhile_eq_self_iff]
    intro c member
    simpa using fun blank : c = ' ' => solid (blank ▸ member)
  have field : firstField (hexLine label width values) = label.toList := by
    rw [firstField_eq, hexLine, List.takeWhile_append, whole]
    simp
  rw [hasLabel, field]

/-- The content of a labelled line is its digits without the blanks. -/
theorem content_hexLine (colon : ':' ∈ label.toList) :
    content label (hexLine label width values) =
      values.flatMap (Hex.fixed Hex.upperDigit width) := by
  have pattern : (label ++ " ").toList = label.toList ++ [' '] := by
    simp
  have inside : ':' ∈ (label ++ " ").toList := by
    simp [colon]
  have numbers : ':' ∉ Hex.spaced width values := Hex.not_mem_spaced rfl (by decide) width values
  have no_colon : ':' ∉ Hex.spaced width values ++ ['\n'] := by
    simp [numbers]
  have layout : hexLine label width values =
      (label ++ " ").toList ++ (Hex.spaced width values ++ ['\n']) := by
    simp [hexLine]
  rw [content, layout, Text.remove_pattern_append (List.ne_nil_of_mem inside),
    Text.remove_eq_self_of_not_mem inside no_colon, Text.without_append, Hex.without_spaced]
  exact Text.strip_append_spaces (fun _ => Hex.isSpace_eq_false_of_mem_digits)
    (by simp [Text.isSpace, Text.without])

end HexLine

theorem lines_recordText (message : List.Vector Int32 15) (digest : Digest)
    (signature : Signature) (rest : Text) :
    Text.lines (recordText message digest signature ++ rest) =
      hexLine "Data:" 8 (message.toList.map wordValue) ::
        hexLine "Hash:" 2 (digest.toList.map UInt8.toNat) ::
          hexLine "Signature:" 2 (signature.toList.map UInt8.toNat) :: Text.lines rest := by
  simp only [recordText, Action.text, List.append_assoc]
  rw [lines_hexLine (by decide), lines_hexLine (by decide), lines_hexLine (by decide)]

/-- The variables of the parser after a record. -/
def recordState (message : List.Vector Int32 15) (digest : Digest) (signature : Signature) :
    ParserState where
  signature := (signature.toList.map UInt8.toNat).flatMap (Hex.fixed Hex.upperDigit 2)
  data := (message.toList.map wordValue).flatMap (Hex.fixed Hex.upperDigit 8)
  hashing := (digest.toList.map UInt8.toNat).flatMap (Hex.fixed Hex.upperDigit 2)

/-- The three lines of a record give one verification, whatever was read before. -/
theorem verificationsFrom_record (verifyDigest : VerifyDigest) (state : ParserState)
    (message : List.Vector Int32 15) (digest : Digest) (signature : Signature) (rest : Text) :
    verificationsFrom verifyDigest state (Text.lines
        (recordText message digest signature ++ rest)) =
      verify verifyDigest (recordState message digest signature) ::
        verificationsFrom verifyDigest (recordState message digest signature)
          (Text.lines rest) := by
  rw [lines_recordText]
  have data : content "Data:" (hexLine "Data:" 8 (message.toList.map wordValue)) =
      (recordState message digest signature).data := content_hexLine (by decide)
  have hash : content "Hash:" (hexLine "Hash:" 2 (digest.toList.map UInt8.toNat)) =
      (recordState message digest signature).hashing := content_hexLine (by decide)
  have sign : content "Signature:" (hexLine "Signature:" 2 (signature.toList.map UInt8.toNat)) =
      (recordState message digest signature).signature := content_hexLine (by decide)
  have labels : ("Data:".toList <:+: "Data:".toList) ∧ ¬ ("Hash:".toList <:+: "Data:".toList) ∧
      ¬ ("Signature:".toList <:+: "Data:".toList) ∧ ¬ ("Data:".toList <:+: "Hash:".toList) ∧
      ("Hash:".toList <:+: "Hash:".toList) ∧ ¬ ("Signature:".toList <:+: "Hash:".toList) ∧
      ¬ ("Data:".toList <:+: "Signature:".toList) ∧
      ¬ ("Hash:".toList <:+: "Signature:".toList) ∧
      ("Signature:".toList <:+: "Signature:".toList) := by decide
  have data_solid : ' ' ∉ "Data:".toList := by decide
  have hash_solid : ' ' ∉ "Hash:".toList := by decide
  have sign_solid : ' ' ∉ "Signature:".toList := by decide
  simp only [verificationsFrom_cons, parserNext_eq, hasLabel_hexLine _ data_solid,
    hasLabel_hexLine _ hash_solid, hasLabel_hexLine _ sign_solid, labels, decide_true,
    decide_false, Bool.false_eq_true, if_true, if_false, data, hash, sign, List.nil_append]
  rfl

/-- The fifteen words of a data text, as two's complement. -/
def decodeWords (data : Text) : List Int32 :=
  (List.range 15).map fun i =>
    (UInt32.ofNat (Hex.number ((data.drop (8 * i)).take 8))).toInt32

/-- The readings behind fifteen words. -/
structure SignedReadings where
  accValue : Axes
  tempValue : Int16
  magValue : Axes
  pres : Int
  temp : Int
  accData : Axes
  value : Int32

/-- Readings recovered from words; pressure and temperature are thousands and remainder. -/
def recover (words : List Int32) : SignedReadings :=
  let word (i : Nat) : Int32 := words.getD i 0
  { accValue := ⟨(word 0).toInt16, (word 1).toInt16, (word 2).toInt16⟩
    tempValue := (word 3).toInt16
    magValue := ⟨(word 4).toInt16, (word 5).toInt16, (word 6).toInt16⟩
    pres := 1000 * (word 7).toInt + (word 8).toInt
    temp := 1000 * (word 9).toInt + (word 10).toInt
    accData := ⟨(word 11).toInt16, (word 12).toInt16, (word 13).toInt16⟩
    value := word 14 }

/-- The readings that the variables hold when a record is signed. -/
def heldReadings (locals : Locals) (readings : Readings) : SignedReadings where
  accValue := readings.accValue.getD locals.accValue
  tempValue := readings.tempValue.getD locals.tempValue
  magValue := readings.magValue.getD locals.magValue
  pres := readings.pres.toInt
  temp := readings.temp.toInt
  accData := readings.accData.getD locals.accData
  value := readings.value

/-- The SHA-256 of the words of an iteration. -/
def signedDigest (crypto : Crypto) (locals : Locals) (readings : Readings) : Digest :=
  crypto.sha256 (memoryBytes (msgBuffer locals readings))

/-- What the signing primitive answers for this digest, or the signature held when it fails. -/
def heldSignature (crypto : Crypto) (locals : Locals) (readings : Readings) : Signature :=
  (readings.uECCSign lPrivate1 (signedDigest crypto locals readings)).getD locals.lSig

/-- A verification has the digest and signature of an iteration, and its data tells the words and
readings of that iteration. -/
structure ReadsRecord (crypto : Crypto) (verifyDigest : VerifyDigest) (locals : Locals)
    (readings : Readings) (attempt : Verification) : Prop where
  arguments : attempt.arguments =
    some ((heldSignature crypto locals readings).toList,
      (signedDigest crypto locals readings).toList)
  verified : attempt.verified =
    verifyDigest vk (heldSignature crypto locals readings).toList
      (signedDigest crypto locals readings).toList
  length : attempt.data.length = 120
  digits : ∀ c ∈ attempt.data, (Hex.digitValue c).isSome
  words : decodeWords attempt.data = (msgBuffer locals readings).toList
  readings : recover (decodeWords attempt.data) = heldReadings locals readings

/-- A word is read back from the eight digits printed for it. -/
theorem toInt32_number (word : Int32) :
    (UInt32.ofNat (Hex.number (Hex.fixed Hex.upperDigit 8 (wordValue word)))).toInt32 = word := by
  have small : wordValue word < 16 ^ 8 := word.toUInt32.toNat_lt
  rw [Hex.number_fixed, Nat.mod_eq_of_lt small, wordValue, UInt32.ofNat_toNat]
  rfl

theorem decodeWords_recordState (message : List.Vector Int32 15) (digest : Digest)
    (signature : Signature) :
    decodeWords (recordState message digest signature).data = message.toList := by
  have length : message.toList.length = 15 := message.toList_length
  apply List.ext_getElem
  · simp [decodeWords]
  · intro i inside inside'
    have piece := Hex.take_drop_flatMap (Hex.length_fixed Hex.upperDigit 8)
      (message.toList.map wordValue) i (by simpa using inside')
    simp only [decodeWords, List.getElem_map, List.getElem_range, recordState]
    rw [piece, List.getElem_map, toInt32_number]

theorem recover_msgBuffer (locals : Locals) (readings : Readings) :
    recover (msgBuffer locals readings).toList = heldReadings locals readings := by
  have pres := thousands_add readings.pres
  have temp := thousands_add readings.temp
  simp only [recover, heldReadings, msgBuffer, fillMsgBuffer, measure, List.Vector.toList_mk,
    List.getD_cons_zero, List.getD_cons_succ, Int16.toInt16_toInt32, pres, temp]

/-- The variables of the parser after an iteration's record. -/
def iterationState (crypto : Crypto) (locals : Locals) (readings : Readings) : ParserState :=
  recordState (msgBuffer locals readings) (signedDigest crypto locals readings)
    (heldSignature crypto locals readings)

theorem iterationText_eq (crypto : Crypto) (locals : Locals) (readings : Readings) :
    iterationText crypto locals readings =
      recordText (msgBuffer locals readings) (signedDigest crypto locals readings)
        (heldSignature crypto locals readings) := by
  rw [iterationText, outcome_eq, lHash_eq]
  rfl

theorem readsRecord_iterationState (crypto : Crypto) (verifyDigest : VerifyDigest)
    (locals : Locals) (readings : Readings) :
    ReadsRecord crypto verifyDigest locals readings
      (verify verifyDigest (iterationState crypto locals readings)) := by
  have bytes (bytes : List UInt8) :
      Hex.unhexlify ((bytes.map UInt8.toNat).flatMap (Hex.fixed Hex.upperDigit 2)) =
        some bytes := by
    rw [List.flatMap_map, Hex.unhexlify_flatMap_bytes]
  have words := decodeWords_recordState (msgBuffer locals readings)
    (signedDigest crypto locals readings) (heldSignature crypto locals readings)
  have length : (msgBuffer locals readings).toList.length = 15 := List.Vector.toList_length _
  constructor
  · simp [verify, iterationState, recordState, bytes]
  · simp [verify, iterationState, recordState, bytes]
  · simp [verify, iterationState, recordState, List.length_flatMap, List.map_map,
      Function.comp_def, length]
  · intro c member
    obtain ⟨value, -, digit⟩ := List.mem_flatMap.mp member
    exact Hex.isSome_digitValue_of_mem_fixed digit
  · exact words
  · rw [verify, iterationState, words, recover_msgBuffer]

/-- An iteration gives one verification, of its own record. -/
theorem verificationsFrom_iterate (crypto : Crypto) (verifyDigest : VerifyDigest)
    (locals : Locals) (readings : Readings) (state : ParserState) (rest : Text) :
    verificationsFrom verifyDigest state
        (Text.lines (serial (iterate crypto locals readings).1 ++ rest)) =
      verify verifyDigest (iterationState crypto locals readings) ::
        verificationsFrom verifyDigest (iterationState crypto locals readings)
          (Text.lines rest) := by
  obtain ⟨front, displays, printed⟩ := displays_iterate crypto locals readings
  rw [printed, iterationText_eq, List.append_assoc, List.append_assoc,
    displays.verificationsFrom_append, verificationsFrom_record,
    displays_blank.verificationsFrom_append]
  rfl

/-- For every number of iterations, sensor readings, failures, digests and signatures, the log
verifier makes one verification for each iteration, in order, of exactly that iteration's digest and
signature, and its data tells that iteration's words and readings. -/
theorem log_round_trip (crypto : Crypto) (verifyDigest : VerifyDigest) (startup : Startup)
    (locals : Locals) (iterations : List Readings) :
    List.Forall₂ (fun step => ReadsRecord crypto verifyDigest step.1 step.2)
      (if startup.initialized then steps (loopNext crypto) locals iterations else [])
      (verifications verifyDigest (serialText crypto startup locals iterations)) := by
  have loop (state : ParserState) :
      List.Forall₂ (fun step => ReadsRecord crypto verifyDigest step.1 step.2)
        (steps (loopNext crypto) locals iterations)
        (verificationsFrom verifyDigest state (Text.lines
          (serial ((steps (loopNext crypto) locals iterations).flatMap fun step =>
            (iterate crypto step.1 step.2).1)))) := by
    induction iterations generalizing locals state with
    | nil => exact .nil
    | cons readings iterations induction =>
        rw [steps_cons, List.flatMap_cons, serial_append]
        rw [verificationsFrom_iterate]
        exact .cons (readsRecord_iterationState crypto verifyDigest locals readings)
          (induction (loopNext crypto locals readings) _)
  have startup_text := (displays_startUp startup).verificationsFrom_append verifyDigest initial
  change List.Forall₂ _ _ (verificationsFrom verifyDigest initial (Text.lines (serial _)))
  rw [main]
  dsimp only
  rw [(startUp_snd startup).1]
  cases startup.initialized with
  | true =>
      rw [if_pos rfl, if_pos rfl, serial_append, startup_text]
      exact loop initial
  | false =>
      have attempts := startup_text []
      rw [List.append_nil] at attempts
      rw [if_neg Bool.false_ne_true, if_neg Bool.false_ne_true, attempts]
      exact .nil

def sampleStartup : Startup :=
  let sensor : SensorInit := ⟨0, true⟩
  ⟨sensor, sensor, sensor, sensor⟩

/-- The first record of the log is printed by the node and verified. -/
theorem sample_record_verified :
    (verifications sampleVerifyDigest (serialText sampleCrypto sampleStartup sensorLocals
      [sensorReadings fun _ _ => some logSignature])).map Verification.arguments =
        [some (logSignature.toList, logDigest.toList)] := by
  have read := log_round_trip sampleCrypto sampleVerifyDigest sampleStartup sensorLocals
    [sensorReadings fun _ _ => some logSignature]
  obtain ⟨attempt, rest, record, none_left, attempts⟩ := List.forall₂_cons_left_iff.mp read
  rw [attempts, List.forall₂_nil_left_iff.mp none_left, List.map_singleton, record.arguments]
  decide +kernel

/-- The log verifier prints nothing for a log of the other node. -/
theorem signDataParse_unsigned (verifyDigest : VerifyDigest) (startup : Startup) (accData : Axes)
    (iterations : List Unsigned.Reads) :
    signDataParse verifyDigest (serial (Unsigned.main startup accData iterations)) = [] := by
  obtain ⟨shown, displays⟩ := displays_main_unsigned startup accData iterations
  exact displays.outputsFrom_eq_nil verifyDigest initial

end PpmlIot.Sensors

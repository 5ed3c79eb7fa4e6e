import PpmlIot.Sensors.Freshness
import PpmlIot.Sensors.PowerLoss

/-!
# The numbers a sensor node shows

A person who reads a log sees the readings in decimal above each record.  These numbers, in their
order, are the words that are signed in the record, except that a sensor whose read failed shows
nothing and has its old words signed.  The node without signatures shows the same lines.
-/

namespace PpmlIot.Sensors

open Library Library.Numerals Host

/-- The numbers shown above a record, and the words in its `Data` line. -/
structure LogEntry where
  shown : List Int
  words : List Int32
  deriving DecidableEq

/-- Read a log, given the numbers shown since the last record. -/
def readLog : List Int → List Text → List LogEntry
  | _, [] => []
  | shown, d :: ds =>
      if isMeasurement d then
        readLog (shown ++ numerals d) ds
      else if hasLabel "Data:" d then
        ⟨shown, decodeWords (content "Data:" d)⟩ :: readLog [] ds
      else
        readLog shown ds

/-- The words of the sensors that show something. -/
def shownWords (readings : Readings) (words : List Int32) : List Int32 :=
  (if readings.accValue.isSome then words.take 3 else []) ++
    (if readings.tempValue.isSome then (words.drop 3).take 1 else []) ++
    (if readings.magValue.isSome then (words.drop 4).take 3 else []) ++ words.drop 7

/-- The words of an entry are what is signed in an iteration, and the numbers shown are these words
without those of the sensors whose read failed. -/
structure ShowsSigned (crypto : Crypto) (step : Locals × Readings) (entry : LogEntry) : Prop where
  signed : ∀ message, Signs crypto (iterate crypto step.1 step.2).1 message ↔
    message = entry.words.flatMap fun word => Hex.bytesLE 4 (wordValue word)
  shown : entry.shown = (shownWords step.2 entry.words).map Int32.toInt

/-- The numbers that an iteration shows are the words of its record, without those of the sensors
whose read failed. -/
theorem numerals_shownLines (locals : Locals) (readings : Readings) :
    (shownLines locals.accData readings.reads).flatMap numerals =
      (shownWords readings (msgBuffer locals readings).toList).map Int32.toInt := by
  have accelerometer : "Accelerometer" ++ " x: " ∈ measurementLabels := by decide
  have magnetometer : "Magnetometer" ++ " x: " ∈ measurementLabels := by decide
  have axes {name : String} (labelled : name ++ " x: " ∈ measurementLabels) (read : Option Axes)
      (held : Axes) : (shownAxes name read).flatMap numerals =
        if read.isSome then
          [(read.getD held).x.toInt, (read.getD held).y.toInt, (read.getD held).z.toInt]
        else [] := by
    cases read <;> simp [shownAxes, (shows_printAxes labelled _).numerals]
  have temperature (read : Option Int16) (held : Int16) :
      (shownTemp read).flatMap numerals =
        if read.isSome then [(read.getD held).toInt] else [] := by
    cases read <;> simp [shownTemp, (shows_printTemp _).numerals]
  simp only [shownLines, List.flatMap_append, List.flatMap_cons, List.flatMap_nil,
    axes accelerometer _ locals.accValue, axes magnetometer _ locals.magValue,
    temperature _ locals.tempValue, (shows_printPressure _ _ _ _).numerals,
    (shows_printGyro _).numerals, (shows_printLight _).numerals, shownWords, List.map_append,
    msgBuffer, fillMsgBuffer, measure]
  dsimp only [Readings.reads]
  simp [apply_ite (List.map Int32.toInt)]
  rfl

/-- The lines of a text that holds no record are read one by one. -/
theorem Displays.readLog_append {text : Text} {shown : List Text}
    (displays : Displays text shown) (pending : List Int) (rest : Text) :
    readLog pending (Text.lines (text ++ rest)) =
      readLog (pending ++ shown.flatMap numerals) (Text.lines rest) := by
  obtain ⟨printed, rfl, quiet, rfl⟩ := displays
  rw [Text.lines_flatMap fun d member => (quiet d member).1]
  induction printed generalizing pending with
  | nil => simp
  | cons d printed induction =>
      have later (pending : List Int) :=
        induction pending fun other member => quiet other (List.mem_cons_of_mem d member)
      have no_data : hasLabel "Data:" (d ++ ['\n']) = false :=
        hasLabel_eq_false "Data:" (by decide) (quiet d List.mem_cons_self).2
      rw [List.map_cons, List.cons_append, readLog, no_data, List.filter_cons]
      split
      · rw [later, List.flatMap_cons, List.append_assoc]
      · exact later pending

theorem isMeasurement_hexLine {label : String} {width : Nat} {values : List Nat}
    (other : label.toList.headD 'A' ∉ measurementHeads) :
    isMeasurement (hexLine label width values) = false := by
  apply isMeasurement_eq_false
  cases split : label.toList with
  | nil =>
      rw [split] at other
      exact absurd (List.mem_cons_self ..) other
  | cons c rest =>
      rw [split] at other
      rw [hexLine, split]
      exact other

/-- The three lines of a record close an entry. -/
theorem readLog_record (pending : List Int) (message : List.Vector Int32 15) (digest : Digest)
    (signature : Signature) (rest : Text) :
    readLog pending (Text.lines (recordText message digest signature ++ rest)) =
      ⟨pending, message.toList⟩ :: readLog [] (Text.lines rest) := by
  have data_solid : ' ' ∉ "Data:".toList := by decide
  have hash_solid : ' ' ∉ "Hash:".toList := by decide
  have sign_solid : ' ' ∉ "Signature:".toList := by decide
  have data : hasLabel "Data:" (hexLine "Data:" 8 (message.toList.map wordValue)) = true := by
    rw [hasLabel_hexLine _ data_solid]
    decide
  have hash : hasLabel "Data:" (hexLine "Hash:" 2 (digest.toList.map UInt8.toNat)) = false := by
    rw [hasLabel_hexLine _ hash_solid]
    decide
  have sign : hasLabel "Data:" (hexLine "Signature:" 2 (signature.toList.map UInt8.toNat)) =
      false := by
    rw [hasLabel_hexLine _ sign_solid]
    decide
  have words : decodeWords (content "Data:" (hexLine "Data:" 8 (message.toList.map wordValue))) =
      message.toList := by
    rw [content_hexLine (by decide)]
    exact decodeWords_recordState message digest signature
  rw [lines_recordText, readLog, isMeasurement_hexLine (by decide), readLog,
    isMeasurement_hexLine (by decide), readLog, isMeasurement_hexLine (by decide), data, hash, sign,
    words]
  rfl

theorem measurements_record (message : List.Vector Int32 15) (digest : Digest)
    (signature : Signature) (rest : Text) :
    measurements (recordText message digest signature ++ rest) = measurements rest := by
  rw [measurements, lines_recordText, List.filter_cons, isMeasurement_hexLine (by decide),
    List.filter_cons, isMeasurement_hexLine (by decide), List.filter_cons,
    isMeasurement_hexLine (by decide)]
  rfl

/-- What is read of an iteration. -/
def loggedEntry (step : Locals × Readings) : LogEntry where
  shown := (shownWords step.2 (msgBuffer step.1 step.2).toList).map Int32.toInt
  words := (msgBuffer step.1 step.2).toList

theorem readLog_iterate (crypto : Crypto) (locals : Locals) (readings : Readings) (rest : Text) :
    readLog [] (Text.lines (serial (iterate crypto locals readings).1 ++ rest)) =
      loggedEntry (locals, readings) :: readLog [] (Text.lines rest) := by
  obtain ⟨front, displays, printed⟩ := displays_iterate crypto locals readings
  rw [printed, iterationText, List.append_assoc, List.append_assoc, displays.readLog_append,
    readLog_record, displays_blank.readLog_append, numerals_shownLines]
  rfl

theorem measurements_iterate (crypto : Crypto) (locals : Locals) (readings : Readings)
    (rest : Text) :
    measurements (serial (iterate crypto locals readings).1 ++ rest) =
      shownLines locals.accData readings.reads ++ measurements rest := by
  obtain ⟨front, displays, printed⟩ := displays_iterate crypto locals readings
  rw [printed, iterationText, List.append_assoc, List.append_assoc,
    displays.measurements_append, measurements_record, displays_blank.measurements_append,
    List.nil_append]

/-- What is read from a log of some iterations. -/
theorem readLog_loop (crypto : Crypto) (locals : Locals) (iterations : List Readings) :
    readLog [] (Text.lines (serial ((steps (loopNext crypto) locals iterations).flatMap fun step =>
        (iterate crypto step.1 step.2).1))) =
      (steps (loopNext crypto) locals iterations).map loggedEntry := by
  induction iterations generalizing locals with
  | nil => rfl
  | cons readings iterations induction =>
      rw [steps_cons, List.flatMap_cons, serial_append, readLog_iterate, induction]
      rfl

/-- Both loops show the same lines. -/
theorem measurements_loop (crypto : Crypto) (locals : Locals) (iterations : List Readings) :
    measurements (serial ((steps (loopNext crypto) locals iterations).flatMap fun step =>
        (iterate crypto step.1 step.2).1)) =
      measurements (serial ((steps Unsigned.loopNext locals.accData
        (iterations.map Readings.reads)).flatMap fun step =>
          (Unsigned.iterate step.1 step.2).1)) := by
  induction iterations generalizing locals with
  | nil => rfl
  | cons readings iterations induction =>
      rw [steps_cons, List.flatMap_cons, serial_append, measurements_iterate, induction,
        List.map_cons, steps_cons, List.flatMap_cons, serial_append,
        (displays_iterate_unsigned locals.accData readings.reads).measurements_append]
      rfl

theorem readLog_serialText (crypto : Crypto) (startup : Startup) (locals : Locals)
    (iterations : List Readings) :
    readLog [] (Text.lines (serialText crypto startup locals iterations)) =
      (if startup.initialized then steps (loopNext crypto) locals iterations else []).map
        loggedEntry := by
  have front := (displays_startUp startup).readLog_append []
  change readLog [] (Text.lines (serial (main crypto startup locals iterations))) = _
  rw [main]
  dsimp only
  rw [(startUp_snd startup).1]
  split
  · rw [serial_append, front]
    exact readLog_loop crypto locals iterations
  · have silent := front []
    rw [List.append_nil] at silent
    exact silent

theorem showsSigned_loggedEntry (crypto : Crypto) (step : Locals × Readings) :
    ShowsSigned crypto step (loggedEntry step) where
  signed := signs_iterate_iff crypto step.1 step.2
  shown := rfl

/-- For every start-up, sensor readings, failures and signatures, a person who reads the log finds
one entry for each iteration, in order: its words are what was signed, and the numbers shown above
it are these words without those of the sensors whose read failed.  The log verifier reads the same
words. -/
theorem shown_of_session (crypto : Crypto) (verifyDigest : VerifyDigest) (startup : Startup)
    (locals : Locals) (iterations : List Readings) :
    List.Forall₂ (ShowsSigned crypto)
        (if startup.initialized then steps (loopNext crypto) locals iterations else [])
        (readLog [] (Text.lines (serialText crypto startup locals iterations))) ∧
      (verifications verifyDigest (serialText crypto startup locals iterations)).map
          (fun attempt => decodeWords attempt.data) =
        (readLog [] (Text.lines (serialText crypto startup locals iterations))).map
          LogEntry.words := by
  rw [readLog_serialText]
  constructor
  · rw [List.forall₂_map_right_iff, List.forall₂_same]
    exact fun step _ => showsSigned_loggedEntry crypto step
  · have attempts : verifications verifyDigest (serialText crypto startup locals iterations) =
        records crypto verifyDigest startup locals iterations :=
      verificationsFrom_serialText crypto verifyDigest startup locals iterations initial
    have words (step : Locals × Readings) :
        decodeWords (verify verifyDigest (iterationState crypto step.1 step.2)).data =
          (msgBuffer step.1 step.2).toList := by
      rw [verify, iterationState, decodeWords_recordState]
    rw [attempts, records]
    split
    · rw [List.map_map, List.map_map]
      exact List.map_congr_left fun step _ => words step
    · rfl

/-- Signing changes nothing in what is shown: for the same start-up and the same answers of the
sensors, the node that signs and the node that does not show the same readings, and none if a sensor
is not initialized. -/
theorem measurements_of_signing (crypto : Crypto) (startup : Startup) (locals : Locals)
    (iterations : List Readings) :
    measurements (serialText crypto startup locals iterations) =
        measurements (serial (Unsigned.main startup locals.accData
          (iterations.map Readings.reads))) ∧
      (startup.initialized = false →
        measurements (serialText crypto startup locals iterations) = []) := by
  have front := (displays_startUp startup).measurements_append
  have front_unsigned := (displays_startUp_unsigned startup).measurements_append
  obtain ⟨entered, entered_unsigned⟩ := startUp_snd startup
  change measurements (serial (main crypto startup locals iterations)) = _ ∧
    (_ → measurements (serial (main crypto startup locals iterations)) = [])
  rw [main, Unsigned.main]
  dsimp only
  rw [entered, entered_unsigned]
  cases startup.initialized with
  | true =>
      rw [if_pos rfl, if_pos rfl, serial_append, serial_append, front, front_unsigned]
      exact ⟨measurements_loop crypto locals iterations, fun failed => by cases failed⟩
  | false =>
      rw [if_neg Bool.false_ne_true, if_neg Bool.false_ne_true,
        (displays_startUp startup).measurements_eq,
        (displays_startUp_unsigned startup).measurements_eq]
      exact ⟨rfl, fun _ => rfl⟩

end PpmlIot.Sensors

import PpmlIot.Library.Numerals
import PpmlIot.Sensors.Sensors

/-!
# The lines a sensor node prints

Past the three lines of a record, what a sensor node prints is for a human reader: whole lines whose
first fields have no colon, some of which show readings in decimal.
-/

namespace PpmlIot.Sensors

open Library Library.Numerals

def serial (actions : List Action) : Text :=
  actions.flatMap Action.text

theorem serial_append (front back : List Action) :
    serial (front ++ back) = serial front ++ serial back :=
  List.flatMap_append

/-- The starts of the lines that show readings. -/
def measurementLabels : List String :=
  ["Accelerometer x: ", "Temperature value: ", "Magnetometer x: ", "Pressure value: ",
    "Gyro data [dps] - X: ", "Light value: "]

def isMeasurement (d : Text) : Bool :=
  measurementLabels.any fun label => label.toList.isPrefixOf d

/-- The lines of a log that show readings. -/
def measurements (log : Text) : List Text :=
  (Text.lines log).filter isMeasurement

/-- A text made of whole lines, none of them a record's, in which these show readings. -/
def Displays (text : Text) (shown : List Text) : Prop :=
  ∃ printed : List Text, text = printed.flatMap (· ++ ['\n']) ∧
    (∀ d ∈ printed, '\n' ∉ d ∧ ':' ∉ (d ++ ['\n']).takeWhile (· != ' ')) ∧
    (printed.map (· ++ ['\n'])).filter isMeasurement = shown

theorem Displays.append {left right : Text} {left_shown right_shown : List Text}
    (left_displays : Displays left left_shown) (right_displays : Displays right right_shown) :
    Displays (left ++ right) (left_shown ++ right_shown) := by
  obtain ⟨front, rfl, front_quiet, rfl⟩ := left_displays
  obtain ⟨back, rfl, back_quiet, rfl⟩ := right_displays
  refine ⟨front ++ back, by rw [List.flatMap_append], ?_, ?_⟩
  · intro d member
    rcases List.mem_append.mp member with earlier | later
    · exact front_quiet d earlier
    · exact back_quiet d later
  · rw [List.map_append, List.filter_append]

theorem Displays.measurements_append {text : Text} {shown : List Text}
    (displays : Displays text shown) (rest : Text) :
    measurements (text ++ rest) = shown ++ measurements rest := by
  obtain ⟨printed, rfl, quiet, rfl⟩ := displays
  rw [measurements, Text.lines_flatMap fun d member => (quiet d member).1, List.filter_append]
  rfl

theorem Displays.measurements_eq {text : Text} {shown : List Text}
    (displays : Displays text shown) : measurements text = shown := by
  have whole := displays.measurements_append []
  rw [List.append_nil] at whole
  exact whole.trans (List.append_nil shown)

/-- The first letters of the lines that show readings. -/
def measurementHeads : List Char := ['A', 'T', 'M', 'P', 'G', 'L']

theorem isMeasurement_eq_false {d : Text} (other : d.headD 'A' ∉ measurementHeads) :
    isMeasurement d = false := by
  have heads : ∀ label ∈ measurementLabels, label.toList ≠ [] ∧
      label.toList.headD 'A' ∈ measurementHeads := by decide
  rw [isMeasurement, List.any_eq_false]
  intro label member start
  obtain ⟨nonempty, known⟩ := heads label member
  obtain ⟨rest, rfl⟩ := List.isPrefixOf_iff_prefix.mp start
  obtain ⟨c, tail, split⟩ := List.exists_cons_of_ne_nil nonempty
  rw [split] at known other
  exact other known

/-- A line that is no record's and shows no readings. -/
def Silent (d : String) : Prop :=
  '\n' ∉ d.toList ∧ ':' ∉ (d.toList ++ ['\n']).takeWhile (· != ' ') ∧
    (d.toList ++ ['\n']).headD 'A' ∉ measurementHeads

instance (d : String) : Decidable (Silent d) :=
  inferInstanceAs (Decidable (_ ∧ _ ∧ _))

/-- A constant text displays nothing when its lines do not. -/
theorem displays_of_lines (printed : List String) (silent : ∀ d ∈ printed, Silent d) :
    Displays ((printed.map String.toList).flatMap (· ++ ['\n'])) [] := by
  refine ⟨printed.map String.toList, rfl, ?_, ?_⟩
  · intro d member
    obtain ⟨string, string_mem, rfl⟩ := List.mem_map.mp member
    exact ⟨(silent string string_mem).1, (silent string string_mem).2.1⟩
  · rw [List.filter_eq_nil_iff]
    intro d member
    obtain ⟨line, line_mem, rfl⟩ := List.mem_map.mp member
    obtain ⟨string, string_mem, rfl⟩ := List.mem_map.mp line_mem
    rw [isMeasurement_eq_false (silent string string_mem).2.2]
    exact Bool.false_ne_true

/-- A line with a blank displays nothing when it has no colon before the blank. -/
theorem displays_line (field rest : Text) (no_colon : ':' ∉ field) (field_single : '\n' ∉ field)
    (rest_single : '\n' ∉ rest)
    (other : (field ++ ' ' :: rest ++ ['\n']).headD 'A' ∉ measurementHeads) :
    Displays (field ++ ' ' :: (rest ++ ['\n'])) [] := by
  refine ⟨[field ++ ' ' :: rest], by simp, ?_, ?_⟩
  · intro d member
    rw [List.mem_singleton.mp member]
    constructor
    · simp [field_single, rest_single]
    · rw [List.append_assoc, List.takeWhile_append]
      split
      · simpa using no_colon
      · exact fun colon => no_colon ((List.takeWhile_prefix _).subset colon)
  · rw [List.map_singleton, List.filter_cons_of_neg, List.filter_nil]
    rw [isMeasurement_eq_false other]
    exact Bool.false_ne_true

/-- A line for readings: a label, numerals with texts between them, and an ending. -/
def readingText (label : String) (first : Text) (fields : List (String × Text))
    (ending : String) : Text :=
  fieldsText ((label.toList, first) :: fields.map fun field => (field.1.toList, field.2)) ++
    (ending.toList ++ ['\n'])

/-- A text that can stand between two numerals of a line. -/
def Between (text : String) : Prop :=
  separates text.toList = true ∧ '\n' ∉ text.toList

instance (text : String) : Decidable (Between text) :=
  inferInstanceAs (Decidable (_ ∧ _))

/-- A text that can stand behind the last numeral of a line. -/
def Ending (text : String) : Prop :=
  startsForeign (text.toList ++ ['\n']) = true ∧ numerals (text.toList ++ ['\n']) = [] ∧
    '\n' ∉ text.toList

instance (text : String) : Decidable (Ending text) :=
  inferInstanceAs (Decidable (_ ∧ _ ∧ _))

/-- A text from which an integer is read. -/
structure Prints (numeral : Text) (value : Int) : Prop where
  single : '\n' ∉ numeral
  value : numerals numeral = [value]

theorem prints_decimal (value : Int) : Prints (Text.decimal value) value :=
  ⟨Text.newline_not_mem_decimal value, numerals_decimal value⟩

theorem prints_decimalWidth (width : Nat) (value : Int) :
    Prints (Text.decimalWidth width value) value :=
  ⟨Text.newline_not_mem_decimalWidth width value, numerals_decimalWidth width value⟩

theorem prints_decimalZeros (width : Nat) (value : Int) :
    Prints (Text.decimalZeros width value) value :=
  ⟨Text.newline_not_mem_decimalZeros width value, numerals_decimalZeros width value⟩

/-- A numeral with the text in front of it. -/
def FieldPrints (field : String × Text) (value : Int) : Prop :=
  Between field.1 ∧ Prints field.2 value

theorem fieldPrints {text : String} {numeral : Text} {value : Int} (between : Between text)
    (prints : Prints numeral value) : FieldPrints (text, numeral) value :=
  ⟨between, prints⟩

/-- What is asked of each field of a line, and the numbers in all of them. -/
theorem fields_of_prints {fields : List (String × Text)} {values : List Int}
    (printed : List.Forall₂ FieldPrints fields values) :
    (∀ field ∈ fields, Between field.1 ∧ '\n' ∉ field.2) ∧
      (fields.flatMap fun field => numerals field.2) = values := by
  induction printed with
  | nil => simp
  | cons head _ induction =>
      obtain ⟨between, prints⟩ := head
      rw [List.forall_mem_cons, List.flatMap_cons, prints.value, induction.2]
      exact ⟨⟨⟨between, prints.single⟩, induction.1⟩, rfl⟩

/-- A line in which these numbers are shown. -/
structure Shows (line : Text) (values : List Int) : Prop where
  displays : Displays line [line]
  numerals : numerals line = values

theorem measurementLabel : ∀ label ∈ measurementLabels, Between label ∧ ' ' ∈ label.toList ∧
    ':' ∉ label.toList.takeWhile (· != ' ') := by
  decide

section ReadingText

variable {label : String} {first : Text} {fields : List (String × Text)} {ending : String}

theorem displays_readingText (labelled : label ∈ measurementLabels) (first_single : '\n' ∉ first)
    (fields_single : ∀ field ∈ fields, '\n' ∉ field.1.toList ∧ '\n' ∉ field.2)
    (ending_single : '\n' ∉ ending.toList) :
    Displays (readingText label first fields ending)
      [readingText label first fields ending] := by
  obtain ⟨between, blank, no_colon⟩ := measurementLabel label labelled
  let rest := first ++ (fieldsText (fields.map fun field => (field.1.toList, field.2)) ++
    ending.toList)
  have whole : readingText label first fields ending = (label.toList ++ rest) ++ ['\n'] := by
    simp [readingText, fieldsText, rest]
  have field : (label.toList ++ rest ++ ['\n']).takeWhile (· != ' ') =
      label.toList.takeWhile (· != ' ') := by
    rw [List.append_assoc, List.takeWhile_append, if_neg]
    intro all
    have solid := List.takeWhile_eq_self_iff.mp
      ((List.takeWhile_prefix (· != ' ')).eq_of_length all) ' ' blank
    cases solid
  have rest_single : '\n' ∉ rest := by
    simp only [rest, fieldsText, List.mem_append, List.mem_flatMap, List.mem_map]
    rintro (inside | ⟨_, ⟨field, member, rfl⟩, front | numeral⟩ | behind)
    · exact first_single inside
    · exact (fields_single field member).1 front
    · exact (fields_single field member).2 numeral
    · exact ending_single behind
  have shows_readings : isMeasurement (label.toList ++ rest ++ ['\n']) = true := by
    refine List.any_eq_true.mpr ⟨label, labelled, List.isPrefixOf_iff_prefix.mpr ?_⟩
    rw [List.append_assoc]
    exact List.prefix_append ..
  rw [whole]
  refine ⟨[label.toList ++ rest], by simp, ?_, ?_⟩
  · rw [List.forall_mem_singleton, field]
    exact ⟨by simp [between.2, rest_single], no_colon⟩
  · rw [List.map_singleton, List.filter_cons_of_pos shows_readings, List.filter_nil]

/-- The numbers shown in a line are those of its numerals. -/
theorem shows_readingText (labelled : label ∈ measurementLabels) {value : Int}
    (first_prints : Prints first value) {values : List Int}
    (printed : List.Forall₂ FieldPrints fields values) (ends : Ending ending) :
    Shows (readingText label first fields ending) (value :: values) := by
  obtain ⟨between, numbers⟩ := fields_of_prints printed
  constructor
  · refine displays_readingText labelled first_prints.single ?_ ends.2.2
    exact fun field member => ⟨(between field member).1.2, (between field member).2⟩
  · rw [readingText, numerals_fieldsText _ ends.1, ends.2.1, List.append_nil, List.flatMap_cons,
      first_prints.value, List.flatMap_map, numbers]
    · rfl
    · rw [List.forall_mem_cons, List.forall_mem_map]
      exact ⟨(measurementLabel label labelled).1.1, fun field member => (between field member).1.1⟩

end ReadingText

def shownAxes (name : String) (read : Option Axes) : List Text :=
  read.toList.map fun axes => serial (printAxes name "" (some axes))

def shownTemp (read : Option Int16) : List Text :=
  read.toList.map fun tempValue => serial (printTemp (some tempValue))

/-- The lines in which an iteration shows its readings. -/
def shownLines (accData : Axes) (reads : Unsigned.Reads) : List Text :=
  let (presAbs, pres) := splitThousands reads.pres
  let (tempAbs, temp) := splitThousands reads.temp
  shownAxes "Accelerometer" reads.accValue ++ shownTemp reads.tempValue ++
    shownAxes "Magnetometer" reads.magValue ++
    [(printPressure presAbs pres tempAbs temp).text,
      (printGyro (reads.accData.getD accData)).text, (printLight reads.value).text]

theorem shows_printAxes {name : String} (labelled : name ++ " x: " ∈ measurementLabels)
    (axes : Axes) :
    Shows (serial (printAxes name "" (some axes)))
      [axes.x.toInt, axes.y.toInt, axes.z.toInt] := by
  have layout : serial (printAxes name "" (some axes)) =
      readingText (name ++ " x: ") (conversion axes.x)
        [(" y: ", conversion axes.y), (" z: ", conversion axes.z)] "" := by
    simp [serial, printAxes, Action.text, readingText, fieldsText]
  rw [layout]
  exact shows_readingText labelled (prints_decimal _)
    (.cons (fieldPrints (by decide) (prints_decimal _))
      (.cons (fieldPrints (by decide) (prints_decimal _)) .nil))
    (by decide)

theorem shows_printTemp (tempValue : Int16) :
    Shows (serial (printTemp (some tempValue))) [tempValue.toInt] := by
  have layout : serial (printTemp (some tempValue)) =
      readingText "Temperature value: " (conversion tempValue) [] " degrees" := by
    simp [serial, printTemp, Action.text, readingText, fieldsText]
  rw [layout]
  exact shows_readingText (by decide) (prints_decimal _) .nil (by decide)

theorem shows_printPressure (presAbs pres tempAbs temp : Int32) :
    Shows (printPressure presAbs pres tempAbs temp).text
      [presAbs.toInt, pres.toInt, tempAbs.toInt, temp.toInt] := by
  have layout : (printPressure presAbs pres tempAbs temp).text =
      readingText "Pressure value: " (Text.decimalWidth 2 presAbs.toInt)
        [(".", Text.decimalZeros 3 pres.toInt),
          (" bar - Temperature: ", Text.decimalWidth 2 tempAbs.toInt),
          (".", Text.decimalZeros 3 temp.toInt)] " \u00c2\u00b0C" := by
    simp [printPressure, Action.text, readingText, fieldsText]
  rw [layout]
  refine shows_readingText (by decide) (prints_decimalWidth _ _) ?_ (by decide)
  exact .cons (fieldPrints (by decide) (prints_decimalZeros _ _))
    (.cons (fieldPrints (by decide) (prints_decimalWidth _ _))
      (.cons (fieldPrints (by decide) (prints_decimalZeros _ _)) .nil))

theorem shows_printGyro (accData : Axes) :
    Shows (printGyro accData).text [accData.x.toInt, accData.y.toInt, accData.z.toInt] := by
  have layout : (printGyro accData).text =
      readingText "Gyro data [dps] - X: " (Text.decimalWidth 6 accData.x.toInt)
        [("   Y: ", Text.decimalWidth 6 accData.y.toInt),
          ("   Z: ", Text.decimalWidth 6 accData.z.toInt)] "" := by
    simp [printGyro, Action.text, readingText, fieldsText]
  rw [layout]
  exact shows_readingText (by decide) (prints_decimalWidth _ _)
    (.cons (fieldPrints (by decide) (prints_decimalWidth _ _))
      (.cons (fieldPrints (by decide) (prints_decimalWidth _ _)) .nil))
    (by decide)

theorem shows_printLight (value : Int32) : Shows (printLight value).text [value.toInt] := by
  have layout : (printLight value).text =
      readingText "Light value: " (Text.decimalWidth 5 value.toInt) [] " LUX" := by
    simp [printLight, Action.text, readingText, fieldsText]
  rw [layout]
  exact shows_readingText (by decide) (prints_decimalWidth _ _) .nil (by decide)

theorem displays_printAxes {name failure : String} (labelled : name ++ " x: " ∈ measurementLabels)
    (silent : Displays failure.toList []) (read : Option Axes) :
    Displays (serial (printAxes name failure read)) (shownAxes name read) := by
  cases read with
  | none => simpa [serial, printAxes, Action.say, Action.text, shownAxes] using silent
  | some axes => exact (shows_printAxes labelled axes).displays

theorem displays_printTemp (read : Option Int16) :
    Displays (serial (printTemp read)) (shownTemp read) := by
  cases read with
  | none => exact displays_of_lines ["", "Failed reading value", ""] (by decide)
  | some tempValue => exact (shows_printTemp tempValue).displays

theorem displays_iterate_unsigned (accData : Axes) (reads : Unsigned.Reads) :
    Displays (serial (Unsigned.iterate accData reads).1) (shownLines accData reads) := by
  have acc := @displays_printAxes "Accelerometer" "\nFailed reading accelerometer values\n\n"
    (by decide)
    (displays_of_lines ["", "Failed reading accelerometer values", ""] (by decide))
    reads.accValue
  have mag := @displays_printAxes "Magnetometer" "\nFailed reading magnetometer values\n\n"
    (by decide)
    (displays_of_lines ["", "Failed reading magnetometer values", ""] (by decide))
    reads.magValue
  have values := ((shows_printPressure (splitThousands reads.pres).1
    (splitThousands reads.pres).2 (splitThousands reads.temp).1
    (splitThousands reads.temp).2).displays.append
      (shows_printGyro (reads.accData.getD accData)).displays).append
        (shows_printLight reads.value).displays
  have sensors := ((acc.append (displays_printTemp reads.tempValue)).append mag).append values
  simpa [Unsigned.iterate, serial, shownLines] using sensors

/-- The signing node shows its readings as the other node does. -/
theorem displays_measure (locals : Locals) (readings : Readings) :
    Displays (serial (measure locals readings).1) (shownLines locals.accData readings.reads) := by
  rw [(measure_eq_iterate locals readings).1]
  exact displays_iterate_unsigned locals.accData readings.reads

theorem displays_blank : Displays "\n\n".toList [] :=
  displays_of_lines ["", ""] (by decide)

/-- The three lines of a record. -/
def recordText (message : List.Vector Int32 15) (digest : Digest) (signature : Signature) : Text :=
  (Action.printData message).text ++
    ((Action.printHash digest).text ++ (Action.printSignature signature).text)

/-- The record that an iteration prints. -/
def iterationText (crypto : Crypto) (locals : Locals) (readings : Readings) : Text :=
  recordText (msgBuffer locals readings) (lHash crypto locals readings)
    ((outcome crypto locals readings).getD locals.lSig)

theorem displays_signRecord (crypto : Crypto) (locals : Locals) (readings : Readings) :
    ∃ front, Displays front [] ∧ serial (signRecord crypto locals readings) =
      front ++ (iterationText crypto locals readings ++ "\n\n".toList) := by
  rw [iterationText]
  cases signed : outcome crypto locals readings with
  | none =>
      refine ⟨_, displays_of_lines ["Calculating hash... [OK]", "Signing deterministic... ",
        "Signature generated", "[OK]", "", ""] (by decide), ?_⟩
      simp [signRecord, recordText, serial, signed, Action.say, Action.text]
  | some lSig =>
      refine ⟨_, displays_of_lines ["Calculating hash... [OK]", "Signing deterministic... [OK]",
        "", ""] (by decide), ?_⟩
      simp [signRecord, recordText, serial, signed, Action.say, Action.text]

/-- An iteration prints its measurements, its record and two empty lines. -/
theorem displays_iterate (crypto : Crypto) (locals : Locals) (readings : Readings) :
    ∃ front, Displays front (shownLines locals.accData readings.reads) ∧
      serial (iterate crypto locals readings).1 =
        front ++ (iterationText crypto locals readings ++ "\n\n".toList) := by
  obtain ⟨front, silent, printed⟩ := displays_signRecord crypto locals readings
  have measured := (displays_measure locals readings).append silent
  rw [List.append_nil] at measured
  refine ⟨_, measured, ?_⟩
  rw [iterate, serial_append, printed, List.append_assoc]

/-- The line for a sensor shows no readings. -/
theorem displays_sensorLine {name : String} (name_single : '\n' ∉ name.toList) (device : Int)
    (verdict : Text) (verdict_single : '\n' ∉ verdict) :
    Displays ("Initializing".toList ++ ' ' :: ((name.toList ++ " sensor at I2C_".toList ++
      Text.decimal device ++ "... ".toList ++ verdict) ++ ['\n'])) [] :=
  displays_line _ _ (by decide) (by decide)
    (by simp [name_single, Text.newline_not_mem_decimal, verdict_single])
    (by simp [measurementHeads])

theorem displays_initSensors {sensors : List (String × SensorInit)}
    (single : ∀ sensor ∈ sensors, '\n' ∉ sensor.1.toList) :
    Displays (serial (initSensors sensors).1) [] := by
  induction sensors with
  | nil => exact displays_of_lines ["Initializing uECC hashcontext... [OK]"] (by decide)
  | cons sensor sensors induction =>
      obtain ⟨name, device, initialized⟩ := sensor
      have name_single : '\n' ∉ name.toList := single _ List.mem_cons_self
      have later := induction fun other member => single other (List.mem_cons_of_mem _ member)
      cases initialized with
      | true =>
          have line := displays_sensorLine name_single device "[OK]".toList (by decide)
          simpa [initSensors, serial, Action.say, Action.text] using line.append later
      | false =>
          have line := displays_sensorLine name_single device "[Failed]".toList (by decide)
          simpa [initSensors, serial, Action.say, Action.text] using line

theorem displays_initSensors_unsigned {sensors : List (String × SensorInit)}
    (single : ∀ sensor ∈ sensors, '\n' ∉ sensor.1.toList) :
    Displays (serial (Unsigned.initSensors sensors).1) [] := by
  induction sensors with
  | nil => exact displays_blank
  | cons sensor sensors induction =>
      obtain ⟨name, device, initialized⟩ := sensor
      have name_single : '\n' ∉ name.toList := single _ List.mem_cons_self
      have later := induction fun other member => single other (List.mem_cons_of_mem _ member)
      cases initialized with
      | true =>
          have line := displays_sensorLine name_single device "[OK]".toList (by decide)
          have blank := displays_of_lines [""] (by decide)
          simpa [Unsigned.initSensors, serial, Action.say, Action.text] using
            (line.append blank).append later
      | false =>
          have line := displays_sensorLine name_single device "[Failed]".toList (by decide)
          simpa [Unsigned.initSensors, serial, Action.say, Action.text] using line

/-- The sensors in the order of their initialization. -/
def Startup.sensors (startup : Startup) : List (String × SensorInit) :=
  [("LSM303DLHC", startup.lsm303dlhc), ("LPS331AP", startup.lps331ap),
    ("L3G4200", startup.l3g4200d), ("ISL29020", startup.isl29020)]

theorem initSensors_snd (sensors : List (String × SensorInit)) :
    (initSensors sensors).2 = sensors.all fun sensor => sensor.2.initialized := by
  induction sensors with
  | nil => rfl
  | cons sensor sensors induction =>
      obtain ⟨name, device, initialized⟩ := sensor
      cases initialized with
      | true => exact induction
      | false => rfl

theorem initSensors_unsigned_snd (sensors : List (String × SensorInit)) :
    (Unsigned.initSensors sensors).2 = sensors.all fun sensor => sensor.2.initialized := by
  induction sensors with
  | nil => rfl
  | cons sensor sensors induction =>
      obtain ⟨name, device, initialized⟩ := sensor
      cases initialized with
      | true => exact induction
      | false => rfl

theorem Startup.all_sensors (startup : Startup) :
    startup.sensors.all (fun sensor => sensor.2.initialized) = startup.initialized := by
  simp [sensors, initialized, Bool.and_assoc]

/-- Both nodes enter the loop when every sensor is initialized. -/
theorem startUp_snd (startup : Startup) :
    (startUp startup).2 = startup.initialized ∧
      (Unsigned.startUp startup).2 = startup.initialized := by
  rw [← startup.all_sensors]
  exact ⟨initSensors_snd startup.sensors, initSensors_unsigned_snd startup.sensors⟩

theorem single_of_mem_sensors (startup : Startup) :
    ∀ sensor ∈ startup.sensors, '\n' ∉ sensor.1.toList := by
  simp only [Startup.sensors, List.forall_mem_cons]
  decide

theorem displays_startUp (startup : Startup) : Displays (serial (startUp startup).1) [] := by
  have title := displays_of_lines
    ["IoT-Lab M3 node sensors test application - with ecc sign", ""] (by decide)
  have sensors := displays_initSensors (single_of_mem_sensors startup)
  simpa [startUp, Startup.sensors, serial, Action.say, Action.text] using title.append sensors

theorem displays_startUp_unsigned (startup : Startup) :
    Displays (serial (Unsigned.startUp startup).1) [] := by
  have title := displays_of_lines ["IoT-Lab M3 node sensors test application", ""]
    (by decide)
  have sensors := displays_initSensors_unsigned (single_of_mem_sensors startup)
  simpa [Unsigned.startUp, Startup.sensors, serial, Action.say, Action.text] using
    title.append sensors

/-- The log of the node without signatures has no record. -/
theorem displays_main_unsigned (startup : Startup) (accData : Axes)
    (iterations : List Unsigned.Reads) :
    ∃ shown, Displays (serial (Unsigned.main startup accData iterations)) shown := by
  have loop : ∃ shown, Displays (serial ((steps Unsigned.loopNext accData iterations).flatMap
      fun step => (Unsigned.iterate step.1 step.2).1)) shown := by
    induction iterations generalizing accData with
    | nil => exact ⟨[], [], rfl, by simp, rfl⟩
    | cons reads iterations induction =>
        obtain ⟨shown, later⟩ := induction (Unsigned.loopNext accData reads)
        rw [steps_cons, List.flatMap_cons, serial_append]
        exact ⟨_, (displays_iterate_unsigned accData reads).append later⟩
  have front := displays_startUp_unsigned startup
  rw [Unsigned.main]
  dsimp only
  split
  · obtain ⟨shown, later⟩ := loop
    rw [serial_append]
    exact ⟨_, front.append later⟩
  · exact ⟨[], front⟩

end PpmlIot.Sensors

import PpmlIot.Library.Decimal
import PpmlIot.Sensors.Sensors

/-!
# The display of pressure and temperature

Both sensor nodes print a reading in thousandths as its quotient by a thousand, a point and the
remainder.  C's remainder has the sign of the reading, so below zero the sign stands behind the
point, and between minus one and zero it stands nowhere else.
-/

namespace PpmlIot.Sensors

open Library

/-- The line with pressure and temperature, around the texts printed for them. -/
def pressureLine (pres temp : Text) : Action :=
  .print ("Pressure value: ".toList ++ pres ++ " bar - Temperature: ".toList ++ temp ++
    " \u00c2\u00b0C\n".toList)

/-- The line printed shows numerals whose values are the readings divided by a thousand. -/
def DisplaysReadings (pres temp : Int32) (actions : List Action) : Prop :=
  ∃ presText tempText, pressureLine presText tempText ∈ actions ∧
    Decimal.value presText = some (pres.toInt / 1000 : ℚ) ∧
    Decimal.value tempText = some (temp.toInt / 1000 : ℚ)

/-- The remainder has no sign. -/
def Displayable (reading : Int32) : Prop :=
  0 ≤ reading.toInt ∨ (1000 : Int) ∣ reading.toInt

/-- What is printed for a reading. -/
def displayed (reading : Int32) : Text :=
  Decimal.fixedPoint 2 3 (splitThousands reading).1.toInt (splitThousands reading).2.toInt

/-- Below zero the remainder is negative unless the reading is a multiple of a thousand. -/
theorem tmod_thousand_neg_iff (reading : Int32) :
    reading.toInt.tmod 1000 < 0 ↔ ¬ Displayable reading := by
  constructor
  · rintro negative (nonneg | multiple)
    · exact absurd (Int.tmod_nonneg 1000 nonneg) (not_le.mpr negative)
    · rw [Int.tmod_eq_zero_of_dvd multiple] at negative
      exact lt_irrefl 0 negative
  · intro undisplayable
    rw [Displayable, not_or, not_le] at undisplayable
    obtain ⟨below, no_multiple⟩ := undisplayable
    have nonpos : reading.toInt.tmod 1000 ≤ 0 := tmod_nonpos below.le 1000
    have nonzero : reading.toInt.tmod 1000 ≠ 0 :=
      fun zero => no_multiple (Int.dvd_of_tmod_eq_zero zero)
    omega

/-- The text for a reading is its numeral exactly when the remainder carries no sign. -/
theorem value_displayed_iff (reading : Int32) :
    Decimal.value (displayed reading) = some (reading.toInt / 1000 : ℚ) ↔
      Displayable reading := by
  obtain ⟨quotient, remainder⟩ := splitThousands_toInt reading
  rw [displayed, quotient, remainder]
  by_cases displayable : Displayable reading
  · have nonneg : 0 ≤ reading.toInt.tmod 1000 :=
      not_lt.mp fun negative => (tmod_thousand_neg_iff reading).mp negative displayable
    have bounds := tmod_thousand_bounds reading.toInt
    have division : (1000 : ℚ) * reading.toInt.tdiv 1000 + reading.toInt.tmod 1000 =
        reading.toInt := by
      exact_mod_cast Int.mul_tdiv_add_tmod reading.toInt 1000
    rw [Decimal.value_fixedPoint (by decide) nonneg (by simpa using bounds.2)]
    refine iff_of_true (congrArg some ?_) displayable
    split
    · rename_i negative
      have zero : reading.toInt.tmod 1000 = 0 := by
        rcases displayable with above | multiple
        · exact absurd (Int.tdiv_nonneg above (by decide)) (not_le.mpr negative)
        · exact Int.tmod_eq_zero_of_dvd multiple
      rw [← division, zero]
      push_cast
      ring
    · rw [← division]
      ring
  · rw [Decimal.value_fixedPoint_eq_none ((tmod_thousand_neg_iff reading).mpr displayable)]
    exact iff_of_false (fun absent => by cases absent) displayable

theorem displayed_injective {first second : Int32} (same : displayed first = displayed second) :
    first = second := by
  obtain ⟨quotients, remainders⟩ := Decimal.fixedPoint_injective same
  apply Int32.toInt_inj.mp
  rw [← thousands_add first, ← thousands_add second, quotients, remainders]

/-- The lines whose first letter is that of the line with the pressure. -/
def pressure : Action → Option Action
  | .print text => if text.head? = some 'P' then some (.print text) else none
  | _ => none

theorem head_append {text : Text} {c : Char} (first : text.head? = some c) (rest : Text) :
    (text ++ rest).head? = some c := by
  rw [List.head?_append, first, Option.some_or]

theorem pressure_eq_none {text : Text} {c : Char} (first : text.head? = some c) (other : c ≠ 'P')
    (rest : Text) : pressure (.print (text ++ rest)) = none := by
  rw [pressure, head_append first, if_neg]
  simpa using other

theorem pressure_pressureLine (pres temp : Text) :
    pressure (pressureLine pres temp) = some (pressureLine pres temp) := by
  have first : "Pressure value: ".toList.head? = some 'P' := rfl
  simp only [pressureLine, List.append_assoc, pressure, head_append first, if_true]

theorem printPressure_eq (pres temp : Int32) :
    printPressure (splitThousands pres).1 (splitThousands pres).2 (splitThousands temp).1
      (splitThousands temp).2 = pressureLine (displayed pres) (displayed temp) := by
  simp only [printPressure, pressureLine, displayed, Decimal.fixedPoint, List.append_assoc,
    List.cons_append, List.nil_append]

theorem printAxes_pressure {name failure : String} {c : Char}
    (name_first : name.toList.head? = some c) (other : c ≠ 'P')
    (failure_first : failure.toList.head? = some '\n') (read : Option Axes) :
    (printAxes name failure read).filterMap pressure = [] := by
  cases read with
  | none =>
      have silent := pressure_eq_none failure_first (by decide) []
      rw [List.append_nil] at silent
      simp [printAxes, Action.say, silent]
  | some axes =>
      simp only [printAxes, List.append_assoc, List.filterMap_cons,
        pressure_eq_none name_first other, List.filterMap_nil]

theorem printTemp_pressure (read : Option Int16) :
    (printTemp read).filterMap pressure = [] := by
  cases read with
  | none => rfl
  | some tempValue =>
      have first : "Temperature value: ".toList.head? = some 'T' := rfl
      simp only [printTemp, List.append_assoc, List.filterMap_cons,
        pressure_eq_none first (by decide), List.filterMap_nil]

theorem printGyro_pressure (accData : Axes) : pressure (printGyro accData) = none := by
  have first : "Gyro data [dps] - X: ".toList.head? = some 'G' := rfl
  simp only [printGyro, List.append_assoc, pressure_eq_none first (by decide)]

theorem printLight_pressure (value : Int32) : pressure (printLight value) = none := by
  have first : "Light value: ".toList.head? = some 'L' := rfl
  simp only [printLight, List.append_assoc, pressure_eq_none first (by decide)]

/-- Of the texts an iteration prints, one is a line for pressure and temperature. -/
theorem iterate_pressure (accData : Axes) (reads : Unsigned.Reads) :
    (Unsigned.iterate accData reads).1.filterMap pressure =
      [pressureLine (displayed reads.pres) (displayed reads.temp)] := by
  have acc : "Accelerometer".toList.head? = some 'A' := rfl
  have mag : "Magnetometer".toList.head? = some 'M' := rfl
  simp only [Unsigned.iterate, List.filterMap_append]
  rw [printAxes_pressure acc (by decide) rfl, printTemp_pressure,
    printAxes_pressure mag (by decide) rfl, printPressure_eq]
  simp only [List.nil_append, List.filterMap_cons, List.filterMap_nil, pressure_pressureLine,
    printGyro_pressure, printLight_pressure]

theorem signRecord_pressure (crypto : Crypto) (locals : Locals) (readings : Readings) :
    (signRecord crypto locals readings).filterMap pressure = [] := by
  simp only [signRecord]
  cases outcome crypto locals readings <;> rfl

/-- The line of an iteration of either node, cut at the letter behind the first text. -/
theorem pressureLine_mem_iff {actions : List Action} {pres temp : Int32}
    (printed : actions.filterMap pressure = [pressureLine (displayed pres) (displayed temp)])
    {presText tempText : Text} :
    pressureLine presText tempText ∈ actions ↔
      pressureLine presText tempText = pressureLine (displayed pres) (displayed temp) := by
  rw [← List.mem_singleton, ← printed, List.mem_filterMap]
  constructor
  · intro member
    exact ⟨_, member, pressure_pressureLine presText tempText⟩
  · rintro ⟨action, member, found⟩
    cases action with
    | print text =>
        rw [pressure] at found
        split at found
        · rw [← Option.some.inj found]
          exact member
        · cases found
    | _ => cases found

/-- A line around numerals is cut back into them at letters that no numeral has. -/
theorem pressureLine_inj {presText tempText pres temp : Text}
    (pres_numeral : ∀ c ∈ presText, Decimal.isNumeral c = true)
    (temp_numeral : ∀ c ∈ tempText, Decimal.isNumeral c = true)
    (same : pressureLine presText tempText = pressureLine pres temp) :
    presText = pres ∧ tempText = temp := by
  have layout (pres temp : Text) : pressureLine pres temp =
      .print ("Pressure value: ".toList ++ ((pres ++ [' ']) ++ 'b' ::
        ("ar - Temperature: ".toList ++ ((temp ++ [' ']) ++ '\u00c2' :: "\u00b0C\n".toList)))) := by
    simp only [pressureLine, List.append_assoc, List.cons_append, List.nil_append]
    rfl
  have foreign {text : Text} (numeral : ∀ c ∈ text, Decimal.isNumeral c = true) {c : Char}
      (letter : Decimal.isNumeral c = false) : c ∉ text := by
    intro member
    rw [numeral c member] at letter
    cases letter
  have pres_b : 'b' ∉ presText := foreign pres_numeral rfl
  have temp_b : 'b' ∉ tempText := foreign temp_numeral rfl
  have temp_degree : '\u00c2' ∉ tempText := foreign temp_numeral rfl
  rw [layout, layout, Action.print.injEq, List.append_cancel_left_eq] at same
  obtain ⟨pres_eq, -, behind⟩ := (List.append_cons_inj_of_notMem (by simp [pres_b])
    (by simp [temp_b])).mp same
  rw [List.append_cancel_left_eq] at behind
  obtain ⟨temp_eq, -, -⟩ := (List.append_cons_inj_of_notMem (by simp [temp_degree])
    (by simp)).mp behind
  exact ⟨List.append_cancel_right pres_eq, List.append_cancel_right temp_eq⟩

/-- An iteration that prints one such line displays its readings exactly when both remainders carry
no sign. -/
theorem displaysReadings_iff {actions : List Action} {pres temp : Int32}
    (printed : actions.filterMap pressure = [pressureLine (displayed pres) (displayed temp)]) :
    DisplaysReadings pres temp actions ↔ Displayable pres ∧ Displayable temp := by
  rw [← value_displayed_iff, ← value_displayed_iff]
  constructor
  · rintro ⟨presText, tempText, member, pres_value, temp_value⟩
    obtain ⟨rfl, rfl⟩ := pressureLine_inj (Decimal.isNumeral_of_value pres_value)
      (Decimal.isNumeral_of_value temp_value) ((pressureLine_mem_iff printed).mp member)
    exact ⟨pres_value, temp_value⟩
  · rintro ⟨pres_value, temp_value⟩
    exact ⟨_, _, (pressureLine_mem_iff printed).mpr rfl, pres_value, temp_value⟩

theorem iterate_pressure_signed (crypto : Crypto) (locals : Locals) (readings : Readings) :
    (iterate crypto locals readings).1.filterMap pressure =
      [pressureLine (displayed readings.pres) (displayed readings.temp)] := by
  rw [iterate, List.filterMap_append, signRecord_pressure, (measure_eq_iterate locals readings).1,
    iterate_pressure, List.append_nil]
  rfl

/-- A run of either node displays all its readings exactly when no remainder of them carries a sign.
Quotient and remainder are exact for every reading, and different readings print different texts. -/
theorem decimal_display_iff (crypto : Crypto) :
    (∀ (accData : Axes) (iterations : List Unsigned.Reads),
      (∀ step ∈ steps Unsigned.loopNext accData iterations,
        DisplaysReadings step.2.pres step.2.temp (Unsigned.iterate step.1 step.2).1) ↔
        ∀ reads ∈ iterations, Displayable reads.pres ∧ Displayable reads.temp) ∧
    (∀ (locals : Locals) (iterations : List Readings),
      (∀ step ∈ steps (loopNext crypto) locals iterations,
        DisplaysReadings step.2.pres step.2.temp (iterate crypto step.1 step.2).1) ↔
        ∀ readings ∈ iterations, Displayable readings.pres ∧ Displayable readings.temp) ∧
    (∀ first second : Int32, displayed first = displayed second → first = second) ∧
    ∀ reading : Int32, ThousandsExact reading := by
  refine ⟨fun accData iterations => ?_, fun locals iterations => ?_,
    fun first second => displayed_injective, thousandsExact⟩
  · rw [← forall_steps_input_iff accData iterations]
    exact forall_steps_congr fun step => displaysReadings_iff (iterate_pressure step.1 step.2)
  · rw [← forall_steps_input_iff locals iterations]
    exact forall_steps_congr fun step =>
      displaysReadings_iff (iterate_pressure_signed crypto step.1 step.2)

/-- An iteration at half a degree below zero. -/
def frost : Readings :=
  { sensorReadings fun _ _ => some logSignature with temp := -500 }

/-- Half a degree below zero is printed as ` 0.-500`, which is no numeral. -/
theorem frost_not_displayed :
    displayed frost.temp = " 0.-500".toList ∧
    (¬ ∀ step ∈ steps Unsigned.loopNext sensorLocals.accData [frost.reads],
      DisplaysReadings step.2.pres step.2.temp (Unsigned.iterate step.1 step.2).1) ∧
    ¬ ∀ step ∈ steps (loopNext sampleCrypto) sensorLocals [frost],
      DisplaysReadings step.2.pres step.2.temp (iterate sampleCrypto step.1 step.2).1 := by
  have negative : ¬ Displayable frost.temp := by
    rw [Displayable]
    decide
  refine ⟨by decide, fun displays => ?_, fun displays => ?_⟩
  · have frosty := (displaysReadings_iff (iterate_pressure _ _)).mp
      (displays _ List.mem_cons_self)
    exact negative frosty.2
  · have frosty := (displaysReadings_iff (iterate_pressure_signed sampleCrypto _ _)).mp
      (displays _ List.mem_cons_self)
    exact negative frosty.2

end PpmlIot.Sensors

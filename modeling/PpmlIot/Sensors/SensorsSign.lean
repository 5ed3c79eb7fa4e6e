import PpmlIot.Crypto
import PpmlIot.Library.Hex
import PpmlIot.Library.Runs

/-!
# The signing sensor node

`iotlabm3_sensors_sign` reads its sensors in a loop, prints the readings, hashes fifteen words,
signs the digest and prints data, digest and signature.  The variables that hold readings and
signature are declared outside the loop, so a read or a signing that fails leaves the earlier value
in them.
-/

namespace PpmlIot.Sensors

open Library

structure Axes where
  x : Int16
  y : Int16
  z : Int16
  deriving DecidableEq

/-- One sensor at start-up: its I2C device and whether its `init` returns 0. -/
structure SensorInit where
  device : Int
  initialized : Bool

/-- The sensors at start-up, in the order of their initialization. -/
structure Startup where
  lsm303dlhc : SensorInit
  lps331ap : SensorInit
  l3g4200d : SensorInit
  isl29020 : SensorInit

/-- Every sensor is initialized. -/
def Startup.initialized (startup : Startup) : Bool :=
  startup.lsm303dlhc.initialized && startup.lps331ap.initialized &&
    startup.l3g4200d.initialized && startup.isl29020.initialized

/-- What the sensors and the signing primitive answer in one iteration; a failed read is `none`. The
result of `l3g4200d_read` is not looked at. -/
structure Readings where
  accValue : Option Axes
  tempValue : Option Int16
  magValue : Option Axes
  pres : Int32
  temp : Int32
  accData : Option Axes
  value : Int32
  uECCSign : SigningCall

/-- The variables that keep their value from one iteration to the next. -/
structure Locals where
  accValue : Axes
  tempValue : Int16
  magValue : Axes
  accData : Axes
  lSig : Signature

/-- The observable actions of the node. -/
inductive Action
  | print (text : Text)
  | hash (message : List UInt8) (digest : Digest)
  | sign (digest : Digest) (outcome : Option Signature)
  | printData (msgBuffer : List.Vector Int32 15)
  | printHash (lHash : Digest)
  | printSignature (lSig : Signature)
  deriving DecidableEq

def Action.say (text : String) : Action := .print text.toList

/-- A word as `%08X` prints it and as it lies in memory. -/
def wordValue (word : Int32) : Nat := word.toUInt32.toNat

/-- A label, a blank and hexadecimal numbers, each followed by a blank. -/
def hexLine (label : String) (width : Nat) (values : List Nat) : Text :=
  label.toList ++ ' ' :: (Hex.spaced width values ++ ['\n'])

def Action.text : Action → Text
  | .print text => text
  | .printData msgBuffer => hexLine "Data:" 8 (msgBuffer.toList.map wordValue)
  | .printHash lHash => hexLine "Hash:" 2 (lHash.toList.map UInt8.toNat)
  | .printSignature lSig => hexLine "Signature:" 2 (lSig.toList.map UInt8.toNat)
  | .hash _ _ => []
  | .sign _ _ => []

/-- Initialize the sensors in order; the first failure ends the program. -/
def initSensors : List (String × SensorInit) → List Action × Bool
  | [] => ([.say "Initializing uECC hashcontext... ", .say "[OK]\n"], true)
  | (name, sensor) :: rest =>
      let line : Action :=
        .print ("Initializing ".toList ++ name.toList ++ " sensor at I2C_".toList ++
          Text.decimal sensor.device ++ "... ".toList)
      if sensor.initialized then
        let (later, success) := initSensors rest
        (line :: .say "[OK]\n" :: later, success)
      else
        ([line, .say "[Failed]\n"], false)

/-- The part of `main` before the loop, and whether the loop is entered. -/
def startUp (startup : Startup) : List Action × Bool :=
  let (actions, success) := initSensors
    [("LSM303DLHC", startup.lsm303dlhc), ("LPS331AP", startup.lps331ap),
      ("L3G4200", startup.l3g4200d), ("ISL29020", startup.isl29020)]
  (.say "IoT-Lab M3 node sensors test application - with ecc sign\n\n" :: actions, success)

def conversion (value : Int16) : Text := Text.decimal value.toInt

/-- The line for an accelerometer or magnetometer, or the text for its failure. -/
def printAxes (name failure : String) : Option Axes → List Action
  | some axes =>
      [.print (name.toList ++ " x: ".toList ++ conversion axes.x ++ " y: ".toList ++
        conversion axes.y ++ " z: ".toList ++ conversion axes.z ++ ['\n'])]
  | none => [.say failure]

/-- The line for the temperature of the accelerometer, or the text for its failure. -/
def printTemp : Option Int16 → List Action
  | some tempValue =>
      [.print ("Temperature value: ".toList ++ conversion tempValue ++ " degrees\n".toList)]
  | none => [.say "\nFailed reading value\n\n"]

/-- Thousands of a reading and the rest, by C's division. -/
def splitThousands (reading : Int32) : Int32 × Int32 :=
  let whole := reading / 1000
  (whole, reading - whole * 1000)

def printPressure (presAbs pres tempAbs temp : Int32) : Action :=
  .print ("Pressure value: ".toList ++ Text.decimalWidth 2 presAbs.toInt ++ ['.'] ++
    Text.decimalZeros 3 pres.toInt ++ " bar - Temperature: ".toList ++
    Text.decimalWidth 2 tempAbs.toInt ++ ['.'] ++ Text.decimalZeros 3 temp.toInt ++
    " \u00c2\u00b0C\n".toList)

def printGyro (accData : Axes) : Action :=
  .print ("Gyro data [dps] - X: ".toList ++ Text.decimalWidth 6 accData.x.toInt ++
    "   Y: ".toList ++ Text.decimalWidth 6 accData.y.toInt ++ "   Z: ".toList ++
    Text.decimalWidth 6 accData.z.toInt ++ ['\n'])

def printLight (value : Int32) : Action :=
  .print ("Light value: ".toList ++ Text.decimalWidth 5 value.toInt ++ " LUX\n".toList)

/-- The fifteen words that are signed. -/
def fillMsgBuffer (accValue : Axes) (tempValue : Int16) (magValue : Axes)
    (pres temp : Int32) (accData : Axes) (value : Int32) : List.Vector Int32 15 :=
  let (presAbs, presRest) := splitThousands pres
  let (tempAbs, tempRest) := splitThousands temp
  ⟨[accValue.x.toInt32, accValue.y.toInt32, accValue.z.toInt32, tempValue.toInt32,
    magValue.x.toInt32, magValue.y.toInt32, magValue.z.toInt32, presAbs, presRest, tempAbs,
    tempRest, accData.x.toInt32, accData.y.toInt32, accData.z.toInt32, value], rfl⟩

def memoryBytes (msgBuffer : List.Vector Int32 15) : List UInt8 :=
  msgBuffer.toList.flatMap fun word => Hex.bytesLE 4 (wordValue word)

/-- The first half of the loop's body: read the sensors and print what they deliver. -/
def measure (locals : Locals) (readings : Readings) : List Action × Locals :=
  let (presAbs, pres) := splitThousands readings.pres
  let (tempAbs, temp) := splitThousands readings.temp
  let accData := readings.accData.getD locals.accData
  (printAxes "Accelerometer" "\nFailed reading accelerometer values\n\n" readings.accValue ++
      printTemp readings.tempValue ++
      printAxes "Magnetometer" "\nFailed reading magnetometer values\n\n" readings.magValue ++
      [printPressure presAbs pres tempAbs temp, printGyro accData, printLight readings.value],
    { locals with
      accValue := readings.accValue.getD locals.accValue
      tempValue := readings.tempValue.getD locals.tempValue
      magValue := readings.magValue.getD locals.magValue
      accData })

def msgBuffer (locals : Locals) (readings : Readings) : List.Vector Int32 15 :=
  let (_, measured) := measure locals readings
  fillMsgBuffer measured.accValue measured.tempValue measured.magValue readings.pres readings.temp
    measured.accData readings.value

def lHash (crypto : Crypto) (locals : Locals) (readings : Readings) : Digest :=
  finishSha256 crypto
    (updateSha256 initSha256 (memoryBytes (msgBuffer locals readings)) (15 * 4))

/-- What the signing primitive answers in an iteration. -/
def outcome (crypto : Crypto) (locals : Locals) (readings : Readings) : Option Signature :=
  readings.uECCSign lPrivate1 (lHash crypto locals readings)

/-- The second half of the loop's body: hash, sign and print the record. -/
def signRecord (crypto : Crypto) (locals : Locals) (readings : Readings) : List Action :=
  let message := msgBuffer locals readings
  let digest := lHash crypto locals readings
  let signed := outcome crypto locals readings
  [.say "Calculating hash... ", .hash (memoryBytes message) digest, .say "[OK]\n",
      .say "Signing deterministic... ", .sign digest signed] ++
    (if signed.isNone then [.say "\nSignature generated\n"] else []) ++
    [.say "[OK]\n", .say "\n\n", .printData message, .printHash digest,
      .printSignature (signed.getD locals.lSig), .say "\n\n"]

/-- The body of the loop. -/
def iterate (crypto : Crypto) (locals : Locals) (readings : Readings) :
    List Action × Locals :=
  let (actions, measured) := measure locals readings
  (actions ++ signRecord crypto locals readings,
    { measured with lSig := (outcome crypto locals readings).getD locals.lSig })

def loopNext (crypto : Crypto) (locals : Locals) (readings : Readings) : Locals :=
  (iterate crypto locals readings).2

/-- What the program does through some iterations. -/
def main (crypto : Crypto) (startup : Startup) (locals : Locals)
    (iterations : List Readings) : List Action :=
  let (actions, success) := startUp startup
  if success then
    actions ++ (steps (loopNext crypto) locals iterations).flatMap fun step =>
      (iterate crypto step.1 step.2).1
  else
    actions

def serialText (crypto : Crypto) (startup : Startup) (locals : Locals)
    (iterations : List Readings) : Text :=
  (main crypto startup locals iterations).flatMap Action.text

theorem length_memoryBytes (msgBuffer : List.Vector Int32 15) :
    (memoryBytes msgBuffer).length = 15 * 4 := by
  have length : msgBuffer.toList.length = 15 := msgBuffer.toList_length
  simp [memoryBytes, List.length_flatMap, Hex.length_bytesLE, length]

/-- The digest is that of the whole record. -/
theorem lHash_eq (crypto : Crypto) (locals : Locals) (readings : Readings) :
    lHash crypto locals readings = crypto.sha256 (memoryBytes (msgBuffer locals readings)) := by
  rw [lHash, updateSha256, initSha256, finishSha256, List.nil_append,
    List.take_of_length_le (length_memoryBytes _).le]

theorem outcome_eq (crypto : Crypto) (locals : Locals) (readings : Readings) :
    outcome crypto locals readings =
      readings.uECCSign lPrivate1
        (crypto.sha256 (memoryBytes (msgBuffer locals readings))) := by
  rw [outcome, lHash_eq]

/-- The computation of quotient and remainder is exact in 32 bits. -/
structure ThousandsExact (reading : Int32) : Prop where
  quotient : (reading / 1000).toInt = reading.toInt.tdiv 1000
  product : (reading / 1000 * 1000).toInt = (reading / 1000).toInt * 1000
  remainder : (reading - reading / 1000 * 1000).toInt =
    reading.toInt - (reading / 1000 * 1000).toInt

/-- C's remainder lies strictly between minus a thousand and a thousand. -/
theorem tmod_thousand_bounds (number : Int) :
    -1000 < number.tmod 1000 ∧ number.tmod 1000 < 1000 :=
  ⟨Int.lt_tmod_of_pos _ (by decide), Int.tmod_lt_of_pos _ (by decide)⟩

/-- C's remainder has the sign of the number divided. -/
theorem tmod_nonpos {number : Int} (nonpos : number ≤ 0) (divisor : Int) :
    number.tmod divisor ≤ 0 := by
  have opposite := Int.tmod_nonneg divisor (Int.neg_nonneg.mpr nonpos)
  rw [Int.neg_tmod] at opposite
  omega

theorem thousandsExact (reading : Int32) : ThousandsExact reading := by
  have lower := reading.le_toInt
  have upper := reading.toInt_lt
  have thousand : (1000 : Int32).toInt = 1000 := rfl
  have bounds := tmod_thousand_bounds reading.toInt
  have division := Int.mul_tdiv_add_tmod reading.toInt 1000
  have quotient : (reading / 1000).toInt = reading.toInt.tdiv 1000 := by
    rw [Int32.toInt_div_of_ne_right _ _ (by decide), thousand]
  have product : (reading / 1000 * 1000).toInt = (reading / 1000).toInt * 1000 := by
    rw [Int32.toInt_mul, quotient, thousand]
    rcases le_total 0 reading.toInt with nonneg | nonpos
    · have rest := Int.tmod_nonneg 1000 nonneg
      rw [Int.bmod_eq_of_le_mul_two] <;> omega
    · have rest := tmod_nonpos nonpos 1000
      rw [Int.bmod_eq_of_le_mul_two] <;> omega
  refine ⟨quotient, product, ?_⟩
  rw [Int32.toInt_sub, product, quotient]
  rw [Int.bmod_eq_of_le_mul_two] <;> omega

/-- The split of a reading is C's quotient and remainder. -/
theorem splitThousands_toInt (reading : Int32) :
    (splitThousands reading).1.toInt = reading.toInt.tdiv 1000 ∧
      (splitThousands reading).2.toInt = reading.toInt.tmod 1000 := by
  obtain ⟨quotient, product, remainder⟩ := thousandsExact reading
  refine ⟨quotient, ?_⟩
  rw [splitThousands, remainder, product, quotient, Int.tmod_def, Int.mul_comm]

theorem thousands_add (reading : Int32) :
    1000 * (splitThousands reading).1.toInt + (splitThousands reading).2.toInt =
      reading.toInt := by
  obtain ⟨whole, remainder⟩ := splitThousands_toInt reading
  rw [whole, remainder]
  exact Int.mul_tdiv_add_tmod reading.toInt 1000

def signingCall : Action → Option (Digest × Option Signature)
  | .sign digest outcome => some (digest, outcome)
  | _ => none

section Observations

variable {β : Type*} {pick : Action → Option β}

theorem measure_filterMap (unprinted : ∀ text, pick (.print text) = none) (locals : Locals)
    (readings : Readings) : (measure locals readings).1.filterMap pick = [] := by
  have axes (name failure : String) (read : Option Axes) :
      (printAxes name failure read).filterMap pick = [] := by
    cases read <;> simp [printAxes, Action.say, unprinted]
  have temp : (printTemp readings.tempValue).filterMap pick = [] := by
    cases readings.tempValue <;> simp [printTemp, Action.say, unprinted]
  simp [measure, axes, temp, printPressure, printGyro, printLight, unprinted]

/-- Apart from what it prints for a human reader, an iteration hashes, signs and prints a record. -/
theorem iterate_filterMap (unprinted : ∀ text, pick (.print text) = none) (crypto : Crypto)
    (locals : Locals) (readings : Readings) :
    (iterate crypto locals readings).1.filterMap pick =
      [Action.hash (memoryBytes (msgBuffer locals readings)) (lHash crypto locals readings),
        .sign (lHash crypto locals readings) (outcome crypto locals readings),
        .printData (msgBuffer locals readings), .printHash (lHash crypto locals readings),
        .printSignature ((outcome crypto locals readings).getD locals.lSig)].filterMap pick := by
  rw [iterate, List.filterMap_append, measure_filterMap unprinted, List.nil_append, signRecord]
  cases outcome crypto locals readings <;>
    simp [List.filterMap_cons, Action.say, unprinted]

end Observations

end PpmlIot.Sensors

namespace PpmlIot

/-- An iteration of the sensor node with a given behaviour of the signing primitive. -/
def sensorReadings (uECCSign : SigningCall) : Sensors.Readings where
  accValue := some ⟨152, 344, -1328⟩
  tempValue := some 2240
  magValue := some ⟨-69, 106, 91⟩
  pres := 985
  temp := 38383
  accData := some ⟨0, 0, 0⟩
  value := 0
  uECCSign := uECCSign

def sensorLocals : Sensors.Locals where
  accValue := ⟨0, 0, 0⟩
  tempValue := 0
  magValue := ⟨0, 0, 0⟩
  accData := ⟨0, 0, 0⟩
  lSig := List.Vector.replicate 64 0

end PpmlIot

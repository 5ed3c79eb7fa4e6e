import PpmlIot.Sensors.SensorsSign

/-!
# The sensor node without signatures

`iotlabm3_sensors` is the loop of `iotlabm3_sensors_sign` up to the record: it reads the sensors and
prints the readings.  Of its variables the one of the gyroscope is printed without a look at the
read, so its value is kept from one iteration to the next.
-/

namespace PpmlIot.Sensors.Unsigned

open Library

/-- What the sensors answer in one iteration; a failed read is `none`. -/
structure Reads where
  accValue : Option Axes
  tempValue : Option Int16
  magValue : Option Axes
  pres : Int32
  temp : Int32
  accData : Option Axes
  value : Int32

/-- Initialize the sensors in order; the first failure ends the program. -/
def initSensors : List (String × SensorInit) → List Action × Bool
  | [] => ([.say "\n\n"], true)
  | (name, sensor) :: rest =>
      let line : Action :=
        .print ("Initializing ".toList ++ name.toList ++ " sensor at I2C_".toList ++
          Text.decimal sensor.device ++ "... ".toList)
      if sensor.initialized then
        let (later, success) := initSensors rest
        (line :: .say "[OK]\n\n" :: later, success)
      else
        ([line, .say "[Failed]\n"], false)

def startUp (startup : Startup) : List Action × Bool :=
  let (actions, success) := initSensors
    [("LSM303DLHC", startup.lsm303dlhc), ("LPS331AP", startup.lps331ap),
      ("L3G4200", startup.l3g4200d), ("ISL29020", startup.isl29020)]
  (.say "IoT-Lab M3 node sensors test application\n\n" :: actions, success)

/-- The body of the loop, with the gyroscope's variable before and after it. -/
def iterate (accData : Axes) (reads : Reads) : List Action × Axes :=
  let (presAbs, pres) := splitThousands reads.pres
  let (tempAbs, temp) := splitThousands reads.temp
  let accData := reads.accData.getD accData
  (printAxes "Accelerometer" "\nFailed reading accelerometer values\n\n" reads.accValue ++
      printTemp reads.tempValue ++
      printAxes "Magnetometer" "\nFailed reading magnetometer values\n\n" reads.magValue ++
      [printPressure presAbs pres tempAbs temp, printGyro accData, printLight reads.value],
    accData)

def loopNext (accData : Axes) (reads : Reads) : Axes :=
  (iterate accData reads).2

/-- What the program does through some iterations. -/
def main (startup : Startup) (accData : Axes) (iterations : List Reads) : List Action :=
  let (actions, success) := startUp startup
  if success then
    actions ++ (steps loopNext accData iterations).flatMap fun step => (iterate step.1 step.2).1
  else
    actions

end PpmlIot.Sensors.Unsigned

namespace PpmlIot.Sensors

/-- The sensors' part of what an iteration of the signing node receives. -/
def Readings.reads (readings : Readings) : Unsigned.Reads where
  accValue := readings.accValue
  tempValue := readings.tempValue
  magValue := readings.magValue
  pres := readings.pres
  temp := readings.temp
  accData := readings.accData
  value := readings.value

/-- The signing node measures and prints as the other node does. -/
theorem measure_eq_iterate (locals : Locals) (readings : Readings) :
    (measure locals readings).1 = (Unsigned.iterate locals.accData readings.reads).1 ∧
      (measure locals readings).2.accData =
        (Unsigned.iterate locals.accData readings.reads).2 :=
  ⟨rfl, rfl⟩

end PpmlIot.Sensors

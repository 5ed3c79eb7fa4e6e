import PpmlIot.Sensors.SensorsSign

/-!
# Freshness of the signed readings

The sensor node signs a record in every iteration, whatever became of its reads.  The words of a
sensor whose read fails are those of its latest successful read, or of the uninitialised variable,
and the answer of a driver that returns its reading is signed even when it reports an error.
-/

namespace PpmlIot.Sensors

open Library

/-- The answers by which the drivers that return their reading report a failed read. -/
structure ReadErrors where
  pres : Int32 → Bool
  temp : Int32 → Bool
  value : Int32 → Bool

/-- Every sensor read of an iteration succeeds. -/
structure AllRead (errors : ReadErrors) (readings : Readings) : Prop where
  accValue : readings.accValue.isSome
  tempValue : readings.tempValue.isSome
  magValue : readings.magValue.isSome
  pres : errors.pres readings.pres = false
  temp : errors.temp readings.temp = false
  accData : readings.accData.isSome
  value : errors.value readings.value = false

def returned (error : Int32 → Bool) (answer : Int32) : Option Int32 :=
  if error answer then none else some answer

def axesWords (read : Option Axes) : List (Option Int32) :=
  [read.map fun axes => axes.x.toInt32, read.map fun axes => axes.y.toInt32,
    read.map fun axes => axes.z.toInt32]

def thousandsWords (read : Option Int32) : List (Option Int32) :=
  [read.map fun reading => (splitThousands reading).1,
    read.map fun reading => (splitThousands reading).2]

/-- For each word of a record, what the reads of an iteration deliver for it. -/
def deliveredWords (errors : ReadErrors) (readings : Readings) : List (Option Int32) :=
  axesWords readings.accValue ++ [readings.tempValue.map Int16.toInt32] ++
    axesWords readings.magValue ++ thousandsWords (returned errors.pres readings.pres) ++
    thousandsWords (returned errors.temp readings.temp) ++ axesWords readings.accData ++
    [returned errors.value readings.value]

/-- A message is hashed with SHA-256 and its digest is signed. -/
def Signs (crypto : Crypto) (actions : List Action) (message : List UInt8) : Prop :=
  .hash message (crypto.sha256 message) ∈ actions ∧
    ∃ outcome, .sign (crypto.sha256 message) outcome ∈ actions

/-- Every signed message is a record whose words successful reads of the iteration delivered. -/
def SignsFresh (crypto : Crypto) (errors : ReadErrors) (readings : Readings)
    (actions : List Action) : Prop :=
  ∀ message, Signs crypto actions message → ∃ record : List.Vector Int32 15,
    message = memoryBytes record ∧ record.toList.map some = deliveredWords errors readings

def hashed : Action → Option (List UInt8 × Digest)
  | .hash message digest => some (message, digest)
  | _ => none

/-- An iteration signs its record, and nothing else. -/
theorem signs_iterate_iff (crypto : Crypto) (locals : Locals) (readings : Readings)
    (message : List UInt8) :
    Signs crypto (iterate crypto locals readings).1 message ↔
      message = memoryBytes (msgBuffer locals readings) := by
  have hashes : (iterate crypto locals readings).1.filterMap hashed =
      [(memoryBytes (msgBuffer locals readings), lHash crypto locals readings)] :=
    iterate_filterMap (fun _ => rfl) crypto locals readings
  have signs : (iterate crypto locals readings).1.filterMap signingCall =
      [(lHash crypto locals readings, outcome crypto locals readings)] :=
    iterate_filterMap (fun _ => rfl) crypto locals readings
  constructor
  · rintro ⟨hash, -⟩
    have member := List.mem_filterMap.mpr ⟨_, hash, show hashed _ = some _ from rfl⟩
    rw [hashes, List.mem_singleton] at member
    exact congrArg Prod.fst member
  · rintro rfl
    rw [lHash_eq] at hashes signs
    obtain ⟨hash, hash_mem, hash_eq⟩ :=
      List.mem_filterMap.mp (hashes ▸ List.mem_singleton_self _)
    obtain ⟨sign, sign_mem, sign_eq⟩ :=
      List.mem_filterMap.mp (signs ▸ List.mem_singleton_self _)
    refine ⟨?_, outcome crypto locals readings, ?_⟩
    · cases hash <;> cases hash_eq
      exact hash_mem
    · cases sign <;> cases sign_eq
      exact sign_mem

/-- Every word is delivered exactly when every read succeeds. -/
theorem none_not_mem_deliveredWords {errors : ReadErrors} {readings : Readings} :
    none ∉ deliveredWords errors readings ↔ AllRead errors readings := by
  have axes (read : Option Axes) : none ∉ axesWords read ↔ read.isSome := by
    cases read <;> simp [axesWords]
  have thousands (error : Int32 → Bool) (answer : Int32) :
      none ∉ thousandsWords (returned error answer) ↔ error answer = false := by
    cases found : error answer <;> simp [thousandsWords, returned, found]
  have word (error : Int32 → Bool) (answer : Int32) :
      none ∉ [returned error answer] ↔ error answer = false := by
    cases found : error answer <;> simp [returned, found]
  have temperature (read : Option Int16) :
      none ∉ [read.map Int16.toInt32] ↔ read.isSome := by
    cases read <;> simp
  simp only [deliveredWords, List.mem_append, not_or, axes, thousands, word, temperature, and_assoc]
  constructor
  · rintro ⟨accValue, tempValue, magValue, pres, temp, accData, value⟩
    exact ⟨accValue, tempValue, magValue, pres, temp, accData, value⟩
  · rintro ⟨accValue, tempValue, magValue, pres, temp, accData, value⟩
    exact ⟨accValue, tempValue, magValue, pres, temp, accData, value⟩

/-- When every read succeeds, the record holds what the reads deliver. -/
theorem msgBuffer_of_allRead {errors : ReadErrors} {readings : Readings}
    (allRead : AllRead errors readings) (locals : Locals) :
    (msgBuffer locals readings).toList.map some = deliveredWords errors readings := by
  obtain ⟨accValue, acc⟩ := Option.isSome_iff_exists.mp allRead.accValue
  obtain ⟨tempValue, temperature⟩ := Option.isSome_iff_exists.mp allRead.tempValue
  obtain ⟨magValue, mag⟩ := Option.isSome_iff_exists.mp allRead.magValue
  obtain ⟨accData, gyro⟩ := Option.isSome_iff_exists.mp allRead.accData
  simp [deliveredWords, axesWords, thousandsWords, returned, msgBuffer, measure, fillMsgBuffer,
    List.Vector.toList_mk, acc, temperature, mag, gyro, allRead.pres, allRead.temp, allRead.value]

theorem signsFresh_iterate_iff (crypto : Crypto) (errors : ReadErrors) (locals : Locals)
    (readings : Readings) :
    SignsFresh crypto errors readings (iterate crypto locals readings).1 ↔
      AllRead errors readings := by
  constructor
  · intro fresh
    obtain ⟨record, -, words⟩ :=
      fresh _ ((signs_iterate_iff crypto locals readings _).mpr rfl)
    rw [← none_not_mem_deliveredWords, ← words]
    simp
  · intro allRead message signs
    rw [signs_iterate_iff] at signs
    exact ⟨msgBuffer locals readings, signs, msgBuffer_of_allRead allRead locals⟩

/-- What a variable holds after some reads: the latest delivered value, or the initial one. -/
def latest {α : Type} (initial : α) (reads : List (Option α)) : α :=
  reads.foldl (fun held read => read.getD held) initial

/-- The record of an iteration holds the latest readings delivered up to it, however old. -/
theorem msgBuffer_latest (crypto : Crypto) (locals : Locals) (earlier : List Readings)
    (readings : Readings) :
    msgBuffer (earlier.foldl (loopNext crypto) locals) readings =
      fillMsgBuffer (latest locals.accValue ((earlier ++ [readings]).map Readings.accValue))
        (latest locals.tempValue ((earlier ++ [readings]).map Readings.tempValue))
        (latest locals.magValue ((earlier ++ [readings]).map Readings.magValue))
        readings.pres readings.temp
        (latest locals.accData ((earlier ++ [readings]).map Readings.accData))
        readings.value := by
  induction earlier generalizing locals with
  | nil => rfl
  | cons first earlier induction => exact induction (loopNext crypto locals first)

/-- A run signs fresh readings only, exactly when every sensor read of the run succeeds. -/
theorem fresh_records_iff (crypto : Crypto) (errors : ReadErrors) (locals : Locals)
    (iterations : List Readings) :
    (∀ step ∈ steps (loopNext crypto) locals iterations,
      SignsFresh crypto errors step.2 (iterate crypto step.1 step.2).1) ↔
      ∀ readings ∈ iterations, AllRead errors readings := by
  rw [← forall_steps_input_iff locals iterations]
  exact forall_steps_congr fun step => signsFresh_iterate_iff crypto errors step.1 step.2

/-- Drivers that never report an error. -/
def noErrors : ReadErrors := ⟨fun _ => false, fun _ => false, fun _ => false⟩

/-- An iteration in which the accelerometer cannot be read. -/
def accUnread : Readings :=
  { sensorReadings fun _ _ => some logSignature with accValue := none }

/-- The second record repeats the accelerometer's values of the first. -/
theorem stale_record_signed :
    (¬ ∀ step ∈ steps (loopNext sampleCrypto) sensorLocals
        [sensorReadings fun _ _ => some logSignature, accUnread],
      SignsFresh sampleCrypto noErrors step.2 (iterate sampleCrypto step.1 step.2).1) ∧
    (msgBuffer (loopNext sampleCrypto sensorLocals
      (sensorReadings fun _ _ => some logSignature)) accUnread).toList.take 3 =
        [152, 344, -1328] := by
  refine ⟨fun fresh => ?_, rfl⟩
  have second := fresh _ (List.mem_cons_of_mem _ List.mem_cons_self)
  rw [signsFresh_iterate_iff] at second
  exact absurd second.accValue (by decide)

end PpmlIot.Sensors

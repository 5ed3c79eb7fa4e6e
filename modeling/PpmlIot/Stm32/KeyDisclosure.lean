import PpmlIot.Stm32.LineFormat

/-!
# What the serial line discloses

Two runs of the node that differ in the private key only.  The loop is a machine driven by the
outcomes of the signing calls: neither its state nor its lines depend on the key in any other way.
Start-up prints the key, so two runs with the same outcomes write the same text exactly when the two
keys are printed alike.
-/

namespace PpmlIot.Stm32

open Library

abbrev PrivateKey := List.Vector UInt8 32

/-- `mpiReadRaw` reads 32 bytes as a number, most significant byte first. -/
def ReadsRaw (mpiReadRaw : List UInt8 → Mpi) : Prop :=
  ∀ key : PrivateKey, (mpiReadRaw key.toList).value = Hex.ofBytesBE key.toList

/-- The same start-up with another key in the receive buffer. -/
def Startup.withKey (startup : Startup) (key : PrivateKey) : Startup :=
  { startup with buffer := key.toList ++ startup.buffer.drop 32 }

def signingOutcome : Action → Option (Option EcdsaSignature)
  | .sign _ outcome => some outcome
  | _ => none

/-- The results of the signing calls of a run. -/
def outcomes (actions : List Action) : List (Option EcdsaSignature) :=
  actions.filterMap signingOutcome

/-- The non-zero ones of a key's eight 32-bit words, from the top. -/
def keyWords (key : PrivateKey) : List Nat :=
  (Hex.words 4 8 key.toList).filter (· ≠ 0)

/-- Two runs with the same outcomes of the signing calls write the same text, whatever the keys. -/
def HidesKey (crypto : Crypto) (startup : Startup) : Prop :=
  ∀ (first second : PrivateKey) (firstSignings secondSignings : List GenerateSignature),
    outcomes (main crypto (startup.withKey first) firstSignings) =
        outcomes (main crypto (startup.withKey second) secondSignings) →
      serialText (main crypto (startup.withKey first) firstSignings) =
        serialText (main crypto (startup.withKey second) secondSignings)

/-- The loop as a machine driven by the outcomes of the signing calls. -/
def publicNext (state : LoopState) (outcome : Option EcdsaSignature) : LoopState where
  message := sprintf state.message state.genericCounter
  genericCounter := state.genericCounter + 1
  signature := outcome.getD state.signature

def publicLine (crypto : Crypto) (state : LoopState) (outcome : Option EcdsaSignature) : Text :=
  line state.genericCounter
    (crypto.sha256 ((sprintf state.message state.genericCounter).slice 0 128))
    (outcome.getD state.signature)

/-- What the loop does from a state on. -/
def loop (crypto : Crypto) (privateKey : Mpi) (state : LoopState)
    (signings : List GenerateSignature) : List Action :=
  (steps (loopNext crypto privateKey) state signings).flatMap fun step =>
    (iterate crypto privateKey step.1 step.2).1

/-- The loop writes what the machine without the key writes for the same outcomes. -/
theorem serialText_loop (crypto : Crypto) (privateKey : Mpi) (state : LoopState)
    (signings : List GenerateSignature) :
    serialText (loop crypto privateKey state signings) =
      (steps publicNext state (outcomes (loop crypto privateKey state signings))).flatMap
        fun step => publicLine crypto step.1 step.2 := by
  induction signings generalizing state with
  | nil => rfl
  | cons sign signings induction =>
      let digest := crypto.sha256 ((sprintf state.message state.genericCounter).slice 0 128)
      let outcome := sign privateKey digest
      have unrolled : loop crypto privateKey state (sign :: signings) =
          (iterate crypto privateKey state sign).1 ++
            loop crypto privateKey (publicNext state outcome) signings := rfl
      have called : outcomes (iterate crypto privateKey state sign).1 = [outcome] := rfl
      have written : serialText (iterate crypto privateKey state sign).1 =
          publicLine crypto state outcome :=
        text_iterate crypto privateKey state sign
      have later := induction (publicNext state outcome)
      simp only [serialText, outcomes] at later called written ⊢
      rw [unrolled, List.flatMap_append, List.filterMap_append, called, written, later,
        List.singleton_append, steps_cons, List.flatMap_cons]

theorem outcomes_main (crypto : Crypto) (startup : Startup) (signings : List GenerateSignature) :
    outcomes (main crypto startup signings) =
      outcomes (loop crypto startup.privateKey reset signings) := by
  have quiet : outcomes (startUp startup) = [] := by
    cases h : startup.yarrowInit <;> cases h' : startup.yarrowSeed <;>
      simp [outcomes, startUp, signingOutcome, h, h']
  simp only [outcomes] at quiet ⊢
  rw [main, List.filterMap_append, quiet, List.nil_append, loop]

/-- The whole text of a run: the welcome, the key, and the lines that its outcomes determine. -/
theorem serialText_main (crypto : Crypto) (startup : Startup)
    (signings : List GenerateSignature) :
    serialText (main crypto startup signings) =
      "STM32L432 Nucleo\r\nECDSA PhD\r\n\r\n".toList ++ (printMpi startup.privateKey ++
        ("Initialization Done\r\n".toList ++
          (steps publicNext reset (outcomes (main crypto startup signings))).flatMap
            fun step => publicLine crypto step.1 step.2)) := by
  have initial : serialText (startUp startup) =
      "STM32L432 Nucleo\r\nECDSA PhD\r\n\r\n".toList ++ (printMpi startup.privateKey ++
        "Initialization Done\r\n".toList) := by
    cases h : startup.yarrowInit <;> cases h' : startup.yarrowSeed <;>
      simp [serialText, startUp, Action.text, h, h']
  have looped := serialText_loop crypto startup.privateKey reset signings
  rw [← outcomes_main] at looped
  simp only [serialText] at initial looped ⊢
  rw [← looped, main, List.flatMap_append, initial, loop]
  simp only [List.append_assoc]

/-- Equal numbers are printed alike, however many words they are stored in. -/
theorem printedWords_eq_of_value {a : Mpi} {digits : List Nat}
    (small : ∀ digit ∈ digits, digit < 2 ^ 32) (value : a.value = Nat.ofDigits (2 ^ 32) digits) :
    printedWords a = (digits.filter (· ≠ 0)).reverse := by
  have stored : ∀ word ∈ a.data.map UInt32.toNat, word < 2 ^ 32 := by
    intro word member
    obtain ⟨w, -, rfl⟩ := List.mem_map.mp member
    exact w.toNat_lt
  have words : (a.data.filter (· ≠ 0)).map UInt32.toNat =
      (a.data.map UInt32.toNat).filter (· ≠ 0) := by
    rw [List.filter_map]
    congr 2
    funext w
    simp [← UInt32.toNat_inj]
  rw [Mpi.value] at value
  rw [printedWords, List.filter_reverse, List.map_reverse, words,
    ← Hex.filter_digits_ofDigits (by decide) stored, value,
    Hex.filter_digits_ofDigits (by decide) small]

/-- The words printed at start-up are the non-zero words of the key. -/
theorem printedWords_privateKey {startup : Startup} (reads : ReadsRaw startup.mpiReadRaw)
    (key : PrivateKey) : printedWords (startup.withKey key).privateKey = keyWords key := by
  have length : key.toList.length = 4 * 8 := key.toList_length
  have received : (startup.withKey key).privateKey = startup.mpiReadRaw key.toList := by
    rw [Startup.privateKey, Startup.withKey, List.take_left' length]
  have value := reads key
  rw [Hex.ofBytesBE_eq_ofDigits length] at value
  rw [received, printedWords_eq_of_value ?_ value, List.filter_reverse, List.reverse_reverse,
    keyWords]
  intro word member
  exact Hex.words_lt (List.mem_reverse.mp member)

theorem printMpi_eq_iff {a b : Mpi} :
    printMpi a = printMpi b ↔ printedWords a = printedWords b := by
  have fits (a : Mpi) : ∀ word ∈ printedWords a, word < 16 ^ (2 * 4) := by
    intro word member
    obtain ⟨w, -, rfl⟩ := List.mem_map.mp member
    exact w.toNat_lt
  rw [printMpi_eq, printMpi_eq]
  exact ⟨Hex.flatMap_fixed_injective (by decide) (fits a) (fits b), fun equal => by rw [equal]⟩

/-- With the same outcomes, the runs of two keys write the same text exactly when the keys have the
same non-zero words in the same order. -/
theorem key_disclosure_iff (crypto : Crypto) (startup : Startup)
    (reads : ReadsRaw startup.mpiReadRaw) (first second : PrivateKey)
    (firstSignings secondSignings : List GenerateSignature)
    (same : outcomes (main crypto (startup.withKey first) firstSignings) =
      outcomes (main crypto (startup.withKey second) secondSignings)) :
    serialText (main crypto (startup.withKey first) firstSignings) =
        serialText (main crypto (startup.withKey second) secondSignings) ↔
      keyWords first = keyWords second := by
  rw [serialText_main, serialText_main, same, List.append_cancel_left_eq,
    List.append_cancel_right_eq, printMpi_eq_iff, printedWords_privateKey reads,
    printedWords_privateKey reads]

theorem readsRaw_sampleStartup : ReadsRaw sampleStartup.mpiReadRaw := by
  intro key
  have length : key.toList.length = 4 * 8 := key.toList_length
  have stored : ((Hex.words 4 8 key.toList).map UInt32.ofNat).map UInt32.toNat =
      Hex.words 4 8 key.toList := by
    rw [List.map_map]
    conv_rhs => rw [← List.map_id (Hex.words 4 8 key.toList)]
    apply List.map_congr_left
    intro word member
    exact UInt32.toNat_ofNat_of_lt' (Hex.words_lt member)
  rw [Hex.ofBytesBE_eq_ofDigits length, Mpi.value, sampleStartup, List.map_reverse, stored]
  rfl

/-- A key whose only non-zero word is the `index`-th from the top, with value 1. -/
def unitKey (index : Fin 8) : PrivateKey :=
  ⟨List.ofFn fun i : Fin 32 => if i.val = 4 * index.val + 3 then 1 else 0, by simp⟩

theorem outcomes_failedSigning (key : PrivateKey) :
    outcomes (main sampleCrypto (sampleStartup.withKey key) [fun _ _ => none]) = [none] := rfl

/-- Zero words leave no trace, so moving a word past them is not seen. -/
theorem unitKey_not_disclosed :
    serialText (main sampleCrypto (sampleStartup.withKey (unitKey 0)) [fun _ _ => none]) =
      serialText (main sampleCrypto (sampleStartup.withKey (unitKey 1)) [fun _ _ => none]) :=
  (key_disclosure_iff sampleCrypto sampleStartup readsRaw_sampleStartup (unitKey 0) (unitKey 1)
    [fun _ _ => none] [fun _ _ => none]
    ((outcomes_failedSigning _).trans (outcomes_failedSigning _).symm)).mpr (by decide)

/-- Before the first iteration the text already tells one key from another. -/
theorem key_printed : ¬ HidesKey sampleCrypto sampleStartup := by
  intro hidden
  have equal := hidden ⟨lPrivate1, rfl⟩ (unitKey 0) [] [] rfl
  rw [serialText_main, serialText_main, List.append_cancel_left_eq] at equal
  have printed := congrArg (List.take 8) equal
  revert printed
  decide +kernel

end PpmlIot.Stm32

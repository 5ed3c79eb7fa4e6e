import PpmlIot.Crypto
import PpmlIot.Library.Hex
import PpmlIot.Library.Runs

/-!
# The STM32 node

The node receives a private key on its serial line, prints it, and then signs a counter: it writes
the counter's decimal text over the front of a buffer, hashes the whole buffer, signs the digest and
prints text, digest and signature.  The error returned by the signing function is not looked at.
What is traced goes to another stream than what is printed.
-/

namespace PpmlIot.Stm32

open Library

/-- A multiple-precision integer: `size` words, least significant first. -/
structure Mpi where
  data : List UInt32
  deriving DecidableEq

def Mpi.size (a : Mpi) : Nat := a.data.length

structure EcdsaSignature where
  r : Mpi
  s : Mpi
  deriving DecidableEq

/-- `ecdsaGenerateSignature` on a private key and a digest: the signature it writes when it returns
0, and `none` when it fails and leaves its output alone. -/
abbrev GenerateSignature := Mpi → Digest → Option EcdsaSignature

/-- `printMpi`: the words from the top, without those that are zero. -/
def printMpi (a : Mpi) : Text :=
  (List.range a.size).flatMap fun i =>
    let word := a.data.getD (a.size - 1 - i) 0
    if word ≠ 0 then Hex.fixed Hex.upperDigit 8 word.toNat else []

def printArray (data : List UInt8) (length : Nat) : Text :=
  (data.take length).flatMap fun byte => Hex.fixed Hex.upperDigit 2 byte.toNat

/-- The observable actions of the node. -/
inductive Action
  | print (text : Text)
  | trace (text : Text)
  | hash (message : List UInt8) (digest : Digest)
  | sign (digest : Digest) (outcome : Option EcdsaSignature)
  | printDigest (digest : Digest)
  | printSignature (signature : EcdsaSignature)
  deriving DecidableEq

/-- The text that an action writes to `stdout`.  A trace goes to `stderr`, which is taken not to be
the serial line: what `stderr` is connected to is not part of the program. -/
def Action.text : Action → Text
  | .print text => text
  | .printDigest digest => printArray digest.toList 32
  | .printSignature signature => printMpi signature.r ++ printMpi signature.s
  | .trace _ => []
  | .hash _ _ => []
  | .sign _ _ => []

/-- The text that actions write to the serial line, which carries `stdout`. -/
def serialText (actions : List Action) : Text :=
  actions.flatMap Action.text

/-- What start-up meets: the bytes received as key, whether the generator could be initialised and
seeded, and `mpiReadRaw`. -/
structure Startup where
  buffer : List UInt8
  yarrowInit : Bool
  yarrowSeed : Bool
  mpiReadRaw : List UInt8 → Mpi

def Startup.privateKey (startup : Startup) : Mpi :=
  startup.mpiReadRaw (startup.buffer.take 32)

/-- The part of `main` before the loop. -/
def startUp (startup : Startup) : List Action :=
  [.print "STM32L432 Nucleo\r\nECDSA PhD\r\n\r\n".toList] ++
    (if startup.yarrowInit then [] else [.trace "Failed to initialize PRNG!\r\n".toList]) ++
    (if startup.yarrowSeed then [] else [.trace "Failed to seed PRNG!\r\n".toList]) ++
    [.print (printMpi startup.privateKey), .print "Initialization Done\r\n".toList]

/-- The variables that the loop uses, in static memory. -/
structure LoopState where
  message : Memory
  genericCounter : UInt8
  signature : EcdsaSignature

def reset : LoopState where
  message _ := 0
  genericCounter := 0
  signature := ⟨⟨[]⟩, ⟨[]⟩⟩

def toBytes (text : Text) : List UInt8 :=
  text.map fun c => UInt8.ofNat c.toNat

/-- `sprintf(message, "%d", genericCounter)` -/
def sprintf (message : Memory) (genericCounter : UInt8) : Memory :=
  message.write 0 (toBytes (Text.decimal genericCounter.toNat) ++ [0])

/-- The text that `%s` prints for the message buffer. -/
def messageText (message : Memory) : Text :=
  (Memory.cString (message.slice 0 128)).map fun byte => Char.ofNat byte.toNat

/-- The body of the loop. -/
def iterate (crypto : Crypto) (privateKey : Mpi) (state : LoopState)
    (ecdsaGenerateSignature : GenerateSignature) : List Action × LoopState :=
  let message := sprintf state.message state.genericCounter
  let digest := crypto.sha256 (message.slice 0 128)
  let outcome := ecdsaGenerateSignature privateKey digest
  let signature := outcome.getD state.signature
  ([.hash (message.slice 0 128) digest, .sign digest outcome,
      .print (messageText message ++ [' ']), .printDigest digest, .print [' '],
      .printSignature signature, .print ['\r', '\n']],
    { message, genericCounter := state.genericCounter + 1, signature })

def loopNext (crypto : Crypto) (privateKey : Mpi) (state : LoopState)
    (ecdsaGenerateSignature : GenerateSignature) : LoopState :=
  (iterate crypto privateKey state ecdsaGenerateSignature).2

/-- What the node does from reset through some iterations, given the behaviour of the signing
function in each. -/
def main (crypto : Crypto) (startup : Startup) (signings : List GenerateSignature) : List Action :=
  startUp startup ++
    (steps (loopNext crypto startup.privateKey) reset signings).flatMap fun step =>
      (iterate crypto startup.privateKey step.1 step.2).1

/-- The words of a number that are printed, in the order in which they are printed. -/
def printedWords (a : Mpi) : List Nat :=
  (a.data.reverse.filter (· ≠ 0)).map UInt32.toNat

/-- `printMpi` prints the non-zero words from the top. -/
theorem printMpi_eq (a : Mpi) :
    printMpi a = (printedWords a).flatMap (Hex.fixed Hex.upperDigit (2 * 4)) := by
  have backwards : (List.range a.size).map (fun i => a.data.getD (a.size - 1 - i) 0) =
      a.data.reverse := by
    apply List.ext_getElem
    · simp [Mpi.size]
    · intro i inside _
      have inside' : i < a.data.length := by simpa [Mpi.size] using inside
      have top : a.data.length - 1 - i < a.data.length := by omega
      simp [Mpi.size, List.getElem_reverse, List.getD_eq_getElem?_getD, top]
  have words (ws : List UInt32) :
      ws.flatMap (fun word => if word ≠ 0 then Hex.fixed Hex.upperDigit 8 word.toNat else []) =
        ((ws.filter (· ≠ 0)).map UInt32.toNat).flatMap (Hex.fixed Hex.upperDigit (2 * 4)) := by
    induction ws with
    | nil => rfl
    | cons w ws induction =>
        by_cases zero : w = 0
        · simpa [zero] using induction
        · simpa [zero] using induction
  rw [printMpi, printedWords, ← words, ← backwards, List.flatMap_map]

/-- A counter's text is that of its digits, which are at most three. -/
theorem decimal_counter (counter : UInt8) :
    Text.decimal counter.toNat = Nat.toDigits 10 counter.toNat ∧
      (Text.decimal counter.toNat).length ≤ 3 := by
  have every : ∀ v ∈ List.range 256, Text.decimal (v : Nat) = Nat.toDigits 10 v ∧
      (Text.decimal (v : Nat)).length ≤ 3 := by decide +kernel
  exact every counter.toNat (List.mem_range.mpr counter.toNat_lt)

/-- Characters of one byte are recovered from their bytes. -/
theorem map_toBytes {text : Text} (small : ∀ c ∈ text, c.toNat < 256) :
    (toBytes text).map (fun byte => Char.ofNat byte.toNat) = text := by
  rw [toBytes, List.map_map]
  conv_rhs => rw [← List.map_id text]
  apply List.map_congr_left
  intro c member
  simp [Nat.mod_eq_of_lt (small c member)]

/-- The text printed is that of the counter, whatever the buffer held before. -/
theorem messageText_sprintf (message : Memory) (counter : UInt8) :
    messageText (sprintf message counter) = Text.decimal counter.toNat := by
  obtain ⟨digits, short⟩ := decimal_counter counter
  have digit (c : Char) (member : c ∈ Text.decimal counter.toNat) :
      48 ≤ c.toNat ∧ c.toNat ≤ 57 := by
    rw [digits] at member
    exact Char.isDigit_iff_toNat.mp (Text.isDigit_of_mem_toDigits member)
  let bytes := toBytes (Text.decimal counter.toNat)
  have nul_free : 0 ∉ bytes := by
    intro member
    obtain ⟨c, c_mem, zero⟩ := List.mem_map.mp member
    have value := congrArg UInt8.toNat zero
    have bounds := digit c c_mem
    simp only [UInt8.toNat_ofNat', UInt8.toNat_zero] at value
    omega
  have written : (sprintf message counter).slice 0 (bytes ++ [0]).length = bytes ++ [0] :=
    Memory.slice_write_self message 0 (bytes ++ [0])
  have whole : 128 = (bytes ++ [0]).length + (128 - (bytes ++ [0]).length) := by
    simp [bytes, toBytes]
    omega
  rw [messageText, whole, Memory.slice_add, written, List.append_assoc,
    Memory.cString_append nul_free]
  simp only [Memory.cString, List.singleton_append, List.takeWhile_cons, bne_self_eq_false,
    Bool.false_eq_true, if_false, List.append_nil]
  exact map_toBytes fun c member => lt_of_le_of_lt (digit c member).2 (by decide)

def printedDigest : Action → Option Digest
  | .printDigest digest => some digest
  | _ => none

theorem printArray_digest (digest : Digest) :
    printArray digest.toList 32 =
      digest.toList.flatMap fun byte => Hex.fixed Hex.upperDigit 2 byte.toNat := by
  have length : digest.toList.length = 32 := digest.toList_length
  rw [printArray, List.take_of_length_le length.le]

/-- Start-up with a function that reads the key into eight words. -/
def sampleStartup : Startup where
  buffer := List.replicate 64 0
  yarrowInit := true
  yarrowSeed := true
  mpiReadRaw bytes := ⟨((Hex.words 4 8 bytes).map UInt32.ofNat).reverse⟩

end PpmlIot.Stm32

namespace PpmlIot

def oneSignature : Stm32.GenerateSignature := fun _ _ => some ⟨⟨[1]⟩, ⟨[2]⟩⟩

end PpmlIot

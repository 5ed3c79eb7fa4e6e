import Mathlib.Data.List.GetD
import PpmlIot.Library.Hex
import PpmlIot.Stm32.Node

/-!
# The line format

The node prints a signature word by word and leaves out the words that are zero, while the host
reads the digits as 64 bytes.  A line is decoded to the signature it was printed for, and is printed
for no other, exactly when none of the eight low words of its two numbers is zero.
-/

namespace PpmlIot.Stm32

open Library

def Mpi.value (a : Mpi) : Nat :=
  Nat.ofDigits (2 ^ 32) (a.data.map UInt32.toNat)

/-- None of the eight low words is zero. -/
def Mpi.NoZeroWord (a : Mpi) : Prop :=
  ∀ i < 8, a.data.getD i 0 ≠ 0

instance (a : Mpi) : Decidable a.NoZeroWord :=
  inferInstanceAs (Decidable (∀ i < 8, _))

/-- A signature whose numbers are positive and have at most 256 bits, in arrays of any size. -/
structure StoredSignature extends EcdsaSignature where
  r_pos : 0 < r.value
  s_pos : 0 < s.value
  r_fits : r.value < 2 ^ 256
  s_fits : s.value < 2 ^ 256

/-- The line printed for a counter value, a digest and a signature. -/
def line (counter : UInt8) (digest : Digest) (signature : EcdsaSignature) : Text :=
  Text.decimal counter.toNat ++ ' ' :: (printArray digest.toList 32 ++
    ' ' :: (printMpi signature.r ++ printMpi signature.s ++ ['\r', '\n']))

/-- What an iteration writes to the serial line. -/
theorem text_iterate (crypto : Crypto) (privateKey : Mpi) (state : LoopState)
    (ecdsaGenerateSignature : GenerateSignature) :
    (iterate crypto privateKey state ecdsaGenerateSignature).1.flatMap Action.text =
      let digest := crypto.sha256 ((sprintf state.message state.genericCounter).slice 0 128)
      line state.genericCounter digest
        ((ecdsaGenerateSignature privateKey digest).getD state.signature) := by
  simp [iterate, Action.text, line, messageText_sprintf]

/-- The host splits a line into the message and texts that it reads as the digest and as the 32
big-endian bytes of each number of the signature. -/
def Decodes (text message : Text) (digest : Digest) (signature : EcdsaSignature) : Prop :=
  ∃ digestField signField, text.splitOn ' ' = [message, digestField, signField] ∧
    Hex.unhexlify (Text.strip digestField) = some digest.toList ∧
    Hex.unhexlify (Text.strip signField) =
      some (Hex.bytesBE 32 signature.r.value ++ Hex.bytesBE 32 signature.s.value)

section Words

variable {a : Mpi}

theorem Mpi.value_eq (a : Mpi) :
    a.value = Nat.ofDigits (2 ^ 32) ((a.data.take 8).map UInt32.toNat) +
      (2 ^ 32) ^ (a.data.take 8).length *
        Nat.ofDigits (2 ^ 32) ((a.data.drop 8).map UInt32.toNat) := by
  rw [Mpi.value, ← List.length_map UInt32.toNat, ← Nat.ofDigits_append, ← List.map_append,
    List.take_append_drop]

/-- A number of 256 bits has nothing above its eight low words. -/
theorem Mpi.high_eq_zero (fits : a.value < 2 ^ 256) :
    Nat.ofDigits (2 ^ 32) ((a.data.drop 8).map UInt32.toNat) = 0 := by
  by_cases long : 8 ≤ a.data.length
  · have low_length : (a.data.take 8).length = 8 := by
      simp [long]
    have split := a.value_eq
    rw [low_length, ← pow_mul] at split
    by_contra positive
    have := Nat.le_mul_of_pos_right (2 ^ (32 * 8)) (Nat.pos_of_ne_zero positive)
    omega
  · rw [List.drop_eq_nil_of_le (by omega)]
    rfl

/-- The printed words are the non-zero ones among the eight low words. -/
theorem printedWords_eq (fits : a.value < 2 ^ 256) :
    printedWords a = ((a.data.take 8).reverse.filter (· ≠ 0)).map UInt32.toNat := by
  have high : (a.data.drop 8).reverse.filter (· ≠ 0) = [] := by
    rw [List.filter_eq_nil_iff]
    intro w member
    have zero := Nat.digits_zero_of_eq_zero (by decide) (Mpi.high_eq_zero fits) w.toNat
      (List.mem_map_of_mem (List.mem_reverse.mp member))
    simpa using UInt32.toNat_inj.mp zero
  rw [printedWords]
  conv_lhs => rw [← List.take_append_drop 8 a.data]
  rw [List.reverse_append, List.filter_append, high, List.nil_append]

theorem length_printedWords_le (fits : a.value < 2 ^ 256) : (printedWords a).length ≤ 8 := by
  rw [printedWords_eq fits, List.length_map]
  calc
    ((a.data.take 8).reverse.filter (· ≠ 0)).length ≤ (a.data.take 8).reverse.length :=
      List.length_filter_le ..
    _ ≤ 8 := by simp

/-- Without a zero word there are eight low words, and all of them are non-zero. -/
theorem Mpi.noZeroWord_iff :
    a.NoZeroWord ↔ (a.data.take 8).length = 8 ∧ ∀ w ∈ a.data.take 8, w ≠ 0 := by
  constructor
  · intro nonzero
    have long : 8 ≤ a.data.length := by
      by_contra short
      apply nonzero 7 (by decide)
      rw [List.getD_eq_default _ _ (by omega)]
    refine ⟨by simp [long], ?_⟩
    intro w member
    obtain ⟨i, inside, rfl⟩ := List.mem_take_iff_getElem.mp member
    have word := nonzero i (by omega)
    rwa [List.getD_eq_getElem _ _ (by omega)] at word
  · rintro ⟨length, nonzero⟩ i small
    have inside : i < a.data.length := by
      rw [List.length_take] at length
      omega
    rw [List.getD_eq_getElem _ _ inside]
    exact nonzero _ (List.mem_take_iff_getElem.mpr ⟨i, by omega, rfl⟩)

/-- All eight words are printed exactly when none is zero. -/
theorem length_printedWords_iff (fits : a.value < 2 ^ 256) :
    (printedWords a).length = 8 ↔ a.NoZeroWord := by
  rw [printedWords_eq fits, List.length_map, Mpi.noZeroWord_iff]
  constructor
  · intro full
    have bound := List.length_filter_le (fun w : UInt32 => decide (w ≠ 0)) (a.data.take 8).reverse
    have length : (a.data.take 8).reverse.length = 8 := by
      rw [List.length_reverse, List.length_take] at bound ⊢
      omega
    have nonzero := List.length_filter_eq_length_iff.mp (full.trans length.symm)
    refine ⟨by rwa [List.length_reverse] at length, ?_⟩
    intro w member
    exact of_decide_eq_true (nonzero w (List.mem_reverse.mpr member))
  · rintro ⟨length, nonzero⟩
    rw [List.filter_eq_self.mpr, List.length_reverse, length]
    intro w member
    exact decide_eq_true (nonzero w (List.mem_reverse.mp member))

/-- Without a zero word the printed words carry the 32 bytes of the number. -/
theorem bytes_printedWords (fits : a.value < 2 ^ 256) (nonzero : a.NoZeroWord) :
    (printedWords a).flatMap (Hex.bytesBE 4) = Hex.bytesBE 32 a.value := by
  obtain ⟨length, words⟩ := Mpi.noZeroWord_iff.mp nonzero
  have every : (a.data.take 8).reverse.filter (· ≠ 0) = (a.data.take 8).reverse := by
    rw [List.filter_eq_self]
    intro w member
    exact decide_eq_true (words w (List.mem_reverse.mp member))
  have value : a.value = Nat.ofDigits (256 ^ 4) ((a.data.take 8).map UInt32.toNat) := by
    rw [a.value_eq, Mpi.high_eq_zero fits]
    rfl
  have small : ∀ digit ∈ (a.data.take 8).map UInt32.toNat, digit < 256 ^ 4 := by
    intro digit member
    obtain ⟨w, -, rfl⟩ := List.mem_map.mp member
    exact w.toNat_lt
  have bytes := Hex.bytesBE_ofDigits small
  rw [List.length_map, length, ← value, ← List.map_reverse] at bytes
  rw [printedWords_eq fits, every, ← bytes]

end Words

def signatureWords (signature : EcdsaSignature) : List Nat :=
  printedWords signature.r ++ printedWords signature.s

theorem printSignature_eq (signature : EcdsaSignature) :
    printMpi signature.r ++ printMpi signature.s =
      (signatureWords signature).flatMap (Hex.fixed Hex.upperDigit (2 * 4)) := by
  rw [printMpi_eq, printMpi_eq, signatureWords, List.flatMap_append]

theorem space_not_mem {text : Text} (solid : ∀ c ∈ text, Text.isSpace c = false) : ' ' ∉ text :=
  fun member => absurd (solid ' ' member) (by decide)

theorem space_not_mem_decimal (counter : UInt8) : ' ' ∉ Text.decimal counter.toNat := by
  have nonneg : ¬ (counter.toNat : Int) < 0 := by omega
  rw [Text.decimal, if_neg nonneg]
  intro member
  exact absurd (Text.isDigit_of_mem_toDigits member) (by decide)

theorem splitOn_line (counter : UInt8) (digest : Digest) (signature : EcdsaSignature) :
    (line counter digest signature).splitOn ' ' =
      [Text.decimal counter.toNat, printArray digest.toList 32,
        printMpi signature.r ++ printMpi signature.s ++ ['\r', '\n']] := by
  have digest_solid : ' ' ∉ printArray digest.toList 32 := by
    rw [printArray_digest]
    exact space_not_mem fun _ => Hex.isSpace_eq_false_of_mem_digits
  have sign_solid : ' ' ∉ printMpi signature.r ++ printMpi signature.s ++ ['\r', '\n'] := by
    rw [printSignature_eq, List.mem_append, not_or]
    exact ⟨space_not_mem fun _ => Hex.isSpace_eq_false_of_mem_digits, by decide⟩
  rw [line, List.splitOn_append_cons_self_of_not_mem (space_not_mem_decimal counter),
    List.splitOn_append_cons_self_of_not_mem digest_solid, List.splitOn_eq_singleton sign_solid]

theorem read_digest (digest : Digest) :
    Hex.unhexlify (Text.strip (printArray digest.toList 32)) = some digest.toList := by
  rw [printArray_digest, Text.strip_eq_self fun _ => Hex.isSpace_eq_false_of_mem_digits,
    Hex.unhexlify_flatMap_bytes]

/-- The signature field is read as the bytes of the words printed. -/
theorem read_signature (signature : EcdsaSignature) :
    Hex.unhexlify
        (Text.strip (printMpi signature.r ++ printMpi signature.s ++ ['\r', '\n'])) =
      some ((signatureWords signature).flatMap (Hex.bytesBE 4)) := by
  have blank : ∀ c ∈ ['\r', '\n'], Text.isSpace c = true := by
    simp [Text.isSpace]
  rw [printSignature_eq,
    Text.strip_append_spaces (fun _ => Hex.isSpace_eq_false_of_mem_digits) blank,
    Hex.unhexlify_flatMap_fixed]

theorem length_signatureBytes (signature : EcdsaSignature) :
    ((signatureWords signature).flatMap (Hex.bytesBE 4)).length =
      4 * ((printedWords signature.r).length + (printedWords signature.s).length) := by
  rw [List.length_flatMap, signatureWords]
  simp
  ring

/-- A signature field of 64 bytes was printed without zero words. -/
theorem noZeroWord_of_length {signature : StoredSignature}
    (length : ((signatureWords signature.toEcdsaSignature).flatMap (Hex.bytesBE 4)).length = 64) :
    signature.r.NoZeroWord ∧ signature.s.NoZeroWord := by
  have r_bound := length_printedWords_le signature.r_fits
  have s_bound := length_printedWords_le signature.s_fits
  rw [length_signatureBytes] at length
  exact ⟨(length_printedWords_iff signature.r_fits).mp (by omega),
    (length_printedWords_iff signature.s_fits).mp (by omega)⟩

/-- Without zero words the signature field is the 64 bytes of the two numbers. -/
theorem signatureBytes_eq {signature : StoredSignature} (r_words : signature.r.NoZeroWord)
    (s_words : signature.s.NoZeroWord) :
    (signatureWords signature.toEcdsaSignature).flatMap (Hex.bytesBE 4) =
      Hex.bytesBE 32 signature.r.value ++ Hex.bytesBE 32 signature.s.value := by
  rw [signatureWords, List.flatMap_append, bytes_printedWords signature.r_fits r_words,
    bytes_printedWords signature.s_fits s_words]

theorem decodes_iff (counter : UInt8) (digest : Digest) (signature : StoredSignature) :
    Decodes (line counter digest signature.toEcdsaSignature) (Text.decimal counter.toNat) digest
        signature.toEcdsaSignature ↔
      signature.r.NoZeroWord ∧ signature.s.NoZeroWord := by
  constructor
  · rintro ⟨digestField, signField, fields, -, read⟩
    rw [splitOn_line] at fields
    obtain ⟨-, -, rfl⟩ : _ ∧ _ ∧ _ = signField := by
      simpa only [List.cons.injEq, and_true] using fields
    rw [read_signature, Option.some.injEq] at read
    apply noZeroWord_of_length
    simp [read]
  · rintro ⟨r_words, s_words⟩
    refine ⟨_, _, splitOn_line .., read_digest digest, ?_⟩
    rw [read_signature, signatureBytes_eq r_words s_words]

/-- A signature whose line is also that of one without zero words stores the same numbers. -/
theorem values_eq_of_line_eq {counter counter' : UInt8} {digest digest' : Digest}
    {signature other : StoredSignature} (r_words : signature.r.NoZeroWord)
    (s_words : signature.s.NoZeroWord)
    (same : line counter' digest' other.toEcdsaSignature =
      line counter digest signature.toEcdsaSignature) :
    other.r.value = signature.r.value ∧ other.s.value = signature.s.value := by
  have fields := congrArg (List.splitOn ' ') same
  rw [splitOn_line, splitOn_line] at fields
  have field : printMpi other.r ++ printMpi other.s ++ ['\r', '\n'] =
      printMpi signature.r ++ printMpi signature.s ++ ['\r', '\n'] := by
    simp only [List.cons.injEq, and_true] at fields
    exact fields.2.2
  have read := read_signature other.toEcdsaSignature
  rw [field, read_signature, Option.some.injEq] at read
  obtain ⟨other_r, other_s⟩ : other.r.NoZeroWord ∧ other.s.NoZeroWord := by
    apply noZeroWord_of_length
    rw [← read, signatureBytes_eq r_words s_words]
    simp
  rw [signatureBytes_eq r_words s_words, signatureBytes_eq other_r other_s] at read
  obtain ⟨r_bytes, s_bytes⟩ := List.append_inj read (by simp)
  exact ⟨(Hex.bytesBE_injective signature.r_fits other.r_fits r_bytes).symm,
    (Hex.bytesBE_injective signature.s_fits other.s_fits s_bytes).symm⟩

/-- The host decodes a line exactly, and no other signature has the same line, exactly when no word
of the two numbers is zero. -/
theorem line_format_iff (counter : UInt8) (digest : Digest) (signature : StoredSignature) :
    (Decodes (line counter digest signature.toEcdsaSignature) (Text.decimal counter.toNat) digest
        signature.toEcdsaSignature ∧
      ∀ (counter' : UInt8) (digest' : Digest) (other : StoredSignature),
        line counter' digest' other.toEcdsaSignature =
            line counter digest signature.toEcdsaSignature →
          other.r.value = signature.r.value ∧ other.s.value = signature.s.value) ↔
      signature.r.NoZeroWord ∧ signature.s.NoZeroWord := by
  constructor
  · rintro ⟨decoded, -⟩
    exact (decodes_iff counter digest signature).mp decoded
  · intro words
    refine ⟨(decodes_iff counter digest signature).mpr words, ?_⟩
    intro counter' digest' other same
    exact values_eq_of_line_eq words.1 words.2 same

/-- A signature whose `r` has a zero word in the middle. -/
def gapSignature (words : List UInt32) (known : words = [1, 0, 3, 4, 5, 6, 7, 8] ∨
    words = [1, 3, 0, 4, 5, 6, 7, 8]) : StoredSignature where
  r := ⟨words⟩
  s := ⟨[1, 2, 3, 4, 5, 6, 7, 8]⟩
  r_pos := by rcases known with rfl | rfl <;> decide
  s_pos := by decide
  r_fits := by rcases known with rfl | rfl <;> decide
  s_fits := by decide

/-- Its line is not decoded, and is also that of another signature. -/
theorem gap_not_decoded :
    let signature := gapSignature [1, 0, 3, 4, 5, 6, 7, 8] (.inl rfl)
    let other := gapSignature [1, 3, 0, 4, 5, 6, 7, 8] (.inr rfl)
    ¬ Decodes (line 0 zeroDigest signature.toEcdsaSignature) (Text.decimal 0) zeroDigest
        signature.toEcdsaSignature ∧
      line 0 zeroDigest signature.toEcdsaSignature = line 0 zeroDigest other.toEcdsaSignature ∧
      signature.r.value ≠ other.r.value := by
  refine ⟨?_, by decide +kernel, by decide⟩
  intro decoded
  have words := ((decodes_iff 0 zeroDigest _).mp decoded).1
  revert words
  decide

end PpmlIot.Stm32

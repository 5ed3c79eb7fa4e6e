import Mathlib.Data.Finset.Card
import PpmlIot.Library.Decimal
import PpmlIot.Stm32.MessageDigest

/-!
# Repeated messages

The counter has eight bits, so the node signs its messages over and over.  A message comes back
after 256 iterations, except that the first ten differ from their repetitions by the digit left
behind the text.  A session of any length signs at most 266 messages.
-/

namespace PpmlIot.Stm32

open Library

/-- The decimal text of the counter in an iteration. -/
def counterText (k : Nat) : Text :=
  Text.decimal (k % 256 : Nat)

/-- The bytes that are hashed in an iteration. -/
def hashedAt (k : Nat) : List UInt8 :=
  if Stale k then
    toBytes (counterText k) ++ 0 :: 0x35 :: List.replicate 125 0
  else
    padded (counterText k)

/-- The first iteration that hashes the same bytes. -/
def firstLike (k : Nat) : Nat :=
  if Stale k then 256 + k % 256 else k % 256

/-- What the iterations of a run hash. -/
def hashedMessages (crypto : Crypto) (startup : Startup) (signings : List GenerateSignature) :
    List (List UInt8) :=
  (iterations crypto startup signings).flatMap fun actions => actions.filterMap hashedBytes

/-- The counter of an iteration. -/
theorem exists_counter (k : Nat) :
    ∃ counter : UInt8, counter.toNat = k % 256 ∧ Text.decimal counter.toNat = counterText k := by
  have value : (UInt8.ofNat (k % 256)).toNat = k % 256 := by simp
  exact ⟨UInt8.ofNat (k % 256), value, by rw [value, counterText]⟩

theorem length_counterText_of_small {k : Nat} (small : k % 256 < 10) :
    (toBytes (counterText k)).length = 1 := by
  obtain ⟨counter, value, text⟩ := exists_counter k
  have digits := length_decimal_counter counter
  rwa [text, value, if_pos small] at digits

theorem digit_of_mem_counterText {k : Nat} {c : Char} (member : c ∈ counterText k) :
    48 ≤ c.toNat ∧ c.toNat ≤ 57 := by
  obtain ⟨counter, -, text⟩ := exists_counter k
  rw [← text, (decimal_counter counter).1] at member
  exact Char.isDigit_iff_toNat.mp (Text.isDigit_of_mem_toDigits member)

theorem zero_not_mem_counterText (k : Nat) : 0 ∉ toBytes (counterText k) := by
  intro member
  obtain ⟨c, c_mem, zero⟩ := List.mem_map.mp member
  have value := congrArg UInt8.toNat zero
  have bounds := digit_of_mem_counterText c_mem
  simp only [UInt8.toNat_ofNat', UInt8.toNat_zero] at value
  omega

/-- The counter is read back from the bytes of its text. -/
theorem counter_of_toBytes {i j : Nat}
    (same : toBytes (counterText i) = toBytes (counterText j)) : i % 256 = j % 256 := by
  have text (k : Nat) :
      (toBytes (counterText k)).map (fun byte => Char.ofNat byte.toNat) = counterText k :=
    map_toBytes fun c member => lt_of_le_of_lt (digit_of_mem_counterText member).2 (by decide)
  have value (k : Nat) : Decimal.integer (counterText k) = (k % 256 : Nat) := by
    simpa [counterText, Text.decimalWidth] using Decimal.integer_decimalWidth 0 (k % 256 : Nat)
  have texts := congrArg (List.map fun byte => Char.ofNat byte.toNat) same
  rw [text, text] at texts
  have values := congrArg Decimal.integer texts
  rw [value, value] at values
  exact_mod_cast values

/-- The text is in front of what is hashed, up to the first NUL. -/
theorem cString_hashedAt (k : Nat) : Memory.cString (hashedAt k) = toBytes (counterText k) := by
  have cut (rest : List UInt8) :
      Memory.cString (toBytes (counterText k) ++ 0 :: rest) = toBytes (counterText k) := by
    rw [Memory.cString_append (zero_not_mem_counterText k)]
    simp [Memory.cString]
  rw [hashedAt]
  split
  · exact cut _
  · obtain ⟨counter, -, text⟩ := exists_counter k
    have short := (decimal_counter counter).2
    rw [text] at short
    have room : 128 - (counterText k).length = 127 - (counterText k).length + 1 := by omega
    rw [padded, room, List.replicate_succ]
    exact cut _

/-- What is left behind a text of one digit. -/
theorem hashedAt_getElem? {k : Nat} (small : k % 256 < 10) :
    (hashedAt k)[2]? = some (if 256 ≤ k then 0x35 else 0) := by
  have length := length_counterText_of_small small
  rw [hashedAt]
  by_cases late : 256 ≤ k
  · rw [if_pos ⟨late, small⟩, if_pos late, List.getElem?_append_right (by omega), length]
    rfl
  · rw [if_neg fun stale => late stale.1, if_neg late, padded,
      List.getElem?_append_right (by omega), length]
    rw [toBytes, List.length_map] at length
    rw [length]
    rfl

/-- Two iterations hash the same bytes exactly when their counters agree and, below ten, both are
before the counter wraps or both are after it. -/
theorem hashedAt_eq_iff {i j : Nat} :
    hashedAt i = hashedAt j ↔ i % 256 = j % 256 ∧ (i % 256 < 10 → (i < 256 ↔ j < 256)) := by
  constructor
  · intro same
    have counters : i % 256 = j % 256 := by
      apply counter_of_toBytes
      rw [← cString_hashedAt, ← cString_hashedAt, same]
    refine ⟨counters, ?_⟩
    intro small
    have behind := congrArg (fun bytes => bytes[2]?) same
    rw [hashedAt_getElem? small, hashedAt_getElem? (counters ▸ small)] at behind
    by_contra different
    have late : 256 ≤ i ↔ ¬ 256 ≤ j := by omega
    by_cases first : 256 ≤ i
    · rw [if_pos first, if_neg (late.mp first)] at behind
      cases behind
    · rw [if_neg first, if_pos (by omega)] at behind
      cases behind
  · rintro ⟨counters, wraps⟩
    have text : counterText i = counterText j := by rw [counterText, counterText, counters]
    have stale : Stale i ↔ Stale j := by
      rw [Stale, Stale]
      omega
    rw [hashedAt, hashedAt, text]
    exact if_congr stale rfl rfl

theorem firstLike_lt (k : Nat) : firstLike k < 266 := by
  rw [firstLike]
  split
  · rename_i stale
    have := stale.2
    omega
  · omega

theorem hashedAt_firstLike (k : Nat) : hashedAt (firstLike k) = hashedAt k := by
  rw [hashedAt_eq_iff, firstLike]
  split
  · rename_i stale
    have := stale.1
    omega
  · rename_i fresh
    rw [Stale] at fresh
    omega

theorem hashedMessages_eq (crypto : Crypto) (startup : Startup)
    (signings : List GenerateSignature) :
    hashedMessages crypto startup signings = (List.range signings.length).map hashedAt := by
  have each : (iterations crypto startup signings).map (·.filterMap hashedBytes) =
      (List.range signings.length).map fun k => [hashedAt k] := by
    apply List.ext_getElem
    · simp [length_iterations]
    · intro k inside _
      rw [List.length_map] at inside
      obtain ⟨counter, value, -, bytes, bytes_eq, hashed, -⟩ :=
        iterations_getElem? (List.getElem?_eq_getElem inside)
      rw [List.getElem_map, hashed, bytes_eq, List.getElem_map, List.getElem_range, hashedAt,
        counterText, value]
  rw [hashedMessages, List.flatMap_def, each, ← List.flatMap_def, List.map_eq_flatMap]

/-- A session hashes what its first 266 iterations hash. -/
theorem toFinset_hashed (n : Nat) :
    ((List.range n).map hashedAt).toFinset = (Finset.range (min n 266)).image hashedAt := by
  ext bytes
  simp only [List.mem_toFinset, List.mem_map, List.mem_range, Finset.mem_image, Finset.mem_range]
  constructor
  · rintro ⟨k, inside, rfl⟩
    have := firstLike_lt k
    by_cases early : k < 266
    · exact ⟨k, by omega, rfl⟩
    · exact ⟨firstLike k, by omega, hashedAt_firstLike k⟩
  · rintro ⟨k, inside, rfl⟩
    exact ⟨k, by omega, rfl⟩

theorem injOn_hashedAt (n : Nat) : Set.InjOn hashedAt (Finset.range (min n 266)) := by
  intro i i_mem j j_mem same
  rw [Finset.mem_coe, Finset.mem_range] at i_mem j_mem
  have counters := hashedAt_eq_iff.mp same
  omega

/-- In a session of any length two iterations hash the same bytes exactly when their counters agree
and, below ten, both are before the counter wraps or both are after it.  So a session signs at most
266 different messages, and as many as it has iterations if these are not more. -/
theorem messages_of_session (crypto : Crypto) (startup : Startup)
    (signings : List GenerateSignature) :
    (∀ i j : Fin (hashedMessages crypto startup signings).length,
      (hashedMessages crypto startup signings).get i =
          (hashedMessages crypto startup signings).get j ↔
        i.val % 256 = j.val % 256 ∧ (i.val % 256 < 10 → (i.val < 256 ↔ j.val < 256))) ∧
      (hashedMessages crypto startup signings).length = signings.length ∧
      (hashedMessages crypto startup signings).toFinset.card = min signings.length 266 := by
  rw [hashedMessages_eq]
  refine ⟨?_, by simp, ?_⟩
  · intro i j
    rw [List.get_eq_getElem, List.get_eq_getElem, List.getElem_map, List.getElem_map,
      List.getElem_range, List.getElem_range, hashedAt_eq_iff]
  · rw [toFinset_hashed, Finset.card_image_of_injOn (injOn_hashedAt _), Finset.card_range]

end PpmlIot.Stm32

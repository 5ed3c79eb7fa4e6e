import PpmlIot.Stm32.LineFormat

/-!
# Digest and message

The node hashes its whole 128-byte buffer, of which `sprintf` rewrites the front.  The texts grow
with the counter and nothing is left behind them, until the counter wraps from 255 to 0: the last
digit of `255` stays behind the texts of one digit that follow.
-/

namespace PpmlIot.Stm32

open Library

/-- What each iteration of a run does. -/
def iterations (crypto : Crypto) (startup : Startup) (signings : List GenerateSignature) :
    List (List Action) :=
  (steps (loopNext crypto startup.privateKey) reset signings).map fun step =>
    (iterate crypto startup.privateKey step.1 step.2).1

def hashedBytes : Action → Option (List UInt8)
  | .hash message _ => some message
  | _ => none

/-- The message field of the line that an iteration prints. -/
def lineMessage (actions : List Action) : Text :=
  (serialText actions).takeWhile (· != ' ')

/-- A text at the start of a zeroed message buffer. -/
def padded (text : Text) : List UInt8 :=
  toBytes text ++ List.replicate (128 - text.length) 0

/-- The iteration hashes the message that it prints, followed by zeros only. -/
def HashesMessage (actions : List Action) : Prop :=
  actions.filterMap hashedBytes = [padded (lineMessage actions)]

/-- Every iteration of a run hashes the message that it prints, and lines with the same message
carry the same digest. -/
structure DigestsMessages (lines : List (List Action)) : Prop where
  hashed : ∀ actions ∈ lines, HashesMessage actions
  determined : ∀ first ∈ lines, ∀ second ∈ lines, lineMessage first = lineMessage second →
    first.filterMap printedDigest = second.filterMap printedDigest

/-- In this iteration of a run something is left behind the text. -/
def Stale (k : Nat) : Prop :=
  256 ≤ k ∧ k % 256 < 10

instance (k : Nat) : Decidable (Stale k) :=
  inferInstanceAs (Decidable (_ ∧ _))

/-- The state before the `k`-th iteration of a run. -/
structure Before (k : Nat) (state : LoopState) : Prop where
  counter : state.genericCounter.toNat = k % 256
  beyond : ∀ i, 3 ≤ i → state.message i = 0
  left : k % 256 < 10 → state.message 2 = if 256 ≤ k then 0x35 else 0

theorem length_decimal_counter (counter : UInt8) :
    (toBytes (Text.decimal counter.toNat)).length =
      if counter.toNat < 10 then 1 else if counter.toNat < 100 then 2 else 3 := by
  have every : ∀ v ∈ List.range 256, (toBytes (Text.decimal (v : Nat))).length =
      if v < 10 then 1 else if v < 100 then 2 else 3 := by decide +kernel
  exact every counter.toNat (List.mem_range.mpr counter.toNat_lt)

theorem sprintf_beyond (message : Memory) (counter : UInt8) {i : Nat}
    (beyond : (toBytes (Text.decimal counter.toNat)).length < i) :
    sprintf message counter i = message i :=
  Memory.write_apply_of_le (by
    rw [List.length_append, List.length_singleton]
    omega)

theorem sprintf_end (message : Memory) (counter : UInt8) :
    sprintf message counter (toBytes (Text.decimal counter.toNat)).length = 0 := by
  rw [sprintf, Memory.write_apply (by omega) (by simp)]
  simp

/-- An iteration passes the description of its state on. -/
theorem Before.next (crypto : Crypto) (privateKey : Mpi) {k : Nat} {state : LoopState}
    (before : Before k state) (ecdsaGenerateSignature : GenerateSignature) :
    Before (k + 1) (loopNext crypto privateKey state ecdsaGenerateSignature) := by
  have length := length_decimal_counter state.genericCounter
  have counter := before.counter
  constructor
  · change (state.genericCounter + 1).toNat = (k + 1) % 256
    rw [UInt8.toNat_add, counter]
    simp
  · intro i large
    change sprintf state.message state.genericCounter i = 0
    rcases Nat.lt_or_ge (toBytes (Text.decimal state.genericCounter.toNat)).length i with
      behind | reached
    · rw [sprintf_beyond _ _ behind, before.beyond i large]
    · have last : i = (toBytes (Text.decimal state.genericCounter.toNat)).length := by
        split at length
        · omega
        · split at length <;> omega
      rw [last, sprintf_end]
  · intro small
    change sprintf state.message state.genericCounter 2 = _
    by_cases wrapped : (k + 1) % 256 = 0
    · have full : state.genericCounter = 255 := by
        apply UInt8.toNat_inj.mp
        rw [counter]
        change k % 256 = 255
        omega
      rw [full, if_pos (by omega)]
      rfl
    · have short : state.genericCounter.toNat < 10 := by omega
      rw [if_pos short] at length
      rw [sprintf_beyond _ _ (by omega), before.left (by omega)]
      by_cases late : 256 ≤ k
      · rw [if_pos late, if_pos (by omega)]
      · rw [if_neg late, if_neg (by omega)]

theorem before_reset : Before 0 reset where
  counter := rfl
  beyond _ _ := rfl
  left _ := rfl

/-- What stands in the buffer when it is hashed. -/
theorem slice_sprintf (message : Memory) (counter : UInt8) :
    (sprintf message counter).slice 0 128 =
      toBytes (Text.decimal counter.toNat) ++
        0 :: message.slice ((Text.decimal counter.toNat).length + 1)
          (127 - (Text.decimal counter.toNat).length) := by
  let bytes := toBytes (Text.decimal counter.toNat)
  have length : bytes.length = (Text.decimal counter.toNat).length := List.length_map _
  have short := (decimal_counter counter).2
  have front : (sprintf message counter).slice 0 (bytes ++ [0]).length = bytes ++ [0] :=
    Memory.slice_write_self message 0 (bytes ++ [0])
  have back : (sprintf message counter).slice (0 + (bytes ++ [0]).length) (127 - bytes.length) =
      message.slice (bytes.length + 1) (127 - bytes.length) := by
    rw [Nat.zero_add, List.length_append, List.length_singleton]
    exact Memory.slice_congr fun i above _ =>
      sprintf_beyond message counter (show bytes.length < i by omega)
  have whole : 128 = (bytes ++ [0]).length + (127 - bytes.length) := by
    rw [List.length_append, List.length_singleton]
    omega
  rw [whole, Memory.slice_add, front, back, length]
  simp [bytes]

/-- The bytes hashed in the `k`-th iteration of a run. -/
theorem Before.slice_eq {k : Nat} {state : LoopState} (before : Before k state) :
    (sprintf state.message state.genericCounter).slice 0 128 =
      if Stale k then
        toBytes (Text.decimal state.genericCounter.toNat) ++ 0 :: 0x35 :: List.replicate 125 0
      else
        padded (Text.decimal state.genericCounter.toNat) := by
  have zeros (start length : Nat) (high : 3 ≤ start) :
      state.message.slice start length = List.replicate length 0 := by
    rw [List.eq_replicate_iff]
    refine ⟨Memory.length_slice .., ?_⟩
    intro byte member
    obtain ⟨offset, -, rfl⟩ := List.mem_map.mp member
    exact before.beyond _ (by omega)
  have digits := length_decimal_counter state.genericCounter
  rw [toBytes, List.length_map] at digits
  rw [slice_sprintf]
  by_cases small : state.genericCounter.toNat < 10
  · rw [if_pos small] at digits
    rw [before.counter] at small
    have behind : state.message.slice 2 126 = state.message 2 :: List.replicate 125 0 := by
      rw [show 126 = 1 + 125 by rfl, Memory.slice_add, zeros 3 125 le_rfl]
      rfl
    rw [padded, digits, behind, before.left small]
    by_cases late : 256 ≤ k
    · rw [if_pos late, if_pos ⟨late, small⟩]
    · rw [if_neg late, if_neg fun stale => late stale.1]
      rfl
  · rw [if_neg small] at digits
    rw [before.counter] at small
    have two : 2 ≤ (Text.decimal state.genericCounter.toNat).length := by
      rw [digits]
      split <;> decide
    have short := (decimal_counter state.genericCounter).2
    rw [if_neg fun stale => small stale.2, padded, zeros _ _ (by omega), ← List.replicate_succ]
    congr 2
    omega

theorem lineMessage_iterate (crypto : Crypto) (privateKey : Mpi) (state : LoopState)
    (ecdsaGenerateSignature : GenerateSignature) :
    lineMessage (iterate crypto privateKey state ecdsaGenerateSignature).1 =
      Text.decimal state.genericCounter.toNat := by
  have blank_free := space_not_mem_decimal state.genericCounter
  rw [lineMessage, serialText, text_iterate, line, List.takeWhile_append_of_pos]
  · simp
  · intro c member
    simpa using fun blank : c = ' ' => blank_free (blank ▸ member)

/-- In the `k`-th iteration of a run the message printed is the counter, and the bytes hashed are
those of `Before.slice_eq`. -/
theorem iterations_getElem? {crypto : Crypto} {startup : Startup}
    {signings : List GenerateSignature} {k : Nat} {actions : List Action}
    (found : (iterations crypto startup signings)[k]? = some actions) :
    ∃ counter : UInt8, counter.toNat = k % 256 ∧
      lineMessage actions = Text.decimal counter.toNat ∧
      ∃ bytes, bytes = (if Stale k then
          toBytes (Text.decimal counter.toNat) ++ 0 :: 0x35 :: List.replicate 125 0
        else
          padded (Text.decimal counter.toNat)) ∧
        actions.filterMap hashedBytes = [bytes] ∧
        actions.filterMap printedDigest = [crypto.sha256 bytes] := by
  rw [iterations, List.getElem?_map, Option.map_eq_some_iff] at found
  obtain ⟨⟨state, sign⟩, reached, rfl⟩ := found
  have before : Before k state :=
    invariant_of_getElem?_steps
      (fun _ _ sign before => before.next crypto startup.privateKey sign) before_reset reached
  refine ⟨state.genericCounter, before.counter, lineMessage_iterate .., _, rfl, ?_⟩
  rw [← before.slice_eq]
  exact ⟨rfl, rfl⟩

/-- The `k`-th iteration hashes its message exactly when nothing is left behind the text. -/
theorem hashesMessage_iff {crypto : Crypto} {startup : Startup}
    {signings : List GenerateSignature} {k : Nat} {actions : List Action}
    (found : (iterations crypto startup signings)[k]? = some actions) :
    HashesMessage actions ↔ ¬ Stale k := by
  obtain ⟨counter, value, message, bytes, bytes_eq, hashed, -⟩ := iterations_getElem? found
  rw [HashesMessage, hashed, List.singleton_inj, message, bytes_eq]
  by_cases stale : Stale k
  · rw [if_pos stale]
    have digits := length_decimal_counter counter
    rw [if_pos (by rw [value]; exact stale.2), toBytes, List.length_map] at digits
    simp only [stale, not_true_eq_false, iff_false]
    intro equal
    rw [padded, digits] at equal
    have second := congrArg (fun bytes => bytes.drop 1) (List.append_cancel_left equal)
    have head := congrArg List.head? second
    cases head
  · rw [if_neg stale]
    exact iff_of_true rfl stale

theorem length_iterations (crypto : Crypto) (startup : Startup)
    (signings : List GenerateSignature) :
    (iterations crypto startup signings).length = signings.length := by
  rw [iterations, List.length_map, length_steps]

/-- A run of up to 256 iterations leaves nothing behind a text. -/
theorem digestsMessages_of_short (crypto : Crypto) (startup : Startup)
    {signings : List GenerateSignature} (short : signings.length ≤ 256) :
    DigestsMessages (iterations crypto startup signings) := by
  have clean (actions : List Action) (member : actions ∈ iterations crypto startup signings) :
      ∃ bytes, bytes = padded (lineMessage actions) ∧ actions.filterMap hashedBytes = [bytes] ∧
        actions.filterMap printedDigest = [crypto.sha256 bytes] := by
    obtain ⟨k, found⟩ := List.mem_iff_getElem?.mp member
    have inside := (List.getElem?_eq_some_iff.mp found).1
    rw [length_iterations] at inside
    obtain ⟨counter, -, message, bytes, bytes_eq, observed⟩ := iterations_getElem? found
    rw [if_neg fun stale => absurd stale.1 (by omega), ← message] at bytes_eq
    exact ⟨bytes, bytes_eq, observed⟩
  constructor
  · intro actions member
    obtain ⟨bytes, bytes_eq, hashed, -⟩ := clean actions member
    rw [HashesMessage, hashed, bytes_eq]
  · intro first first_mem second second_mem same
    obtain ⟨bytes, bytes_eq, -, digest⟩ := clean first first_mem
    obtain ⟨bytes', bytes_eq', -, digest'⟩ := clean second second_mem
    rw [digest, digest', bytes_eq, bytes_eq', same]

/-- A longer run hashes the left-over digit in its iteration 256. -/
theorem not_digestsMessages_of_long (crypto : Crypto) (startup : Startup)
    {signings : List GenerateSignature} (long : 256 < signings.length) :
    ¬ DigestsMessages (iterations crypto startup signings) := by
  intro digests
  rw [← length_iterations crypto startup] at long
  have found := List.getElem?_eq_getElem long
  exact (hashesMessage_iff found).mp (digests.hashed _ (List.getElem_mem long)) (by decide)

/-- A run hashes the messages that it prints exactly when it has at most 256 iterations; an
iteration does exactly when it is among the first 256 or its counter is at least 10. -/
theorem message_digest_iff (crypto : Crypto) (startup : Startup)
    (signings : List GenerateSignature) :
    (DigestsMessages (iterations crypto startup signings) ↔ signings.length ≤ 256) ∧
      ∀ k actions, (iterations crypto startup signings)[k]? = some actions →
        (HashesMessage actions ↔ k < 256 ∨ 10 ≤ k % 256) := by
  constructor
  · constructor
    · intro digests
      by_contra long
      exact not_digestsMessages_of_long crypto startup (Nat.lt_of_not_le long) digests
    · exact digestsMessages_of_short crypto startup
  · intro k actions found
    rw [hashesMessage_iff found, Stale, not_and_or, Nat.not_le, Nat.not_lt]

theorem first_message_digest :
    DigestsMessages (iterations sampleCrypto sampleStartup [oneSignature]) ∧
      HashesMessage
        (iterate sampleCrypto sampleStartup.privateKey reset oneSignature).1 :=
  ⟨(message_digest_iff sampleCrypto sampleStartup [oneSignature]).1.mpr (by decide),
    ((message_digest_iff sampleCrypto sampleStartup [oneSignature]).2 0 _ rfl).mpr (by decide)⟩

/-- In a run of 257 iterations the last one hashes `0`, a NUL and the last digit of `255`. -/
theorem wrapped_counter_digest :
    ¬ DigestsMessages
      (iterations sampleCrypto sampleStartup (List.replicate 257 oneSignature)) :=
  not_digestsMessages_of_long sampleCrypto sampleStartup
    (List.length_replicate.symm ▸ Nat.lt_succ_self 256)

end PpmlIot.Stm32

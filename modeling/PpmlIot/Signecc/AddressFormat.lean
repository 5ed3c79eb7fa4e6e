import PpmlIot.Signecc.ParseAddr

/-!
# The format of addresses

An address is a sequence of runs of hexadecimal digits between single separators.  The parser reads
every address, and also texts with one separator too many in front of runs of odd length.
-/

namespace PpmlIot.Signecc

open Library

def chars (text : List UInt8) : Text :=
  text.map fun c => Char.ofNat c.toNat

/-- The bytes of a run of digits, which is filled up to an even length with a zero in front. -/
def runBytes (run : List UInt8) : List UInt8 :=
  (Hex.unhexlify (List.replicate (run.length % 2) '0' ++ chars run)).getD []

def addressBytes (grouping : Grouping isHexDigit) : List UInt8 :=
  grouping.groups.flatMap fun group => runBytes group.run

/-- One separator may stand in front of each run but the first, and one more in front of each run of
odd length. -/
structure Tolerated (grouping : Grouping isHexDigit) : Prop where
  first : grouping.first.gap.length ≤ grouping.first.run.length % 2
  rest : ∀ group ∈ grouping.rest, group.gap.length ≤ 1 + group.run.length % 2

theorem hexValue_of_foreign {c : UInt8} (foreign : isHexDigit c = false) : hexValue c = none :=
  Option.not_isSome_iff_eq_none.mp (Bool.eq_false_iff.mp foreign)

theorem exists_hexValue {c : UInt8} (digit : isHexDigit c = true) : ∃ low, hexValue c = some low :=
  Option.isSome_iff_exists.mp digit

/-- The flag does not matter in front of a digit. -/
theorem cells_congr {c : UInt8} (digit : isHexDigit c = true) (left right : Bool)
    (rest : List UInt8) : cells left (c :: rest) = cells right (c :: rest) := by
  obtain ⟨low, value⟩ := exists_hexValue digit
  cases rest with
  | nil => rw [cells_last value, cells_last value]
  | cons d rest => rw [cells_digit value, cells_digit value]

/-- A run of even length, given from its end, is read two digits at a time. -/
theorem cells_even (count : Nat) {backwards : List UInt8}
    (digits : ∀ c ∈ backwards, isHexDigit c = true) (even : backwards.length = 2 * count) :
    ∃ bytes, Hex.unhexlify (chars backwards.reverse) = some bytes ∧
      ∀ tail, cells false (backwards ++ tail) = (cells false tail).map (bytes.reverse ++ ·) := by
  induction count generalizing backwards with
  | zero =>
      rw [List.eq_nil_of_length_eq_zero even]
      exact ⟨[], rfl, fun tail => by simp⟩
  | succ count induction =>
      obtain ⟨low, rest, rfl⟩ := List.exists_cons_of_length_eq_add_one even
      obtain ⟨high, backwards, rfl⟩ := List.exists_cons_of_length_eq_add_one
        (show rest.length = 2 * count + 1 by simpa [Nat.mul_succ] using even)
      have shorter : ∀ c ∈ backwards, isHexDigit c = true :=
        fun c member => digits c (by simp [member])
      obtain ⟨bytes, read, scanned⟩ := induction shorter (by simpa [Nat.mul_succ] using even)
      obtain ⟨l, low_value⟩ := exists_hexValue (digits low (by simp))
      obtain ⟨h, high_value⟩ := exists_hexValue (digits high (by simp))
      refine ⟨bytes ++ [UInt8.ofNat (16 * h + l)], ?_, ?_⟩
      · have pair : Hex.unhexlify (chars [high, low]) = some [UInt8.ofNat (16 * h + l)] := by
          simp only [hexValue] at low_value high_value
          simp [chars, Hex.unhexlify, low_value, high_value]
        have split : chars (low :: high :: backwards).reverse =
            chars backwards.reverse ++ chars [high, low] := by
          simp [chars]
        rw [split, Hex.unhexlify_append read, pair]
        rfl
      · intro tail
        rw [List.cons_append, List.cons_append, cells_digit low_value, high_value,
          Option.getD_some, scanned, Option.map_map, List.reverse_append]
        rfl

theorem cells_run_even {run : List UInt8} (digits : ∀ c ∈ run, isHexDigit c = true)
    (even : run.length % 2 = 0) (before : List UInt8) :
    cells false (run.reverse ++ before) =
      (cells false before).map ((runBytes run).reverse ++ ·) := by
  obtain ⟨bytes, read, scanned⟩ := cells_even (run.length / 2)
    (fun c member => digits c (List.mem_reverse.mp member)) (by rw [List.length_reverse]; omega)
  rw [List.reverse_reverse] at read
  rw [scanned, runBytes, even, List.replicate_zero, List.nil_append, read]
  rfl

/-- The first digit of a run of odd length is a byte of its own, as if a zero stood in front. -/
theorem cells_run_odd {d : UInt8} {run : List UInt8}
    (digits : ∀ c ∈ d :: run, isHexDigit c = true) (even : run.length % 2 = 0)
    {before : List UInt8} (foreign : ∀ c ∈ before.head?, isHexDigit c = false) :
    cells false ((d :: run).reverse ++ before) =
      (cells false (before.drop 1)).map ((runBytes (d :: run)).reverse ++ ·) := by
  have odd : (d :: run).length % 2 = 1 := by
    rw [List.length_cons]
    omega
  obtain ⟨bytes, read, scanned⟩ := cells_even (run.length / 2)
    (fun c member => digits c (List.mem_cons_of_mem d (List.mem_reverse.mp member)))
    (by rw [List.length_reverse]; omega)
  rw [List.reverse_reverse] at read
  obtain ⟨low, value⟩ := exists_hexValue (digits d List.mem_cons_self)
  have zero : Hex.digitValue '0' = some 0 := rfl
  have padded : runBytes (d :: run) = UInt8.ofNat low :: bytes := by
    have filled : List.replicate ((d :: run).length % 2) '0' ++ chars (d :: run) =
        '0' :: Char.ofNat d.toNat :: chars run := by
      rw [odd]
      rfl
    rw [hexValue] at value
    simp only [runBytes, filled, Hex.unhexlify, zero, value, read, Option.map_some,
      Option.getD_some, Nat.mul_zero, Nat.zero_add]
  have taken : cells false (d :: before) =
      (cells false (before.drop 1)).map (UInt8.ofNat low :: ·) := by
    cases before with
    | nil => exact cells_last value false
    | cons c before =>
        rw [cells_digit value, hexValue_of_foreign (foreign c rfl), Option.getD_none,
          Nat.mul_zero, Nat.zero_add, List.drop_succ_cons, List.drop_zero]
  rw [List.reverse_cons, List.append_assoc, scanned, List.singleton_append, taken, padded,
    Option.map_map, List.reverse_cons]
  congr 1
  funext found
  simp

/-- A run is read completely, and a run of odd length takes a separator in front of it along. -/
theorem cells_run {run : List UInt8} (digits : ∀ c ∈ run, isHexDigit c = true)
    (nonempty : run ≠ []) {before : List UInt8} (foreign : ∀ c ∈ before.head?, isHexDigit c = false)
    (assertCell : Bool) :
    cells assertCell (run.reverse ++ before) =
      (cells false (before.drop (run.length % 2))).map ((runBytes run).reverse ++ ·) := by
  have unflagged : cells assertCell (run.reverse ++ before) =
      cells false (run.reverse ++ before) := by
    obtain ⟨c, rest, backwards⟩ := List.exists_cons_of_ne_nil (List.reverse_ne_nil_iff.mpr nonempty)
    rw [backwards, List.cons_append]
    exact cells_congr (digits c (List.mem_reverse.mp (by simp [backwards]))) ..
  rw [unflagged]
  rcases Nat.mod_two_eq_zero_or_one run.length with even | odd
  · rw [even, List.drop_zero, cells_run_even digits even]
  · obtain ⟨d, run, rfl⟩ := List.exists_cons_of_ne_nil nonempty
    rw [odd, cells_run_odd digits (by rw [List.length_cons] at odd; omega) foreign]

/-- Of a gap, one separator is passed over. -/
theorem cells_gap {gap : List UInt8} (foreign : ∀ c ∈ gap, isHexDigit c = false)
    (before : List UInt8) :
    cells false (gap ++ before) =
      if gap.length ≤ 1 then cells (gap.length = 1) before else none := by
  match gap with
  | [] => rfl
  | [c] => exact cells_foreign (hexValue_of_foreign (foreign c (by simp))) false before
  | c :: d :: gap =>
      rw [List.cons_append, List.cons_append,
        cells_foreign (hexValue_of_foreign (foreign c (by simp))),
        cells_foreign (hexValue_of_foreign (foreign d (by simp)))]
      simp

/-- A group is passed over if its gap is no longer than its run allows. -/
theorem cells_group (group : Group isHexDigit) (before : List UInt8)
    (gapped : group.gap ≠ [] ∨ before = []) (assertCell : Bool) :
    cells assertCell (group.run.reverse ++ (group.gap.reverse ++ before)) =
      (if group.gap.length ≤ 1 + group.run.length % 2 then
          cells (group.gap.length = 1 + group.run.length % 2) before
        else
          none).map ((runBytes group.run).reverse ++ ·) := by
  have parity : group.run.length % 2 < 2 := Nat.mod_lt _ (by decide)
  have gap_foreign (c : UInt8) (member : c ∈ group.gap.reverse) : isHexDigit c = false :=
    group.foreign c (List.mem_reverse.mp member)
  by_cases empty : group.gap = []
  · obtain rfl := gapped.resolve_left (not_not.mpr empty)
    rw [cells_run group.digits group.nonempty (by simp [empty]), empty]
    have unflagged : ¬ 0 = 1 + group.run.length % 2 := by omega
    simp [cells, unflagged]
  · have positive := List.length_pos_iff.mpr empty
    have head (c : UInt8) (member : c ∈ (group.gap.reverse ++ before).head?) :
        isHexDigit c = false := by
      rw [List.head?_append_of_ne_nil _ (List.reverse_ne_nil_iff.mpr empty)] at member
      exact gap_foreign c (List.mem_of_mem_head? member)
    have left (c : UInt8) (member : c ∈ group.gap.reverse.drop (group.run.length % 2)) :
        isHexDigit c = false :=
      gap_foreign c (List.mem_of_mem_drop member)
    rw [cells_run group.digits group.nonempty head,
      List.drop_append_of_le_length (by rw [List.length_reverse]; omega), cells_gap left,
      List.length_drop, List.length_reverse]
    have short : group.gap.length - group.run.length % 2 ≤ 1 ↔
        group.gap.length ≤ 1 + group.run.length % 2 := by omega
    have flag : group.gap.length - group.run.length % 2 = 1 ↔
        group.gap.length = 1 + group.run.length % 2 := by omega
    simp only [short, flag]

theorem tolerated_single {first : Group isHexDigit} :
    Tolerated (.single first) ↔ first.gap.length ≤ first.run.length % 2 :=
  ⟨fun tolerated => tolerated.first, fun short => ⟨short, by simp [Grouping.single]⟩⟩

theorem tolerated_snoc {grouping : Grouping isHexDigit} {group : Group isHexDigit}
    {separated : group.gap ≠ []} :
    Tolerated (grouping.snoc group separated) ↔
      Tolerated grouping ∧ group.gap.length ≤ 1 + group.run.length % 2 := by
  constructor
  · intro tolerated
    exact ⟨⟨tolerated.first, fun other member => tolerated.rest other (by simp [Grouping.snoc,
      member])⟩, tolerated.rest group (by simp [Grouping.snoc])⟩
  · rintro ⟨tolerated, short⟩
    refine ⟨tolerated.first, ?_⟩
    intro other member
    rcases List.mem_append.mp member with earlier | last
    · exact tolerated.rest other earlier
    · rwa [List.mem_singleton.mp last]

/-- The backward scan accepts exactly the tolerated groupings, and reads the bytes of their runs. -/
theorem cells_text (grouping : Grouping isHexDigit) (assertCell : Bool) :
    (Tolerated grouping →
      cells assertCell grouping.text.reverse = some (addressBytes grouping).reverse) ∧
    (¬ Tolerated grouping → cells assertCell grouping.text.reverse = none) := by
  induction grouping using Grouping.snocInduction generalizing assertCell with
  | single first =>
      have scanned := cells_group first [] (.inr rfl) assertCell
      rw [List.append_nil, ← List.reverse_append] at scanned
      rw [Grouping.text_single, scanned, tolerated_single]
      constructor
      · intro short
        rw [if_pos (by omega), decide_eq_false (by omega)]
        simp [cells, addressBytes]
      · intro long
        split
        · rw [decide_eq_true (by omega)]
          rfl
        · rfl
  | snoc grouping group separated induction =>
      have scanned := cells_group group grouping.text.reverse (.inl separated) assertCell
      rw [← List.reverse_append, ← List.reverse_append, List.append_assoc] at scanned
      rw [Grouping.text_snoc, scanned, tolerated_snoc]
      obtain ⟨accepts, rejects⟩ := induction (group.gap.length = 1 + group.run.length % 2)
      constructor
      · rintro ⟨tolerated, short⟩
        rw [if_pos short, accepts tolerated]
        simp [addressBytes]
      · intro intolerable
        split
        · rename_i short
          rw [rejects fun tolerated => intolerable ⟨tolerated, short⟩]
          rfl
        · rfl

/-- An address is accepted, as far as the output allows, exactly when it has a tolerated
grouping. -/
theorem addressOf_text (grouping : Grouping isHexDigit) :
    (Tolerated grouping → addressOf grouping.text = some (addressBytes grouping)) ∧
    (¬ Tolerated grouping → addressOf grouping.text = none) := by
  obtain ⟨accepts, rejects⟩ := cells_text grouping true
  constructor
  · intro tolerated
    rw [addressOf, accepts tolerated, Option.map_some, List.reverse_reverse]
  · intro intolerable
    rw [addressOf, rejects intolerable]
    rfl

/-- A separator at the end is never accepted. -/
theorem addressOf_foreign_end {front : List UInt8} {c : UInt8} (foreign : isHexDigit c = false) :
    addressOf (front ++ [c]) = none := by
  rw [addressOf, List.reverse_append, List.reverse_singleton, List.singleton_append,
    cells_foreign (hexValue_of_foreign foreign)]
  rfl

/-- Every text that is accepted has a tolerated grouping. -/
theorem exists_of_address {text bytes : List UInt8} (address : addressOf text = some bytes) :
    ∃ grouping : Grouping isHexDigit, text = grouping.text ∧ Tolerated grouping ∧
      bytes = addressBytes grouping := by
  have ends_with_digit {front : List UInt8} {c : UInt8} (ends : text = front ++ [c]) :
      isHexDigit c ≠ false := by
    intro foreign
    rw [ends, addressOf_foreign_end foreign] at address
    cases address
  rcases Grouping.exists_of_text isHexDigit text with
    foreign | ⟨grouping, tail, rfl, foreign⟩
  · rcases List.eq_nil_or_concat' text with rfl | ⟨front, c, ends⟩
    · cases address
    · exact absurd (foreign c (by simp [ends])) (ends_with_digit ends)
  · rcases List.eq_nil_or_concat' tail with rfl | ⟨front, c, rfl⟩
    · rw [List.append_nil] at address ⊢
      by_cases tolerated : Tolerated grouping
      · rw [(addressOf_text grouping).1 tolerated, Option.some_inj] at address
        exact ⟨grouping, rfl, tolerated, address.symm⟩
      · rw [(addressOf_text grouping).2 tolerated] at address
        cases address
    · exact absurd (foreign c (by simp)) (ends_with_digit (List.append_assoc ..).symm)

/-! ## Well-formed addresses -/

/-- `_parse_addr` returns the number of these bytes and puts them at the output's start, if they
fit; otherwise it returns 0. -/
structure ParsesTo (out : Memory) (outLen : Nat) (input : CString) (bytes : List UInt8) : Prop where
  whole : bytes.length ≤ outLen →
    (parseAddr out outLen (some input)).result = bytes.length ∧
      (parseAddr out outLen (some input)).out.slice 0 bytes.length = bytes ∧
      ∀ address, bytes.length ≤ address →
        (parseAddr out outLen (some input)).out address = out address
  full : outLen < bytes.length → (parseAddr out outLen (some input)).result = 0

theorem parsesTo_of_address {input : CString} {bytes : List UInt8}
    (address : addressOf input.bytes = some bytes) (out : Memory) (outLen : Nat) :
    ParsesTo out outLen input bytes where
  whole := by
    intro fits
    obtain ⟨result, out_eq⟩ := parseAddr_of_address out address fits
    refine ⟨result, ?_, ?_⟩
    · rw [out_eq]
      exact Memory.slice_write_self out 0 bytes
    · intro index beyond
      rw [out_eq, Memory.write_apply_of_le (by omega)]
  full := by
    intro long
    apply parseAddr_of_not_address
    intro other found
    rw [address, Option.some_inj] at found
    rwa [← found]

theorem tolerated_of_singlySeparated {grouping : Grouping isHexDigit}
    (singly : grouping.SinglySeparated) : Tolerated grouping := by
  constructor
  · rw [singly.1]
    exact Nat.zero_le _
  · intro group member
    rw [singly.2 group member]
    omega

def lowerDigit (value : Nat) : UInt8 :=
  UInt8.ofNat (Nat.digitChar value).toNat

theorem lowerDigit_eq {value : Nat} (small : value < 16) :
    Char.ofNat (lowerDigit value).toNat = Nat.digitChar value ∧
      hexValue (lowerDigit value) = some value := by
  have every : ∀ v ∈ List.range 16, Char.ofNat (lowerDigit v).toNat = Nat.digitChar v ∧
      hexValue (lowerDigit v) = some v := by decide
  exact every value (List.mem_range.mpr small)

/-- A byte as it is printed behind a given gap. -/
def printedGroup (gap : List UInt8) (foreign : ∀ c ∈ gap, isHexDigit c = false) (byte : UInt8) :
    Group isHexDigit where
  gap := gap
  run := [lowerDigit (byte.toNat / 16 % 16), lowerDigit (byte.toNat % 16)]
  foreign := foreign
  digits := by
    intro c member
    have high := (lowerDigit_eq (Nat.mod_lt (byte.toNat / 16) (by decide))).2
    have low := (lowerDigit_eq (Nat.mod_lt byte.toNat (by decide))).2
    simp only [List.mem_cons, List.not_mem_nil, or_false] at member
    rcases member with rfl | rfl
    · rw [isHexDigit, high]
      rfl
    · rw [isHexDigit, low]
      rfl
  nonempty := by simp

theorem chars_printedGroup (gap : List UInt8) (foreign : ∀ c ∈ gap, isHexDigit c = false)
    (byte : UInt8) :
    chars (printedGroup gap foreign byte).run = Hex.fixed Nat.digitChar 2 byte.toNat := by
  have high := (lowerDigit_eq (Nat.mod_lt (byte.toNat / 16) (by decide))).1
  have low := (lowerDigit_eq (Nat.mod_lt byte.toNat (by decide))).1
  simp [chars, printedGroup, Hex.fixed, high, low]

theorem runBytes_printedGroup {gap : List UInt8} {foreign : ∀ c ∈ gap, isHexDigit c = false}
    (byte : UInt8) : runBytes (printedGroup gap foreign byte).run = [byte] := by
  have high := (lowerDigit_eq (Nat.mod_lt (byte.toNat / 16) (by decide))).2
  have low := (lowerDigit_eq (Nat.mod_lt byte.toNat (by decide))).2
  have value : UInt8.ofNat (16 * (byte.toNat / 16 % 16) + byte.toNat % 16) = byte := by
    apply UInt8.toNat_inj.mp
    have := byte.toNat_lt
    rw [UInt8.toNat_ofNat']
    omega
  rw [hexValue] at high low
  simp only [runBytes, printedGroup, chars, List.length_cons, List.length_nil, List.map_cons,
    List.map_nil]
  simp only [Nat.reduceAdd, Nat.reduceMod, List.replicate_zero, List.nil_append, Hex.unhexlify,
    high, low, Option.map_some, Option.getD_some, value]

/-- Printed bytes are an address of these bytes. -/
theorem exists_printed {bytes : List UInt8} (nonempty : bytes ≠ []) :
    ∃ grouping : Grouping isHexDigit, grouping.SinglySeparated ∧
      chars grouping.text = printAddr bytes ∧ addressBytes grouping = bytes := by
  induction bytes using List.reverseRecOn with
  | nil => exact absurd rfl nonempty
  | append_singleton bytes byte induction =>
      have printed : printAddr (bytes ++ [byte]) = printAddr bytes ++
          ((if bytes.length ≠ 0 then [':'] else []) ++ Hex.fixed Nat.digitChar 2 byte.toNat) := by
        simp [printAddr, List.zipIdx_append]
      by_cases only : bytes = []
      · refine ⟨.single (printedGroup [] (by simp) byte), ⟨rfl, by simp [Grouping.single]⟩, ?_, ?_⟩
        · rw [printed, only, Grouping.text_single, ← chars_printedGroup [] (by simp) byte]
          rfl
        · simp [addressBytes, runBytes_printedGroup, only]
      · obtain ⟨grouping, singly, text, read⟩ := induction only
        have colon : ∀ c ∈ [(0x3A : UInt8)], isHexDigit c = false :=
          List.forall_mem_singleton.mpr rfl
        let group := printedGroup [0x3A] colon byte
        refine ⟨grouping.snoc group (by simp [group, printedGroup]),
          Grouping.singlySeparated_snoc.mpr ⟨singly, rfl⟩, ?_, ?_⟩
        · have length : bytes.length ≠ 0 := by simpa using only
          rw [printed, if_pos length, Grouping.text_snoc, ← text,
            ← chars_printedGroup [0x3A] colon byte]
          simp [chars, group, printedGroup]
        · simp only [addressBytes] at read
          simp [addressBytes, group, runBytes_printedGroup, read]

theorem chars_injective {left right : List UInt8} (equal : chars left = chars right) :
    left = right := by
  apply List.map_injective_iff.mpr _ equal
  intro c d same
  have code : ∀ v ∈ List.range 256, (Char.ofNat v).toNat = v := by decide +kernel
  have codes := congrArg Char.toNat same
  dsimp only at codes
  rw [code c.toNat (List.mem_range.mpr c.toNat_lt), code d.toNat (List.mem_range.mpr d.toNat_lt)]
    at codes
  exact UInt8.toNat_inj.mp codes

/-- `_parse_addr` reads every well-formed address, and in particular every printed one. -/
theorem parseAddr_of_wellFormed (out : Memory) (outLen : Nat) (input : CString) :
    (∀ grouping : Grouping isHexDigit, grouping.SinglySeparated → input.bytes = grouping.text →
      ParsesTo out outLen input (addressBytes grouping)) ∧
    ∀ bytes, bytes ≠ [] → input.chars = printAddr bytes → ParsesTo out outLen input bytes := by
  have read (grouping : Grouping isHexDigit) (singly : grouping.SinglySeparated)
      (text : input.bytes = grouping.text) :
      ParsesTo out outLen input (addressBytes grouping) := by
    apply parsesTo_of_address
    rw [text]
    exact (addressOf_text grouping).1 (tolerated_of_singlySeparated singly)
  refine ⟨read, ?_⟩
  intro bytes nonempty printed
  obtain ⟨grouping, singly, text, bytes_eq⟩ := exists_printed nonempty
  rw [← bytes_eq]
  exact read grouping singly (chars_injective (printed.trans text.symm))

/-- The address `1:a02`, whose runs have odd length, and a printed one. -/
theorem parseAddr_odd_runs :
    ParsesTo (fun _ => 0) 8 ⟨[0x31, 0x3a, 0x61, 0x30, 0x32], by decide⟩ [0x01, 0x0a, 0x02] ∧
      ParsesTo (fun _ => 0) 8 ⟨[0x31, 0x32, 0x3a, 0x33, 0x34], by decide⟩ [0x12, 0x34] := by
  let grouping : Grouping isHexDigit :=
    { first := ⟨[], [0x31], by simp, List.all_eq_true.mp rfl, by simp⟩
      rest := [⟨[0x3a], [0x61, 0x30, 0x32], List.forall_mem_singleton.mpr rfl,
        List.all_eq_true.mp rfl, by simp⟩]
      separated := by simp }
  exact ⟨(parseAddr_of_wellFormed (fun _ => 0) 8 _).1 grouping ⟨rfl, by simp [grouping]⟩ rfl,
    (parseAddr_of_wellFormed (fun _ => 0) 8 _).2 [0x12, 0x34] (by simp) (by decide)⟩

/-! ## Malformed addresses -/

/-- What is accepted is well-formed, and misplaced separators are rejected. -/
structure AcceptsOnlyWellFormed (out : Memory) (outLen : Nat) (input : CString) : Prop where
  accepted : 0 < (parseAddr out outLen (some input)).result →
    ∃ grouping : Grouping isHexDigit, grouping.SinglySeparated ∧ input.bytes = grouping.text
  rejected : Misplaced isHexDigit input.bytes → (parseAddr out outLen (some input)).result = 0

/-- The input has a separator too many, but only in front of runs of odd length, where the parser
takes it for an upper digit; and its bytes fit the output. -/
def Slips (outLen : Nat) (input : CString) : Prop :=
  ∃ grouping : Grouping isHexDigit, input.bytes = grouping.text ∧ Tolerated grouping ∧
    ¬ grouping.SinglySeparated ∧ (addressBytes grouping).length ≤ outLen

theorem not_acceptsOnlyWellFormed {outLen : Nat} {input : CString} (slips : Slips outLen input)
    (out : Memory) : ¬ AcceptsOnlyWellFormed out outLen input := by
  intro only
  obtain ⟨grouping, text, tolerated, extra, fits⟩ := slips
  have address : addressOf input.bytes = some (addressBytes grouping) := by
    rw [text, (addressOf_text grouping).1 tolerated]
  have result := (parseAddr_of_address out address fits).1
  have positive := List.length_pos_iff.mpr (address_ne_nil address)
  have misplaced : Misplaced isHexDigit input.bytes := by
    rwa [grouping.singlySeparated_iff, not_not, ← text] at extra
  have zero := only.rejected misplaced
  omega

/-- `_parse_addr` accepts well-formed addresses only, exactly on the inputs on which it does not
slip. -/
theorem accepts_only_wellFormed_iff (out : Memory) (outLen : Nat) (input : CString) :
    AcceptsOnlyWellFormed out outLen input ↔ ¬ Slips outLen input := by
  constructor
  · intro only slips
    exact not_acceptsOnlyWellFormed slips out only
  · intro firm
    have singly (positive : (parseAddr out outLen (some input)).result ≠ 0) :
        ∃ grouping : Grouping isHexDigit, grouping.SinglySeparated ∧
          input.bytes = grouping.text := by
      rcases parseAddr_cases out outLen input with ⟨bytes, address, fits, -, -⟩ | ⟨-, zero⟩
      · obtain ⟨grouping, text, tolerated, rfl⟩ := exists_of_address address
        refine ⟨grouping, ?_, text⟩
        by_contra extra
        exact firm ⟨grouping, text, tolerated, extra, fits⟩
      · exact absurd zero positive
    constructor
    · intro positive
      exact singly positive.ne'
    · intro misplaced
      by_contra positive
      obtain ⟨grouping, singly, text⟩ := singly positive
      rw [text] at misplaced
      exact grouping.singlySeparated_iff.mp singly misplaced

/-- In `1::2` the second run takes one of two separators along, and the text is read as `01:02`. -/
theorem double_separator_accepted :
    ¬ AcceptsOnlyWellFormed (fun _ => 0) 8 ⟨[0x31, 0x3a, 0x3a, 0x32], by decide⟩ := by
  intro only
  have zero := only.rejected (.inr (.inr ⟨[0x31], 0x3a, 0x3a, [0x32], rfl, rfl, rfl⟩))
  revert zero
  decide

end PpmlIot.Signecc

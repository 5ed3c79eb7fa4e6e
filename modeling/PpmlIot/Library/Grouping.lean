import Mathlib.Data.List.Chain
import Mathlib.Data.List.Pairwise

/-!
# Runs of digits between separators

A text over an alphabet with digits falls into groups, each a run of digits with the separators in
front of it, and a tail of separators.  The runs are separated one by one exactly when no separator
stands at an end of the text or next to another separator.
-/

namespace Library

variable {α : Type*} {digit : α → Bool}

/-- A run of digits, with the separators in front of it. -/
structure Group (digit : α → Bool) where
  gap : List α
  run : List α
  foreign : ∀ c ∈ gap, digit c = false
  digits : ∀ c ∈ run, digit c = true
  nonempty : run ≠ []

/-- The groups of a text.  Separators may be missing in front of the first. -/
structure Grouping (digit : α → Bool) where
  first : Group digit
  rest : List (Group digit)
  separated : ∀ group ∈ rest, group.gap ≠ []

/-- A separator at an end of a text, or two adjacent ones. -/
def Misplaced (digit : α → Bool) (text : List α) : Prop :=
  (∃ c rest, text = c :: rest ∧ digit c = false) ∨
    (∃ front c, text = front ++ [c] ∧ digit c = false) ∨
    ∃ front c d back, text = front ++ c :: d :: back ∧ digit c = false ∧ digit d = false

namespace Grouping

def groups (grouping : Grouping digit) : List (Group digit) :=
  grouping.first :: grouping.rest

def text (grouping : Grouping digit) : List α :=
  grouping.groups.flatMap fun group => group.gap ++ group.run

/-- No separator in front of the first run, and one in front of each other. -/
def SinglySeparated (grouping : Grouping digit) : Prop :=
  grouping.first.gap = [] ∧ ∀ group ∈ grouping.rest, group.gap.length = 1

def single (first : Group digit) : Grouping digit where
  first := first
  rest := []
  separated := by simp

/-- One more group at the end. -/
def snoc (grouping : Grouping digit) (group : Group digit) (separated : group.gap ≠ []) :
    Grouping digit where
  first := grouping.first
  rest := grouping.rest ++ [group]
  separated := by
    intro other member
    rcases List.mem_append.mp member with inside | last
    · exact grouping.separated other inside
    · rwa [List.mem_singleton.mp last]

/-- Induction from the first group to the last. -/
@[elab_as_elim]
theorem snocInduction {motive : Grouping digit → Prop}
    (single : ∀ first, motive (single first))
    (snoc : ∀ (grouping : Grouping digit) (group : Group digit) (separated : group.gap ≠ []),
      motive grouping → motive (grouping.snoc group separated))
    (grouping : Grouping digit) : motive grouping := by
  obtain ⟨first, rest, separated⟩ := grouping
  induction rest using List.reverseRecOn with
  | nil => exact single first
  | append_singleton rest group induction =>
      have earlier : ∀ other ∈ rest, other.gap ≠ [] := fun other member =>
        separated other (List.mem_append_left _ member)
      exact snoc ⟨first, rest, earlier⟩ group (separated group (by simp)) (induction earlier)

@[simp]
theorem groups_single (first : Group digit) : (single first).groups = [first] := rfl

@[simp]
theorem groups_snoc (grouping : Grouping digit) (group : Group digit)
    (separated : group.gap ≠ []) :
    (grouping.snoc group separated).groups = grouping.groups ++ [group] := rfl

@[simp]
theorem text_single (first : Group digit) : (single first).text = first.gap ++ first.run := by
  simp [text]

@[simp]
theorem text_snoc (grouping : Grouping digit) (group : Group digit) (separated : group.gap ≠ []) :
    (grouping.snoc group separated).text = grouping.text ++ (group.gap ++ group.run) := by
  simp [text]

theorem singlySeparated_snoc {grouping : Grouping digit} {group : Group digit}
    {separated : group.gap ≠ []} :
    (grouping.snoc group separated).SinglySeparated ↔
      grouping.SinglySeparated ∧ group.gap.length = 1 := by
  simp only [SinglySeparated, snoc, List.mem_append, List.mem_singleton, or_imp, forall_and,
    forall_eq, and_assoc]

/-- A text without groups consists of separators; any other ends with separators. -/
theorem exists_of_text (digit : α → Bool) (text : List α) :
    (∀ c ∈ text, digit c = false) ∨
      ∃ (grouping : Grouping digit) (tail : List α), text = grouping.text ++ tail ∧
        ∀ c ∈ tail, digit c = false := by
  induction text with
  | nil => simp
  | cons c text induction =>
      by_cases digit_c : digit c = true
      · right
        let alone : Group digit := ⟨[], [c], by simp, by simpa using digit_c, by simp⟩
        rcases induction with foreign | ⟨grouping, tail, rfl, foreign⟩
        · exact ⟨single alone, text, by simp [alone], foreign⟩
        · obtain ⟨first, rest, separated⟩ := grouping
          by_cases adjacent : first.gap = []
          · let longer : Group digit :=
              ⟨[], c :: first.run, by simp, by simpa [digit_c] using first.digits, by simp⟩
            exact ⟨⟨longer, rest, separated⟩, tail, by simp [Grouping.text, groups, longer,
              adjacent], foreign⟩
          · refine ⟨⟨alone, first :: rest, ?_⟩, tail, by simp [Grouping.text, groups, alone],
              foreign⟩
            simpa [adjacent] using separated
      · have foreign_c : digit c = false := Bool.eq_false_iff.mpr digit_c
        rcases induction with foreign | ⟨grouping, tail, rfl, foreign⟩
        · left
          simpa [foreign_c] using foreign
        · right
          obtain ⟨first, rest, separated⟩ := grouping
          let farther : Group digit :=
            ⟨c :: first.gap, first.run, by simpa [foreign_c] using first.foreign, first.digits,
              first.nonempty⟩
          exact ⟨⟨farther, rest, separated⟩, tail, by simp [Grouping.text, groups, farther],
            foreign⟩

theorem exists_text_eq_concat (grouping : Grouping digit) :
    ∃ front c, grouping.text = front ++ [c] ∧ digit c = true := by
  induction grouping using snocInduction with
  | single first =>
      refine ⟨first.gap ++ first.run.dropLast, first.run.getLast first.nonempty, ?_,
        first.digits _ (List.getLast_mem _)⟩
      rw [text_single, List.append_assoc, List.dropLast_append_getLast]
  | snoc grouping group separated _ =>
      refine ⟨grouping.text ++ (group.gap ++ group.run.dropLast),
        group.run.getLast group.nonempty, ?_, group.digits _ (List.getLast_mem _)⟩
      rw [text_snoc, List.append_assoc, List.append_assoc, List.dropLast_append_getLast]

/-- Between single separators, one of any two neighbours is a digit. -/
theorem isChain_text {grouping : Grouping digit} (singly : grouping.SinglySeparated) :
    grouping.text.IsChain fun c d => digit c = true ∨ digit d = true := by
  have run_chain (group : Group digit) :
      group.run.IsChain fun c d => digit c = true ∨ digit d = true := by
    apply List.Pairwise.isChain
    exact List.pairwise_of_forall_mem_list fun c member _ _ => .inl (group.digits c member)
  induction grouping using snocInduction with
  | single first =>
      have at_front : first.gap = [] := singly.1
      rw [text_single, at_front, List.nil_append]
      exact run_chain first
  | snoc grouping group separated induction =>
      obtain ⟨earlier, length⟩ := singlySeparated_snoc.mp singly
      obtain ⟨c, gap⟩ := List.length_eq_one_iff.mp length
      obtain ⟨front, last, ends, last_digit⟩ := grouping.exists_text_eq_concat
      rw [text_snoc, gap, List.singleton_append, List.isChain_append]
      refine ⟨induction earlier, ?_, ?_⟩
      · rw [List.isChain_cons]
        refine ⟨?_, run_chain group⟩
        intro d head
        exact .inr (group.digits d (List.mem_of_mem_head? head))
      · intro d at_end _ _
        rw [ends, List.getLast?_concat, Option.mem_some_iff] at at_end
        exact .inl (at_end ▸ last_digit)

theorem singlySeparated_iff (grouping : Grouping digit) :
    grouping.SinglySeparated ↔ ¬ Misplaced digit grouping.text := by
  constructor
  · rintro singly (⟨c, rest, starts, foreign⟩ | ⟨front, c, ends, foreign⟩ |
      ⟨front, c, d, back, inside, foreign_c, foreign_d⟩)
    · have member : c ∈ grouping.first.run := by
        obtain ⟨d, run, first_run⟩ := List.exists_cons_of_ne_nil grouping.first.nonempty
        rw [text, groups, List.flatMap_cons, singly.1, first_run] at starts
        rw [first_run, ← (List.cons.inj starts).1]
        exact List.mem_cons_self
      rw [grouping.first.digits c member] at foreign
      cases foreign
    · obtain ⟨_, d, ends', digit_d⟩ := grouping.exists_text_eq_concat
      obtain ⟨-, same⟩ := List.append_inj' (ends'.symm.trans ends) rfl
      rw [List.singleton_inj.mp same, foreign] at digit_d
      cases digit_d
    · have chain := isChain_text singly
      rw [inside, List.isChain_append_cons_cons, foreign_c, foreign_d] at chain
      simp at chain
  · intro placed
    refine ⟨?_, ?_⟩
    · by_contra present
      obtain ⟨c, gap, first_gap⟩ := List.exists_cons_of_ne_nil present
      refine placed (.inl ⟨c, gap ++ grouping.first.run ++ grouping.rest.flatMap fun group =>
        group.gap ++ group.run, by simp [text, groups, first_gap], ?_⟩)
      exact grouping.first.foreign c (by simp [first_gap])
    · intro group member
      by_contra several
      obtain ⟨c, gap, cons⟩ := List.exists_cons_of_ne_nil (grouping.separated group member)
      rw [cons, List.length_cons, Nat.add_eq_right, List.length_eq_zero_iff] at several
      obtain ⟨d, gap, rfl⟩ := List.exists_cons_of_ne_nil several
      obtain ⟨front, back, split⟩ := List.mem_iff_append.mp member
      refine placed (.inr (.inr ⟨grouping.first.gap ++ grouping.first.run ++
        front.flatMap (fun group => group.gap ++ group.run), c, d,
        gap ++ group.run ++ back.flatMap fun group => group.gap ++ group.run, ?_, ?_, ?_⟩))
      · simp [text, groups, split, cons]
      · exact group.foreign c (by simp [cons])
      · exact group.foreign d (by simp [cons])

end Grouping
end Library

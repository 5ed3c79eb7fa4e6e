import Mathlib.Logic.Relation

/-!
# Runs

Two notions of a run.  A machine that consumes a list of inputs passes through the pairs of
`steps`, each a state together with the input consumed in it.  A relation that may take many steps
from one state is run by reflexive-transitive closure.  Each carries a rule that turns a fact about
one step into a fact about every run.
-/

namespace Library

/-- The state before each input of a run, with that input. -/
def steps {State Input : Type*} (next : State → Input → State) :
    State → List Input → List (State × Input)
  | _, [] => []
  | state, input :: inputs => (state, input) :: steps next (next state input) inputs

section Machine

variable {State Input : Type*} {next : State → Input → State}

@[simp]
theorem steps_nil (state : State) : steps next state [] = [] := rfl

@[simp]
theorem steps_cons (state : State) (input : Input) (inputs : List Input) :
    steps next state (input :: inputs) =
      (state, input) :: steps next (next state input) inputs := rfl

theorem steps_append (state : State) (front back : List Input) :
    steps next state (front ++ back) =
      steps next state front ++ steps next (front.foldl next state) back := by
  induction front generalizing state with
  | nil => rfl
  | cons input front induction => simp [induction]

theorem length_steps (state : State) (inputs : List Input) :
    (steps next state inputs).length = inputs.length := by
  induction inputs generalizing state with
  | nil => rfl
  | cons input inputs induction => simp [induction]

/-- What each step passes on to the next, counting the steps, holds before every step. -/
theorem invariant_of_getElem?_steps {invariant : Nat → State → Prop}
    (preserved : ∀ count state input, invariant count state →
      invariant (count + 1) (next state input))
    {state : State} (holds : invariant 0 state) {inputs : List Input} {index : Nat}
    {step : State × Input} (found : (steps next state inputs)[index]? = some step) :
    invariant index step.1 := by
  have shifted (count : Nat) : ∀ (inputs : List Input) (state : State) (index : Nat),
      invariant count state → (steps next state inputs)[index]? = some step →
        invariant (count + index) step.1 := by
    intro inputs
    induction inputs generalizing count with
    | nil => simp
    | cons input inputs induction =>
        intro state index holds found
        cases index with
        | zero =>
            obtain rfl : (state, input) = step := by simpa using found
            exact holds
        | succ index =>
            rw [← Nat.add_assoc, Nat.add_right_comm]
            exact induction (count + 1) (next state input) index
              (preserved count state input holds) (by simpa using found)
  simpa using shifted 0 inputs state index holds found

/-- The inputs of the steps of a run are the inputs consumed. -/
theorem forall_steps_input_iff {property : Input → Prop} (state : State) (inputs : List Input) :
    (∀ step ∈ steps next state inputs, property step.2) ↔ ∀ input ∈ inputs, property input := by
  induction inputs generalizing state with
  | nil => simp
  | cons input inputs induction =>
      rw [steps_cons, List.forall_mem_cons, List.forall_mem_cons, induction]

/-- Two properties that agree on every step agree on every run. -/
theorem forall_steps_congr {left right : State × Input → Prop}
    (agree : ∀ step, left step ↔ right step) {state : State} {inputs : List Input} :
    (∀ step ∈ steps next state inputs, left step) ↔
      ∀ step ∈ steps next state inputs, right step :=
  forall₂_congr fun step _ => agree step

/-- What possible steps preserve holds throughout a run of possible steps. -/
theorem invariant_of_possible {possible : State → Input → Prop} {invariant : State → Prop}
    (preserved : ∀ state input, possible state input → invariant state →
      invariant (next state input))
    {state : State} (holds : invariant state) {inputs : List Input}
    (run : ∀ step ∈ steps next state inputs, possible step.1 step.2) :
    (∀ step ∈ steps next state inputs, invariant step.1) ∧
      invariant (inputs.foldl next state) := by
  induction inputs generalizing state with
  | nil => simpa using holds
  | cons input inputs induction =>
      rw [steps_cons, List.forall_mem_cons] at run
      have kept := preserved state input run.1 holds
      obtain ⟨between, final⟩ := induction kept run.2
      rw [steps_cons, List.forall_mem_cons]
      exact ⟨⟨holds, between⟩, final⟩

end Machine

section Relation

variable {State : Type*} {relation : State → State → Prop}

/-- What every step of a relation preserves holds in every reachable state. -/
theorem invariant_of_reachable {invariant : State → Prop}
    (preserved : ∀ before after, relation before after → invariant before → invariant after)
    {initial final : State} (holds : invariant initial)
    (run : Relation.ReflTransGen relation initial final) : invariant final := by
  induction run with
  | refl => exact holds
  | tail _ step induction => exact preserved _ _ step induction

end Relation
end Library

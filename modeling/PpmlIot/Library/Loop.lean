import Mathlib.Tactic.TypeStar

/-!
# Loops

A loop of an imperative function, turn by turn.  A turn goes round again, leaves the loop or returns
from the function.  By the rule of total correctness an invariant and a variant give an outcome for
every sufficient amount of fuel.
-/

namespace Library

/-- What one turn of a loop does: go round again, leave the loop, or return from the function. -/
inductive Turn (State Result : Type*)
  | again (state : State)
  | leave (state : State)
  | finish (result : Result)

variable {State Result : Type*}

/-- Run a loop and what stands behind it; `none` when the fuel does not suffice. -/
def runLoop (turn : State → Turn State Result) (behind : State → Option Result) :
    Nat → State → Option Result
  | 0, _ => none
  | fuel + 1, state =>
      match turn state with
      | .again next => runLoop turn behind fuel next
      | .leave last => behind last
      | .finish result => some result

/-- Each way on from a turn has its own requirement. -/
def Turn.Meets (again left : State → Prop) (returned : Result → Prop) :
    Turn State Result → Prop
  | .again next => again next
  | .leave last => left last
  | .finish result => returned result

/-- A loop ends if each turn that goes round again keeps the invariant and lowers the variant. -/
theorem runLoop_ends {turn : State → Turn State Result} {behind : State → Option Result}
    {invariant left : State → Prop} {returned : Result → Prop} (variant : State → Nat)
    (keeps : ∀ state, invariant state →
      (turn state).Meets (fun next => invariant next ∧ variant next < variant state) left returned)
    (ends : ∀ last, left last → ∃ result, behind last = some result ∧ returned result)
    {fuel : Nat} {state : State} (holds : invariant state) (enough : variant state < fuel) :
    ∃ result, runLoop turn behind fuel state = some result ∧ returned result := by
  induction fuel generalizing state with
  | zero => exact absurd enough (Nat.not_lt_zero _)
  | succ fuel induction =>
      have kept := keeps state holds
      rw [runLoop]
      cases turned : turn state with
      | again next =>
          rw [turned] at kept
          exact induction kept.1 (Nat.lt_of_lt_of_le kept.2 (Nat.le_of_lt_succ enough))
      | leave last =>
          rw [turned] at kept
          exact ends last kept
      | finish result =>
          rw [turned] at kept
          exact ⟨result, rfl, kept⟩

end Library

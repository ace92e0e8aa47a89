import Mathlib.Logic.Basic

/-!
# Machines that answer calls

A machine takes a state and a call to an answer and the state after it.  A
view of its states refines another machine when every call gets the same
answer there and leads to the view of the next state; then sequences of calls
do so too.
-/

namespace CallMachine

universe u v w x

variable {State : Type u} {Seen : Type v} {Call : Type w} {Answer : Type x}

/-- The state after a sequence of calls. -/
def afterCalls (machine : State → Call → Answer × State) :
    State → List Call → State
  | state, [] => state
  | state, call :: rest => afterCalls machine (machine state call).2 rest

/-- The answers to a sequence of calls. -/
def answersTo (machine : State → Call → Answer × State) :
    State → List Call → List Answer
  | _, [] => []
  | state, call :: rest =>
      (machine state call).1 :: answersTo machine (machine state call).2 rest

/-- The states that are `kept` stay so, and what is seen of them is a state of
the other machine: it gives the same answers and takes the same steps. -/
structure Refines
    (concrete : State → Call → Answer × State)
    (abstract : Seen → Call → Answer × Seen)
    (kept : State → Prop) (view : State → Seen) : Prop where
  keeps : ∀ state call, kept state → kept (concrete state call).2
  answer : ∀ state call, kept state →
    (concrete state call).1 = (abstract (view state) call).1
  step : ∀ state call, kept state →
    view (concrete state call).2 = (abstract (view state) call).2

namespace Refines

variable {concrete : State → Call → Answer × State}
variable {abstract : Seen → Call → Answer × Seen}
variable {kept : State → Prop} {view : State → Seen}
variable {state : State}

theorem kept_afterCalls (refines : Refines concrete abstract kept view)
    (start : kept state) (calls : List Call) :
    kept (afterCalls concrete state calls) := by
  induction calls generalizing state with
  | nil =>
      exact start
  | cons call rest inductionHypothesis =>
      exact inductionHypothesis (refines.keeps state call start)

theorem view_afterCalls (refines : Refines concrete abstract kept view)
    (start : kept state) (calls : List Call) :
    view (afterCalls concrete state calls) =
      afterCalls abstract (view state) calls := by
  induction calls generalizing state with
  | nil =>
      rfl
  | cons call rest inductionHypothesis =>
      have later :=
        inductionHypothesis (refines.keeps state call start)
      rw [refines.step state call start] at later
      exact later

theorem answersTo_eq (refines : Refines concrete abstract kept view)
    (start : kept state) (calls : List Call) :
    answersTo concrete state calls = answersTo abstract (view state) calls := by
  induction calls generalizing state with
  | nil =>
      rfl
  | cons call rest inductionHypothesis =>
      have later :=
        inductionHypothesis (refines.keeps state call start)
      rw [refines.step state call start] at later
      rw [answersTo, answersTo, refines.answer state call start, later]

end Refines

end CallMachine

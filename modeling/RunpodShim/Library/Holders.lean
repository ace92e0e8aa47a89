import Mathlib.Logic.Function.Basic

/-!
# Numbers in the hands of threads

Threads are in stages, a stage has some of a set of numbers, and no two
threads have the same number.  What is true of a number is said in two parts,
for a number at rest and for one that a thread has, and a step is looked at
only at the number that it is about.
-/

namespace Holders

universe u v w

variable {Thread : Type u} {Stage : Type v} {Number : Type w}
variable {holds : Stage → Number → Prop}

/-- No thread has the number. -/
def AtRest (holds : Stage → Number → Prop) (stages : Thread → Stage)
    (number : Number) : Prop :=
  ∀ thread, ¬ holds (stages thread) number

/-- No two threads have a number; one at rest is settled, and of one that a
thread has is true what its stage says. -/
structure Guarded (holds : Stage → Number → Prop)
    (stages : Thread → Stage) (settled : Number → Prop)
    (during : Stage → Number → Prop) : Prop where
  alone : ∀ number thread other, holds (stages thread) number →
    holds (stages other) number → thread = other
  resting : ∀ number, AtRest holds stages number → settled number
  held : ∀ number thread, holds (stages thread) number →
    during (stages thread) number

section Guarded

variable {stages : Thread → Stage} {settled after : Number → Prop}
variable {during duringAfter : Stage → Number → Prop}

/-- The numbers change, the stages do not. -/
theorem Guarded.mono (guarded : Guarded holds stages settled during)
    (rests : ∀ number, settled number → after number)
    (goesOn : ∀ number stage, holds stage number → during stage number →
      duringAfter stage number) :
    Guarded holds stages after duringAfter where
  alone := guarded.alone
  resting := by
    intro number atRest
    exact rests number (guarded.resting number atRest)
  held := by
    intro number thread holdsIt
    exact goesOn number _ holdsIt (guarded.held number thread holdsIt)

theorem Guarded.others (guarded : Guarded holds stages settled during)
    {number : Number} {thread : Thread}
    (has : holds (stages thread) number) (other : Thread)
    (differs : other ≠ thread) : ¬ holds (stages other) number := by
  intro alsoHas
  exact differs (guarded.alone number other thread alsoHas has)

variable [DecidableEq Thread] {thread : Thread} {stage : Stage}

/-- A thread goes from stage to stage with one number, which no other thread
has, and the other numbers stay as they are. -/
theorem Guarded.step (guarded : Guarded holds stages settled during)
    (number : Number)
    (others : ∀ other, other ≠ thread → ¬ holds (stages other) number)
    (old : ∀ asked, holds (stages thread) asked → asked = number)
    (new : ∀ asked, holds stage asked → asked = number)
    (elsewhere : ∀ asked, asked ≠ number → settled asked → after asked)
    (elsewhereDuring : ∀ asked held, asked ≠ number →
      holds held asked → during held asked → duringAfter held asked)
    (restsHere : ¬ holds stage number → after number)
    (heldHere : holds stage number → duringAfter stage number) :
    Guarded holds (Function.update stages thread stage) after
      duringAfter where
  alone := by
    intro asked first second firstHas secondHas
    by_cases firstIs : first = thread
    · by_cases secondIs : second = thread
      · rw [firstIs, secondIs]
      · rw [firstIs, Function.update_self] at firstHas
        rw [Function.update_of_ne secondIs, new asked firstHas]
          at secondHas
        exact absurd secondHas (others second secondIs)
    · rw [Function.update_of_ne firstIs] at firstHas
      by_cases secondIs : second = thread
      · rw [secondIs, Function.update_self] at secondHas
        rw [new asked secondHas] at firstHas
        exact absurd firstHas (others first firstIs)
      · rw [Function.update_of_ne secondIs] at secondHas
        exact guarded.alone asked first second firstHas secondHas
  resting := by
    intro asked atRest
    have released : ¬ holds stage asked := by
      have own := atRest thread
      rwa [Function.update_self] at own
    by_cases here : asked = number
    · rw [here] at released ⊢
      exact restsHere released
    · apply elsewhere asked here
      apply guarded.resting asked
      intro other has
      by_cases isThread : other = thread
      · rw [isThread] at has
        exact here (old asked has)
      · have free := atRest other
        rw [Function.update_of_ne isThread] at free
        exact free has
  held := by
    intro asked other has
    by_cases isThread : other = thread
    · rw [isThread, Function.update_self] at has ⊢
      have here := new asked has
      rw [here] at has ⊢
      exact heldHere has
    · rw [Function.update_of_ne isThread] at has ⊢
      by_cases here : asked = number
      · rw [here] at has
        exact absurd has (others other isThread)
      · exact
          elsewhereDuring asked _ here has
            (guarded.held asked other has)

/-- A thread goes from stage to stage without a number. -/
theorem Guarded.pass (guarded : Guarded holds stages settled during)
    (old : ∀ number, ¬ holds (stages thread) number)
    (new : ∀ number, ¬ holds stage number) :
    Guarded holds (Function.update stages thread stage) settled
      during where
  alone := by
    intro number first second firstHas secondHas
    have notThread (other : Thread)
        (has : holds (Function.update stages thread stage other) number) :
        other ≠ thread := by
      rintro rfl
      rw [Function.update_self] at has
      exact new number has
    rw [Function.update_of_ne (notThread first firstHas)] at firstHas
    rw [Function.update_of_ne (notThread second secondHas)] at secondHas
    exact guarded.alone number first second firstHas secondHas
  resting := by
    intro number atRest
    apply guarded.resting number
    intro other has
    by_cases isThread : other = thread
    · rw [isThread] at has
      exact old number has
    · have free := atRest other
      rw [Function.update_of_ne isThread] at free
      exact free has
  held := by
    intro number other has
    by_cases isThread : other = thread
    · rw [isThread, Function.update_self] at has
      exact absurd has (new number)
    · rw [Function.update_of_ne isThread] at has ⊢
      exact guarded.held number other has

end Guarded

end Holders

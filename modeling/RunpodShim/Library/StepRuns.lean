import Mathlib.Logic.Basic

/-!
# Runs of partial step functions

A system is a function taking a state and a label to the next state, or to
nothing where the label is not possible in that state.  This module has the
runs of such a system, the induction rule for invariants along runs whose
steps all meet a condition, and history variables.
-/

namespace StepRuns

universe u v w

variable {State : Type u} {Label : Type v} {History : Type w}

/-- The state reached by taking every label in order, if all are possible. -/
def runFrom (step : State → Label → Option State) :
    State → List Label → Option State
  | start, [] => some start
  | start, label :: rest =>
      (step start label).bind fun next => runFrom step next rest

/-- Every step that the run takes meets `condition`. -/
def StepsMeet
    (step : State → Label → Option State)
    (condition : State → Label → State → Prop) :
    State → List Label → Prop
  | _, [] => True
  | start, label :: rest =>
      ∀ next, step start label = some next →
        condition start label next ∧ StepsMeet step condition next rest

/-- Whether every step meets a decidable condition can be decided. -/
instance decidableStepsMeet
    (step : State → Label → Option State)
    (condition : State → Label → State → Prop)
    [∀ before label after, Decidable (condition before label after)] :
    ∀ (start : State) (labels : List Label),
      Decidable (StepsMeet step condition start labels)
  | _, [] => isTrue trivial
  | start, label :: rest =>
      match taken : step start label with
      | none =>
          isTrue fun next stepped => by
            rw [taken] at stepped
            cases stepped
      | some next =>
          have : Decidable (StepsMeet step condition next rest) :=
            decidableStepsMeet step condition next rest
          decidable_of_iff
            (condition start label next ∧
              StepsMeet step condition next rest)
            ⟨fun both other stepped => by
                rw [taken] at stepped
                cases stepped
                exact both,
              fun meets => meets next taken⟩

/-- `property` holds in every state that the run passes through. -/
def Throughout
    (step : State → Label → Option State) (property : State → Prop) :
    State → List Label → Prop
  | start, [] => property start
  | start, label :: rest =>
      property start ∧
        ∀ next, step start label = some next →
          Throughout step property next rest

section Runs

variable {step : State → Label → Option State}
variable {condition : State → Label → State → Prop}
variable {invariant property : State → Prop}

/-- Runs one after the other. -/
theorem runFrom_append {start middle : State} {first : List Label}
    (run : runFrom step start first = some middle) (second : List Label) :
    runFrom step start (first ++ second) = runFrom step middle second := by
  induction first generalizing start with
  | nil =>
      cases run
      rfl
  | cons label rest inductionHypothesis =>
      cases taken : step start label with
      | none =>
          simp [runFrom, taken] at run
      | some next =>
          have later : runFrom step next rest = some middle := by
            simpa [runFrom, taken] using run
          simpa [runFrom, taken] using inductionHypothesis later

/-- An invariant kept by every step that meets the condition holds at the end
of every run whose steps all meet it. -/
theorem invariant_of_run
    (keeps : ∀ before label after,
      invariant before → condition before label after →
        step before label = some after → invariant after) :
    ∀ {labels : List Label} {start finish : State},
      invariant start →
      StepsMeet step condition start labels →
      runFrom step start labels = some finish →
        invariant finish
  | [], start, finish, initial, _, run => by
      have same : start = finish := by
        simpa [runFrom] using run
      exact same ▸ initial
  | label :: rest, start, finish, initial, meets, run => by
      cases taken : step start label with
      | none =>
          simp [runFrom, taken] at run
      | some next =>
          have here := meets next taken
          have later : runFrom step next rest = some finish := by
            simpa [runFrom, taken] using run
          exact
            invariant_of_run keeps
              (keeps start label next initial here.1 taken)
              here.2 later

/-- The unconditional form: an invariant kept by every step. -/
theorem invariant_of_every_run
    (keeps : ∀ before label after,
      invariant before → step before label = some after →
        invariant after)
    {labels : List Label} {start finish : State}
    (initial : invariant start)
    (run : runFrom step start labels = some finish) :
    invariant finish := by
  have meets :
      ∀ (labels : List Label) (start : State),
        StepsMeet step (fun _ _ _ => True) start labels := by
    intro labels
    induction labels with
    | nil =>
        intro start
        trivial
    | cons label rest inductionHypothesis =>
        intro start next _
        exact ⟨trivial, inductionHypothesis next⟩
  exact
    invariant_of_run
      (fun before label after holds _ taken =>
        keeps before label after holds taken)
      initial (meets labels start) run

/-- `Throughout` says what it should: the property holds after every prefix
of the run. -/
theorem throughout_iff_prefixes (labels : List Label) (start : State) :
    Throughout step property start labels ↔
      ∀ first second finish,
        labels = first ++ second →
        runFrom step start first = some finish →
          property finish := by
  induction labels generalizing start with
  | nil =>
      constructor
      · intro holds first second finish split run
        have empty : first = [] :=
          (List.append_eq_nil_iff.mp split.symm).1
        subst empty
        have same : start = finish := by
          simpa [runFrom] using run
        exact same ▸ holds
      · intro everywhere
        exact everywhere [] [] start rfl rfl
  | cons label rest inductionHypothesis =>
      constructor
      · intro holds first second finish split run
        cases first with
        | nil =>
            have same : start = finish := by
              simpa [runFrom] using run
            exact same ▸ holds.1
        | cons head tail =>
            simp only [List.cons_append, List.cons.injEq] at split
            cases taken : step start head with
            | none =>
                simp [runFrom, taken] at run
            | some next =>
                have later : runFrom step next tail = some finish := by
                  simpa [runFrom, taken] using run
                have tailHolds :=
                  holds.2 next (split.1 ▸ taken)
                exact
                  (inductionHypothesis next).mp tailHolds
                    tail second finish split.2 later
      · intro everywhere
        refine ⟨everywhere [] (label :: rest) start rfl rfl, ?_⟩
        intro next taken
        apply (inductionHypothesis next).mpr
        intro first second finish split run
        apply everywhere (label :: first) second finish
        · rw [split, List.cons_append]
        · simpa [runFrom, taken] using run

/-- When steps that meet the condition keep the invariant, and a step that
does not meet it leads to a state without the property, the property holds
throughout a run exactly when all its steps meet the condition.  Every step
of the run meets what is assumed of it. -/
theorem throughout_iff_stepsMeet_of_assumed
    {assumed : State → Label → State → Prop}
    (shows : ∀ state, invariant state → property state)
    (keeps : ∀ before label after,
      invariant before → assumed before label after →
        condition before label after →
          step before label = some after → invariant after)
    (breaks : ∀ before label after,
      invariant before → assumed before label after →
        ¬ condition before label after →
          step before label = some after → ¬ property after)
    (labels : List Label) {start : State} (initial : invariant start)
    (promised : StepsMeet step assumed start labels) :
    Throughout step property start labels ↔
      StepsMeet step condition start labels := by
  induction labels generalizing start with
  | nil =>
      exact iff_of_true (shows start initial) trivial
  | cons label rest inductionHypothesis =>
      constructor
      · intro holds next taken
        obtain ⟨here, later⟩ := promised next taken
        have atNext := holds.2 next taken
        have propertyNext : property next :=
          (throughout_iff_prefixes rest next).mp atNext [] rest next rfl rfl
        have meets : condition start label next := by
          apply Classical.byContradiction
          intro fails
          exact
            breaks start label next initial here fails taken propertyNext
        have kept := keeps start label next initial here meets taken
        exact ⟨meets, (inductionHypothesis kept later).mp atNext⟩
      · intro meets
        refine ⟨shows start initial, ?_⟩
        intro next taken
        obtain ⟨here, later⟩ := promised next taken
        obtain ⟨met, rest⟩ := meets next taken
        have kept := keeps start label next initial here met taken
        exact (inductionHypothesis kept later).mpr rest

/-- A condition that no step can fail is met by every run. -/
theorem stepsMeet_of_forall
    (always : ∀ before label after,
      step before label = some after → condition before label after) :
    ∀ (labels : List Label) (start : State),
      StepsMeet step condition start labels
  | [], _ => trivial
  | label :: rest, start => by
      intro next taken
      exact
        ⟨always start label next taken,
          stepsMeet_of_forall always rest next⟩

/-- The form that assumes nothing of the steps. -/
theorem throughout_iff_stepsMeet
    (shows : ∀ state, invariant state → property state)
    (keeps : ∀ before label after,
      invariant before → condition before label after →
        step before label = some after → invariant after)
    (breaks : ∀ before label after,
      invariant before → ¬ condition before label after →
        step before label = some after → ¬ property after)
    (labels : List Label) {start : State} (initial : invariant start) :
    Throughout step property start labels ↔
      StepsMeet step condition start labels := by
  have promised : StepsMeet step (fun _ _ _ => True) start labels :=
    stepsMeet_of_forall (fun _ _ _ _ => trivial) labels start
  apply throughout_iff_stepsMeet_of_assumed shows _ _ labels initial promised
  · intro before label after holds _ met taken
    exact keeps before label after holds met taken
  · intro before label after holds _ fails taken
    exact breaks before label after holds fails taken

end Runs

/-! ## History variables -/

/-- The system that also records a history: `observe` sees each step with the
states before and after it, and the system itself never reads the history. -/
def withHistory
    (step : State → Label → Option State)
    (observe : State → Label → State → History → History) :
    State × History → Label → Option (State × History) :=
  fun current label =>
    (step current.1 label).map fun next =>
      (next, observe current.1 label next current.2)

/-- A history of what is kept under keys: one value for the keys that a step
has just brought into use, the others for the rest. -/
def atNew {Key : Type u} {Item : Type v} {Value : Type w}
    (before after : Key → Option Item) (fresh : Value)
    (others : Key → Value) (key : Key) : Value :=
  if (before key).isNone ∧ (after key).isSome then fresh else others key

section New

variable {Key : Type u} {Item : Type v} {Value : Type w}
variable {before after : Key → Option Item} {fresh : Value}
variable {others : Key → Value} {key : Key}

theorem atNew_of_none (wasFree : before key = none)
    (isUsed : after key ≠ none) :
    atNew before after fresh others key = fresh := by
  apply if_pos
  rw [wasFree]
  exact ⟨rfl, Option.isSome_iff_ne_none.mpr isUsed⟩

theorem atNew_of_ne_none (wasUsed : before key ≠ none) :
    atNew before after fresh others key = others key := by
  apply if_neg
  rintro ⟨wasFree, _⟩
  exact wasUsed (Option.isNone_iff_eq_none.mp wasFree)

theorem atNew_of_eq (same : after key = before key) :
    atNew before after fresh others key = others key := by
  apply if_neg
  rw [same]
  rintro ⟨wasFree, isUsed⟩
  rw [Option.isNone_iff_eq_none.mp wasFree] at isUsed
  cases isUsed

/-- Where a step brings no key into use, nothing new is kept. -/
theorem atNew_of_no_new (stays : ∀ key, before key = none → after key = none) :
    atNew before after fresh others = others := by
  funext key
  by_cases wasUsed : before key = none
  · exact atNew_of_eq ((stays key wasUsed).trans wasUsed.symm)
  · exact atNew_of_ne_none wasUsed

theorem atNew_self : atNew before before fresh others = others :=
  atNew_of_no_new fun _ wasFree => wasFree

end New

theorem withHistory_eq_some
    {step : State → Label → Option State}
    {observe : State → Label → State → History → History}
    {before after : State × History} {label : Label} :
    withHistory step observe before label = some after ↔
      step before.1 label = some after.1 ∧
        after.2 = observe before.1 label after.1 before.2 := by
  obtain ⟨next, history⟩ := after
  constructor
  · intro taken
    simp only [withHistory, Option.map_eq_some_iff, Prod.mk.injEq] at taken
    obtain ⟨reached, stepped, rfl, rfl⟩ := taken
    exact ⟨stepped, rfl⟩
  · rintro ⟨stepped, recorded⟩
    simp only at stepped recorded
    simp [withHistory, stepped, recorded]

/-- Recording a history takes no run away from the system and adds none. -/
theorem exists_run_withHistory
    {step : State → Label → Option State}
    (observe : State → Label → State → History → History)
    (labels : List Label) (start finish : State) (history : History) :
    (∃ recorded,
      runFrom (withHistory step observe) (start, history) labels =
        some (finish, recorded)) ↔
      runFrom step start labels = some finish := by
  induction labels generalizing start history with
  | nil =>
      simp [runFrom]
  | cons label rest inductionHypothesis =>
      cases taken : step start label with
      | none =>
          simp [runFrom, withHistory, taken]
      | some next =>
          simpa [runFrom, withHistory, taken] using
            inductionHypothesis next
              (observe start label next history)

end StepRuns

import Mathlib.Data.List.Basic

/-!
# Tables searched for their first match

A list used as a table: an operation finds the first element meeting a
predicate and updates or deletes it.  The lemmas say what a later search
finds, by the same predicate or by another one, and how many matches there
are.
-/

namespace FirstMatch

universe u

variable {α : Type u}

/-- Apply `change` to the first element that meets `test`. -/
def updateFirst (test : α → Bool) (change : α → α) : List α → List α
  | [] => []
  | head :: tail =>
      if test head then change head :: tail
      else head :: updateFirst test change tail

section Update

variable {test other : α → Bool} {change : α → α}

theorem updateFirst_of_find?_eq_none {items : List α}
    (absent : items.find? test = none) :
    updateFirst test change items = items := by
  induction items with
  | nil =>
      rfl
  | cons head tail inductionHypothesis =>
      have headMisses : ¬ test head :=
        List.find?_eq_none.mp absent head List.mem_cons_self
      have tailAbsent : tail.find? test = none := by
        simpa [headMisses] using absent
      simp [updateFirst, headMisses, inductionHypothesis tailAbsent]

/-- A change that leaves the first match as it is changes nothing. -/
theorem updateFirst_of_fixed {items : List α}
    (fixed : ∀ item, items.find? test = some item → change item = item) :
    updateFirst test change items = items := by
  induction items with
  | nil =>
      rfl
  | cons head tail inductionHypothesis =>
      by_cases found : test head
      · have same : change head = head :=
          fixed head (by simp [found])
        simp [updateFirst, found, same]
      · have tailFixed :
            ∀ item, tail.find? test = some item → change item = item := by
          intro item first
          exact fixed item (by simpa [found] using first)
        simp [updateFirst, found, inductionHypothesis tailFixed]

theorem length_updateFirst (test : α → Bool) (change : α → α)
    (items : List α) :
    (updateFirst test change items).length = items.length := by
  induction items with
  | nil =>
      rfl
  | cons head tail inductionHypothesis =>
      rw [updateFirst]
      split
      · rfl
      · rw [List.length_cons, List.length_cons, inductionHypothesis]

/-- A change that stays a match is found again in its new form. -/
theorem find?_updateFirst_self
    (stays : ∀ item, test item → test (change item))
    (items : List α) :
    (updateFirst test change items).find? test =
      (items.find? test).map change := by
  induction items with
  | nil =>
      rfl
  | cons head tail inductionHypothesis =>
      by_cases found : test head
      · simp [updateFirst, found, stays head found]
      · simp [updateFirst, found, inductionHypothesis]

/-- A search that sees neither the old nor the new form is not affected. -/
theorem find?_updateFirst_of_unseen
    (before : ∀ item, test item → ¬ other item)
    (after : ∀ item, test item → ¬ other (change item))
    (items : List α) :
    (updateFirst test change items).find? other = items.find? other := by
  induction items with
  | nil =>
      rfl
  | cons head tail inductionHypothesis =>
      by_cases found : test head
      · simp [updateFirst, found, before head found, after head found]
      · simp only [updateFirst, found, Bool.false_eq_true, if_false,
          List.find?_cons, inductionHypothesis]

/-- When nothing matched `other`, a change that turns a `test` element into
an `other` element makes it the first match. -/
theorem find?_updateFirst_of_gained {items : List α}
    (absent : items.find? other = none)
    (gains : ∀ item, test item → other (change item)) :
    (updateFirst test change items).find? other =
      (items.find? test).map change := by
  induction items with
  | nil =>
      rfl
  | cons head tail inductionHypothesis =>
      have headMisses : ¬ other head :=
        List.find?_eq_none.mp absent head List.mem_cons_self
      have tailAbsent : tail.find? other = none := by
        simpa [headMisses] using absent
      by_cases found : test head
      · simp [updateFirst, found, gains head found]
      · simp [updateFirst, found, headMisses,
          inductionHypothesis tailAbsent]

theorem countP_updateFirst_of_unchanged
    (same : ∀ item, test item → other (change item) = other item)
    (items : List α) :
    (updateFirst test change items).countP other = items.countP other := by
  induction items with
  | nil =>
      rfl
  | cons head tail inductionHypothesis =>
      by_cases found : test head
      · simp [updateFirst, found, List.countP_cons, same head found]
      · simp [updateFirst, found, List.countP_cons, inductionHypothesis]

theorem countP_updateFirst_le_of_lost
    (loses : ∀ item, test item → ¬ other (change item))
    (items : List α) :
    (updateFirst test change items).countP other ≤ items.countP other := by
  induction items with
  | nil =>
      exact Nat.le_refl _
  | cons head tail inductionHypothesis =>
      by_cases found : test head
      · simp only [updateFirst, found, if_true, List.countP_cons,
          loses head found, Bool.false_eq_true, if_false]
        omega
      · simp only [updateFirst, found, Bool.false_eq_true, if_false,
          List.countP_cons]
        omega

theorem countP_updateFirst_le_succ (items : List α) :
    (updateFirst test change items).countP other ≤
      items.countP other + 1 := by
  induction items with
  | nil =>
      exact Nat.zero_le _
  | cons head tail inductionHypothesis =>
      by_cases found : test head
      · simp only [updateFirst, found, if_true, List.countP_cons]
        split <;> split <;> omega
      · simp only [updateFirst, found, Bool.false_eq_true, if_false,
          List.countP_cons]
        omega

/-- Losing the only match leaves none. -/
theorem find?_updateFirst_of_lost_unique {items : List α}
    (unique : items.countP test ≤ 1)
    (loses : ∀ item, test item → ¬ test (change item)) :
    (updateFirst test change items).find? test = none := by
  induction items with
  | nil =>
      rfl
  | cons head tail inductionHypothesis =>
      by_cases found : test head
      · have tailEmpty : tail.countP test = 0 := by
          simp only [List.countP_cons, found, if_true] at unique
          omega
        simp only [updateFirst, found, if_true, List.find?_cons,
          loses head found]
        exact
          List.find?_eq_none.mpr (List.countP_eq_zero.mp tailEmpty)
      · have tailUnique : tail.countP test ≤ 1 := by
          simpa [List.countP_cons, found] using unique
        simp [updateFirst, found, inductionHypothesis tailUnique]

end Update

/-! ## Deleting the first match -/

section Erase

variable {test other : α → Bool}

theorem find?_eraseP_of_unseen
    (unseen : ∀ item, test item → ¬ other item)
    (items : List α) :
    (items.eraseP test).find? other = items.find? other := by
  induction items with
  | nil =>
      rfl
  | cons head tail inductionHypothesis =>
      by_cases found : test head
      · simp [found, unseen head found]
      · simp only [List.eraseP_cons_of_neg (by simpa using found),
          List.find?_cons, inductionHypothesis]

theorem find?_eraseP_of_unique {items : List α}
    (unique : items.countP test ≤ 1) :
    (items.eraseP test).find? test = none := by
  induction items with
  | nil =>
      rfl
  | cons head tail inductionHypothesis =>
      by_cases found : test head
      · have tailEmpty : tail.countP test = 0 := by
          simp only [List.countP_cons, found, if_true] at unique
          omega
        rw [List.eraseP_cons_of_pos found]
        exact
          List.find?_eq_none.mpr (List.countP_eq_zero.mp tailEmpty)
      · have tailUnique : tail.countP test ≤ 1 := by
          simpa [List.countP_cons, found] using unique
        rw [List.eraseP_cons_of_neg (by simpa using found)]
        simp [found, inductionHypothesis tailUnique]

theorem countP_eraseP_le (items : List α) :
    (items.eraseP test).countP other ≤ items.countP other :=
  List.eraseP_sublist.countP_le

end Erase

/-! ## Searching from the back -/

section Last

variable {test : α → Bool}

/-- With at most one match, the last match is the first. -/
theorem getLast?_filter_of_unique {items : List α}
    (unique : items.countP test ≤ 1) :
    (items.filter test).getLast? = items.find? test := by
  induction items with
  | nil =>
      rfl
  | cons head tail inductionHypothesis =>
      by_cases found : test head
      · have tailEmpty : tail.countP test = 0 := by
          simp only [List.countP_cons, found, if_true] at unique
          omega
        have filtered : tail.filter test = [] :=
          List.filter_eq_nil_iff.mpr (List.countP_eq_zero.mp tailEmpty)
        simp [found, filtered]
      · have tailUnique : tail.countP test ≤ 1 := by
          simpa [List.countP_cons, found] using unique
        simp [found, inductionHypothesis tailUnique]

/-- Apply `change` to the last element that meets `test`. -/
def updateLast (test : α → Bool) (change : α → α) (items : List α) :
    List α :=
  (updateFirst test change items.reverse).reverse

/-- Delete the last element that meets `test`. -/
def eraseLast (test : α → Bool) (items : List α) : List α :=
  (items.reverse.eraseP test).reverse

theorem updateFirst_append_of_mem {change : α → α}
    {first : List α} (second : List α)
    (found : ∃ item ∈ first, test item) :
    updateFirst test change (first ++ second) =
      updateFirst test change first ++ second := by
  induction first with
  | nil =>
      simp at found
  | cons head tail inductionHypothesis =>
      by_cases headFound : test head
      · simp [updateFirst, headFound]
      · have tailFound : ∃ item ∈ tail, test item := by
          simpa [headFound] using found
        simp [updateFirst, headFound, inductionHypothesis tailFound]

theorem updateFirst_append_of_not_mem {change : α → α}
    {first : List α} (second : List α)
    (missing : ∀ item ∈ first, ¬ test item) :
    updateFirst test change (first ++ second) =
      first ++ updateFirst test change second := by
  induction first with
  | nil =>
      rfl
  | cons head tail inductionHypothesis =>
      have headMisses : ¬ test head := missing head List.mem_cons_self
      have tailMisses : ∀ item ∈ tail, ¬ test item :=
        fun item member =>
          missing item (List.mem_cons_of_mem head member)
      simp [updateFirst, headMisses, inductionHypothesis tailMisses]

theorem updateLast_of_unique {change : α → α} {items : List α}
    (unique : items.countP test ≤ 1) :
    updateLast test change items = updateFirst test change items := by
  induction items with
  | nil =>
      rfl
  | cons head tail inductionHypothesis =>
      by_cases found : test head
      · have tailEmpty : tail.countP test = 0 := by
          simp only [List.countP_cons, found, if_true] at unique
          omega
        have tailMisses : ∀ item ∈ tail.reverse, ¬ test item := by
          intro item member
          exact
            List.countP_eq_zero.mp tailEmpty item
              (List.mem_reverse.mp member)
        rw [updateLast, List.reverse_cons,
          updateFirst_append_of_not_mem [head] tailMisses]
        simp [updateFirst, found]
      · have tailUnique : tail.countP test ≤ 1 := by
          simpa [List.countP_cons, found] using unique
        have tailSame := inductionHypothesis tailUnique
        by_cases later : ∃ item ∈ tail.reverse, test item
        · rw [updateLast, List.reverse_cons,
            updateFirst_append_of_mem [head] later]
          rw [updateLast] at tailSame
          simp [updateFirst, found, tailSame]
        · have tailMisses : ∀ item ∈ tail.reverse, ¬ test item := by
            intro item member meets
            exact later ⟨item, member, meets⟩
          have absent : tail.find? test = none := by
            apply List.find?_eq_none.mpr
            intro item member
            exact tailMisses item (List.mem_reverse.mpr member)
          rw [updateLast, List.reverse_cons,
            updateFirst_append_of_not_mem [head] tailMisses]
          simp [updateFirst, found, updateFirst_of_find?_eq_none absent]

theorem eraseLast_of_unique {items : List α}
    (unique : items.countP test ≤ 1) :
    eraseLast test items = items.eraseP test := by
  induction items with
  | nil =>
      rfl
  | cons head tail inductionHypothesis =>
      by_cases found : test head
      · have tailEmpty : tail.countP test = 0 := by
          simp only [List.countP_cons, found, if_true] at unique
          omega
        have tailMisses : ∀ item ∈ tail.reverse, ¬ test item := by
          intro item member
          exact
            List.countP_eq_zero.mp tailEmpty item
              (List.mem_reverse.mp member)
        rw [eraseLast, List.reverse_cons,
          List.eraseP_append_right _ tailMisses]
        simp [found]
      · have tailUnique : tail.countP test ≤ 1 := by
          simpa [List.countP_cons, found] using unique
        have tailSame := inductionHypothesis tailUnique
        rw [eraseLast] at tailSame
        rw [List.eraseP_cons_of_neg (by simpa using found)]
        by_cases later : ∃ item ∈ tail.reverse, test item
        · have anyLater : tail.reverse.any test = true :=
            List.any_eq_true.mpr later
          rw [eraseLast, List.reverse_cons, List.eraseP_append, anyLater]
          simp [tailSame]
        · have tailMisses : ∀ item ∈ tail, ¬ test item := by
            intro item member meets
            exact later ⟨item, List.mem_reverse.mpr member, meets⟩
          have noneLater : tail.reverse.any test = false := by
            simpa using tailMisses
          rw [eraseLast, List.reverse_cons, List.eraseP_append, noneLater,
            List.eraseP_of_forall_not tailMisses]
          simp [found]

end Last

/-- The first match in a list of lists, one list at a time. -/
theorem findSome?_flatMap_congr {α β γ : Type*} {lines : List α}
    {first second : α → List β} {read : β → Option γ}
    (same :
      ∀ line, line ∈ lines →
        (first line).findSome? read = (second line).findSome? read) :
    (lines.flatMap first).findSome? read =
      (lines.flatMap second).findSome? read := by
  induction lines with
  | nil =>
      rfl
  | cons line rest inductionHypothesis =>
      obtain ⟨sameHere, sameLater⟩ := List.forall_mem_cons.mp same
      rw [List.flatMap_cons, List.flatMap_cons, List.findSome?_append,
        List.findSome?_append, sameHere, inductionHypothesis sameLater]

end FirstMatch

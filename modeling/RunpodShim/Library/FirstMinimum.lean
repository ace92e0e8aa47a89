import Mathlib.Data.List.MinMax

/-!
# The first least item

`List.argmin` told by position: what comes before the chosen item is larger,
and what comes after it is no smaller.
-/

namespace FirstMinimum

universe u v w

variable {α : Type u} {β : Type v} {κ : Type w} [LinearOrder κ]
variable {key : β → κ}

/-- The item has the least key, and is the first one that has it. -/
def IsFirstLeast (key : β → κ) (items : List β) (item : β) : Prop :=
  ∃ front back,
    items = front ++ item :: back ∧
      (∀ other, other ∈ front → key item < key other) ∧
        ∀ other, other ∈ back → key item ≤ key other

/-- A new head is chosen unless something behind it is smaller. -/
theorem isFirstLeast_cons_iff {head item : β} {items : List β} :
    IsFirstLeast key (head :: items) item ↔
      (item = head ∧ ∀ other, other ∈ items → key head ≤ key other) ∨
        IsFirstLeast key items item ∧ key item < key head := by
  constructor
  · intro given
    rcases given with ⟨front, back, split, before, after⟩
    cases front with
    | nil =>
        injection split with sameHead sameTail
        left
        rw [sameHead, sameTail]
        exact ⟨rfl, after⟩
    | cons first rest =>
        injection split with sameHead sameTail
        right
        rw [List.forall_mem_cons, ← sameHead] at before
        exact ⟨⟨rest, back, sameTail, before.2, after⟩, before.1⟩
  · intro either
    rcases either with
      ⟨rfl, least⟩ | ⟨⟨front, back, rfl, before, after⟩, smaller⟩
    · exact ⟨[], items, rfl, by simp, least⟩
    · refine ⟨head :: front, back, rfl, ?_, after⟩
      rw [List.forall_mem_cons]
      exact ⟨smaller, before⟩

theorem argmin_eq_some_iff_isFirstLeast {items : List β} {item : β} :
    items.argmin key = some item ↔ IsFirstLeast key items item := by
  induction items generalizing item with
  | nil =>
      simp [IsFirstLeast]
  | cons head rest inductionHypothesis =>
      rw [isFirstLeast_cons_iff, List.argmin_cons]
      cases chosen : rest.argmin key with
      | none =>
          have empty : rest = [] := List.argmin_eq_none.mp chosen
          subst empty
          simp [IsFirstLeast, eq_comm]
      | some least =>
          have first := inductionHypothesis.mp chosen
          have unique :
              ∀ other, IsFirstLeast key rest other ↔ other = least := by
            intro other
            rw [← inductionHypothesis, chosen, Option.some.injEq, eq_comm]
          simp only [unique]
          by_cases smaller : key least < key head
          · have notLeast :
                ¬ ∀ other, other ∈ rest → key head ≤ key other := by
              intro all
              have inRest := List.argmin_mem (Option.mem_def.mpr chosen)
              exact absurd (all least inRest) (not_le.mpr smaller)
            simp only [if_pos smaller, notLeast, and_false, false_or,
              Option.some.injEq]
            constructor
            · intro same
              subst same
              exact ⟨rfl, smaller⟩
            · exact fun both => both.1.symm
          · have isLeast :
                ∀ other, other ∈ rest → key head ≤ key other := by
              intro other member
              exact
                le_trans (not_lt.mp smaller)
                  (List.le_of_mem_argmin member (Option.mem_def.mpr chosen))
            simp only [if_neg smaller, Option.some.injEq]
            constructor
            · intro same
              subst same
              exact Or.inl ⟨rfl, isLeast⟩
            · intro either
              rcases either with ⟨rfl, _⟩ | ⟨rfl, isSmaller⟩
              · rfl
              · exact absurd isSmaller smaller

/-- Among what a list yields, told by the positions in the list. -/
theorem isFirstLeast_filterMap_iff {yields : α → Option β}
    {items : List α} {best : β} :
    IsFirstLeast key (items.filterMap yields) best ↔
      ∃ front item back,
        items = front ++ item :: back ∧ yields item = some best ∧
          (∀ other, other ∈ front → ∀ found, yields other = some found →
            key best < key found) ∧
          ∀ other, other ∈ back → ∀ found, yields other = some found →
            key best ≤ key found := by
  constructor
  · intro given
    rcases given with ⟨front, back, split, before, after⟩
    obtain ⟨first, second, rfl, frontYield, secondYield⟩ :=
      List.filterMap_eq_append_iff.mp split
    obtain ⟨silent, item, rest, rfl, none, isBest, backYield⟩ :=
      List.filterMap_eq_cons_iff.mp secondYield
    refine ⟨first ++ silent, item, rest, by simp, isBest, ?_, ?_⟩
    · intro other member found yielded
      rcases List.mem_append.mp member with inFirst | inSilent
      · apply before found
        rw [← frontYield]
        exact List.mem_filterMap.mpr ⟨other, inFirst, yielded⟩
      · rw [none other inSilent] at yielded
        cases yielded
    · intro other member found yielded
      apply after found
      rw [← backYield]
      exact List.mem_filterMap.mpr ⟨other, member, yielded⟩
  · intro given
    rcases given with ⟨front, item, back, rfl, isBest, before, after⟩
    refine
      ⟨front.filterMap yields, back.filterMap yields, ?_, ?_, ?_⟩
    · rw [List.filterMap_append, List.filterMap_cons_some isBest]
    · intro found member
      obtain ⟨other, inFront, yielded⟩ := List.mem_filterMap.mp member
      exact before other inFront found yielded
    · intro found member
      obtain ⟨other, inBack, yielded⟩ := List.mem_filterMap.mp member
      exact after other inBack found yielded

end FirstMinimum

import Mathlib.Data.List.Basic
import RunpodShim.Library.TextLines

/-!
# Words of a text

The pieces of a text between its blanks.  When the end of a line is a blank,
the words of a text are those of its lines.
-/

namespace Words

open TextLines

universe u v

variable {α : Type u} {blank : α → Bool}

/-- The pieces between blanks, less the empty ones. -/
def words (blank : α → Bool) (text : List α) : List (List α) :=
  (text.splitOnP blank).filter fun piece => !piece.isEmpty

theorem words_nil : words blank [] = [] :=
  rfl

theorem words_append_blank {separator : α} (isBlank : blank separator)
    (front back : List α) :
    words blank (front ++ separator :: back) =
      words blank front ++ words blank back := by
  rw [words, List.splitOnP_append_cons front back isBlank,
    List.filter_append]
  rfl

/-- Where a blank stands between two texts their words stay apart. -/
theorem words_append {separator : α} (isBlank : blank separator)
    {front back : List α}
    (apart : front = [] ∨ front.getLast? = some separator ∨
      back.head? = some separator) :
    words blank (front ++ back) = words blank front ++ words blank back := by
  rcases apart with empty | ended | parted
  · rw [empty, words_nil]
    rfl
  · obtain ⟨text, rfl⟩ := List.getLast?_eq_some_iff.mp ended
    rw [List.append_assoc, List.singleton_append,
      words_append_blank isBlank, words_append_blank isBlank, words_nil,
      List.append_nil]
  · obtain ⟨text, rfl⟩ := List.head?_eq_some_iff.mp parted
    have first : words blank (separator :: text) = words blank text :=
      words_append_blank isBlank [] text
    rw [words_append_blank isBlank, first]

/-- A piece without blanks is one word. -/
theorem words_of_unblank {text : List α} (more : text ≠ [])
    (unblank : ∀ item, item ∈ text → blank item = false) :
    words blank text = [text] := by
  rw [words, List.splitOnP_eq_singleton unblank]
  cases text with
  | nil =>
      exact absurd rfl more
  | cons head tail =>
      rfl

theorem words_endLines {separator : α} (isBlank : blank separator)
    (parts : List (List α)) :
    words blank (endLines separator parts) =
      parts.flatMap (words blank) := by
  induction parts with
  | nil =>
      rfl
  | cons line rest inductionHypothesis =>
      rw [endLines_cons, words_append_blank isBlank, inductionHypothesis,
        List.flatMap_cons]

/-- The words of a text are those of its lines, in order. -/
theorem words_eq_flatMap_lines [DecidableEq α] {separator : α}
    (isBlank : blank separator) (text : List α) :
    words blank text =
      (lines separator text).flatMap (words blank) := by
  rw [← words_endLines isBlank, endLines_lines]
  split
  · rfl
  · rw [words_append_blank isBlank, words_nil, List.append_nil]

/-! ## Keeping parts -/

section Parts

variable {β : Type v} {items : β → List α}
variable {keep : β → Bool} {test : α → Bool} {parts : List β}

/-- A front that is not kept has nothing to be tested, for the kept parts are
among the rest. -/
theorem flatMap_filter_eq_append_iff {front : List α} :
    (parts.filter keep).flatMap items =
        front.filter test ++ (parts.flatMap items).filter test ↔
      front.filter test = [] ∧
        (parts.filter keep).flatMap items =
          (parts.flatMap items).filter test := by
  constructor
  · intro same
    have tested :
        ((parts.filter keep).flatMap items).filter test =
          (parts.filter keep).flatMap items := by
      rw [same, List.filter_append, List.filter_filter, List.filter_filter]
      simp only [Bool.and_self]
    have among :
        List.Sublist ((parts.filter keep).flatMap items)
          ((parts.flatMap items).filter test) := by
      rw [← tested]
      exact (List.filter_sublist.flatMap items).filter test
    have short := among.length_le
    rw [same, List.length_append] at short
    have empty : front.filter test = [] :=
      List.eq_nil_of_length_eq_zero (by omega)
    rw [empty, List.nil_append] at same
    exact ⟨empty, same⟩
  · intro given
    rw [given.1, given.2, List.nil_append]

/-- Keeping parts keeps just the items that pass a test when an item passes it
just in a part that is kept. -/
theorem flatMap_filter_eq_iff :
    (parts.filter keep).flatMap items =
        (parts.flatMap items).filter test ↔
      ∀ part, part ∈ parts → ∀ item, item ∈ items part →
        test item = keep part := by
  induction parts with
  | nil =>
      exact iff_of_true rfl nofun
  | cons part rest inductionHypothesis =>
      rw [List.forall_mem_cons, ← inductionHypothesis, List.flatMap_cons,
        List.filter_append]
      cases kept : keep part with
      | true =>
          rw [List.filter_cons_of_pos kept, List.flatMap_cons,
            ← List.filter_eq_self]
          constructor
          · intro same
            have passed : (items part).filter test = items part := by
              rw [List.filter_eq_self]
              intro item member
              have among :
                  item ∈
                    (items part).filter test ++
                      (rest.flatMap items).filter test :=
                same ▸ List.mem_append_left _ member
              rcases List.mem_append.mp among with here | later
              · exact (List.mem_filter.mp here).2
              · exact (List.mem_filter.mp later).2
            rw [passed] at same
            exact ⟨passed, List.append_cancel_left same⟩
          · intro given
            rw [given.1, given.2]
      | false =>
          have nonePasses :
              (∀ item, item ∈ items part → test item = false) ↔
                (items part).filter test = [] := by
            simp only [List.filter_eq_nil_iff, Bool.not_eq_true]
          rw [List.filter_cons_of_neg (by simp [kept]), nonePasses]
          exact flatMap_filter_eq_append_iff

end Parts
end Words

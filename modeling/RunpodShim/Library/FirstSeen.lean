import Mathlib.Data.List.Induction
import Mathlib.Data.List.Nodup

/-!
# The first items seen

A bounded memory that takes an item in when it is new and there is room, and
what it holds after any stream of items: the first distinct ones, in order of
first appearance.
-/

namespace FirstSeen

universe u

variable {α : Type u} [DecidableEq α]

/-- Take an item in, if it is new and there is room. -/
def remember (limit : Nat) (seen : List α) (item : α) : List α :=
  if item ∈ seen ∨ limit ≤ seen.length then seen else seen ++ [item]

theorem mem_of_mem_remember {limit : Nat} {seen : List α} {item asked : α}
    (member : asked ∈ remember limit seen item) :
    asked ∈ seen ∨ asked = item := by
  rw [remember] at member
  split at member
  · exact Or.inl member
  · simpa using member

theorem mem_of_mem_foldl_remember {limit : Nat} {seen more : List α}
    {asked : α} (member : asked ∈ more.foldl (remember limit) seen) :
    asked ∈ seen ∨ asked ∈ more := by
  induction more generalizing seen with
  | nil =>
      exact Or.inl member
  | cons item rest inductionHypothesis =>
      rcases inductionHypothesis member with here | later
      · rcases mem_of_mem_remember here with before | same
        · exact Or.inl before
        · exact Or.inr (same ▸ List.mem_cons_self)
      · exact Or.inr (List.mem_cons_of_mem item later)

theorem prefix_foldl_remember (limit : Nat) (seen more : List α) :
    seen <+: more.foldl (remember limit) seen := by
  induction more generalizing seen with
  | nil =>
      exact List.prefix_refl seen
  | cons item rest inductionHypothesis =>
      have first : seen <+: remember limit seen item := by
        rw [remember]
        split
        · exact List.prefix_refl seen
        · exact List.prefix_append seen [item]
      exact first.trans (inductionHypothesis _)

/-- An item that was offered is there, or the memory is full. -/
theorem taken_or_full {limit : Nat} {seen more : List α} {item : α}
    (offered : item ∈ more) :
    item ∈ more.foldl (remember limit) seen ∨
      limit ≤ (more.foldl (remember limit) seen).length := by
  induction more generalizing seen with
  | nil =>
      cases offered
  | cons first rest inductionHypothesis =>
      rcases List.mem_cons.mp offered with isFirst | later
      · have grows :=
          prefix_foldl_remember limit (remember limit seen first) rest
        rw [List.foldl_cons, isFirst]
        by_cases settled : first ∈ seen ∨ limit ≤ seen.length
        · rw [remember, if_pos settled] at grows ⊢
          rcases settled with known | full
          · exact Or.inl (grows.subset known)
          · exact Or.inr (Nat.le_trans full grows.length_le)
        · rw [remember, if_neg settled] at grows ⊢
          exact Or.inl (grows.subset (by simp))
      · exact inductionHypothesis later

/-- Offering items again changes nothing. -/
theorem foldl_remember_again {limit : Nat} {seen items more : List α}
    (offered : more ⊆ items) :
    more.foldl (remember limit) (items.foldl (remember limit) seen) =
      items.foldl (remember limit) seen := by
  induction more with
  | nil =>
      rfl
  | cons item rest inductionHypothesis =>
      have settled :
          item ∈ items.foldl (remember limit) seen ∨
            limit ≤ (items.foldl (remember limit) seen).length :=
        taken_or_full (offered List.mem_cons_self)
      rw [List.foldl_cons, remember, if_pos settled]
      exact
        inductionHypothesis fun later inRest =>
          offered (List.mem_cons_of_mem item inRest)

/-- With any room at all, the memory is empty only when nothing was ever
there. -/
theorem foldl_remember_eq_nil_iff {limit : Nat} (room : 0 < limit)
    {seen more : List α} :
    more.foldl (remember limit) seen = [] ↔ seen = [] ∧ more = [] := by
  induction more generalizing seen with
  | nil =>
      simp
  | cons item rest inductionHypothesis =>
      have more : remember limit seen item ≠ [] := by
        rw [remember]
        cases seen with
        | nil =>
            simp [Nat.ne_of_gt room]
        | cons first others =>
            split
            · simp
            · simp
      rw [List.foldl_cons, inductionHypothesis]
      simp [more]

/-- The first `limit` distinct items of a stream. -/
def firstSeen (limit : Nat) (items : List α) : List α :=
  items.eraseDups.take limit

theorem length_firstSeen_le (limit : Nat) (items : List α) :
    (firstSeen limit items).length ≤ limit :=
  List.length_take_le limit _

theorem mem_of_mem_firstSeen {limit : Nat} {items : List α} {item : α}
    (member : item ∈ firstSeen limit items) : item ∈ items :=
  List.mem_eraseDups.mp (List.mem_of_mem_take member)

theorem eraseDups_append_singleton (items : List α) (item : α) :
    (items ++ [item]).eraseDups =
      if item ∈ items then items.eraseDups
      else items.eraseDups ++ [item] := by
  rw [List.eraseDups_append]
  by_cases seen : item ∈ items
  · have none : [item].removeAll items = [] := by
      simp [List.removeAll, seen]
    rw [none, if_pos seen, List.eraseDups_nil, List.append_nil]
  · have alone : [item].removeAll items = [item] := by
      simp [List.removeAll, seen]
    rw [alone, if_neg seen, List.eraseDups_cons]
    rfl

theorem nodup_eraseDups (items : List α) : items.eraseDups.Nodup := by
  induction items using List.reverseRecOn with
  | nil =>
      exact List.nodup_nil
  | append_singleton items item inductionHypothesis =>
      rw [eraseDups_append_singleton]
      split
      · exact inductionHypothesis
      · rename_i unseen
        rw [List.nodup_append]
        refine ⟨inductionHypothesis, List.nodup_singleton item, ?_⟩
        intro first inItems second isItem same
        rw [List.mem_singleton.mp isItem] at same
        exact unseen (same ▸ List.mem_eraseDups.mp inItems)

theorem nodup_firstSeen (limit : Nat) (items : List α) :
    (firstSeen limit items).Nodup :=
  (List.take_sublist limit _).nodup (nodup_eraseDups items)

/-- Taking one more item in is seeing a stream with one more item. -/
theorem remember_firstSeen (limit : Nat) (items : List α) (item : α) :
    remember limit (firstSeen limit items) item =
      firstSeen limit (items ++ [item]) := by
  rw [firstSeen, firstSeen, eraseDups_append_singleton, remember]
  by_cases full : limit ≤ items.eraseDups.length
  · have held : limit ≤ (items.eraseDups.take limit).length := by
      rw [List.length_take]
      omega
    rw [if_pos (Or.inr held)]
    split
    · rfl
    · rw [List.take_append_of_le_length full]
  · have whole : items.eraseDups.take limit = items.eraseDups :=
      List.take_of_length_le (by omega)
    rw [whole]
    by_cases seen : item ∈ items
    · rw [if_pos seen, whole, if_pos (Or.inl (List.mem_eraseDups.mpr seen))]
    · have unseen :
          ¬ (item ∈ items.eraseDups ∨ limit ≤ items.eraseDups.length) := by
        intro either
        rcases either with member | reached
        · exact seen (List.mem_eraseDups.mp member)
        · exact full reached
      have room : (items.eraseDups ++ [item]).length ≤ limit := by
        rw [List.length_append, List.length_singleton]
        omega
      rw [if_neg unseen, if_neg seen, List.take_of_length_le room]

theorem foldl_remember (limit : Nat) (items more : List α) :
    more.foldl (remember limit) (firstSeen limit items) =
      firstSeen limit (items ++ more) := by
  induction more generalizing items with
  | nil =>
      rw [List.foldl_nil, List.append_nil]
  | cons item rest inductionHypothesis =>
      rw [List.foldl_cons, remember_firstSeen, inductionHypothesis,
        List.append_assoc]
      rfl

/-- Items that were all seen before change nothing. -/
theorem firstSeen_append_of_subset {limit : Nat} {items more : List α}
    (old : ∀ item, item ∈ more → item ∈ items) :
    firstSeen limit (items ++ more) = firstSeen limit items := by
  have none : more.removeAll items = [] := by
    rw [List.removeAll, List.filter_eq_nil_iff]
    intro item member
    simpa using old item member
  rw [firstSeen, List.eraseDups_append, none, List.eraseDups_nil,
    List.append_nil, firstSeen]

end FirstSeen

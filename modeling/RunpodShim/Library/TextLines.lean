import Mathlib.Data.List.Flatten
import Mathlib.Data.List.TakeWhile

/-!
# Lines of a text

A text cut after each separator, and what a reader with a bounded buffer takes
of it at a time.
-/

namespace TextLines

universe u

variable {α : Type u} [DecidableEq α] {separator : α}

/-- The item put in front of the first line. -/
def extendFirst (item : α) : List (List α) → List (List α)
  | [] => [[item]]
  | line :: rest => (item :: line) :: rest

/-- The lines of a text, each with the separator that ends it; the last one
may have none. -/
def rawLines (separator : α) : List α → List (List α)
  | [] => []
  | item :: rest =>
      if item = separator then [item] :: rawLines separator rest
      else extendFirst item (rawLines separator rest)

def firstLine (separator : α) (text : List α) : List α :=
  text.takeWhile (· != separator) ++
    (text.dropWhile (· != separator)).take 1

def afterFirstLine (separator : α) (text : List α) : List α :=
  (text.dropWhile (· != separator)).drop 1

theorem firstLine_append_afterFirstLine (text : List α) :
    firstLine separator text ++ afterFirstLine separator text = text := by
  rw [firstLine, afterFirstLine, List.append_assoc, List.take_append_drop,
    List.takeWhile_append_dropWhile]

theorem drop_length_firstLine (text : List α) :
    text.drop (firstLine separator text).length =
      afterFirstLine separator text := by
  have whole :
      firstLine separator text ++ afterFirstLine separator text = text :=
    firstLine_append_afterFirstLine text
  calc
    text.drop (firstLine separator text).length =
        (firstLine separator text ++
          afterFirstLine separator text).drop
            (firstLine separator text).length := by
      rw [whole]
    _ = afterFirstLine separator text := List.drop_left

theorem firstLine_cons_separator (rest : List α) :
    firstLine separator (separator :: rest) = [separator] := by
  simp [firstLine]

theorem afterFirstLine_cons_separator (rest : List α) :
    afterFirstLine separator (separator :: rest) = rest := by
  simp [afterFirstLine]

theorem firstLine_cons_of_ne {item : α} (other : item ≠ separator)
    (rest : List α) :
    firstLine separator (item :: rest) =
      item :: firstLine separator rest := by
  simp [firstLine, other]

theorem afterFirstLine_cons_of_ne {item : α} (other : item ≠ separator)
    (rest : List α) :
    afterFirstLine separator (item :: rest) =
      afterFirstLine separator rest := by
  simp [afterFirstLine, other]

/-- A line without the separator that ends it. -/
theorem takeWhile_firstLine (text : List α) :
    (firstLine separator text).takeWhile (· != separator) =
      text.takeWhile (· != separator) := by
  induction text with
  | nil =>
      rfl
  | cons item rest inductionHypothesis =>
      by_cases ends : item = separator
      · subst ends
        simp [firstLine_cons_separator]
      · rw [firstLine_cons_of_ne ends, List.takeWhile_cons,
          List.takeWhile_cons, inductionHypothesis]

theorem rawLines_of_ne_nil {text : List α} (more : text ≠ []) :
    rawLines separator text =
      firstLine separator text ::
        rawLines separator (afterFirstLine separator text) := by
  induction text with
  | nil =>
      exact absurd rfl more
  | cons item rest inductionHypothesis =>
      by_cases ends : item = separator
      · subst ends
        rw [rawLines, if_pos rfl, firstLine_cons_separator,
          afterFirstLine_cons_separator]
      · rw [rawLines, if_neg ends, firstLine_cons_of_ne ends,
          afterFirstLine_cons_of_ne ends]
        by_cases last : rest = []
        · subst last
          rfl
        · rw [inductionHypothesis last]
          rfl

theorem firstLine_ne_nil {text : List α} (more : text ≠ []) :
    firstLine separator text ≠ [] := by
  cases text with
  | nil =>
      exact absurd rfl more
  | cons item rest =>
      by_cases ends : item = separator
      · subst ends
        rw [firstLine_cons_separator]
        exact List.cons_ne_nil _ _
      · rw [firstLine_cons_of_ne ends]
        exact List.cons_ne_nil _ _

theorem length_afterFirstLine_lt {text : List α} (more : text ≠ []) :
    (afterFirstLine separator text).length < text.length := by
  have whole :
      (firstLine separator text ++ afterFirstLine separator text).length =
        text.length :=
    congrArg List.length (firstLine_append_afterFirstLine text)
  have some : 0 < (firstLine separator text).length :=
    List.length_pos_iff.mpr (firstLine_ne_nil more)
  rw [List.length_append] at whole
  omega

omit [DecidableEq α] in
theorem flatten_extendFirst (item : α) (lines : List (List α)) :
    (extendFirst item lines).flatten = item :: lines.flatten := by
  cases lines with
  | nil =>
      rfl
  | cons line rest =>
      rfl

/-- The lines are the text. -/
theorem flatten_rawLines (separator : α) (text : List α) :
    (rawLines separator text).flatten = text := by
  induction text with
  | nil =>
      rfl
  | cons item rest inductionHypothesis =>
      rw [rawLines]
      split
      · rw [List.flatten_cons, inductionHypothesis]
        rfl
      · rw [flatten_extendFirst, inductionHypothesis]

/-! ## Cuts at a separator -/

section Cuts

variable {front back : List α}

theorem takeWhile_of_separator_notMem (free : separator ∉ front) :
    front.takeWhile (· != separator) = front := by
  rw [List.takeWhile_eq_self_iff]
  intro item member
  have other : item ≠ separator := fun same => free (same ▸ member)
  simpa using other

theorem dropWhile_of_separator_notMem (free : separator ∉ front) :
    front.dropWhile (· != separator) = [] := by
  rw [List.dropWhile_eq_nil_iff]
  intro item member
  have other : item ≠ separator := fun same => free (same ▸ member)
  simpa using other

theorem takeWhile_append_separator (free : separator ∉ front) :
    (front ++ separator :: back).takeWhile (· != separator) = front := by
  rw [List.takeWhile_append, takeWhile_of_separator_notMem free, if_pos rfl]
  simp

theorem dropWhile_append_separator (free : separator ∉ front) :
    (front ++ separator :: back).dropWhile (· != separator) =
      separator :: back := by
  rw [List.dropWhile_append, dropWhile_of_separator_notMem free]
  simp

theorem dropWhile_cases (separator : α) (raw : List α) :
    raw.dropWhile (· != separator) = [] ∨
      ∃ back, raw.dropWhile (· != separator) = separator :: back := by
  cases rest : raw.dropWhile (· != separator) with
  | nil =>
      exact Or.inl rfl
  | cons item back =>
      have stops := List.head?_dropWhile_not (· != separator) raw
      rw [rest] at stops
      have isSeparator : item = separator := by
        simpa using stops
      exact Or.inr ⟨back, by rw [isSeparator]⟩

end Cuts

/-! ## Texts made of lines -/

theorem rawLines_append_separator {front : List α}
    (free : separator ∉ front) (back : List α) :
    rawLines separator (front ++ separator :: back) =
      (front ++ [separator]) :: rawLines separator back := by
  have more : front ++ separator :: back ≠ [] :=
    List.append_ne_nil_of_right_ne_nil front (List.cons_ne_nil _ _)
  rw [rawLines_of_ne_nil more, firstLine, afterFirstLine,
    takeWhile_append_separator free, dropWhile_append_separator free]
  rfl

theorem rawLines_of_separator_notMem {line : List α} (more : line ≠ [])
    (free : separator ∉ line) :
    rawLines separator line = [line] := by
  rw [rawLines_of_ne_nil more, firstLine, afterFirstLine,
    takeWhile_of_separator_notMem free, dropWhile_of_separator_notMem free,
    List.take_nil, List.append_nil]
  rfl

/-- What a text can be cut into: every line but the last is ended by the
separator, and the last one is ended or not empty. -/
inductive AreLines (separator : α) : List (List α) → Prop
  | nil : AreLines separator []
  | last {line : List α} :
      line ≠ [] → separator ∉ line → AreLines separator [line]
  | cons {front : List α} {rest : List (List α)} :
      separator ∉ front → AreLines separator rest →
        AreLines separator ((front ++ [separator]) :: rest)

theorem areLines_rawLines (separator : α) (text : List α) :
    AreLines separator (rawLines separator text) := by
  induction text with
  | nil =>
      exact AreLines.nil
  | cons item rest inductionHypothesis =>
      rw [rawLines]
      split
      · rename_i ends
        rw [ends]
        exact AreLines.cons List.not_mem_nil inductionHypothesis
      · rename_i other
        have differs : separator ≠ item := fun same => other same.symm
        cases cut : rawLines separator rest with
        | nil =>
            exact
              AreLines.last (List.cons_ne_nil _ _)
                (by simpa using differs)
        | cons line lines =>
            rw [cut] at inductionHypothesis
            cases inductionHypothesis with
            | last more free =>
                refine AreLines.last (List.cons_ne_nil _ _) ?_
                simpa [differs] using free
            | cons free later =>
                rw [extendFirst, ← List.cons_append]
                refine AreLines.cons ?_ later
                simpa [differs] using free

/-- Such lines are the lines of the text that they make. -/
theorem AreLines.rawLines_flatten {lines : List (List α)}
    (areLines : AreLines separator lines) :
    rawLines separator lines.flatten = lines := by
  induction areLines with
  | nil =>
      rfl
  | last more free =>
      rw [List.flatten_cons, List.flatten_nil, List.append_nil]
      exact rawLines_of_separator_notMem more free
  | cons free _ inductionHypothesis =>
      rw [List.flatten_cons, List.append_assoc, List.singleton_append,
        rawLines_append_separator free, inductionHypothesis]

omit [DecidableEq α] in
/-- A line is ended by the separator or has none. -/
theorem AreLines.mem_cases {lines : List (List α)} {raw : List α}
    (areLines : AreLines separator lines) (member : raw ∈ lines) :
    separator ∉ raw ∨
      ∃ front, separator ∉ front ∧ raw = front ++ [separator] := by
  induction areLines with
  | nil =>
      cases member
  | last _ free =>
      rw [List.mem_singleton.mp member]
      exact Or.inl free
  | @cons front _ free _ inductionHypothesis =>
      rcases List.mem_cons.mp member with isFirst | later
      · exact Or.inr ⟨front, free, isFirst⟩
      · exact inductionHypothesis later

/-! ## Line-wise maps -/

/-- A text without separators starts a line when it starts what the
separator leaves of it. -/
theorem prefix_takeWhile_iff {key : List α} (free : separator ∉ key)
    (raw : List α) :
    key <+: raw.takeWhile (· != separator) ↔ key <+: raw := by
  constructor
  · intro starts
    exact starts.trans (List.takeWhile_prefix _)
  · intro starts
    obtain ⟨rest, rfl⟩ := starts
    rw [List.takeWhile_append, takeWhile_of_separator_notMem free,
      if_pos rfl]
    exact List.prefix_append key _

/-- A map of the part of a line before the separator that ends it. -/
def onLine (separator : α) (change : List α → List α) (raw : List α) :
    List α :=
  change (raw.takeWhile (· != separator)) ++
    raw.dropWhile (· != separator)

/-- Each line of a text changed on its own. -/
def mapLines (separator : α) (change : List α → List α)
    (text : List α) : List α :=
  ((rawLines separator text).map (onLine separator change)).flatten

theorem onLine_of_separator_notMem (change : List α → List α)
    {line : List α} (free : separator ∉ line) :
    onLine separator change line = change line := by
  rw [onLine, takeWhile_of_separator_notMem free,
    dropWhile_of_separator_notMem free, List.append_nil]

theorem onLine_append_separator (change : List α → List α)
    {front : List α} (free : separator ∉ front) :
    onLine separator change (front ++ [separator]) =
      change front ++ [separator] := by
  rw [onLine, takeWhile_append_separator free,
    dropWhile_append_separator free]

section Changes

variable {change : List α → List α}

theorem AreLines.map_onLine
    (free : ∀ line, separator ∉ line → separator ∉ change line)
    (long : ∀ line, line ≠ [] → change line ≠ [])
    {lines : List (List α)} (areLines : AreLines separator lines) :
    AreLines separator (lines.map (onLine separator change)) := by
  induction areLines with
  | nil =>
      exact AreLines.nil
  | @last line more lineFree =>
      rw [List.map_singleton, onLine_of_separator_notMem change lineFree]
      exact AreLines.last (long line more) (free line lineFree)
  | @cons front _ frontFree _ inductionHypothesis =>
      rw [List.map_cons, onLine_append_separator change frontFree]
      exact AreLines.cons (free front frontFree) inductionHypothesis

/-- The lines of the changed text are the changed lines. -/
theorem rawLines_mapLines
    (free : ∀ line, separator ∉ line → separator ∉ change line)
    (long : ∀ line, line ≠ [] → change line ≠ []) (text : List α) :
    rawLines separator (mapLines separator change text) =
      (rawLines separator text).map (onLine separator change) :=
  ((areLines_rawLines separator text).map_onLine free long).rawLines_flatten

theorem separator_notMem_takeWhile (raw : List α) :
    separator ∉ raw.takeWhile (· != separator) := by
  intro member
  have other := List.mem_takeWhile_imp member
  simp at other

/-- Up to its separator the changed line is the change of what was there. -/
theorem takeWhile_onLine {raw : List α}
    (free : separator ∉ change (raw.takeWhile (· != separator))) :
    (onLine separator change raw).takeWhile (· != separator) =
      change (raw.takeWhile (· != separator)) := by
  rw [onLine]
  rcases dropWhile_cases separator raw with
    unended | ⟨back, ended⟩
  · rw [unended, List.append_nil, takeWhile_of_separator_notMem free]
  · rw [ended, takeWhile_append_separator free]

theorem dropWhile_onLine {raw : List α}
    (free : separator ∉ change (raw.takeWhile (· != separator))) :
    (onLine separator change raw).dropWhile (· != separator) =
      raw.dropWhile (· != separator) := by
  rw [onLine]
  rcases dropWhile_cases separator raw with
    unended | ⟨back, ended⟩
  · rw [unended, List.append_nil, dropWhile_of_separator_notMem free]
  · rw [ended, dropWhile_append_separator free]

theorem onLine_onLine
    (free : ∀ line, separator ∉ line → separator ∉ change line)
    (again : ∀ line, separator ∉ line → change (change line) = change line)
    (raw : List α) :
    onLine separator change (onLine separator change raw) =
      onLine separator change raw := by
  have cutFree : separator ∉ raw.takeWhile (· != separator) :=
    separator_notMem_takeWhile raw
  have changedFree := free _ cutFree
  calc
    onLine separator change (onLine separator change raw) =
        change (change (raw.takeWhile (· != separator))) ++
          raw.dropWhile (· != separator) := by
      rw [onLine, takeWhile_onLine changedFree,
        dropWhile_onLine changedFree]
    _ = onLine separator change raw := by
      rw [again _ cutFree, onLine]

/-- A change that settles at once settles the text at once. -/
theorem mapLines_mapLines
    (free : ∀ line, separator ∉ line → separator ∉ change line)
    (long : ∀ line, line ≠ [] → change line ≠ [])
    (again : ∀ line, separator ∉ line → change (change line) = change line)
    (text : List α) :
    mapLines separator change (mapLines separator change text) =
      mapLines separator change text := by
  rw [mapLines, rawLines_mapLines free long, List.map_map, mapLines]
  congr 1
  apply List.map_congr_left
  intro raw _
  exact onLine_onLine free again raw

end Changes

/-! ## Lines without their ends -/

/-- The lines of a text without the separators that end them. -/
def lines (separator : α) (text : List α) : List (List α) :=
  (rawLines separator text).map fun raw => raw.takeWhile (· != separator)

/-- The text in which every one of the lines is ended. -/
def endLines (separator : α) (parts : List (List α)) : List α :=
  parts.flatMap fun line => line ++ [separator]

section Ends

omit [DecidableEq α] in
theorem endLines_cons (line : List α) (rest : List (List α)) :
    endLines separator (line :: rest) =
      line ++ separator :: endLines separator rest := by
  rw [endLines, List.flatMap_cons, List.append_assoc]
  rfl

omit [DecidableEq α] in
theorem endLines_append (front back : List (List α)) :
    endLines separator (front ++ back) =
      endLines separator front ++ endLines separator back :=
  List.flatMap_append

omit [DecidableEq α] in
theorem mem_endLines_iff {item : α} (other : item ≠ separator)
    {parts : List (List α)} :
    item ∈ endLines separator parts ↔
      ∃ line, line ∈ parts ∧ item ∈ line := by
  simp only [endLines, List.mem_flatMap, List.mem_append,
    List.mem_singleton, other, or_false]

theorem separator_notMem_of_mem_lines {text line : List α}
    (member : line ∈ lines separator text) : separator ∉ line := by
  obtain ⟨raw, _, rfl⟩ := List.mem_map.mp member
  exact separator_notMem_takeWhile raw

omit [DecidableEq α] in
theorem areLines_endLines {parts : List (List α)}
    (free : ∀ line, line ∈ parts → separator ∉ line) :
    AreLines separator (parts.map fun line => line ++ [separator]) := by
  induction parts with
  | nil =>
      exact AreLines.nil
  | cons line rest inductionHypothesis =>
      refine AreLines.cons (free line List.mem_cons_self) ?_
      apply inductionHypothesis
      intro other member
      exact free other (List.mem_cons_of_mem line member)

/-- The lines that were ended are the lines of the text. -/
theorem lines_endLines {parts : List (List α)}
    (free : ∀ line, line ∈ parts → separator ∉ line) :
    lines separator (endLines separator parts) = parts := by
  have cut := (areLines_endLines free).rawLines_flatten
  rw [← List.flatMap_def, ← endLines] at cut
  rw [lines, cut, List.map_map]
  calc
    parts.map _ = parts.map id := by
      apply List.map_congr_left
      intro line member
      exact takeWhile_append_separator (free line member)
    _ = parts := List.map_id parts

theorem AreLines.endLines_map {parts : List (List α)}
    (areLines : AreLines separator parts) :
    endLines separator
        (parts.map fun raw => raw.takeWhile (· != separator)) =
      if parts.flatten = [] ∨ parts.flatten.getLast? = some separator then
        parts.flatten
      else parts.flatten ++ [separator] := by
  induction areLines with
  | nil =>
      rfl
  | @last line more free =>
      have unended : ¬ ([line].flatten = [] ∨
          [line].flatten.getLast? = some separator) := by
        rw [List.flatten_singleton, not_or]
        refine ⟨more, ?_⟩
        intro ended
        exact free (List.mem_of_getLast? ended)
      rw [if_neg unended, List.map_singleton,
        takeWhile_of_separator_notMem free, List.flatten_singleton,
        endLines_cons]
      rfl
  | @cons front rest free later inductionHypothesis =>
      have whole :
          ((front ++ [separator]) :: rest).flatten =
            front ++ separator :: rest.flatten := by
        rw [List.flatten_cons, List.append_assoc]
        rfl
      rw [List.map_cons, endLines_cons, inductionHypothesis,
        takeWhile_append_separator free, whole]
      by_cases empty : rest.flatten = []
      · simp [empty]
      · have last :
            (front ++ separator :: rest.flatten).getLast? =
              rest.flatten.getLast? := by
          rw [List.getLast?_append, List.getLast?_cons_of_ne_nil empty,
            List.getLast?_eq_some_getLast empty]
          rfl
        simp only [empty, last, List.append_eq_nil_iff, reduceCtorEq,
          and_false, false_or]
        split
        · rfl
        · rw [List.append_assoc, List.cons_append]

/-- Ending the lines of a text ends the last one, if there is one without an
end. -/
theorem endLines_lines (text : List α) :
    endLines separator (lines separator text) =
      if text = [] ∨ text.getLast? = some separator then text
      else text ++ [separator] := by
  have ended := (areLines_rawLines separator text).endLines_map
  rw [flatten_rawLines] at ended
  exact ended

/-- Only separators are not on a line. -/
theorem mem_iff_mem_lines {item : α} (other : item ≠ separator)
    {text : List α} :
    item ∈ text ↔
      ∃ line, line ∈ lines separator text ∧ item ∈ line := by
  rw [← mem_endLines_iff other, endLines_lines]
  split
  · exact Iff.rfl
  · simp only [List.mem_append, List.mem_singleton, other, or_false]

omit [DecidableEq α] in
theorem length_endLines_filter_lt {keep : List α → Bool}
    {parts : List (List α)} {line : List α} (member : line ∈ parts)
    (dropped : keep line = false) :
    (endLines separator (parts.filter keep)).length <
      (endLines separator parts).length := by
  induction parts with
  | nil =>
      cases member
  | cons head rest inductionHypothesis =>
      have restWithin : (endLines separator (rest.filter keep)).length ≤
          (endLines separator rest).length :=
        (List.filter_sublist.flatMap _).length_le
      rcases List.mem_cons.mp member with isHead | inRest
      · subst isHead
        rw [List.filter_cons_of_neg (by simp [dropped]), endLines_cons,
          List.length_append, List.length_cons]
        omega
      · have shorter := inductionHypothesis inRest
        by_cases kept : keep head = true
        · rw [List.filter_cons_of_pos kept, endLines_cons, endLines_cons,
            List.length_append, List.length_append, List.length_cons,
            List.length_cons]
          omega
        · rw [List.filter_cons_of_neg kept, endLines_cons,
            List.length_append, List.length_cons]
          omega

/-- Some of the lines, ended, are the text when they are all of them and the
last one had its end. -/
theorem endLines_filter_lines_eq_iff {keep : List α → Bool}
    {text : List α} :
    endLines separator ((lines separator text).filter keep) = text ↔
      (∀ line, line ∈ lines separator text → keep line = true) ∧
        (text = [] ∨ text.getLast? = some separator) := by
  constructor
  · intro same
    have free :
        ∀ line, line ∈ (lines separator text).filter keep →
          separator ∉ line := by
      intro line member
      exact
        separator_notMem_of_mem_lines (List.mem_filter.mp member).1
    have all : (lines separator text).filter keep = lines separator text := by
      calc
        (lines separator text).filter keep =
            lines separator
              (endLines separator
                ((lines separator text).filter keep)) :=
          (lines_endLines free).symm
        _ = lines separator text := by
          rw [same]
    refine ⟨List.filter_eq_self.mp all, ?_⟩
    rw [all, endLines_lines] at same
    split at same
    · assumption
    · have longer := congrArg List.length same
      rw [List.length_append, List.length_singleton] at longer
      omega
  · intro given
    rw [List.filter_eq_self.mpr given.1, endLines_lines, if_pos given.2]

/-- So many items of the ended lines are the text when the lines are all of
them, and the items all of the text and no more. -/
theorem take_endLines_filter_lines_eq_iff {keep : List α → Bool}
    {text : List α} {count : Nat} :
    (endLines separator ((lines separator text).filter keep)).take count =
        text ↔
      (∀ line, line ∈ lines separator text → keep line = true) ∧
        ((text = [] ∨ text.getLast? = some separator) ∧
            text.length ≤ count ∨
          count = text.length) := by
  constructor
  · intro same
    have bounds := congrArg List.length same
    rw [List.length_take] at bounds
    have all :
        ∀ line, line ∈ lines separator text → keep line = true := by
      intro line member
      by_contra notKept
      have dropped : keep line = false := by
        simpa using notKept
      have shorter :
          (endLines separator ((lines separator text).filter keep)).length <
            (endLines separator (lines separator text)).length :=
        length_endLines_filter_lt member dropped
      have ended : (endLines separator (lines separator text)).length ≤
          text.length + 1 := by
        rw [endLines_lines]
        split
        · omega
        · rw [List.length_append, List.length_singleton]
      -- What was dropped leaves no more than the text, so all of it is out.
      rw [List.take_of_length_le (by omega)] at same
      exact notKept ((endLines_filter_lines_eq_iff.mp same).1 line member)
    refine ⟨all, ?_⟩
    rw [List.filter_eq_self.mpr all, endLines_lines] at bounds
    split at bounds
    · rename_i ended
      exact Or.inl ⟨ended, by omega⟩
    · rw [List.length_append, List.length_singleton] at bounds
      exact Or.inr (by omega)
  · intro given
    obtain ⟨all, enough⟩ := given
    rw [List.filter_eq_self.mpr all, endLines_lines]
    rcases enough with ⟨ended, long⟩ | exactly
    · rw [if_pos ended, List.take_of_length_le long]
    · rw [exactly]
      split
      · exact List.take_length
      · exact List.take_left

end Ends

/-! ## A bounded reader -/

/-- What the reader takes in one go: a line, or as much as there is room
for. -/
def chunk (separator : α) (room : Nat) (text : List α) : List α :=
  (firstLine separator text).take room

/-- What the reader takes until the text is used up; every round takes an
item when there is room for one. -/
def readChunks (separator : α) (room : Nat) :
    Nat → List α → List (List α)
  | 0, _ => []
  | rounds + 1, text =>
      if text = [] then []
      else
        chunk separator room text ::
          readChunks separator room rounds
            (text.drop (chunk separator room text).length)

/-- With room for every line the reader takes the lines. -/
theorem readChunks_eq_rawLines {room rounds : Nat} {text : List α}
    (roomy :
      ∀ line, line ∈ rawLines separator text → line.length ≤ room)
    (enough : text.length ≤ rounds) :
    readChunks separator room rounds text = rawLines separator text := by
  induction rounds generalizing text with
  | zero =>
      rw [List.eq_nil_of_length_eq_zero (Nat.le_zero.mp enough)]
      rfl
  | succ rounds inductionHypothesis =>
      by_cases done : text = []
      · subst done
        rfl
      · have shorter :
            (afterFirstLine separator text).length < text.length :=
          length_afterFirstLine_lt done
        rw [rawLines_of_ne_nil done] at roomy
        have whole : chunk separator room text = firstLine separator text :=
          List.take_of_length_le (roomy _ List.mem_cons_self)
        have later :
            readChunks separator room rounds
                (afterFirstLine separator text) =
              rawLines separator (afterFirstLine separator text) :=
          inductionHypothesis
            (fun line member =>
              roomy line (List.mem_cons_of_mem _ member))
            (by omega)
        rw [readChunks, if_neg done, whole, drop_length_firstLine, later,
          rawLines_of_ne_nil done]

/-- A line cut into what the reader has room for at a time. -/
def cutsFrom (room : Nat) : Nat → List α → List (List α)
  | 0, _ => []
  | rounds + 1, line =>
      if line = [] then []
      else line.take room :: cutsFrom room rounds (line.drop room)

def cuts (room : Nat) (line : List α) : List (List α) :=
  cutsFrom room line.length line

section Cutting

omit [DecidableEq α]

variable {room : Nat} {line : List α}

theorem cutsFrom_eq (positive : 0 < room) {rounds : Nat}
    (enough : line.length ≤ rounds) :
    cutsFrom room rounds line = cuts room line := by
  have same :
      ∀ first second, line.length ≤ first → line.length ≤ second →
        cutsFrom room first line = cutsFrom room second line := by
    intro first
    induction first generalizing line with
    | zero =>
        intro second few _
        rw [List.eq_nil_of_length_eq_zero (Nat.le_zero.mp few)]
        cases second with
        | zero =>
            rfl
        | succ second =>
            rfl
    | succ first inductionHypothesis =>
        intro second few fewToo
        cases second with
        | zero =>
            rw [List.eq_nil_of_length_eq_zero (Nat.le_zero.mp fewToo)]
            rfl
        | succ second =>
            rw [cutsFrom, cutsFrom]
            split
            · rfl
            · have shorter : (line.drop room).length < line.length := by
                have some := List.length_pos_iff.mpr ‹line ≠ []›
                rw [List.length_drop]
                omega
              rw [inductionHypothesis (by omega) second (by omega)
                (by omega)]
  exact same rounds line.length enough (Nat.le_refl _)

theorem cuts_nil : cuts room ([] : List α) = [] :=
  rfl

theorem cuts_of_ne_nil (positive : 0 < room) (more : line ≠ []) :
    cuts room line = line.take room :: cuts room (line.drop room) := by
  have some := List.length_pos_iff.mpr more
  have rest : (line.drop room).length ≤ line.length - 1 := by
    rw [List.length_drop]
    omega
  have unfolded : line.length = (line.length - 1) + 1 := by
    omega
  rw [cuts, unfolded, cutsFrom, if_neg more, cutsFrom_eq positive rest]

theorem cuts_of_length_le (positive : 0 < room) (more : line ≠ [])
    (fits : line.length ≤ room) : cuts room line = [line] := by
  rw [cuts_of_ne_nil positive more, List.take_of_length_le fits,
    List.drop_eq_nil_of_le fits, cuts_nil]

/-- A piece stands at the start of its line, or behind a whole piece at
least. -/
theorem position_of_mem_cuts (positive : 0 < room) {piece : List α}
    (member : piece ∈ cuts room line) :
    ∃ start rest,
      line = start ++ (piece ++ rest) ∧
        (start = [] ∨ room ≤ start.length) := by
  induction length : line.length using Nat.strongRecOn
    generalizing line with
  | ind size inductionHypothesis =>
      by_cases more : line = []
      · rw [more, cuts_nil] at member
        cases member
      · rw [cuts_of_ne_nil positive more] at member
        rcases List.mem_cons.mp member with isFirst | later
        · refine ⟨[], line.drop room, ?_, Or.inl rfl⟩
          rw [isFirst, List.nil_append, List.take_append_drop]
        · have long : room ≤ line.length := by
            by_contra short
            rw [List.drop_eq_nil_of_le (by omega), cuts_nil] at later
            cases later
          have shorter : (line.drop room).length < size := by
            have some := List.length_pos_iff.mpr more
            rw [List.length_drop]
            omega
          obtain ⟨start, rest, dropped, _⟩ :=
            inductionHypothesis _ shorter later rfl
          refine ⟨line.take room ++ start, rest, ?_, Or.inr ?_⟩
          · rw [List.append_assoc, ← dropped, List.take_append_drop]
          · rw [List.length_append, List.length_take]
            omega

theorem infix_of_mem_cuts (positive : 0 < room) {piece : List α}
    (member : piece ∈ cuts room line) : piece <:+: line := by
  obtain ⟨start, rest, whole, _⟩ := position_of_mem_cuts positive member
  exact ⟨start, rest, by rw [whole, List.append_assoc]⟩

theorem AreLines.tail {lines : List (List α)}
    (areLines : AreLines separator (line :: lines)) :
    AreLines separator lines := by
  cases areLines with
  | last _ _ =>
      exact AreLines.nil
  | cons _ later =>
      exact later

theorem AreLines.ne_nil {lines : List (List α)}
    (areLines : AreLines separator (line :: lines)) : line ≠ [] := by
  cases areLines with
  | last more _ =>
      exact more
  | cons _ _ =>
      simp

/-- Without the front of its first line a text is still made of lines. -/
theorem AreLines.drop {lines : List (List α)}
    (areLines : AreLines separator (line :: lines))
    (more : room < line.length) :
    AreLines separator (line.drop room :: lines) := by
  cases areLines with
  | last _ free =>
      refine AreLines.last (List.ne_nil_of_length_pos ?_) ?_
      · rw [List.length_drop]
        omega
      · exact fun member => free (List.mem_of_mem_drop member)
  | @cons front _ free later =>
      rw [List.length_append, List.length_singleton] at more
      rw [List.drop_append_of_le_length (by omega)]
      refine AreLines.cons ?_ later
      exact fun member => free (List.mem_of_mem_drop member)

end Cutting

section Readers

variable {room : Nat} {line : List α}

theorem AreLines.firstLine_flatten {lines : List (List α)}
    (areLines : AreLines separator (line :: lines)) :
    firstLine separator (line :: lines).flatten = line := by
  have more : (line :: lines).flatten ≠ [] := by
    rw [List.flatten_cons]
    exact List.append_ne_nil_of_left_ne_nil areLines.ne_nil _
  have first := areLines.rawLines_flatten
  rw [rawLines_of_ne_nil more, List.cons.injEq] at first
  exact first.1

/-- The reader cuts up each line on its own. -/
theorem AreLines.readChunks_flatten (positive : 0 < room)
    {lines : List (List α)} (areLines : AreLines separator lines)
    {rounds : Nat} (enough : lines.flatten.length ≤ rounds) :
    readChunks separator room rounds lines.flatten =
      lines.flatMap (cuts room) := by
  induction rounds generalizing lines with
  | zero =>
      have empty : lines.flatten = [] :=
        List.eq_nil_of_length_eq_zero (Nat.le_zero.mp enough)
      cases lines with
      | nil =>
          rfl
      | cons line rest =>
          rw [List.flatten_cons, List.append_eq_nil_iff] at empty
          exact absurd empty.1 areLines.ne_nil
  | succ rounds inductionHypothesis =>
      cases lines with
      | nil =>
          rfl
      | cons line rest =>
          have more := areLines.ne_nil
          have some := List.length_pos_iff.mpr more
          have notDone : (line :: rest).flatten ≠ [] := by
            rw [List.flatten_cons]
            exact List.append_ne_nil_of_left_ne_nil more _
          rw [List.flatten_cons, List.length_append] at enough
          rw [readChunks, if_neg notDone, chunk,
            areLines.firstLine_flatten, List.flatMap_cons,
            cuts_of_ne_nil positive more, List.flatten_cons]
          by_cases fits : line.length ≤ room
          · rw [List.take_of_length_le fits, List.drop_left,
              List.drop_eq_nil_of_le fits, cuts_nil,
              inductionHypothesis areLines.tail (by omega)]
            rfl
          · have longer : room < line.length := Nat.lt_of_not_le fits
            have taken : (line.take room).length = room := by
              rw [List.length_take, Nat.min_eq_left (by omega)]
            have left :
                (line ++ rest.flatten).drop room =
                  (line.drop room :: rest).flatten := by
              rw [List.drop_append_of_le_length (by omega),
                List.flatten_cons]
            have shorter :
                (line.drop room :: rest).flatten.length ≤ rounds := by
              rw [List.flatten_cons, List.length_append, List.length_drop]
              omega
            rw [taken, left,
              inductionHypothesis (areLines.drop longer) shorter,
              List.flatMap_cons]
            rfl

theorem readChunks_eq_flatMap (positive : 0 < room) (text : List α) :
    readChunks separator room text.length text =
      (rawLines separator text).flatMap (cuts room) := by
  have lines :=
    (areLines_rawLines separator text).readChunks_flatten positive
      (Nat.le_refl _)
  rw [flatten_rawLines] at lines
  exact lines

end Readers

end TextLines

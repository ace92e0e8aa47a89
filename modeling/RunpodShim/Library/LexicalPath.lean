import Mathlib.Data.List.Basic
import RunpodShim.Library.TextLines

/-!
# Lexical path resolution

A path is a list of characters cut into segments at a separator.  Resolving a
list of segments keeps a stack of names: the `here` segment changes nothing,
the `parent` segment drops the last name, any other segment is pushed.  A
bounded walk does the same with a limit on the stack and a rule of its own for
`parent`, and succeeds when the resolution keeps within both.  A scanner does
the cutting and the walk in one pass over the characters.
-/

namespace LexicalPath

open TextLines

universe u

/-- The characters that a path language gives a meaning. -/
structure PathSyntax (α : Type u) where
  separator : α
  here : List α
  parent : List α

variable {α : Type u}

/-- A possible piece of a path. -/
structure IsSegment (separator : α) (segment : List α) : Prop where
  nonempty : segment ≠ []
  separatorFree : separator ∉ segment

/-- A segment that names something itself. -/
structure IsName (language : PathSyntax α) (segment : List α) : Prop
    extends IsSegment language.separator segment where
  notHere : segment ≠ language.here
  notParent : segment ≠ language.parent

instance [DecidableEq α] (language : PathSyntax α) (segment : List α) :
    Decidable (IsName language segment) :=
  decidable_of_iff
    ((segment ≠ [] ∧ language.separator ∉ segment) ∧
      segment ≠ language.here ∧ segment ≠ language.parent)
    ⟨fun proper => ⟨⟨proper.1.1, proper.1.2⟩, proper.2.1, proper.2.2⟩,
      fun proper =>
        ⟨⟨proper.nonempty, proper.separatorFree⟩,
          proper.notHere, proper.notParent⟩⟩

/-- Write names as an absolute path, each after one separator. -/
def render (separator : α) (names : List (List α)) : List α :=
  names.flatMap fun name => separator :: name

@[simp]
theorem render_nil (separator : α) : render separator ([] : List (List α)) = [] :=
  rfl

@[simp]
theorem render_cons (separator : α) (name : List α) (names : List (List α)) :
    render separator (name :: names) =
      separator :: (name ++ render separator names) := by
  simp [render]

theorem render_append (separator : α) (first second : List (List α)) :
    render separator (first ++ second) =
      render separator first ++ render separator second := by
  simp [render]

/-! ## Segments -/

section Segments

variable [DecidableEq α] {separator : α}

/-- The non-empty pieces of a path between its separators. -/
def segments (separator : α) (path : List α) : List (List α) :=
  (path.splitOn separator).filter fun piece => piece ≠ []

@[simp]
theorem segments_nil : segments separator ([] : List α) = [] := by
  simp [segments]

theorem segments_append (separator : α) (first second : List α) :
    segments separator (first ++ separator :: second) =
      segments separator first ++ segments separator second := by
  simp [segments, List.splitOn_append_cons_self]

@[simp]
theorem segments_separator_cons (path : List α) :
    segments separator (separator :: path) = segments separator path := by
  have split := segments_append separator [] path
  simpa using split

theorem segments_of_isSegment {segment : List α}
    (proper : IsSegment separator segment) :
    segments separator segment = [segment] := by
  simp [segments, List.splitOn_eq_singleton proper.separatorFree,
    proper.nonempty]

theorem segments_dropWhile (path : List α) :
    segments separator (path.dropWhile (· == separator)) =
      segments separator path := by
  induction path with
  | nil =>
      rfl
  | cons head tail inductionHypothesis =>
      by_cases same : head = separator
      · subst head
        simpa using inductionHypothesis
      · simp [same]

/-- A segment in front of the end of the path or of a separator is cut off
whole. -/
theorem segments_cons_of_boundary {segment rest : List α}
    (proper : IsSegment separator segment)
    (boundary : rest = [] ∨ ∃ tail, rest = separator :: tail) :
    segments separator (segment ++ rest) =
      segment :: segments separator rest := by
  rcases boundary with rfl | ⟨tail, rfl⟩
  · simp [segments_of_isSegment proper]
  · rw [segments_append, segments_of_isSegment proper,
      segments_separator_cons]
    rfl

/-- Behind a separator, or at the start, segments begin anew. -/
theorem segments_append_of_boundary {front : List α}
    (boundary : front = [] ∨ ∃ start, front = start ++ [separator])
    (back : List α) :
    segments separator (front ++ back) =
      segments separator front ++ segments separator back := by
  rcases boundary with rfl | ⟨start, rfl⟩
  · simp
  · have alone := segments_append separator start []
    rw [segments_nil, List.append_nil] at alone
    rw [List.append_assoc, List.singleton_append, segments_append, alone]

/-- What follows the last separator of a path. -/
theorem exists_lastSegment (separator : α) (path : List α) :
    ∃ front last, path = front ++ last ∧ separator ∉ last ∧
      (front = [] ∨ ∃ start, front = start ++ [separator]) := by
  by_cases cut : separator ∈ path
  · obtain ⟨last, start, reversed, free⟩ :=
      List.eq_append_cons_of_mem (List.mem_reverse.mpr cut)
    refine
      ⟨start.reverse ++ [separator], last.reverse, ?_, ?_,
        Or.inr ⟨start.reverse, rfl⟩⟩
    · rw [← List.reverse_reverse path, reversed]
      simp
    · rw [List.mem_reverse]
      exact free
  · exact ⟨[], path, rfl, cut, Or.inl rfl⟩

/-- What stands in front of the first separator of a path. -/
theorem exists_firstSegment (separator : α) (path : List α) :
    ∃ first back, path = first ++ back ∧ separator ∉ first ∧
      (back = [] ∨ ∃ tail, back = separator :: tail) := by
  by_cases cut : separator ∈ path
  · obtain ⟨first, tail, split, free⟩ := List.eq_append_cons_of_mem cut
    exact ⟨first, separator :: tail, split, free, Or.inr ⟨tail, rfl⟩⟩
  · exact ⟨path, [], (List.append_nil path).symm, cut, Or.inl rfl⟩

/-- Two paths put together have the segments of both, unless the last one of
the first and the first one of the second become one. -/
theorem segments_append_cases (separator : α) (first second : List α) :
    segments separator (first ++ second) =
        segments separator first ++ segments separator second ∨
      ∃ front last next back,
        segments separator first = front ++ [last] ∧
          segments separator second = next :: back ∧
          segments separator (first ++ second) =
            front ++ (last ++ next) :: back := by
  obtain ⟨front, last, rfl, lastFree, frontBoundary⟩ :=
    exists_lastSegment separator first
  obtain ⟨next, back, rfl, nextFree, backBoundary⟩ :=
    exists_firstSegment separator second
  by_cases noLast : last = []
  · left
    subst noLast
    rw [List.append_nil, segments_append_of_boundary frontBoundary]
  · have lastProper : IsSegment separator last := ⟨noLast, lastFree⟩
    by_cases noNext : next = []
    · left
      subst noNext
      rw [List.append_assoc, List.nil_append,
        segments_append_of_boundary frontBoundary,
        segments_cons_of_boundary lastProper backBoundary,
        segments_append_of_boundary frontBoundary,
        segments_of_isSegment lastProper, List.append_assoc]
      rfl
    · right
      have nextProper : IsSegment separator next := ⟨noNext, nextFree⟩
      have jointProper : IsSegment separator (last ++ next) := by
        refine ⟨List.append_ne_nil_of_left_ne_nil noLast next, ?_⟩
        rw [List.mem_append, not_or]
        exact ⟨lastFree, nextFree⟩
      refine
        ⟨segments separator front, last, next, segments separator back,
          ?_, segments_cons_of_boundary nextProper backBoundary, ?_⟩
      · rw [segments_append_of_boundary frontBoundary,
          segments_of_isSegment lastProper]
      · have regrouped :
            front ++ last ++ (next ++ back) =
              front ++ ((last ++ next) ++ back) := by
          simp
        rw [regrouped, segments_append_of_boundary frontBoundary,
          segments_cons_of_boundary jointProper backBoundary]

/-- Inside a longer path the first segment may be the end of one that began
earlier, the segments after it are still segments, and the last one may go
on. -/
theorem segments_of_infix {path before piece after : List α}
    {initial later : List (List α)} {opening middle next : List α}
    (whole : path = before ++ (piece ++ after))
    (inside :
      segments separator piece =
        opening :: (initial ++ middle :: next :: later)) :
    ∃ skipped cut more back,
      segments separator path =
          skipped ++
            (cut ++ opening) ::
              (initial ++ middle :: (next ++ more) :: back) ∧
        (segments separator before = skipped ∨
          segments separator before = skipped ++ [cut]) := by
  have inFront :
      ∃ skipped cut,
        segments separator (before ++ piece) =
            skipped ++
              (cut ++ opening) :: (initial ++ middle :: next :: later) ∧
          (segments separator before = skipped ∨
            segments separator before = skipped ++ [cut]) := by
    rcases segments_append_cases separator before piece with
      apart | ⟨front, last, joined, back, isBefore, isPiece, isBoth⟩
    · rw [inside] at apart
      exact ⟨segments separator before, [], apart, Or.inl rfl⟩
    · rw [inside, List.cons.injEq] at isPiece
      obtain ⟨rfl, rfl⟩ := isPiece
      exact ⟨front, last, isBoth, Or.inr isBefore⟩
  obtain ⟨skipped, cut, both, isBefore⟩ := inFront
  have grouped :
      segments separator (before ++ piece) =
        (skipped ++ (cut ++ opening) :: initial) ++
          middle :: next :: later := by
    rw [both]
    simp
  obtain ⟨more, back, isPath⟩ :
      ∃ more back,
        segments separator path =
          (skipped ++ (cut ++ opening) :: initial) ++
            middle :: (next ++ more) :: back := by
    rw [whole, ← List.append_assoc]
    generalize skipped ++ (cut ++ opening) :: initial = front at grouped
    rcases segments_append_cases separator (before ++ piece) after with
      apart | ⟨start, last, joined, back, isFirst, _, isAll⟩
    · refine ⟨[], later ++ segments separator after, ?_⟩
      rw [apart, grouped, List.append_nil]
      simp
    · rw [grouped] at isFirst
      rcases List.eq_nil_or_concat later with
        isNil | ⟨rest, final, isConcat⟩
      · subst isNil
        have ends :
            (front ++ [middle]) ++ [next] = start ++ [last] := by
          rw [← isFirst]
          simp
        obtain ⟨rfl, same⟩ := List.append_inj' ends rfl
        rw [← List.singleton_inj.mp same] at isAll
        exact ⟨joined, back, by rw [isAll]; simp⟩
      · subst isConcat
        have ends :
            (front ++ middle :: next :: rest) ++ [final] =
              start ++ [last] := by
          rw [← isFirst]
          simp
        obtain ⟨rfl, _⟩ := List.append_inj' ends rfl
        refine ⟨[], rest ++ (last ++ joined) :: back, ?_⟩
        rw [isAll]
        simp
  refine ⟨skipped, cut, more, back, ?_, isBefore⟩
  rw [isPath]
  simp

theorem isSegment_of_mem_segments {path segment : List α}
    (member : segment ∈ segments separator path) :
    IsSegment separator segment := by
  simp only [segments, List.mem_filter, decide_eq_true_eq] at member
  refine ⟨member.2, ?_⟩
  induction path generalizing segment with
  | nil =>
      simp [member.2] at member
  | cons head tail inductionHypothesis =>
      rw [List.splitOn_cons_eq_if_modifyHead] at member
      by_cases same : head = separator
      · simp only [same, beq_self_eq_true, if_true, List.mem_cons,
          member.2, false_or] at member
        exact inductionHypothesis ⟨member.1, member.2⟩
      · simp only [beq_iff_eq, same, if_false] at member
        cases pieces : tail.splitOn separator with
        | nil =>
            exact absurd pieces (List.splitOn_ne_nil separator tail)
        | cons first later =>
            rw [pieces] at member inductionHypothesis
            simp only [List.modifyHead_cons, List.mem_cons] at member
            rcases member.1 with rfl | inLater
            · intro found
              rcases List.mem_cons.mp found with atHead | inFirst
              · exact same atHead.symm
              · have firstNonempty : first ≠ [] :=
                  List.ne_nil_of_mem inFirst
                exact
                  inductionHypothesis
                    ⟨List.mem_cons_self, firstNonempty⟩ inFirst
            · exact
                inductionHypothesis
                  ⟨List.mem_cons_of_mem first inLater, member.2⟩

/-- Cutting a rendered path gives back its names. -/
theorem segments_render {names : List (List α)}
    (proper : ∀ name, name ∈ names → IsSegment separator name) :
    segments separator (render separator names) = names := by
  induction names with
  | nil =>
      simp
  | cons name rest inductionHypothesis =>
      have restProper :
          ∀ other, other ∈ rest → IsSegment separator other :=
        fun other member =>
          proper other (List.mem_cons_of_mem name member)
      have boundary :
          render separator rest = [] ∨
            ∃ tail, render separator rest = separator :: tail := by
        cases rest with
        | nil =>
            exact Or.inl rfl
        | cons next later =>
            exact Or.inr ⟨next ++ render separator later, by simp⟩
      rw [render_cons, segments_separator_cons,
        segments_cons_of_boundary
          (proper name List.mem_cons_self) boundary,
        inductionHypothesis restProper]

end Segments

/-- Cut at every separator, a rendered tail gives exactly its names. -/
theorem splitOn_append_render [DecidableEq α] {separator : α}
    {name : List α} {names : List (List α)}
    (proper : ∀ other, other ∈ name :: names → IsSegment separator other) :
    (name ++ render separator names).splitOn separator = name :: names := by
  induction names generalizing name with
  | nil =>
      have free := (proper name List.mem_cons_self).separatorFree
      rw [render_nil, List.append_nil, List.splitOn_eq_singleton free]
  | cons next later inductionHypothesis =>
      have free := (proper name List.mem_cons_self).separatorFree
      have laterProper :
          ∀ other, other ∈ next :: later → IsSegment separator other :=
        fun other member => proper other (List.mem_cons_of_mem name member)
      rw [render_cons, List.splitOn_append_cons_self,
        List.splitOn_eq_singleton free, inductionHypothesis laterProper]
      rfl

/-- A name is what stands before the first separator of a rendered tail. -/
theorem takeWhile_append_render [DecidableEq α] {separator : α}
    {name : List α} (proper : IsSegment separator name)
    (names : List (List α)) :
    (name ++ render separator names).takeWhile (· != separator) = name := by
  cases names with
  | nil =>
      rw [render_nil, List.append_nil,
        takeWhile_of_separator_notMem proper.separatorFree]
  | cons next later =>
      rw [render_cons, takeWhile_append_separator proper.separatorFree]

theorem dropWhile_append_render [DecidableEq α] {separator : α}
    {name : List α} (proper : IsSegment separator name)
    (names : List (List α)) :
    (name ++ render separator names).dropWhile (· != separator) =
      render separator names := by
  cases names with
  | nil =>
      rw [render_nil, List.append_nil,
        dropWhile_of_separator_notMem proper.separatorFree]
  | cons next later =>
      rw [render_cons, dropWhile_append_separator proper.separatorFree]

/-! ## Resolution -/

section Resolution

variable [DecidableEq α] {language : PathSyntax α}

/-- One segment seen from the directory named by `stack`. -/
def enter (language : PathSyntax α)
    (stack : List (List α)) (segment : List α) : List (List α) :=
  if segment = language.here then stack
  else if segment = language.parent then stack.dropLast
  else stack ++ [segment]

/-- The directory reached from `stack`; above the root there is only the
root. -/
def resolve (language : PathSyntax α) :
    List (List α) → List (List α) → List (List α) :=
  List.foldl (enter language)

@[simp]
theorem resolve_nil (stack : List (List α)) :
    resolve language stack [] = stack :=
  rfl

@[simp]
theorem resolve_cons (stack : List (List α)) (segment : List α)
    (rest : List (List α)) :
    resolve language stack (segment :: rest) =
      resolve language (enter language stack segment) rest :=
  rfl

theorem resolve_append (stack first second : List (List α)) :
    resolve language stack (first ++ second) =
      resolve language (resolve language stack first) second := by
  simp [resolve]

theorem enter_of_isName {segment : List α}
    (proper : IsName language segment) (stack : List (List α)) :
    enter language stack segment = stack ++ [segment] := by
  simp [enter, proper.notHere, proper.notParent]

theorem isName_of_mem_enter {stack : List (List α)} {segment : List α}
    (stackNames : ∀ name, name ∈ stack → IsName language name)
    (proper : IsSegment language.separator segment) :
    ∀ name, name ∈ enter language stack segment →
      IsName language name := by
  intro name member
  unfold enter at member
  split at member
  · exact stackNames name member
  · split at member
    · exact stackNames name (List.dropLast_subset stack member)
    · rcases List.mem_append.mp member with inStack | isSegment
      · exact stackNames name inStack
      · have same : name = segment := List.mem_singleton.mp isSegment
        subst same
        exact ⟨proper, ‹_›, ‹_›⟩

theorem isName_of_mem_resolve :
    ∀ {pieces stack : List (List α)},
      (∀ name, name ∈ stack → IsName language name) →
      (∀ piece, piece ∈ pieces → IsSegment language.separator piece) →
        ∀ name, name ∈ resolve language stack pieces →
          IsName language name
  | [], _, stackNames, _ => stackNames
  | piece :: rest, stack, stackNames, piecesProper => by
      have pieceProper := piecesProper piece List.mem_cons_self
      have restProper :
          ∀ other, other ∈ rest → IsSegment language.separator other :=
        fun other member =>
          piecesProper other (List.mem_cons_of_mem piece member)
      rw [resolve_cons]
      exact
        isName_of_mem_resolve
          (isName_of_mem_enter stackNames pieceProper) restProper

/-- Names resolve to themselves, one below the other. -/
theorem resolve_of_isName {names : List (List α)}
    (proper : ∀ name, name ∈ names → IsName language name)
    (stack : List (List α)) :
    resolve language stack names = stack ++ names := by
  induction names generalizing stack with
  | nil =>
      simp
  | cons name rest inductionHypothesis =>
      have restProper : ∀ other, other ∈ rest → IsName language other :=
        fun other member =>
          proper other (List.mem_cons_of_mem name member)
      rw [resolve_cons, enter_of_isName (proper name List.mem_cons_self),
        inductionHypothesis restProper, List.append_assoc]
      rfl

end Resolution

/-! ## Bounded walks -/

section Walks

variable [DecidableEq α] {language : PathSyntax α} {limit : Nat}
variable {climb other : List (List α) → Option (List (List α))}

/-- One step of a walk: `climb` is the walk's rule for `parent`, and no more
than `limit` names may be on the stack. -/
def enterWithin (language : PathSyntax α) (limit : Nat)
    (climb : List (List α) → Option (List (List α)))
    (stack : List (List α)) (segment : List α) :
    Option (List (List α)) :=
  if segment = language.here then some stack
  else if segment = language.parent then climb stack
  else if limit ≤ stack.length then none
  else some (stack ++ [segment])

/-- The stack after walking through all the segments, if no step fails. -/
def walkWithin (language : PathSyntax α) (limit : Nat)
    (climb : List (List α) → Option (List (List α))) :
    List (List α) → List (List α) → Option (List (List α))
  | stack, [] => some stack
  | stack, segment :: rest =>
      (enterWithin language limit climb stack segment).bind fun next =>
        walkWithin language limit climb next rest

theorem walkWithin_append (first second stack : List (List α)) :
    walkWithin language limit climb stack (first ++ second) =
      (walkWithin language limit climb stack first).bind fun middle =>
        walkWithin language limit climb middle second := by
  induction first generalizing stack with
  | nil =>
      rfl
  | cons segment rest inductionHypothesis =>
      cases entered : enterWithin language limit climb stack segment with
      | none =>
          simp [walkWithin, entered]
      | some next =>
          simpa [walkWithin, entered] using inductionHypothesis next

theorem enterWithin_eq_some {stack next : List (List α)} {segment : List α}
    (drops : ∀ before after, climb before = some after →
      after = before.dropLast)
    (entered :
      enterWithin language limit climb stack segment = some next) :
    next = enter language stack segment := by
  unfold enterWithin at entered
  unfold enter
  split at entered
  · rename_i isHere
    rw [if_pos isHere]
    exact (Option.some.inj entered).symm
  · rename_i notHere
    rw [if_neg notHere]
    split at entered
    · rename_i isParent
      rw [if_pos isParent]
      exact drops stack next entered
    · rename_i notParent
      rw [if_neg notParent]
      split at entered
      · cases entered
      · exact (Option.some.inj entered).symm

/-- A walk that succeeds, with a rule for `parent` that drops one name,
resolves. -/
theorem walkWithin_eq_some
    (drops : ∀ before after, climb before = some after →
      after = before.dropLast)
    {pieces stack finish : List (List α)}
    (walked :
      walkWithin language limit climb stack pieces = some finish) :
    finish = resolve language stack pieces := by
  induction pieces generalizing stack with
  | nil =>
      exact (Option.some.inj walked).symm
  | cons piece rest inductionHypothesis =>
      rw [walkWithin, Option.bind_eq_some_iff] at walked
      obtain ⟨next, entered, later⟩ := walked
      rw [resolve_cons, ← enterWithin_eq_some drops entered]
      exact inductionHypothesis later

/-- A stricter rule for `parent` walks the same way as a weaker one, where it
walks at all. -/
theorem walkWithin_mono
    (weaker : ∀ before after, climb before = some after →
      other before = some after)
    {pieces stack finish : List (List α)}
    (walked :
      walkWithin language limit climb stack pieces = some finish) :
    walkWithin language limit other stack pieces = some finish := by
  induction pieces generalizing stack with
  | nil =>
      exact walked
  | cons piece rest inductionHypothesis =>
      rw [walkWithin, Option.bind_eq_some_iff] at walked
      obtain ⟨next, entered, later⟩ := walked
      have enteredOther :
          enterWithin language limit other stack piece = some next := by
        unfold enterWithin at entered ⊢
        split at entered
        · rename_i isHere
          rw [if_pos isHere]
          exact entered
        · rename_i notHere
          rw [if_neg notHere]
          split at entered
          · rename_i isParent
            rw [if_pos isParent]
            exact weaker stack next entered
          · rename_i notParent
            rw [if_neg notParent]
            exact entered
      rw [walkWithin, enteredOther]
      exact inductionHypothesis later

/-- Names within the limit are all pushed. -/
theorem walkWithin_of_isName {names stack : List (List α)}
    (proper : ∀ name, name ∈ names → IsName language name)
    (room : stack.length + names.length ≤ limit) :
    walkWithin language limit climb stack names =
      some (stack ++ names) := by
  induction names generalizing stack with
  | nil =>
      simp [walkWithin]
  | cons name rest inductionHypothesis =>
      have nameProper := proper name List.mem_cons_self
      have restProper : ∀ other, other ∈ rest → IsName language other :=
        fun other member =>
          proper other (List.mem_cons_of_mem name member)
      simp only [List.length_cons] at room
      have entered :
          enterWithin language limit climb stack name =
            some (stack ++ [name]) := by
        have below : ¬ limit ≤ stack.length := by omega
        simp [enterWithin, nameProper.notHere, nameProper.notParent, below]
      have restRoom :
          (stack ++ [name]).length + rest.length ≤ limit := by
        simp only [List.length_append, List.length_cons, List.length_nil]
        omega
      rw [walkWithin, entered, Option.bind_some,
        inductionHypothesis restProper restRoom, List.append_assoc]
      rfl

theorem length_enterWithin_le {stack next : List (List α)}
    {segment : List α}
    (drops : ∀ before after, climb before = some after →
      after = before.dropLast)
    (start : stack.length ≤ limit)
    (entered :
      enterWithin language limit climb stack segment = some next) :
    next.length ≤ limit := by
  unfold enterWithin at entered
  split at entered
  · exact Option.some.inj entered ▸ start
  · split at entered
    · rw [drops stack next entered, List.length_dropLast]
      omega
    · split at entered
      · cases entered
      · rw [← Option.some.inj entered]
        simp only [List.length_append, List.length_cons, List.length_nil]
        omega

theorem length_walkWithin_le
    (drops : ∀ before after, climb before = some after →
      after = before.dropLast)
    {pieces stack finish : List (List α)}
    (start : stack.length ≤ limit)
    (walked :
      walkWithin language limit climb stack pieces = some finish) :
    finish.length ≤ limit := by
  induction pieces generalizing stack with
  | nil =>
      exact Option.some.inj walked ▸ start
  | cons piece rest inductionHypothesis =>
      rw [walkWithin, Option.bind_eq_some_iff] at walked
      obtain ⟨next, entered, later⟩ := walked
      exact
        inductionHypothesis
          (length_enterWithin_le drops start entered) later

/-- A walk keeps within the limit on the stack, and nowhere takes `parent`
from a stack that `blocked` forbids to leave. -/
structure KeepsWithin (language : PathSyntax α) (limit : Nat)
    (blocked : List (List α) → Prop) (stack pieces : List (List α)) :
    Prop where
  short : ∀ front, front <+: pieces →
    (resolve language stack front).length ≤ limit
  free : ∀ front, front ++ [language.parent] <+: pieces →
    ¬ blocked (resolve language stack front)

variable {blocked : List (List α) → Prop}

theorem keepsWithin_nil_iff {stack : List (List α)} :
    KeepsWithin language limit blocked stack [] ↔ stack.length ≤ limit := by
  constructor
  · intro keeps
    exact keeps.short [] (List.prefix_refl [])
  · intro short
    constructor
    · intro front before
      rw [List.prefix_nil.mp before]
      exact short
    · intro front before
      simp at before

theorem keepsWithin_cons_iff {stack rest : List (List α)}
    {piece : List α} :
    KeepsWithin language limit blocked stack (piece :: rest) ↔
      stack.length ≤ limit ∧
        (piece = language.parent → ¬ blocked stack) ∧
        KeepsWithin language limit blocked
          (enter language stack piece) rest := by
  constructor
  · intro keeps
    refine ⟨keeps.short [] List.nil_prefix, ?_, ?_, ?_⟩
    · intro isParent
      exact keeps.free [] (by simp [isParent])
    · intro front before
      exact keeps.short (piece :: front) (by simpa using before)
    · intro front before
      exact keeps.free (piece :: front) (by simpa using before)
  · rintro ⟨short, free, later⟩
    constructor
    · intro front before
      cases front with
      | nil =>
          exact short
      | cons first more =>
          rw [List.cons_prefix_cons] at before
          rw [before.1]
          exact later.short more before.2
    · intro front before
      cases front with
      | nil =>
          apply free
          simpa [eq_comm] using before
      | cons first more =>
          rw [List.cons_append, List.cons_prefix_cons] at before
          rw [before.1]
          exact later.free more before.2

/-- A walk whose rule for `parent` drops a name wherever it is not blocked
succeeds exactly where it keeps within its bounds, and then resolves. -/
theorem walkWithin_eq_some_iff [DecidablePred blocked]
    (rule : ∀ stack,
      climb stack = if blocked stack then none else some stack.dropLast)
    (distinct : language.here ≠ language.parent)
    {pieces stack finish : List (List α)} (start : stack.length ≤ limit) :
    walkWithin language limit climb stack pieces = some finish ↔
      KeepsWithin language limit blocked stack pieces ∧
        finish = resolve language stack pieces := by
  induction pieces generalizing stack with
  | nil =>
      rw [keepsWithin_nil_iff]
      simp [walkWithin, start, eq_comm]
  | cons piece rest inductionHypothesis =>
      rw [walkWithin, keepsWithin_cons_iff, resolve_cons]
      by_cases isHere : piece = language.here
      · have notParent : piece ≠ language.parent := by
          rw [isHere]
          exact distinct
        have stays : enter language stack piece = stack := if_pos isHere
        rw [enterWithin, if_pos isHere, Option.bind_some,
          inductionHypothesis start, stays]
        simp [start, notParent]
      · by_cases isParent : piece = language.parent
        · have drops : enter language stack piece = stack.dropLast := by
            rw [enter, if_neg isHere, if_pos isParent]
          rw [enterWithin, if_neg isHere, if_pos isParent, rule, drops]
          by_cases held : blocked stack
          · simp [held, isParent]
          · have shorter : stack.dropLast.length ≤ limit := by
              rw [List.length_dropLast]
              omega
            rw [if_neg held, Option.bind_some, inductionHypothesis shorter]
            simp [start, held]
        · have pushes :
              enter language stack piece = stack ++ [piece] := by
            rw [enter, if_neg isHere, if_neg isParent]
          rw [enterWithin, if_neg isHere, if_neg isParent, pushes]
          by_cases full : limit ≤ stack.length
          · have tooLong :
                ¬ KeepsWithin language limit blocked (stack ++ [piece])
                  rest := by
              intro keeps
              have short := keeps.short [] List.nil_prefix
              simp at short
              omega
            simp [full, tooLong]
          · have room : (stack ++ [piece]).length ≤ limit := by
              simp only [List.length_append, List.length_singleton]
              omega
            rw [if_neg full, Option.bind_some, inductionHypothesis room]
            simp [start, isParent]

end Walks

/-! ## Scanning -/

section Scanning

variable [DecidableEq α] {separator : α}

/-- One pass over the characters: skip separators, cut the next segment off
and let `act` change the stack with it.  Every turn uses up a character, so
the length of the path is enough fuel. -/
def scan (separator : α)
    (act : List (List α) → List α → Option (List (List α))) :
    Nat → List α → List (List α) → Option (List (List α))
  | 0, _, stack => some stack
  | fuel + 1, path, stack =>
      let rest := path.dropWhile (· == separator)
      if rest = [] then some stack
      else
        (act stack (rest.takeWhile (· != separator))).bind fun next =>
          scan separator act fuel (rest.dropWhile (· != separator)) next

theorem isSegment_takeWhile {head : α} {tail : List α}
    (proper : head ≠ separator) :
    IsSegment separator ((head :: tail).takeWhile (· != separator)) := by
  constructor
  · simp [proper]
  · intro member
    have passes :=
      List.all_eq_true.mp
        (List.all_takeWhile (p := (· != separator))) separator member
    simp at passes

theorem dropWhile_boundary (path : List α) :
    path.dropWhile (· != separator) = [] ∨
      ∃ tail, path.dropWhile (· != separator) = separator :: tail := by
  induction path with
  | nil =>
      exact Or.inl rfl
  | cons head tail inductionHypothesis =>
      by_cases same : head = separator
      · exact Or.inr ⟨tail, by simp [same]⟩
      · simpa [same] using inductionHypothesis

theorem segments_eq_cons_of_dropWhile_ne_nil {path rest : List α}
    (skipped : path.dropWhile (· == separator) = rest)
    (more : rest ≠ []) :
    IsSegment separator (rest.takeWhile (· != separator)) ∧
      segments separator path =
        rest.takeWhile (· != separator) ::
          segments separator (rest.dropWhile (· != separator)) := by
  cases shape : rest with
  | nil =>
      exact absurd shape more
  | cons head tail =>
      have headProper : head ≠ separator := by
        have first :=
          List.head?_dropWhile_not (· == separator) path
        rw [skipped, shape] at first
        simpa using first
      have segmentProper :
          IsSegment separator
            ((head :: tail).takeWhile (· != separator)) :=
        isSegment_takeWhile headProper
      refine ⟨segmentProper, ?_⟩
      calc
        segments separator path =
            segments separator (head :: tail) := by
          rw [← shape, ← skipped, segments_dropWhile]
        _ = segments separator
              ((head :: tail).takeWhile (· != separator) ++
                (head :: tail).dropWhile (· != separator)) := by
          rw [List.takeWhile_append_dropWhile]
        _ = _ :=
          segments_cons_of_boundary segmentProper
            (dropWhile_boundary (head :: tail))

/-- The scanner acts on the segments of the path, one after the other. -/
theorem scan_enterWithin (language : PathSyntax α) {limit : Nat}
    {climb : List (List α) → Option (List (List α))} :
    ∀ (fuel : Nat) (path : List α) (stack : List (List α)),
      path.length ≤ fuel →
        scan language.separator (enterWithin language limit climb)
            fuel path stack =
          walkWithin language limit climb stack
            (segments language.separator path)
  | 0, path, stack, enough => by
      have empty : path = [] :=
        List.eq_nil_of_length_eq_zero (Nat.le_zero.mp enough)
      subst empty
      simp [scan, walkWithin]
  | fuel + 1, path, stack, enough => by
      by_cases finished : path.dropWhile (· == language.separator) = []
      · have none : segments language.separator path = [] := by
          rw [← segments_dropWhile, finished, segments_nil]
        simp [scan, finished, none, walkWithin]
      · obtain ⟨proper, cut⟩ :=
          segments_eq_cons_of_dropWhile_ne_nil rfl finished
        have shorter :
            ((path.dropWhile (· == language.separator)).dropWhile
                (· != language.separator)).length ≤ fuel := by
          have pieces :=
            congrArg List.length
              (List.takeWhile_append_dropWhile
                (p := (· != language.separator))
                (l := path.dropWhile (· == language.separator)))
          have consumed := List.length_pos_iff.mpr proper.nonempty
          have skipped :=
            (List.dropWhile_sublist (l := path)
              (· == language.separator)).length_le
          simp only [List.length_append] at pieces
          omega
        rw [cut]
        simp only [scan, finished, if_false, walkWithin]
        congr 1
        funext next
        exact scan_enterWithin language fuel _ next shorter

end Scanning

end LexicalPath

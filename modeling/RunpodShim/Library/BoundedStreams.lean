import Mathlib.Algebra.GroupWithZero.Nat
import Mathlib.Data.List.Infix
import Mathlib.Data.List.Nodup
import Mathlib.Logic.Function.Basic

/-!
# Bounded maps of streams

A map from keys to what is left of a stream, with room for a fixed number of
keys: putting a stream in, taking the next items of one, and removing one.
Between two changes of a key the items that are taken are consecutive slices
of its stream.
-/

namespace BoundedStreams

universe u v

/-- The slices that requests of these sizes take, in turn. -/
def slices {α : Type v} : List α → List Nat → List (List α)
  | _, [] => []
  | items, count :: counts =>
      items.take count :: slices (items.drop count) counts

section Slices

variable {α : Type v}

theorem length_slices (items : List α) (counts : List Nat) :
    (slices items counts).length = counts.length := by
  induction counts generalizing items with
  | nil =>
      rfl
  | cons count rest inductionHypothesis =>
      rw [slices, List.length_cons, List.length_cons, inductionHypothesis]

/-- The slices are the front of the stream. -/
theorem flatten_slices (items : List α) (counts : List Nat) :
    (slices items counts).flatten = items.take counts.sum := by
  induction counts generalizing items with
  | nil =>
      rfl
  | cons count rest inductionHypothesis =>
      rw [slices, List.flatten_cons, inductionHypothesis, List.sum_cons,
        List.take_add]

theorem flatten_slices_prefix (items : List α) (counts : List Nat) :
    (slices items counts).flatten <+: items := by
  rw [flatten_slices]
  exact List.take_prefix _ items

/-- Each slice is as long as was asked for, or as what the ones before it
left. -/
theorem length_slice (items : List α) (counts : List Nat) {place : Nat}
    {slice : List α} {count : Nat}
    (here : (slices items counts)[place]? = some slice)
    (asked : counts[place]? = some count) :
    slice.length =
      min count
        (items.length -
          ((slices items counts).take place).flatten.length) := by
  induction counts generalizing items place with
  | nil =>
      cases asked
  | cons first rest inductionHypothesis =>
      rw [slices] at here
      cases place with
      | zero =>
          rw [List.getElem?_cons_zero] at here asked
          rw [← Option.some.inj here, ← Option.some.inj asked,
            List.length_take]
          rfl
      | succ place =>
          rw [List.getElem?_cons_succ] at here asked
          rw [inductionHypothesis (items.drop first) here asked, slices,
            List.take_succ_cons, List.flatten_cons, List.length_append,
            List.length_drop, List.length_take]
          omega

end Slices

/-! ## The map -/

variable {κ : Type u} {α : Type v} [DecidableEq κ]

/-- What is left of the stream of each key. -/
abbrev Streams (κ : Type u) (α : Type v) : Type (max u v) :=
  κ → Option (List α)

/-- What can be asked of the map; a `put` that is not admitted fails. -/
inductive Request (κ : Type u) (α : Type v) : Type (max u v)
  | put (admitted : Bool) (key : κ) (items : List α)
  | take (key : κ) (count : Nat)
  | remove (key : κ)

/-- What the map answers. -/
inductive Answer (α : Type v) : Type v
  | put (stored : Bool)
  | take (items : Option (List α))
  | remove

/-- There is a stream for as many other keys as there is room for. -/
def FullBeside (capacity : Nat) (streams : Streams κ α) (key : κ) : Prop :=
  ∃ others : List κ, others.Nodup ∧ others.length = capacity ∧
    key ∉ others ∧ ∀ other, other ∈ others → (streams other).isSome = true

/-- One request and its answer. -/
inductive Step (capacity : Nat) :
    Streams κ α → Request κ α → Answer α → Streams κ α → Prop
  | stored {streams : Streams κ α} {key : κ} {items : List α} :
      ¬ FullBeside capacity streams key →
        Step capacity streams (Request.put true key items)
          (Answer.put true) (Function.update streams key (some items))
  | refused {streams : Streams κ α} {admitted : Bool} {key : κ}
      {items : List α} :
      admitted = false ∨ FullBeside capacity streams key →
        Step capacity streams (Request.put admitted key items)
          (Answer.put false) streams
  | taken {streams : Streams κ α} {key : κ} {count : Nat}
      {items : List α} :
      streams key = some items →
        Step capacity streams (Request.take key count)
          (Answer.take (some (items.take count)))
          (Function.update streams key (some (items.drop count)))
  | missed {streams : Streams κ α} {key : κ} {count : Nat} :
      streams key = none →
        Step capacity streams (Request.take key count) (Answer.take none)
          streams
  | removed {streams : Streams κ α} {key : κ} :
      Step capacity streams (Request.remove key) Answer.remove
        (Function.update streams key none)

/-- Requests and their answers, one after the other. -/
inductive Run (capacity : Nat) :
    Streams κ α → List (Request κ α × Answer α) → Streams κ α → Prop
  | nil {streams : Streams κ α} : Run capacity streams [] streams
  | cons {start next finish : Streams κ α} {request : Request κ α}
      {answer : Answer α} {rest : List (Request κ α × Answer α)} :
      Step capacity start request answer next →
        Run capacity next rest finish →
          Run capacity start ((request, answer) :: rest) finish

/-- The request replaces or removes the stream of the key. -/
def Interrupts (key : κ) (event : Request κ α × Answer α) : Prop :=
  (∃ items, event = (Request.put true key items, Answer.put true)) ∨
    event.1 = Request.remove key

/-- The size and the answer of a request for items of the key. -/
def takeOf (key : κ) :
    Request κ α × Answer α → Option (Nat × Option (List α))
  | (Request.take asked count, Answer.take items) =>
      if asked = key then some (count, items) else none
  | _ => none

/-- All requests for items of the key. -/
def takesOf (key : κ) (events : List (Request κ α × Answer α)) :
    List (Nat × Option (List α)) :=
  events.filterMap (takeOf key)

section Events

variable {capacity : Nat} {start finish : Streams κ α} {key : κ}
variable {items : List α}

/-- A step that does not interrupt a key takes the next items of its stream,
or leaves it alone. -/
theorem Step.stream {request : Request κ α} {answer : Answer α}
    (step : Step capacity start request answer finish)
    (undisturbed : ¬ Interrupts key (request, answer))
    (here : start key = some items) :
    (∃ count,
      takeOf key (request, answer) =
          some (count, some (items.take count)) ∧
        finish key = some (items.drop count)) ∨
      takeOf key (request, answer) = none ∧ finish key = some items := by
  cases step with
  | @stored other content _ =>
      right
      have differs : key ≠ other := by
        intro same
        subst same
        exact undisturbed (Or.inl ⟨content, rfl⟩)
      exact ⟨rfl, by rw [Function.update_of_ne differs, here]⟩
  | refused _ =>
      exact Or.inr ⟨rfl, here⟩
  | @taken other count content found =>
      by_cases same : other = key
      · subst same
        rw [found] at here
        cases here
        left
        refine ⟨count, ?_, by rw [Function.update_self]⟩
        rw [takeOf, if_pos rfl]
      · right
        refine ⟨?_, ?_⟩
        · rw [takeOf, if_neg same]
        · rw [Function.update_of_ne (Ne.symm same), here]
  | @missed other count missing =>
      right
      have differs : other ≠ key := by
        intro same
        rw [same, here] at missing
        cases missing
      refine ⟨?_, here⟩
      rw [takeOf, if_neg differs]
  | @removed other =>
      right
      have differs : key ≠ other := by
        intro same
        subst same
        exact undisturbed (Or.inr rfl)
      exact ⟨rfl, by rw [Function.update_of_ne differs, here]⟩

/-- While a key is not interrupted, the answers to the requests for its items
are consecutive slices of its stream. -/
theorem Run.takes_eq_slices {events : List (Request κ α × Answer α)}
    (run : Run capacity start events finish)
    (undisturbed : ∀ event, event ∈ events → ¬ Interrupts key event)
    (here : start key = some items) :
    (takesOf key events).map Prod.snd =
        (slices items ((takesOf key events).map Prod.fst)).map some ∧
      finish key =
        some (items.drop ((takesOf key events).map Prod.fst).sum) := by
  induction run generalizing items with
  | nil =>
      exact ⟨rfl, here⟩
  | @cons _ _ _ request answer rest step _ inductionHypothesis =>
      have calm :
          ∀ event, event ∈ rest → ¬ Interrupts key event :=
        fun event member =>
          undisturbed event (List.mem_cons_of_mem _ member)
      rcases
          step.stream (undisturbed _ List.mem_cons_self) here with
        takes | passes
      · obtain ⟨count, asked, left⟩ := takes
        obtain ⟨answers, final⟩ := inductionHypothesis calm left
        have first :
            takesOf key ((request, answer) :: rest) =
              (count, some (items.take count)) :: takesOf key rest := by
          rw [takesOf, List.filterMap_cons_some asked]
          rfl
        rw [first, List.map_cons, List.map_cons, answers, List.sum_cons,
          final, List.drop_drop]
        exact ⟨rfl, rfl⟩
      · obtain ⟨asked, left⟩ := passes
        have first :
            takesOf key ((request, answer) :: rest) = takesOf key rest := by
          rw [takesOf, List.filterMap_cons_none asked]
          rfl
        rw [first]
        exact inductionHypothesis calm left

end Events

end BoundedStreams

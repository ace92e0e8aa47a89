import Mathlib.Data.List.Perm.Subperm
import RunpodShim.Core.FdMap
import RunpodShim.Library.BoundedStreams

/-!
# The meminfo table as a bounded map

The 64 slots of `core/fd_map.c` under any sequence of calls, as a map from
descriptors to what is left of their bytes.
-/

namespace RunpodShim

open BoundedStreams FirstMatch

/-- A call of the table; `malloc` says whether memory is to be had, and the
buffer of a read is one that can take what is asked for. -/
inductive TableCall
  | put (malloc : Bool) (fd : Int) (data : Option (List UInt8)) (len : Nat)
  | takeRead (buffer : Bool) (fd : Int) (count : Nat)
      (usable : buffer = true ∨ count = 0)
  | remove (fd : Int)

/-- The answer of a call and the table after it. -/
def TableCall.run (entries : List RpsFdMapEntry) :
    TableCall → Answer UInt8 × List RpsFdMapEntry
  | put malloc fd data len =>
      (Answer.put (rpsFdMapPut malloc fd data len entries).1,
        (rpsFdMapPut malloc fd data len entries).2)
  | takeRead buffer fd count _ =>
      (Answer.take (rpsFdMapTakeRead buffer fd count entries).1,
        (rpsFdMapTakeRead buffer fd count entries).2)
  | remove fd => (Answer.remove, rpsFdMapRemove fd entries)

/-- The table after a sequence of calls. -/
def tableAfter (entries : List RpsFdMapEntry) (calls : List TableCall) :
    List RpsFdMapEntry :=
  calls.foldl (fun entries call => (call.run entries).2) entries

/-- The arguments of a `put` are valid, and its copy can be allocated. -/
def Admitted (malloc : Bool) (fd : Int) (data : Option (List UInt8))
    (len : Nat) : Prop :=
  0 ≤ fd ∧ (data = none → len = 0) ∧ (0 < len → malloc = true)

instance (malloc : Bool) (fd : Int) (data : Option (List UInt8))
    (len : Nat) : Decidable (Admitted malloc fd data len) :=
  inferInstanceAs
    (Decidable
      (0 ≤ fd ∧ (data = none → len = 0) ∧ (0 < len → malloc = true)))

/-- What a call asks of the map. -/
def TableCall.request : TableCall → Request Int UInt8
  | put malloc fd data len =>
      Request.put (decide (Admitted malloc fd data len)) fd
        ((data.getD []).take len)
  | takeRead _ fd count _ => Request.take fd count
  | remove fd => Request.remove fd

/-- The requests of a sequence of calls, with the answers of the table. -/
def eventsOf :
    List RpsFdMapEntry → List TableCall →
      List (Request Int UInt8 × Answer UInt8)
  | _, [] => []
  | entries, call :: rest =>
      (call.request, (call.run entries).1) ::
        eventsOf (call.run entries).2 rest

/-- What is left of the bytes of each descriptor. -/
def streamsOf (entries : List RpsFdMapEntry) : Streams Int UInt8 :=
  fun fd =>
    (fdMapStream fd entries).map fun stream => stream.1.drop stream.2

/-- The table is well kept and has all of its slots. -/
structure TableWhole (entries : List RpsFdMapEntry) : Prop extends
    TableKept entries where
  slots : entries.length = 64

/-! ## Slots -/

section Slots

variable {entries : List RpsFdMapEntry} {fd : Int}

theorem tableWhole_emptyEntries : TableWhole emptyEntries :=
  ⟨tableKept_emptyEntries, rfl⟩

theorem length_rpsFdMapPut (malloc : Bool) (fd : Int)
    (data : Option (List UInt8)) (len : Nat)
    (entries : List RpsFdMapEntry) :
    (rpsFdMapPut malloc fd data len entries).2.length = entries.length := by
  rw [rpsFdMapPut]
  split
  · rfl
  · split
    · rfl
    · simp only
      split
      · exact length_updateFirst _ _ entries
      · split
        · exact length_updateFirst _ _ entries
        · rfl

theorem length_rpsFdMapTakeRead (buffer : Bool) (fd : Int) (count : Nat)
    (entries : List RpsFdMapEntry) :
    (rpsFdMapTakeRead buffer fd count entries).2.length =
      entries.length := by
  rw [rpsFdMapTakeRead]
  split
  · rfl
  · split
    · rfl
    · exact length_updateFirst _ _ entries

/-- Every call keeps the table whole. -/
theorem TableWhole.run (whole : TableWhole entries) (call : TableCall) :
    TableWhole (call.run entries).2 := by
  cases call with
  | put malloc fd data len =>
      exact
        ⟨whole.toTableKept.put malloc fd data len,
          (length_rpsFdMapPut malloc fd data len entries).trans
            whole.slots⟩
  | takeRead buffer fd count usable =>
      exact
        ⟨whole.toTableKept.takeRead usable fd,
          (length_rpsFdMapTakeRead buffer fd count entries).trans
            whole.slots⟩
  | remove fd =>
      exact
        ⟨whole.toTableKept.remove fd,
          (length_updateFirst _ _ entries).trans whole.slots⟩

theorem TableWhole.after (whole : TableWhole entries)
    (calls : List TableCall) : TableWhole (tableAfter entries calls) := by
  induction calls generalizing entries with
  | nil =>
      exact whole
  | cons call rest inductionHypothesis =>
      exact inductionHypothesis (whole.run call)

theorem isSome_streamsOf (fd : Int) (entries : List RpsFdMapEntry) :
    (streamsOf entries fd).isSome = entries.any (holdsFd fd) := by
  rw [streamsOf, Option.isSome_map, any_holdsFd]

/-- The descriptors of the active slots. -/
def heldFds (entries : List RpsFdMapEntry) : List Int :=
  (entries.filter fun entry => entry.active).map RpsFdMapEntry.fd

theorem mem_heldFds :
    fd ∈ heldFds entries ↔ entries.any (holdsFd fd) = true := by
  simp [heldFds, holdsFd, and_assoc]

theorem count_heldFds (fd : Int) (entries : List RpsFdMapEntry) :
    (heldFds entries).count fd = entries.countP (holdsFd fd) := by
  rw [heldFds, List.count, List.countP_map, List.countP_filter]
  apply List.countP_congr
  intro entry _
  simp [holdsFd, and_comm]

theorem TableKept.nodup_heldFds (kept : TableKept entries) :
    (heldFds entries).Nodup := by
  rw [List.nodup_iff_count_le_one]
  intro fd
  rw [count_heldFds]
  exact kept.unique fd

theorem length_heldFds :
    (heldFds entries).length =
      (entries.filter fun entry => entry.active).length :=
  List.length_map _

theorem isSome_streamsOf_iff :
    (streamsOf entries fd).isSome = true ↔ fd ∈ heldFds entries := by
  rw [isSome_streamsOf, mem_heldFds]

/-- Active slots for as many other descriptors are all there are. -/
theorem not_held_of_fullBeside (whole : TableWhole entries)
    (full : FullBeside 64 (streamsOf entries) fd) :
    fd ∉ heldFds entries := by
  obtain ⟨others, distinct, count, notThis, held⟩ := full
  intro isHeld
  have more : (fd :: others).Nodup :=
    List.nodup_cons.mpr ⟨notThis, distinct⟩
  have among : fd :: others ⊆ heldFds entries := by
    apply List.cons_subset.mpr
    exact
      ⟨isHeld, fun other member => isSome_streamsOf_iff.mp (held other member)⟩
  have bound := (more.subperm among).length_le
  have few : (heldFds entries).length ≤ entries.length := by
    rw [length_heldFds]
    exact List.length_filter_le _ entries
  have slots := whole.slots
  rw [List.length_cons] at bound
  omega

theorem noRoom_of_fullBeside (whole : TableWhole entries)
    (full : FullBeside 64 (streamsOf entries) fd) :
    (entries.any fun entry => !entry.active) = false := by
  obtain ⟨others, distinct, count, _, held⟩ := full
  rw [← Bool.not_eq_true]
  intro room
  obtain ⟨entry, member, inactive⟩ := List.any_eq_true.mp room
  have fewer :
      (entries.filter fun entry => entry.active).length < entries.length :=
    List.length_filter_lt_length_iff_exists.mpr
      ⟨entry, member, by simpa using inactive⟩
  have among : others ⊆ heldFds entries :=
    fun other member => isSome_streamsOf_iff.mp (held other member)
  have bound := (distinct.subperm among).length_le
  have slots := whole.slots
  rw [length_heldFds] at bound
  omega

theorem fullBeside_of_noRoom (whole : TableWhole entries)
    (notHeld : fd ∉ heldFds entries)
    (noRoom : (entries.any fun entry => !entry.active) = false) :
    FullBeside 64 (streamsOf entries) fd := by
  have allActive : entries.filter (fun entry => entry.active) = entries := by
    rw [List.filter_eq_self]
    intro entry member
    simpa using List.any_eq_false.mp noRoom entry member
  refine
    ⟨heldFds entries, whole.toTableKept.nodup_heldFds, ?_, notHeld, ?_⟩
  · rw [length_heldFds, allActive, whole.slots]
  · intro other member
    exact isSome_streamsOf_iff.mpr member

/-- Sixty-four other descriptors leave neither a slot nor one for this
descriptor. -/
theorem fullBeside_iff (whole : TableWhole entries) :
    FullBeside 64 (streamsOf entries) fd ↔
      entries.any (holdsFd fd) = false ∧
        (entries.any fun entry => !entry.active) = false := by
  rw [← Bool.not_eq_true, ← mem_heldFds]
  constructor
  · intro full
    exact
      ⟨not_held_of_fullBeside whole full, noRoom_of_fullBeside whole full⟩
  · intro given
    exact fullBeside_of_noRoom whole given.1 given.2

/-- No slot is read past its end. -/
theorem TableKept.offset_le (kept : TableKept entries)
    {entry : RpsFdMapEntry} (member : entry ∈ entries)
    (active : entry.active = true) :
    entry.offset ≤ entry.data.length := by
  have holds : holdsFd entry.fd entry = true := by
    simp [holdsFd, active]
  have only : (entries.filter (holdsFd entry.fd)).length ≤ 1 := by
    rw [← List.countP_eq_length_filter]
    exact kept.unique entry.fd
  have inFilter : entry ∈ entries.filter (holdsFd entry.fd) :=
    List.mem_filter.mpr ⟨member, holds⟩
  have found : entries.find? (holdsFd entry.fd) = some entry := by
    rw [← List.head?_filter]
    cases filtered : entries.filter (holdsFd entry.fd) with
    | nil =>
        rw [filtered] at inFilter
        cases inFilter
    | cons first rest =>
        rw [filtered, List.length_cons] at only
        have alone : rest = [] :=
          List.eq_nil_of_length_eq_zero (by omega)
        rw [filtered, alone, List.mem_singleton] at inFilter
        rw [List.head?_cons, inFilter]
  apply kept.within entry.fd entry.data entry.offset
  rw [fdMapStream, found]
  rfl

end Slots

/-! ## One call -/

section Call

variable {entries : List RpsFdMapEntry}

theorem not_admitted_iff {malloc : Bool} {fd : Int}
    {data : Option (List UInt8)} {len : Nat} :
    ¬ Admitted malloc fd data len ↔
      (fd < 0 ∨ (data = none ∧ 0 < len)) ∨ (0 < len ∧ malloc = false) := by
  rw [Admitted, not_and_or, not_and_or, Classical.not_imp,
    Classical.not_imp, Int.not_le, Nat.pos_iff_ne_zero,
    Bool.not_eq_true, or_assoc]

/-- A `put` succeeds when it is admitted and finds a slot. -/
theorem rpsFdMapPut_fst_eq_true_iff {malloc : Bool} {fd : Int}
    {data : Option (List UInt8)} {len : Nat} :
    (rpsFdMapPut malloc fd data len entries).1 = true ↔
      Admitted malloc fd data len ∧
        (entries.any (holdsFd fd) = true ∨
          (entries.any fun entry => !entry.active) = true) := by
  rw [rpsFdMapPut, Admitted]
  by_cases invalid : fd < 0 ∨ (data = none ∧ len > 0)
  · rw [if_pos invalid]
    constructor
    · intro impossible
      cases impossible
    · intro given
      rcases given with ⟨⟨nonneg, noData, _⟩, _⟩
      rcases invalid with negative | ⟨missing, long⟩
      · omega
      · have empty := noData missing
        omega
  · rw [if_neg invalid]
    obtain ⟨nonneg, noData⟩ := not_or.mp invalid
    by_cases unallocated : len > 0 ∧ ¬ malloc = true
    · rw [if_pos unallocated]
      constructor
      · intro impossible
        cases impossible
      · intro given
        rcases given with ⟨⟨_, _, allocated⟩, _⟩
        exact absurd (allocated unallocated.1) unallocated.2
    · rw [if_neg unallocated]
      have admitted :
          0 ≤ fd ∧ (data = none → len = 0) ∧ (0 < len → malloc = true) := by
        refine ⟨by omega, ?_, ?_⟩
        · intro missing
          by_contra long
          exact noData ⟨missing, Nat.pos_of_ne_zero long⟩
        · intro long
          by_contra failed
          exact unallocated ⟨long, failed⟩
      rw [and_iff_right admitted]
      by_cases held : entries.any (holdsFd fd) = true
      · simp [held]
      · rw [if_neg held]
        by_cases room : (entries.any fun entry => !entry.active) = true
        · rw [if_pos room]
          exact ⟨fun _ => Or.inr room, fun _ => rfl⟩
        · rw [if_neg room]
          constructor
          · intro impossible
            cases impossible
          · intro given
            rcases given with isHeld | hasRoom
            · exact absurd isHeld held
            · exact absurd hasRoom room

/-- A whole table refuses a `put` that is not admitted, and one for which
there are too many other descriptors. -/
theorem rpsFdMapPut_fst_eq_false_iff (whole : TableWhole entries)
    {malloc : Bool} {fd : Int} {data : Option (List UInt8)} {len : Nat} :
    (rpsFdMapPut malloc fd data len entries).1 = false ↔
      ¬ Admitted malloc fd data len ∨
        FullBeside 64 (streamsOf entries) fd := by
  rw [← Bool.not_eq_true, rpsFdMapPut_fst_eq_true_iff, fullBeside_iff whole,
    not_and_or, not_or, Bool.not_eq_true, Bool.not_eq_true]

/-- A stored copy is all there to be read. -/
theorem streamsOf_put (malloc : Bool) (fd : Int)
    (data : Option (List UInt8)) (len : Nat)
    (stored : (rpsFdMapPut malloc fd data len entries).1 = true) :
    streamsOf (rpsFdMapPut malloc fd data len entries).2 =
      Function.update (streamsOf entries) fd
        (some ((data.getD []).take len)) := by
  funext asked
  rw [streamsOf, fdMapStream_put, Function.update_apply]
  by_cases same : asked = fd
  · rw [if_pos ⟨stored, same⟩, if_pos same]
    rfl
  · rw [if_neg same, if_neg fun both => same both.2]
    rfl

theorem streamsOf_put_of_refused {malloc : Bool} {fd : Int}
    {data : Option (List UInt8)} {len : Nat}
    (refused : (rpsFdMapPut malloc fd data len entries).1 = false) :
    streamsOf (rpsFdMapPut malloc fd data len entries).2 =
      streamsOf entries := by
  funext asked
  rw [streamsOf, fdMapStream_put, refused]
  rfl

/-- A read drops what it took. -/
theorem streamsOf_takeRead {buffer : Bool} {fd : Int} {count : Nat}
    (usable : buffer = true ∨ count = 0) {left : List UInt8}
    (here : streamsOf entries fd = some left) :
    streamsOf (rpsFdMapTakeRead buffer fd count entries).2 =
      Function.update (streamsOf entries) fd (some (left.drop count)) := by
  obtain ⟨stream, found, isLeft⟩ := Option.map_eq_some_iff.mp here
  funext asked
  rw [streamsOf, fdMapStream_takeRead usable, Function.update_apply]
  by_cases same : asked = fd
  · have moved :
        stream.1.drop
            (stream.2 + min count (stream.1.length - stream.2)) =
          stream.1.drop (stream.2 + count) := by
      rcases Nat.le_total count (stream.1.length - stream.2) with
        enough | short
      · rw [Nat.min_eq_left enough]
      · rw [Nat.min_eq_right short, List.drop_eq_nil_of_le (by omega),
          List.drop_eq_nil_of_le (by omega)]
    rw [if_pos same, if_pos same, found, ← isLeft, Option.map_some,
      Option.map_some, moved, List.drop_drop]
  · rw [if_neg same, if_neg same]
    rfl

theorem streamsOf_remove (whole : TableWhole entries) (fd : Int) :
    streamsOf (rpsFdMapRemove fd entries) =
      Function.update (streamsOf entries) fd none := by
  funext asked
  rw [streamsOf, fdMapStream_remove whole.toTableKept,
    Function.update_apply]
  split
  · rfl
  · rfl

theorem rpsFdMapTakeRead_fst_eq {buffer : Bool} {fd : Int} {count : Nat}
    (usable : buffer = true ∨ count = 0) :
    (rpsFdMapTakeRead buffer fd count entries).1 =
      (streamsOf entries fd).map fun left => left.take count := by
  rw [rpsFdMapTakeRead_fst usable, streamsOf, Option.map_map]
  rfl

/-- Every call of the table is a step of the map. -/
theorem TableWhole.step (whole : TableWhole entries) (call : TableCall) :
    Step 64 (streamsOf entries) call.request (call.run entries).1
      (streamsOf (call.run entries).2) := by
  cases call with
  | put malloc fd data len =>
      rw [TableCall.request, TableCall.run]
      cases stored : (rpsFdMapPut malloc fd data len entries).1 with
      | true =>
          obtain ⟨admitted, _⟩ := rpsFdMapPut_fst_eq_true_iff.mp stored
          have room : ¬ FullBeside 64 (streamsOf entries) fd := by
            intro full
            have refused :
                (rpsFdMapPut malloc fd data len entries).1 = false :=
              (rpsFdMapPut_fst_eq_false_iff whole).mpr (Or.inr full)
            rw [stored] at refused
            cases refused
          rw [streamsOf_put malloc fd data len stored, decide_eq_true admitted]
          exact Step.stored room
      | false =>
          rw [streamsOf_put_of_refused stored]
          apply Step.refused
          rcases (rpsFdMapPut_fst_eq_false_iff whole).mp stored with
            unadmitted | full
          · exact Or.inl (decide_eq_false unadmitted)
          · exact Or.inr full
  | takeRead buffer fd count usable =>
      rw [TableCall.request, TableCall.run,
        rpsFdMapTakeRead_fst_eq usable]
      cases here : streamsOf entries fd with
      | none =>
          have missed :
              (rpsFdMapTakeRead buffer fd count entries).1 = none := by
            rw [rpsFdMapTakeRead_fst_eq usable, here]
            rfl
          rw [rpsFdMapTakeRead_snd_of_none missed]
          exact Step.missed here
      | some left =>
          rw [streamsOf_takeRead usable here]
          exact Step.taken here
  | remove fd =>
      rw [TableCall.request, TableCall.run, streamsOf_remove whole]
      exact Step.removed

/-- And every sequence of calls is a run of it. -/
theorem TableWhole.run_events (whole : TableWhole entries)
    (calls : List TableCall) :
    Run 64 (streamsOf entries) (eventsOf entries calls)
      (streamsOf (tableAfter entries calls)) := by
  induction calls generalizing entries with
  | nil =>
      exact Run.nil
  | cons call rest inductionHypothesis =>
      exact Run.cons (whole.step call) (inductionHypothesis (whole.run call))

/-- A `put` that fails has a bad argument, no memory for its copy, or a full
table beside its descriptor. -/
theorem TableWhole.reason_of_refused (whole : TableWhole entries)
    {malloc : Bool} {fd : Int} {data : Option (List UInt8)} {len : Nat}
    (refused : (rpsFdMapPut malloc fd data len entries).1 = false) :
    (fd < 0 ∨ (data = none ∧ 0 < len)) ∨
      (0 < len ∧ malloc = false) ∨
      ∃ others : List Int, others.Nodup ∧ others.length = 64 ∧
        fd ∉ others ∧ ∀ other, other ∈ others →
          entries.any (holdsFd other) = true := by
  rcases (rpsFdMapPut_fst_eq_false_iff whole).mp refused with
    unadmitted | full
  · rcases not_admitted_iff.mp unadmitted with invalid | unallocated
    · exact Or.inl invalid
    · exact Or.inr (Or.inl unallocated)
  · obtain ⟨others, distinct, count, notThis, held⟩ := full
    refine Or.inr (Or.inr ⟨others, distinct, count, notThis, ?_⟩)
    intro other member
    rw [← isSome_streamsOf]
    exact held other member

/-- A descriptor without an entry is left to the kernel. -/
theorem rpsFdMapTakeRead_of_absent {fd : Int} (buffer : Bool) (count : Nat)
    (notHeld : entries.any (holdsFd fd) = false) :
    (rpsFdMapTakeRead buffer fd count entries).1 = none := by
  by_cases usable : buffer = true ∨ count = 0
  · have absent : streamsOf entries fd = none := by
      rw [← Option.not_isSome_iff_eq_none, isSome_streamsOf, notHeld]
      exact Bool.false_ne_true
    rw [rpsFdMapTakeRead_fst_eq usable, absent]
    rfl
  · rw [rpsFdMapTakeRead_of_unusable usable]

/-- The reads after a `put` are consecutive slices of its bytes. -/
theorem TableWhole.takesOf_put (whole : TableWhole entries)
    {malloc : Bool} {fd : Int} {data : Option (List UInt8)} {len : Nat}
    {later : List TableCall}
    (stored : (rpsFdMapPut malloc fd data len entries).1 = true)
    (undisturbed :
      ∀ event,
        event ∈ eventsOf (rpsFdMapPut malloc fd data len entries).2
          later →
          ¬ Interrupts fd event) :
    ∃ counts : List Nat, ∃ results : List (List UInt8),
      takesOf fd
          (eventsOf (rpsFdMapPut malloc fd data len entries).2 later) =
        counts.zip (results.map some) ∧
      results.length = counts.length ∧
      results.flatten <+: (data.getD []).take len ∧
      ∀ place count result, counts[place]? = some count →
        results[place]? = some result →
          result.length =
            min count
              (((data.getD []).take len).length -
                (results.take place).flatten.length) := by
  have wholeAfter := whole.run (TableCall.put malloc fd data len)
  have run := wholeAfter.run_events later
  have here :
      streamsOf (rpsFdMapPut malloc fd data len entries).2 fd =
        some ((data.getD []).take len) := by
    rw [streamsOf_put malloc fd data len stored, Function.update_self]
  obtain ⟨answers, _⟩ := run.takes_eq_slices undisturbed here
  refine
    ⟨(takesOf fd
          (eventsOf
            (rpsFdMapPut malloc fd data len entries).2 later)).map
          Prod.fst,
      _, List.zip_of_prod rfl answers, length_slices _ _,
      flatten_slices_prefix _ _, ?_⟩
  intro place count result asked given
  exact length_slice _ _ given asked

end Call

/-- The table refines a bounded map of byte streams: after any calls it is
well kept and they were a run of the map; a `put` fails for one of three
reasons and then changes nothing; a descriptor without an entry is not
matched; and after a `put` the reads of its descriptor are consecutive slices
of the bytes, until the next `put` that succeeds or a `remove`. -/
theorem meminfoTable_refines (calls : List TableCall) :
    (∀ fd, (tableAfter emptyEntries calls).countP (holdsFd fd) ≤ 1) ∧
      (∀ entry, entry ∈ tableAfter emptyEntries calls →
        entry.active = true → entry.offset ≤ entry.data.length) ∧
      Run 64 (fun _ => none) (eventsOf emptyEntries calls)
        (streamsOf (tableAfter emptyEntries calls)) ∧
      (∀ (malloc : Bool) (fd : Int) (data : Option (List UInt8))
        (len : Nat),
        (rpsFdMapPut malloc fd data len
            (tableAfter emptyEntries calls)).1 = false →
          ((fd < 0 ∨ (data = none ∧ 0 < len)) ∨
            (0 < len ∧ malloc = false) ∨
            ∃ others : List Int, others.Nodup ∧ others.length = 64 ∧
              fd ∉ others ∧ ∀ other, other ∈ others →
                (tableAfter emptyEntries calls).any (holdsFd other) =
                  true) ∧
          ∀ asked,
            fdMapStream asked
                (rpsFdMapPut malloc fd data len
                  (tableAfter emptyEntries calls)).2 =
              fdMapStream asked (tableAfter emptyEntries calls)) ∧
      (∀ (buffer : Bool) (fd : Int) (count : Nat),
        (tableAfter emptyEntries calls).any (holdsFd fd) = false →
          (rpsFdMapTakeRead buffer fd count
            (tableAfter emptyEntries calls)).1 = none) ∧
      ∀ (malloc : Bool) (fd : Int) (data : Option (List UInt8)) (len : Nat)
        (later : List TableCall),
        (rpsFdMapPut malloc fd data len
            (tableAfter emptyEntries calls)).1 = true →
          (∀ event,
            event ∈ eventsOf
              (rpsFdMapPut malloc fd data len
                (tableAfter emptyEntries calls)).2 later →
              ¬ Interrupts fd event) →
            ∃ counts : List Nat, ∃ results : List (List UInt8),
              takesOf fd
                  (eventsOf
                    (rpsFdMapPut malloc fd data len
                      (tableAfter emptyEntries calls)).2 later) =
                counts.zip (results.map some) ∧
              results.length = counts.length ∧
              results.flatten <+: (data.getD []).take len ∧
              ∀ place count result, counts[place]? = some count →
                results[place]? = some result →
                  result.length =
                    min count
                      (((data.getD []).take len).length -
                        (results.take place).flatten.length) := by
  have whole : TableWhole (tableAfter emptyEntries calls) :=
    tableWhole_emptyEntries.after calls
  refine
    ⟨whole.unique, ?_, ?_, ?_,
      fun buffer fd count => rpsFdMapTakeRead_of_absent buffer count, ?_⟩
  · intro entry member active
    exact whole.toTableKept.offset_le member active
  · have nothing : streamsOf emptyEntries = fun _ => none := by
      funext fd
      rw [streamsOf, fdMapStream_emptyEntries, Option.map_none]
    rw [← nothing]
    exact tableWhole_emptyEntries.run_events calls
  · intro malloc fd data len refused
    refine ⟨whole.reason_of_refused refused, ?_⟩
    intro asked
    rw [fdMapStream_put, refused]
    rfl
  · intro malloc fd data len later stored undisturbed
    exact whole.takesOf_put stored undisturbed

end RunpodShim

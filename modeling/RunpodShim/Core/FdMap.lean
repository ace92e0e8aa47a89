import RunpodShim.Library.FirstMatch

/-!
# The meminfo table

`core/fd_map.c`: a table of 64 slots from descriptors to byte strings with a
read offset.  Over it stands `fdMapStream`, what the table holds for one
descriptor, and each operation is shown to act on it.  The mutex always locks.
-/

namespace RunpodShim

open FirstMatch

/-- `RPS_FD_MAP_CAPACITY`. -/
def rpsFdMapCapacity : Nat := 64

/-- An entry; `data` is the memory of `len` bytes, empty for NULL. -/
structure RpsFdMapEntry where
  active : Bool
  fd : Int
  data : List UInt8
  offset : Nat
deriving DecidableEq, Repr

/-- The static array before any call. -/
def emptyEntries : List RpsFdMapEntry :=
  List.replicate rpsFdMapCapacity ⟨false, 0, [], 0⟩

/-- `entries[i].active && entries[i].fd == fd`. -/
def holdsFd (fd : Int) (entry : RpsFdMapEntry) : Bool :=
  entry.active && entry.fd == fd

/-- `clear_entry`. -/
def clearEntry (_ : RpsFdMapEntry) : RpsFdMapEntry :=
  ⟨false, -1, [], 0⟩

/-- The assignments to the slot at the end of `rps_fd_map_put`. -/
def fillEntry (fd : Int) (copy : List UInt8) (_ : RpsFdMapEntry) :
    RpsFdMapEntry :=
  ⟨true, fd, copy, 0⟩

/-- `entries[i].offset += nread`. -/
def advanceEntry (nread : Nat) (entry : RpsFdMapEntry) : RpsFdMapEntry :=
  { entry with offset := entry.offset + nread }

/-- `rps_fd_map_put`: the result and the table after it. -/
def rpsFdMapPut (malloc : Bool) (fd : Int) (data : Option (List UInt8))
    (len : Nat) (entries : List RpsFdMapEntry) :
    Bool × List RpsFdMapEntry :=
  if fd < 0 ∨ (data = none ∧ len > 0) then (false, entries)
  else if len > 0 ∧ ¬ malloc then (false, entries)
  else
    let copy := (data.getD []).take len
    if entries.any (holdsFd fd) then
      (true,
        updateFirst (holdsFd fd)
          (fun entry => fillEntry fd copy (clearEntry entry)) entries)
    else if entries.any fun entry => !entry.active then
      (true,
        updateFirst (fun entry => !entry.active) (fillEntry fd copy)
          entries)
    else (false, entries)

/-- `rps_fd_map_take_read`: the bytes copied to the buffer, if the table has
the descriptor, and the table after it. -/
def rpsFdMapTakeRead (buffer : Bool) (fd : Int) (count : Nat)
    (entries : List RpsFdMapEntry) :
    Option (List UInt8) × List RpsFdMapEntry :=
  if ¬ buffer ∧ count > 0 then (none, entries)
  else
    match entries.find? (holdsFd fd) with
    | none => (none, entries)
    | some entry =>
        let remaining := entry.data.length - entry.offset
        let nread := if remaining < count then remaining else count
        (some ((entry.data.drop entry.offset).take nread),
          updateFirst (holdsFd fd) (advanceEntry nread) entries)

/-- `rps_fd_map_remove`. -/
def rpsFdMapRemove (fd : Int) (entries : List RpsFdMapEntry) :
    List RpsFdMapEntry :=
  updateFirst (holdsFd fd) clearEntry entries

/-! ## What the table holds -/

/-- The bytes held for a descriptor and how many of them were read. -/
def fdMapStream (fd : Int) (entries : List RpsFdMapEntry) :
    Option (List UInt8 × Nat) :=
  (entries.find? (holdsFd fd)).map fun entry => (entry.data, entry.offset)

/-- No descriptor has two active entries and no offset is past the end. -/
structure TableKept (entries : List RpsFdMapEntry) : Prop where
  unique : ∀ fd, entries.countP (holdsFd fd) ≤ 1
  within : ∀ fd data offset,
    fdMapStream fd entries = some (data, offset) → offset ≤ data.length

theorem holdsFd_clearEntry (fd : Int) (entry : RpsFdMapEntry) :
    holdsFd fd (clearEntry entry) = false :=
  rfl

@[simp]
theorem holdsFd_fillEntry (fd asked : Int) (copy : List UInt8)
    (entry : RpsFdMapEntry) :
    holdsFd asked (fillEntry fd copy entry) = (fd == asked) := by
  simp [holdsFd, fillEntry]

@[simp]
theorem holdsFd_advanceEntry (asked : Int) (nread : Nat)
    (entry : RpsFdMapEntry) :
    holdsFd asked (advanceEntry nread entry) = holdsFd asked entry :=
  rfl

theorem not_holdsFd_of_ne {fd asked : Int} {entry : RpsFdMapEntry}
    (differs : asked ≠ fd) (holds : holdsFd fd entry = true) :
    ¬ holdsFd asked entry = true := by
  simp only [holdsFd, Bool.and_eq_true, beq_iff_eq] at holds ⊢
  intro both
  exact differs (both.2.symm.trans holds.2)

theorem not_holdsFd_of_inactive {entry : RpsFdMapEntry}
    (inactive : (!entry.active) = true) (asked : Int) :
    ¬ holdsFd asked entry = true := by
  simp only [Bool.not_eq_true'] at inactive
  simp [holdsFd, inactive]

@[simp]
theorem fdMapStream_emptyEntries (fd : Int) :
    fdMapStream fd emptyEntries = none := by
  have missing : ∀ entry ∈ emptyEntries, ¬ holdsFd fd entry = true := by
    intro entry member
    have blank := List.eq_of_mem_replicate member
    simp [blank, holdsFd]
  rw [fdMapStream, List.find?_eq_none.mpr missing, Option.map_none]

theorem any_holdsFd (fd : Int) (entries : List RpsFdMapEntry) :
    entries.any (holdsFd fd) = (fdMapStream fd entries).isSome := by
  rw [Bool.eq_iff_iff, List.any_eq_true, fdMapStream, Option.isSome_map,
    List.find?_isSome]

theorem fdMapStream_overwrite {fd : Int} {entries : List RpsFdMapEntry}
    (copy : List UInt8) (present : (fdMapStream fd entries).isSome)
    (asked : Int) :
    fdMapStream asked
        (updateFirst (holdsFd fd)
          (fun entry => fillEntry fd copy (clearEntry entry)) entries) =
      if asked = fd then some (copy, 0) else fdMapStream asked entries := by
  by_cases same : asked = fd
  · subst same
    rw [fdMapStream, Option.isSome_map] at present
    obtain ⟨entry, found⟩ := Option.isSome_iff_exists.mp present
    rw [fdMapStream, find?_updateFirst_self (by simp), found]
    simp [fillEntry]
  · rw [if_neg same, fdMapStream, find?_updateFirst_of_unseen]
    · rfl
    · intro entry holds
      exact not_holdsFd_of_ne same holds
    · intro entry _
      simpa using fun equal => same equal.symm

theorem fdMapStream_fill {fd : Int} {entries : List RpsFdMapEntry}
    (copy : List UInt8) (absent : fdMapStream fd entries = none)
    (room : entries.any fun entry => !entry.active) (asked : Int) :
    fdMapStream asked
        (updateFirst (fun entry => !entry.active) (fillEntry fd copy)
          entries) =
      if asked = fd then some (copy, 0) else fdMapStream asked entries := by
  by_cases same : asked = fd
  · subst same
    have notFound : entries.find? (holdsFd asked) = none := by
      simpa [fdMapStream] using absent
    have roomFound :
        (entries.find? fun entry => !entry.active).isSome := by
      rw [List.find?_isSome]
      simpa using room
    obtain ⟨entry, found⟩ := Option.isSome_iff_exists.mp roomFound
    rw [fdMapStream, find?_updateFirst_of_gained notFound (by simp), found]
    simp [fillEntry]
  · rw [if_neg same, fdMapStream, find?_updateFirst_of_unseen]
    · rfl
    · intro entry inactive
      exact not_holdsFd_of_inactive inactive asked
    · intro entry _
      simpa using fun equal => same equal.symm

/-- A `put` that succeeds binds its descriptor to the bytes, unread; one that
fails leaves every binding as it was. -/
theorem fdMapStream_put (malloc : Bool) (fd : Int)
    (data : Option (List UInt8)) (len : Nat)
    (entries : List RpsFdMapEntry) (asked : Int) :
    fdMapStream asked (rpsFdMapPut malloc fd data len entries).2 =
      if (rpsFdMapPut malloc fd data len entries).1 = true ∧ asked = fd then
        some ((data.getD []).take len, 0)
      else fdMapStream asked entries := by
  unfold rpsFdMapPut
  split
  · simp
  · split
    · simp
    · simp only [any_holdsFd]
      split
      · rename_i present
        simp [fdMapStream_overwrite _ present]
      · rename_i absent
        have missing : fdMapStream fd entries = none := by
          simpa using absent
        split
        · rename_i room
          simp [fdMapStream_fill _ missing room]
        · simp

/-- A read of something into no buffer is refused. -/
theorem rpsFdMapTakeRead_of_unusable {buffer : Bool} {count : Nat}
    (unusable : ¬ (buffer = true ∨ count = 0)) (fd : Int)
    (entries : List RpsFdMapEntry) :
    rpsFdMapTakeRead buffer fd count entries = (none, entries) := by
  have refused : ¬ buffer = true ∧ count > 0 := by
    obtain ⟨missing, more⟩ := not_or.mp unusable
    exact ⟨missing, Nat.pos_of_ne_zero more⟩
  rw [rpsFdMapTakeRead, if_pos refused]

/-- A read takes the next bytes of its descriptor's stream. -/
theorem rpsFdMapTakeRead_fst {buffer : Bool} {count : Nat}
    (usable : buffer = true ∨ count = 0) (fd : Int)
    (entries : List RpsFdMapEntry) :
    (rpsFdMapTakeRead buffer fd count entries).1 =
      (fdMapStream fd entries).map fun stream =>
        (stream.1.drop stream.2).take count := by
  have notRefused : ¬ (¬ buffer = true ∧ count > 0) := by
    rcases usable with given | zero
    · simp [given]
    · simp [zero]
  unfold rpsFdMapTakeRead fdMapStream
  rw [if_neg notRefused]
  cases entries.find? (holdsFd fd) with
  | none =>
      rfl
  | some entry =>
      simp only [Option.map_some, Option.some.injEq]
      split
      · rename_i short
        rw [List.take_of_length_le (by simp),
          List.take_of_length_le (by simp; omega)]
      · rfl

/-- A read moves the offset of its own descriptor only, by what it took. -/
theorem fdMapStream_takeRead {buffer : Bool} {count : Nat}
    (usable : buffer = true ∨ count = 0) (fd : Int)
    (entries : List RpsFdMapEntry) (asked : Int) :
    fdMapStream asked (rpsFdMapTakeRead buffer fd count entries).2 =
      if asked = fd then
        (fdMapStream fd entries).map fun stream =>
          (stream.1, stream.2 + min count (stream.1.length - stream.2))
      else fdMapStream asked entries := by
  have notRefused : ¬ (¬ buffer = true ∧ count > 0) := by
    rcases usable with given | zero
    · simp [given]
    · simp [zero]
  unfold rpsFdMapTakeRead
  rw [if_neg notRefused]
  cases found : entries.find? (holdsFd fd) with
  | none =>
      by_cases same : asked = fd
      · simp [same, fdMapStream, found]
      · simp [same]
  | some entry =>
      by_cases same : asked = fd
      · subst same
        simp only [fdMapStream, if_true]
        rw [find?_updateFirst_self (by simp), found]
        simp only [Option.map_some, advanceEntry, Option.some.injEq,
          Prod.mk.injEq, true_and]
        split <;> omega
      · simp only [if_neg same, fdMapStream]
        rw [find?_updateFirst_of_unseen]
        · intro other holds
          exact not_holdsFd_of_ne same holds
        · intro other holds
          rw [holdsFd_advanceEntry]
          exact not_holdsFd_of_ne same holds

/-- A read that is refused or finds nothing leaves the table as it was. -/
theorem rpsFdMapTakeRead_snd_of_none {buffer : Bool} {fd : Int}
    {count : Nat} {entries : List RpsFdMapEntry}
    (missed : (rpsFdMapTakeRead buffer fd count entries).1 = none) :
    (rpsFdMapTakeRead buffer fd count entries).2 = entries := by
  unfold rpsFdMapTakeRead at missed ⊢
  split
  · rfl
  · rename_i usable
    rw [if_neg usable] at missed
    cases found : entries.find? (holdsFd fd) with
    | none =>
        rfl
    | some entry =>
        rw [found] at missed
        cases missed

/-- `remove` unbinds its descriptor. -/
theorem fdMapStream_remove {entries : List RpsFdMapEntry}
    (kept : TableKept entries) (fd asked : Int) :
    fdMapStream asked (rpsFdMapRemove fd entries) =
      if asked = fd then none else fdMapStream asked entries := by
  unfold fdMapStream rpsFdMapRemove
  by_cases same : asked = fd
  · subst same
    rw [if_pos rfl,
      find?_updateFirst_of_lost_unique (kept.unique asked)
        (by simp [holdsFd_clearEntry]),
      Option.map_none]
  · rw [if_neg same, find?_updateFirst_of_unseen]
    · intro entry holds
      exact not_holdsFd_of_ne same holds
    · intro entry _
      simp [holdsFd_clearEntry]

/-! ## The table stays well kept -/

theorem tableKept_emptyEntries : TableKept emptyEntries where
  unique := by
    intro fd
    have missing : emptyEntries.countP (holdsFd fd) = 0 := by
      apply List.countP_eq_zero.mpr
      intro entry member
      have blank := List.eq_of_mem_replicate member
      simp [blank, holdsFd]
    omega
  within := by simp

theorem countP_put_le {malloc : Bool} {fd : Int}
    {data : Option (List UInt8)} {len : Nat}
    {entries : List RpsFdMapEntry} (kept : TableKept entries)
    (asked : Int) :
    (rpsFdMapPut malloc fd data len entries).2.countP (holdsFd asked) ≤
      1 := by
  have bound := kept.unique asked
  unfold rpsFdMapPut
  split
  · exact bound
  · split
    · exact bound
    · simp only
      split
      · rw [countP_updateFirst_of_unchanged]
        · exact bound
        · intro entry holds
          simp only [holdsFd, Bool.and_eq_true, beq_iff_eq] at holds
          simp [holdsFd, fillEntry, holds.1, holds.2]
      · rename_i absent
        split
        · by_cases same : asked = fd
          · subst same
            have none : entries.countP (holdsFd asked) = 0 := by
              apply List.countP_eq_zero.mpr
              simpa using absent
            have grown :
                (updateFirst (fun entry => !entry.active)
                    (fillEntry asked ((data.getD []).take len))
                    entries).countP (holdsFd asked) ≤
                  entries.countP (holdsFd asked) + 1 :=
              countP_updateFirst_le_succ entries
            simp only
            omega
          · rw [countP_updateFirst_of_unchanged]
            · exact bound
            · intro entry inactive
              have differs : (fd == asked) = false := by
                simpa using fun equal => same equal.symm
              have missing := not_holdsFd_of_inactive inactive asked
              simp only [Bool.not_eq_true] at missing
              rw [holdsFd_fillEntry, differs, missing]
        · exact bound

theorem TableKept.put {entries : List RpsFdMapEntry}
    (kept : TableKept entries) (malloc : Bool) (fd : Int)
    (data : Option (List UInt8)) (len : Nat) :
    TableKept (rpsFdMapPut malloc fd data len entries).2 where
  unique := countP_put_le kept
  within := by
    intro asked bytes offset stream
    rw [fdMapStream_put] at stream
    split at stream
    · cases stream
      exact Nat.zero_le _
    · exact kept.within asked bytes offset stream

theorem TableKept.takeRead {entries : List RpsFdMapEntry}
    (kept : TableKept entries) {buffer : Bool} {count : Nat}
    (usable : buffer = true ∨ count = 0) (fd : Int) :
    TableKept (rpsFdMapTakeRead buffer fd count entries).2 where
  unique := by
    intro asked
    unfold rpsFdMapTakeRead
    split
    · exact kept.unique asked
    · cases entries.find? (holdsFd fd) with
      | none =>
          exact kept.unique asked
      | some entry =>
          simp only
          rw [countP_updateFirst_of_unchanged]
          · exact kept.unique asked
          · intro other _
            rfl
  within := by
    intro asked bytes offset stream
    rw [fdMapStream_takeRead usable] at stream
    split at stream
    · obtain ⟨before, found, same⟩ := Option.map_eq_some_iff.mp stream
      cases same
      have bound := kept.within fd before.1 before.2 found
      omega
    · exact kept.within asked bytes offset stream

theorem TableKept.remove {entries : List RpsFdMapEntry}
    (kept : TableKept entries) (fd : Int) :
    TableKept (rpsFdMapRemove fd entries) where
  unique := by
    intro asked
    have lost :
        (rpsFdMapRemove fd entries).countP (holdsFd asked) ≤
          entries.countP (holdsFd asked) :=
      countP_updateFirst_le_of_lost
        (by simp [holdsFd_clearEntry]) entries
    exact Nat.le_trans lost (kept.unique asked)
  within := by
    intro asked bytes offset stream
    rw [fdMapStream_remove kept] at stream
    split at stream
    · cases stream
    · exact kept.within asked bytes offset stream

end RunpodShim

import Mathlib.Data.List.TakeWhile
import RunpodShim.Gpu.ProcFilter

/-!
# The directory buffer filter

The getdents side of `gpu/proc_filter.c`.  The buffer is a list of bytes and
records are read at offsets into it, as the source reads them.
-/

namespace RunpodShim

/-- `offsetof(struct linux_dirent64, d_name)`. -/
def direntHeaderSize : Nat := 19

/-- `d_reclen` of the record at the head of the bytes. -/
def dReclen (entry : List UInt8) : Nat :=
  (entry.getD 16 0).toNat + 256 * (entry.getD 17 0).toNat

/-- `d_name` of the record at the head of the bytes. -/
def dName (entry : List UInt8) : CString :=
  (entry.drop direntHeaderSize).takeWhile (· != 0)

/-- `rps_gpu_dirent_name_is_valid`. -/
def rpsGpuDirentNameIsValid (entry : List UInt8) (remaining : Nat) : Bool :=
  if dReclen entry < direntHeaderSize ∨ dReclen entry > remaining then false
  else
    ((entry.drop direntHeaderSize).take
      (dReclen entry - direntHeaderSize)).contains 0

/-- `keep`: the names that the filter leaves in. -/
def direntNameKept (allowed : Option RpsGpuAllowedGpus) (name : CString) :
    Bool :=
  name == cstr "." || name == cstr ".." ||
    rpsGpuAllowedContainsBus allowed name

/-- `memmove` inside the buffer. -/
def memmoveWithin (target source size : Nat) (buffer : List UInt8) :
    List UInt8 :=
  buffer.take target ++ (buffer.drop source).take size ++
    buffer.drop (target + size)

/-- The loop of `rps_gpu_filter_dirent64_buffer`: the result and the buffer
after it.  Every round passes a record, so `len` rounds are enough. -/
def filterDirents (allowed : Option RpsGpuAllowedGpus) (len : Nat) :
    Nat → Nat → Nat → List UInt8 → Nat × List UInt8
  | 0, _, writeOffset, buffer => (writeOffset, buffer)
  | rounds + 1, readOffset, writeOffset, buffer =>
      if readOffset < len then
        let entry := buffer.drop readOffset
        if len - readOffset < direntHeaderSize then (len, buffer)
        else if ¬ rpsGpuDirentNameIsValid entry (len - readOffset) then
          (len, buffer)
        else if direntNameKept allowed (dName entry) then
          let moved :=
            if writeOffset ≠ readOffset then
              memmoveWithin writeOffset readOffset (dReclen entry) buffer
            else buffer
          filterDirents allowed len rounds (readOffset + dReclen entry)
            (writeOffset + dReclen entry) moved
        else
          filterDirents allowed len rounds (readOffset + dReclen entry)
            writeOffset buffer
      else (writeOffset, buffer)

/-- `rps_gpu_filter_dirent64_buffer`: the result and the buffer after it. -/
def rpsGpuFilterDirent64Buffer (buffer : Option (List UInt8)) (len : Int)
    (allowed : Option RpsGpuAllowedGpus) : Int × Option (List UInt8) :=
  match buffer with
  | none => (len, none)
  | some bytes =>
      if len ≤ 0 ∨ (allowed.map RpsGpuAllowedGpus.valid).getD false = false
      then (len, some bytes)
      else
        let filtered :=
          filterDirents allowed len.toNat (len.toNat + 1) 0 0 bytes
        (filtered.1, some filtered.2)

/-! ## Well-formed records -/

/-- The bytes of one record: a header that gives its length and a name that
ends inside it. -/
structure Dirent where
  bytes : List UInt8
  sized : dReclen bytes = bytes.length
  headed : direntHeaderSize ≤ bytes.length
  named : 0 ∈ bytes.drop direntHeaderSize

/-- The name of a record. -/
def Dirent.name (record : Dirent) : CString :=
  dName record.bytes

/-- The records as one buffer. -/
def direntBytes (records : List Dirent) : List UInt8 :=
  records.flatMap Dirent.bytes

/-- The records whose names the filter leaves in. -/
def visibleDirents (allowed : Option RpsGpuAllowedGpus)
    (records : List Dirent) : List Dirent :=
  records.filter fun record => direntNameKept allowed record.name

@[simp]
theorem direntBytes_nil : direntBytes [] = [] :=
  rfl

@[simp]
theorem direntBytes_cons (record : Dirent) (records : List Dirent) :
    direntBytes (record :: records) = record.bytes ++ direntBytes records :=
  rfl

theorem direntBytes_append (first second : List Dirent) :
    direntBytes (first ++ second) =
      direntBytes first ++ direntBytes second := by
  simp [direntBytes]

theorem visibleDirents_cons (allowed : Option RpsGpuAllowedGpus)
    (record : Dirent) (records : List Dirent) :
    visibleDirents allowed (record :: records) =
      if direntNameKept allowed record.name then
        record :: visibleDirents allowed records
      else visibleDirents allowed records := by
  simp [visibleDirents, List.filter_cons]

theorem visibleDirents_append (allowed : Option RpsGpuAllowedGpus)
    (first second : List Dirent) :
    visibleDirents allowed (first ++ second) =
      visibleDirents allowed first ++ visibleDirents allowed second := by
  simp [visibleDirents]

theorem Dirent.bytes_length_pos (record : Dirent) :
    0 < record.bytes.length := by
  have headed := record.headed
  simp only [direntHeaderSize] at headed
  omega

theorem direntBytes_eq_nil_iff {records : List Dirent} :
    direntBytes records = [] ↔ records = [] := by
  cases records with
  | nil =>
      simp
  | cons record rest =>
      have more := record.bytes_length_pos
      constructor
      · intro empty
        rw [direntBytes_cons, List.append_eq_nil_iff] at empty
        simp [empty.1] at more
      · intro empty
        cases empty

theorem length_le_length_direntBytes (records : List Dirent) :
    records.length ≤ (direntBytes records).length := by
  induction records with
  | nil =>
      simp
  | cons record rest inductionHypothesis =>
      have positive := record.bytes_length_pos
      simp only [List.length_cons, direntBytes_cons, List.length_append]
      omega

/-! ## Reading a record in the buffer -/

theorem Dirent.dReclen_append (record : Dirent) (rest : List UInt8) :
    dReclen (record.bytes ++ rest) = record.bytes.length := by
  have headed := record.headed
  simp only [direntHeaderSize] at headed
  have sized := record.sized
  simp only [dReclen, List.getD_eq_getElem?_getD] at sized ⊢
  rw [List.getElem?_append_left (by omega),
    List.getElem?_append_left (by omega), sized]

theorem takeWhile_append_of_mem {α : Type} {test : α → Bool}
    {first : List α} {item : α} (member : item ∈ first)
    (fails : test item = false) (second : List α) :
    (first ++ second).takeWhile test = first.takeWhile test := by
  rw [List.takeWhile_append, if_neg]
  intro whole
  have passes : ∀ other ∈ first, test other = true :=
    List.takeWhile_eq_self_iff.mp
      ((List.takeWhile_prefix test).eq_of_length whole)
  rw [passes item member] at fails
  cases fails

theorem Dirent.dName_append (record : Dirent) (rest : List UInt8) :
    dName (record.bytes ++ rest) = record.name := by
  rw [Dirent.name, dName, dName, List.drop_append_of_le_length record.headed,
    takeWhile_append_of_mem record.named (by simp)]

theorem Dirent.isValid_append (record : Dirent) (rest : List UInt8)
    {remaining : Nat} (fits : record.bytes.length ≤ remaining) :
    rpsGpuDirentNameIsValid (record.bytes ++ rest) remaining = true := by
  have headed := record.headed
  have usable :
      ¬ (record.bytes.length < direntHeaderSize ∨
        record.bytes.length > remaining) := by
    omega
  rw [rpsGpuDirentNameIsValid, record.dReclen_append, if_neg usable,
    List.drop_append_of_le_length headed,
    List.take_append_of_le_length (by simp),
    List.take_of_length_le (by simp)]
  simpa using record.named

/-! ## The loop on well-formed records -/

/-- Moving a record down over a gap leaves a gap of the same length. -/
theorem memmoveWithin_record (kept gap record rest : List UInt8) :
    memmoveWithin kept.length (kept ++ gap).length record.length
        (kept ++ gap ++ (record ++ rest)) =
      kept ++ record ++
        ((gap ++ record).drop record.length ++ rest) := by
  have front :
      (kept ++ gap ++ (record ++ rest)).take kept.length = kept := by
    simp
  have middle :
      ((kept ++ gap ++ (record ++ rest)).drop (kept ++ gap).length).take
          record.length = record := by
    simp
  have back :
      (kept ++ gap ++ (record ++ rest)).drop
          (kept.length + record.length) =
        (gap ++ record).drop record.length ++ rest := by
    rw [List.append_assoc kept, ← List.drop_drop, List.drop_left,
      ← List.append_assoc gap, List.drop_append_of_le_length (by simp)]
  rw [memmoveWithin, front, middle, back]

/-- The buffer after a kept record, whether or not it had to be moved. -/
theorem moved_record (kept gap record rest : List UInt8) :
    (if kept.length ≠ (kept ++ gap).length then
        memmoveWithin kept.length (kept ++ gap).length record.length
          (kept ++ gap ++ (record ++ rest))
      else kept ++ gap ++ (record ++ rest)) =
      kept ++ record ++
        ((gap ++ record).drop record.length ++ rest) := by
  cases gap with
  | nil =>
      simp
  | cons first more =>
      rw [if_pos (by simp), memmoveWithin_record]

/-- One round on a well-formed record. -/
theorem filterDirents_record (allowed : Option RpsGpuAllowedGpus)
    (record : Dirent) (front rest : List UInt8)
    {len : Nat} (inside : front.length + record.bytes.length ≤ len)
    (rounds writeOffset : Nat) :
    filterDirents allowed len (rounds + 1) front.length writeOffset
        (front ++ (record.bytes ++ rest)) =
      if direntNameKept allowed record.name then
        filterDirents allowed len rounds
          (front.length + record.bytes.length)
          (writeOffset + record.bytes.length)
          (if writeOffset ≠ front.length then
            memmoveWithin writeOffset front.length record.bytes.length
              (front ++ (record.bytes ++ rest))
          else front ++ (record.bytes ++ rest))
      else
        filterDirents allowed len rounds
          (front.length + record.bytes.length) writeOffset
          (front ++ (record.bytes ++ rest)) := by
  have positive := record.bytes_length_pos
  have headed := record.headed
  have more : front.length < len := by omega
  have whole : ¬ len - front.length < direntHeaderSize := by omega
  have valid :
      rpsGpuDirentNameIsValid (record.bytes ++ rest)
        (len - front.length) = true :=
    record.isValid_append rest (by omega)
  rw [filterDirents, if_pos more]
  simp only [List.drop_left, if_neg whole, valid, not_true_eq_false,
    if_false, record.dName_append, record.dReclen_append]

/-- The buffer while the loop is at work: the records kept so far, and behind
them a gap as long as the records dropped. -/
structure Compaction where
  kept : List UInt8
  gap : List UInt8

/-- What the loop has passed. -/
def Compaction.front (state : Compaction) : List UInt8 :=
  state.kept ++ state.gap

/-- One round on a record. -/
def Compaction.pass (allowed : Option RpsGpuAllowedGpus)
    (state : Compaction) (record : Dirent) : Compaction :=
  if direntNameKept allowed record.name then
    { kept := state.kept ++ record.bytes
      gap := (state.gap ++ record.bytes).drop record.bytes.length }
  else { state with gap := state.gap ++ record.bytes }

/-- The loop over the records. -/
def Compaction.run (allowed : Option RpsGpuAllowedGpus) :
    Compaction → List Dirent → Compaction :=
  List.foldl (Compaction.pass allowed)

section Compactions

variable (allowed : Option RpsGpuAllowedGpus)

theorem Compaction.length_front_pass (state : Compaction)
    (record : Dirent) :
    (state.pass allowed record).front.length =
      state.front.length + record.bytes.length := by
  unfold Compaction.pass
  split
  · simp only [Compaction.front, List.length_append, List.length_drop]
    omega
  · simp only [Compaction.front, List.length_append]
    omega

theorem Compaction.length_front_run (state : Compaction)
    (records : List Dirent) :
    (state.run allowed records).front.length =
      state.front.length + (direntBytes records).length := by
  induction records generalizing state with
  | nil =>
      rfl
  | cons record rest inductionHypothesis =>
      rw [Compaction.run, List.foldl_cons, ← Compaction.run,
        inductionHypothesis, state.length_front_pass allowed,
        direntBytes_cons, List.length_append, Nat.add_assoc]

theorem Compaction.kept_run (state : Compaction) (records : List Dirent) :
    (state.run allowed records).kept =
      state.kept ++ direntBytes (visibleDirents allowed records) := by
  induction records generalizing state with
  | nil =>
      simp [Compaction.run, visibleDirents]
  | cons record rest inductionHypothesis =>
      rw [Compaction.run, List.foldl_cons, ← Compaction.run,
        inductionHypothesis, Compaction.pass, visibleDirents_cons]
      split
      · rw [direntBytes_cons, ← List.append_assoc]
      · rfl

/-- The loop passes the records in order. -/
theorem filterDirents_records (suffix : List UInt8)
    (records : List Dirent) :
    ∀ (rounds len : Nat) (state : Compaction),
      state.front.length + (direntBytes records).length ≤ len →
        filterDirents allowed len (records.length + rounds)
            state.front.length state.kept.length
            (state.front ++ (direntBytes records ++ suffix)) =
          filterDirents allowed len rounds
            (state.run allowed records).front.length
            (state.run allowed records).kept.length
            ((state.run allowed records).front ++ suffix) := by
  induction records with
  | nil =>
      intro rounds len state inside
      simp [Compaction.run]
  | cons record rest inductionHypothesis =>
      intro rounds len state inside
      rw [direntBytes_cons, List.length_append] at inside
      have here : state.front.length + record.bytes.length ≤ len := by
        omega
      have later :
          (state.pass allowed record).front.length +
              (direntBytes rest).length ≤ len := by
        rw [state.length_front_pass allowed]
        omega
      have passed :=
        inductionHypothesis rounds len (state.pass allowed record) later
      rw [state.length_front_pass allowed] at passed
      rw [Compaction.run, List.foldl_cons, ← Compaction.run, ← passed,
        List.length_cons, Nat.add_right_comm, direntBytes_cons,
        List.append_assoc record.bytes,
        filterDirents_record allowed record _ _ here]
      unfold Compaction.pass
      split
      · rw [Compaction.front, moved_record, List.length_append]
        simp [Compaction.front]
      · simp [Compaction.front]

end Compactions

/-- The whole filter, up to where its records end. -/
theorem rpsGpuFilterDirent64Buffer_run {allowed : RpsGpuAllowedGpus}
    (valid : allowed.valid = true) (records : List Dirent)
    (suffix : List UInt8) {len : Nat} (positive : 0 < len)
    (inside : (direntBytes records).length ≤ len) {reached : Compaction}
    (run : Compaction.run (some allowed) ⟨[], []⟩ records = reached) :
    ∃ rounds,
      rpsGpuFilterDirent64Buffer (some (direntBytes records ++ suffix)) len
          (some allowed) =
        let filtered :=
          filterDirents (some allowed) len (rounds + 1)
            reached.front.length reached.kept.length
            (reached.front ++ suffix)
        ((filtered.1 : Int), some filtered.2) := by
  have enough := length_le_length_direntBytes records
  refine ⟨len - records.length, ?_⟩
  have rounds :
      len + 1 = records.length + (len - records.length + 1) := by
    omega
  have works :
      ¬ ((len : Int) ≤ 0 ∨
        ((some allowed).map RpsGpuAllowedGpus.valid).getD false =
          false) := by
    simp only [Option.map_some, Option.getD_some, valid, Bool.true_eq_false,
      or_false]
    omega
  have passed :=
    filterDirents_records (some allowed) suffix records
      (len - records.length + 1) len ⟨[], []⟩
      (by simpa [Compaction.front] using inside)
  rw [run] at passed
  rw [rpsGpuFilterDirent64Buffer, if_neg works, Int.toNat_natCast, rounds,
    ← passed]
  rfl

/-- On well-formed records the filter is `visibleDirents`; what lies behind
the `len` bytes is not touched. -/
theorem rpsGpuFilterDirent64Buffer_records {allowed : RpsGpuAllowedGpus}
    (valid : allowed.valid = true) (records : List Dirent)
    (tail : List UInt8) :
    ∃ leftover,
      rpsGpuFilterDirent64Buffer (some (direntBytes records ++ tail))
          (direntBytes records).length (some allowed) =
        (((direntBytes (visibleDirents (some allowed) records)).length : Int),
          some
            (direntBytes (visibleDirents (some allowed) records) ++
              (leftover ++ tail))) := by
  by_cases empty : records = []
  · refine ⟨[], ?_⟩
    simp [empty, rpsGpuFilterDirent64Buffer, visibleDirents]
  · have positive : 0 < (direntBytes records).length :=
      List.length_pos_iff.mpr fun none =>
        empty (direntBytes_eq_nil_iff.mp none)
    have passedAll :=
      Compaction.length_front_run (some allowed) ⟨[], []⟩ records
    have keptAll :=
      Compaction.kept_run (some allowed) ⟨[], []⟩ records
    cases run :
        Compaction.run (some allowed) ⟨[], []⟩ records with
    | mk kept gap =>
        rw [run] at passedAll keptAll
        obtain ⟨rounds, filtered⟩ :=
          rpsGpuFilterDirent64Buffer_run valid records tail positive
            (Nat.le_refl _) run
        have finished :
            ¬ (Compaction.mk kept gap).front.length <
              (direntBytes records).length := by
          rw [passedAll]
          simp [Compaction.front]
        refine ⟨gap, ?_⟩
        rw [filtered, filterDirents, if_neg finished]
        simp only [List.nil_append] at keptAll
        rw [keptAll, Compaction.front, List.append_assoc]

end RunpodShim

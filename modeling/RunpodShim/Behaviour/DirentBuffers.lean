import RunpodShim.Behaviour.DirectoryScan

/-!
# Filtered directory buffers

`rps_gpu_filter_dirent64_buffer` on whole buffers: on well-formed records an
exact stable filter, and what becomes of a buffer with a malformed record.
-/

namespace RunpodShim

/-! ## Records in order -/

/-- No record that is left in comes after one that is left out. -/
def KeptFirst (allowed : Option RpsGpuAllowedGpus) :
    List Dirent → Prop :=
  List.Pairwise fun first later =>
    direntNameKept allowed later.name = true →
      direntNameKept allowed first.name = true

instance (allowed : Option RpsGpuAllowedGpus) :
    DecidablePred (KeptFirst allowed) :=
  fun records =>
    inferInstanceAs
      (Decidable
        (records.Pairwise fun first later =>
          direntNameKept allowed later.name = true →
            direntNameKept allowed first.name = true))

section Order

variable {allowed : Option RpsGpuAllowedGpus} {records : List Dirent}

theorem keptFirst_cons_iff {record : Dirent} :
    KeptFirst allowed (record :: records) ↔
      (direntNameKept allowed record.name = true ∨
        visibleDirents allowed records = []) ∧
      KeptFirst allowed records := by
  have none :
      visibleDirents allowed records = [] ↔
        ∀ later, later ∈ records →
          ¬ direntNameKept allowed later.name = true := by
    simp [visibleDirents]
  rw [KeptFirst, List.pairwise_cons, none]
  apply and_congr_left
  intro _
  by_cases kept : direntNameKept allowed record.name = true
  · simp [kept]
  · simp [kept]

theorem keptFirst_visibleDirents (allowed : Option RpsGpuAllowedGpus)
    (records : List Dirent) :
    KeptFirst allowed (visibleDirents allowed records) := by
  apply List.Pairwise.imp_of_mem _ (List.pairwise_of_forall fun _ _ => trivial)
  intro first later firstLeft _ _ _
  exact (List.mem_filter.mp firstLeft).2

/-- While nothing that is left in comes, the buffer stays as it is. -/
theorem Compaction.front_run_of_none
    (none : visibleDirents allowed records = []) (state : Compaction) :
    (state.run allowed records).front =
      state.front ++ direntBytes records := by
  induction records generalizing state with
  | nil =>
      simp [Compaction.run]
  | cons record rest inductionHypothesis =>
      rw [visibleDirents_cons] at none
      split at none
      · cases none
      · rename_i hidden
        rw [Compaction.run, List.foldl_cons, ← Compaction.run,
          inductionHypothesis none, Compaction.pass, if_neg hidden]
        simp [Compaction.front]

/-- Records in order are nowhere moved. -/
theorem Compaction.front_run_of_keptFirst
    (ordered : KeptFirst allowed records) (kept : List UInt8) :
    ((Compaction.mk kept []).run allowed records).front =
      kept ++ direntBytes records := by
  induction records generalizing kept with
  | nil =>
      simp [Compaction.run, Compaction.front]
  | cons record rest inductionHypothesis =>
      obtain ⟨either, restOrdered⟩ := keptFirst_cons_iff.mp ordered
      by_cases visible : direntNameKept allowed record.name = true
      · have passed :
            (Compaction.mk kept []).pass allowed record =
              ⟨kept ++ record.bytes, []⟩ := by
          rw [Compaction.pass, if_pos visible]
          simp
        rw [Compaction.run, List.foldl_cons, ← Compaction.run, passed,
          inductionHypothesis restOrdered, direntBytes_cons,
          List.append_assoc]
      · have none :
            visibleDirents allowed (record :: rest) = [] := by
          rw [visibleDirents_cons, if_neg visible]
          exact either.resolve_left visible
        rw [Compaction.front_run_of_none none]
        simp [Compaction.front]

/-- Two records in front of the same bytes are the same. -/
theorem Dirent.bytes_eq_of_append {first second : Dirent}
    {firstRest secondRest : List UInt8}
    (same : first.bytes ++ firstRest = second.bytes ++ secondRest) :
    first.bytes = second.bytes := by
  have sized : first.bytes.length = second.bytes.length := by
    rw [← first.dReclen_append firstRest, same,
      second.dReclen_append secondRest]
  exact (List.append_inj same sized).1

/-- The records that are left stand at the front of the buffer only if they
were in order. -/
theorem keptFirst_of_prefix
    (front :
      direntBytes (visibleDirents allowed records) <+:
        direntBytes records) :
    KeptFirst allowed records := by
  induction records with
  | nil =>
      exact List.Pairwise.nil
  | cons record rest inductionHypothesis =>
      rw [visibleDirents_cons] at front
      apply keptFirst_cons_iff.mpr
      by_cases visible : direntNameKept allowed record.name = true
      · rw [if_pos visible, direntBytes_cons, direntBytes_cons,
          List.prefix_append_right_inj] at front
        exact ⟨Or.inl visible, inductionHypothesis front⟩
      · rw [if_neg visible] at front
        cases left : visibleDirents allowed rest with
        | nil =>
            refine ⟨Or.inr rfl, inductionHypothesis ?_⟩
            rw [left]
            exact List.nil_prefix
        | cons kept more =>
            -- the first record that is left would have to be `record`
            rw [left, direntBytes_cons, direntBytes_cons] at front
            obtain ⟨beyond, whole⟩ := front
            rw [List.append_assoc] at whole
            have same := Dirent.bytes_eq_of_append whole
            have isKept : direntNameKept allowed kept.name = true := by
              have member : kept ∈ visibleDirents allowed rest := by
                rw [left]
                exact List.mem_cons_self
              exact (List.mem_filter.mp member).2
            rw [Dirent.name, same] at isKept
            exact absurd isKept visible

end Order

/-! ## Well-formed buffers -/

theorem visibleDirents_visibleDirents (allowed : Option RpsGpuAllowedGpus)
    (records : List Dirent) :
    visibleDirents allowed (visibleDirents allowed records) =
      visibleDirents allowed records := by
  rw [visibleDirents, visibleDirents, List.filter_filter]
  simp

theorem gpuReaddirEntryAllowed_of_tracked {shim : Shim}
    {state : ShimState} {fd : Int} {record : RpsGpuFdRecord}
    (video : shim.config.gpuVideo = true) (ready : shim.ready = true)
    (tracked : rpsGpuFdMapGet fd state.nodes = some record)
    (kind : record.kind = .procGpusDir) (name : CString) :
    gpuReaddirEntryAllowed shim state fd name =
      direntNameKept (some shim.allowed) name := by
  have filters :
      ¬ (¬ rpsGpuVideoEnabled shim.config = true ∨
        ¬ shim.ready = true) := by
    simp [rpsGpuVideoEnabled, video, ready]
  rw [gpuReaddirEntryAllowed, if_neg filters, tracked]
  simp only [kind, ne_eq, not_true_eq_false, false_or, direntNameKept]
  by_cases isSelf : name = cstr "."
  · simp [isSelf]
  · by_cases isParent : name = cstr ".."
    · simp [isParent]
    · simp [isSelf, isParent]

/-- Records in order are left as they are. -/
theorem rpsGpuFilterDirent64Buffer_of_keptFirst
    {allowed : RpsGpuAllowedGpus} (valid : allowed.valid = true)
    {records : List Dirent}
    (ordered : KeptFirst (some allowed) records) (tail : List UInt8) :
    rpsGpuFilterDirent64Buffer (some (direntBytes records ++ tail))
        (direntBytes records).length (some allowed) =
      (((direntBytes (visibleDirents (some allowed) records)).length : Int),
        some (direntBytes records ++ tail)) := by
  by_cases empty : records = []
  · simp [empty, rpsGpuFilterDirent64Buffer, visibleDirents]
  · have positive : 0 < (direntBytes records).length :=
      List.length_pos_iff.mpr fun none =>
        empty (direntBytes_eq_nil_iff.mp none)
    obtain ⟨rounds, filtered⟩ :=
      rpsGpuFilterDirent64Buffer_run valid records tail positive
        (Nat.le_refl _) rfl
    have whole := Compaction.front_run_of_keptFirst ordered []
    rw [List.nil_append] at whole
    have kept := Compaction.kept_run (some allowed) ⟨[], []⟩ records
    rw [List.nil_append] at kept
    rw [filtered, filterDirents, whole, if_neg (Nat.lt_irrefl _), kept]

/-- No well-formed record starts here: too few bytes for a header, a length
below the header's or beyond the bytes, or a name that does not end inside the
record. -/
def MalformedHead (bytes : List UInt8) : Prop :=
  bytes ≠ [] ∧
    (bytes.length < direntHeaderSize ∨ dReclen bytes < direntHeaderSize ∨
      bytes.length < dReclen bytes ∨
      0 ∉ (bytes.take (dReclen bytes)).drop direntHeaderSize)

instance : DecidablePred MalformedHead :=
  fun bytes =>
    inferInstanceAs
      (Decidable
        (bytes ≠ [] ∧
          (bytes.length < direntHeaderSize ∨
            dReclen bytes < direntHeaderSize ∨
            bytes.length < dReclen bytes ∨
            0 ∉ (bytes.take (dReclen bytes)).drop direntHeaderSize)))

/-- The validation fails on what is malformed, whatever comes behind it. -/
theorem isValid_of_malformedHead {rest : List UInt8}
    (malformed : MalformedHead rest)
    (headed : direntHeaderSize ≤ rest.length) (tail : List UInt8) :
    rpsGpuDirentNameIsValid (rest ++ tail) rest.length = false := by
  have sized : dReclen (rest ++ tail) = dReclen rest := by
    simp only [direntHeaderSize] at headed
    simp only [dReclen, List.getD_eq_getElem?_getD]
    rw [List.getElem?_append_left (by omega),
      List.getElem?_append_left (by omega)]
  rw [rpsGpuDirentNameIsValid, sized]
  split
  · rfl
  · rename_i usable
    have inside :
        ((rest ++ tail).drop direntHeaderSize).take
            (dReclen rest - direntHeaderSize) =
          (rest.take (dReclen rest)).drop direntHeaderSize := by
      rw [List.drop_append_of_le_length headed,
        List.take_append_of_le_length (by simp; omega), List.drop_take]
    have nameless :
        0 ∉ (rest.take (dReclen rest)).drop direntHeaderSize := by
      rcases malformed.2 with short | small | large | nameless
      · omega
      · omega
      · omega
      · exact nameless
    rw [inside]
    simpa using nameless

theorem length_front_compacted (allowed : Option RpsGpuAllowedGpus)
    (records : List Dirent) :
    (Compaction.run allowed ⟨[], []⟩ records).front.length =
      (direntBytes records).length := by
  rw [Compaction.length_front_run]
  exact Nat.zero_add _

/-- The loop stops at a malformed record with the length it was given. -/
theorem filterDirents_malformed (allowed : Option RpsGpuAllowedGpus)
    {front rest : List UInt8} (malformed : MalformedHead rest)
    (tail : List UInt8) {len : Nat}
    (whole : len = front.length + rest.length)
    (rounds writeOffset : Nat) :
    filterDirents allowed len (rounds + 1) front.length writeOffset
        (front ++ (rest ++ tail)) =
      (len, front ++ (rest ++ tail)) := by
  have positive := List.length_pos_iff.mpr malformed.1
  have more : front.length < len := by omega
  have left : len - front.length = rest.length := by omega
  rw [filterDirents, if_pos more]
  simp only [List.drop_left, left]
  by_cases short : rest.length < direntHeaderSize
  · rw [if_pos short]
  · rw [if_neg short,
      isValid_of_malformedHead malformed (Nat.not_lt.mp short) tail]
    simp

/-- A buffer with a malformed record after the filter: the records in front of
it as far as they were moved, and the rest as it was. -/
theorem rpsGpuFilterDirent64Buffer_malformed {allowed : RpsGpuAllowedGpus}
    (valid : allowed.valid = true) (records : List Dirent)
    {rest : List UInt8} (malformed : MalformedHead rest)
    (tail : List UInt8) {len : Nat}
    (whole : len = (direntBytes records).length + rest.length) :
    rpsGpuFilterDirent64Buffer
        (some (direntBytes records ++ (rest ++ tail))) len
        (some allowed) =
      ((len : Int),
        some
          ((Compaction.run (some allowed) ⟨[], []⟩ records).front ++
            (rest ++ tail))) := by
  have positive : 0 < len := by
    have some := List.length_pos_iff.mpr malformed.1
    omega
  have inside : (direntBytes records).length ≤ len := by omega
  obtain ⟨rounds, filtered⟩ :=
    rpsGpuFilterDirent64Buffer_run valid records (rest ++ tail) positive
      inside rfl
  have passed := length_front_compacted (some allowed) records
  rw [filtered,
    filterDirents_malformed _ malformed tail (by rw [passed, whole])]

end RunpodShim

import RunpodShim.Behaviour.PathDecision
import RunpodShim.Gpu.FdTracker
import RunpodShim.Gpu.IoctlFilter

/-!
# Classification of paths

`rps_gpu_classify_path` against the path decision, and over the spellings of
one path.  The procfs kinds are found on the normal form, the device nodes on
the bytes as they are given.
-/

namespace RunpodShim

open LexicalPath

/-! ## The two procfs classifiers -/

section Procfs

variable {names : List CString} {blank record : RpsGpuFdRecord}

/-- The decision on a directory or an information file. -/
theorem gpuPathDecision_bus {allowed : Option RpsGpuAllowedGpus}
    {bus : CString} {place : GpuPath}
    (known : place = .busDir bus ∨ place = .information bus) :
    gpuPathDecision allowed place =
      if unusableAllowed allowed then .allow
      else if rpsGpuAllowedContainsBus allowed bus then .allow
      else .deny := by
  rcases known with rfl | rfl
  all_goals
    cases allowed with
    | none =>
        rfl
    | some gpus =>
        rfl

/-- The filter ignores exactly what the tracker does not know. -/
theorem gpuPathDecision_eq_ignore_iff
    (allowed : Option RpsGpuAllowedGpus) (place : GpuPath) :
    gpuPathDecision allowed place = .ignore ↔ place = .outside := by
  cases place with
  | outside =>
      simp [gpuPathDecision]
  | gpusDir =>
      simp [gpuPathDecision]
  | busDir bus =>
      rw [gpuPathDecision_bus (Or.inl rfl)]
      repeat' split
      all_goals simp
  | information bus =>
      rw [gpuPathDecision_bus (Or.inr rfl)]
      repeat' split
      all_goals simp

theorem rpsGpuProcPathAllowed_eq_ignore_iff
    (allowed : Option RpsGpuAllowedGpus) (path : Option CString) :
    rpsGpuProcPathAllowed allowed path = .ignore ↔
      ∀ bytes, path = some bytes →
        ∀ names, namesWithin rpsGpuProcPathMax bytes = some names →
          gpuPathOf names = .outside := by
  cases path with
  | none =>
      simp [rpsGpuProcPathAllowed, rpsGpuProcNormalizePath]
  | some bytes =>
      rw [rpsGpuProcPathAllowed_eq]
      cases normal : namesWithin rpsGpuProcPathMax bytes with
      | none =>
          simp [normal]
      | some names =>
          simp [normal, gpuPathDecision_eq_ignore_iff]

/-- The names of a known place start with those of the gpus directory. -/
theorem below_of_gpuPathOf (known : gpuPathOf names ≠ .outside) :
    gpusNames <+: names := by
  rw [gpuPathOf] at known
  split at known
  · assumption
  · exact absurd rfl known

theorem placeRecord_of_known {place : GpuPath} (known : place ≠ .outside)
    (names : List CString) (blank : RpsGpuFdRecord) :
    ∃ record, placeRecord names blank place = (true, record) ∧
      IsProcRecord record := by
  cases place with
  | outside =>
      exact absurd rfl known
  | gpusDir =>
      exact ⟨_, rfl, Or.inl rfl⟩
  | busDir bus =>
      exact ⟨_, rfl, Or.inr (Or.inl rfl)⟩
  | information bus =>
      exact ⟨_, rfl, Or.inr (Or.inr rfl)⟩

/-- A record of a bus directory or information file has its place's bus and
the whole normal form. -/
theorem placeRecord_bus {place : GpuPath}
    (filled : placeRecord names blank place = (true, record))
    (kind :
      record.kind = .procGpuBusDir ∨ record.kind = .procGpuInfo) :
    (place = .busDir record.busId ∨ place = .information record.busId) ∧
      record.path = canonical names := by
  cases place with
  | outside =>
      cases filled
  | gpusDir =>
      cases filled
      rcases kind with isBus | isInformation
      · cases isBus
      · cases isInformation
  | busDir bus =>
      cases filled
      exact ⟨Or.inl rfl, rfl⟩
  | information bus =>
      cases filled
      exact ⟨Or.inr rfl, rfl⟩

/-- The names of a path in the place of a bus. -/
theorem names_of_bus {bus : CString}
    (place :
      gpuPathOf names = .busDir bus ∨ gpuPathOf names = .information bus) :
    ∃ below, names = gpusNames ++ bus :: below := by
  rcases place with isBus | isInformation
  · exact ⟨[], (gpuPathOf_eq_busDir_iff.mp isBus).1⟩
  · exact
      ⟨[informationName],
        (gpuPathOf_eq_information_iff.mp isInformation).1⟩

end Procfs

/-- With a valid set a bus is allowed exactly when the set has it. -/
theorem gpuPathDecision_eq_allow_iff {gpus : RpsGpuAllowedGpus}
    (valid : gpus.valid = true) {bus : CString} {place : GpuPath}
    (known : place = .busDir bus ∨ place = .information bus) :
    gpuPathDecision (some gpus) place = .allow ↔
      rpsGpuAllowedContainsBus (some gpus) bus = true := by
  have usable : unusableAllowed (some gpus) = false := by
    simp [unusableAllowed, valid]
  rw [gpuPathDecision_bus known, usable]
  cases rpsGpuAllowedContainsBus (some gpus) bus with
  | false =>
      simp
  | true =>
      simp

/-- The path decision and the descriptor classification read one grammar:
they know the same paths, and the bus that one decides on is the bus that the
other records. -/
theorem procClassifiers_agree (allowed : Option RpsGpuAllowedGpus)
    (path : Option CString) :
    (rpsGpuProcPathAllowed allowed path = .ignore ↔
      ∀ record, rpsGpuClassifyPath path = (true, record) →
        ¬ IsProcRecord record) ∧
      ∀ record, rpsGpuClassifyPath path = (true, record) →
        record.kind = .procGpuBusDir ∨ record.kind = .procGpuInfo →
          rpsGpuProcNormalizePath path rpsGpuProcPathMax =
              some record.path ∧
            (∃ below,
              segments slash record.path =
                [cstr "proc", cstr "driver", cstr "nvidia", cstr "gpus"] ++
                  record.busId :: below) ∧
            ∀ gpus, allowed = some gpus → gpus.valid = true →
              (rpsGpuProcPathAllowed allowed path = .allow ↔
                rpsGpuAllowedContainsBus allowed record.busId = true) := by
  constructor
  · rw [rpsGpuProcPathAllowed_eq_ignore_iff]
    constructor
    · intro outside record classified proc
      obtain ⟨bytes, names, isPath, normal, filled⟩ :=
        names_of_procRecord classified proc
      rw [outside bytes isPath names normal] at filled
      cases filled
    · intro unknown bytes isPath names normal
      apply Decidable.byContradiction
      intro known
      obtain ⟨record, filled, proc⟩ :=
        placeRecord_of_known known names (blankRecord (some bytes))
      apply unknown record ?_ proc
      rw [isPath,
        rpsGpuClassifyPath_below normal (below_of_gpuPathOf known)]
      exact filled
  · intro record classified kind
    have proc : IsProcRecord record := by
      rcases kind with isBus | isInformation
      · exact Or.inr (Or.inl isBus)
      · exact Or.inr (Or.inr isInformation)
    obtain ⟨bytes, names, rfl, normal, filled⟩ :=
      names_of_procRecord classified proc
    obtain ⟨place, written⟩ := placeRecord_bus filled kind
    refine ⟨?_, ?_, ?_⟩
    · rw [rpsGpuProcNormalizePath_eq bytes (by decide), normal, written]
      rfl
    · obtain ⟨below, whole⟩ := names_of_bus place
      refine ⟨below, ?_⟩
      rw [written, segments_canonical (isName_of_mem_namesWithin normal)]
      exact whole
    · intro gpus isAllowed valid
      rw [isAllowed, decision_of_namesWithin _ normal]
      exact gpuPathDecision_eq_allow_iff valid place

/-! ## Spellings -/

/-- The spelling of a device node that the tracker looks for. -/
def IsDeviceNode (path : CString) : Prop :=
  path = cstr "/dev/nvidiactl" ∨ path = cstr "/dev/nvidia-uvm" ∨
    ∃ digits, IsDecimal digits ∧ decimalFrom 0 digits ≤ intMax ∧
      path = cstr "/dev/nvidia" ++ digits

/-- The same result, kind, minor and bus id. -/
structure SameClass (first second : Bool × RpsGpuFdRecord) : Prop where
  result : first.1 = second.1
  kind : first.2.kind = second.2.kind
  deviceMinor : first.2.deviceMinor = second.2.deviceMinor
  busId : first.2.busId = second.2.busId

section Spellings

variable {path normal : CString} {names : List CString}

theorem IsDeviceNode.exists_tail (node : IsDeviceNode path) :
    ∃ tail, slash ∉ tail ∧ path = cstr "/dev/nvidia" ++ tail := by
  rcases node with isCtl | isUvm | isMinor
  · exact ⟨cstr "ctl", by decide, by rw [isCtl]; decide⟩
  · exact ⟨cstr "-uvm", by decide, by rw [isUvm]; decide⟩
  · obtain ⟨digits, isDecimal, _, same⟩ := isMinor
    exact ⟨digits, isDecimal.slash_notMem, same⟩

/-- A device node is its own normal form. -/
theorem IsDeviceNode.normalForm (node : IsDeviceNode path)
    (within : namesWithin rpsGpuProcPathMax path = some names) :
    gpuPathOf names = .outside ∧ canonical names = path := by
  obtain ⟨tail, free, rfl⟩ := node.exists_tail
  rw [names_of_nvidia_append free within]
  constructor
  · rw [gpuPathOf, if_neg]
    intro below
    obtain ⟨more, same⟩ := below
    exact absurd (List.cons.inj same).1 (by decide)
  · rw [canonical_of_ne_nil (by simp)]
    simp [cstr, slash]

theorem rpsGpuClassifyPath_of_deviceNode (node : IsDeviceNode path) :
    (rpsGpuClassifyPath (some path)).1 = true := by
  rw [rpsGpuClassifyPath]
  simp only
  split
  · rfl
  · rename_i notCtl
    split
    · rfl
    · rename_i notUvm
      rcases node with isCtl | isUvm | isMinor
      · exact absurd isCtl notCtl
      · exact absurd isUvm notUvm
      · obtain ⟨digits, isDecimal, short, same⟩ := isMinor
        have parsed :
            rpsGpuParseNvidiaMinor path = some (decimalFrom 0 digits) :=
          rpsGpuParseNvidiaMinor_eq_some_iff.mpr
            ⟨digits, isDecimal, rfl, short, same⟩
        rw [parsed]

theorem rpsGpuClassifyPath_of_not_deviceNode (other : ¬ IsDeviceNode path) :
    rpsGpuClassifyPath (some path) =
      rpsGpuClassifyProcGpuPath path (blankRecord (some path)) := by
  have notCtl : path ≠ cstr "/dev/nvidiactl" := by
    intro isCtl
    exact other (Or.inl isCtl)
  have notUvm : path ≠ cstr "/dev/nvidia-uvm" := by
    intro isUvm
    exact other (Or.inr (Or.inl isUvm))
  have noMinor : rpsGpuParseNvidiaMinor path = none := by
    rw [Option.eq_none_iff_forall_ne_some]
    intro minor parsed
    obtain ⟨digits, isDecimal, rfl, short, same⟩ :=
      rpsGpuParseNvidiaMinor_eq_some_iff.mp parsed
    exact other (Or.inr (Or.inr ⟨digits, isDecimal, short, same⟩))
  simp only [rpsGpuClassifyPath, if_neg notCtl, if_neg notUvm, noMinor]

/-- A spelling that is not a device node itself is classified by its
names. -/
theorem rpsGpuClassifyPath_of_names (other : ¬ IsDeviceNode path)
    (within : namesWithin rpsGpuProcPathMax path = some names) :
    rpsGpuClassifyPath (some path) =
      placeRecord names (blankRecord (some path)) (gpuPathOf names) := by
  rw [rpsGpuClassifyPath_of_not_deviceNode other,
    rpsGpuClassifyProcGpuPath_eq, within]

/-- Apart from the path, what the place fills in does not depend on the
spelling. -/
theorem sameClass_placeRecord (first second : Option CString)
    (place : GpuPath) :
    SameClass (placeRecord names (blankRecord first) place)
      (placeRecord names (blankRecord second) place) := by
  cases place with
  | outside =>
      exact ⟨rfl, rfl, rfl, rfl⟩
  | gpusDir =>
      exact ⟨rfl, rfl, rfl, rfl⟩
  | busDir bus =>
      exact ⟨rfl, rfl, rfl, rfl⟩
  | information bus =>
      exact ⟨rfl, rfl, rfl, rfl⟩

/-- Any other spelling of a device node goes unnoticed. -/
theorem rpsGpuClassifyPath_of_respelled (node : IsDeviceNode normal)
    (within : namesWithin rpsGpuProcPathMax path = some names)
    (written : canonical names = normal) (respelled : path ≠ normal) :
    (rpsGpuClassifyPath (some path)).1 = false := by
  have other : ¬ IsDeviceNode path := by
    intro asGiven
    exact respelled ((asGiven.normalForm within).2.symm.trans written)
  have again := namesWithin_canonical_of_namesWithin within
  rw [written] at again
  rw [rpsGpuClassifyPath_of_names other within, (node.normalForm again).1]
  rfl

end Spellings

/-- Two spellings of one path are classified alike exactly when they do not
lead to a device node, or both or neither of them are the node as the tracker
spells it. -/
theorem sameClass_of_normalForm_iff {first second normal : CString}
    (firstForm :
      rpsGpuProcNormalizePath (some first) rpsGpuProcPathMax = some normal)
    (secondForm :
      rpsGpuProcNormalizePath (some second) rpsGpuProcPathMax =
        some normal) :
    SameClass (rpsGpuClassifyPath (some first))
        (rpsGpuClassifyPath (some second)) ↔
      (IsDeviceNode normal → (first = normal ↔ second = normal)) := by
  obtain ⟨names, firstWithin, written, cut⟩ :=
    exists_names_of_normalized firstForm
  obtain ⟨names', secondWithin, _, cut'⟩ :=
    exists_names_of_normalized secondForm
  obtain rfl : names' = names := cut'.trans cut.symm
  constructor
  · intro same node
    constructor
    · intro isFirst
      apply Decidable.byContradiction
      intro respelled
      have noticed := rpsGpuClassifyPath_of_deviceNode node
      have unnoticed :=
        rpsGpuClassifyPath_of_respelled node secondWithin written respelled
      rw [← isFirst, same.result, unnoticed] at noticed
      cases noticed
    · intro isSecond
      apply Decidable.byContradiction
      intro respelled
      have noticed := rpsGpuClassifyPath_of_deviceNode node
      have unnoticed :=
        rpsGpuClassifyPath_of_respelled node firstWithin written respelled
      rw [← isSecond, ← same.result, unnoticed] at noticed
      cases noticed
  · intro spelled
    by_cases identical : first = second
    · rw [identical]
      exact ⟨rfl, rfl, rfl, rfl⟩
    · have notFirst : ¬ IsDeviceNode first := by
        intro node
        have isNormal := (node.normalForm firstWithin).2.symm.trans written
        rw [isNormal] at node identical
        exact identical ((spelled node).mp isNormal).symm
      have notSecond : ¬ IsDeviceNode second := by
        intro node
        have isNormal := (node.normalForm secondWithin).2.symm.trans written
        rw [isNormal] at node identical
        exact identical ((spelled node).mpr isNormal)
      rw [rpsGpuClassifyPath_of_names notFirst firstWithin,
        rpsGpuClassifyPath_of_names notSecond secondWithin]
      exact sameClass_placeRecord _ _ _

/-- Two spellings of one bus directory. -/
theorem sameClass_busDirectory :
    SameClass
      (rpsGpuClassifyPath
        (some (cstr "/proc/driver/nvidia/gpus//0000:04:00.0/.")))
      (rpsGpuClassifyPath
        (some (cstr "/proc/./driver/nvidia/gpus/0000:04:00.0"))) := by
  have notNode :
      ¬ IsDeviceNode (cstr "/proc/driver/nvidia/gpus/0000:04:00.0") := by
    intro node
    obtain ⟨tail, _, same⟩ := node.exists_tail
    have starts :
        cstr "/dev/nvidia" <+:
          cstr "/proc/driver/nvidia/gpus/0000:04:00.0" :=
      ⟨tail, same.symm⟩
    exact absurd starts (by decide)
  exact
    (sameClass_of_normalForm_iff
      (by decide :
        rpsGpuProcNormalizePath
            (some (cstr "/proc/driver/nvidia/gpus//0000:04:00.0/."))
            rpsGpuProcPathMax =
          some (cstr "/proc/driver/nvidia/gpus/0000:04:00.0"))
      (by decide)).mpr fun node => absurd node notNode

/-- A second slash keeps the control device from being noticed. -/
theorem not_sameClass_nvidiactl :
    rpsGpuProcNormalizePath (some (cstr "/dev/nvidiactl"))
        rpsGpuProcPathMax = some (cstr "/dev/nvidiactl") ∧
      rpsGpuProcNormalizePath (some (cstr "/dev//nvidiactl"))
          rpsGpuProcPathMax = some (cstr "/dev/nvidiactl") ∧
      ¬ SameClass (rpsGpuClassifyPath (some (cstr "/dev/nvidiactl")))
        (rpsGpuClassifyPath (some (cstr "/dev//nvidiactl"))) := by
  refine ⟨by decide, by decide, ?_⟩
  intro same
  exact absurd same.result (by decide)

end RunpodShim

import RunpodShim.Gpu.Topology
import RunpodShim.Preload.Real

/-!
# The path decision

`rps_gpu_proc_path_allowed` against the entries that the allowed set was built
from, and below the directory of a hidden GPU.
-/

namespace RunpodShim

open LexicalPath

/-- The directory of one GPU. -/
def busPath (bus : CString) : CString :=
  gpusPath ++ slash :: bus

section Names

variable {path normal : CString} {names : List CString}

/-- A path and the names of its normal form. -/
theorem exists_names_of_normalized
    (normalized :
      rpsGpuProcNormalizePath (some path) rpsGpuProcPathMax = some normal) :
    ∃ names,
      namesWithin rpsGpuProcPathMax path = some names ∧
        canonical names = normal ∧
        names = segments slash normal := by
  rw [rpsGpuProcNormalizePath_eq path (by decide),
    Option.map_eq_some_iff] at normalized
  obtain ⟨names, within, rfl⟩ := normalized
  exact
    ⟨names, within, rfl,
      (segments_canonical (isName_of_mem_namesWithin within)).symm⟩

theorem decision_of_namesWithin (allowed : Option RpsGpuAllowedGpus)
    (within : namesWithin rpsGpuProcPathMax path = some names) :
    rpsGpuProcPathAllowed allowed (some path) =
      gpuPathDecision allowed (gpuPathOf names) := by
  rw [rpsGpuProcPathAllowed_eq, within]

theorem segments_below_gpusPath (names : List CString)
    (proper : ∀ name, name ∈ names → IsSegment slash name) :
    segments slash (gpusPath ++ render slash names) =
      gpusNames ++ names := by
  rw [← render_gpusNames, ← render_append]
  apply segments_render
  intro name member
  rcases List.mem_append.mp member with fixed | below
  · exact (isName_of_mem_gpusNames name fixed).toIsSegment
  · exact proper name below

/-- A path below the gpus directory leads to the names that it is made of. -/
theorem resolve_below_gpusPath
    (proper : ∀ name, name ∈ names → IsName unixPath name) :
    resolve unixPath [] (segments slash (gpusPath ++ render slash names)) =
      gpusNames ++ names := by
  rw [segments_below_gpusPath names
      fun name member => (proper name member).toIsSegment,
    resolve_of_isName, List.nil_append]
  intro name member
  rcases List.mem_append.mp member with fixed | below
  · exact isName_of_mem_gpusNames name fixed
  · exact proper name below

/-- Outside the gpus directory there is no place that the module knows. -/
theorem gpuPathOf_eq_outside
    (notGpus : canonical names ≠ gpusPath)
    (notBelow : ¬ gpusPath ++ [slash] <+: canonical names) :
    gpuPathOf names = .outside := by
  unfold gpuPathOf
  split
  · rename_i below
    obtain ⟨tail, rfl⟩ := below
    have written :
        canonical (gpusNames ++ tail) = gpusPath ++ render slash tail := by
      rw [canonical_of_ne_nil (by simp [gpusNames]), render_append,
        render_gpusNames]
    cases tail with
    | nil =>
        rw [written, render_nil, List.append_nil] at notGpus
        exact absurd rfl notGpus
    | cons bus more =>
        rw [written, render_cons] at notBelow
        exact
          absurd ⟨bus ++ render slash more, by simp⟩ notBelow
  · rfl

end Names

theorem canonical_busNames (bus : CString) :
    canonical (gpusNames ++ [bus]) = busPath bus := by
  rw [canonical_of_ne_nil (by simp), render_append, render_gpusNames]
  simp [busPath]

/-- The directory of a GPU keeps within the limits. -/
theorem namesWithin_busPath {bus : CString} (proper : IsName unixPath bus)
    (short : bus.length ≤ 31) :
    namesWithin rpsGpuProcPathMax (busPath bus) =
      some (gpusNames ++ [bus]) := by
  rw [← canonical_busNames]
  apply namesWithin_canonical
  · intro name member
    rcases List.mem_append.mp member with fixed | isBus
    · exact isName_of_mem_gpusNames name fixed
    · rw [List.mem_singleton.mp isBus]
      exact proper
  · rw [List.length_append, List.length_singleton]
    decide
  · have base : gpusPath.length = 24 := by
      decide
    rw [canonical_busNames, busPath, List.length_append, List.length_cons,
      base, rpsGpuProcPathMax]
    omega

/-! ## Against the topology -/

section Topology

variable {infos : List RpsGpuInfo} {minors : List Int}
variable {explicitUuid : Option CString} {bus : CString}

theorem rpsGpuAllowedContainsBus_iff {allowed : RpsGpuAllowedGpus}
    (valid : allowed.valid = true) (long : bus ≠ []) :
    rpsGpuAllowedContainsBus (some allowed) bus = true ↔
      ∃ gpu, gpu ∈ allowed.gpus ∧ gpu.busId = bus := by
  simp [rpsGpuAllowedContainsBus, valid, long]

/-- The decision on a directory or an information file, by the set. -/
theorem gpuPathDecision_eq_deny_iff {allowed : RpsGpuAllowedGpus}
    (long : bus ≠ []) {place : GpuPath}
    (known : place = .busDir bus ∨ place = .information bus) :
    gpuPathDecision (some allowed) place = .deny ↔
      allowed.valid = true ∧
        ¬ ∃ gpu, gpu ∈ allowed.gpus ∧ gpu.busId = bus := by
  have decided :
      gpuPathDecision (some allowed) place =
        if !allowed.valid then .allow
        else if rpsGpuAllowedContainsBus (some allowed) bus then .allow
        else .deny := by
    rcases known with rfl | rfl <;> rfl
  rw [decided]
  by_cases valid : allowed.valid = true
  · rw [← rpsGpuAllowedContainsBus_iff valid long]
    by_cases contained :
        rpsGpuAllowedContainsBus (some allowed) bus = true
    · simp [valid, contained]
    · simp [valid, contained]
  · simp [valid]

theorem gpuPathDecision_eq_allow_of_ne_deny
    {allowed : Option RpsGpuAllowedGpus} {place : GpuPath}
    (known : place = .busDir bus ∨ place = .information bus)
    (notDenied : gpuPathDecision allowed place ≠ .deny) :
    gpuPathDecision allowed place = .allow := by
  rcases known with rfl | rfl
  all_goals
    revert notDenied
    unfold gpuPathDecision
    simp only
    split
    · intro _
      rfl
    · split
      · intro _
        rfl
      · split
        · intro _
          rfl
        · intro notDenied
          exact absurd rfl notDenied

/-- For a set that was built from entries, by the entries. -/
theorem gpuPathDecision_built_eq_deny_iff
    (few : infos.length ≤ rpsGpuMaxGpus) (long : bus ≠ [])
    {place : GpuPath}
    (known : place = .busDir bus ∨ place = .information bus) :
    gpuPathDecision
        (some
          (rpsGpuBuildAllowedGpus (some infos) (some minors) explicitUuid))
        place = .deny ↔
      (∃ info, info ∈ infos ∧ IsSelected minors explicitUuid info) ∧
        ¬ ∃ info, info ∈ infos ∧ IsSelected minors explicitUuid info ∧
          info.busId = bus := by
  rw [gpuPathDecision_eq_deny_iff long known,
    valid_rpsGpuBuildAllowedGpus, gpus_rpsGpuBuildAllowedGpus few]
  apply and_congr
  · rw [← List.length_pos_iff, List.length_pos_iff_exists_mem]
    simp
  · simp [and_assoc]

end Topology

/-- The decision on a path, with the allowed set built from the topology. -/
def topologyDecision (infos : List RpsGpuInfo) (minors : List Int)
    (explicitUuid : Option CString) (path : CString) :
    RpsGpuProcDecision :=
  rpsGpuProcPathAllowed
    (some (rpsGpuBuildAllowedGpus (some infos) (some minors) explicitUuid))
    (some path)

/-- The decision is exact: a GPU's directory and its information file are
denied when some entry is selected and none of them is that GPU's. -/
theorem topologyDecision_exact {infos : List RpsGpuInfo}
    (few : infos.length ≤ rpsGpuMaxGpus) (minors : List Int)
    (explicitUuid : Option CString) {path normal : CString}
    (normalized :
      rpsGpuProcNormalizePath (some path) rpsGpuProcPathMax =
        some normal) :
    (∀ bus, slash ∉ bus → 1 ≤ bus.length → bus.length ≤ 31 →
      normal = busPath bus ∨ normal = informationPath bus →
        (topologyDecision infos minors explicitUuid path = .deny ↔
          (∃ info, info ∈ infos ∧ IsSelected minors explicitUuid info) ∧
            ¬ ∃ info, info ∈ infos ∧
              IsSelected minors explicitUuid info ∧ info.busId = bus) ∧
        (topologyDecision infos minors explicitUuid path ≠ .deny →
          topologyDecision infos minors explicitUuid path = .allow)) ∧
    (normal = gpusPath →
      topologyDecision infos minors explicitUuid path = .allow) ∧
    (normal ≠ gpusPath → ¬ gpusPath ++ [slash] <+: normal →
      topologyDecision infos minors explicitUuid path ≠ .deny) ∧
    ∀ other,
      rpsGpuProcNormalizePath (some other) rpsGpuProcPathMax =
          some normal →
        topologyDecision infos minors explicitUuid other =
          topologyDecision infos minors explicitUuid path := by
  obtain ⟨names, within, written, cut⟩ :=
    exists_names_of_normalized normalized
  rw [topologyDecision, decision_of_namesWithin _ within]
  refine ⟨?_, ?_, ?_, ?_⟩
  · intro bus free long short either
    have segment : IsSegment slash bus :=
      ⟨List.length_pos_iff.mp long, free⟩
    have fits : bus.length < rpsGpuProcBusIdMax :=
      Nat.lt_succ_of_le short
    have known :
        gpuPathOf names = .busDir bus ∨
          gpuPathOf names = .information bus := by
      rcases either with isBus | isInformation
      · left
        apply gpuPathOf_eq_busDir_iff.mpr
        refine ⟨?_, fits⟩
        have below :=
          segments_below_gpusPath [bus] (by simpa using segment)
        rw [cut, isBus, ← below]
        simp [busPath]
      · right
        apply gpuPathOf_eq_information_iff.mpr
        refine ⟨?_, fits⟩
        have information : IsSegment slash informationName :=
          ⟨by decide, by decide⟩
        have below :=
          segments_below_gpusPath [bus, informationName]
            (by simpa using ⟨segment, information⟩)
        rw [cut, isInformation, ← below]
        simp [informationPath]
    exact
      ⟨gpuPathDecision_built_eq_deny_iff few segment.nonempty known,
        gpuPathDecision_eq_allow_of_ne_deny known⟩
  · intro isGpus
    rw [cut, isGpus, segments_gpusPath, gpuPathOf_gpusNames]
    rfl
  · intro notGpus notBelow denied
    rw [← written] at notGpus notBelow
    rw [gpuPathOf_eq_outside notGpus notBelow] at denied
    cases denied
  · intro other same
    obtain ⟨others, othersWithin, _, othersCut⟩ :=
      exists_names_of_normalized same
    rw [topologyDecision, decision_of_namesWithin _ othersWithin, othersCut,
      cut]

/-- Another GPU's information file, from the mounted GPU's directory. -/
theorem topologyDecision_exact_otherGpu :
    topologyDecision [mountedGpu] [4] none
        (cstr
          "/proc/driver/nvidia/gpus/0000:04:00.0/../0000:05:00.0/information")
      = .deny := by
  have normalized :
      rpsGpuProcNormalizePath
          (some
            (cstr
              "/proc/driver/nvidia/gpus/0000:04:00.0/../0000:05:00.0/information"))
          rpsGpuProcPathMax =
        some (informationPath (cstr "0000:05:00.0")) := by
    decide
  have exact :=
    (topologyDecision_exact (by decide : [mountedGpu].length ≤ rpsGpuMaxGpus)
      [4] none normalized).1 (cstr "0000:05:00.0") (by decide) (by decide)
        (by decide) (Or.inr rfl)
  apply exact.1.mpr
  constructor
  · exact ⟨mountedGpu, List.mem_singleton_self _, by decide⟩
  · intro given
    rcases given with ⟨info, member, _, isOther⟩
    rw [List.mem_singleton.mp member] at isOther
    exact absurd isOther (by decide)

/-! ## Below a hidden directory -/

/-- Of all that lies below the directory of a hidden GPU, only its information
file is denied with it. -/
theorem deniedBelow_iff {allowed : RpsGpuAllowedGpus}
    (valid : allowed.valid = true) {bus : CString}
    (long : 1 ≤ bus.length) (short : bus.length ≤ 31)
    (hidden : ∀ gpu, gpu ∈ allowed.gpus → gpu.busId ≠ bus)
    {below : List CString} (deeper : below ≠ [])
    (pieces : ∀ name, name ∈ bus :: below → name ≠ [] ∧ slash ∉ name)
    {path : CString}
    (normalized :
      rpsGpuProcNormalizePath (some path) rpsGpuProcPathMax =
        some (gpusPath ++ render slash (bus :: below))) :
    rpsGpuProcPathAllowed (some allowed) (some (busPath bus)) = .deny ∧
      (rpsGpuProcPathAllowed (some allowed) (some path) = .deny ↔
        below = [informationName]) := by
  have nonempty : bus ≠ [] := List.length_pos_iff.mp long
  have fits : bus.length < rpsGpuProcBusIdMax := Nat.lt_succ_of_le short
  have notContained : ¬ ∃ gpu, gpu ∈ allowed.gpus ∧ gpu.busId = bus := by
    intro given
    rcases given with ⟨gpu, member, same⟩
    exact hidden gpu member same
  have denies {place : GpuPath}
      (known : place = .busDir bus ∨ place = .information bus) :
      gpuPathDecision (some allowed) place = .deny :=
    (gpuPathDecision_eq_deny_iff nonempty known).mpr ⟨valid, notContained⟩
  obtain ⟨names, within, _, cut⟩ := exists_names_of_normalized normalized
  rw [segments_below_gpusPath _ fun name member =>
    ⟨(pieces name member).1, (pieces name member).2⟩] at cut
  subst cut
  constructor
  · have isBusName : IsName unixPath bus :=
      isName_of_mem_namesWithin within bus (by simp)
    rw [decision_of_namesWithin _ (namesWithin_busPath isBusName short)]
    exact denies (Or.inl (gpuPathOf_eq_busDir_iff.mpr ⟨rfl, fits⟩))
  · rw [decision_of_namesWithin _ within, gpuPathOf_append]
    constructor
    · intro denied
      unfold gpuPathBelow at denied
      split at denied
      · rename_i empty
        cases empty
      · rename_i single
        cases single
        exact absurd rfl deeper
      · rename_i file whole
        cases whole
        split at denied
        · rename_i isInformation
          rw [isInformation.2]
        · cases denied
      · cases denied
    · intro isInformation
      rw [isInformation]
      apply denies
      right
      simp [gpuPathBelow, fits]

/-- Another file in the hidden directory is let through. -/
theorem not_deniedBelow_registry :
    rpsGpuProcNormalizePath
        (some (cstr "/proc/driver/nvidia/gpus/0000:05:00.0/registry"))
        rpsGpuProcPathMax =
      some
        (gpusPath ++
          render slash [cstr "0000:05:00.0", cstr "registry"]) ∧
      rpsGpuProcPathAllowed (some containerShim.allowed)
          (some (busPath (cstr "0000:05:00.0"))) = .deny ∧
      rpsGpuProcPathAllowed (some containerShim.allowed)
          (some (cstr "/proc/driver/nvidia/gpus/0000:05:00.0/registry")) ≠
        .deny := by
  decide

/-- Its information file is not, however it is spelled. -/
theorem deniedBelow_information :
    rpsGpuProcPathAllowed (some containerShim.allowed)
        (some
          (cstr "/proc/driver/nvidia/gpus/./0000:05:00.0//information")) =
      .deny := by
  have denied :=
    deniedBelow_iff (rfl : containerShim.allowed.valid = true)
      (by decide : 1 ≤ (cstr "0000:05:00.0").length) (by decide)
      (by decide) (by decide : [informationName] ≠ []) (by decide)
      (by decide :
        rpsGpuProcNormalizePath
            (some
              (cstr
                "/proc/driver/nvidia/gpus/./0000:05:00.0//information"))
            rpsGpuProcPathMax =
          some
            (gpusPath ++
              render slash [cstr "0000:05:00.0", informationName]))
  exact denied.2.mpr rfl

end RunpodShim

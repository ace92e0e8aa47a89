import RunpodShim.Behaviour.TopologyHiding
import RunpodShim.Preload.Transparency
import RunpodShim.Sequential.DirectoryStreams

/-!
# What a process sees of the GPUs

From the files that are there when the process starts to what its calls show
of the gpus directory: the listings, and the paths below it.
-/

namespace RunpodShim

open LexicalPath StepRuns

/-- The GPU of this directory: its information file was read and parsed, and
its minor is mounted. -/
def isMountedGpu (tree : GpuTree) (name : CString) : Bool :=
  ((gpuDirectories tree).any fun directory => decide (directory = name)) &&
    (readGpuInfo tree name).any fun info =>
      (mountedMinors tree).any fun minor =>
        decide (minor = info.deviceMinor)

section Start

variable {env : Environment} {tree : GpuTree} {name : CString}

theorem isMountedGpu_iff :
    isMountedGpu tree name = true ↔
      name ∈ gpuDirectories tree ∧
        ∃ info, readGpuInfo tree name = some info ∧
          info.deviceMinor ∈ mountedMinors tree := by
  simp [isMountedGpu, Option.any_eq_true]

/-- Some mounted GPU's information names the directory just when the GPU of
that directory is mounted. -/
theorem namedByMounted_iff_isMountedGpu (fits : FitsModule tree)
    (repeats : BusLocationsRepeat tree) :
    NamedByMounted tree name ↔ isMountedGpu tree name = true := by
  rw [isMountedGpu_iff]
  constructor
  · rintro ⟨info, inInfos, mounted, isName⟩
    obtain ⟨other, inDirectories, read⟩ := mem_gpuInfos.mp inInfos
    have same :=
      busId_of_readGpuInfo repeats (fits.proper other inDirectories)
        inDirectories read
    have isOther : other = name := same.symm.trans isName
    subst isOther
    exact ⟨inDirectories, info, read, mounted⟩
  · rintro ⟨member, read⟩
    exact (namedByMounted_iff fits repeats member).mpr read

theorem allowed_runpodShimInit
    (on : (rpsConfigGet env none).1.config.gpuVideo = true)
    (fits : FitsModule tree) :
    (runpodShimInit env tree).allowed =
      rpsGpuBuildAllowedGpus (some (gpuInfos tree))
        (some (mountedMinors tree)) none := by
  simp only [runpodShimInit, on, if_true, rpsGpuProcFilterRuntimeInit,
    rpsGpuCollectGpuInfos_eq fits, rpsGpuCollectMountedMinors_eq fits]

/-- The allowed GPUs are those with a mounted minor. -/
theorem mem_gpus_runpodShimInit
    (on : (rpsConfigGet env none).1.config.gpuVideo = true)
    (fits : FitsModule tree) {info : RpsGpuInfo} :
    info ∈ (runpodShimInit env tree).allowed.gpus ↔
      info ∈ gpuInfos tree ∧ info.deviceMinor ∈ mountedMinors tree := by
  rw [allowed_runpodShimInit on fits,
    gpus_rpsGpuBuildAllowedGpus (length_gpuInfos_le fits), List.mem_filter,
    decide_eq_true_iff]
  exact and_congr_right fun member => isSelected_of_mem_gpuInfos member

/-- The filter is ready when some GPU is mounted. -/
theorem ready_runpodShimInit_iff
    (on : (rpsConfigGet env none).1.config.gpuVideo = true)
    (fits : FitsModule tree) :
    (runpodShimInit env tree).ready = true ↔ SomeMounted tree := by
  have valid :
      (runpodShimInit env tree).ready = true ↔
        (runpodShimInit env tree).allowed.gpus ≠ [] := by
    have isValid :=
      valid_rpsGpuBuildAllowedGpus (some (gpuInfos tree))
        (some (mountedMinors tree)) none
    rw [← allowed_runpodShimInit on fits] at isValid
    exact isValid
  rw [valid, ← List.length_pos_iff, List.length_pos_iff_exists_mem]
  exact exists_congr fun info => mem_gpus_runpodShimInit on fits

/-- The bus ids that the process may see are those of the mounted GPUs. -/
theorem rpsGpuAllowedContainsBus_runpodShimInit
    (on : (rpsConfigGet env none).1.config.gpuVideo = true)
    (fits : FitsModule tree) (repeats : BusLocationsRepeat tree)
    (name : CString) :
    rpsGpuAllowedContainsBus (some (runpodShimInit env tree).allowed) name =
      isMountedGpu tree name := by
  have named : NamedByMounted tree name ↔ isMountedGpu tree name = true :=
    namedByMounted_iff_isMountedGpu fits repeats
  rw [Bool.eq_iff_iff, ← named]
  constructor
  · intro contains
    unfold rpsGpuAllowedContainsBus at contains
    simp only at contains
    split at contains
    · cases contains
    · obtain ⟨info, member, isName⟩ := List.any_eq_true.mp contains
      obtain ⟨inInfos, mounted⟩ :=
        (mem_gpus_runpodShimInit on fits).mp member
      exact ⟨info, inInfos, mounted, beq_iff_eq.mp isName⟩
  · rintro ⟨info, inInfos, mounted, isName⟩
    have member : info ∈ (runpodShimInit env tree).allowed.gpus :=
      (mem_gpus_runpodShimInit on fits).mpr ⟨inInfos, mounted⟩
    have valid : (runpodShimInit env tree).allowed.valid = true :=
      (ready_runpodShimInit_iff on fits).mpr ⟨info, inInfos, mounted⟩
    have inDirectories : name ∈ gpuDirectories tree :=
      (isMountedGpu_iff.mp
        (named.mp ⟨info, inInfos, mounted, isName⟩)).1
    have nonempty : name.isEmpty = false := by
      simpa using (fits.proper name inDirectories).nonempty
    simp only [rpsGpuAllowedContainsBus, valid, nonempty, Bool.not_true,
      Bool.or_false, Bool.false_eq_true, if_false]
    exact List.any_eq_true.mpr ⟨info, member, beq_iff_eq.mpr isName⟩

/-- With the filter ready a path to a GPU's directory, or to the information
file in it, is refused unless that GPU is mounted. -/
theorem gpuProcDenied_runpodShimInit_iff
    (on : (rpsConfigGet env none).1.config.gpuVideo = true)
    (fits : FitsModule tree) (repeats : BusLocationsRepeat tree)
    (mounted : SomeMounted tree) {path : CString} {names : List CString}
    (normal : namesWithin rpsGpuProcPathMax path = some names)
    (place : gpuPathOf names = .busDir name ∨
      gpuPathOf names = .information name) :
    gpuProcDenied (runpodShimInit env tree) (some path) = true ↔
      isMountedGpu tree name = false := by
  have ready := (ready_runpodShimInit_iff on fits).mpr mounted
  have valid := (runpodShimInit env tree).ready_valid ready
  have decides :
      gpuPathDecision (some (runpodShimInit env tree).allowed)
          (gpuPathOf names) = .deny ↔ isMountedGpu tree name = false := by
    rw [← rpsGpuAllowedContainsBus_runpodShimInit on fits repeats name]
    rcases place with place | place
    · simp [place, gpuPathDecision, valid]
    · simp [place, gpuPathDecision, valid]
  rw [gpuProcDenied_iff, ← decides]
  constructor
  · rintro ⟨_, _, others, isNormal, denies⟩
    rw [normal] at isNormal
    rw [Option.some.inj isNormal]
    exact denies
  · intro denies
    exact ⟨on, ready, names, normal, denies⟩

end Start

/-- What a stream of the gpus directory may show. -/
def mountedShown (tree : GpuTree) (entry : DirEntry) : Bool :=
  entry.dName == cstr "." || entry.dName == cstr ".." ||
    isMountedGpu tree entry.dName

section Runs

variable {env : Environment} {tree : GpuTree}

end Runs

/-- A process that starts where one of two GPUs is mounted, with nothing in its
environment. -/
def twoGpuShim : Shim :=
  runpodShimInit (fun _ => none) (twoGpuTree (some secondInformation))

/-- It looks at what there is. -/
def scanGpus : List ScanAction :=
  [(.call (answers 3 true) containerEnv (.opendir (some gpusPath)),
      gpusListing),
    (.call (answers 0 true) containerEnv (.readdir 9 0), []),
    (.call (answers 0 true) containerEnv (.readdir 9 0), [])]

end RunpodShim

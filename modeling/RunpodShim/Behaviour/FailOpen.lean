import RunpodShim.Behaviour.DirectoryScan
import RunpodShim.Preload.Trace
import RunpodShim.Preload.TrackerRuns

/-!
# Failing open

What is left of the GPU module when topology detection gave no valid allowed
set: which calls the shim still refuses, in every state that a run can reach.
-/

namespace RunpodShim

open StepRuns

universe u

/-- The calls that the GPU module decides on or filters. -/
def Call.isFiltered : Call → Bool
  | .open_ .. | .open64 .. | .openat .. | .openat64 .. | .stat ..
  | .newfstatat .. | .fstatat .. | .opendir .. | .opendir64 ..
  | .readdir .. | .readdir64 .. | .getdents64 .. | .ioctl .. => true
  | .read .. | .close .. | .dup .. | .dup2 .. | .dup3 .. | .fcntl ..
  | .fdopendir .. | .closedir .. => false

/-- The call takes a relative path through a tracked directory, and the walk
along it climbs out of the gpus directory or passes one of the limits. -/
def Call.LeavesTracked (nodes : List RpsGpuFdNode) (call : Call) : Prop :=
  ∃ dirfd path record base,
    call.dirfdPath = some (dirfd, some path) ∧
      pathIsRelative (some path) = true ∧
      rpsGpuFdMapGet dirfd nodes = some record ∧
      TrackedDirectory record base ∧
      namesBelow rpsGpuPathMax base path = none

/-! ## The decision -/

section Decision

variable {nodes : List RpsGpuFdNode}

/-- The resolution denies exactly the relative paths that leave a tracked
directory. -/
theorem gpuEffectiveOpenatPath_eq_deny_iff (sound : Classified nodes)
    (dirfd : Int) (path : Option CString) :
    (gpuEffectiveOpenatPath nodes dirfd path rpsGpuPathMax).1 = .deny ↔
      ∃ bytes record base,
        path = some bytes ∧ pathIsRelative (some bytes) = true ∧
          rpsGpuFdMapGet dirfd nodes = some record ∧
          TrackedDirectory record base ∧
          namesBelow rpsGpuPathMax base bytes = none := by
  constructor
  · intro denied
    cases relative : pathIsRelative path with
    | false =>
        rw [gpuEffectiveOpenatPath, relative] at denied
        cases denied
    | true =>
        cases path with
        | none =>
            cases relative
        | some bytes =>
            cases found : rpsGpuFdMapGet dirfd nodes with
            | none =>
                rw [gpuEffectiveOpenatPath_of_untracked found] at denied
                cases denied
            | some record =>
                by_cases kind :
                    record.kind = .procGpusDir ∨
                      record.kind = .procGpuBusDir
                · obtain ⟨given, classified⟩ :=
                    sound.classified dirfd record found
                  obtain ⟨_, base, _, _, directory⟩ :=
                    trackedDirectory_of_classified classified kind
                  rw [gpuEffectiveOpenatPath_of_trackedDirectory found
                    directory relative rpsGpuPathMax_pos] at denied
                  cases below : namesBelow rpsGpuPathMax base bytes with
                  | some names =>
                      rw [below] at denied
                      cases denied
                  | none =>
                      exact
                        ⟨bytes, record, base, rfl, relative, rfl,
                          directory, below⟩
                · have neither :
                      record.kind ≠ .procGpusDir ∧
                        record.kind ≠ .procGpuBusDir :=
                    not_or.mp kind
                  have room : (rpsGpuPathMax == 0) = false := by
                    decide
                  rw [gpuEffectiveOpenatPath, relative, room] at denied
                  simp [found, neither] at denied
  · rintro ⟨bytes, record, base, rfl, relative, found, directory, below⟩
    rw [gpuEffectiveOpenatPath_of_trackedDirectory found directory relative
      rpsGpuPathMax_pos, below]

variable {shim : Shim} {state : ShimState}

/-- Without a valid allowed set, what is refused is what leaves a tracked
directory. -/
theorem refused_iff_leavesTracked (notReady : shim.ready = false)
    (sound : Classified state.nodes) (call : Call) :
    call.Refused shim state ↔ call.LeavesTracked state.nodes := by
  have never (path : Option CString) : ¬ gpuProcDenied shim path = true := by
    simp [gpuProcDenied_of_notReady notReady path]
  have throughDirfd (dirfd : Int) (path : Option CString)
      (taken : call.dirfdPath = some (dirfd, path))
      (effective :
        call.effectivePath state.nodes =
          some
            (gpuEffectiveOpenatPath state.nodes dirfd path
              rpsGpuPathMax)) :
      call.Refused shim state ↔ call.LeavesTracked state.nodes := by
    have deny :=
      gpuEffectiveOpenatPath_eq_deny_iff sound dirfd path
    constructor
    · rintro ⟨result, path, same, either⟩
      have isDeny := either.resolve_right (never path)
      rw [effective] at same
      obtain ⟨bytes, record, base, rfl, facts⟩ :=
        deny.mp (by rw [Option.some.inj same, isDeny])
      exact ⟨dirfd, bytes, record, base, taken, facts⟩
    · rintro ⟨asked, bytes, record, base, same, facts⟩
      rw [taken, Option.some.injEq, Prod.mk.injEq] at same
      obtain ⟨rfl, rfl⟩ := same
      exact
        ⟨_, _, effective,
          Or.inl (deny.mpr ⟨bytes, record, base, rfl, facts⟩)⟩
  have plain
      (noDirfd : call.dirfdPath = none)
      (passes :
        ∀ result path,
          call.effectivePath state.nodes = some (result, path) →
            result = .passthrough) :
      call.Refused shim state ↔ call.LeavesTracked state.nodes := by
    apply iff_of_false
    · rintro ⟨result, path, effective, either⟩
      rcases either with isDeny | isDenied
      · rw [passes result path effective] at isDeny
        cases isDeny
      · exact never path isDenied
    · rintro ⟨_, _, _, _, taken, _⟩
      rw [noDirfd] at taken
      cases taken
  cases call with
  | openat dirfd path flags mode =>
      exact throughDirfd dirfd path rfl rfl
  | openat64 dirfd path flags mode =>
      exact throughDirfd dirfd path rfl rfl
  | newfstatat dirfd path flags =>
      exact throughDirfd dirfd path rfl rfl
  | fstatat dirfd path flags =>
      exact throughDirfd dirfd path rfl rfl
  | _ =>
      apply plain rfl
      intro result path effective
      cases effective
      try rfl

end Decision

/-! ## The calls that take no path -/

section Pathless

variable {shim : Shim} {state : ShimState}

theorem gpuReaddirEntryAllowed_of_notReady (notReady : shim.ready = false)
    (dirfd : Int) (name : CString) :
    gpuReaddirEntryAllowed shim state dirfd name = true := by
  simp [gpuReaddirEntryAllowed, notReady]

/-- An unfiltered directory stream is read once. -/
theorem readVisible_of_notReady (notReady : shim.ready = false)
    {World : Type u} (real : Real World)
    (realReaddir : Nat → World → Ret (Option DirEntry) × World)
    (rounds dir : Nat) (world : World) :
    Preload.readVisible shim real realReaddir rounds dir ⟨state, world⟩ =
      some
        ((realReaddir dir world).1, ⟨state, (realReaddir dir world).2⟩) := by
  unfold Preload.readVisible Preload.skipHidden
  simp only [gpuReaddirEntryAllowed_of_notReady notReady, if_true]
  cases (realReaddir dir world).1.value with
  | none =>
      rfl
  | some entry =>
      rfl

theorem rpsGpuIoctlFilterAfter_none (cfg : RpsConfig) (request : UInt64)
    (arg : Option IoctlArg) (result : Int) (learned : List UInt32) :
    rpsGpuIoctlFilterAfter cfg none request arg result learned =
      (learned, arg) := by
  unfold rpsGpuIoctlFilterAfter
  split
  · rfl
  · split
    · cases arg with
      | none =>
          rfl
      | some arg =>
          cases arg with
          | cardInfo cards =>
              simp [rpsGpuRecordCardInfoGpuIds, rpsGpuFilterCardInfo,
                unusableAllowed]
          | rmControl rm =>
              rfl
          | other bytes =>
              rfl
    · split
      · cases arg with
        | none =>
            rfl
        | some arg =>
            cases arg with
            | cardInfo cards =>
                rfl
            | rmControl rm =>
                simp [rpsGpuFilterRmControl, rpsGpuIoctlFilterEnabled,
                  unusableAllowed]
            | other bytes =>
                rfl
      · rfl

theorem transparent_of_pathless (notReady : shim.ready = false)
    {call : Call} (filtered : call.isFiltered = true)
    (pathless : call.effectivePath state.nodes = none)
    (keeps : call.KeepsArgument) :
    call.Transparent shim state := by
  intro World real env world
  cases call with
  | readdir rounds dir =>
      refine ⟨state, ?_⟩
      simp only [perform, Preload.readdir,
        readVisible_of_notReady notReady]
      rfl
  | readdir64 rounds dir =>
      refine ⟨state, ?_⟩
      simp only [perform, direct, Preload.readdir64]
      cases real.readdir64 with
      | none =>
          rfl
      | some realReaddir64 =>
          simp only [readVisible_of_notReady notReady]
          rfl
  | getdents64 fd count =>
      refine ⟨state, ?_⟩
      simp only [perform, direct, Preload.getdents64, notReady,
        Bool.false_eq_true, false_and, and_false, if_false]
      rfl
  | ioctl fd request arg =>
      refine ⟨state, ?_⟩
      simp only [perform, direct, Preload.ioctl, notReady,
        Bool.false_eq_true, if_false, rpsGpuIoctlFilterAfter_none, ite_self,
        Call.keepsArgument_ioctl_iff.mp keeps]
      rfl
  | _ =>
      simp [Call.isFiltered, Call.effectivePath] at filtered pathless

end Pathless

/-! ## Failing open -/

section FailOpen

variable {shim : Shim} {state : ShimState} {call : Call}

/-- Without a valid allowed set, in every state that any run of the wrappers
reaches over any real functions, a call is transparent unless its path leaves
a tracked directory, or its argument is dropped. -/
theorem transparent_iff_of_classified (notReady : shim.ready = false)
    (sound : Classified state.nodes) (filtered : call.isFiltered = true) :
    call.Transparent shim state ↔
      ¬ call.LeavesTracked state.nodes ∧ call.KeepsArgument := by
  have refusedIff := refused_iff_leavesTracked notReady sound call
  constructor
  · intro transparent
    refine ⟨?_, keepsArgument_of_transparent transparent⟩
    intro leaves
    exact not_transparent_of_refused (refusedIff.mpr leaves) transparent
  · rintro ⟨stays, keeps⟩
    have goesOn : ¬ call.Refused shim state := by
      intro refused
      exact stays (refusedIff.mp refused)
    cases takesPath : call.effectivePath state.nodes with
    | none =>
        exact transparent_of_pathless notReady filtered takesPath keeps
    | some path =>
        exact transparent_of_not_refused (by simp [takesPath]) goesOn

/-- And with its trace it is transparent if moreover no line is written after
the real open has failed, or none that fails to be written. -/
theorem transparent_iff_of_notReady (notReady : shim.ready = false)
    {World : Type u} {real : Real World} {world : World}
    {labels : List (ShimLabel World)} {finish : Process World}
    (run :
      runFrom (shimStep shim real) ⟨.initial, world⟩ labels = some finish)
    (filtered : call.isFiltered = true) (trace : TraceError) :
    call.TransparentTraced shim finish.state trace ↔
      ¬ call.LeavesTracked finish.state.nodes ∧ call.KeepsArgument ∧
        (trace = none ∨ call.traces shim finish.state = false) := by
  rw [transparentTraced_iff,
    transparent_iff_of_classified notReady (classified_of_run run) filtered,
    and_assoc]

end FailOpen

/-! ## A directory tracked without an allowed set -/

/-- The shim after topology detection failed. -/
def unreadyShim : Shim where
  config := ⟨true, true, true⟩
  allowed := ⟨false, [], by decide⟩
  ready := false
  ready_valid := nofun

/-- An open of the gpus directory. -/
def openGpusDir : ShimLabel Unit :=
  .call containerEnv (.open_ (some gpusPath) 0 0)

/-- Opening the gpus directory leaves it tracked as descriptor 3. -/
theorem run_openGpusDir :
    runFrom (shimStep unreadyShim (constantReal Unit 3)) ⟨.initial, ()⟩
        [openGpusDir] =
      some ⟨gpusDirState, ()⟩ := by
  decide

/-- There a path below it goes to the kernel. -/
theorem stays_openatBusDir :
    ¬ (Call.openat 3 (some (cstr "0000:05:00.0")) 0 0).LeavesTracked
      gpusDirState.nodes := by
  rintro ⟨dirfd, path, record, base, taken, _, found, directory, leaves⟩
  cases taken
  have isGpus : rpsGpuFdMapGet 3 gpusDirState.nodes =
      some (rpsGpuClassifyPath (some gpusPath)).2 := by
    decide
  have same := Option.some.inj (isGpus.symm.trans found)
  have based := directory.found
  rw [← same] at based
  have baseIs :
      baseSegments (rpsGpuClassifyPath (some gpusPath)).2 =
        some gpusNames := by
    decide
  have gpusBase := Option.some.inj (baseIs.symm.trans based)
  rw [← gpusBase] at leaves
  revert leaves
  decide

/-- It is traced, so that its error is that of the real call as long as stderr
takes the line. -/
theorem transparent_openatBusDir :
    (Call.openat 3 (some (cstr "0000:05:00.0")) 0 0).TransparentTraced
        unreadyShim gpusDirState none ∧
      ¬ (Call.openat 3 (some (cstr "0000:05:00.0")) 0 0).TransparentTraced
          unreadyShim gpusDirState (some 9) := by
  constructor
  · apply (transparent_iff_of_notReady rfl run_openGpusDir rfl none).mpr
    exact ⟨stays_openatBusDir, rfl, Or.inl rfl⟩
  · rw [transparent_iff_of_notReady rfl run_openGpusDir rfl (some 9)]
    rintro ⟨_, _, impossible | silent⟩
    · cases impossible
    · revert silent
      decide

/-- A sibling of the gpus directory is refused all the same, with tracing
off. -/
theorem not_transparent_openatSibling :
    ∃ finish,
      runFrom (shimStep unreadyShim (constantReal Unit 3)) ⟨.initial, ()⟩
          [openGpusDir] = some finish ∧
        ¬ (Call.openat 3 (some (cstr "../version")) 0 0).TransparentTraced
          unreadyShim finish.state none := by
  refine ⟨⟨gpusDirState, ()⟩, run_openGpusDir, ?_⟩
  rw [transparentTraced_iff]
  rintro ⟨transparent, _⟩
  apply not_transparent_of_refused _ transparent
  exact ⟨.deny, none, by decide, Or.inl rfl⟩

end RunpodShim

import RunpodShim.Library.StepRuns
import RunpodShim.Preload.Call
import RunpodShim.Preload.OpenEffects

/-!
# The tracker over runs

What one call can do to the tracker, whatever the real functions do, and what
that means for every run: the list stays well kept and every record in it was
made by classification.
-/

namespace RunpodShim

open StepRuns

universe u

/-- A step of a process: a call, with what it meets, or anything that leaves
the shim's variables alone (the program itself, and wrappers that have no
tables). -/
inductive ShimLabel (World : Type u) where
  | call (env : Env) (call : Call)
  | outside (world : World)

/-- A step of a process over any real functions. -/
def shimStep {World : Type u} (shim : Shim) (real : Real World)
    (process : Process World) : ShimLabel World → Option (Process World)
  | .call env call => (perform shim real env call process).map Prod.snd
  | .outside world => some { process with world := world }

/-- The ways in which a call changes the tracker. -/
inductive TrackerChange (shim : Shim) (state : ShimState) :
    List RpsGpuFdNode → Prop where
  | unchanged : TrackerChange shim state state.nodes
  | tracked (env : Env) (path : Option CString) (fd : Int) :
      TrackerChange shim state
        (gpuTraceAndTrackOpen shim env path fd state).nodes
  | removed (fd : Int) :
      TrackerChange shim state (rpsGpuFdMapRemove fd state.nodes)
  | copied (malloc : Bool) (oldfd newfd : Int) :
      TrackerChange shim state
        (rpsGpuFdMapCopy malloc oldfd newfd state.nodes)

section Change

variable {World : Type u} {shim : Shim} {real : Real World} {env : Env}
variable {process : Process World}

theorem trackerChange_openCommon (path : Option CString) (flags : UInt32)
    (mode : Option UInt32) (large : Bool) :
    TrackerChange shim process.state
      (openCommon shim real env path flags mode large
        process).2.state.nodes := by
  unfold openCommon
  split
  · exact .unchanged
  · rw [nodes_gpuTraceAndTrackOpen_congr nodes_maybeAttachMeminfo]
    exact .tracked env path _

theorem trackerChange_openatCommon (dirfd : Int) (path : Option CString)
    (flags : UInt32) (mode : Option UInt32) (large : Bool) :
    TrackerChange shim process.state
      (openatCommon shim real env dirfd path flags mode large
        process).2.state.nodes := by
  unfold openatCommon
  split
  · exact .unchanged
  · rename_i effective _ _
    split
    · exact .unchanged
    · have attachedNodes (fd : Int) :
          (if dirfd = atFdcwd then
              maybeAttachMeminfo shim env fd path flags process.state
            else process.state).nodes = process.state.nodes := by
        split
        · exact nodes_maybeAttachMeminfo
        · rfl
      simp only
      split
      · rw [nodes_gpuTraceAndTrackOpen_congr (attachedNodes _)]
        exact .tracked env effective _
      · rw [attachedNodes]
        exact .unchanged

theorem trackerChange_opendirCommon (path : Option CString)
    (large : Bool) :
    TrackerChange shim process.state
      (Preload.opendirCommon shim real env path large
        process).2.state.nodes := by
  unfold Preload.opendirCommon
  split
  · exact .unchanged
  · simp only
    split
    · exact .tracked env path _
    · exact .unchanged

theorem nodes_read (fd : Int) (buffer : Bool) (count : Nat) :
    (Preload.read real fd buffer count process).2.state.nodes =
      process.state.nodes := by
  unfold Preload.read
  cases rpsGuardEnter process.state.depth with
  | none =>
      rfl
  | some inside =>
      cases taken :
          (rpsFdMapTakeRead buffer fd count process.state.entries).1 with
      | none =>
          simp only [taken]
      | some bytes =>
          simp only [taken]

theorem nodes_stat (path : Option CString) :
    (Preload.stat shim real path process).2.state.nodes =
      process.state.nodes := by
  unfold Preload.stat
  split <;> rfl

theorem nodes_fstatatCommon (dirfd : Int) (path : Option CString)
    (flags : UInt32) :
    (Preload.fstatatCommon shim real dirfd path flags
      process).2.state.nodes = process.state.nodes := by
  unfold Preload.fstatatCommon
  split
  · rfl
  · split <;> rfl

theorem nodes_fdopendir (fd : Int) :
    (Preload.fdopendir real fd process).2.state.nodes =
      process.state.nodes := by
  unfold Preload.fdopendir
  cases real.fdopendir with
  | none =>
      rfl
  | some realFdopendir =>
      rfl

theorem state_readVisible
    {realReaddir : Nat → World → Ret (Option DirEntry) × World}
    {rounds dir : Nat} {entry : Ret (Option DirEntry)}
    {after : Process World}
    (read :
      Preload.readVisible shim real realReaddir rounds dir process =
        some (entry, after)) :
    after.state = process.state := by
  obtain ⟨reached, _, whole⟩ := Option.map_eq_some_iff.mp read
  rw [← (Prod.mk.inj whole).2]

theorem nodes_ioctl (fd : Int) (request : UInt64)
    (arg : Option IoctlArg) :
    (Preload.ioctl shim real fd request arg process).2.state.nodes =
      process.state.nodes := by
  unfold Preload.ioctl
  simp only
  split <;> rfl

theorem trackerChange_copied {copies : Prop} [Decidable copies]
    (oldfd newfd : Int) {state copied : ShimState}
    (nodes :
      copied.nodes =
        rpsGpuFdMapCopy env.nodeMalloc oldfd newfd state.nodes) :
    TrackerChange shim state
      (if copies then copied else state).nodes := by
  split
  · rw [nodes]
    exact .copied env.nodeMalloc oldfd newfd
  · exact .unchanged

theorem trackerChange_closedir (dir : Nat) :
    TrackerChange shim process.state
      (Preload.closedir real dir process).2.state.nodes := by
  unfold Preload.closedir
  simp only
  split
  · exact .removed _
  · exact .unchanged

theorem TrackerChange.of_eq {state : ShimState}
    {nodes : List RpsGpuFdNode} (same : nodes = state.nodes) :
    TrackerChange shim state nodes :=
  same ▸ .unchanged

/-- One call changes the tracker in one of four ways, if at all. -/
theorem trackerChange_perform {call : Call} {reply : Reply}
    {after : Process World}
    (performed : perform shim real env call process = some (reply, after)) :
    TrackerChange shim process.state after.state.nodes := by
  cases call with
  | open_ path flags mode =>
      cases performed
      exact trackerChange_openCommon path flags _ false
  | open64 path flags mode =>
      cases performed
      exact trackerChange_openCommon path flags _ true
  | openat dirfd path flags mode =>
      cases performed
      exact trackerChange_openatCommon dirfd path flags _ false
  | openat64 dirfd path flags mode =>
      cases performed
      exact trackerChange_openatCommon dirfd path flags _ true
  | opendir path =>
      cases performed
      exact trackerChange_opendirCommon path false
  | opendir64 path =>
      cases performed
      exact trackerChange_opendirCommon path true
  | read fd buffer count =>
      cases performed
      exact .of_eq (nodes_read fd buffer count)
  | close fd =>
      cases performed
      exact .removed fd
  | dup oldfd =>
      cases performed
      exact trackerChange_copied oldfd _ rfl
  | dup2 oldfd newfd =>
      cases performed
      exact trackerChange_copied oldfd newfd rfl
  | dup3 oldfd newfd flags =>
      cases performed
      exact trackerChange_copied oldfd newfd rfl
  | fcntl fd cmd arg =>
      cases performed
      exact trackerChange_copied fd _ rfl
  | stat path =>
      cases performed
      exact .of_eq (nodes_stat path)
  | newfstatat dirfd path flags =>
      cases performed
      exact .of_eq (nodes_fstatatCommon dirfd path flags)
  | fstatat dirfd path flags =>
      cases performed
      exact .of_eq (nodes_fstatatCommon dirfd path flags)
  | fdopendir fd =>
      cases performed
      exact .of_eq (nodes_fdopendir fd)
  | closedir dir =>
      cases performed
      exact trackerChange_closedir dir
  | readdir rounds dir =>
      obtain ⟨⟨entry, reached⟩, read, whole⟩ :=
        Option.map_eq_some_iff.mp performed
      cases whole
      have same := state_readVisible read
      exact .of_eq (congrArg ShimState.nodes same)
  | readdir64 rounds dir =>
      obtain ⟨⟨entry, reached⟩, read, whole⟩ :=
        Option.map_eq_some_iff.mp performed
      cases whole
      unfold Preload.readdir64 at read
      split at read
      · cases read
        exact .unchanged
      · have same := state_readVisible read
        exact .of_eq (congrArg ShimState.nodes same)
  | getdents64 fd count =>
      cases performed
      exact .unchanged
  | ioctl fd request arg =>
      cases performed
      exact .of_eq (nodes_ioctl fd request arg)

end Change

/-! ## The invariant -/

/-- A well-kept tracker whose records all come from classification. -/
structure Classified (nodes : List RpsGpuFdNode) : Prop where
  kept : WellKept nodes
  classified :
    ∀ fd record,
      rpsGpuFdMapGet fd nodes = some record →
        ∃ path, rpsGpuClassifyPath path = (true, record)

theorem classified_nil : Classified [] where
  kept := wellKept_nil
  classified := by
    intro fd record found
    simp at found

section Invariant

variable {shim : Shim} {state : ShimState} {nodes : List RpsGpuFdNode}

theorem Classified.remove (sound : Classified nodes) (fd : Int) :
    Classified (rpsGpuFdMapRemove fd nodes) where
  kept := sound.kept.remove fd
  classified := by
    intro asked record found
    rw [rpsGpuFdMapGet_remove sound.kept] at found
    split at found
    · cases found
    · exact sound.classified asked record found

theorem Classified.copy (sound : Classified nodes) (malloc : Bool)
    (oldfd newfd : Int) :
    Classified (rpsGpuFdMapCopy malloc oldfd newfd nodes) where
  kept := sound.kept.copy malloc oldfd newfd
  classified := by
    intro asked record found
    by_cases invalid : oldfd < 0 ∨ newfd < 0
    · rw [rpsGpuFdMapCopy, if_pos invalid] at found
      exact sound.classified asked record found
    · have oldValid : 0 ≤ oldfd := by omega
      have newValid : 0 ≤ newfd := by omega
      rw [rpsGpuFdMapGet_copy malloc oldValid newValid sound.kept] at found
      split at found
      · split at found
        · exact sound.classified oldfd record found
        · cases found
      · exact sound.classified asked record found

theorem Classified.track (sound : Classified state.nodes) (env : Env)
    (path : Option CString) (fd : Int) :
    Classified (gpuTraceAndTrackOpen shim env path fd state).nodes where
  kept := sound.kept.gpuTraceAndTrackOpen
  classified := by
    intro asked record found
    by_cases valid : 0 ≤ fd
    · cases video : shim.config.gpuVideo with
      | false =>
          rw [gpuTraceAndTrackOpen_of_off video] at found
          exact sound.classified asked record found
      | true =>
          rw [rpsGpuFdMapGet_gpuTraceAndTrackOpen video valid
            sound.kept] at found
          split at found
          · exact ⟨path, trackedRecord_eq_some_iff.mp found⟩
          · exact sound.classified asked record found
    · rw [gpuTraceAndTrackOpen_of_neg (Int.not_le.mp valid)] at found
      exact sound.classified asked record found

theorem Classified.change (sound : Classified state.nodes)
    (changed : TrackerChange shim state nodes) : Classified nodes := by
  cases changed with
  | unchanged =>
      exact sound
  | tracked env path fd =>
      exact sound.track env path fd
  | removed fd =>
      exact sound.remove fd
  | copied malloc oldfd newfd =>
      exact sound.copy malloc oldfd newfd

variable {World : Type u} {real : Real World}

/-- One step keeps the tracker classified. -/
theorem classified_of_shimStep {before after : Process World}
    {label : ShimLabel World} (sound : Classified before.state.nodes)
    (taken : shimStep shim real before label = some after) :
    Classified after.state.nodes := by
  cases label with
  | call env call =>
      obtain ⟨⟨reply, reached⟩, performed, rfl⟩ :=
        Option.map_eq_some_iff.mp taken
      exact sound.change (trackerChange_perform performed)
  | outside world =>
      cases taken
      exact sound

/-- In every reachable state the tracker is classified. -/
theorem classified_of_run {world : World} {finish : Process World}
    {labels : List (ShimLabel World)}
    (run :
      runFrom (shimStep shim real) ⟨.initial, world⟩ labels =
        some finish) :
    Classified finish.state.nodes := by
  have keeps (before : Process World) (label : ShimLabel World)
      (after : Process World) (sound : Classified before.state.nodes)
      (taken : shimStep shim real before label = some after) :
      Classified after.state.nodes :=
    classified_of_shimStep sound taken
  exact invariant_of_every_run keeps classified_nil run

end Invariant

end RunpodShim

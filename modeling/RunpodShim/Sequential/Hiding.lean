import RunpodShim.Behaviour.DirectoryScan
import RunpodShim.Behaviour.DirentBuffers
import RunpodShim.Sequential.Effects

/-!
# Hiding along walks

Which descriptors of a sequential run hide the GPUs that are not allowed: those
on the gpus directory or a bus directory that a walk reached by an absolute
path and from there through descriptors that do so already.
-/

namespace RunpodShim

open LexicalPath StepRuns

/-! ## What a tracked directory hides -/

/-- The listing of a descriptor shows '.', '..' and allowed bus ids only. -/
structure HidesListing (shim : Shim) (state : ShimState) (fd : Int) :
    Prop where
  getdents64 : ∀ (World : Type) (real : Real World) (world later : World)
    (count : Nat) (batch : List Dirent) (errno : Int),
    real.sysGetdents64 fd count world =
        (⟨⟨(direntBytes batch).length, errno⟩, direntBytes batch⟩,
          later) →
      ∃ leftover,
        Preload.getdents64 shim real fd count ⟨state, world⟩ =
          (⟨⟨((direntBytes
                  (visibleDirents (some shim.allowed) batch)).length :
                  Int), errno⟩,
              direntBytes (visibleDirents (some shim.allowed) batch) ++
                leftover⟩,
            ⟨state, later⟩)
  readdir : ∀ (World : Type) (real : Real World) (world : World)
    (rounds dir : Nat) (entry : DirEntry) (errno : Int)
    (after : Process World),
    (∀ world, real.dirfd dir world = fd) →
      Preload.readdir shim real rounds dir ⟨state, world⟩ =
          some (⟨some entry, errno⟩, after) →
        direntNameKept (some shim.allowed) entry.dName = true
  readdir64 : ∀ (World : Type) (real : Real World) (world : World)
    (rounds dir : Nat) (entry : DirEntry) (errno : Int)
    (after : Process World),
    (∀ world, real.dirfd dir world = fd) →
      Preload.readdir64 shim real rounds dir ⟨state, world⟩ =
          some (⟨some entry, errno⟩, after) →
        direntNameKept (some shim.allowed) entry.dName = true

/-- The bus directory or the information file of a GPU that is not
allowed. -/
def HiddenPlace (shim : Shim) : GpuPath → Prop
  | .busDir bus | .information bus =>
      rpsGpuAllowedContainsBus (some shim.allowed) bus = false
  | .outside | .gpusDir => False

instance (shim : Shim) : DecidablePred (HiddenPlace shim)
  | .busDir bus | .information bus =>
      inferInstanceAs
        (Decidable (rpsGpuAllowedContainsBus (some shim.allowed) bus = false))
  | .outside | .gpusDir => inferInstanceAs (Decidable False)

/-- Every `openat` and `fstatat` of a relative path that leads from the
directory to a hidden place fails with `ENOENT`. -/
def HidesBelow (shim : Shim) (state : ShimState) (fd : Int)
    (names : List CString) : Prop :=
  ∀ (call : Call) (path : CString),
    call.dirfdPath = some (fd, some path) →
      pathIsRelative (some path) = true →
        HiddenPlace shim
            (gpuPathOf (resolve unixPath names (segments slash path))) →
          ∀ (World : Type) (real : Real World) (env : Env) (world : World),
            perform shim real env call ⟨state, world⟩ =
              some (call.refusal, ⟨state, world⟩)

section Tracked

variable {shim : Shim} {state : ShimState} {fd : Int}
variable {record : RpsGpuFdRecord} {names : List CString}

/-- Of the two directory kinds the gpus directory is the one with its
names. -/
theorem TrackedDirectory.kind_of_gpusNames
    (directory : TrackedDirectory record gpusNames) :
    record.kind = .procGpusDir := by
  have found := directory.found
  unfold baseSegments at found
  split at found
  · split at found
    · cases found
    · have same := congrArg List.length (Option.some.inj found)
      simp at same
  · split at found
    · cases found
    · rename_i isGpus
      exact Decidable.not_not.mp isGpus

/-- An entry that the loop hands back is one it lets through. -/
theorem allowed_of_skipHidden {World : Type}
    {realReaddir : Nat → World → Ret (Option DirEntry) × World}
    {dir rounds : Nat} {called reached : Ret (Option DirEntry) × World}
    {entry : DirEntry}
    (skipped :
      Preload.skipHidden shim state realReaddir dir fd rounds called =
        some reached)
    (found : reached.1.value = some entry) :
    gpuReaddirEntryAllowed shim state fd entry.dName = true := by
  induction rounds generalizing called with
  | zero =>
      unfold Preload.skipHidden at skipped
      split at skipped
      · rename_i ended
        cases skipped
        rw [ended] at found
        cases found
      · rename_i shown isShown
        split at skipped
        · rename_i allowed
          cases skipped
          rw [isShown] at found
          cases found
          exact allowed
        · cases skipped
  | succ rounds inductionHypothesis =>
      unfold Preload.skipHidden at skipped
      split at skipped
      · rename_i ended
        cases skipped
        rw [ended] at found
        cases found
      · rename_i shown isShown
        split at skipped
        · rename_i allowed
          cases skipped
          rw [isShown] at found
          cases found
          exact allowed
        · exact inductionHypothesis skipped

theorem nameKept_of_readVisible {World : Type} {real : Real World}
    {realReaddir : Nat → World → Ret (Option DirEntry) × World}
    {rounds dir : Nat} {world : World} {entry : DirEntry} {errno : Int}
    {after : Process World}
    (video : shim.config.gpuVideo = true) (ready : shim.ready = true)
    (tracked : rpsGpuFdMapGet fd state.nodes = some record)
    (kind : record.kind = .procGpusDir)
    (number : ∀ world, real.dirfd dir world = fd)
    (read :
      Preload.readVisible shim real realReaddir rounds dir ⟨state, world⟩ =
        some (⟨some entry, errno⟩, after)) :
    direntNameKept (some shim.allowed) entry.dName = true := by
  obtain ⟨reached, skipped, whole⟩ := Option.map_eq_some_iff.mp read
  rw [number] at skipped
  have value := congrArg (fun result => result.1.value) whole
  have allowed := allowed_of_skipHidden skipped value
  rw [gpuReaddirEntryAllowed_of_tracked video ready tracked kind]
    at allowed
  exact allowed

theorem hidesListing_of_tracked (video : shim.config.gpuVideo = true)
    (ready : shim.ready = true)
    (tracked : rpsGpuFdMapGet fd state.nodes = some record)
    (kind : record.kind = .procGpusDir) :
    HidesListing shim state fd where
  getdents64 := by
    intro World real world later count batch errno answered
    exact getdents64_records video ready tracked kind answered
  readdir := by
    intro World real world rounds dir entry errno after number read
    exact nameKept_of_readVisible video ready tracked kind number read
  readdir64 := by
    intro World real world rounds dir entry errno after number read
    unfold Preload.readdir64 at read
    split at read
    · cases read
    · exact nameKept_of_readVisible video ready tracked kind number read

/-- A hidden place is denied. -/
theorem gpuPathDecision_of_hiddenPlace (ready : shim.ready = true)
    {place : GpuPath} (hidden : HiddenPlace shim place) :
    gpuPathDecision (some shim.allowed) place = .deny := by
  have valid := shim.ready_valid ready
  cases place with
  | outside =>
      cases hidden
  | gpusDir =>
      cases hidden
  | busDir bus =>
      have isHidden :
          rpsGpuAllowedContainsBus (some shim.allowed) bus = false :=
        hidden
      simp [gpuPathDecision, valid, isHidden]
  | information bus =>
      have isHidden :
          rpsGpuAllowedContainsBus (some shim.allowed) bus = false :=
        hidden
      simp [gpuPathDecision, valid, isHidden]

theorem hidesBelow_of_tracked (video : shim.config.gpuVideo = true)
    (ready : shim.ready = true)
    (tracked : rpsGpuFdMapGet fd state.nodes = some record)
    (directory : TrackedDirectory record names) :
    HidesBelow shim state fd names := by
  intro call path taken relative hidden World real env world
  apply perform_of_refused
  have resolution :=
    gpuEffectiveOpenatPath_of_trackedDirectory tracked directory relative
      rpsGpuPathMax_pos
  have refused :
      (gpuEffectiveOpenatPath state.nodes fd (some path)
          rpsGpuPathMax).1 = .deny ∨
        gpuProcDenied shim
          (gpuEffectiveOpenatPath state.nodes fd (some path)
            rpsGpuPathMax).2 = true := by
    cases below : namesBelow rpsGpuPathMax names path with
    | none =>
        left
        rw [resolution, below]
    | some reached =>
        right
        rw [resolution, below]
        have normal :=
          namesWithin_canonical_of_namesWithin
            (namesWithin_of_namesBelow directory below)
        have same := resolve_of_namesBelow below
        apply gpuProcDenied_iff.mpr
        refine ⟨video, ready, reached, normal, ?_⟩
        rw [same]
        exact gpuPathDecision_of_hiddenPlace ready hidden
  cases call with
  | openat dirfd given flags mode =>
      cases taken
      exact ⟨_, _, rfl, refused⟩
  | openat64 dirfd given flags mode =>
      cases taken
      exact ⟨_, _, rfl, refused⟩
  | newfstatat dirfd given flags =>
      cases taken
      exact ⟨_, _, rfl, refused⟩
  | fstatat dirfd given flags =>
      cases taken
      exact ⟨_, _, rfl, refused⟩
  | _ =>
      cases taken

end Tracked

/-! ## Walks -/

/-- The names of the gpus directory or of a bus directory. -/
def isGpuDirectory (names : List CString) : Bool :=
  match gpuPathOf names with
  | .gpusDir | .busDir _ => true
  | .information _ | .outside => false

/-- An open leads a walk to a directory of the GPU module: by an absolute
path, or by a path that keeps below a directory which the walk has reached,
both within the limits of the shim. -/
def OpenRequest.walksTo (walked : Int → Bool) (kernel : Kernel)
    (request : OpenRequest) (file : OpenFile) : Bool :=
  isGpuDirectory file.names &&
    request.path.any fun path =>
      if path.head? = some slash then
        (namesWithin rpsGpuProcPathMax path).isSome
      else
        walked request.dirfd &&
          (kernel.descriptors request.dirfd).any fun directory =>
            (namesBelow rpsGpuPathMax directory.names path).isSome

/-- The history of the walk: which descriptors it has reached, with memory for
their records. -/
def walkedAfter (nodes : List RpsGpuFdNode) (kernel : Kernel)
    (action : Action) (later : Kernel) (walked : Int → Bool) (fd : Int) :
    Bool :=
  match later.descriptors fd, action with
  | none, _ => false
  | some _, .closeBehind _ => walked fd
  | some file, .call answer env call =>
      match call.replaces, call with
      | some (oldfd, newfd), _ =>
          if fd = newfd ∧ kernel.replaces answer oldfd newfd then
            env.nodeMalloc && walked oldfd
          else walked fd
      | none, .close closed => decide (fd ≠ closed) && walked fd
      | none, _ =>
          if (kernel.descriptors fd).isSome then walked fd
          else
            match call.openRequest nodes, call.duplicates with
            | some request, _ =>
                env.nodeMalloc && request.walksTo walked kernel file
            | none, some oldfd => env.nodeMalloc && walked oldfd
            | none, none => false

/-- What a walk has reached is tracked under its own names. -/
def WalkTracked (state : ShimState) (kernel : Kernel)
    (walked : Int → Bool) : Prop :=
  ∀ fd, walked fd = true →
    ∃ file record,
      kernel.descriptors fd = some file ∧
        rpsGpuFdMapGet fd state.nodes = some record ∧
        TrackedDirectory record file.names

section History

variable {nodes : List RpsGpuFdNode} {kernel later : Kernel}
variable {answer : Answer} {env : Env} {call : Call}
variable {walked : Int → Bool} {fd : Int} {file : OpenFile}

theorem isSome_of_walkedAfter {action : Action}
    (isWalked :
      walkedAfter nodes kernel action later walked fd = true) :
    (later.descriptors fd).isSome = true := by
  unfold walkedAfter at isWalked
  cases opened : later.descriptors fd with
  | none =>
      rw [opened] at isWalked
      cases isWalked
  | some file =>
      rfl

/-- A number that has been given up is not walked. -/
theorem ne_of_walkedAfter {action : Action} {released : Int}
    (isWalked :
      walkedAfter nodes kernel action later walked fd = true)
    (gone : later.descriptors released = none) : fd ≠ released := by
  intro same
  have stillOpen := isSome_of_walkedAfter isWalked
  rw [same, gone] at stillOpen
  cases stillOpen

theorem walked_of_closeBehind {released : Int}
    (isWalked :
      walkedAfter nodes kernel (.closeBehind released) later walked fd =
        true) :
    walked fd = true := by
  obtain ⟨file, opened⟩ :=
    Option.isSome_iff_exists.mp (isSome_of_walkedAfter isWalked)
  unfold walkedAfter at isWalked
  rw [opened] at isWalked
  exact isWalked

/-- A number that keeps its description was walked before, and is not one that
`close` was called on. -/
theorem walked_of_stays
    (stays : later.descriptors fd = kernel.descriptors fd)
    (unreplaced : ∀ oldfd, call.replaces = some (oldfd, fd) →
      kernel.replaces answer oldfd fd = false)
    (isWalked :
      walkedAfter nodes kernel (.call answer env call) later walked fd =
        true) :
    walked fd = true ∧ ∀ closed, call = .close closed → fd ≠ closed := by
  have stillOpen := isSome_of_walkedAfter isWalked
  obtain ⟨file, opened⟩ := Option.isSome_iff_exists.mp stillOpen
  have wasOpen : (kernel.descriptors fd).isSome = true := by
    rw [← stays]
    exact stillOpen
  unfold walkedAfter at isWalked
  rw [opened] at isWalked
  simp only [wasOpen, if_true] at isWalked
  split at isWalked
  · rename_i oldfd newfd asked
    have unmoved :
        ¬ (fd = newfd ∧
          kernel.replaces answer oldfd newfd = true) := by
      rintro ⟨rfl, replaces⟩
      rw [unreplaced oldfd asked] at replaces
      cases replaces
    rw [if_neg unmoved] at isWalked
    refine ⟨isWalked, ?_⟩
    intro closed isClose
    rw [isClose] at asked
    cases asked
  · rename_i closed _
    simp only [Bool.and_eq_true, decide_eq_true_eq] at isWalked
    refine ⟨isWalked.2, ?_⟩
    intro other same
    cases same
    exact isWalked.1
  · rename_i notClose _
    refine ⟨isWalked, ?_⟩
    intro closed isClose
    exact absurd isClose (notClose closed)

theorem walkedAfter_opened {request : OpenRequest}
    (asked : call.openRequest nodes = some request)
    (free : kernel.descriptors fd = none)
    (opened : later.descriptors fd = some file) :
    walkedAfter nodes kernel (.call answer env call) later walked fd =
      (env.nodeMalloc && request.walksTo walked kernel file) := by
  have never := Call.replaces_of_openRequest asked
  unfold walkedAfter
  cases call with
  | close closed =>
      cases asked
  | _ =>
      simp [opened, never, free, asked]

theorem walkedAfter_copied {oldfd : Int}
    (asked : call.duplicates = some oldfd)
    (free : kernel.descriptors fd = none)
    (opened : later.descriptors fd = some file) :
    walkedAfter nodes kernel (.call answer env call) later walked fd =
      (env.nodeMalloc && walked oldfd) := by
  have never := Call.replaces_of_duplicates asked
  unfold walkedAfter
  cases call with
  | dup first =>
      simp [opened, never, free, asked, Call.openRequest]
  | fcntl first cmd arg =>
      simp [opened, never, free, asked, Call.openRequest]
  | _ =>
      cases asked

theorem walkedAfter_replaced {oldfd : Int}
    (asked : call.replaces = some (oldfd, fd))
    (replaces : kernel.replaces answer oldfd fd = true)
    (opened : later.descriptors fd = some file) :
    walkedAfter nodes kernel (.call answer env call) later walked fd =
      (env.nodeMalloc && walked oldfd) := by
  simp [walkedAfter, opened, asked, replaces]

end History

section Tracking

variable {shim : Shim} {state : ShimState} {kernel : Kernel}
variable {walked : Int → Bool}

/-- A directory of the GPU module is tracked under its names, whatever the
spelling of its path. -/
theorem trackedRecord_of_isGpuDirectory {path : CString}
    {names : List CString}
    (normal : namesWithin rpsGpuProcPathMax path = some names)
    (isDirectory : isGpuDirectory names = true) :
    ∃ record,
      trackedRecord (some path) = some record ∧
        TrackedDirectory record names := by
  have fromPlace (record : RpsGpuFdRecord)
      (kind : record.kind = .procGpusDir ∨ record.kind = .procGpuBusDir)
      (classified : rpsGpuClassifyPath (some path) = (true, record)) :
      ∃ record,
        trackedRecord (some path) = some record ∧
          TrackedDirectory record names := by
    obtain ⟨bytes, base, same, based, directory⟩ :=
      trackedDirectory_of_classified classified kind
    cases same
    rw [normal] at based
    cases based
    exact
      ⟨record, trackedRecord_eq_some_iff.mpr classified, directory⟩
  unfold isGpuDirectory at isDirectory
  cases place : gpuPathOf names with
  | gpusDir =>
      have isGpus := gpuPathOf_eq_gpusDir_iff.mp place
      have below : gpusNames <+: names :=
        ⟨[], (List.append_nil _).trans isGpus.symm⟩
      have classified := rpsGpuClassifyPath_below normal below
      rw [place] at classified
      exact fromPlace _ (Or.inl rfl) classified
  | busDir bus =>
      have isBus := (gpuPathOf_eq_busDir_iff.mp place).1
      have below : gpusNames <+: names := by
        rw [isBus]
        exact List.prefix_append _ _
      have classified := rpsGpuClassifyPath_below normal below
      rw [place] at classified
      exact fromPlace _ (Or.inr rfl) classified
  | information bus =>
      rw [place] at isDirectory
      cases isDirectory
  | outside =>
      rw [place] at isDirectory
      cases isDirectory

/-- A path below a tracked directory is tracked under the names that it leads
to. -/
theorem tracks_of_namesBelow {nodes : List RpsGpuFdNode} {call : Call}
    {request : OpenRequest} {path : CString} {record : RpsGpuFdRecord}
    {base names : List CString}
    (asked : call.openRequest nodes = some request)
    (given : request.path = some path)
    (relative : pathIsRelative (some path) = true)
    (found : rpsGpuFdMapGet request.dirfd nodes = some record)
    (directory : TrackedDirectory record base)
    (below : namesBelow rpsGpuPathMax base path = some names) :
    request.tracks = some (some (canonical names)) := by
  have isAbsolute : pathIsAbsolute (some (canonical names)) = true := by
    simp [pathIsAbsolute, head?_canonical]
  have notHere (here : request.dirfd = atFdcwd) :
      request.tracks = some (some (canonical names)) := by
    have valid := nonneg_of_rpsGpuFdMapGet found
    rw [here] at valid
    exact absurd valid (by decide)
  have resolution :=
    gpuEffectiveOpenatPath_of_trackedDirectory found directory relative
      rpsGpuPathMax_pos
  rw [below] at resolution
  cases call with
  | openat dirfd other flags mode =>
      cases asked
      cases given
      simp [resolution, isAbsolute]
  | openat64 dirfd other flags mode =>
      cases asked
      cases given
      simp [resolution, isAbsolute]
  | open_ other flags mode =>
      cases asked
      exact notHere rfl
  | open64 other flags mode =>
      cases asked
      exact notHere rfl
  | opendir other =>
      cases asked
      exact notHere rfl
  | opendir64 other =>
      cases asked
      exact notHere rfl
  | _ =>
      cases asked

/-- Where a walk leads to a directory of the GPU module, the call tracks it
under its names. -/
theorem tracked_of_walksTo (reached : WalkTracked state kernel walked)
    (sound : kernel.Sound) {answer : Answer} {call : Call}
    {request : OpenRequest} {file : OpenFile}
    (asked : call.openRequest state.nodes = some request)
    (found : kernel.lookup answer request.dirfd request.path = some file)
    (walks : request.walksTo walked kernel file = true) :
    ∃ path record,
      request.tracks = some path ∧ trackedRecord path = some record ∧
        TrackedDirectory record file.names := by
  obtain ⟨bytes, start, given, _, _, _, started, whole⟩ :=
    Kernel.lookup_eq_some_iff.mp found
  have names : file.names = resolve unixPath start (segments slash bytes) := by
    rw [whole]
    rfl
  simp only [OpenRequest.walksTo, given, Option.any_some,
    Bool.and_eq_true] at walks
  obtain ⟨isDirectory, along⟩ := walks
  by_cases absolute : bytes.head? = some slash
  · rw [if_pos absolute] at along
    obtain ⟨within, normal⟩ := Option.isSome_iff_exists.mp along
    rw [Kernel.start, if_pos absolute] at started
    cases started
    have same : within = file.names := by
      rw [names]
      exact resolve_of_namesWithin normal
    rw [same] at normal
    obtain ⟨record, tracked, directory⟩ :=
      trackedRecord_of_isGpuDirectory normal isDirectory
    exact
      ⟨some bytes, record, tracks_of_absolute asked given absolute,
        tracked, directory⟩
  · rw [if_neg absolute, Bool.and_eq_true] at along
    obtain ⟨isWalked, keeps⟩ := along
    obtain ⟨base, record, opened, present, directory⟩ :=
      reached request.dirfd isWalked
    rw [opened, Option.any_some] at keeps
    obtain ⟨within, below⟩ := Option.isSome_iff_exists.mp keeps
    have notHere : request.dirfd ≠ atFdcwd := by
      intro here
      have valid := sound.nonneg request.dirfd base opened
      rw [here] at valid
      exact absurd valid (by decide)
    have fromBase : start = base.names := by
      rw [Kernel.start, if_neg absolute, if_neg notHere, opened] at started
      obtain ⟨other, kept, named⟩ := Option.map_eq_some_iff.mp started
      have sameFile := (Option.filter_eq_some_iff.mp kept).1
      cases sameFile
      exact named.symm
    have same : within = file.names := by
      rw [names, fromBase]
      exact resolve_of_namesBelow below
    have relative : pathIsRelative (some bytes) = true := by
      simp [pathIsRelative, absolute]
    have normal :=
      namesWithin_canonical_of_namesWithin
        (namesWithin_of_namesBelow directory below)
    rw [same] at normal below
    obtain ⟨trackedAs, tracked, isTracked⟩ :=
      trackedRecord_of_isGpuDirectory normal isDirectory
    exact
      ⟨some (canonical file.names), trackedAs,
        tracks_of_namesBelow asked given relative present directory below,
        tracked, isTracked⟩

end Tracking

/-! ## One step -/

section Step

variable {shim : Shim} {state after : ShimState} {kernel later : Kernel}
variable {walked : Int → Bool} {answer : Answer} {env : Env} {call : Call}

/-- The tracker record of a number that keeps its description stays, unless
`close` was called on it. -/
theorem WalkTracked.stays (reached : WalkTracked state kernel walked)
    {fd : Int}
    (stays : later.descriptors fd = kernel.descriptors fd)
    (unreplaced : ∀ oldfd, call.replaces = some (oldfd, fd) →
      kernel.replaces answer oldfd fd = false)
    (kept : (∀ closed, call = .close closed → fd ≠ closed) →
      rpsGpuFdMapGet fd after.nodes = rpsGpuFdMapGet fd state.nodes)
    (isWalked :
      walkedAfter state.nodes kernel (.call answer env call) later walked
        fd = true) :
    ∃ file record,
      later.descriptors fd = some file ∧
        rpsGpuFdMapGet fd after.nodes = some record ∧
        TrackedDirectory record file.names := by
  obtain ⟨wasWalked, notClosed⟩ :=
    walked_of_stays stays unreplaced isWalked
  rw [stays, kept notClosed]
  exact reached fd wasWalked

/-- An opening call on the kernel with the new description. -/
theorem WalkTracked.open_ (video : shim.config.gpuVideo = true)
    (kept : WellKept state.nodes) (sound : kernel.Sound)
    (reached : WalkTracked state kernel walked)
    {request : OpenRequest} {file : OpenFile}
    (asked : call.openRequest state.nodes = some request)
    (found : kernel.lookup answer request.dirfd request.path = some file)
    (descriptors : later.descriptors = (kernel.install file).descriptors) :
    WalkTracked (request.record shim env file.first state) later
      (walkedAfter state.nodes kernel (.call answer env call) later
        walked) := by
  have free := Kernel.free_of_lookup found
  have valid := Kernel.nonneg_of_lookup found
  have never := Call.replaces_of_openRequest asked
  intro fd isWalked
  by_cases here : fd = file.first
  · subst here
    have opened : later.descriptors file.first = some file := by
      rw [descriptors, Kernel.descriptors_install, if_pos rfl]
    rw [walkedAfter_opened asked free opened, Bool.and_eq_true] at isWalked
    obtain ⟨path, record, tracks, tracked, directory⟩ :=
      tracked_of_walksTo reached sound asked found isWalked.2
    refine ⟨file, record, opened, ?_, directory⟩
    rw [OpenRequest.nodes_record, tracks]
    simp only
    rw [rpsGpuFdMapGet_gpuTraceAndTrackOpen video valid kept,
      if_pos ⟨rfl, Or.inr (Or.inl isWalked.1)⟩]
    exact tracked
  · apply reached.stays _ _ _ isWalked
    · rw [descriptors, Kernel.descriptors_install, if_neg here]
    · intro oldfd replaces
      rw [never] at replaces
      cases replaces
    · intro _
      rw [OpenRequest.nodes_record]
      cases request.tracks with
      | none =>
          rfl
      | some path =>
          simp only
          rw [rpsGpuFdMapGet_gpuTraceAndTrackOpen video valid kept,
            if_neg fun both => here both.1]

/-- A duplicate of a walked descriptor. -/
theorem WalkTracked.duplicate (kept : WellKept state.nodes)
    (sound : kernel.Sound) (reached : WalkTracked state kernel walked)
    {oldfd newfd : Int} {file : OpenFile}
    (named : kernel.descriptors oldfd = some file) (valid : 0 ≤ newfd)
    (after_nodes :
      after.nodes =
        rpsGpuFdMapCopy env.nodeMalloc oldfd newfd state.nodes)
    (newWalked :
      walkedAfter state.nodes kernel (.call answer env call)
          (kernel.assign newfd file) walked newfd =
        (env.nodeMalloc && walked oldfd))
    (unreplaced : ∀ fd oldfd, fd ≠ newfd →
      call.replaces = some (oldfd, fd) →
        kernel.replaces answer oldfd fd = false) :
    WalkTracked after (kernel.assign newfd file)
      (walkedAfter state.nodes kernel (.call answer env call)
        (kernel.assign newfd file) walked) := by
  have oldValid := sound.nonneg oldfd file named
  intro fd isWalked
  by_cases here : fd = newfd
  · subst here
    rw [newWalked, Bool.and_eq_true] at isWalked
    obtain ⟨base, record, opened, present, directory⟩ :=
      reached oldfd isWalked.2
    rw [named] at opened
    cases opened
    refine ⟨file, record, ?_, ?_, directory⟩
    · rw [Kernel.descriptors_assign, if_pos rfl]
    · rw [after_nodes, rpsGpuFdMapGet_copy _ oldValid valid kept,
        if_pos rfl, if_pos (Or.inl isWalked.1)]
      exact present
  · apply reached.stays _ (fun oldfd => unreplaced fd oldfd here) _
      isWalked
    · rw [Kernel.descriptors_assign, if_neg here]
    · intro _
      rw [after_nodes, rpsGpuFdMapGet_copy _ oldValid valid kept,
        if_neg here]

/-- One step, whatever it is, keeps what the walk has reached tracked. -/
theorem WalkTracked.effect {action : Action}
    (video : shim.config.gpuVideo = true) (kept : WellKept state.nodes)
    (sound : kernel.Sound) (reached : WalkTracked state kernel walked)
    (done : Effect shim state kernel action after later) :
    WalkTracked after later
      (walkedAfter state.nodes kernel action later walked) := by
  have plain {call : Call} (never : call.replaces = none) (answer : Answer)
      (fd oldfd : Int) (asked : call.replaces = some (oldfd, fd)) :
      kernel.replaces answer oldfd fd = false := by
    rw [never] at asked
    cases asked
  cases done with
  | idle same quiet =>
      intro fd isWalked
      apply reached.stays rfl (fun oldfd => quiet.replaces oldfd fd) _
        isWalked
      intro _
      rw [same.nodes]
  | read fd buffer count nodes entries depth =>
      intro asked isWalked
      apply reached.stays rfl (plain rfl _ asked) _ isWalked
      intro _
      rw [nodes]
  | opened request file asked goesOn found stream =>
      exact reached.open_ video kept sound asked found rfl
  | openedDir request file asked goesOn found stream directory unused =>
      exact reached.open_ video kept sound asked found rfl
  | copied oldfd newfd file asked named free =>
      have never := Call.replaces_of_duplicates asked
      apply reached.duplicate kept sound named
        (Kernel.nonneg_of_freeFd free) rfl
      · apply walkedAfter_copied asked (Kernel.unused_of_freeFd free)
        rw [Kernel.descriptors_assign, if_pos rfl]
      · intro fd other _ replaces
        exact plain never _ fd other replaces
  | replaced oldfd newfd file asked named replaces =>
      have valid := Kernel.nonneg_of_replaces replaces
      apply reached.duplicate kept sound named valid rfl
      · apply walkedAfter_replaced asked replaces
        rw [Kernel.descriptors_assign, if_pos rfl]
      · intro fd other differs asksOther
        rw [asked] at asksOther
        cases asksOther
        exact absurd rfl differs
  | closed fd closes =>
      intro asked isWalked
      have here :=
        ne_of_walkedAfter isWalked Kernel.descriptors_release_self
      apply reached.stays _ (plain rfl _ asked) _ isWalked
      · rw [Kernel.descriptors_release, if_neg here]
      · intro _
        rw [dropFd, rpsGpuFdMapGet_remove kept, if_neg here]
  | dropped fd fails =>
      intro asked isWalked
      apply reached.stays rfl (plain rfl _ asked) _ isWalked
      intro notClosed
      rw [dropFd, rpsGpuFdMapGet_remove kept, if_neg (notClosed fd rfl)]
  | streamed fd file named directory unused =>
      intro asked isWalked
      exact reached.stays rfl (plain rfl _ asked) (fun _ => rfl) isWalked
  | closedDir dir fd stream wasOpen =>
      intro asked isWalked
      have descriptors :
          ((kernel.release fd).freeStream dir).descriptors asked =
            if asked = fd then none else kernel.descriptors asked :=
        Kernel.descriptors_release
      have here :=
        ne_of_walkedAfter isWalked Kernel.descriptors_release_self
      apply reached.stays _ (plain rfl _ asked) _ isWalked
      · rw [descriptors, if_neg here]
      · intro _
        simp only
        split
        · rw [rpsGpuFdMapGet_remove kept, if_neg here]
        · rfl
  | freedDir dir fd stream fails =>
      intro asked isWalked
      have descriptors :
          ((kernel.release fd).freeStream dir).descriptors asked =
            if asked = fd then none else kernel.descriptors asked :=
        Kernel.descriptors_release
      have here :=
        ne_of_walkedAfter isWalked Kernel.descriptors_release_self
      apply reached.stays _ (plain rfl _ asked) (fun _ => rfl) isWalked
      rw [descriptors, if_neg here]
  | closedBehind fd =>
      intro asked isWalked
      have here :=
        ne_of_walkedAfter isWalked Kernel.descriptors_release_self
      rw [Kernel.descriptors_release, if_neg here]
      exact reached asked (walked_of_closeBehind isWalked)

end Step

/-! ## Runs -/

section Runs

variable {shim : Shim}

/-- The system with the history of the walk. -/
def walkStep (shim : Shim) :
    Process Kernel × (Int → Bool) → Action →
      Option (Process Kernel × (Int → Bool)) :=
  withHistory (sequentialStep shim) fun before action after walked =>
    walkedAfter before.state.nodes before.world action after.world walked

/-- What the hiding along walks rests on. -/
structure WalkKept (current : Process Kernel × (Int → Bool)) : Prop where
  sound : current.1.world.Sound
  kept : WellKept current.1.state.nodes
  tracked : WalkTracked current.1.state current.1.world current.2

theorem walkKept_start (cwd : List CString) :
    WalkKept (Process.start cwd, fun _ => false) where
  sound := Kernel.sound_initial cwd
  kept := wellKept_nil
  tracked := nofun

theorem WalkKept.step (video : shim.config.gpuVideo = true)
    {before after : Process Kernel × (Int → Bool)} {action : Action}
    (kept : WalkKept before)
    (taken : walkStep shim before action = some after) :
    WalkKept after := by
  obtain ⟨stepped, walked⟩ := withHistory_eq_some.mp taken
  have done := effect_of_step stepped
  refine ⟨done.sound kept.sound, done.wellKept kept.kept, ?_⟩
  rw [walked]
  exact kept.tracked.effect video kept.kept kept.sound done

end Runs

/-! ## Where walks start -/

/-- From the gpus directory, through a duplicate, down to the mounted GPU and
back. -/
def walkBackToGpusDir : List Action :=
  [.call (answers 3 true) containerEnv (.open_ (some gpusPath) 0 0),
    .call (answers 4 true) containerEnv (.dup 3),
    .call (answers 5 true) containerEnv
      (.openat 4 (some (cstr "0000:04:00.0/..")) 0 0)]

/-- From the directory of the driver. -/
def walkFromDriverDir : List Action :=
  [.call (answers 3 true) containerEnv
      (.open_ (some (cstr "/proc/driver")) 0 0),
    .call (answers 4 true) containerEnv
      (.openat 3 (some (cstr "nvidia/gpus")) 0 0)]

end RunpodShim

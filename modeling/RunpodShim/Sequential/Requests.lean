import RunpodShim.Preload.OpenEffects
import RunpodShim.Sequential.Kernel

/-!
# Opening calls

What the opening wrappers have in common: the request that each makes of the
kernel and of the two tables, and what the tables hold after it succeeds.
-/

namespace RunpodShim

/-- What an opening call asks of the kernel and of the two tables. -/
structure OpenRequest where
  dirfd : Int
  path : Option CString
  /-- the flags, where the call may attach the meminfo text -/
  attaches : Option UInt32
  /-- the path that the call tracks its descriptor under, if it tracks it -/
  tracks : Option (Option CString)
  stream : Bool
deriving DecidableEq, Repr

def Call.openRequest (nodes : List RpsGpuFdNode) :
    Call → Option OpenRequest
  | .open_ path flags _ | .open64 path flags _ =>
      some ⟨atFdcwd, path, some flags, some path, false⟩
  | .openat dirfd path flags _ | .openat64 dirfd path flags _ =>
      let effective := gpuEffectiveOpenatPath nodes dirfd path rpsGpuPathMax
      some
        { dirfd := dirfd
          path := path
          attaches := if dirfd = atFdcwd then some flags else none
          tracks :=
            if pathIsAbsolute effective.2 ∨ dirfd = atFdcwd then
              some effective.2
            else none
          stream := false }
  | .opendir path | .opendir64 path =>
      some ⟨atFdcwd, path, none, some path, true⟩
  | _ => none

/-- The description that the kernel makes for an opening call, if it
succeeds. -/
def OpenRequest.file (request : OpenRequest) (kernel : Kernel)
    (answer : Answer) : Option OpenFile :=
  (kernel.lookup answer request.dirfd request.path).filter fun file =>
    !request.stream ||
      (file.directory && (kernel.streams answer.dir).isNone)

/-- An absolute path is tracked as it is given. -/
theorem tracks_of_absolute {nodes : List RpsGpuFdNode} {call : Call}
    {request : OpenRequest} {path : CString}
    (asked : call.openRequest nodes = some request)
    (given : request.path = some path)
    (absolute : path.head? = some slash) :
    request.tracks = some (some path) := by
  have isAbsolute : pathIsAbsolute (some path) = true := by
    simp [pathIsAbsolute, absolute]
  have passes (dirfd : Int) :
      gpuEffectiveOpenatPath nodes dirfd (some path) rpsGpuPathMax =
        (.passthrough, some path) :=
    gpuEffectiveOpenatPath_of_absolute isAbsolute nodes dirfd _
  cases call with
  | openat dirfd other flags mode =>
      cases asked
      cases given
      simp [passes, isAbsolute]
  | openat64 dirfd other flags mode =>
      cases asked
      cases given
      simp [passes, isAbsolute]
  | open_ other flags mode =>
      cases asked
      exact congrArg some given
  | open64 other flags mode =>
      cases asked
      exact congrArg some given
  | opendir other =>
      cases asked
      exact congrArg some given
  | opendir64 other =>
      cases asked
      exact congrArg some given
  | _ =>
      cases asked

/-- A classified path is tracked as it is given. -/
theorem tracks_of_classified {nodes : List RpsGpuFdNode} {call : Call}
    {request : OpenRequest} {record : RpsGpuFdRecord}
    (asked : call.openRequest nodes = some request)
    (classified : trackedRecord request.path = some record) :
    request.tracks = some request.path := by
  obtain ⟨bytes, given, absolute⟩ :=
    absolute_of_classified (trackedRecord_eq_some_iff.mp classified)
  rw [given]
  exact tracks_of_absolute asked given absolute

section File

variable {request : OpenRequest} {kernel : Kernel} {answer : Answer}
variable {file : OpenFile}

theorem OpenRequest.lookup_of_file
    (made : request.file kernel answer = some file) :
    kernel.lookup answer request.dirfd request.path = some file :=
  (Option.filter_eq_some_iff.mp made).1

theorem OpenRequest.file_of_lookup
    (found : kernel.lookup answer request.dirfd request.path = some file)
    (stream : request.stream = false) :
    request.file kernel answer = some file := by
  rw [OpenRequest.file, found, stream]
  rfl

theorem OpenRequest.file_of_directory
    (found : kernel.lookup answer request.dirfd request.path = some file)
    (directory : file.directory = true)
    (unused : kernel.streams answer.dir = none) :
    request.file kernel answer = some file := by
  rw [OpenRequest.file, found, Option.filter_some, if_pos]
  simp [directory, unused]

end File

/-- The text that an opening call attaches to its descriptor. -/
def OpenRequest.attachedText (request : OpenRequest) (shim : Shim)
    (env : Env) (fd : Int) (state : ShimState) : Option (List UInt8) :=
  request.attaches.bind fun flags =>
    RunpodShim.attachedText shim env fd request.path flags state

/-- The variables after a successful opening call. -/
def OpenRequest.record (request : OpenRequest) (shim : Shim) (env : Env)
    (fd : Int) (state : ShimState) : ShimState :=
  let attached :=
    match request.attaches with
    | some flags =>
        maybeAttachMeminfo shim env fd request.path flags state
    | none => state
  match request.tracks with
  | some path => gpuTraceAndTrackOpen shim env path fd attached
  | none => attached

section Record

variable {shim : Shim} {env : Env} {state : ShimState}

/-- A failed opening call leaves the variables as they were. -/
theorem OpenRequest.record_of_neg (request : OpenRequest) {fd : Int}
    (failed : fd < 0) :
    request.record shim env fd state = state := by
  have attachedSame :
      (match request.attaches with
        | some flags =>
            maybeAttachMeminfo shim env fd request.path flags state
        | none => state) = state := by
    cases request.attaches with
    | none =>
        rfl
    | some flags =>
        exact maybeAttachMeminfo_of_neg failed
  simp only [OpenRequest.record, attachedSame]
  cases request.tracks with
  | none =>
      rfl
  | some path =>
      exact gpuTraceAndTrackOpen_of_neg failed

/-- The variables after an `openat` that went on. -/
theorem OpenRequest.record_openat {tracks : Prop} [Decidable tracks]
    (dirfd : Int) (path effective : Option CString) (flags : UInt32)
    (fd : Int) :
    OpenRequest.record
        { dirfd := dirfd
          path := path
          attaches := if dirfd = atFdcwd then some flags else none
          tracks := if tracks then some effective else none
          stream := false }
        shim env fd state =
      let attached :=
        if dirfd = atFdcwd then
          maybeAttachMeminfo shim env fd path flags state
        else state
      if tracks then gpuTraceAndTrackOpen shim env effective fd attached
      else attached := by
  unfold OpenRequest.record
  by_cases here : dirfd = atFdcwd
  · by_cases tracked : tracks
    · simp only [if_pos here, if_pos tracked]
    · simp only [if_pos here, if_neg tracked]
  · by_cases tracked : tracks
    · simp only [if_neg here, if_pos tracked]
    · simp only [if_neg here, if_neg tracked]

variable {request : OpenRequest} {fd : Int}

theorem OpenRequest.nodes_record :
    (request.record shim env fd state).nodes =
      match request.tracks with
      | some path => (gpuTraceAndTrackOpen shim env path fd state).nodes
      | none => state.nodes := by
  unfold OpenRequest.record
  cases request.tracks with
  | none =>
      cases request.attaches with
      | none =>
          rfl
      | some flags =>
          exact nodes_maybeAttachMeminfo
  | some path =>
      cases request.attaches with
      | none =>
          rfl
      | some flags =>
          exact nodes_gpuTraceAndTrackOpen_congr nodes_maybeAttachMeminfo

theorem OpenRequest.entries_record :
    (request.record shim env fd state).entries =
      match request.attaches with
      | some flags =>
          (maybeAttachMeminfo shim env fd request.path flags state).entries
      | none => state.entries := by
  unfold OpenRequest.record
  cases request.tracks with
  | none =>
      cases request.attaches with
      | none =>
          rfl
      | some flags =>
          rfl
  | some path =>
      simp only [entries_gpuTraceAndTrackOpen]
      cases request.attaches with
      | none =>
          rfl
      | some flags =>
          rfl

theorem OpenRequest.depth_record :
    (request.record shim env fd state).depth = state.depth := by
  unfold OpenRequest.record
  cases request.tracks with
  | none =>
      cases request.attaches with
      | none =>
          rfl
      | some flags =>
          exact depth_maybeAttachMeminfo
  | some path =>
      simp only [depth_gpuTraceAndTrackOpen]
      cases request.attaches with
      | none =>
          rfl
      | some flags =>
          exact depth_maybeAttachMeminfo

/-- The meminfo table after an opening call. -/
theorem OpenRequest.fdMapStream_record (asked : Int) :
    fdMapStream asked (request.record shim env fd state).entries =
      match request.attachedText shim env fd state with
      | some text =>
          if asked = fd then some (text, 0)
          else fdMapStream asked state.entries
      | none => fdMapStream asked state.entries := by
  rw [OpenRequest.entries_record, OpenRequest.attachedText]
  cases request.attaches with
  | none =>
      rfl
  | some flags =>
      exact fdMapStream_maybeAttachMeminfo asked

theorem TableKept.record (kept : TableKept state.entries) :
    TableKept (request.record shim env fd state).entries := by
  rw [OpenRequest.entries_record]
  cases request.attaches with
  | none =>
      exact kept
  | some flags =>
      exact kept.maybeAttachMeminfo

theorem WellKept.record (kept : WellKept state.nodes) :
    WellKept (request.record shim env fd state).nodes := by
  rw [OpenRequest.nodes_record]
  cases request.tracks with
  | none =>
      exact kept
  | some path =>
      exact kept.gpuTraceAndTrackOpen

/-- A record that is found after an opening call is that of the path it
tracks, or was there before. -/
theorem OpenRequest.found_record (kept : WellKept state.nodes)
    {asked : Int} {record : RpsGpuFdRecord}
    (found :
      rpsGpuFdMapGet asked (request.record shim env fd state).nodes =
        some record) :
    (asked = fd ∧ ∃ path,
        request.tracks = some path ∧ trackedRecord path = some record) ∨
      rpsGpuFdMapGet asked state.nodes = some record := by
  rw [OpenRequest.nodes_record] at found
  cases tracks : request.tracks with
  | none =>
      rw [tracks] at found
      exact Or.inr found
  | some path =>
      rw [tracks] at found
      simp only at found
      by_cases valid : 0 ≤ fd
      · cases video : shim.config.gpuVideo with
        | false =>
            rw [gpuTraceAndTrackOpen_of_off video] at found
            exact Or.inr found
        | true =>
            rw [rpsGpuFdMapGet_gpuTraceAndTrackOpen video valid kept]
              at found
            split at found
            · rename_i here
              exact Or.inl ⟨here.1, path, rfl, found⟩
            · exact Or.inr found
      · rw [gpuTraceAndTrackOpen_of_neg (Int.not_le.mp valid)] at found
        exact Or.inr found

end Record

end RunpodShim

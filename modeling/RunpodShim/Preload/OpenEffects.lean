import RunpodShim.Preload.Wrappers

/-!
# What opening does to the tables

One lemma for each helper that the opening wrappers share: the decision to
refuse, the attachment of the meminfo text and the tracking of the path.  Then
what a read finds in the table.
-/

namespace RunpodShim

open LexicalPath

universe u

/-! ## Refusal -/

/-- Absolute paths are passed on whatever the tracker has. -/
theorem gpuEffectiveOpenatPath_of_absolute {path : Option CString}
    (absolute : pathIsAbsolute path = true)
    (nodes : List RpsGpuFdNode) (dirfd : Int) (bufferLen : Nat) :
    gpuEffectiveOpenatPath nodes dirfd path bufferLen =
      (.passthrough, path) := by
  rw [gpuEffectiveOpenatPath, pathIsRelative_of_pathIsAbsolute absolute]
  simp

theorem gpuEffectiveOpenatPath_of_untracked {nodes : List RpsGpuFdNode}
    {dirfd : Int} (missing : rpsGpuFdMapGet dirfd nodes = none)
    (path : Option CString) (bufferLen : Nat) :
    gpuEffectiveOpenatPath nodes dirfd path bufferLen =
      (.passthrough, path) := by
  rw [gpuEffectiveOpenatPath, missing]
  simp

/-- The refusal of a path, through its normal form. -/
theorem gpuProcDenied_iff {shim : Shim} {path : CString} :
    gpuProcDenied shim (some path) = true ↔
      shim.config.gpuVideo = true ∧ shim.ready = true ∧
        ∃ names,
          namesWithin rpsGpuProcPathMax path = some names ∧
            gpuPathDecision (some shim.allowed) (gpuPathOf names) =
              .deny := by
  simp only [gpuProcDenied, rpsGpuVideoEnabled, Bool.and_eq_true,
    beq_iff_eq, rpsGpuProcPathAllowed_eq, and_assoc]
  constructor
  · rintro ⟨video, ready, _, decided⟩
    refine ⟨video, ready, ?_⟩
    cases normal : namesWithin rpsGpuProcPathMax path with
    | none =>
        rw [normal] at decided
        cases decided
    | some names =>
        rw [normal] at decided
        exact ⟨names, rfl, decided⟩
  · rintro ⟨video, ready, names, normal, decided⟩
    have absolute := (namesWithin_eq_some_iff.mp normal).1
    refine ⟨video, ready, ?_, ?_⟩
    · simp [pathIsAbsolute, absolute]
    · rw [normal]
      exact decided

theorem gpuProcDenied_of_notReady {shim : Shim}
    (notReady : shim.ready = false) (path : Option CString) :
    gpuProcDenied shim path = false := by
  simp [gpuProcDenied, notReady]

/-- `/proc/meminfo` is never refused. -/
theorem gpuProcDenied_meminfoPath (shim : Shim) :
    gpuProcDenied shim (some meminfoPath) = false := by
  have normal :
      namesWithin rpsGpuProcPathMax meminfoPath =
        some [cstr "proc", cstr "meminfo"] := by
    decide
  have outside : gpuPathOf [cstr "proc", cstr "meminfo"] = .outside := by
    decide
  rw [← Bool.not_eq_true, gpuProcDenied_iff]
  rintro ⟨_, _, names, found, decided⟩
  rw [normal] at found
  rw [← Option.some.inj found, outside] at decided
  cases decided

/-! ## Attachment -/

theorem path_of_shouldVirtualizeMeminfo {cfg : RpsConfig}
    {path : Option CString} {flags : UInt32}
    (wanted : shouldVirtualizeMeminfo cfg path flags = true) :
    path = some meminfoPath := by
  unfold shouldVirtualizeMeminfo at wanted
  split at wanted
  · cases wanted
  · rename_i same
    exact Decidable.not_not.mp same

/-- The text that an open attaches to its descriptor, if it attaches one. -/
def attachedText (shim : Shim) (env : Env) (fd : Int)
    (path : Option CString) (flags : UInt32) (state : ShimState) :
    Option (List UInt8) :=
  if fd < 0 ∨ ¬ shouldVirtualizeMeminfo shim.config path flags ∨
      state.depth ≠ 0 then
    none
  else
    env.meminfo.filter fun text =>
      (rpsFdMapPut env.contentMalloc fd (some text) text.length
        state.entries).1

section Attachment

variable {shim : Shim} {env : Env} {fd : Int} {path : Option CString}
variable {flags : UInt32} {state : ShimState}

theorem attachedText_eq_some_iff {text : List UInt8} :
    attachedText shim env fd path flags state = some text ↔
      0 ≤ fd ∧ shouldVirtualizeMeminfo shim.config path flags = true ∧
        state.depth = 0 ∧ env.meminfo = some text ∧
        (rpsFdMapPut env.contentMalloc fd (some text) text.length
          state.entries).1 = true := by
  unfold attachedText
  split
  · rename_i refused
    constructor
    · intro found
      cases found
    · rintro ⟨valid, wanted, free, _⟩
      rcases refused with negative | unwanted | held
      · omega
      · exact absurd wanted unwanted
      · exact absurd free held
  · rename_i met
    have valid : 0 ≤ fd := by omega
    have wanted : shouldVirtualizeMeminfo shim.config path flags = true := by
      simpa using fun unwanted => met (Or.inr (Or.inl unwanted))
    have free : state.depth = 0 := by
      simpa using fun held => met (Or.inr (Or.inr held))
    simp [valid, wanted, free]

theorem maybeAttachMeminfo_eq :
    maybeAttachMeminfo shim env fd path flags state =
      { state with
        entries :=
          (maybeAttachMeminfo shim env fd path flags state).entries } := by
  unfold maybeAttachMeminfo
  split
  · rfl
  · cases entered : rpsGuardEnter state.depth with
    | none =>
        rfl
    | some inside =>
        simp only [rpsGuardLeave_of_rpsGuardEnter entered]

@[simp]
theorem nodes_maybeAttachMeminfo :
    (maybeAttachMeminfo shim env fd path flags state).nodes =
      state.nodes := by
  rw [maybeAttachMeminfo_eq]

@[simp]
theorem depth_maybeAttachMeminfo :
    (maybeAttachMeminfo shim env fd path flags state).depth =
      state.depth := by
  rw [maybeAttachMeminfo_eq]

/-- A failed open attaches nothing. -/
theorem maybeAttachMeminfo_of_neg (failed : fd < 0) :
    maybeAttachMeminfo shim env fd path flags state = state := by
  rw [maybeAttachMeminfo, if_pos (Or.inl failed)]

/-- The attached text is what the descriptor's reads will give. -/
theorem fdMapStream_maybeAttachMeminfo (asked : Int) :
    fdMapStream asked
        (maybeAttachMeminfo shim env fd path flags state).entries =
      match attachedText shim env fd path flags state with
      | some text =>
          if asked = fd then some (text, 0)
          else fdMapStream asked state.entries
      | none => fdMapStream asked state.entries := by
  unfold maybeAttachMeminfo
  cases attached : attachedText shim env fd path flags state with
  | some text =>
      obtain ⟨valid, wanted, free, built, stored⟩ :=
        attachedText_eq_some_iff.mp attached
      have goesOn :
          ¬ (fd < 0 ∨
            ¬ shouldVirtualizeMeminfo shim.config path flags = true) := by
        simp only [wanted, not_true_eq_false, or_false]
        omega
      rw [if_neg goesOn, free]
      simp only [rpsGuardEnter, ne_eq, not_true_eq_false, if_false, built]
      rw [fdMapStream_put]
      simp [stored]
  | none =>
      split
      · rfl
      · rename_i goesOn
        cases entered : rpsGuardEnter state.depth with
        | none =>
            rfl
        | some inside =>
            have free := (rpsGuardEnter_eq_some_iff.mp entered).1
            cases built : env.meminfo with
            | none =>
                rfl
            | some text =>
                have notStored :
                    ¬ (rpsFdMapPut env.contentMalloc fd (some text)
                      text.length state.entries).1 = true := by
                  intro stored
                  have wanted :
                      shouldVirtualizeMeminfo shim.config path flags =
                        true := by
                    simpa using fun unwanted => goesOn (Or.inr unwanted)
                  have found :=
                    attachedText_eq_some_iff.mpr
                      ⟨by omega, wanted, free, built, stored⟩
                  rw [attached] at found
                  cases found
                simp only
                rw [fdMapStream_put]
                simp [notStored]

theorem TableKept.maybeAttachMeminfo (kept : TableKept state.entries) :
    TableKept (maybeAttachMeminfo shim env fd path flags state).entries := by
  unfold RunpodShim.maybeAttachMeminfo
  split
  · exact kept
  · cases rpsGuardEnter state.depth with
    | none =>
        exact kept
    | some inside =>
        cases env.meminfo with
        | none =>
            exact kept
        | some text =>
            exact kept.put _ _ _ _

end Attachment

/-! ## Tracking -/

/-- The record that an open of a path leaves in the tracker. -/
def trackedRecord (path : Option CString) : Option RpsGpuFdRecord :=
  if (rpsGpuClassifyPath path).1 then some (rpsGpuClassifyPath path).2
  else none

theorem trackedRecord_eq_some_iff {path : Option CString}
    {record : RpsGpuFdRecord} :
    trackedRecord path = some record ↔
      rpsGpuClassifyPath path = (true, record) := by
  rw [trackedRecord, Prod.ext_iff]
  by_cases classified : (rpsGpuClassifyPath path).1 = true
  · simp [classified]
  · simp [classified]

section Tracking

variable {shim : Shim} {env : Env} {fd : Int} {path : Option CString}
variable {state : ShimState}

theorem gpuTraceAndTrackOpen_eq :
    gpuTraceAndTrackOpen shim env path fd state =
      { state with
        nodes := (gpuTraceAndTrackOpen shim env path fd state).nodes } := by
  unfold gpuTraceAndTrackOpen
  split
  · rfl
  · rcases rpsGpuClassifyPath path with ⟨classified, record⟩
    cases classified with
    | false =>
        simp only
        split <;> rfl
    | true =>
        simp only
        split <;> rfl

@[simp]
theorem entries_gpuTraceAndTrackOpen :
    (gpuTraceAndTrackOpen shim env path fd state).entries =
      state.entries := by
  rw [gpuTraceAndTrackOpen_eq]

@[simp]
theorem depth_gpuTraceAndTrackOpen :
    (gpuTraceAndTrackOpen shim env path fd state).depth = state.depth := by
  rw [gpuTraceAndTrackOpen_eq]

/-- A failed open tracks nothing. -/
theorem gpuTraceAndTrackOpen_of_neg (failed : fd < 0) :
    gpuTraceAndTrackOpen shim env path fd state = state := by
  have notOpen : ¬ fd ≥ 0 := by omega
  unfold gpuTraceAndTrackOpen
  split
  · rfl
  · rcases rpsGpuClassifyPath path with ⟨classified, record⟩
    cases classified with
    | false =>
        rfl
    | true =>
        rfl

/-- Tracking reads nothing of the state but the tracker. -/
theorem nodes_gpuTraceAndTrackOpen_congr {other : ShimState}
    (same : state.nodes = other.nodes) :
    (gpuTraceAndTrackOpen shim env path fd state).nodes =
      (gpuTraceAndTrackOpen shim env path fd other).nodes := by
  unfold gpuTraceAndTrackOpen
  split
  · exact same
  · rcases rpsGpuClassifyPath path with ⟨classified, record⟩
    cases classified with
    | false =>
        simp only
        split
        · simp only [same]
        · exact same
    | true =>
        simp only
        split
        · simp only [same]
        · exact same

theorem WellKept.gpuTraceAndTrackOpen (kept : WellKept state.nodes) :
    WellKept (gpuTraceAndTrackOpen shim env path fd state).nodes := by
  unfold RunpodShim.gpuTraceAndTrackOpen
  split
  · exact kept
  · rcases rpsGpuClassifyPath path with ⟨classified, record⟩
    cases classified with
    | false =>
        simp only
        split
        · exact kept.remove fd
        · exact kept
    | true =>
        simp only
        split
        · exact kept.set _ fd record
        · exact kept

/-- With the module on, an open leaves its descriptor the record of its path,
or none; without memory for a node, what was there of a classified one. -/
theorem rpsGpuFdMapGet_gpuTraceAndTrackOpen
    (video : shim.config.gpuVideo = true) (valid : 0 ≤ fd)
    (kept : WellKept state.nodes) (asked : Int) :
    rpsGpuFdMapGet asked
        (gpuTraceAndTrackOpen shim env path fd state).nodes =
      if asked = fd ∧
          (trackedRecord path = none ∨ env.nodeMalloc = true ∨
            (rpsGpuFdMapGet fd state.nodes).isSome) then
        trackedRecord path
      else rpsGpuFdMapGet asked state.nodes := by
  have enabled : ¬ ¬ rpsGpuVideoEnabled shim.config = true :=
    not_not_intro video
  have opened : fd ≥ 0 := valid
  rw [gpuTraceAndTrackOpen, if_neg enabled, trackedRecord]
  rcases rpsGpuClassifyPath path with ⟨classified, record⟩
  cases classified with
  | false =>
      simp only [opened, if_true]
      rw [rpsGpuFdMapGet_remove kept]
      simp
  | true =>
      simp only [opened, if_true]
      rw [rpsGpuFdMapGet_set _ valid]
      simp

/-- With the module off nothing is tracked. -/
theorem gpuTraceAndTrackOpen_of_off (off : shim.config.gpuVideo = false) :
    gpuTraceAndTrackOpen shim env path fd state = state := by
  rw [gpuTraceAndTrackOpen, if_pos]
  simp [rpsGpuVideoEnabled, off]

end Tracking

/-! ## The common bodies -/

section Bodies

variable {World : Type u} {shim : Shim} (real : Real World) (env : Env)
variable {path effective : Option CString} {dirfd : Int}
variable {result : RpsGpuEffectivePathResult} {state : ShimState}
variable {world : World}

theorem openCommon_of_refused (denies : gpuProcDenied shim path = true)
    (flags : UInt32) (mode : Option UInt32) (large : Bool) :
    openCommon shim real env path flags mode large ⟨state, world⟩ =
      (denied, ⟨state, world⟩) := by
  rw [openCommon, if_pos denies]

theorem openatCommon_of_refused
    (found :
      gpuEffectiveOpenatPath state.nodes dirfd path rpsGpuPathMax =
        (result, effective))
    (refused : result = .deny ∨ gpuProcDenied shim effective = true)
    (flags : UInt32) (mode : Option UInt32) (large : Bool) :
    openatCommon shim real env dirfd path flags mode large ⟨state, world⟩ =
      (denied, ⟨state, world⟩) := by
  rw [openatCommon, found]
  cases result with
  | deny =>
      rfl
  | passthrough =>
      have denies : gpuProcDenied shim effective = true := by
        simpa using refused
      simp only [denies, if_true]
  | resolved =>
      have denies : gpuProcDenied shim effective = true := by
        simpa using refused
      simp only [denies, if_true]

/-- What `openat` does when it goes on. -/
theorem openatCommon_of_allowed
    (found :
      gpuEffectiveOpenatPath state.nodes dirfd path rpsGpuPathMax =
        (result, effective))
    (goesOn : result ≠ .deny)
    (allows : gpuProcDenied shim effective = false)
    (flags : UInt32) (mode : Option UInt32) (large : Bool) :
    openatCommon shim real env dirfd path flags mode large ⟨state, world⟩ =
      let called :=
        openatReal real large dirfd path flags mode world
      let attached :=
        if dirfd = atFdcwd then
          maybeAttachMeminfo shim env called.1.value path flags
            state
        else state
      let tracked :=
        if pathIsAbsolute effective ∨ dirfd = atFdcwd then
          gpuTraceAndTrackOpen shim env effective called.1.value attached
        else attached
      (called.1, ⟨tracked, called.2⟩) := by
  have notDenied : ¬ gpuProcDenied shim effective = true := by
    simp [allows]
  rw [openatCommon, found]
  cases result with
  | deny =>
      exact absurd rfl goesOn
  | passthrough =>
      exact if_neg notDenied
  | resolved =>
      exact if_neg notDenied

theorem fstatatCommon_of_refused
    (found :
      gpuEffectiveOpenatPath state.nodes dirfd path rpsGpuPathMax =
        (result, effective))
    (refused : result = .deny ∨ gpuProcDenied shim effective = true)
    (flags : UInt32) :
    Preload.fstatatCommon shim real dirfd path flags ⟨state, world⟩ =
      (⟨denied, []⟩, ⟨state, world⟩) := by
  rw [Preload.fstatatCommon, found]
  cases result with
  | deny =>
      rfl
  | passthrough =>
      have denies : gpuProcDenied shim effective = true := by
        simpa using refused
      simp only [denies, if_true]
  | resolved =>
      have denies : gpuProcDenied shim effective = true := by
        simpa using refused
      simp only [denies, if_true]

theorem fstatatCommon_of_allowed
    (found :
      gpuEffectiveOpenatPath state.nodes dirfd path rpsGpuPathMax =
        (result, effective))
    (goesOn : result ≠ .deny)
    (allows : gpuProcDenied shim effective = false) (flags : UInt32) :
    Preload.fstatatCommon shim real dirfd path flags ⟨state, world⟩ =
      ((real.sysNewfstatat dirfd path flags world).1,
        ⟨state, (real.sysNewfstatat dirfd path flags world).2⟩) := by
  have notDenied : ¬ gpuProcDenied shim effective = true := by
    simp [allows]
  rw [Preload.fstatatCommon, found]
  cases result with
  | deny =>
      exact absurd rfl goesOn
  | passthrough =>
      exact if_neg notDenied
  | resolved =>
      exact if_neg notDenied

theorem opendirCommon_of_refused (denies : gpuProcDenied shim path = true)
    (large : Bool) :
    Preload.opendirCommon shim real env path large ⟨state, world⟩ =
      (⟨none, enoent⟩, ⟨state, world⟩) := by
  rw [Preload.opendirCommon, if_pos denies]

end Bodies

/-! ## Reading -/

section Reading

variable {state : ShimState} {fd : Int}

/-- An entry answers a read, whatever the real function would do. -/
theorem read_of_stream (free : state.depth = 0) {text : List UInt8}
    {consumed : Nat}
    (present : fdMapStream fd state.entries = some (text, consumed))
    {World : Type} (real : Real World) (world : World) {buffer : Bool}
    {count : Nat} (usable : buffer = true ∨ count = 0) :
    let bytes := (text.drop consumed).take count
    let read := Preload.read real fd buffer count ⟨state, world⟩
    read.1 = ⟨⟨bytes.length, 0⟩, bytes⟩ ∧ read.2.world = world := by
  have entered : rpsGuardEnter state.depth = some 1 :=
    rpsGuardEnter_eq_some_iff.mpr ⟨free, rfl⟩
  have taken := rpsFdMapTakeRead_fst usable fd state.entries
  rw [present, Option.map_some] at taken
  simp [Preload.read, entered, taken]

/-- Without an entry the real function reads. -/
theorem read_of_no_stream
    (missing : fdMapStream fd state.entries = none) {World : Type}
    (real : Real World) (world : World) (buffer : Bool) (count : Nat) :
    (Preload.read real fd buffer count ⟨state, world⟩).1 =
        (real.read fd buffer count world).1 ∧
      (Preload.read real fd buffer count ⟨state, world⟩).2.world =
        (real.read fd buffer count world).2 := by
  have taken :
      (rpsFdMapTakeRead buffer fd count state.entries).1 = none := by
    by_cases usable : buffer = true ∨ count = 0
    · rw [rpsFdMapTakeRead_fst usable, missing, Option.map_none]
    · rw [rpsFdMapTakeRead_of_unusable usable]
  cases entered : rpsGuardEnter state.depth with
  | none =>
      simp [Preload.read, entered]
  | some inside =>
      simp [Preload.read, entered, taken]

end Reading

end RunpodShim

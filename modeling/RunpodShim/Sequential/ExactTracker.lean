import RunpodShim.Sequential.Truthful

/-!
# An exact tracker

`Truthful` says that every record is true.  This module says when the tracker
also misses nothing: a record for every open descriptor whose description was
opened with a path of the driver, however the descriptor came by it.
-/

namespace RunpodShim

open LexicalPath StepRuns

/-- How the description of a descriptor came about, if it is open. -/
def openingAt (kernel : Kernel) (log : Nat → Option Opening) (fd : Int) :
    Option Opening :=
  (kernel.descriptors fd).bind fun file => log file.id

/-- The record that a description opened in this way should have. -/
def Opening.tracked (opening : Opening) : Option RpsGpuFdRecord :=
  trackedRecord opening.path

/-- The tracker has for every number the record of its description, and
nothing for a number that is not open or names something else. -/
def ExactTracker (state : ShimState) (kernel : Kernel)
    (log : Nat → Option Opening) : Prop :=
  ∀ fd,
    rpsGpuFdMapGet fd state.nodes =
      (openingAt kernel log fd).bind Opening.tracked

/-- A call loses no record: there is memory for a node where it has to make
one, and it does not leave a tracked descriptor open that it was to close. -/
structure Call.KeepsRecords (shim : Shim) (state : ShimState)
    (kernel : Kernel) (answer : Answer) (env : Env) (call : Call) :
    Prop where
  opens : ∀ request, call.openRequest state.nodes = some request →
    ¬ call.Refused shim state → request.file kernel answer ≠ none →
      (request.opening shim state.nodes).tracked ≠ none →
        env.nodeMalloc = true
  duplicates : ∀ oldfd, call.duplicates = some oldfd →
    kernel.descriptors oldfd ≠ none → kernel.freeFd answer ≠ none →
      rpsGpuFdMapGet oldfd state.nodes ≠ none → env.nodeMalloc = true
  replaces : ∀ oldfd newfd, call.replaces = some (oldfd, newfd) →
    kernel.replaces answer oldfd newfd = true →
      rpsGpuFdMapGet oldfd state.nodes ≠ none →
        rpsGpuFdMapGet newfd state.nodes = none → env.nodeMalloc = true
  closes : ∀ fd, call = .close fd →
    rpsGpuFdMapGet fd state.nodes ≠ none →
      kernel.closes answer fd = true

def KeepsRecords (shim : Shim) (state : ShimState) (kernel : Kernel) :
    Action → Prop
  | .call answer env call => call.KeepsRecords shim state kernel answer env
  | .closeBehind _ => True

/-! ## The record of an opening -/

section Openings

variable {shim : Shim} {state : ShimState} {call : Call}
variable {request : OpenRequest}

/-- Where the resolution does not refuse, the effective path and the path
that is logged leave the same record. -/
theorem trackedRecord_openedPath {nodes : List RpsGpuFdNode}
    (sound : Classified nodes) {dirfd : Int} {path : Option CString}
    (goesOn :
      (gpuEffectiveOpenatPath nodes dirfd path rpsGpuPathMax).1 ≠ .deny) :
    trackedRecord (openedPath nodes dirfd path) =
      trackedRecord
        (gpuEffectiveOpenatPath nodes dirfd path rpsGpuPathMax).2 := by
  unfold openedPath
  cases relative : pathIsRelative path with
  | false =>
      rw [gpuEffectiveOpenatPath, relative]
      rfl
  | true =>
      rw [if_pos rfl]
      cases path with
      | none =>
          cases relative
      | some bytes =>
          cases found : rpsGpuFdMapGet dirfd nodes with
          | none =>
              rw [gpuEffectiveOpenatPath_of_untracked found]
          | some directory =>
              simp only
              by_cases kind :
                  directory.kind = .procGpusDir ∨
                    directory.kind = .procGpuBusDir
              · obtain ⟨given, made⟩ :=
                  sound.classified dirfd directory found
                obtain ⟨_, base, _, _, tracked⟩ :=
                  trackedDirectory_of_classified made kind
                rw [gpuEffectiveOpenatPath_of_trackedDirectory found
                  tracked relative rpsGpuPathMax_pos] at goesOn ⊢
                rw [if_pos kind, Option.map_some]
                cases below : namesBelow rpsGpuPathMax base bytes with
                | none =>
                    rw [below] at goesOn
                    exact absurd rfl goesOn
                | some names =>
                    have either :=
                      rpsGpuClassifyPath_relative tracked below
                    apply Option.ext
                    intro record
                    rw [trackedRecord_eq_some_iff,
                      trackedRecord_eq_some_iff, either _ (Or.inl rfl),
                      either _ (Or.inr rfl)]
                    exact
                      ⟨placeRecord_blankRecord, placeRecord_blankRecord⟩
              · have neither := not_or.mp kind
                have room : (rpsGpuPathMax == 0) = false := by
                  decide
                rw [if_neg kind, gpuEffectiveOpenatPath, relative, room]
                simp [found, neither]

/-- A path that is not absolute leaves no record. -/
theorem trackedRecord_of_not_absolute {path : Option CString}
    (relative : ¬ pathIsAbsolute path = true) :
    trackedRecord path = none := by
  cases tracked : trackedRecord path with
  | none =>
      rfl
  | some record =>
      obtain ⟨bytes, given, absolute⟩ :=
        absolute_of_classified (trackedRecord_eq_some_iff.mp tracked)
      rw [given] at relative
      exact absurd (by simp [pathIsAbsolute, absolute]) relative

/-- The record that an opening call leaves is the one that its opening should
have. -/
theorem OpenRequest.bind_tracks (sound : Classified state.nodes)
    (asked : call.openRequest state.nodes = some request)
    (goesOn : ¬ call.Refused shim state) :
    request.tracks.bind trackedRecord =
      (request.opening shim state.nodes).tracked := by
  have throughDirfd (dirfd : Int) (given : Option CString)
      (allowed :
        (gpuEffectiveOpenatPath state.nodes dirfd given
          rpsGpuPathMax).1 ≠ .deny) :
      (if pathIsAbsolute
            (gpuEffectiveOpenatPath state.nodes dirfd given
              rpsGpuPathMax).2 ∨ dirfd = atFdcwd then
          some
            (gpuEffectiveOpenatPath state.nodes dirfd given
              rpsGpuPathMax).2
        else none).bind trackedRecord =
        trackedRecord (openedPath state.nodes dirfd given) := by
    rw [trackedRecord_openedPath sound allowed]
    split
    · rfl
    · rename_i neither
      have relative := (not_or.mp neither).1
      rw [trackedRecord_of_not_absolute relative]
      rfl
  have here (given : Option CString) :
      trackedRecord given =
        trackedRecord (openedPath state.nodes atFdcwd given) := by
    rw [openedPath_workingDirectory]
  cases call with
  | open_ given flags mode =>
      cases asked
      exact here given
  | open64 given flags mode =>
      cases asked
      exact here given
  | openat dirfd given flags mode =>
      have allowed := (Call.allows_of_not_refused goesOn rfl).1
      cases asked
      exact throughDirfd dirfd given allowed
  | openat64 dirfd given flags mode =>
      have allowed := (Call.allows_of_not_refused goesOn rfl).1
      cases asked
      exact throughDirfd dirfd given allowed
  | opendir given =>
      cases asked
      exact here given
  | opendir64 given =>
      cases asked
      exact here given
  | _ =>
      cases asked

end Openings

/-! ## What a call has to keep -/

section Demands

variable {shim : Shim} {state : ShimState} {kernel : Kernel}
variable {answer : Answer} {env : Env} {call : Call}

theorem Call.Quiet.keepsRecords
    (quiet : call.Quiet shim state kernel answer) :
    call.KeepsRecords shim state kernel answer env where
  opens := by
    intro request asked goesOn made _
    exact absurd (quiet.opens request asked goesOn) made
  duplicates := by
    intro oldfd asked named free _
    rcases quiet.duplicates oldfd asked with closed | none
    · exact absurd closed named
    · exact absurd none free
  replaces := by
    intro oldfd newfd asked succeeds _ _
    rw [quiet.replaces oldfd newfd asked] at succeeds
    cases succeeds
  closes := by
    intro fd isClose
    exact absurd isClose (quiet.closes fd)

/-- Where there is memory, only a close can lose a record. -/
theorem Call.keepsRecords_of_memory (memory : env.nodeMalloc = true)
    (noClose : ∀ fd, call ≠ .close fd) :
    call.KeepsRecords shim state kernel answer env where
  opens := fun _ _ _ _ _ => memory
  duplicates := fun _ _ _ _ _ => memory
  replaces := fun _ _ _ _ _ _ => memory
  closes := fun fd isClose => absurd isClose (noClose fd)

/-- Of an opening call that succeeds only memory for its record is wanted. -/
theorem Call.keepsRecords_opening_iff {request : OpenRequest}
    (asked : call.openRequest state.nodes = some request)
    (goesOn : ¬ call.Refused shim state)
    (made : request.file kernel answer ≠ none) :
    call.KeepsRecords shim state kernel answer env ↔
      ((request.opening shim state.nodes).tracked ≠ none →
        env.nodeMalloc = true) := by
  constructor
  · intro keeps
    exact keeps.opens request asked goesOn made
  · intro memory
    constructor
    · intro other same _ _ wanted
      rw [asked] at same
      cases same
      exact memory wanted
    · intro oldfd duplicates
      rw [Call.duplicates_of_openRequest asked] at duplicates
      cases duplicates
    · intro oldfd newfd replaces
      rw [Call.replaces_of_openRequest asked] at replaces
      cases replaces
    · intro fd isClose
      rw [isClose] at asked
      cases asked

/-- Of a call that duplicates onto a free number only memory for the
duplicate is wanted. -/
theorem Call.keepsRecords_duplicates_iff {oldfd : Int}
    (asked : call.duplicates = some oldfd)
    (named : kernel.descriptors oldfd ≠ none)
    (free : kernel.freeFd answer ≠ none) :
    call.KeepsRecords shim state kernel answer env ↔
      (rpsGpuFdMapGet oldfd state.nodes ≠ none →
        env.nodeMalloc = true) := by
  constructor
  · intro keeps
    exact keeps.duplicates oldfd asked named free
  · intro memory
    constructor
    · intro request same
      rw [Call.openRequest_of_duplicates asked] at same
      cases same
    · intro other same _ _ wanted
      rw [asked] at same
      cases same
      exact memory wanted
    · intro first second replaces
      rw [Call.replaces_of_duplicates asked] at replaces
      cases replaces
    · intro fd isClose
      rw [isClose] at asked
      cases asked

/-- Of a call that replaces a descriptor memory is wanted where it has no
node to write over. -/
theorem Call.keepsRecords_replaces_iff {oldfd newfd : Int}
    (asked : call.replaces = some (oldfd, newfd))
    (succeeds : kernel.replaces answer oldfd newfd = true) :
    call.KeepsRecords shim state kernel answer env ↔
      (rpsGpuFdMapGet oldfd state.nodes ≠ none →
        rpsGpuFdMapGet newfd state.nodes = none →
          env.nodeMalloc = true) := by
  constructor
  · intro keeps
    exact keeps.replaces oldfd newfd asked succeeds
  · intro memory
    constructor
    · intro request same
      rw [Call.openRequest_of_replaces asked] at same
      cases same
    · intro other same
      rw [Call.duplicates_of_replaces asked] at same
      cases same
    · intro first second same _
      rw [asked] at same
      cases same
      exact memory
    · intro fd isClose
      rw [isClose] at asked
      cases asked

/-- A close that frees the number is all that is wanted of it. -/
theorem Call.keepsRecords_close_iff {fd : Int} :
    (Call.close fd).KeepsRecords shim state kernel answer env ↔
      (rpsGpuFdMapGet fd state.nodes ≠ none →
        kernel.closes answer fd = true) := by
  constructor
  · intro keeps
    exact keeps.closes fd rfl
  · intro succeeds
    refine ⟨nofun, nofun, nofun, ?_⟩
    intro other same
    cases same
    exact succeeds

/-- Nothing is wanted of a call that opens, duplicates and closes nothing. -/
theorem Call.keepsRecords_of_none
    (noOpen : call.openRequest state.nodes = none)
    (noCopy : call.duplicates = none) (noReplace : call.replaces = none)
    (noClose : ∀ fd, call ≠ .close fd) :
    call.KeepsRecords shim state kernel answer env where
  opens := by
    intro request asked
    rw [noOpen] at asked
    cases asked
  duplicates := by
    intro oldfd asked
    rw [noCopy] at asked
    cases asked
  replaces := by
    intro oldfd newfd asked
    rw [noReplace] at asked
    cases asked
  closes := by
    intro fd isClose
    exact absurd isClose (noClose fd)

end Demands

/-! ## One step -/

section Step

variable {shim : Shim} {state after : ShimState} {kernel later : Kernel}
variable {action : Action} {log newLog : Nat → Option Opening}
variable {file : OpenFile} {fd : Int}

theorem openingAt_install (sound : kernel.Sound)
    (fresh : file.id = kernel.nextId) (opening : Opening) (asked : Int) :
    openingAt (kernel.install file)
        (Function.update log kernel.nextId (some opening)) asked =
      if asked = file.first then some opening
      else openingAt kernel log asked := by
  rw [openingAt, Kernel.descriptors_install]
  by_cases here : asked = file.first
  · rw [if_pos here, if_pos here, Option.bind_some, fresh,
      Function.update_self]
  · rw [if_neg here, if_neg here, openingAt]
    cases opened : kernel.descriptors asked with
    | none =>
        rfl
    | some old =>
        have earlier : old.id ≠ kernel.nextId :=
          Nat.ne_of_lt (sound.used asked old opened)
        rw [Option.bind_some, Option.bind_some,
          Function.update_of_ne earlier]

/-- A duplicate came about as what it duplicates did. -/
theorem openingAt_assign {oldfd newfd : Int}
    (named : kernel.descriptors oldfd = some file) (asked : Int) :
    openingAt (kernel.assign newfd file) log asked =
      if asked = newfd then openingAt kernel log oldfd
      else openingAt kernel log asked := by
  simp only [openingAt, Kernel.descriptors_assign, named]
  split <;> rfl

theorem openingAt_release (asked : Int) :
    openingAt (kernel.release fd) log asked =
      if asked = fd then none else openingAt kernel log asked := by
  simp only [openingAt, Kernel.descriptors_release]
  split <;> rfl

theorem openingAt_of_closed (closed : kernel.descriptors fd = none) :
    openingAt kernel log fd = none := by
  rw [openingAt, closed, Option.bind_none]

/-- Nothing is tracked under a number that is not open. -/
theorem ExactTracker.untracked_of_closed
    (exact_ : ExactTracker state kernel log)
    (closed : kernel.descriptors fd = none) :
    rpsGpuFdMapGet fd state.nodes = none := by
  rw [exact_ fd, openingAt_of_closed closed, Option.bind_none]

/-- A change at one number keeps the tracker exact if it does at that
number. -/
theorem ExactTracker.iff_at (exact_ : ExactTracker state kernel log)
    (fd : Int)
    (nodes : ∀ asked, asked ≠ fd →
      rpsGpuFdMapGet asked after.nodes = rpsGpuFdMapGet asked state.nodes)
    (openings : ∀ asked, asked ≠ fd →
      openingAt later newLog asked = openingAt kernel log asked) :
    ExactTracker after later newLog ↔
      rpsGpuFdMapGet fd after.nodes =
        (openingAt later newLog fd).bind Opening.tracked := by
  constructor
  · intro kept
    exact kept fd
  · intro here asked
    by_cases same : asked = fd
    · rw [same]
      exact here
    · rw [nodes asked same, openings asked same]
      exact exact_ asked

/-- A step that changes neither side keeps the tracker exact. -/
theorem ExactTracker.of_same (exact_ : ExactTracker state kernel log)
    (nodes : after.nodes = state.nodes)
    (descriptors : later.descriptors = kernel.descriptors) :
    ExactTracker after later log := by
  intro fd
  rw [nodes, openingAt, descriptors]
  exact exact_ fd

/-- What is to be had only on a condition is had if the condition holds where
there is anything to have. -/
theorem ite_none_eq_iff {wanted : Option RpsGpuFdRecord}
    {given : Prop} [Decidable given] :
    (if given then wanted else none) = wanted ↔
      (wanted ≠ none → given) := by
  by_cases holds : given
  · simp [holds]
  · cases wanted with
    | none =>
        simp
    | some record =>
        simp [holds]

/-- The tracker after an opening call that got an unused number. -/
theorem OpenRequest.rpsGpuFdMapGet_record (request : OpenRequest)
    (env : Env) (video : shim.config.gpuVideo = true) (valid : 0 ≤ fd)
    (kept : WellKept state.nodes)
    (unused : rpsGpuFdMapGet fd state.nodes = none) (asked : Int) :
    rpsGpuFdMapGet asked (request.record shim env fd state).nodes =
      if asked = fd then
        if env.nodeMalloc = true then request.tracks.bind trackedRecord
        else none
      else rpsGpuFdMapGet asked state.nodes := by
  rw [OpenRequest.nodes_record]
  cases tracks : request.tracks with
  | none =>
      by_cases here : asked = fd
      · simp [here, unused]
      · simp [here]
  | some path =>
      simp only [rpsGpuFdMapGet_gpuTraceAndTrackOpen video valid kept,
        unused, Option.isSome_none, Bool.false_eq_true, or_false,
        Option.bind_some]
      by_cases here : asked = fd
      · cases tracked : trackedRecord path with
        | none =>
            simp [here]
        | some record =>
            by_cases memory : env.nodeMalloc = true
            · simp [here, memory]
            · simp [here, memory, unused]
      · simp [here]

/-- A successful opening call keeps the tracker exact if and only if it has
memory for the record of what it opens. -/
theorem ExactTracker.record_iff (exact_ : ExactTracker state kernel log)
    (video : shim.config.gpuVideo = true) (kept : WellKept state.nodes)
    (classified : Classified state.nodes) (sound : kernel.Sound)
    {answer : Answer} {env : Env} {call : Call} {request : OpenRequest}
    (asked : call.openRequest state.nodes = some request)
    (goesOn : ¬ call.Refused shim state)
    (found :
      kernel.lookup answer request.dirfd request.path = some file) :
    ExactTracker (request.record shim env file.first state)
        (kernel.install file)
        (Function.update log kernel.nextId
          (some (request.opening shim state.nodes))) ↔
      ((request.opening shim state.nodes).tracked ≠ none →
        env.nodeMalloc = true) := by
  have unused :=
    exact_.untracked_of_closed (Kernel.free_of_lookup found)
  have tracker :=
    request.rpsGpuFdMapGet_record env video (Kernel.nonneg_of_lookup found)
      kept unused
  have openings (other : Int) :
      openingAt (kernel.install file)
          (Function.update log kernel.nextId
            (some (request.opening shim state.nodes))) other =
        if other = file.first then
          some (request.opening shim state.nodes)
        else openingAt kernel log other :=
    openingAt_install sound (Kernel.id_of_lookup found) _ other
  rw [exact_.iff_at file.first, tracker, openings, if_pos rfl,
    if_pos rfl, Option.bind_some,
    OpenRequest.bind_tracks classified asked goesOn]
  · exact ite_none_eq_iff
  · intro other differs
    rw [tracker, if_neg differs]
  · intro other differs
    rw [openings, if_neg differs]

/-- A duplicate keeps the tracker exact if and only if there is a node for
what it should have. -/
theorem ExactTracker.copy_iff (exact_ : ExactTracker state kernel log)
    (kept : WellKept state.nodes) (sound : kernel.Sound) (malloc : Bool)
    {oldfd newfd : Int}
    (named : kernel.descriptors oldfd = some file) (valid : 0 ≤ newfd)
    (copied : after.nodes = rpsGpuFdMapCopy malloc oldfd newfd state.nodes) :
    ExactTracker after (kernel.assign newfd file) log ↔
      (rpsGpuFdMapGet oldfd state.nodes ≠ none →
        malloc = true ∨ (rpsGpuFdMapGet newfd state.nodes).isSome) := by
  have tracker (asked : Int) :=
    rpsGpuFdMapGet_copy malloc (sound.nonneg oldfd file named) valid kept
      asked
  rw [exact_.iff_at newfd, copied, tracker, if_pos rfl,
    openingAt_assign named, if_pos rfl, ← exact_ oldfd]
  · exact ite_none_eq_iff
  · intro other differs
    rw [copied, tracker, if_neg differs]
  · intro other differs
    rw [openingAt_assign named, if_neg differs]

/-- Dropping a number keeps the tracker exact if and only if nothing is left
to track there. -/
theorem ExactTracker.drop_iff (exact_ : ExactTracker state kernel log)
    (kept : WellKept state.nodes)
    (dropped : after.nodes = rpsGpuFdMapRemove fd state.nodes)
    (elsewhere : ∀ asked, asked ≠ fd →
      openingAt later log asked = openingAt kernel log asked) :
    ExactTracker after later log ↔
      (openingAt later log fd).bind Opening.tracked = none := by
  rw [exact_.iff_at fd, dropped, rpsGpuFdMapGet_remove kept,
    if_pos rfl]
  · exact eq_comm
  · intro other differs
    rw [dropped, rpsGpuFdMapGet_remove kept, if_neg differs]
  · exact elsewhere

/-- From an exact tracker one disciplined step leads to an exact tracker if
and only if it keeps its records. -/
theorem ExactTracker.effect_iff (exact_ : ExactTracker state kernel log)
    (video : shim.config.gpuVideo = true)
    (truthful : Truthful state kernel log) (sound : kernel.Sound)
    (streams : StreamsKept kernel) (disciplined : Disciplined kernel action)
    (done : Effect shim state kernel action after later) :
    ExactTracker after later
        (logOpening shim state.nodes kernel action later log) ↔
      KeepsRecords shim state kernel action := by
  have kept := truthful.kept
  have unlogged (same : later.nextId = kernel.nextId)
      (holds :
        ExactTracker after later log ↔
          KeepsRecords shim state kernel action) :
      ExactTracker after later
          (logOpening shim state.nodes kernel action later log) ↔
        KeepsRecords shim state kernel action := by
    rw [logOpening_of_same same]
    exact holds
  cases done with
  | idle same quiet =>
      apply unlogged rfl
      exact
        iff_of_true (exact_.of_same same.nodes rfl) quiet.keepsRecords
  | read fd buffer count nodes entries depth =>
      apply unlogged rfl
      exact
        iff_of_true (exact_.of_same nodes rfl)
          (Call.keepsRecords_of_none rfl rfl rfl nofun)
  | opened request file asked goesOn found stream =>
      rename_i answer env call
      have made : request.file kernel answer ≠ none := by
        rw [OpenRequest.file_of_lookup found stream]
        exact Option.some_ne_none file
      rw [logOpening_of_opened asked rfl, KeepsRecords,
        Call.keepsRecords_opening_iff asked goesOn made]
      exact
        exact_.record_iff video kept truthful.classified sound asked goesOn
          found
  | openedDir request file asked goesOn found stream directory unused =>
      rename_i answer env call
      have made : request.file kernel answer ≠ none := by
        rw [OpenRequest.file_of_directory found directory unused]
        exact Option.some_ne_none file
      rw [logOpening_of_opened asked rfl, KeepsRecords,
        Call.keepsRecords_opening_iff asked goesOn made]
      exact
        exact_.record_iff video kept truthful.classified sound asked goesOn
          found
  | copied oldfd newfd file asked named free =>
      rename_i answer env call
      have isNamed : kernel.descriptors oldfd ≠ none := by
        rw [named]
        exact Option.some_ne_none file
      have isFree : kernel.freeFd answer ≠ none := by
        rw [free]
        exact Option.some_ne_none newfd
      have unused :=
        exact_.untracked_of_closed (Kernel.unused_of_freeFd free)
      apply unlogged rfl
      rw [KeepsRecords, Call.keepsRecords_duplicates_iff asked isNamed isFree,
        exact_.copy_iff kept sound _ named (Kernel.nonneg_of_freeFd free)
          rfl, unused]
      simp
  | replaced oldfd newfd file asked named replaces =>
      apply unlogged rfl
      rw [KeepsRecords, Call.keepsRecords_replaces_iff asked replaces,
        exact_.copy_iff kept sound _ named
          (Kernel.nonneg_of_replaces replaces) rfl]
      cases rpsGpuFdMapGet newfd state.nodes with
      | none =>
          simp
      | some record =>
          simp
  | closed fd closes =>
      have elsewhere (asked : Int) (differs : asked ≠ fd) :
          openingAt (kernel.release fd) log asked =
            openingAt kernel log asked :=
        (openingAt_release asked).trans (if_neg differs)
      apply unlogged rfl
      rw [KeepsRecords, Call.keepsRecords_close_iff,
        exact_.drop_iff kept rfl elsewhere, openingAt_release, if_pos rfl]
      exact iff_of_true rfl fun _ => closes
  | dropped fd fails =>
      apply unlogged rfl
      rw [KeepsRecords, Call.keepsRecords_close_iff,
        exact_.drop_iff kept rfl fun _ _ => rfl, ← exact_ fd]
      constructor
      · intro untracked tracked
        exact absurd untracked tracked
      · intro closes
        by_contra tracked
        exact fails (closes tracked)
  | streamed fd file named directory unused =>
      apply unlogged rfl
      exact
        iff_of_true (exact_.of_same rfl rfl)
          (Call.keepsRecords_of_none rfl rfl rfl nofun)
  | closedDir dir fd stream wasOpen =>
      obtain ⟨file, named, _⟩ := streams.directory dir fd stream
      have elsewhere (asked : Int) (differs : asked ≠ fd) :
          openingAt ((kernel.release fd).freeStream dir) log asked =
            openingAt kernel log asked :=
        (openingAt_release asked).trans (if_neg differs)
      have nodes :
          (if 0 ≤ fd then rpsGpuFdMapRemove fd state.nodes
            else state.nodes) = rpsGpuFdMapRemove fd state.nodes :=
        if_pos (sound.nonneg fd file named)
      have closed :
          openingAt ((kernel.release fd).freeStream dir) log fd = none :=
        (openingAt_release fd).trans (if_pos rfl)
      apply unlogged rfl
      apply iff_of_true
      · rw [exact_.drop_iff kept nodes elsewhere, closed, Option.bind_none]
      · exact Call.keepsRecords_of_none rfl rfl rfl nofun
  | freedDir dir fd stream fails =>
      exact absurd fails (disciplined.not_freedDir streams stream)
  | closedBehind fd =>
      cases disciplined.owned

end Step

/-! ## Runs -/

section Runs

variable {shim : Shim}

end Runs

end RunpodShim

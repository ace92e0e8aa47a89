import RunpodShim.Sequential.Effects

/-!
# Truthful tables

In sequential runs that create and close descriptors through the shim alone,
both tables speak of open descriptors only, and of what these were opened as.
-/

namespace RunpodShim

open LexicalPath StepRuns

/-- How an open file description came about. -/
structure Opening where
  /-- the path it was opened with -/
  path : Option CString
  /-- it was opened as a `/proc/meminfo` to virtualise -/
  virtualised : Bool
deriving DecidableEq, Repr

/-- The path of an open, written behind the directory's own path when it is
relative to a tracked gpus or bus directory. -/
def openedPath (nodes : List RpsGpuFdNode) (dirfd : Int)
    (path : Option CString) : Option CString :=
  if pathIsRelative path then
    match rpsGpuFdMapGet dirfd nodes with
    | none => path
    | some record =>
        if record.kind = .procGpusDir ∨ record.kind = .procGpuBusDir then
          path.map fun path => record.path ++ slash :: path
        else path
  else path

/-- The opening that a request stands for. -/
def OpenRequest.opening (shim : Shim) (nodes : List RpsGpuFdNode)
    (request : OpenRequest) : Opening where
  path := openedPath nodes request.dirfd request.path
  virtualised :=
    request.attaches.any fun flags =>
      shouldVirtualizeMeminfo shim.config request.path flags

/-- The history of the descriptions: a step that creates one logs its
opening. -/
def logOpening (shim : Shim) (nodes : List RpsGpuFdNode) (kernel : Kernel)
    (action : Action) (later : Kernel) (log : Nat → Option Opening) :
    Nat → Option Opening :=
  if later.nextId = kernel.nextId then log
  else
    match action with
    | .call _ _ call =>
        Function.update log kernel.nextId
          ((call.openRequest nodes).map (OpenRequest.opening shim nodes))
    | .closeBehind _ => log

/-- Descriptors are closed through the shim alone.  The descriptor of a stream
is closed by `closedir` only and never overwritten, and a `closedir` that fails
does nothing. -/
def OwnedByStreams (kernel : Kernel) : Action → Prop
  | .closeBehind _ => False
  | .call _ _ (.close fd) | .call _ _ (.dup2 _ fd)
  | .call _ _ (.dup3 _ fd _) =>
      ∀ dir, kernel.streams dir ≠ some fd
  | .call answer _ (.closedir _) =>
      answer.fd.isSome = true ∨ answer.frees = false
  | .call _ _ _ => True

/-- A stream owns its descriptor, and alone: no second stream is made of
it. -/
structure Disciplined (kernel : Kernel) (action : Action) : Prop where
  owned : OwnedByStreams kernel action
  alone : ∀ answer env fd, action = .call answer env (.fdopendir fd) →
    ∀ dir, kernel.streams dir ≠ some fd

/-- Every stream has an open directory of its own. -/
structure StreamsKept (kernel : Kernel) : Prop where
  directory : ∀ dir fd, kernel.streams dir = some fd →
    ∃ file, kernel.descriptors fd = some file ∧ file.directory = true
  alone : ∀ dir other fd, kernel.streams dir = some fd →
    kernel.streams other = some fd → dir = other

/-- The tables are true of the kernel and of how its descriptions came
about. -/
structure Truthful (state : ShimState) (kernel : Kernel)
    (log : Nat → Option Opening) : Prop where
  kept : WellKept state.nodes
  table : TableKept state.entries
  records : ∀ fd record, rpsGpuFdMapGet fd state.nodes = some record →
    kernel.Named log fd fun _ opening =>
      rpsGpuClassifyPath opening.path = (true, record)
  contents : ∀ fd stream, fdMapStream fd state.entries = some stream →
    kernel.Named log fd fun file opening =>
      file.first = fd ∧ file.names = meminfoNames ∧
        opening.virtualised = true

/-! ## Streams -/

section Streams

variable {shim : Shim} {state after : ShimState} {kernel later : Kernel}
variable {action : Action}

/-- A change at a number that no stream has keeps the streams. -/
theorem StreamsKept.changeAt (kept : StreamsKept kernel) {fd : Int}
    (unowned : ∀ dir, kernel.streams dir ≠ some fd)
    (streams : later.streams = kernel.streams)
    (elsewhere : ∀ asked, asked ≠ fd →
      later.descriptors asked = kernel.descriptors asked) :
    StreamsKept later where
  directory := by
    intro dir asked stream
    rw [streams] at stream
    have other : asked ≠ fd := by
      intro same
      rw [same] at stream
      exact unowned dir stream
    rw [elsewhere asked other]
    exact kept.directory dir asked stream
  alone := by
    intro first second asked firstStream secondStream
    rw [streams] at firstStream secondStream
    exact kept.alone first second asked firstStream secondStream

theorem StreamsKept.install (kept : StreamsKept kernel) {file : OpenFile}
    (unowned : ∀ dir, kernel.streams dir ≠ some file.first) :
    StreamsKept (kernel.install file) := by
  refine kept.changeAt unowned rfl ?_
  intro asked other
  rw [Kernel.descriptors_install, if_neg other]

theorem StreamsKept.assign (kept : StreamsKept kernel) {fd : Int}
    (unowned : ∀ dir, kernel.streams dir ≠ some fd) (file : OpenFile) :
    StreamsKept (kernel.assign fd file) := by
  refine kept.changeAt unowned rfl ?_
  intro asked other
  rw [Kernel.descriptors_assign, if_neg other]

theorem StreamsKept.release (kept : StreamsKept kernel) {fd : Int}
    (unowned : ∀ dir, kernel.streams dir ≠ some fd) :
    StreamsKept (kernel.release fd) := by
  refine kept.changeAt unowned rfl ?_
  intro asked other
  rw [Kernel.descriptors_release, if_neg other]

theorem StreamsKept.setStream (kept : StreamsKept kernel) {dir : Nat}
    {fd : Int} {file : OpenFile}
    (named : kernel.descriptors fd = some file)
    (directory : file.directory = true)
    (unowned : ∀ other, kernel.streams other ≠ some fd) :
    StreamsKept (kernel.setStream dir fd) where
  directory := by
    intro asked number stream
    rw [Kernel.streams_setStream] at stream
    split at stream
    · rw [← Option.some.inj stream]
      exact ⟨file, named, directory⟩
    · exact kept.directory asked number stream
  alone := by
    intro first second number firstStream secondStream
    rw [Kernel.streams_setStream] at firstStream secondStream
    split at firstStream
    · rename_i firstSame
      split at secondStream
      · rename_i secondSame
        rw [firstSame, secondSame]
      · rw [← Option.some.inj firstStream] at secondStream
        exact absurd secondStream (unowned second)
    · split at secondStream
      · rw [← Option.some.inj secondStream] at firstStream
        exact absurd firstStream (unowned first)
      · exact kept.alone first second number firstStream secondStream

theorem StreamsKept.closeStream (kept : StreamsKept kernel) {dir : Nat}
    {fd : Int} (stream : kernel.streams dir = some fd) :
    StreamsKept ((kernel.release fd).freeStream dir) where
  directory := by
    intro asked number found
    rw [Kernel.streams_freeStream] at found
    split at found
    · cases found
    · rename_i differs
      have otherFd : number ≠ fd := by
        intro same
        rw [same] at found
        exact differs (kept.alone asked dir fd found stream)
      obtain ⟨file, named, directory⟩ :=
        kept.directory asked number found
      refine ⟨file, ?_, directory⟩
      show (kernel.release fd).descriptors number = some file
      rw [Kernel.descriptors_release, if_neg otherFd]
      exact named
  alone := by
    intro first second number firstStream secondStream
    rw [Kernel.streams_freeStream] at firstStream secondStream
    split at firstStream
    · cases firstStream
    · split at secondStream
      · cases secondStream
      · exact kept.alone first second number firstStream secondStream

/-- The number that `dup2` or `dup3` chooses belongs to no stream. -/
theorem unowned_of_replaces {answer : Answer} {env : Env} {call : Call}
    {oldfd newfd : Int}
    (disciplined : Disciplined kernel (.call answer env call))
    (asked : call.replaces = some (oldfd, newfd)) :
    ∀ dir, kernel.streams dir ≠ some newfd := by
  cases call with
  | dup2 first second =>
      cases asked
      exact disciplined.owned
  | dup3 first second flags =>
      cases asked
      exact disciplined.owned
  | _ =>
      cases asked

/-- The `closedir` of a disciplined run closes the descriptor or does
nothing. -/
theorem Disciplined.not_freedDir {answer : Answer} {env : Env} {dir : Nat}
    {fd : Int}
    (disciplined :
      Disciplined kernel (.call answer env (.closedir dir)))
    (kept : StreamsKept kernel) (stream : kernel.streams dir = some fd) :
    ¬ (kernel.descriptors fd = none ∨
        (answer.fd = none ∧ answer.frees = true)) := by
  rintro (closed | ⟨unanswered, frees⟩)
  · obtain ⟨file, named, _⟩ := kept.directory dir fd stream
    rw [closed] at named
    cases named
  · rcases disciplined.owned with answered | keeps
    · rw [unanswered] at answered
      cases answered
    · rw [keeps] at frees
      cases frees

/-- One disciplined step keeps the streams. -/
theorem StreamsKept.effect (kept : StreamsKept kernel)
    (disciplined : Disciplined kernel action)
    (done : Effect shim state kernel action after later) :
    StreamsKept later := by
  have unownedOf {fd : Int} (free : kernel.descriptors fd = none)
      (dir : Nat) : kernel.streams dir ≠ some fd := by
    intro stream
    obtain ⟨file, named, _⟩ := kept.directory dir fd stream
    rw [free] at named
    cases named
  cases done with
  | idle same quiet =>
      exact kept
  | read fd buffer count nodes entries depth =>
      exact kept
  | opened request file asked goesOn found stream =>
      exact kept.install (unownedOf (Kernel.free_of_lookup found))
  | openedDir request file asked goesOn found stream directory unused =>
      have unowned := unownedOf (Kernel.free_of_lookup found)
      have installed := kept.install unowned
      apply installed.setStream _ directory unowned
      rw [Kernel.descriptors_install, if_pos rfl]
  | copied oldfd newfd file asked named free =>
      exact kept.assign (unownedOf (Kernel.unused_of_freeFd free)) file
  | replaced oldfd newfd file asked named replaces =>
      exact kept.assign (unowned_of_replaces disciplined asked) file
  | closed fd closes =>
      exact kept.release disciplined.owned
  | dropped fd fails =>
      exact kept
  | streamed fd file named directory unused =>
      exact kept.setStream named directory (disciplined.alone _ _ fd rfl)
  | closedDir dir fd stream wasOpen =>
      exact kept.closeStream stream
  | freedDir dir fd stream fails =>
      exact kept.closeStream stream
  | closedBehind fd =>
      cases disciplined.owned

end Streams

/-! ## Openings -/

section Openings

variable {shim : Shim} {state : ShimState} {call : Call}
variable {request : OpenRequest} {record : RpsGpuFdRecord}

/-- What the effective path of an `openat` is classified as, the path that the
open is logged with is classified as. -/
theorem classify_openedPath {nodes : List RpsGpuFdNode}
    (sound : Classified nodes) {dirfd : Int} {path : Option CString}
    (classified :
      rpsGpuClassifyPath
          (gpuEffectiveOpenatPath nodes dirfd path rpsGpuPathMax).2 =
        (true, record)) :
    rpsGpuClassifyPath (openedPath nodes dirfd path) = (true, record) := by
  unfold openedPath
  cases relative : pathIsRelative path with
  | false =>
      rw [gpuEffectiveOpenatPath, relative] at classified
      exact classified
  | true =>
      rw [if_pos rfl]
      cases path with
      | none =>
          cases relative
      | some bytes =>
          cases found : rpsGpuFdMapGet dirfd nodes with
          | none =>
              rw [gpuEffectiveOpenatPath_of_untracked found] at classified
              exact classified
          | some directory =>
              simp only
              by_cases kind :
                  directory.kind = .procGpusDir ∨
                    directory.kind = .procGpuBusDir
              · obtain ⟨given, made⟩ :=
                  sound.classified dirfd directory found
                obtain ⟨_, base, _, _, tracked⟩ :=
                  trackedDirectory_of_classified made kind
                rw [gpuEffectiveOpenatPath_of_trackedDirectory found
                  tracked relative rpsGpuPathMax_pos] at classified
                rw [if_pos kind, Option.map_some]
                cases below : namesBelow rpsGpuPathMax base bytes with
                | none =>
                    rw [below] at classified
                    cases classified
                | some names =>
                    rw [below] at classified
                    have either :=
                      rpsGpuClassifyPath_relative tracked below
                    rw [either _ (Or.inl rfl)] at classified
                    rw [either _ (Or.inr rfl)]
                    exact placeRecord_blankRecord classified
              · rw [if_neg kind]
                have neither := not_or.mp kind
                have room : (rpsGpuPathMax == 0) = false := by
                  decide
                rw [gpuEffectiveOpenatPath, relative, room] at classified
                simpa [found, neither] using classified

theorem openedPath_workingDirectory (nodes : List RpsGpuFdNode)
    (path : Option CString) :
    openedPath nodes atFdcwd path = path := by
  have missing : rpsGpuFdMapGet atFdcwd nodes = none :=
    rpsGpuFdMapGet_of_neg (by decide) nodes
  unfold openedPath
  rw [missing]
  split <;> rfl

/-- The record that a call leaves is that of the path it is logged with. -/
theorem classify_opening (sound : Classified state.nodes)
    (asked : call.openRequest state.nodes = some request)
    {path : Option CString} (tracks : request.tracks = some path)
    (tracked : trackedRecord path = some record) :
    rpsGpuClassifyPath (request.opening shim state.nodes).path =
      (true, record) := by
  have classified := trackedRecord_eq_some_iff.mp tracked
  have throughDirfd (dirfd : Int) (given : Option CString)
      (flags unread : UInt32)
      (same :
        Call.openRequest state.nodes (.openat dirfd given flags unread) =
          some request) :
      rpsGpuClassifyPath (request.opening shim state.nodes).path =
        (true, record) := by
    cases same
    simp only [Option.ite_none_right_eq_some, Option.some.injEq] at tracks
    rw [← tracks.2] at classified
    exact classify_openedPath sound classified
  have here (given : Option CString)
      (dirfd : request.dirfd = atFdcwd) (isGiven : request.path = given)
      (tracksGiven : request.tracks = some given) :
      rpsGpuClassifyPath (request.opening shim state.nodes).path =
        (true, record) := by
    rw [tracks] at tracksGiven
    cases tracksGiven
    rw [OpenRequest.opening, dirfd, isGiven, openedPath_workingDirectory]
    exact classified
  cases call with
  | open_ given flags mode =>
      cases asked
      exact here given rfl rfl rfl
  | open64 given flags mode =>
      cases asked
      exact here given rfl rfl rfl
  | openat dirfd given flags mode =>
      exact throughDirfd dirfd given flags mode asked
  | openat64 dirfd given flags mode =>
      exact throughDirfd dirfd given flags mode asked
  | opendir given =>
      cases asked
      exact here given rfl rfl rfl
  | opendir64 given =>
      cases asked
      exact here given rfl rfl rfl
  | _ =>
      cases asked

theorem virtualised_of_attachedText {env : Env} {fd : Int}
    {text : List UInt8}
    (attached : request.attachedText shim env fd state = some text) :
    request.path = some meminfoPath ∧
      (request.opening shim state.nodes).virtualised = true := by
  obtain ⟨flags, attaches, found⟩ := Option.bind_eq_some_iff.mp attached
  have wanted := (attachedText_eq_some_iff.mp found).2.1
  refine ⟨path_of_shouldVirtualizeMeminfo wanted, ?_⟩
  simp [OpenRequest.opening, attaches, wanted]

/-- A path of `/proc/meminfo` leads to it. -/
theorem names_of_meminfoPath {kernel : Kernel} {answer : Answer}
    {dirfd : Int} {path : Option CString} {file : OpenFile}
    (found : kernel.lookup answer dirfd path = some file)
    (isMeminfo : path = some meminfoPath) :
    file.names = meminfoNames := by
  rw [Kernel.names_of_lookup found isMeminfo (by decide)]
  decide

end Openings

/-! ## One step -/

section Step

variable {shim : Shim} {state after : ShimState} {kernel later : Kernel}
variable {action : Action} {log : Nat → Option Opening}

theorem Truthful.classified (truthful : Truthful state kernel log) :
    Classified state.nodes where
  kept := truthful.kept
  classified := by
    intro fd record found
    obtain ⟨_, opening, _, _, made⟩ := truthful.records fd record found
    exact ⟨opening.path, made⟩

/-- A descriptor with an entry is no directory. -/
theorem Truthful.not_directory (truthful : Truthful state kernel log)
    (sound : kernel.Sound) {fd : Int} {stream : List UInt8 × Nat}
    (found : fdMapStream fd state.entries = some stream)
    {file : OpenFile} (named : kernel.descriptors fd = some file) :
    file.directory = false := by
  obtain ⟨other, _, opened, _, _, names, _⟩ :=
    truthful.contents fd stream found
  rw [named] at opened
  cases opened
  apply Bool.eq_false_iff.mpr
  intro isDirectory
  exact sound.regular fd file named isDirectory names

/-- A successful opening call, with its log. -/
theorem Truthful.open_ (truthful : Truthful state kernel log)
    (sound : kernel.Sound) {answer : Answer} (env : Env) {call : Call}
    {request : OpenRequest} {file : OpenFile}
    (asked : call.openRequest state.nodes = some request)
    (found :
      kernel.lookup answer request.dirfd request.path = some file) :
    Truthful (request.record shim env file.first state)
      (kernel.install file)
      (Function.update log kernel.nextId
        (some (request.opening shim state.nodes))) where
  kept := truthful.kept.record
  table := truthful.table.record
  records := by
    intro fd record present
    rcases OpenRequest.found_record truthful.kept present with new | old
    · obtain ⟨rfl, path, tracks, tracked⟩ := new
      refine
        ⟨file, request.opening shim state.nodes, ?_, ?_,
          classify_opening truthful.classified asked tracks tracked⟩
      · rw [Kernel.descriptors_install, if_pos rfl]
      · rw [Kernel.id_of_lookup found, Function.update_self]
    · exact
        (truthful.records fd record old).install sound
          (Kernel.free_of_lookup found) _
  contents := by
    intro fd stream present
    rw [OpenRequest.fdMapStream_record] at present
    have old (before : fdMapStream fd state.entries = some stream) :
        (kernel.install file).Named
          (Function.update log kernel.nextId
            (some (request.opening shim state.nodes))) fd
          fun file opening =>
            file.first = fd ∧ file.names = meminfoNames ∧
              opening.virtualised = true :=
      (truthful.contents fd stream before).install sound
        (Kernel.free_of_lookup found) _
    cases attached : request.attachedText shim env file.first state with
    | none =>
        rw [attached] at present
        exact old present
    | some text =>
        rw [attached] at present
        simp only at present
        split at present
        · rename_i here
          obtain ⟨isMeminfo, virtualised⟩ :=
            virtualised_of_attachedText attached
          refine
            ⟨file, request.opening shim state.nodes, ?_, ?_, here.symm,
              names_of_meminfoPath found isMeminfo, virtualised⟩
          · rw [Kernel.descriptors_install, if_pos here]
          · rw [Kernel.id_of_lookup found, Function.update_self]
        · exact old present

/-- A duplicate has the record of what it duplicates. -/
theorem Truthful.records_copy (truthful : Truthful state kernel log)
    (sound : kernel.Sound) (malloc : Bool) {oldfd newfd : Int}
    {file : OpenFile} (named : kernel.descriptors oldfd = some file)
    (valid : 0 ≤ newfd) (fd : Int) (record : RpsGpuFdRecord)
    (present :
      rpsGpuFdMapGet fd (rpsGpuFdMapCopy malloc oldfd newfd state.nodes) =
        some record) :
    (kernel.assign newfd file).Named log fd fun _ opening =>
      rpsGpuClassifyPath opening.path = (true, record) := by
  rw [rpsGpuFdMapGet_copy malloc (sound.nonneg oldfd file named) valid
    truthful.kept] at present
  split at present
  · rename_i same
    rw [same]
    split at present
    · exact (truthful.records oldfd record present).duplicate named
    · cases present
  · rename_i other
    exact (truthful.records fd record present).assign other file

theorem Truthful.copy (truthful : Truthful state kernel log)
    (sound : kernel.Sound) (malloc : Bool) {oldfd newfd : Int}
    {file : OpenFile} (named : kernel.descriptors oldfd = some file)
    (valid : 0 ≤ newfd) (free : kernel.descriptors newfd = none) :
    Truthful
      { state with
        nodes := rpsGpuFdMapCopy malloc oldfd newfd state.nodes }
      (kernel.assign newfd file) log where
  kept := truthful.kept.copy malloc oldfd newfd
  table := truthful.table
  records := truthful.records_copy sound malloc named valid
  contents := by
    intro fd stream present
    have entry := truthful.contents fd stream present
    have other : fd ≠ newfd := by
      intro same
      rw [same] at entry
      exact entry.isOpen free
    exact entry.assign other file

theorem Truthful.replace (truthful : Truthful state kernel log)
    (sound : kernel.Sound) (env : Env) {oldfd newfd : Int}
    {file : OpenFile} (named : kernel.descriptors oldfd = some file)
    (valid : 0 ≤ newfd) :
    Truthful (Preload.replaceFd env oldfd newfd state)
      (kernel.assign newfd file) log where
  kept := truthful.kept.copy env.nodeMalloc oldfd newfd
  table := truthful.table.remove newfd
  records := truthful.records_copy sound env.nodeMalloc named valid
  contents := by
    intro fd stream present
    rw [Preload.replaceFd, fdMapStream_remove truthful.table] at present
    split at present
    · cases present
    · rename_i other
      exact (truthful.contents fd stream present).assign other file

/-- What is dropped at a number lets the number change. -/
theorem Truthful.drop (truthful : Truthful state kernel log) {fd : Int}
    (elsewhere : ∀ asked, asked ≠ fd →
      later.descriptors asked = kernel.descriptors asked) :
    Truthful (dropFd fd state) later log where
  kept := truthful.kept.remove fd
  table := truthful.table.remove fd
  records := by
    intro asked record present
    rw [dropFd, rpsGpuFdMapGet_remove truthful.kept] at present
    split at present
    · cases present
    · rename_i other
      obtain ⟨file, opening, opened, facts⟩ :=
        truthful.records asked record present
      rw [← elsewhere asked other] at opened
      exact ⟨file, opening, opened, facts⟩
  contents := by
    intro asked stream present
    rw [dropFd, fdMapStream_remove truthful.table] at present
    split at present
    · cases present
    · rename_i other
      obtain ⟨file, opening, opened, facts⟩ :=
        truthful.contents asked stream present
      rw [← elsewhere asked other] at opened
      exact ⟨file, opening, opened, facts⟩

theorem Truthful.setStream (truthful : Truthful state kernel log)
    (dir : Nat) (fd : Int) :
    Truthful state (kernel.setStream dir fd) log where
  kept := truthful.kept
  table := truthful.table
  records := truthful.records
  contents := truthful.contents

theorem Truthful.closeStream (truthful : Truthful state kernel log)
    (sound : kernel.Sound) {fd : Int} {file : OpenFile}
    (named : kernel.descriptors fd = some file)
    (directory : file.directory = true) (dir : Nat) :
    Truthful
      { state with
        nodes :=
          if 0 ≤ fd then rpsGpuFdMapRemove fd state.nodes
          else state.nodes }
      ((kernel.release fd).freeStream dir) log := by
  have valid := sound.nonneg fd file named
  rw [if_pos valid]
  refine ⟨truthful.kept.remove fd, truthful.table, ?_, ?_⟩
  · intro asked record present
    rw [rpsGpuFdMapGet_remove truthful.kept] at present
    split at present
    · cases present
    · rename_i other
      exact (truthful.records asked record present).release other
  · intro asked stream present
    have other : asked ≠ fd := by
      intro same
      rw [same] at present
      have regular := truthful.not_directory sound present named
      rw [directory] at regular
      cases regular
    exact (truthful.contents asked stream present).release other

/-- Tables that hold no more than before stay truthful. -/
theorem Truthful.of_tables (truthful : Truthful state kernel log)
    (kept : WellKept after.nodes) (table : TableKept after.entries)
    (descriptors : later.descriptors = kernel.descriptors)
    (records : ∀ fd, rpsGpuFdMapGet fd after.nodes =
      rpsGpuFdMapGet fd state.nodes)
    (contents : ∀ fd, (fdMapStream fd after.entries).isSome →
      (fdMapStream fd state.entries).isSome) :
    Truthful after later log where
  kept := kept
  table := table
  records := by
    intro fd record present
    rw [records] at present
    obtain ⟨file, opening, opened, facts⟩ :=
      truthful.records fd record present
    rw [← descriptors] at opened
    exact ⟨file, opening, opened, facts⟩
  contents := by
    intro fd stream present
    have before := contents fd (by simp [present])
    obtain ⟨held, found⟩ := Option.isSome_iff_exists.mp before
    obtain ⟨file, opening, opened, facts⟩ :=
      truthful.contents fd held found
    rw [← descriptors] at opened
    exact ⟨file, opening, opened, facts⟩

/-- A read gives no descriptor an entry. -/
theorem isSome_of_isSome_takeRead {entries : List RpsFdMapEntry}
    {buffer : Bool} {fd : Int} {count : Nat} (asked : Int)
    (present :
      (fdMapStream asked
        (rpsFdMapTakeRead buffer fd count entries).2).isSome) :
    (fdMapStream asked entries).isSome := by
  by_cases usable : buffer = true ∨ count = 0
  · rw [fdMapStream_takeRead usable] at present
    split at present
    · rename_i same
      rw [same]
      simpa using present
    · exact present
  · rw [rpsFdMapTakeRead_of_unusable usable] at present
    exact present

theorem logOpening_of_same {nodes : List RpsGpuFdNode}
    (same : later.nextId = kernel.nextId) :
    logOpening shim nodes kernel action later log = log :=
  if_pos same

theorem logOpening_of_opened {nodes : List RpsGpuFdNode}
    {answer : Answer} {env : Env} {call : Call} {request : OpenRequest}
    (asked : call.openRequest nodes = some request)
    (more : later.nextId = kernel.nextId + 1) :
    logOpening shim nodes kernel (.call answer env call) later log =
      Function.update log kernel.nextId
        (some (request.opening shim nodes)) := by
  have differs : ¬ later.nextId = kernel.nextId := by
    omega
  simp only [logOpening, if_neg differs, asked, Option.map_some]

/-- One disciplined step keeps the tables truthful. -/
theorem Truthful.effect (truthful : Truthful state kernel log)
    (sound : kernel.Sound) (streams : StreamsKept kernel)
    (disciplined : Disciplined kernel action)
    (done : Effect shim state kernel action after later) :
    Truthful after later
      (logOpening shim state.nodes kernel action later log) := by
  have kept := done.wellKept truthful.kept
  have table := done.tableKept truthful.table
  have unlogged (same : later.nextId = kernel.nextId)
      (holds : Truthful after later log) :
      Truthful after later
        (logOpening shim state.nodes kernel action later log) := by
    rw [logOpening_of_same same]
    exact holds
  cases done with
  | idle same quiet =>
      apply unlogged rfl
      apply truthful.of_tables kept table rfl
      · intro fd
        rw [same.nodes]
      · intro fd present
        rwa [same.entries] at present
  | read fd buffer count nodes entries depth =>
      apply unlogged rfl
      apply truthful.of_tables kept table rfl
      · intro asked
        rw [nodes]
      · intro asked present
        rw [entries] at present
        exact isSome_of_isSome_takeRead asked present
  | opened request file asked goesOn found stream =>
      rw [logOpening_of_opened asked rfl]
      exact truthful.open_ sound _ asked found
  | openedDir request file asked goesOn found stream directory unused =>
      rw [logOpening_of_opened asked rfl]
      exact (truthful.open_ sound _ asked found).setStream _ _
  | copied oldfd newfd file asked named free =>
      exact
        unlogged rfl
          (truthful.copy sound _ named (Kernel.nonneg_of_freeFd free)
            (Kernel.unused_of_freeFd free))
  | replaced oldfd newfd file asked named replaces =>
      exact
        unlogged rfl
          (truthful.replace sound _ named
            (Kernel.nonneg_of_replaces replaces))
  | closed fd closes =>
      apply unlogged rfl
      apply truthful.drop
      intro asked other
      exact Kernel.descriptors_release.trans (if_neg other)
  | dropped fd fails =>
      exact unlogged rfl (truthful.drop fun _ _ => rfl)
  | streamed fd file named directory unused =>
      exact unlogged rfl (truthful.setStream _ fd)
  | closedDir dir fd stream wasOpen =>
      obtain ⟨file, named, directory⟩ := streams.directory dir fd stream
      exact unlogged rfl (truthful.closeStream sound named directory dir)
  | freedDir dir fd stream fails =>
      exact absurd fails (disciplined.not_freedDir streams stream)
  | closedBehind fd =>
      cases disciplined.owned

end Step

/-! ## Runs -/

section Runs

variable {shim : Shim}

/-- The system with the history of its descriptions. -/
def loggedStep (shim : Shim) :
    Process Kernel × (Nat → Option Opening) → Action →
      Option (Process Kernel × (Nat → Option Opening)) :=
  withHistory (sequentialStep shim) fun before action after log =>
    logOpening shim before.state.nodes before.world action after.world log

/-- Everything that the truthfulness of the tables rests on. -/
structure SequentialKept
    (current : Process Kernel × (Nat → Option Opening)) : Prop where
  sound : current.1.world.Sound
  streams : StreamsKept current.1.world
  truthful : Truthful current.1.state current.1.world current.2

theorem sequentialKept_start (cwd : List CString) :
    SequentialKept (Process.start cwd, fun _ => none) where
  sound := Kernel.sound_initial cwd
  streams := ⟨nofun, nofun⟩
  truthful :=
    { kept := wellKept_nil
      table := tableKept_emptyEntries
      records := by
        intro fd record present
        rw [Process.start, ShimState.initial,
          rpsGpuFdMapGet_nil] at present
        cases present
      contents := by
        intro fd stream present
        rw [Process.start, ShimState.initial,
          fdMapStream_emptyEntries] at present
        cases present }

theorem SequentialKept.effect
    {before : Process Kernel × (Nat → Option Opening)}
    {after : Process Kernel} {action : Action}
    (kept : SequentialKept before)
    (disciplined : Disciplined before.1.world action)
    (done :
      Effect shim before.1.state before.1.world action after.state
        after.world) :
    SequentialKept
      (after,
        logOpening shim before.1.state.nodes before.1.world action
          after.world before.2) where
  sound := done.sound kept.sound
  streams := kept.streams.effect disciplined done
  truthful :=
    kept.truthful.effect kept.sound kept.streams disciplined done

theorem SequentialKept.step
    {before after : Process Kernel × (Nat → Option Opening)}
    {action : Action} (kept : SequentialKept before)
    (disciplined : Disciplined before.1.world action)
    (taken : loggedStep shim before action = some after) :
    SequentialKept after := by
  obtain ⟨stepped, logged⟩ := withHistory_eq_some.mp taken
  have done := effect_of_step stepped
  refine ⟨done.sound kept.sound, kept.streams.effect disciplined done, ?_⟩
  rw [logged]
  exact kept.truthful.effect kept.sound kept.streams disciplined done

/-- What the two tables say in a state. -/
structure TablesTrue (state : ShimState) (kernel : Kernel)
    (log : Nat → Option Opening) : Prop where
  /-- a record is the only one of its number, which is open, and it is the
  classification of the path that the description was opened with -/
  record : ∀ node, node ∈ state.nodes →
    (state.nodes.countP fun other => other.fd == node.fd) = 1 ∧
      kernel.Named log node.fd fun _ opening =>
        rpsGpuClassifyPath opening.path = (true, node.record)
  /-- an active entry is the only one of its number, which is open and was
  returned by a virtualised open of `/proc/meminfo` -/
  entry : ∀ entry, entry ∈ state.entries → entry.active = true →
    state.entries.countP (holdsFd entry.fd) = 1 ∧
      kernel.Named log entry.fd fun file opening =>
        file.first = entry.fd ∧ file.names = meminfoNames ∧
          opening.virtualised = true

theorem Truthful.tablesTrue {state : ShimState} {kernel : Kernel}
    {log : Nat → Option Opening} (truthful : Truthful state kernel log) :
    TablesTrue state kernel log where
  record := by
    intro node member
    have present := truthful.kept.rpsGpuFdMapGet_of_mem member
    have some :
        0 < state.nodes.countP fun other => other.fd == node.fd :=
      List.countP_pos_iff.mpr ⟨node, member, by simp⟩
    have few := truthful.kept.unique node.fd
    exact ⟨by omega, truthful.records node.fd node.record present⟩
  entry := by
    intro entry member active
    have holds : holdsFd entry.fd entry = true := by
      simp [holdsFd, active]
    have some : 0 < state.entries.countP (holdsFd entry.fd) :=
      List.countP_pos_iff.mpr ⟨entry, member, holds⟩
    have few := truthful.table.unique entry.fd
    have present : (fdMapStream entry.fd state.entries).isSome := by
      rw [← any_holdsFd]
      exact List.any_eq_true.mpr ⟨entry, member, holds⟩
    obtain ⟨stream, found⟩ := Option.isSome_iff_exists.mp present
    exact ⟨by omega, truthful.contents entry.fd stream found⟩

/-- In every state that a disciplined run reaches, both tables are true. -/
theorem tablesTrue_of_run {cwd : List CString} {actions : List Action}
    {finish : Process Kernel × (Nat → Option Opening)}
    (disciplined :
      StepsMeet (loggedStep shim)
        (fun before action _ => Disciplined before.1.world action)
        (Process.start cwd, fun _ => none) actions)
    (run :
      runFrom (loggedStep shim) (Process.start cwd, fun _ => none)
        actions = some finish) :
    TablesTrue finish.1.state finish.1.world finish.2 := by
  have keeps (before : Process Kernel × (Nat → Option Opening))
      (action : Action) (after : Process Kernel × (Nat → Option Opening))
      (kept : SequentialKept before)
      (met : Disciplined before.1.world action)
      (taken : loggedStep shim before action = some after) :
      SequentialKept after :=
    kept.step met taken
  have kept :=
    invariant_of_run keeps (sequentialKept_start cwd) disciplined run
  exact kept.truthful.tablesTrue

end Runs

/-! ## Two runs -/

/-- Open the gpus directory, then the bus directory of the mounted GPU
through it, duplicate that, and open `/proc/meminfo`. -/
def walkToMountedGpu : List Action :=
  [.call (answers 3 true) containerEnv (.open_ (some gpusPath) 0 0),
    .call (answers 4 true) containerEnv
      (.openat 3 (some (cstr "0000:04:00.0")) 0 0),
    .call (answers 5 true) containerEnv (.dup 4),
    .call (answers 6 false) containerEnv
      (.open_ (some meminfoPath) 0 0)]

theorem disciplined_walkToMountedGpu :
    StepsMeet (loggedStep containerShim)
      (fun before action _ => Disciplined before.1.world action)
      (Process.start [], fun _ => none) walkToMountedGpu := by
  intro opened _
  refine ⟨⟨trivial, nofun⟩, ?_⟩
  intro walkedDown _
  refine ⟨⟨trivial, nofun⟩, ?_⟩
  intro duplicated _
  refine ⟨⟨trivial, nofun⟩, ?_⟩
  intro openedMeminfo _
  exact ⟨⟨trivial, nofun⟩, trivial⟩

/-- The numbers that the two tables hold. -/
def tableNumbers (state : ShimState) : List Int × List Int :=
  (state.nodes.map RpsGpuFdNode.fd,
    (state.entries.filter RpsFdMapEntry.active).map RpsFdMapEntry.fd)

theorem tablesTrue_walkToMountedGpu :
    ∃ finish,
      runFrom (loggedStep containerShim)
          (Process.start [], fun _ => none) walkToMountedGpu =
        some finish ∧
        tableNumbers finish.1.state = ([5, 4, 3], [6]) ∧
        TablesTrue finish.1.state finish.1.world finish.2 := by
  have walked :
      (runFrom (loggedStep containerShim)
          (Process.start [], fun _ => none) walkToMountedGpu).map
            (fun finish => tableNumbers finish.1.state) =
        some ([5, 4, 3], [6]) := by
    decide
  obtain ⟨finish, run, numbers⟩ := Option.map_eq_some_iff.mp walked
  exact
    ⟨finish, run, numbers,
      tablesTrue_of_run disciplined_walkToMountedGpu run⟩

/-- Two streams over one descriptor: the first `closedir` frees the number,
`/proc/meminfo` is opened under it, and the second `closedir` closes that. -/
def twoStreamsOverOne : List Action :=
  [.call (answers 3 true) containerEnv (.open_ (some (cstr "/")) 0 0),
    .call (answers 0 true) containerEnv (.fdopendir 3),
    .call { answers 0 true with dir := 1 } containerEnv (.fdopendir 3),
    .call (answers 0 true) containerEnv (.closedir 0),
    .call (answers 3 false) containerEnv (.open_ (some meminfoPath) 0 0),
    .call (answers 0 true) containerEnv (.closedir 1)]

/-- The descriptors of streams are closed by `closedir` alone here, and yet a
number that is closed keeps its entry: `closedir` drops no entry. -/
theorem not_tablesTrue_twoStreamsOverOne :
    ¬ ∀ finish,
        StepsMeet (loggedStep containerShim)
          (fun before action _ => OwnedByStreams before.1.world action)
          (Process.start [], fun _ => none) twoStreamsOverOne →
        runFrom (loggedStep containerShim)
            (Process.start [], fun _ => none) twoStreamsOverOne =
          some finish →
        TablesTrue finish.1.state finish.1.world finish.2 := by
  intro always
  have ran :
      (runFrom (loggedStep containerShim)
          (Process.start [], fun _ => none) twoStreamsOverOne).map
            (fun finish =>
              (tableNumbers finish.1.state,
                (finish.1.world.descriptors 3).isNone)) =
        some (([], [3]), true) := by
    decide
  obtain ⟨finish, run, shows⟩ := Option.map_eq_some_iff.mp ran
  obtain ⟨numbers, isClosed⟩ := Prod.mk.inj shows
  have owned :
      StepsMeet (loggedStep containerShim)
        (fun before action _ => OwnedByStreams before.1.world action)
        (Process.start [], fun _ => none) twoStreamsOverOne := by
    intro opened _
    refine ⟨trivial, ?_⟩
    intro firstStream _
    refine ⟨trivial, ?_⟩
    intro secondStream _
    refine ⟨trivial, ?_⟩
    intro firstClosed _
    refine ⟨Or.inl rfl, ?_⟩
    intro openedMeminfo _
    refine ⟨trivial, ?_⟩
    intro secondClosed _
    exact ⟨Or.inl rfl, trivial⟩
  have tables := always finish owned run
  have listed :
      (finish.1.state.entries.filter RpsFdMapEntry.active).map
          RpsFdMapEntry.fd = [3] :=
    (Prod.mk.inj numbers).2
  have three :
      (3 : Int) ∈
        (finish.1.state.entries.filter RpsFdMapEntry.active).map
          RpsFdMapEntry.fd := by
    rw [listed]
    exact List.mem_singleton_self 3
  obtain ⟨entry, member, number⟩ := List.mem_map.mp three
  obtain ⟨held, active⟩ := List.mem_filter.mp member
  have isOpen := (tables.entry entry held active).2.isOpen
  rw [number] at isOpen
  exact isOpen (Option.isNone_iff_eq_none.mp isClosed)

end RunpodShim

import RunpodShim.Library.StepRuns
import RunpodShim.Preload.TrackerRuns
import RunpodShim.Preload.Transparency
import RunpodShim.Sequential.Requests

/-!
# What one step of a sequential run does

The system of the shim and the kernel: calls through the shim, one after the
other, and descriptors that are closed behind its back.  `Effect` says once
what a step can do to the two tables and to the kernel; every invariant over
runs is derived from it.
-/

namespace RunpodShim

open StepRuns

/-- A step: a call through the shim, or a descriptor closed without it. -/
inductive Action where
  | call (answer : Answer) (env : Env) (call : Call)
  | closeBehind (fd : Int)
deriving DecidableEq, Repr

def sequentialStep (shim : Shim) (process : Process Kernel) :
    Action → Option (Process Kernel)
  | .call answer env call =>
      (perform shim (Kernel.real answer) env call process).map Prod.snd
  | .closeBehind fd =>
      some { process with world := process.world.release fd }

/-- A process before its first call. -/
def Process.start (cwd : List CString) : Process Kernel :=
  ⟨.initial, Kernel.initial cwd⟩

/-! ## Effects -/

/-- The descriptor that a call duplicates onto a free number. -/
def Call.duplicates : Call → Option Int
  | .dup oldfd => some oldfd
  | .fcntl fd cmd _ => if fcntlDuplicatesFd cmd then some fd else none
  | _ => none

/-- The descriptor that a call duplicates, and the number that it chooses. -/
def Call.replaces : Call → Option (Int × Int)
  | .dup2 oldfd newfd | .dup3 oldfd newfd _ => some (oldfd, newfd)
  | _ => none

/-- What `close` does to the tables. -/
def dropFd (fd : Int) (state : ShimState) : ShimState :=
  { state with
    entries := rpsFdMapRemove fd state.entries
    nodes := rpsGpuFdMapRemove fd state.nodes }

/-- The tables of two states agree. -/
structure SameTables (before after : ShimState) : Prop where
  nodes : after.nodes = before.nodes
  entries : after.entries = before.entries
  depth : after.depth = before.depth

theorem SameTables.refl (state : ShimState) : SameTables state state :=
  ⟨rfl, rfl, rfl⟩

/-- The call opens nothing, duplicates nothing, reads no table and is no
`close`. -/
structure Call.Quiet (shim : Shim) (state : ShimState) (kernel : Kernel)
    (answer : Answer) (call : Call) : Prop where
  opens : ∀ request, call.openRequest state.nodes = some request →
    ¬ call.Refused shim state → request.file kernel answer = none
  duplicates : ∀ oldfd, call.duplicates = some oldfd →
    kernel.descriptors oldfd = none ∨ kernel.freeFd answer = none
  replaces : ∀ oldfd newfd, call.replaces = some (oldfd, newfd) →
    kernel.replaces answer oldfd newfd = false
  reads : ∀ fd buffer count, call = .read fd buffer count →
    state.depth ≠ 0
  closes : ∀ fd, call ≠ .close fd

/-- What a step does, from a state of the shim and a kernel. -/
inductive Effect (shim : Shim) (state : ShimState) (kernel : Kernel) :
    Action → ShimState → Kernel → Prop where
  | idle {answer : Answer} {env : Env} {call : Call} {after : ShimState}
      (same : SameTables state after)
      (quiet : call.Quiet shim state kernel answer) :
      Effect shim state kernel (.call answer env call) after kernel
  | read {answer : Answer} {env : Env} {after : ShimState}
      (fd : Int) (buffer : Bool) (count : Nat)
      (nodes : after.nodes = state.nodes)
      (entries :
        after.entries =
          (rpsFdMapTakeRead buffer fd count state.entries).2)
      (depth : after.depth = state.depth) :
      Effect shim state kernel (.call answer env (.read fd buffer count))
        after kernel
  | opened {answer : Answer} {env : Env} {call : Call}
      (request : OpenRequest) (file : OpenFile)
      (asked : call.openRequest state.nodes = some request)
      (goesOn : ¬ call.Refused shim state)
      (found :
        kernel.lookup answer request.dirfd request.path = some file)
      (stream : request.stream = false) :
      Effect shim state kernel (.call answer env call)
        (request.record shim env file.first state) (kernel.install file)
  | openedDir {answer : Answer} {env : Env} {call : Call}
      (request : OpenRequest) (file : OpenFile)
      (asked : call.openRequest state.nodes = some request)
      (goesOn : ¬ call.Refused shim state)
      (found :
        kernel.lookup answer request.dirfd request.path = some file)
      (stream : request.stream = true)
      (directory : file.directory = true)
      (unused : kernel.streams answer.dir = none) :
      Effect shim state kernel (.call answer env call)
        (request.record shim env file.first state)
        ((kernel.install file).setStream answer.dir file.first)
  | copied {answer : Answer} {env : Env} {call : Call}
      (oldfd newfd : Int) (file : OpenFile)
      (asked : call.duplicates = some oldfd)
      (named : kernel.descriptors oldfd = some file)
      (free : kernel.freeFd answer = some newfd) :
      Effect shim state kernel (.call answer env call)
        { state with
          nodes := rpsGpuFdMapCopy env.nodeMalloc oldfd newfd state.nodes }
        (kernel.assign newfd file)
  | replaced {answer : Answer} {env : Env} {call : Call}
      (oldfd newfd : Int) (file : OpenFile)
      (asked : call.replaces = some (oldfd, newfd))
      (named : kernel.descriptors oldfd = some file)
      (replaces : kernel.replaces answer oldfd newfd = true) :
      Effect shim state kernel (.call answer env call)
        (Preload.replaceFd env oldfd newfd state)
        (kernel.assign newfd file)
  | closed {answer : Answer} {env : Env} (fd : Int)
      (closes : kernel.closes answer fd = true) :
      Effect shim state kernel (.call answer env (.close fd))
        (dropFd fd state) (kernel.release fd)
  | dropped {answer : Answer} {env : Env} (fd : Int)
      (fails : ¬ kernel.closes answer fd = true) :
      Effect shim state kernel (.call answer env (.close fd))
        (dropFd fd state) kernel
  | streamed {answer : Answer} {env : Env} (fd : Int) (file : OpenFile)
      (named : kernel.descriptors fd = some file)
      (directory : file.directory = true)
      (unused : kernel.streams answer.dir = none) :
      Effect shim state kernel (.call answer env (.fdopendir fd))
        state (kernel.setStream answer.dir fd)
  | closedDir {answer : Answer} {env : Env} (dir : Nat) (fd : Int)
      (stream : kernel.streams dir = some fd)
      (wasOpen : (kernel.descriptors fd).isSome) :
      Effect shim state kernel (.call answer env (.closedir dir))
        { state with
          nodes :=
            if 0 ≤ fd then rpsGpuFdMapRemove fd state.nodes
            else state.nodes }
        ((kernel.release fd).freeStream dir)
  | freedDir {answer : Answer} {env : Env} (dir : Nat) (fd : Int)
      (stream : kernel.streams dir = some fd)
      (fails : kernel.descriptors fd = none ∨
        (answer.fd = none ∧ answer.frees = true)) :
      Effect shim state kernel (.call answer env (.closedir dir))
        state ((kernel.release fd).freeStream dir)
  | closedBehind (fd : Int) :
      Effect shim state kernel (.closeBehind fd) state (kernel.release fd)

section Quiet

variable {shim : Shim} {env : Env} {answer : Answer} {state : ShimState}
variable {kernel : Kernel} {call : Call}

theorem Call.replaces_of_openRequest {nodes : List RpsGpuFdNode}
    {request : OpenRequest}
    (asked : call.openRequest nodes = some request) :
    call.replaces = none := by
  cases call with
  | dup2 oldfd newfd =>
      cases asked
  | dup3 oldfd newfd flags =>
      cases asked
  | _ =>
      rfl

theorem Call.duplicates_of_openRequest {nodes : List RpsGpuFdNode}
    {request : OpenRequest}
    (asked : call.openRequest nodes = some request) :
    call.duplicates = none := by
  cases call with
  | dup oldfd =>
      cases asked
  | fcntl fd cmd arg =>
      cases asked
  | _ =>
      rfl

theorem Call.replaces_of_duplicates {oldfd : Int}
    (asked : call.duplicates = some oldfd) : call.replaces = none := by
  cases call with
  | dup2 oldfd newfd =>
      cases asked
  | dup3 oldfd newfd flags =>
      cases asked
  | _ =>
      rfl

theorem Call.openRequest_of_duplicates {nodes : List RpsGpuFdNode}
    {oldfd : Int} (asked : call.duplicates = some oldfd) :
    call.openRequest nodes = none := by
  cases call with
  | dup fd =>
      rfl
  | fcntl fd cmd arg =>
      rfl
  | _ =>
      cases asked

theorem Call.openRequest_of_replaces {nodes : List RpsGpuFdNode}
    {pair : Int × Int} (asked : call.replaces = some pair) :
    call.openRequest nodes = none := by
  cases call with
  | dup2 oldfd newfd =>
      rfl
  | dup3 oldfd newfd flags =>
      rfl
  | _ =>
      cases asked

theorem Call.duplicates_of_replaces {pair : Int × Int}
    (asked : call.replaces = some pair) : call.duplicates = none := by
  cases call with
  | dup2 oldfd newfd =>
      rfl
  | dup3 oldfd newfd flags =>
      rfl
  | _ =>
      cases asked

def Call.readsOrCloses : Call → Bool
  | .read _ _ _ | .close _ => true
  | _ => false

/-- A call that does none of these. -/
theorem Call.quiet_of_none
    (noOpen : call.openRequest state.nodes = none)
    (noCopy : call.duplicates = none) (noReplace : call.replaces = none)
    (neither : call.readsOrCloses = false) :
    call.Quiet shim state kernel answer where
  opens := by
    intro request asked
    rw [noOpen] at asked
    cases asked
  duplicates := by
    intro oldfd asked
    rw [noCopy] at asked
    cases asked
  replaces := by
    intro oldfd newfd asked
    rw [noReplace] at asked
    cases asked
  reads := by
    intro fd buffer count isRead
    rw [isRead] at neither
    cases neither
  closes := by
    intro fd isClose
    rw [isClose] at neither
    cases neither

theorem Call.quiet_of_refused (refused : call.Refused shim state) :
    call.Quiet shim state kernel answer where
  opens := by
    intro request asked goesOn
    exact absurd refused goesOn
  duplicates := by
    intro oldfd asked
    obtain ⟨_, _, effective, _⟩ := refused
    cases call with
    | dup fd =>
        cases effective
    | fcntl fd cmd arg =>
        cases effective
    | _ =>
        cases asked
  replaces := by
    intro oldfd newfd asked
    obtain ⟨_, _, effective, _⟩ := refused
    cases call with
    | dup2 first second =>
        cases effective
    | dup3 first second flags =>
        cases effective
    | _ =>
        cases asked
  reads := by
    intro fd buffer count isRead
    obtain ⟨_, _, effective, _⟩ := refused
    rw [isRead] at effective
    cases effective
  closes := by
    intro fd isClose
    obtain ⟨_, _, effective, _⟩ := refused
    rw [isClose] at effective
    cases effective

/-- A call that does nothing at all. -/
theorem Effect.nothing (noOpen : call.openRequest state.nodes = none)
    (noCopy : call.duplicates = none) (noReplace : call.replaces = none)
    (neither : call.readsOrCloses = false) :
    Effect shim state kernel (.call answer env call) state kernel :=
  .idle (.refl state)
    (Call.quiet_of_none noOpen noCopy noReplace neither)

/-- An opening call that fails. -/
theorem Effect.unopened {request : OpenRequest}
    (asked : call.openRequest state.nodes = some request)
    (fails : request.file kernel answer = none) :
    Effect shim state kernel (.call answer env call) state kernel := by
  apply Effect.idle (.refl state)
  constructor
  · intro other same _
    rw [asked] at same
    cases same
    exact fails
  · intro oldfd duplicates
    rw [Call.duplicates_of_openRequest asked] at duplicates
    cases duplicates
  · intro oldfd newfd replaces
    rw [Call.replaces_of_openRequest asked] at replaces
    cases replaces
  · intro fd buffer count isRead
    rw [isRead] at asked
    cases asked
  · intro fd isClose
    rw [isClose] at asked
    cases asked

/-- A duplicating call that fails. -/
theorem Effect.uncopied {oldfd : Int}
    (asked : call.duplicates = some oldfd)
    (fails :
      kernel.descriptors oldfd = none ∨ kernel.freeFd answer = none) :
    Effect shim state kernel (.call answer env call) state kernel := by
  apply Effect.idle (.refl state)
  constructor
  · intro request same
    rw [Call.openRequest_of_duplicates asked] at same
    cases same
  · intro other same
    rw [asked] at same
    cases same
    exact fails
  · intro first second replaces
    rw [Call.replaces_of_duplicates asked] at replaces
    cases replaces
  · intro fd buffer count isRead
    rw [isRead] at asked
    cases asked
  · intro fd isClose
    rw [isClose] at asked
    cases asked

/-- A `dup2` or `dup3` that fails, or that has nothing to do. -/
theorem Effect.unreplaced {oldfd newfd : Int}
    (asked : call.replaces = some (oldfd, newfd))
    (fails : kernel.replaces answer oldfd newfd = false) :
    Effect shim state kernel (.call answer env call) state kernel := by
  apply Effect.idle (.refl state)
  constructor
  · intro request same
    rw [Call.openRequest_of_replaces asked] at same
    cases same
  · intro other same
    rw [Call.duplicates_of_replaces asked] at same
    cases same
  · intro first second same
    rw [asked] at same
    cases same
    exact fails
  · intro fd buffer count isRead
    rw [isRead] at asked
    cases asked
  · intro fd isClose
    rw [isClose] at asked
    cases asked

end Quiet

section Opening

variable {shim : Shim} {env : Env} {answer : Answer} {state : ShimState}
variable {kernel : Kernel}

theorem openatReal_real (large : Bool) (dirfd : Int)
    (path : Option CString) (flags : UInt32) (mode : Option UInt32) :
    openatReal (Kernel.real answer) large dirfd path flags mode kernel =
      Kernel.openAt answer dirfd path kernel := by
  cases large <;> rfl

theorem opendirReal_real (large : Bool) (path : Option CString) :
    Preload.opendirReal (Kernel.real answer) large path kernel =
      Kernel.opendir answer path kernel := by
  cases large <;> rfl

/-- A call that is not refused was not denied by either decision. -/
theorem Call.allows_of_not_refused {call : Call}
    (goesOn : ¬ call.Refused shim state)
    {result : RpsGpuEffectivePathResult} {path : Option CString}
    (effective :
      call.effectivePath state.nodes = some (result, path)) :
    result ≠ .deny ∧ gpuProcDenied shim path = false := by
  constructor
  · intro isDeny
    exact goesOn ⟨result, path, effective, Or.inl isDeny⟩
  · apply Bool.eq_false_iff.mpr
    intro denies
    exact goesOn ⟨result, path, effective, Or.inr denies⟩

/-- The effect of an opening call, from what it does with its request. -/
theorem effect_openAt {call : Call} {request : OpenRequest}
    (asked : call.openRequest state.nodes = some request)
    (goesOn : ¬ call.Refused shim state)
    (stream : request.stream = false) :
    Effect shim state kernel (.call answer env call)
      (request.record shim env
        (Kernel.openAt answer request.dirfd request.path
          kernel).1.value state)
      (Kernel.openAt answer request.dirfd request.path kernel).2 := by
  unfold Kernel.openAt
  cases found : kernel.lookup answer request.dirfd request.path with
  | none =>
      simp only [request.record_of_neg (Kernel.failure_neg answer)]
      apply Effect.unopened asked
      rw [OpenRequest.file, found, Option.filter_none]
  | some file =>
      exact .opened request file asked goesOn found stream

theorem effect_openCommon {call : Call} {path : Option CString}
    {flags : UInt32}
    (asked :
      call.openRequest state.nodes =
        some ⟨atFdcwd, path, some flags, some path, false⟩)
    (goesOn : ¬ call.Refused shim state)
    (allows : gpuProcDenied shim path = false)
    (mode : Option UInt32) (large : Bool) :
    Effect shim state kernel (.call answer env call)
      (openCommon shim (Kernel.real answer) env path flags mode large
        ⟨state, kernel⟩).2.state
      (openCommon shim (Kernel.real answer) env path flags mode large
        ⟨state, kernel⟩).2.world := by
  have opens :
      Effect shim state kernel (.call answer env call) _ _ :=
    effect_openAt asked goesOn rfl
  have notDenied : ¬ gpuProcDenied shim path = true := by
    simp [allows]
  rw [openCommon, if_neg notDenied]
  cases large <;> exact opens

theorem effect_openatCommon (call : Call) (dirfd : Int)
    (path : Option CString) (flags unread : UInt32)
    (asked :
      call.openRequest state.nodes =
        Call.openRequest state.nodes (.openat dirfd path flags unread))
    (goesOn : ¬ call.Refused shim state)
    (effective :
      call.effectivePath state.nodes =
        some (gpuEffectiveOpenatPath state.nodes dirfd path rpsGpuPathMax))
    (mode : Option UInt32) (large : Bool) :
    Effect shim state kernel (.call answer env call)
      (openatCommon shim (Kernel.real answer) env dirfd path flags mode
        large ⟨state, kernel⟩).2.state
      (openatCommon shim (Kernel.real answer) env dirfd path flags mode
        large ⟨state, kernel⟩).2.world := by
  obtain ⟨resolved, allows⟩ :=
    Call.allows_of_not_refused goesOn effective
  have opens :
      Effect shim state kernel (.call answer env call) _ _ :=
    effect_openAt asked goesOn rfl
  rw [openatCommon_of_allowed (Kernel.real answer) env rfl resolved allows]
  rw [OpenRequest.record_openat] at opens
  simp only [openatReal_real]
  exact opens

theorem effect_opendirCommon {call : Call} {path : Option CString}
    (asked :
      call.openRequest state.nodes =
        some ⟨atFdcwd, path, none, some path, true⟩)
    (goesOn : ¬ call.Refused shim state)
    (allows : gpuProcDenied shim path = false) (large : Bool) :
    Effect shim state kernel (.call answer env call)
      (Preload.opendirCommon shim (Kernel.real answer) env path large
        ⟨state, kernel⟩).2.state
      (Preload.opendirCommon shim (Kernel.real answer) env path large
        ⟨state, kernel⟩).2.world := by
  have notDenied : ¬ gpuProcDenied shim path = true := by
    simp [allows]
  simp only [Preload.opendirCommon, if_neg notDenied, opendirReal_real,
    Kernel.opendir]
  cases found : kernel.lookup answer atFdcwd path with
  | none =>
      apply Effect.unopened asked
      rw [OpenRequest.file, found, Option.filter_none]
  | some file =>
      by_cases met :
          file.directory = true ∧ kernel.streams answer.dir = none
      · simp only [if_pos met]
        have number :
            (Kernel.real answer).dirfd answer.dir
              ((kernel.install file).setStream answer.dir file.first) =
                file.first := by
          simp [Kernel.real, Kernel.dirfd]
        rw [number]
        exact .openedDir _ file asked goesOn found rfl met.1 met.2
      · simp only [if_neg met]
        apply Effect.unopened asked
        rw [OpenRequest.file, found, Option.filter_some, if_neg]
        simpa using met

end Opening

section Calls

variable {shim : Shim} {env : Env} {answer : Answer} {state : ShimState}
variable {kernel : Kernel} {call : Call} {after : Process Kernel}

theorem effect_dup {oldfd : Int} (asked : call.duplicates = some oldfd) :
    Effect shim state kernel (.call answer env call)
      (if (Kernel.dup answer oldfd kernel).1.value ≥ 0 then
        { state with
          nodes :=
            rpsGpuFdMapCopy env.nodeMalloc oldfd
              (Kernel.dup answer oldfd kernel).1.value state.nodes }
      else state)
      (Kernel.dup answer oldfd kernel).2 := by
  have failed : ¬ (Kernel.failure answer).value ≥ 0 :=
    Int.not_le.mpr (Kernel.failure_neg answer)
  unfold Kernel.dup
  cases named : kernel.descriptors oldfd with
  | none =>
      simp only [if_neg failed]
      exact .uncopied asked (Or.inl named)
  | some file =>
      cases free : kernel.freeFd answer with
      | none =>
          simp only [if_neg failed]
          exact .uncopied asked (Or.inr free)
      | some newfd =>
          have opened : newfd ≥ 0 := Kernel.nonneg_of_freeFd free
          simp only [if_pos opened]
          exact .copied oldfd newfd file asked named free

theorem effect_dup3 {oldfd newfd : Int}
    (asked : call.replaces = some (oldfd, newfd)) :
    Effect shim state kernel (.call answer env call)
      (if (Kernel.dup3 answer oldfd newfd kernel).1.value ≥ 0 then
        Preload.replaceFd env oldfd newfd state
      else state)
      (Kernel.dup3 answer oldfd newfd kernel).2 := by
  have failed : ¬ (Kernel.failure answer).value ≥ 0 :=
    Int.not_le.mpr (Kernel.failure_neg answer)
  unfold Kernel.dup3
  cases named : kernel.descriptors oldfd with
  | none =>
      simp only [if_neg failed]
      exact .unreplaced asked (by simp [Kernel.replaces, named])
  | some file =>
      simp only
      by_cases replaces : kernel.replaces answer oldfd newfd = true
      · have opened : newfd ≥ 0 := Kernel.nonneg_of_replaces replaces
        simp only [if_pos replaces, if_pos opened]
        exact .replaced oldfd newfd file asked named replaces
      · simp only [if_neg replaces, if_neg failed]
        exact .unreplaced asked (Bool.eq_false_iff.mpr replaces)

theorem effect_close (fd : Int) :
    Effect shim state kernel (.call answer env (.close fd))
      (dropFd fd state) (Kernel.close answer fd kernel).2 := by
  unfold Kernel.close
  split
  · rename_i closes
    exact .closed fd closes
  · rename_i fails
    exact .dropped fd fails

/-- A descriptor that replaces itself stays as it is. -/
theorem effect_dup2 (oldfd newfd : Int) :
    Effect shim state kernel (.call answer env (.dup2 oldfd newfd))
      (if (Kernel.dup2 answer oldfd newfd kernel).1.value ≥ 0 ∧
          oldfd ≠ newfd then
        Preload.replaceFd env oldfd newfd state
      else state)
      (Kernel.dup2 answer oldfd newfd kernel).2 := by
  by_cases same : oldfd = newfd
  · have never : kernel.replaces answer oldfd newfd = false := by
      simp [Kernel.replaces, same]
    have unchanged :
        (Kernel.dup2 answer oldfd newfd kernel).2 = kernel := by
      unfold Kernel.dup2 Kernel.dup3
      simp only [never, Bool.false_eq_true, if_false]
      split
      · rfl
      · split <;> rfl
    rw [unchanged, if_neg fun both => both.2 same]
    exact .unreplaced rfl never
  · have itself :
        ¬ (oldfd = newfd ∧ (kernel.descriptors oldfd).isSome = true) := by
      intro both
      exact same both.1
    rw [Kernel.dup2, if_neg itself]
    simp only [ne_eq, same, not_false_eq_true, and_true]
    exact effect_dup3 rfl

/-- Only the two commands that duplicate do anything. -/
theorem effect_fcntl (fd cmd : Int) (arg : Option UInt64) :
    Effect shim state kernel (.call answer env (.fcntl fd cmd arg))
      (if (Kernel.fcntl answer fd cmd kernel).1.value ≥ 0 ∧
          fcntlDuplicatesFd cmd = true then
        { state with
          nodes :=
            rpsGpuFdMapCopy env.nodeMalloc fd
              (Kernel.fcntl answer fd cmd kernel).1.value state.nodes }
      else state)
      (Kernel.fcntl answer fd cmd kernel).2 := by
  unfold Kernel.fcntl
  by_cases duplicates : fcntlDuplicatesFd cmd = true
  · have asked :
        (Call.fcntl fd cmd arg).duplicates = some fd := by
      simp [Call.duplicates, duplicates]
    have copies :
        Effect shim state kernel
          (.call answer env (.fcntl fd cmd arg)) _ _ :=
      effect_dup asked
    simp only [if_pos duplicates]
    simpa only [duplicates, and_true] using copies
  · rw [if_neg duplicates, if_neg fun both => duplicates both.2]
    exact .nothing rfl (if_neg duplicates) rfl rfl

theorem effect_fdopendir (fd : Int) :
    Effect shim state kernel (.call answer env (.fdopendir fd)) state
      (Kernel.fdopendir answer fd kernel).2 := by
  unfold Kernel.fdopendir
  split
  · rename_i succeeds
    obtain ⟨isDirectory, _, unused⟩ := succeeds
    obtain ⟨file, found⟩ := Option.isSome_iff_exists.mp isDirectory
    obtain ⟨named, directory⟩ := Option.filter_eq_some_iff.mp found
    exact .streamed fd file named directory unused
  · exact .nothing rfl rfl rfl rfl

theorem effect_closedir (dir : Nat) :
    Effect shim state kernel (.call answer env (.closedir dir))
      (Preload.closedir (Kernel.real answer) dir ⟨state, kernel⟩).2.state
      (Preload.closedir (Kernel.real answer) dir
        ⟨state, kernel⟩).2.world := by
  have failed : ¬ ((Kernel.failure answer).value = 0 ∧
      Kernel.dirfd dir kernel ≥ 0) := by
    intro both
    exact absurd both.1 (Int.ne_of_lt (Kernel.failure_neg answer))
  show Effect shim state kernel _
    (if (Kernel.closedir answer dir kernel).1.value = 0 ∧
        Kernel.dirfd dir kernel ≥ 0 then
      { state with
        nodes :=
          rpsGpuFdMapRemove (Kernel.dirfd dir kernel) state.nodes }
    else state)
    (Kernel.closedir answer dir kernel).2
  unfold Kernel.closedir
  cases stream : kernel.streams dir with
  | none =>
      simp only [if_neg failed]
      exact .nothing rfl rfl rfl rfl
  | some fd =>
      have number : Kernel.dirfd dir kernel = fd := by
        simp [Kernel.dirfd, stream]
      by_cases succeeds :
          answer.fd.isSome = true ∧ (kernel.descriptors fd).isSome = true
      · simp only [if_pos succeeds, number, true_and]
        have closes :
            Effect shim state kernel
              (.call answer env (.closedir dir)) _ _ :=
          .closedDir dir fd stream succeeds.2
        by_cases valid : 0 ≤ fd
        · simpa only [ge_iff_le, if_pos valid] using closes
        · simpa only [ge_iff_le, if_neg valid] using closes
      · by_cases frees : answer.fd.isSome = true ∨ answer.frees = true
        · simp only [if_neg succeeds, if_pos frees, if_neg failed]
          apply Effect.freedDir dir fd stream
          by_cases answered : answer.fd.isSome = true
          · left
            simpa [answered] using succeeds
          · right
            exact ⟨by simpa using answered, frees.resolve_left answered⟩
        · simp only [if_neg succeeds, if_neg frees, if_neg failed]
          exact .nothing rfl rfl rfl rfl

theorem effect_read (fd : Int) (buffer : Bool) (count : Nat) :
    Effect shim state kernel (.call answer env (.read fd buffer count))
      (Preload.read (Kernel.real answer) fd buffer count
        ⟨state, kernel⟩).2.state
      (Preload.read (Kernel.real answer) fd buffer count
        ⟨state, kernel⟩).2.world := by
  unfold Preload.read
  cases entered : rpsGuardEnter state.depth with
  | none =>
      apply Effect.idle (.refl state)
      refine ⟨nofun, nofun, nofun, ?_, nofun⟩
      intro _ _ _ _ free
      rw [rpsGuardEnter, if_neg (not_not.mpr free)] at entered
      cases entered
  | some inside =>
      have left := rpsGuardLeave_of_rpsGuardEnter entered
      cases taken :
          (rpsFdMapTakeRead buffer fd count state.entries).1 with
      | none =>
          simp only [taken]
          exact .read fd buffer count rfl rfl left
      | some bytes =>
          simp only [taken]
          exact .read fd buffer count rfl rfl left

/-- A stream of this kernel has no entries to skip. -/
theorem world_readVisible {rounds dir : Nat}
    {entry : Ret (Option DirEntry)}
    (read :
      Preload.readVisible shim (Kernel.real answer)
          (Kernel.real answer).readdir rounds dir ⟨state, kernel⟩ =
        some (entry, after)) :
    after.world = kernel := by
  unfold Preload.readVisible Preload.skipHidden at read
  cases read
  rfl

theorem process_of_reply {Value : Type} {form : Value → Reply}
    {reply : Reply} {called : Value × Process Kernel}
    (performed : some (called.map form id) = some (reply, after)) :
    after = called.2 :=
  (congrArg Prod.snd (Option.some.inj performed)).symm

theorem effect_of_same (stateSame : SameTables state after.state)
    (worldSame : after.world = kernel)
    (quiet : call.Quiet shim state kernel answer) :
    Effect shim state kernel (.call answer env call)
      after.state after.world := by
  rw [worldSame]
  exact .idle stateSame quiet

/-- What a call that is not refused does. -/
theorem effect_of_goesOn {reply : Reply}
    (goesOn : ¬ call.Refused shim state)
    (performed :
      perform shim (Kernel.real answer) env call ⟨state, kernel⟩ =
        some (reply, after)) :
    Effect shim state kernel (.call answer env call)
      after.state after.world := by
  cases call with
  | open_ path flags mode =>
      obtain ⟨_, allows⟩ := Call.allows_of_not_refused goesOn rfl
      rw [process_of_reply performed]
      exact effect_openCommon rfl goesOn allows _ false
  | open64 path flags mode =>
      obtain ⟨_, allows⟩ := Call.allows_of_not_refused goesOn rfl
      rw [process_of_reply performed]
      exact effect_openCommon rfl goesOn allows _ true
  | openat dirfd path flags mode =>
      rw [process_of_reply performed]
      exact
        effect_openatCommon (.openat dirfd path flags mode) dirfd path
          flags mode rfl goesOn rfl _ false
  | openat64 dirfd path flags mode =>
      rw [process_of_reply performed]
      exact
        effect_openatCommon (.openat64 dirfd path flags mode) dirfd path
          flags mode rfl goesOn rfl _ true
  | opendir path =>
      obtain ⟨_, allows⟩ := Call.allows_of_not_refused goesOn rfl
      rw [process_of_reply performed]
      exact effect_opendirCommon rfl goesOn allows false
  | opendir64 path =>
      obtain ⟨_, allows⟩ := Call.allows_of_not_refused goesOn rfl
      rw [process_of_reply performed]
      exact effect_opendirCommon rfl goesOn allows true
  | read fd buffer count =>
      rw [process_of_reply performed]
      exact effect_read fd buffer count
  | close fd =>
      rw [process_of_reply performed]
      exact effect_close fd
  | dup oldfd =>
      rw [process_of_reply performed]
      exact effect_dup rfl
  | dup2 oldfd newfd =>
      rw [process_of_reply performed]
      exact effect_dup2 oldfd newfd
  | dup3 oldfd newfd flags =>
      rw [process_of_reply performed]
      exact effect_dup3 rfl
  | fcntl fd cmd arg =>
      rw [process_of_reply performed]
      exact effect_fcntl fd cmd arg
  | fdopendir fd =>
      rw [process_of_reply performed]
      exact effect_fdopendir fd
  | closedir dir =>
      rw [process_of_reply performed]
      exact effect_closedir dir
  | readdir rounds dir =>
      obtain ⟨⟨entry, reached⟩, read, whole⟩ :=
        Option.map_eq_some_iff.mp performed
      cases whole
      have same := state_readVisible read
      have tables : SameTables state reached.state := by
        rw [same]
        exact .refl state
      exact
        effect_of_same tables (world_readVisible read)
          (Call.quiet_of_none rfl rfl rfl rfl)
  | stat path =>
      rw [process_of_reply performed]
      obtain ⟨_, allows⟩ := Call.allows_of_not_refused goesOn rfl
      simp only [Preload.stat, allows, Bool.false_eq_true, if_false]
      exact .nothing rfl rfl rfl rfl
  | newfstatat dirfd path flags =>
      rw [process_of_reply performed]
      obtain ⟨resolved, allows⟩ := Call.allows_of_not_refused goesOn rfl
      simp only [Preload.newfstatat,
        fstatatCommon_of_allowed _ rfl resolved allows]
      exact .nothing rfl rfl rfl rfl
  | fstatat dirfd path flags =>
      rw [process_of_reply performed]
      obtain ⟨resolved, allows⟩ := Call.allows_of_not_refused goesOn rfl
      simp only [Preload.fstatat,
        fstatatCommon_of_allowed _ rfl resolved allows]
      exact .nothing rfl rfl rfl rfl
  | ioctl fd request arg =>
      rw [process_of_reply performed]
      simp only [Preload.ioctl]
      split
      · exact .idle ⟨rfl, rfl, rfl⟩ (Call.quiet_of_none rfl rfl rfl rfl)
      · exact .nothing rfl rfl rfl rfl
  | _ =>
      cases performed
      exact .nothing rfl rfl rfl rfl

/-- What a step of the system does. -/
theorem effect_of_step {before after : Process Kernel} {action : Action}
    (taken : sequentialStep shim before action = some after) :
    Effect shim before.state before.world action after.state
      after.world := by
  cases action with
  | closeBehind fd =>
      cases taken
      exact .closedBehind fd
  | call answer env call =>
      obtain ⟨⟨reply, reached⟩, performed, rfl⟩ :=
        Option.map_eq_some_iff.mp taken
      by_cases refused : call.Refused shim before.state
      · rw [perform_of_refused refused] at performed
        cases performed
        exact .idle (.refl _) (Call.quiet_of_refused refused)
      · exact effect_of_goesOn refused performed

end Calls

/-! ## What a call that succeeds does -/

section Succeeds

variable {shim : Shim} {env : Env} {answer : Answer} {call : Call}
variable {state after : ShimState} {kernel later : Kernel}

theorem Effect.of_file {request : OpenRequest} {file : OpenFile}
    (done : Effect shim state kernel (.call answer env call) after later)
    (asked : call.openRequest state.nodes = some request)
    (goesOn : ¬ call.Refused shim state)
    (made : request.file kernel answer = some file) :
    after = request.record shim env file.first state ∧
      later.descriptors = (kernel.install file).descriptors ∧
      later.nextId = kernel.nextId + 1 := by
  have looked := OpenRequest.lookup_of_file made
  cases done with
  | idle same quiet =>
      rw [quiet.opens request asked goesOn] at made
      cases made
  | opened other opened same _ found stream =>
      rw [asked] at same
      cases same
      rw [looked] at found
      cases found
      exact ⟨rfl, rfl, rfl⟩
  | openedDir other opened same _ found stream directory unused =>
      rw [asked] at same
      cases same
      rw [looked] at found
      cases found
      exact ⟨rfl, rfl, rfl⟩
  | copied oldfd newfd opened duplicates named free =>
      rw [Call.openRequest_of_duplicates duplicates] at asked
      cases asked
  | replaced oldfd newfd opened replaces named succeeds =>
      rw [Call.openRequest_of_replaces replaces] at asked
      cases asked
  | _ =>
      cases asked

theorem Effect.of_duplicates {oldfd newfd : Int} {file : OpenFile}
    (done : Effect shim state kernel (.call answer env call) after later)
    (asked : call.duplicates = some oldfd)
    (named : kernel.descriptors oldfd = some file)
    (free : kernel.freeFd answer = some newfd) :
    after =
        { state with
          nodes :=
            rpsGpuFdMapCopy env.nodeMalloc oldfd newfd state.nodes } ∧
      later = kernel.assign newfd file := by
  have noOpen : call.openRequest state.nodes = none :=
    Call.openRequest_of_duplicates asked
  cases done with
  | idle same quiet =>
      have fails := quiet.duplicates oldfd asked
      rw [named, free] at fails
      rcases fails with impossible | impossible <;> cases impossible
  | opened request opened opens _ found stream =>
      rw [noOpen] at opens
      cases opens
  | openedDir request opened opens _ found stream directory unused =>
      rw [noOpen] at opens
      cases opens
  | copied first second opened same other number =>
      rw [asked] at same
      cases same
      rw [named] at other
      cases other
      rw [free] at number
      cases number
      exact ⟨rfl, rfl⟩
  | replaced first second opened replaces other succeeds =>
      rw [Call.duplicates_of_replaces replaces] at asked
      cases asked
  | _ =>
      cases asked

theorem Effect.of_replaces {oldfd newfd : Int} {file : OpenFile}
    (done : Effect shim state kernel (.call answer env call) after later)
    (asked : call.replaces = some (oldfd, newfd))
    (named : kernel.descriptors oldfd = some file)
    (succeeds : kernel.replaces answer oldfd newfd = true) :
    after = Preload.replaceFd env oldfd newfd state ∧
      later = kernel.assign newfd file := by
  have noOpen : call.openRequest state.nodes = none :=
    Call.openRequest_of_replaces asked
  cases done with
  | idle same quiet =>
      rw [quiet.replaces oldfd newfd asked] at succeeds
      cases succeeds
  | opened request opened opens _ found stream =>
      rw [noOpen] at opens
      cases opens
  | openedDir request opened opens _ found stream directory unused =>
      rw [noOpen] at opens
      cases opens
  | copied first second opened duplicates other number =>
      rw [Call.replaces_of_duplicates duplicates] at asked
      cases asked
  | replaced first second opened same other _ =>
      rw [asked] at same
      cases same
      rw [named] at other
      cases other
      exact ⟨rfl, rfl⟩
  | _ =>
      cases asked

end Succeeds

/-! ## What every step keeps -/

section Keeps

variable {shim : Shim} {state after : ShimState} {kernel later : Kernel}
variable {action : Action}

theorem Effect.sound
    (effect : Effect shim state kernel action after later)
    (sound : kernel.Sound) : later.Sound := by
  cases effect with
  | idle same quiet =>
      exact sound
  | read fd buffer count nodes entries depth =>
      exact sound
  | opened request file asked goesOn found stream =>
      exact sound.install found
  | openedDir request file asked goesOn found stream directory unused =>
      have installed := sound.install found
      exact ⟨installed.nonneg, installed.used, installed.regular⟩
  | copied oldfd newfd file asked named free =>
      exact sound.assign (Kernel.nonneg_of_freeFd free) ⟨oldfd, named⟩
  | replaced oldfd newfd file asked named replaces =>
      exact sound.assign (Kernel.nonneg_of_replaces replaces) ⟨oldfd, named⟩
  | closed fd closes =>
      exact sound.release fd
  | dropped fd fails =>
      exact sound
  | streamed fd file named directory unused =>
      exact ⟨sound.nonneg, sound.used, sound.regular⟩
  | closedDir dir fd stream wasOpen =>
      have released := sound.release fd
      exact ⟨released.nonneg, released.used, released.regular⟩
  | freedDir dir fd stream fails =>
      have released := sound.release fd
      exact ⟨released.nonneg, released.used, released.regular⟩
  | closedBehind fd =>
      exact sound.release fd

theorem Effect.wellKept
    (effect : Effect shim state kernel action after later)
    (kept : WellKept state.nodes) : WellKept after.nodes := by
  cases effect with
  | idle same quiet =>
      exact same.nodes ▸ kept
  | read fd buffer count nodes entries depth =>
      exact nodes ▸ kept
  | opened request file asked goesOn found stream =>
      exact kept.record
  | openedDir request file asked goesOn found stream directory unused =>
      exact kept.record
  | copied oldfd newfd file asked named free =>
      exact kept.copy _ oldfd newfd
  | replaced oldfd newfd file asked named replaces =>
      exact kept.copy _ oldfd newfd
  | closed fd closes =>
      exact kept.remove fd
  | dropped fd fails =>
      exact kept.remove fd
  | closedDir dir fd stream wasOpen =>
      simp only
      split
      · exact kept.remove fd
      · exact kept
  | streamed | freedDir | closedBehind =>
      exact kept

theorem Effect.tableKept
    (effect : Effect shim state kernel action after later)
    (kept : TableKept state.entries) : TableKept after.entries := by
  cases effect with
  | idle same quiet =>
      exact same.entries ▸ kept
  | read fd buffer count nodes entries depth =>
      rw [entries]
      by_cases usable : buffer = true ∨ count = 0
      · exact kept.takeRead usable fd
      · rw [rpsFdMapTakeRead_of_unusable usable]
        exact kept
  | opened request file asked goesOn found stream =>
      exact kept.record
  | openedDir request file asked goesOn found stream directory unused =>
      exact kept.record
  | replaced oldfd newfd file asked named replaces =>
      exact kept.remove newfd
  | closed fd closes =>
      exact kept.remove fd
  | dropped fd fails =>
      exact kept.remove fd
  | copied | streamed | closedDir | freedDir | closedBehind =>
      exact kept

theorem Effect.depth
    (effect : Effect shim state kernel action after later) :
    after.depth = state.depth := by
  cases effect with
  | idle same quiet =>
      exact same.depth
  | read fd buffer count nodes entries depth =>
      exact depth
  | opened request file asked goesOn found stream =>
      exact request.depth_record
  | openedDir request file asked goesOn found stream directory unused =>
      exact request.depth_record
  | _ =>
      rfl

end Keeps

end RunpodShim

import RunpodShim.Behaviour.DriverViews
import RunpodShim.Sequential.ExactTracker

/-!
# The driver's views over whole runs

Runs of a process that makes any calls, among them ioctls on any descriptors.
The driver of `/dev/nvidiactl` lists GPUs of one inventory; every other file
answers an ioctl with whatever it likes.
-/

namespace RunpodShim

open StepRuns

/-- `/dev/nvidiactl`. -/
def ctlPath : CString := cstr "/dev/nvidiactl"

/-- The real functions, with the reply that an `ioctl` gets. -/
def Real.replying {World : Type} (real : Real World) (reply : IoctlReply) :
    Real World :=
  { real with ioctl := fun _ _ _ world => (reply, world) }

/-- The process, the openings of its descriptions, and what the driver has
answered on its control descriptors. -/
structure DriverHistory where
  openings : Nat → Option Opening
  answered : List (UInt64 × IoctlReply)

def DriverHistory.initial : DriverHistory where
  openings := fun _ => none
  answered := []

/-- A step, with the reply that it gets if it is an ioctl. -/
abbrev DriverAction := Action × IoctlReply

/-- The descriptor names a description opened as `/dev/nvidiactl`. -/
def OnCtl (kernel : Kernel) (log : Nat → Option Opening) (fd : Int) :
    Prop :=
  ∃ opening,
    openingAt kernel log fd = some opening ∧
      opening.path = some ctlPath

instance (kernel : Kernel) (log : Nat → Option Opening) (fd : Int) :
    Decidable (OnCtl kernel log fd) :=
  match found : openingAt kernel log fd with
  | none =>
      isFalse fun ⟨_, same, _⟩ => by
        rw [found] at same
        cases same
  | some opening =>
      decidable_of_iff (opening.path = some ctlPath)
        ⟨fun isCtl => ⟨opening, found, isCtl⟩,
          fun ⟨_, same, isCtl⟩ => by
            rw [found] at same
            cases same
            exact isCtl⟩

def processStep (shim : Shim) (process : Process Kernel) :
    DriverAction → Option (Process Kernel)
  | (.call answer env call, reply) =>
      (perform shim ((Kernel.real answer).replying reply) env call
        process).map Prod.snd
  | (.closeBehind fd, _) =>
      some { process with world := process.world.release fd }

/-- The ioctl of a step, if it is one. -/
def Action.ioctl : Action → Option (Int × UInt64)
  | .call _ _ (.ioctl fd request _) => some (fd, request)
  | _ => none

def logReply (kernel : Kernel) (history : DriverHistory) :
    DriverAction → List (UInt64 × IoctlReply)
  | (action, reply) =>
      match action.ioctl with
      | none => history.answered
      | some (fd, request) =>
          if OnCtl kernel history.openings fd then
            history.answered ++ [(request, reply)]
          else history.answered

/-- The system with the openings and the driver's answers. -/
def driverStep (shim : Shim) :
    Process Kernel × DriverHistory → DriverAction →
      Option (Process Kernel × DriverHistory) :=
  withHistory (processStep shim) fun before action after history =>
    { openings :=
        logOpening shim before.state.nodes before.world action.1 after.world
          history.openings
      answered := logReply before.world history action }

/-- The reply to a request is one of the three answers. -/
def Answers (request : UInt64) (reply : IoctlReply) (query : DriverQuery) :
    Prop :=
  query.request = request ∧ query.reply = reply

/-- The driver of the inventory gives the replies on its control
descriptors. -/
def FromDriver (inventory : Inventory)
    (before : Process Kernel × DriverHistory) (action : DriverAction) :
    Prop :=
  ∀ fd request, action.1.ioctl = some (fd, request) →
    OnCtl before.1.world before.2.openings fd →
      ∀ query, Answers request action.2 query → query.Succeeds →
        query.Lists inventory

/-- An answer of the driver listed an allowed GPU in card info. -/
def HasListedAllowed (allowed : RpsGpuAllowedGpus)
    (answered : List (UInt64 × IoctlReply)) : Prop :=
  ∃ entry query,
    entry ∈ answered ∧ Answers entry.1 entry.2 query ∧
      query.ListsAllowed allowed

/-! ## What a step does to the tables and to the learned ids -/

section Steps

variable {World : Type} {shim : Shim} {real : Real World} {env : Env}
variable {process after : Process World} {call : Call} {reply : Reply}

def Call.isIoctl : Call → Bool
  | .ioctl _ _ _ => true
  | _ => false

/-- The reply to ioctls is all that the calls can tell apart. -/
theorem perform_replying (given : IoctlReply)
    (other : call.isIoctl = false) :
    perform shim (real.replying given) env call process =
      perform shim real env call process := by
  cases call with
  | ioctl fd request arg =>
      cases other
  | _ =>
      rfl

@[simp]
theorem allowedGpuIds_maybeAttachMeminfo {fd : Int}
    {path : Option CString} {flags : UInt32} {state : ShimState} :
    (maybeAttachMeminfo shim env fd path flags state).allowedGpuIds =
      state.allowedGpuIds := by
  rw [maybeAttachMeminfo_eq]

@[simp]
theorem allowedGpuIds_gpuTraceAndTrackOpen {path : Option CString}
    {fd : Int} {state : ShimState} :
    (gpuTraceAndTrackOpen shim env path fd state).allowedGpuIds =
      state.allowedGpuIds := by
  rw [gpuTraceAndTrackOpen_eq]

theorem allowedGpuIds_openCommon (path : Option CString) (flags : UInt32)
    (mode : Option UInt32) (large : Bool) :
    (openCommon shim real env path flags mode large
      process).2.state.allowedGpuIds = process.state.allowedGpuIds := by
  unfold openCommon
  split
  · rfl
  · simp

theorem allowedGpuIds_openatCommon (dirfd : Int) (path : Option CString)
    (flags : UInt32) (mode : Option UInt32) (large : Bool) :
    (openatCommon shim real env dirfd path flags mode large
      process).2.state.allowedGpuIds = process.state.allowedGpuIds := by
  unfold openatCommon
  split
  · rfl
  · split
    · rfl
    · simp only
      split
      · simp only [allowedGpuIds_gpuTraceAndTrackOpen]
        split
        · simp
        · rfl
      · split
        · simp
        · rfl

theorem allowedGpuIds_opendirCommon (path : Option CString)
    (large : Bool) :
    (Preload.opendirCommon shim real env path large
      process).2.state.allowedGpuIds = process.state.allowedGpuIds := by
  unfold Preload.opendirCommon
  split
  · rfl
  · simp only
    split
    · simp
    · rfl

theorem allowedGpuIds_read (fd : Int) (buffer : Bool) (count : Nat) :
    (Preload.read real fd buffer count process).2.state.allowedGpuIds =
      process.state.allowedGpuIds := by
  unfold Preload.read
  cases rpsGuardEnter process.state.depth with
  | none =>
      rfl
  | some inside =>
      cases taken :
          (rpsFdMapTakeRead buffer fd count process.state.entries).1 with
      | none =>
          simp only [taken]
      | some bytes =>
          simp only [taken]

theorem allowedGpuIds_stat (path : Option CString) :
    (Preload.stat shim real path process).2.state.allowedGpuIds =
      process.state.allowedGpuIds := by
  unfold Preload.stat
  split <;> rfl

theorem allowedGpuIds_fstatatCommon (dirfd : Int) (path : Option CString)
    (flags : UInt32) :
    (Preload.fstatatCommon shim real dirfd path flags
      process).2.state.allowedGpuIds = process.state.allowedGpuIds := by
  unfold Preload.fstatatCommon
  split
  · rfl
  · split <;> rfl

theorem allowedGpuIds_fdopendir (fd : Int) :
    (Preload.fdopendir real fd process).2.state.allowedGpuIds =
      process.state.allowedGpuIds := by
  unfold Preload.fdopendir
  split <;> rfl

theorem allowedGpuIds_ite {given : Prop} [Decidable given]
    {changed state : ShimState}
    (same : changed.allowedGpuIds = state.allowedGpuIds) :
    (if given then changed else state).allowedGpuIds =
      state.allowedGpuIds := by
  split
  · exact same
  · rfl

/-- No call but `ioctl` teaches anything. -/
theorem allowedGpuIds_perform (other : call.isIoctl = false)
    (performed : perform shim real env call process = some (reply, after)) :
    after.state.allowedGpuIds = process.state.allowedGpuIds := by
  cases call with
  | open_ path flags mode =>
      cases performed
      exact allowedGpuIds_openCommon path flags _ false
  | open64 path flags mode =>
      cases performed
      exact allowedGpuIds_openCommon path flags _ true
  | openat dirfd path flags mode =>
      cases performed
      exact allowedGpuIds_openatCommon dirfd path flags _ false
  | openat64 dirfd path flags mode =>
      cases performed
      exact allowedGpuIds_openatCommon dirfd path flags _ true
  | opendir path =>
      cases performed
      exact allowedGpuIds_opendirCommon path false
  | opendir64 path =>
      cases performed
      exact allowedGpuIds_opendirCommon path true
  | read fd buffer count =>
      cases performed
      exact allowedGpuIds_read fd buffer count
  | dup oldfd =>
      cases performed
      exact allowedGpuIds_ite rfl
  | dup2 oldfd newfd =>
      cases performed
      exact allowedGpuIds_ite rfl
  | dup3 oldfd newfd flags =>
      cases performed
      exact allowedGpuIds_ite rfl
  | fcntl fd cmd arg =>
      cases performed
      exact allowedGpuIds_ite rfl
  | stat path =>
      cases performed
      exact allowedGpuIds_stat path
  | newfstatat dirfd path flags =>
      cases performed
      exact allowedGpuIds_fstatatCommon dirfd path flags
  | fstatat dirfd path flags =>
      cases performed
      exact allowedGpuIds_fstatatCommon dirfd path flags
  | fdopendir fd =>
      cases performed
      exact allowedGpuIds_fdopendir fd
  | closedir dir =>
      cases performed
      exact allowedGpuIds_ite rfl
  | readdir rounds dir =>
      obtain ⟨⟨entry, reached⟩, read, whole⟩ :=
        Option.map_eq_some_iff.mp performed
      cases whole
      exact congrArg ShimState.allowedGpuIds (state_readVisible read)
  | readdir64 rounds dir =>
      obtain ⟨⟨entry, reached⟩, read, whole⟩ :=
        Option.map_eq_some_iff.mp performed
      cases whole
      unfold Preload.readdir64 at read
      split at read
      · cases read
        rfl
      · exact congrArg ShimState.allowedGpuIds (state_readVisible read)
  | ioctl fd request arg =>
      cases other
  | _ =>
      cases performed
      rfl

/-- An ioctl is the filter applied to the reply, as in a query of the
driver. -/
theorem ioctl_replying (given : IoctlReply) (fd : Int) (request : UInt64)
    (arg : Option IoctlArg) :
    Preload.ioctl shim (real.replying given) fd request arg process =
      let onCtl :=
        (rpsGpuFdMapGet fd process.state.nodes).any fun record =>
          record.kind == .nvidiaCtl
      let filtered :=
        rpsGpuIoctlFilterAfter shim.config
          (if shim.ready then some shim.allowed else none) request
          given.arg given.ret.value process.state.allowedGpuIds
      if rpsGpuIoctlEnabled shim.config = true ∧ onCtl = true then
        (⟨given.ret, filtered.2⟩,
          ⟨{ process.state with allowedGpuIds := filtered.1 },
            process.world⟩)
      else (given, process) :=
  rfl

end Steps

section Effects

variable {shim : Shim}

/-- Whatever the driver replies, a step does to the tables and to the kernel
what it does without one. -/
theorem effect_of_processStep {before after : Process Kernel}
    {action : DriverAction}
    (taken : processStep shim before action = some after) :
    Effect shim before.state before.world action.1 after.state
      after.world := by
  obtain ⟨action, given⟩ := action
  cases action with
  | closeBehind fd =>
      cases taken
      exact .closedBehind fd
  | call answer env call =>
      obtain ⟨⟨reply, reached⟩, performed, rfl⟩ :=
        Option.map_eq_some_iff.mp taken
      cases isIoctl : call.isIoctl with
      | false =>
          rw [perform_replying given isIoctl] at performed
          apply effect_of_step
          exact Option.map_eq_some_iff.mpr ⟨_, performed, rfl⟩
      | true =>
          cases call with
          | ioctl fd request arg =>
              rw [process_of_reply performed, ioctl_replying]
              simp only
              split
              · exact
                  .idle ⟨rfl, rfl, rfl⟩
                    (Call.quiet_of_none rfl rfl rfl rfl)
              · exact .nothing rfl rfl rfl rfl
          | _ =>
              cases isIoctl

/-- A step that is no ioctl teaches nothing. -/
theorem allowedGpuIds_processStep {before after : Process Kernel}
    {action : DriverAction} (other : action.1.ioctl = none)
    (taken : processStep shim before action = some after) :
    after.state.allowedGpuIds = before.state.allowedGpuIds := by
  obtain ⟨action, given⟩ := action
  cases action with
  | closeBehind fd =>
      cases taken
      rfl
  | call answer env call =>
      obtain ⟨⟨reply, reached⟩, performed, rfl⟩ :=
        Option.map_eq_some_iff.mp taken
      have isIoctl : call.isIoctl = false := by
        cases call with
        | ioctl fd request arg =>
            cases other
        | _ =>
            rfl
      exact allowedGpuIds_perform isIoctl performed

end Effects

/-! ## Control descriptors -/

section Control

variable {shim : Shim} {state : ShimState} {kernel : Kernel}
variable {log : Nat → Option Opening} {fd : Int}

theorem kind_placeRecord_ne (names : List CString) (path : Option CString)
    (place : GpuPath) :
    (placeRecord names (blankRecord path) place).2.kind ≠ .nvidiaCtl := by
  cases place with
  | outside =>
      nofun
  | gpusDir =>
      nofun
  | busDir bus =>
      nofun
  | information bus =>
      nofun

theorem kind_ne_nvidiaCtl {bytes : CString}
    (differs : bytes ≠ ctlPath) :
    (rpsGpuClassifyPath (some bytes)).2.kind ≠ .nvidiaCtl := by
  have notCtl : ¬ bytes = cstr "/dev/nvidiactl" := differs
  unfold rpsGpuClassifyPath
  simp only [if_neg notCtl, rpsGpuClassifyProcGpuPath_eq]
  split
  · nofun
  · split
    · nofun
    · split
      · nofun
      · exact kind_placeRecord_ne _ _ _

/-- A record is that of the control device if and only if this is what was
opened. -/
theorem kind_nvidiaCtl_iff {path : Option CString}
    {record : RpsGpuFdRecord}
    (tracked : trackedRecord path = some record) :
    record.kind = .nvidiaCtl ↔ path = some ctlPath := by
  have classified := trackedRecord_eq_some_iff.mp tracked
  cases path with
  | none =>
      cases classified
  | some bytes =>
      by_cases isCtl : bytes = ctlPath
      · rw [isCtl] at classified
        cases classified
        exact iff_of_true rfl (by rw [isCtl])
      · have never := kind_ne_nvidiaCtl isCtl
        rw [classified] at never
        apply iff_of_false never
        intro same
        exact isCtl (Option.some.inj same)

/-- With an exact tracker the wrapper takes a descriptor for the control
device if and only if it is one. -/
theorem ExactTracker.onCtl_iff (exact_ : ExactTracker state kernel log) :
    ((rpsGpuFdMapGet fd state.nodes).any fun record =>
        record.kind == .nvidiaCtl) = true ↔
      OnCtl kernel log fd := by
  rw [exact_ fd]
  cases named : openingAt kernel log fd with
  | none =>
      constructor
      · nofun
      · rintro ⟨opening, found, _⟩
        rw [named] at found
        cases found
  | some opening =>
      have onCtlIff :
          OnCtl kernel log fd ↔ opening.path = some ctlPath := by
        constructor
        · rintro ⟨other, found, isCtl⟩
          rw [named] at found
          cases found
          exact isCtl
        · intro isCtl
          exact ⟨opening, named, isCtl⟩
      rw [onCtlIff, Option.bind_some, Opening.tracked]
      cases tracked : trackedRecord opening.path with
      | none =>
          constructor
          · nofun
          · intro isCtl
            rw [isCtl] at tracked
            cases tracked
      | some record =>
          rw [Option.any_some, beq_iff_eq]
          exact kind_nvidiaCtl_iff tracked

end Control

/-! ## One step -/

section Kept

variable {shim : Shim} {inventory : Inventory}

/-- The module filters the driver's replies. -/
structure FiltersReplies (shim : Shim) : Prop where
  video : shim.config.gpuVideo = true
  ioctls : shim.config.gpuIoctl = true
  ready : shim.ready = true

/-- What the views of the driver rest on. -/
structure DriverKept (shim : Shim) (inventory : Inventory)
    (current : Process Kernel × DriverHistory) : Prop where
  kept : SequentialKept (current.1, current.2.openings)
  exactly :
    ExactTracker current.1.state current.1.world current.2.openings
  learned : LearnedAllowed shim inventory current.1.state.allowedGpuIds
  nothing :
    current.1.state.allowedGpuIds = [] ↔
      ¬ HasListedAllowed shim.allowed current.2.answered

variable {process : Process Kernel} {log : Nat → Option Opening}
variable {fd : Int} {request : UInt64} {reply : IoctlReply}

theorem filtersCtl_of_onCtl (filters : FiltersReplies shim)
    (exact_ : ExactTracker process.state process.world log)
    (onCtl : OnCtl process.world log fd) :
    FiltersCtl shim fd process.state where
  video := filters.video
  ioctls := filters.ioctls
  ready := filters.ready
  tracked := by
    have kind := exact_.onCtl_iff.mpr onCtl
    cases found : rpsGpuFdMapGet fd process.state.nodes with
    | none =>
        rw [found] at kind
        cases kind
    | some record =>
        rw [found, Option.any_some, beq_iff_eq] at kind
        exact ⟨record, rfl, kind⟩

/-- An ioctl on a descriptor of anything else is the file's own. -/
theorem ioctl_of_not_onCtl
    (exact_ : ExactTracker process.state process.world log)
    (elsewhere : ¬ OnCtl process.world log fd) {real : Real Kernel}
    (arg : Option IoctlArg) :
    Preload.ioctl shim (real.replying reply) fd request arg process =
      (reply, process) := by
  rw [ioctl_replying]
  apply if_neg
  rintro ⟨_, onCtl⟩
  exact elsewhere (exact_.onCtl_iff.mp onCtl)

/-- An ioctl that gets one of the three answers is a query. -/
theorem ioctl_of_answers {query : DriverQuery} {real : Real Kernel}
    (answers : Answers request reply query) (arg : Option IoctlArg) :
    (Preload.ioctl shim (real.replying reply) fd request arg process).1 =
        (queryDriver shim fd process.state query).1 ∧
      (Preload.ioctl shim (real.replying reply) fd request arg
          process).2.state =
        (queryDriver shim fd process.state query).2.state := by
  obtain ⟨rfl, rfl⟩ := answers
  rw [ioctl_replying]
  simp only [queryDriver, Preload.ioctl, driverReal]
  split
  · exact ⟨rfl, rfl⟩
  · exact ⟨rfl, rfl⟩

/-- A reply that is none of the three answers teaches nothing. -/
theorem filterAfter_of_no_answer {cfg : RpsConfig}
    {allowed : Option RpsGpuAllowedGpus} {learned : List UInt32}
    (none : ∀ query, ¬ Answers request reply query) :
    (rpsGpuIoctlFilterAfter cfg allowed request reply.arg reply.ret.value
      learned).1 = learned := by
  unfold rpsGpuIoctlFilterAfter
  split
  · rfl
  · split
    · rename_i isCardInfo
      split
      · rename_i cards given
        have whole : reply = ⟨reply.ret, some (.cardInfo cards)⟩ := by
          rw [← given]
        exact
          absurd ⟨isCardInfo.symm, whole.symm⟩
            (none (.cardInfo reply.ret cards))
      · rfl
    · split
      · split <;> rfl
      · rfl

/-- A reply is one of the three answers in one way only. -/
theorem Answers.unique {first second : DriverQuery}
    (one : Answers request reply first)
    (other : Answers request reply second) : first = second := by
  obtain ⟨rfl, rfl⟩ := one
  obtain ⟨sameRequest, sameReply⟩ := other
  cases first with
  | cardInfo ret cards =>
      cases second with
      | cardInfo otherRet otherCards =>
          simp only [DriverQuery.reply, IoctlReply.mk.injEq,
            Option.some.injEq, IoctlArg.cardInfo.injEq] at sameReply
          rw [sameReply.1, sameReply.2]
      | attachedIds =>
          exact absurd sameRequest requests_differ
      | activeDevices =>
          exact absurd sameRequest requests_differ
  | attachedIds ret hClient hObject status gpuIds =>
      cases second with
      | cardInfo =>
          exact absurd sameRequest.symm requests_differ
      | attachedIds =>
          simp only [DriverQuery.reply, IoctlReply.mk.injEq,
            Option.some.injEq, IoctlArg.rmControl.injEq,
            RpsNvos54Parameters.mk.injEq, RmParams.attachedIds.injEq]
            at sameReply
          obtain ⟨rfl, rfl, rfl, _, rfl, _, rfl⟩ := sameReply
          rfl
      | activeDevices =>
          cases sameReply
  | activeDevices ret hClient hObject status params =>
      cases second with
      | cardInfo =>
          exact absurd sameRequest.symm requests_differ
      | attachedIds =>
          cases sameReply
      | activeDevices =>
          simp only [DriverQuery.reply, IoctlReply.mk.injEq,
            Option.some.injEq, IoctlArg.rmControl.injEq,
            RpsNvos54Parameters.mk.injEq, RmParams.activeDevices.injEq]
            at sameReply
          obtain ⟨rfl, rfl, rfl, _, rfl, _, rfl⟩ := sameReply
          rfl

/-- One more answer of the driver. -/
theorem hasListedAllowed_append {allowed : RpsGpuAllowedGpus}
    {answered : List (UInt64 × IoctlReply)} :
    HasListedAllowed allowed (answered ++ [(request, reply)]) ↔
      HasListedAllowed allowed answered ∨
        ∃ query, Answers request reply query ∧
          query.ListsAllowed allowed := by
  constructor
  · rintro ⟨entry, query, member, answers, lists⟩
    rcases List.mem_append.mp member with before | last
    · exact Or.inl ⟨entry, query, before, answers, lists⟩
    · rw [List.mem_singleton.mp last] at answers
      exact Or.inr ⟨query, answers, lists⟩
  · rintro (before | last)
    · obtain ⟨entry, query, member, answers, lists⟩ := before
      exact
        ⟨entry, query, List.mem_append_left _ member, answers, lists⟩
    · obtain ⟨query, answers, lists⟩ := last
      exact
        ⟨(request, reply), query,
          List.mem_append_right _ List.mem_cons_self, answers, lists⟩

/-- What is learned after an ioctl on a control descriptor. -/
theorem learned_ioctl {answered : List (UInt64 × IoctlReply)}
    (filtersCtl : FiltersCtl shim fd process.state)
    (learned :
      LearnedAllowed shim inventory process.state.allowedGpuIds)
    (nothing :
      process.state.allowedGpuIds = [] ↔
        ¬ HasListedAllowed shim.allowed answered)
    (honest : ∀ query, Answers request reply query → query.Succeeds →
      query.Lists inventory) {real : Real Kernel}
    (arg : Option IoctlArg) :
    let after :=
      (Preload.ioctl shim (real.replying reply) fd request arg
        process).2.state
    LearnedAllowed shim inventory after.allowedGpuIds ∧
      (after.allowedGpuIds = [] ↔
        ¬ HasListedAllowed shim.allowed
          (answered ++ [(request, reply)])) := by
  by_cases isAnswer : ∃ query, Answers request reply query
  · obtain ⟨query, answers⟩ := isAnswer
    have only :
        (∃ other, Answers request reply other ∧
            other.ListsAllowed shim.allowed) ↔
          query.ListsAllowed shim.allowed := by
      constructor
      · rintro ⟨other, otherAnswers, lists⟩
        rw [answers.unique otherAnswers]
        exact lists
      · intro lists
        exact ⟨query, answers, lists⟩
    simp only [(ioctl_of_answers answers arg).2, hasListedAllowed_append,
      only, not_or]
    constructor
    · exact learned.queryDriver filtersCtl (honest query answers)
    · rw [allowedGpuIds_queryDriver_eq_nil_iff filtersCtl
        (honest query answers), nothing]
  · have none := not_exists.mp isAnswer
    have unchanged :
        (Preload.ioctl shim (real.replying reply) fd request arg
          process).2.state.allowedGpuIds = process.state.allowedGpuIds := by
      rw [ioctl_replying]
      simp only
      split
      · exact filterAfter_of_no_answer none
      · rfl
    have silent :
        ¬ ∃ query, Answers request reply query ∧
          query.ListsAllowed shim.allowed := by
      rintro ⟨query, answers, _⟩
      exact none query answers
    simp only [unchanged, hasListedAllowed_append, silent, or_false]
    exact ⟨learned, nothing⟩

theorem DriverKept.step
    {before after : Process Kernel × DriverHistory}
    {action : DriverAction} (filters : FiltersReplies shim)
    (holds : DriverKept shim inventory before)
    (disciplined : Disciplined before.1.world action.1)
    (keeps : KeepsRecords shim before.1.state before.1.world action.1)
    (honest : FromDriver inventory before action)
    (taken : driverStep shim before action = some after) :
    DriverKept shim inventory after := by
  obtain ⟨stepped, logged⟩ := withHistory_eq_some.mp taken
  have done := effect_of_processStep stepped
  have kept := holds.kept.effect disciplined done
  have exactAfter :=
    (holds.exactly.effect_iff filters.video holds.kept.truthful
      holds.kept.sound holds.kept.streams disciplined done).mpr keeps
  obtain ⟨finish, history⟩ := after
  simp only at stepped logged kept exactAfter
  subst logged
  suffices what :
      LearnedAllowed shim inventory finish.state.allowedGpuIds ∧
        (finish.state.allowedGpuIds = [] ↔
          ¬ HasListedAllowed shim.allowed
            (logReply before.1.world before.2 action)) from
    ⟨kept, exactAfter, what.1, what.2⟩
  obtain ⟨action, reply⟩ := action
  cases isIoctl : action.ioctl with
  | none =>
      have same := allowedGpuIds_processStep isIoctl stepped
      simp only [logReply, isIoctl, same]
      exact ⟨holds.learned, holds.nothing⟩
  | some asked =>
      obtain ⟨fd, request⟩ := asked
      cases action with
      | closeBehind other =>
          cases isIoctl
      | call answer env call =>
          cases call with
          | ioctl number code arg =>
              cases isIoctl
              cases stepped
              simp only [logReply, Action.ioctl]
              by_cases onCtl : OnCtl before.1.world before.2.openings fd
              · rw [if_pos onCtl]
                have filtersCtl :=
                  filtersCtl_of_onCtl filters holds.exactly onCtl
                exact
                  learned_ioctl filtersCtl holds.learned
                    holds.nothing (honest fd request rfl onCtl) arg
              · rw [if_neg onCtl]
                have same :
                    Preload.ioctl shim
                        ((Kernel.real answer).replying reply) fd request
                        arg before.1 = (reply, before.1) :=
                  ioctl_of_not_onCtl holds.exactly onCtl arg
                simp only [Prod.map, same, id]
                exact ⟨holds.learned, holds.nothing⟩
          | _ =>
              cases isIoctl

end Kept

/-! ## Runs -/

section Runs

variable {shim : Shim} {inventory : Inventory}

/-- The steps that the views can be trusted along: descriptors change through
the shim alone, no record is lost, and the control device is answered by the
driver of the inventory. -/
structure Trusted (shim : Shim) (inventory : Inventory)
    (before : Process Kernel × DriverHistory) (action : DriverAction) :
    Prop where
  disciplined : Disciplined before.1.world action.1
  keeps : KeepsRecords shim before.1.state before.1.world action.1
  honest : FromDriver inventory before action

theorem driverKept_start (cwd : List CString) :
    DriverKept shim inventory (Process.start cwd, .initial) where
  kept := sequentialKept_start cwd
  exactly := by
    intro fd
    exact rpsGpuFdMapGet_nil fd
  learned := nofun
  nothing := by
    apply iff_of_true rfl
    rintro ⟨entry, query, member, _⟩
    cases member

end Runs

/-- Open the control device, duplicate the descriptor, and read card info
through the duplicate. -/
def learnThroughDuplicate : List DriverAction :=
  [(.call (answers 3 false) containerEnv (.open_ (some ctlPath) 2 0),
      bothIds.reply),
    (.call (answers 7 false) containerEnv (.dup 3), bothIds.reply),
    (.call (answers 0 false) containerEnv
        (.ioctl 7 bothCards.request bothCards.reply.arg),
      bothCards.reply)]

end RunpodShim

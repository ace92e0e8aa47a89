import RunpodShim.Behaviour.FailOpen
import RunpodShim.Behaviour.MemoryViews
import RunpodShim.Library.CallMachine

/-!
# Modules that are switched off

With the GPU module off the shim is its memory module, and with both off a
process cannot tell that it runs with the shim.
-/

namespace RunpodShim

open CallMachine FirstMatch StepRuns

universe u

/-! ## The memory module alone -/

section MemoryAlone

variable (shim : Shim) (env : Env)

/-- What a call does to the variables when the GPU module is off and the
read table does not answer it. -/
def memoryAfter (state : ShimState) : Call → Reply → ShimState
  | .open_ path flags _, .number ret
  | .open64 path flags _, .number ret =>
      maybeAttachMeminfo shim env ret.value path flags state
  | .openat dirfd path flags _, .number ret
  | .openat64 dirfd path flags _, .number ret =>
      if dirfd = atFdcwd then
        maybeAttachMeminfo shim env ret.value path flags state
      else state
  | .close fd, _ =>
      { state with entries := rpsFdMapRemove fd state.entries }
  | .dup2 oldfd newfd, .number ret =>
      if ret.value ≥ 0 ∧ oldfd ≠ newfd then
        { state with entries := rpsFdMapRemove newfd state.entries }
      else state
  | .dup3 _ newfd _, .number ret =>
      if ret.value ≥ 0 then
        { state with entries := rpsFdMapRemove newfd state.entries }
      else state
  | _, _ => state

/-- The call reads a descriptor that the meminfo table has a text for. -/
def Call.ReadsText (state : ShimState) (call : Call) : Prop :=
  ∃ fd buffer count,
    call = .read fd buffer count ∧ (buffer = true ∨ count = 0) ∧
      state.depth = 0 ∧ fdMapStream fd state.entries ≠ none

end MemoryAlone

section VideoOff

variable {World : Type u} {shim : Shim} {state : ShimState}
variable {real : Real World} {env : Env}

theorem gpuProcDenied_of_off (off : shim.config.gpuVideo = false)
    (path : Option CString) : gpuProcDenied shim path = false := by
  simp [gpuProcDenied, rpsGpuVideoEnabled, off]

theorem rpsGpuIoctlEnabled_of_off (off : shim.config.gpuVideo = false) :
    rpsGpuIoctlEnabled shim.config = false := by
  simp [rpsGpuIoctlEnabled, off]

theorem rpsGpuFdMapRemove_nil (fd : Int) :
    rpsGpuFdMapRemove fd [] = [] := by
  unfold rpsGpuFdMapRemove
  split
  · rfl
  · rfl

theorem rpsGpuFdMapCopy_nil (malloc : Bool) (oldfd newfd : Int) :
    rpsGpuFdMapCopy malloc oldfd newfd [] = [] := by
  unfold rpsGpuFdMapCopy
  split
  · rfl
  · rfl

/-- A directory stream is read once. -/
theorem readVisible_of_off (off : shim.config.gpuVideo = false)
    (real : Real World)
    (realReaddir : Nat → World → Ret (Option DirEntry) × World)
    (rounds dir : Nat) (world : World) :
    Preload.readVisible shim real realReaddir rounds dir ⟨state, world⟩ =
      some
        ((realReaddir dir world).1, ⟨state, (realReaddir dir world).2⟩) := by
  have allowed (fd : Int) (name : CString) :
      gpuReaddirEntryAllowed shim state fd name = true := by
    simp [gpuReaddirEntryAllowed, rpsGpuVideoEnabled, off]
  unfold Preload.readVisible Preload.skipHidden
  simp only [allowed, if_true]
  cases (realReaddir dir world).1.value with
  | none =>
      rfl
  | some entry =>
      rfl

/-- A read that finds no text is the real one, and changes nothing. -/
theorem read_of_unread {fd : Int} {buffer : Bool} {count : Nat}
    (unread : ¬ (Call.read fd buffer count).ReadsText state)
    (real : Real World) (world : World) :
    Preload.read real fd buffer count ⟨state, world⟩ =
      ((real.read fd buffer count world).1,
        ⟨state, (real.read fd buffer count world).2⟩) := by
  unfold Preload.read
  cases entered : rpsGuardEnter state.depth with
  | none =>
      rfl
  | some inside =>
      have free : state.depth = 0 := (rpsGuardEnter_eq_some_iff.mp entered).1
      have missed :
          (rpsFdMapTakeRead buffer fd count state.entries).1 = none := by
        by_cases usable : buffer = true ∨ count = 0
        · have missing : fdMapStream fd state.entries = none := by
            by_contra present
            exact
              unread ⟨fd, buffer, count, rfl, usable, free, present⟩
          rw [rpsFdMapTakeRead_fst usable, missing, Option.map_none]
        · rw [rpsFdMapTakeRead_of_unusable usable]
      simp only [missed, rpsFdMapTakeRead_snd_of_none missed,
        rpsGuardLeave_of_rpsGuardEnter entered]

/-- With the GPU module off a call reaches the real function as its wrapper
passes it on, and what it does to the variables is up to the memory module. -/
theorem perform_of_untracked (off : shim.config.gpuVideo = false)
    (untracked : state.nodes = []) {call : Call}
    (unread : ¬ call.ReadsText state) (real : Real World) (env : Env)
    (world : World) :
    perform shim real env call ⟨state, world⟩ =
      some
        ((direct real call.passedOn world).1,
          ⟨memoryAfter shim env state call
              (direct real call.passedOn world).1,
            (direct real call.passedOn world).2⟩) := by
  obtain ⟨nodes, entries, ids, depth⟩ := state
  cases untracked
  have passes (dirfd : Int) (path : Option CString) :
      gpuEffectiveOpenatPath (ShimState.mk [] entries ids depth).nodes dirfd
          path rpsGpuPathMax =
        (.passthrough, path) :=
    gpuEffectiveOpenatPath_of_untracked (rpsGpuFdMapGet_nil dirfd) path
      rpsGpuPathMax
  have allows := gpuProcDenied_of_off off
  cases call with
  | open_ path flags mode =>
      simp only [perform, Preload.open_, openCommon, allows,
        Bool.false_eq_true, if_false, gpuTraceAndTrackOpen_of_off off]
      rfl
  | open64 path flags mode =>
      simp only [perform, Preload.open64, openCommon, allows,
        Bool.false_eq_true, if_false, gpuTraceAndTrackOpen_of_off off]
      rfl
  | openat dirfd path flags mode =>
      simp only [perform, Preload.openat,
        openatCommon_of_allowed real env (passes dirfd path) (by simp)
          (allows path), gpuTraceAndTrackOpen_of_off off, ite_self]
      rfl
  | openat64 dirfd path flags mode =>
      simp only [perform, Preload.openat64,
        openatCommon_of_allowed real env (passes dirfd path) (by simp)
          (allows path), gpuTraceAndTrackOpen_of_off off, ite_self]
      rfl
  | read fd buffer count =>
      simp only [perform, read_of_unread unread]
      rfl
  | close fd =>
      simp only [perform, Preload.close, rpsGpuFdMapRemove_nil]
      rfl
  | dup oldfd =>
      simp only [perform, Preload.dup, rpsGpuFdMapCopy_nil, ite_self]
      rfl
  | dup2 oldfd newfd =>
      simp only [perform, Preload.dup2, Preload.replaceFd,
        rpsGpuFdMapCopy_nil]
      rfl
  | dup3 oldfd newfd flags =>
      simp only [perform, Preload.dup3, Preload.replaceFd,
        rpsGpuFdMapCopy_nil]
      rfl
  | fcntl fd cmd arg =>
      simp only [perform, Preload.fcntl, rpsGpuFdMapCopy_nil, ite_self]
      rfl
  | stat path =>
      simp only [perform, Preload.stat, allows, Bool.false_eq_true,
        if_false]
      rfl
  | newfstatat dirfd path flags =>
      simp only [perform, Preload.newfstatat,
        fstatatCommon_of_allowed real (passes dirfd path) (by simp)
          (allows path)]
      rfl
  | fstatat dirfd path flags =>
      simp only [perform, Preload.fstatat,
        fstatatCommon_of_allowed real (passes dirfd path) (by simp)
          (allows path)]
      rfl
  | opendir path =>
      simp only [perform, Preload.opendir, Preload.opendirCommon, allows,
        Bool.false_eq_true, if_false, gpuTraceAndTrackOpen_of_off off,
        Preload.opendirReal]
      cases (real.opendir path world).1.value with
      | none =>
          rfl
      | some dir =>
          rfl
  | opendir64 path =>
      simp only [perform, Preload.opendir64, Preload.opendirCommon, allows,
        Bool.false_eq_true, if_false, gpuTraceAndTrackOpen_of_off off]
      cases (Preload.opendirReal real true path world).1.value with
      | none =>
          rfl
      | some dir =>
          rfl
  | fdopendir fd =>
      simp only [perform, direct, Call.passedOn, Preload.fdopendir]
      cases real.fdopendir with
      | none =>
          rfl
      | some realFdopendir =>
          rfl
  | closedir dir =>
      simp only [perform, Preload.closedir, rpsGpuFdMapRemove_nil, ite_self]
      rfl
  | readdir rounds dir =>
      simp only [perform, Preload.readdir, readVisible_of_off off]
      rfl
  | readdir64 rounds dir =>
      simp only [perform, direct, Call.passedOn, Preload.readdir64]
      cases real.readdir64 with
      | none =>
          rfl
      | some realReaddir64 =>
          simp only [readVisible_of_off off]
          rfl
  | getdents64 fd count =>
      simp only [perform, Preload.getdents64, rpsGpuVideoEnabled, off,
        Bool.false_eq_true, false_and, and_false, if_false]
      rfl
  | ioctl fd request arg =>
      simp only [perform, Preload.ioctl, rpsGpuIoctlEnabled_of_off off,
        Bool.false_eq_true, false_and, if_false]
      rfl

/-! ## Every reachable state -/

/-- The variables of the GPU module are as they were at first, and no wrapper
is running. -/
structure Untouched (state : ShimState) : Prop where
  nodes : state.nodes = []
  ids : state.allowedGpuIds = []
  depth : state.depth = 0

theorem untouched_initial : Untouched .initial :=
  ⟨rfl, rfl, rfl⟩

theorem Untouched.memoryAfter (untouched : Untouched state) (call : Call)
    (reply : Reply) :
    Untouched (memoryAfter shim env state call reply) := by
  have attached (fd : Int) (path : Option CString) (flags : UInt32) :
      Untouched (maybeAttachMeminfo shim env fd path flags state) :=
    ⟨nodes_maybeAttachMeminfo.trans untouched.nodes,
      maybeAttachMeminfo_eq ▸ untouched.ids,
      depth_maybeAttachMeminfo.trans untouched.depth⟩
  unfold RunpodShim.memoryAfter
  split
  · exact attached _ _ _
  · exact attached _ _ _
  · split
    · exact attached _ _ _
    · exact untouched
  · split
    · exact attached _ _ _
    · exact untouched
  · exact ⟨untouched.nodes, untouched.ids, untouched.depth⟩
  · split
    · exact ⟨untouched.nodes, untouched.ids, untouched.depth⟩
    · exact untouched
  · split
    · exact ⟨untouched.nodes, untouched.ids, untouched.depth⟩
    · exact untouched
  · exact untouched

/-- A read changes the meminfo table at most. -/
theorem state_read (real : Real World) (fd : Int) (buffer : Bool)
    (count : Nat) (process : Process World) :
    (Preload.read real fd buffer count process).2.state =
      { process.state with
        entries :=
          (Preload.read real fd buffer count process).2.state.entries } := by
  unfold Preload.read
  cases entered : rpsGuardEnter process.state.depth with
  | none =>
      rfl
  | some inside =>
      simp only [rpsGuardLeave_of_rpsGuardEnter entered]
      split
      · rfl
      · rfl

theorem Untouched.perform (off : shim.config.gpuVideo = false)
    (untouched : Untouched state) {call : Call} {world : World}
    {reply : Reply} {after : Process World}
    (performed :
      perform shim real env call ⟨state, world⟩ = some (reply, after)) :
    Untouched after.state := by
  by_cases reads : call.ReadsText state
  · obtain ⟨fd, buffer, count, rfl, _⟩ := reads
    have same := state_read real fd buffer count ⟨state, world⟩
    cases performed
    exact same ▸ ⟨untouched.nodes, untouched.ids, untouched.depth⟩
  · rw [perform_of_untracked off untouched.nodes reads] at performed
    cases performed
    exact untouched.memoryAfter call _

theorem untouched_of_run (off : shim.config.gpuVideo = false)
    {world : World} {labels : List (ShimLabel World)}
    {finish : Process World}
    (run :
      runFrom (shimStep shim real) ⟨.initial, world⟩ labels =
        some finish) :
    Untouched finish.state := by
  have keeps (before : Process World) (label : ShimLabel World)
      (after : Process World) (untouched : Untouched before.state)
      (taken : shimStep shim real before label = some after) :
      Untouched after.state := by
    cases label with
    | call env call =>
        obtain ⟨⟨reply, reached⟩, performed, rfl⟩ :=
          Option.map_eq_some_iff.mp taken
        exact untouched.perform off performed
    | outside world =>
        cases taken
        exact untouched
  exact invariant_of_every_run keeps untouched_initial run

/-- A call that finds a text is not transparent: real functions that fail show
it. -/
theorem not_transparent_of_readsText {call : Call}
    (reads : call.ReadsText state) : ¬ call.Transparent shim state := by
  intro transparent
  obtain ⟨fd, buffer, count, rfl, usable, free, present⟩ := reads
  obtain ⟨⟨text, consumed⟩, held⟩ :=
    Option.ne_none_iff_exists'.mp present
  obtain ⟨after, same⟩ :=
    transparent Unit (constantReal Unit (-1)) containerEnv ()
  have read :=
    read_of_stream free held (constantReal Unit (-1)) () usable
  have replies :
      (Preload.read (constantReal Unit (-1)) fd buffer count
          ⟨state, ()⟩).1 = ⟨⟨-1, 0⟩, []⟩ := by
    have given := congrArg Prod.fst (Option.some.inj same)
    exact Reply.filled.inj given
  have lengths :
      (((text.drop consumed).take count).length : Int) = -1 := by
    have values := read.1.symm.trans replies
    exact congrArg (fun filled => filled.ret.value) values
  omega

/-- With the GPU module off, in every state that any run of the wrappers
reaches over any real functions, the only calls that are not transparent are
the reads that the meminfo table answers and the calls that lose their
argument. -/
theorem transparent_iff_of_videoOff (off : shim.config.gpuVideo = false)
    {world : World} {labels : List (ShimLabel World)}
    {finish : Process World}
    (run :
      runFrom (shimStep shim real) ⟨.initial, world⟩ labels = some finish)
    (call : Call) :
    call.Transparent shim finish.state ↔
      ¬ call.ReadsText finish.state ∧ call.KeepsArgument := by
  have untouched := untouched_of_run off run
  constructor
  · intro transparent
    refine ⟨?_, keepsArgument_of_transparent transparent⟩
    intro reads
    exact not_transparent_of_readsText reads transparent
  · rintro ⟨unread, keeps⟩ OtherWorld otherReal env other
    have performed :=
      perform_of_untracked off untouched.nodes unread otherReal env other
    rw [keeps] at performed
    exact ⟨_, performed⟩

end VideoOff

/-- The container with its GPU module off. -/
def videoOffShim : Shim :=
  { containerShim with config := ⟨false, true, true⟩ }

/-- A process that has opened the meminfo file, as descriptor 3. -/
def openMeminfoWithoutVideo : List (ShimLabel Unit) :=
  [.call containerEnv (.open_ (some meminfoPath) 0 0)]

/-- The variables afterwards. -/
def meminfoAttached : ShimState :=
  { ShimState.initial with
    entries :=
      (rpsFdMapPut true 3 containerEnv.meminfo
        (cstr "MemTotal: 1 kB").length emptyEntries).2 }

theorem transparent_openMeminfoWithoutVideo :
    (Call.read 4 true 1).Transparent videoOffShim meminfoAttached ∧
      ¬ (Call.read 3 true 1).Transparent videoOffShim meminfoAttached := by
  have run :
      runFrom (shimStep videoOffShim (constantReal Unit 3)) ⟨.initial, ()⟩
          openMeminfoWithoutVideo = some ⟨meminfoAttached, ()⟩ := by
    rfl
  constructor
  · apply (transparent_iff_of_videoOff rfl run _).mpr
    refine ⟨?_, rfl⟩
    rintro ⟨fd, buffer, count, same, _, _, present⟩
    cases same
    exact present (by decide)
  · rw [transparent_iff_of_videoOff rfl run]
    rintro ⟨unread, _⟩
    exact unread ⟨3, true, 1, rfl, Or.inl rfl, rfl, by decide⟩

/-! ## Whole processes -/

/-- A call of any wrapper.  With `sysinfo` and `sysconf` stands what the files
hold then and what the real function answers. -/
inductive ProcessCall where
  | call (env : Env) (call : Call)
  | fopen (env : Env) (rounds : Nat) (path mode : Option CString)
  | fopen64 (env : Env) (rounds : Nat) (path mode : Option CString)
  | sysinfo (files : FileWorld) (rc : Int) (info : Option SysInfo)
  | sysconf (files : FileWorld) (real : SysconfName → Ret Int)
      (name : SysconfName)

/-- No argument is dropped or cut on the way. -/
def ProcessCall.KeepsArgument : ProcessCall → Prop
  | .call _ made => made.KeepsArgument
  | _ => True

/-- What a process gets from a call. -/
inductive ProcessReply where
  | reply (reply : Reply)
  | sysinfo (rc : Int) (info : Option SysInfo)
  | sysconf (ret : Ret Int)
deriving DecidableEq, Repr

/-- A process with all the static variables of the shim in it. -/
structure WholeProcess (World : Type u) where
  process : Process World
  memory : MemoryState

/-- The process before its first call. -/
def WholeProcess.start {World : Type u} (world : World) :
    WholeProcess World :=
  ⟨⟨.initial, world⟩, .initial⟩

section Processes

variable {World : Type u} (word : MachineWord) (shim : Shim)
variable (real : Real World)

/-- A call through the shim; `none` is a loop that is still running. -/
def performIn (whole : WholeProcess World) :
    ProcessCall → Option (ProcessReply × WholeProcess World)
  | .call env call =>
      (perform shim real env call whole.process).map fun done =>
        (.reply done.1, { whole with process := done.2 })
  | .fopen env rounds path mode =>
      (Preload.fopen shim real env rounds path mode whole.process).map
        fun done =>
          (.reply (.pointer done.1), { whole with process := done.2 })
  | .fopen64 env rounds path mode =>
      (Preload.fopen64 shim real env rounds path mode whole.process).map
        fun done =>
          (.reply (.pointer done.1), { whole with process := done.2 })
  | .sysinfo files rc info =>
      let done :=
        sysinfo word.ulongMax shim.config
          (rpsGuardEnter whole.process.state.depth).isSome files
          whole.memory rc info
      some (.sysinfo rc done.1, { whole with memory := done.2 })
  | .sysconf files host name =>
      let done :=
        sysconf word.longMax shim.config
          (rpsGuardEnter whole.process.state.depth).isSome files
          whole.memory host name
      some (.sysconf done.1, { whole with memory := done.2 })

/-- The same call without the shim. -/
def directIn (world : World) : ProcessCall → ProcessReply × World
  | .call _ call => (direct real call world).map .reply id
  | .fopen _ _ path mode =>
      (real.fopen path mode world).map
        (fun stream => .reply (.pointer stream)) id
  | .fopen64 _ _ path mode =>
      (real.fopen64 path mode world).map
        (fun stream => .reply (.pointer stream)) id
  | .sysinfo _ rc info => (.sysinfo rc info, world)
  | .sysconf _ host name => (.sysconf (host name), world)

/-- A process that makes these calls through the shim: the replies that it
gets, and the process afterwards. -/
def throughShim :
    List ProcessCall → WholeProcess World →
      Option (List ProcessReply × WholeProcess World)
  | [], whole => some ([], whole)
  | call :: rest, whole =>
      (performIn word shim real whole call).bind fun done =>
        (throughShim rest done.2).map fun later =>
          (done.1 :: later.1, later.2)

end Processes

section BothOff

variable {World : Type u} {shim : Shim} {real : Real World}

theorem shouldVirtualizeMeminfo_of_off {cfg : RpsConfig}
    (off : cfg.cgroupMemory = false) (path : Option CString)
    (flags : UInt32) : shouldVirtualizeMeminfo cfg path flags = false := by
  simp [shouldVirtualizeMeminfo, off]

theorem rpsFdMapRemove_emptyEntries (fd : Int) :
    rpsFdMapRemove fd emptyEntries = emptyEntries := by
  apply updateFirst_of_find?_eq_none
  exact Option.map_eq_none_iff.mp (fdMapStream_emptyEntries fd)

/-- Nothing is attached, and there is nothing to drop. -/
theorem memoryAfter_initial (off : shim.config.cgroupMemory = false)
    (env : Env) (call : Call) (reply : Reply) :
    memoryAfter shim env .initial call reply = .initial := by
  have attached (fd : Int) (path : Option CString) (flags : UInt32) :
      maybeAttachMeminfo shim env fd path flags .initial = .initial := by
    rw [maybeAttachMeminfo, if_pos]
    simp [shouldVirtualizeMeminfo_of_off off]
  have removed (fd : Int) :
      { ShimState.initial with
        entries := rpsFdMapRemove fd ShimState.initial.entries } =
        ShimState.initial := by
    rw [ShimState.initial, rpsFdMapRemove_emptyEntries]
  unfold memoryAfter
  split
  · exact attached _ _ _
  · exact attached _ _ _
  · rw [attached, ite_self]
  · rw [attached, ite_self]
  · exact removed _
  · rw [removed, ite_self]
  · rw [removed, ite_self]
  · rfl

theorem not_readsText_initial (call : Call) :
    ¬ call.ReadsText .initial := by
  rintro ⟨fd, buffer, count, _, _, _, present⟩
  exact present (fdMapStream_emptyEntries fd)

/-- An `fopen` is the real one. -/
theorem fopenCommon_of_off (off : shim.config.cgroupMemory = false)
    (real : Real World) (env : Env) (rounds : Nat)
    (path mode : Option CString) (large : Bool) (process : Process World) :
    fopenCommon shim real env rounds path mode large process =
      some
        ((realFopenCommon real path mode large process.world).1,
          { process with
            world :=
              (realFopenCommon real path mode large process.world).2 }) := by
  rw [fopenCommon, if_pos]
  simp [shouldVirtualizeMeminfo_of_off off]

theorem sysinfo_of_off {ulongMax : Nat} {cfg : RpsConfig}
    (off : cfg.cgroupMemory = false) (enters : Bool) (files : FileWorld)
    (memory : MemoryState) (rc : Int) (info : Option SysInfo) :
    sysinfo ulongMax cfg enters files memory rc info = (info, memory) := by
  apply sysinfo_of_asksNot
  simp [MemoryCall.takes, off]

theorem sysconf_of_off {longMax : Nat} {cfg : RpsConfig}
    (off : cfg.cgroupMemory = false) (enters : Bool) (files : FileWorld)
    (memory : MemoryState) (host : SysconfName → Ret Int)
    (name : SysconfName) :
    sysconf longMax cfg enters files memory host name =
      (host name, memory) := by
  apply sysconf_of_asksNot
  simp [MemoryCall.takes, off]

/-- With both modules off a call that keeps its argument is the real one, and
leaves the variables as they were at first. -/
theorem performIn_of_off (word : MachineWord)
    (videoOff : shim.config.gpuVideo = false)
    (memoryOff : shim.config.cgroupMemory = false) (real : Real World)
    (world : World) {call : ProcessCall} (keeps : call.KeepsArgument) :
    performIn word shim real (.start world) call =
      some
        ((directIn real world call).1,
          .start (directIn real world call).2) := by
  cases call with
  | call env call =>
      have performed :=
        perform_of_untracked videoOff rfl (not_readsText_initial call) real
          env world
      have passed : call.passedOn = call := keeps
      rw [memoryAfter_initial memoryOff, passed] at performed
      simp only [performIn, WholeProcess.start, performed]
      rfl
  | fopen env rounds path mode =>
      simp only [performIn, Preload.fopen, fopenCommon_of_off memoryOff]
      rfl
  | fopen64 env rounds path mode =>
      simp only [performIn, Preload.fopen64, fopenCommon_of_off memoryOff]
      rfl
  | sysinfo files rc info =>
      simp only [performIn, sysinfo_of_off memoryOff]
      rfl
  | sysconf files host name =>
      simp only [performIn, sysconf_of_off memoryOff]
      rfl

/-- With both modules off a process gets the replies that it would get without
the shim, and has the same effects: whatever it calls as long as no wrapper
drops or cuts an argument, and whatever the real functions do. -/
theorem unseen_of_run (word : MachineWord)
    (videoOff : shim.config.gpuVideo = false)
    (memoryOff : shim.config.cgroupMemory = false) (real : Real World)
    (world : World) {calls : List ProcessCall}
    (keep : ∀ call, call ∈ calls → call.KeepsArgument) :
    throughShim word shim real calls (.start world) =
      some
        (answersTo (directIn real) world calls,
          .start (afterCalls (directIn real) world calls)) := by
  induction calls generalizing world with
  | nil =>
      rfl
  | cons call rest inductionHypothesis =>
      have keepsFirst := keep call List.mem_cons_self
      have keepRest (later : ProcessCall) (member : later ∈ rest) :
          later.KeepsArgument :=
        keep later (List.mem_cons_of_mem call member)
      rw [throughShim,
        performIn_of_off word videoOff memoryOff real world keepsFirst]
      simp only [Option.bind_some, inductionHypothesis _ keepRest]
      rfl

end BothOff

/-- A machine with 64-bit words. -/
def word64 : MachineWord :=
  ⟨2 ^ 64 - 1, 2 ^ 63 - 1, Or.inr rfl⟩

/-- The container with every module off. -/
def switchedOffShim : Shim :=
  { containerShim with config := ⟨false, true, false⟩ }

/-- A process that looks for its memory in two ways, from a duplicate that it
makes with `fcntl`. -/
def lookForMemory : List ProcessCall :=
  [.call containerEnv (.open_ (some meminfoPath) 0 0),
    .call containerEnv (.fcntl 3 fDupfd (some 10)),
    .call containerEnv (.read 3 true 1),
    .fopen containerEnv 1 (some meminfoPath) (some (cstr "r"))]

theorem unseen_lookForMemory :
    throughShim word64 switchedOffShim (constantReal Unit 3) lookForMemory
        (.start ()) =
      some
        ([.reply (.number ⟨3, 0⟩), .reply (.number ⟨3, 0⟩),
            .reply (.filled ⟨⟨3, 0⟩, []⟩), .reply (.pointer ⟨none, 0⟩)],
          .start ()) := by
  have duplicateKeeps : (Call.fcntl 3 fDupfd (some 10)).KeepsArgument := by
    decide
  have keep (call : ProcessCall) (member : call ∈ lookForMemory) :
      call.KeepsArgument := by
    simp only [lookForMemory, List.mem_cons, List.not_mem_nil, or_false]
      at member
    rcases member with rfl | rfl | rfl | rfl
    · rfl
    · exact duplicateKeeps
    · rfl
    · trivial
  exact unseen_of_run word64 rfl rfl (constantReal Unit 3) () keep

/-- `F_DUPFD_QUERY`, which `fcntl_arg_kind` does not know. -/
def fDupfdQuery : Int := 1027

/-- Where the real `fcntl` reads an argument of a command that the wrapper
does not know, the shim is seen. -/
theorem seen_fcntlOfUnknownCommand :
    ∃ real : Real Unit,
      throughShim word64 switchedOffShim real
          [.call containerEnv (.fcntl 3 fDupfdQuery (some 3))] (.start ()) =
        some ([.reply (.number ⟨0, 0⟩)], .start ()) ∧
      answersTo (directIn real) ()
          [.call containerEnv (.fcntl 3 fDupfdQuery (some 3))] =
        [.reply (.number ⟨1, 0⟩)] :=
  ⟨tellingReal (some 3) none, by rfl, by rfl⟩

end RunpodShim

import RunpodShim.Preload.Real
import RunpodShim.Preload.RelativePath

/-!
# The wrappers

The functions that `preload.c` exports in place of the real ones, with their
helpers.  A wrapper takes the process through its own variables and the real
calls in the order of the source.  What `rps_trace` does to `errno` stands
apart, in `Preload.Trace`.
-/

namespace RunpodShim

universe u

variable {World : Type u}

/-! ## Flags and commands -/

/-- `O_CREAT`. -/
def oCreat : UInt32 := 0x40

/-- `O_TMPFILE`. -/
def oTmpfile : UInt32 := 0x410000

/-- `O_ACCMODE`. -/
def oAccmode : UInt32 := 3

/-- `O_WRONLY`. -/
def oWronly : UInt32 := 1

/-- `O_PATH`. -/
def oPath : UInt32 := 0x200000

def openNeedsMode (flags : UInt32) : Bool :=
  flags &&& oCreat != 0 || flags &&& oTmpfile == oTmpfile

/-- The mode argument, read only where the flags call for one. -/
def modeOf (flags mode : UInt32) : Option UInt32 :=
  if openNeedsMode flags then some mode else none

/-- `"/proc/meminfo"`. -/
def meminfoPath : CString := cstr "/proc/meminfo"

def shouldVirtualizeMeminfo (cfg : RpsConfig) (path : Option CString)
    (flags : UInt32) : Bool :=
  if path ≠ some meminfoPath then false
  else if !cfg.cgroupMemory then false
  else if flags &&& oAccmode = oWronly then false
  else if flags &&& oPath = oPath then false
  else true

inductive FcntlArgKind where
  | none
  | int
  | ptr
deriving DecidableEq, Repr

/-- `F_DUPFD` and `F_DUPFD_CLOEXEC`. -/
def fDupfd : Int := 0

def fDupfdCloexec : Int := 1030

/-- The commands whose argument is an `int`. -/
def fcntlIntCommands : List Int :=
  [fDupfd, fDupfdCloexec, 2, 4, 8, 10, 1024, 1026, 1031, 1033]

/-- The commands whose argument is a pointer. -/
def fcntlPtrCommands : List Int :=
  [5, 6, 7, 36, 37, 38, 16, 15, 1035, 1036, 1037, 1038]

def fcntlArgKind (cmd : Int) : FcntlArgKind :=
  if cmd ∈ fcntlIntCommands then .int
  else if cmd ∈ fcntlPtrCommands then .ptr
  else .none

def fcntlDuplicatesFd (cmd : Int) : Bool :=
  cmd == fDupfd || cmd == fDupfdCloexec

/-- The requests of `ioctl_request_has_no_arg`: FIOCLEX, FIONCLEX, TIOCEXCL,
TIOCNXCL and TIOCNOTTY. -/
def ioctlRequestHasNoArg (request : UInt64) : Bool :=
  request ∈ ([0x5451, 0x5450, 0x540C, 0x540D, 0x5422] : List UInt64)

/-! ## Attaching and tracking -/

def maybeAttachMeminfo (shim : Shim) (env : Env) (fd : Int)
    (path : Option CString) (flags : UInt32) (state : ShimState) :
    ShimState :=
  if fd < 0 ∨ ¬ shouldVirtualizeMeminfo shim.config path flags then state
  else
    match rpsGuardEnter state.depth with
    | none => state
    | some inside =>
        let entries :=
          match env.meminfo with
          | some text =>
              (rpsFdMapPut env.contentMalloc fd (some text) text.length
                state.entries).2
          | none => state.entries
        { state with entries := entries, depth := rpsGuardLeave inside }

def gpuProcDenied (shim : Shim) (path : Option CString) : Bool :=
  rpsGpuVideoEnabled shim.config && shim.ready && pathIsAbsolute path &&
    rpsGpuProcPathAllowed (some shim.allowed) path == .deny

def gpuTraceAndTrackOpen (shim : Shim) (env : Env)
    (path : Option CString) (fd : Int) (state : ShimState) : ShimState :=
  if ¬ rpsGpuVideoEnabled shim.config then state
  else
    match rpsGpuClassifyPath path with
    | (false, _) =>
        if fd ≥ 0 then
          { state with nodes := rpsGpuFdMapRemove fd state.nodes }
        else state
    | (true, record) =>
        if fd ≥ 0 then
          { state with
            nodes := rpsGpuFdMapSet env.nodeMalloc fd record state.nodes }
        else state

def gpuReaddirEntryAllowed (shim : Shim) (state : ShimState) (dirfd : Int)
    (name : CString) : Bool :=
  if ¬ rpsGpuVideoEnabled shim.config ∨ ¬ shim.ready then true
  else
    match rpsGpuFdMapGet dirfd state.nodes with
    | none => true
    | some record =>
        if record.kind ≠ .procGpusDir ∨ name = cstr "." ∨
            name = cstr ".." then
          true
        else rpsGpuAllowedContainsBus (some shim.allowed) name

/-- The failure of `gpu_open_denied_path` and of the other refusals. -/
def denied : Ret Int := ⟨-1, enoent⟩

/-! ## Opening -/

def openCommon (shim : Shim) (real : Real World) (env : Env)
    (path : Option CString) (flags : UInt32) (mode : Option UInt32)
    (useOpen64 : Bool) (process : Process World) :
    Ret Int × Process World :=
  if gpuProcDenied shim path then (denied, process)
  else
    let called :=
      if useOpen64 then real.open64 path flags mode process.world
      else real.open_ path flags mode process.world
    let attached :=
      maybeAttachMeminfo shim env called.1.value path flags process.state
    let tracked :=
      gpuTraceAndTrackOpen shim env path called.1.value attached
    (called.1, ⟨tracked, called.2⟩)

/-- The real call of `openat_common`: `openat64_via_next` where that symbol
exists and is asked for. -/
def openatReal (real : Real World) (useOpen64 : Bool) :
    Int → Option CString → UInt32 → Option UInt32 → World →
      Ret Int × World :=
  if useOpen64 then
    match real.openat64 with
    | some openat64 => openat64
    | none => real.openat
  else real.openat

def openatCommon (shim : Shim) (real : Real World) (env : Env)
    (dirfd : Int) (path : Option CString) (flags : UInt32)
    (mode : Option UInt32) (useOpen64 : Bool) (process : Process World) :
    Ret Int × Process World :=
  match
    gpuEffectiveOpenatPath process.state.nodes dirfd path rpsGpuPathMax
  with
  | (.deny, _) => (denied, process)
  | (_, effectivePath) =>
      if gpuProcDenied shim effectivePath then (denied, process)
      else
        let called :=
          openatReal real useOpen64 dirfd path flags mode process.world
        let attached :=
          if dirfd = atFdcwd then
            maybeAttachMeminfo shim env called.1.value path flags
              process.state
          else process.state
        let tracked :=
          if pathIsAbsolute effectivePath ∨ dirfd = atFdcwd then
            gpuTraceAndTrackOpen shim env effectivePath called.1.value
              attached
          else attached
        (called.1, ⟨tracked, called.2⟩)

/-- `meminfo_mode_is_read_only`. -/
def meminfoModeIsReadOnly : Option CString → Bool
  | none => false
  | some mode => mode.head? == some 114 && !mode.contains 43

/-- `write_all_fd`, observed for at most `rounds` calls of `write`; `none` is
a loop that is still running. -/
def writeAllFd (real : Real World) (fd : Int) :
    Nat → List UInt8 → World → Option (Bool × World)
  | 0, _, _ => none
  | rounds + 1, rest, world =>
      if rest = [] then some (true, world)
      else
        let out := real.sysWrite fd rest world
        if out.1.value < 0 then
          if out.1.errno = eintr then writeAllFd real fd rounds rest out.2
          else some (false, out.2)
        else if out.1.value = 0 then some (false, out.2)
        else writeAllFd real fd rounds (rest.drop out.1.value.toNat) out.2

def realFopenCommon (real : Real World) (path mode : Option CString)
    (useFopen64 : Bool) (world : World) : Ret Pointer × World :=
  if useFopen64 then real.fopen64 path mode world
  else real.fopen path mode world

/-- The stream over an anonymous file that `fopen_common` builds, NULL where
that fails. -/
def memfdStream (real : Real World) (rounds : Nat) (text : List UInt8)
    (world : World) : Option (Ret Pointer × World) :=
  let created := real.sysMemfdCreate (cstr "runpod-shim-meminfo") 1 world
  let fd := created.1.value
  if fd < 0 then some (⟨none, created.1.errno⟩, created.2)
  else
    (writeAllFd real fd rounds text created.2).map fun written =>
      let opened : Ret Pointer × World :=
        if written.1 then
          let sought := real.sysLseek fd written.2
          if sought.1.value = 0 then
            real.fdopen fd (cstr "r") sought.2
          else (⟨none, sought.1.errno⟩, sought.2)
        else (⟨none, 0⟩, written.2)
      if opened.1.value = none then
        let closed := real.close fd opened.2
        (⟨none, closed.1.errno⟩, closed.2)
      else opened

def fopenCommon (shim : Shim) (real : Real World) (env : Env)
    (rounds : Nat) (path mode : Option CString) (useFopen64 : Bool)
    (process : Process World) : Option (Ret Pointer × Process World) :=
  let passed (world : World) : Ret Pointer × Process World :=
    let called := realFopenCommon real path mode useFopen64 world
    (called.1, { process with world := called.2 })
  if ¬ meminfoModeIsReadOnly mode ∨
      ¬ shouldVirtualizeMeminfo shim.config path 0 then
    some (passed process.world)
  else
    match rpsGuardEnter process.state.depth with
    | none => some (passed process.world)
    | some _ =>
        match env.meminfo with
        | none => some (passed process.world)
        | some text =>
            (memfdStream real rounds text process.world).map fun stream =>
              if stream.1.value = none then passed stream.2
              else (stream.1, { process with world := stream.2 })

namespace Preload

def open_ (shim : Shim) (real : Real World) (env : Env)
    (path : Option CString) (flags mode : UInt32)
    (process : Process World) : Ret Int × Process World :=
  openCommon shim real env path flags (modeOf flags mode) false process

def open64 (shim : Shim) (real : Real World) (env : Env)
    (path : Option CString) (flags mode : UInt32)
    (process : Process World) : Ret Int × Process World :=
  openCommon shim real env path flags (modeOf flags mode) true process

def openat (shim : Shim) (real : Real World) (env : Env)
    (dirfd : Int) (path : Option CString) (flags mode : UInt32)
    (process : Process World) : Ret Int × Process World :=
  openatCommon shim real env dirfd path flags (modeOf flags mode) false
    process

def openat64 (shim : Shim) (real : Real World) (env : Env)
    (dirfd : Int) (path : Option CString) (flags mode : UInt32)
    (process : Process World) : Ret Int × Process World :=
  openatCommon shim real env dirfd path flags (modeOf flags mode) true
    process

def fopen (shim : Shim) (real : Real World) (env : Env) (rounds : Nat)
    (path mode : Option CString) (process : Process World) :
    Option (Ret Pointer × Process World) :=
  fopenCommon shim real env rounds path mode false process

def fopen64 (shim : Shim) (real : Real World) (env : Env) (rounds : Nat)
    (path mode : Option CString) (process : Process World) :
    Option (Ret Pointer × Process World) :=
  fopenCommon shim real env rounds path mode true process

/-! ## Descriptors -/

def read (real : Real World) (fd : Int) (buffer : Bool) (count : Nat)
    (process : Process World) : Filled × Process World :=
  let passed (state : ShimState) : Filled × Process World :=
    let called := real.read fd buffer count process.world
    (called.1, ⟨state, called.2⟩)
  match rpsGuardEnter process.state.depth with
  | none => passed process.state
  | some inside =>
      let taken := rpsFdMapTakeRead buffer fd count process.state.entries
      let state :=
        { process.state with
          entries := taken.2, depth := rpsGuardLeave inside }
      match taken.1 with
      | some bytes =>
          (⟨⟨bytes.length, 0⟩, bytes⟩, ⟨state, process.world⟩)
      | none => passed state

def close (real : Real World) (fd : Int) (process : Process World) :
    Ret Int × Process World :=
  let dropped :=
    { process.state with
      entries := rpsFdMapRemove fd process.state.entries
      nodes := rpsGpuFdMapRemove fd process.state.nodes }
  let called := real.close fd process.world
  (called.1, ⟨dropped, called.2⟩)

def dup (real : Real World) (env : Env) (oldfd : Int)
    (process : Process World) : Ret Int × Process World :=
  let called := real.dup oldfd process.world
  let state :=
    if called.1.value ≥ 0 then
      { process.state with
        nodes :=
          rpsGpuFdMapCopy env.nodeMalloc oldfd called.1.value
            process.state.nodes }
    else process.state
  (called.1, ⟨state, called.2⟩)

/-- What `dup2` and `dup3` do to the tables when they succeed. -/
def replaceFd (env : Env) (oldfd newfd : Int) (state : ShimState) :
    ShimState :=
  { state with
    entries := rpsFdMapRemove newfd state.entries
    nodes := rpsGpuFdMapCopy env.nodeMalloc oldfd newfd state.nodes }

def dup2 (real : Real World) (env : Env) (oldfd newfd : Int)
    (process : Process World) : Ret Int × Process World :=
  let called := real.dup2 oldfd newfd process.world
  let state :=
    if called.1.value ≥ 0 ∧ oldfd ≠ newfd then
      replaceFd env oldfd newfd process.state
    else process.state
  (called.1, ⟨state, called.2⟩)

def dup3 (real : Real World) (env : Env) (oldfd newfd : Int)
    (flags : UInt32) (process : Process World) :
    Ret Int × Process World :=
  let called := real.dup3 oldfd newfd flags process.world
  let state :=
    if called.1.value ≥ 0 then
      replaceFd env oldfd newfd process.state
    else process.state
  (called.1, ⟨state, called.2⟩)

/-- The argument of `fcntl` as it is passed on, `none` where there is none; an
`int` keeps 32 bits. -/
def fcntlArgument (cmd : Int) (arg : Option UInt64) : Option UInt64 :=
  match fcntlArgKind cmd with
  | .int => arg.map fun arg => UInt64.ofNat (arg.toNat % 4294967296)
  | .ptr => arg
  | .none => none

def fcntl (real : Real World) (env : Env) (fd cmd : Int)
    (arg : Option UInt64) (process : Process World) : Ret Int × Process World :=
  let called := real.fcntl fd cmd (fcntlArgument cmd arg) process.world
  let state :=
    if called.1.value ≥ 0 ∧ fcntlDuplicatesFd cmd = true then
      { process.state with
        nodes :=
          rpsGpuFdMapCopy env.nodeMalloc fd called.1.value
            process.state.nodes }
    else process.state
  (called.1, ⟨state, called.2⟩)

/-! ## Paths and directories -/

def stat (shim : Shim) (real : Real World) (path : Option CString)
    (process : Process World) : Filled × Process World :=
  if gpuProcDenied shim path then (⟨denied, []⟩, process)
  else
    let called := real.stat path process.world
    (called.1, { process with world := called.2 })

def fstatatCommon (shim : Shim) (real : Real World) (dirfd : Int)
    (path : Option CString) (flags : UInt32) (process : Process World) :
    Filled × Process World :=
  match
    gpuEffectiveOpenatPath process.state.nodes dirfd path rpsGpuPathMax
  with
  | (.deny, _) => (⟨denied, []⟩, process)
  | (_, effectivePath) =>
      if gpuProcDenied shim effectivePath then (⟨denied, []⟩, process)
      else
        let called := real.sysNewfstatat dirfd path flags process.world
        (called.1, { process with world := called.2 })

def newfstatat (shim : Shim) (real : Real World) (dirfd : Int)
    (path : Option CString) (flags : UInt32) (process : Process World) :
    Filled × Process World :=
  fstatatCommon shim real dirfd path flags process

def fstatat (shim : Shim) (real : Real World) (dirfd : Int)
    (path : Option CString) (flags : UInt32) (process : Process World) :
    Filled × Process World :=
  fstatatCommon shim real dirfd path flags process

/-- The real call of `opendir_common`. -/
def opendirReal (real : Real World) (useOpendir64 : Bool) :
    Option CString → World → Ret Pointer × World :=
  if useOpendir64 then
    match real.opendir64 with
    | some opendir64 => opendir64
    | none => real.opendir
  else real.opendir

def opendirCommon (shim : Shim) (real : Real World) (env : Env)
    (path : Option CString) (useOpendir64 : Bool)
    (process : Process World) : Ret Pointer × Process World :=
  if gpuProcDenied shim path then (⟨none, enoent⟩, process)
  else
    let called := opendirReal real useOpendir64 path process.world
    let tracked :=
      match called.1.value with
      | some dir =>
          gpuTraceAndTrackOpen shim env path (real.dirfd dir called.2)
            process.state
      | none => process.state
    (called.1, ⟨tracked, called.2⟩)

def opendir (shim : Shim) (real : Real World) (env : Env)
    (path : Option CString) (process : Process World) :
    Ret Pointer × Process World :=
  opendirCommon shim real env path false process

def opendir64 (shim : Shim) (real : Real World) (env : Env)
    (path : Option CString) (process : Process World) :
    Ret Pointer × Process World :=
  opendirCommon shim real env path true process

def fdopendir (real : Real World) (fd : Int) (process : Process World) :
    Ret Pointer × Process World :=
  match real.fdopendir with
  | none => (⟨none, enosys⟩, process)
  | some realFdopendir =>
      let called := realFdopendir fd process.world
      (called.1, { process with world := called.2 })

def closedir (real : Real World) (dir : Nat) (process : Process World) :
    Ret Int × Process World :=
  let fd := real.dirfd dir process.world
  let called := real.closedir dir process.world
  let state :=
    if called.1.value = 0 ∧ fd ≥ 0 then
      { process.state with nodes := rpsGpuFdMapRemove fd process.state.nodes }
    else process.state
  (called.1, ⟨state, called.2⟩)

/-- The loop of `readdir` and `readdir64` from the entry that was just read,
observed for at most `rounds` more; `none` is a loop that is still running. -/
def skipHidden (shim : Shim) (state : ShimState)
    (realReaddir : Nat → World → Ret (Option DirEntry) × World)
    (dir : Nat) (fd : Int) :
    Nat → Ret (Option DirEntry) × World →
      Option (Ret (Option DirEntry) × World)
  | rounds, called =>
      match called.1.value with
      | none => some called
      | some entry =>
          if gpuReaddirEntryAllowed shim state fd entry.dName then
            some called
          else
            match rounds with
            | 0 => none
            | more + 1 =>
                skipHidden shim state realReaddir dir fd more
                  (realReaddir dir called.2)

/-- The common body of `readdir` and `readdir64`. -/
def readVisible (shim : Shim) (real : Real World)
    (realReaddir : Nat → World → Ret (Option DirEntry) × World)
    (rounds dir : Nat) (process : Process World) :
    Option (Ret (Option DirEntry) × Process World) :=
  let called := realReaddir dir process.world
  let fd := real.dirfd dir called.2
  (skipHidden shim process.state realReaddir dir fd rounds called).map
    fun reached => (reached.1, { process with world := reached.2 })

def readdir (shim : Shim) (real : Real World) (rounds dir : Nat)
    (process : Process World) :
    Option (Ret (Option DirEntry) × Process World) :=
  readVisible shim real real.readdir rounds dir process

def readdir64 (shim : Shim) (real : Real World) (rounds dir : Nat)
    (process : Process World) :
    Option (Ret (Option DirEntry) × Process World) :=
  match real.readdir64 with
  | none => some (⟨none, enosys⟩, process)
  | some realReaddir64 =>
      readVisible shim real realReaddir64 rounds dir process

def getdents64 (shim : Shim) (real : Real World) (fd : Int) (count : Nat)
    (process : Process World) : Filled × Process World :=
  let called := real.sysGetdents64 fd count process.world
  let onGpusDir :=
    (rpsGpuFdMapGet fd process.state.nodes).any fun record =>
      record.kind == .procGpusDir
  let filled : Filled :=
    if called.1.ret.value > 0 ∧ rpsGpuVideoEnabled shim.config = true ∧
        shim.ready = true ∧ onGpusDir = true then
      let filtered :=
        rpsGpuFilterDirent64Buffer (some called.1.bytes)
          called.1.ret.value (some shim.allowed)
      ⟨⟨filtered.1, called.1.ret.errno⟩, filtered.2.getD []⟩
    else called.1
  (filled, { process with world := called.2 })

def ioctl (shim : Shim) (real : Real World) (fd : Int) (request : UInt64)
    (arg : Option IoctlArg) (process : Process World) :
    IoctlReply × Process World :=
  let called :=
    real.ioctl fd request
      (if ioctlRequestHasNoArg request then none else arg) process.world
  let onCtl :=
    (rpsGpuFdMapGet fd process.state.nodes).any fun record =>
      record.kind == .nvidiaCtl
  if rpsGpuIoctlEnabled shim.config = true ∧ onCtl = true then
    let filtered :=
      rpsGpuIoctlFilterAfter shim.config
        (if shim.ready then some shim.allowed else none) request
        called.1.arg called.1.ret.value process.state.allowedGpuIds
    (⟨called.1.ret, filtered.2⟩,
      ⟨{ process.state with allowedGpuIds := filtered.1 }, called.2⟩)
  else (called.1, { process with world := called.2 })

end Preload

end RunpodShim

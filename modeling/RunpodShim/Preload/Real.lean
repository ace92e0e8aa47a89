import RunpodShim.Core.Config
import RunpodShim.Core.FdMap
import RunpodShim.Gpu.DirentFilter
import RunpodShim.Gpu.FdTracker
import RunpodShim.Gpu.IoctlFilter
import RunpodShim.Gpu.Topology

/-!
# What the wrappers stand on

The real functions of `core/real.h` and the raw system calls, over any type of
worlds: a world is the kernel together with the memory of the process outside
the shim.  Beside them stand the shim's own variables.
-/

namespace RunpodShim

universe u

/-- `ENOENT`. -/
def enoent : Int := 2

/-- `ENOSYS`. -/
def enosys : Int := 38

/-- `EINTR`. -/
def eintr : Int := 4

/-- `AT_FDCWD`. -/
def atFdcwd : Int := -100

/-- What a call returns, with `errno` as it leaves it; `errno` means nothing
after a success. -/
structure Ret (Value : Type) where
  value : Value
  errno : Int
deriving DecidableEq, Repr

/-- What a call that fills a buffer returns, with the bytes it put there. -/
structure Filled where
  ret : Ret Int
  bytes : List UInt8
deriving DecidableEq, Repr

/-- What `ioctl` returns, with its argument afterwards. -/
structure IoctlReply where
  ret : Ret Int
  arg : Option IoctlArg
deriving DecidableEq, Repr

/-- `struct dirent`, and `struct dirent64`. -/
structure DirEntry where
  dIno : UInt64
  dOff : UInt64
  dType : UInt8
  dName : CString
deriving DecidableEq, Repr

/-- The address of a `FILE` or of a `DIR`, `none` for NULL. -/
abbrev Pointer := Option Nat

/-- The real functions, as the shim calls them.  A variadic argument that is
not passed is `none`; a symbol that `dlsym` may not find is an `Option`. -/
structure Real (World : Type u) where
  open_ : Option CString → UInt32 → Option UInt32 → World → Ret Int × World
  open64 : Option CString → UInt32 → Option UInt32 → World → Ret Int × World
  openat :
    Int → Option CString → UInt32 → Option UInt32 → World → Ret Int × World
  openat64 :
    Option
      (Int → Option CString → UInt32 → Option UInt32 → World →
        Ret Int × World)
  fopen : Option CString → Option CString → World → Ret Pointer × World
  fopen64 : Option CString → Option CString → World → Ret Pointer × World
  fdopen : Int → CString → World → Ret Pointer × World
  close : Int → World → Ret Int × World
  read : Int → Bool → Nat → World → Filled × World
  dup : Int → World → Ret Int × World
  dup2 : Int → Int → World → Ret Int × World
  dup3 : Int → Int → UInt32 → World → Ret Int × World
  fcntl : Int → Int → Option UInt64 → World → Ret Int × World
  stat : Option CString → World → Filled × World
  ioctl : Int → UInt64 → Option IoctlArg → World → IoctlReply × World
  opendir : Option CString → World → Ret Pointer × World
  opendir64 : Option (Option CString → World → Ret Pointer × World)
  fdopendir : Option (Int → World → Ret Pointer × World)
  readdir : Nat → World → Ret (Option DirEntry) × World
  readdir64 : Option (Nat → World → Ret (Option DirEntry) × World)
  closedir : Nat → World → Ret Int × World
  dirfd : Nat → World → Int
  sysNewfstatat : Int → Option CString → UInt32 → World → Filled × World
  sysGetdents64 : Int → Nat → World → Filled × World
  sysMemfdCreate : CString → UInt32 → World → Ret Int × World
  sysWrite : Int → List UInt8 → World → Ret Int × World
  sysLseek : Int → World → Ret Int × World

/-- Functions that return the same number whatever they are asked. -/
def constantReal (World : Type u) (number : Int) : Real World where
  open_ _ _ _ world := (⟨number, 0⟩, world)
  open64 _ _ _ world := (⟨number, 0⟩, world)
  openat _ _ _ _ world := (⟨number, 0⟩, world)
  openat64 := none
  fopen _ _ world := (⟨none, 0⟩, world)
  fopen64 _ _ world := (⟨none, 0⟩, world)
  fdopen _ _ world := (⟨none, 0⟩, world)
  close _ world := (⟨number, 0⟩, world)
  read _ _ _ world := (⟨⟨number, 0⟩, []⟩, world)
  dup _ world := (⟨number, 0⟩, world)
  dup2 _ _ world := (⟨number, 0⟩, world)
  dup3 _ _ _ world := (⟨number, 0⟩, world)
  fcntl _ _ _ world := (⟨number, 0⟩, world)
  stat _ world := (⟨⟨number, 0⟩, []⟩, world)
  ioctl _ _ arg world := (⟨⟨number, 0⟩, arg⟩, world)
  opendir _ world := (⟨none, 0⟩, world)
  opendir64 := none
  fdopendir := none
  readdir _ world := (⟨none, 0⟩, world)
  readdir64 := none
  closedir _ world := (⟨number, 0⟩, world)
  dirfd _ _ := number
  sysNewfstatat _ _ _ world := (⟨⟨number, 0⟩, []⟩, world)
  sysGetdents64 _ _ world := (⟨⟨number, 0⟩, []⟩, world)
  sysMemfdCreate _ _ world := (⟨number, 0⟩, world)
  sysWrite _ _ world := (⟨number, 0⟩, world)
  sysLseek _ world := (⟨number, 0⟩, world)

/-- What the constructor leaves: the switches, the allowed set and
`g_gpu_proc_filter_ready`, which is the `valid` that topology detection
returned. -/
structure Shim where
  config : RpsConfig
  allowed : RpsGpuAllowedGpus
  ready : Bool
  ready_valid : ready = true → allowed.valid = true

/-- `runpod_shim_init`, in a process that starts in this environment with
these GPU files.  That every libc symbol is there is taken for granted. -/
def runpodShimInit (env : Environment) (tree : GpuTree) : Shim :=
  let cfg := (rpsConfigGet env none).1.config
  let allowed :=
    if cfg.gpuVideo then rpsGpuProcFilterRuntimeInit tree none
    else noAllowedGpus
  { config := cfg
    allowed := allowed
    ready := allowed.valid
    ready_valid := id }

/-- The variables that the wrappers change. -/
structure ShimState where
  /-- `g_fd_map_head` -/
  nodes : List RpsGpuFdNode
  /-- `entries` of `core/fd_map.c` -/
  entries : List RpsFdMapEntry
  /-- `g_allowed_gpu_ids` -/
  allowedGpuIds : List UInt32
  /-- `depth` of `core/guard.c` -/
  depth : Int
deriving DecidableEq, Repr

/-- The variables before the first call. -/
def ShimState.initial : ShimState where
  nodes := []
  entries := emptyEntries
  allowedGpuIds := []
  depth := 0

/-- What one call of a wrapper meets besides the kernel: the text that
`rps_proc_meminfo_build` makes, if it succeeds, and whether memory for the
copy of that text and for a tracker node can be allocated. -/
structure Env where
  meminfo : Option (List UInt8)
  contentMalloc : Bool
  nodeMalloc : Bool
deriving DecidableEq, Repr

/-- A process with the shim in it. -/
structure Process (World : Type u) where
  state : ShimState
  world : World
deriving DecidableEq

/-! ## A container with one of the GPUs -/

/-- The GPU that is mounted into the container. -/
def mountedGpu : RpsGpuInfo where
  present := true
  deviceMinor := 4
  busId := cstr "0000:04:00.0"
  uuid := cstr "GPU-4"

/-- The shim there, with every module on. -/
def containerShim : Shim where
  config := ⟨true, true, true⟩
  allowed := ⟨true, [mountedGpu], by decide⟩
  ready := true
  ready_valid := fun _ => rfl

/-- A call there: the meminfo text is built and memory is to be had. -/
def containerEnv : Env where
  meminfo := some (cstr "MemTotal: 1 kB")
  contentMalloc := true
  nodeMalloc := true

/-! ## The guard -/

/-- `rps_guard_enter`: the depth inside, if it may be entered. -/
def rpsGuardEnter (depth : Int) : Option Int :=
  if depth ≠ 0 then none else some (depth + 1)

/-- `rps_guard_leave`. -/
def rpsGuardLeave (depth : Int) : Int :=
  if depth > 0 then depth - 1 else depth

theorem rpsGuardEnter_eq_some_iff {depth inside : Int} :
    rpsGuardEnter depth = some inside ↔ depth = 0 ∧ inside = 1 := by
  unfold rpsGuardEnter
  split
  · rename_i held
    constructor
    · intro entered
      cases entered
    · intro both
      exact absurd both.1 held
  · rename_i free
    have zero : depth = 0 := Decidable.not_not.mp free
    simp [zero, eq_comm]

/-- Leaving undoes entering. -/
theorem rpsGuardLeave_of_rpsGuardEnter {depth inside : Int}
    (entered : rpsGuardEnter depth = some inside) :
    rpsGuardLeave inside = depth := by
  obtain ⟨zero, one⟩ := rpsGuardEnter_eq_some_iff.mp entered
  rw [zero, one]
  rfl

end RunpodShim

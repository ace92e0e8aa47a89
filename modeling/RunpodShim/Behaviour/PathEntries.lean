import RunpodShim.Behaviour.OpenatAbsolute
import RunpodShim.Preload.Transparency

/-!
# The entry points that take a path

Eleven wrappers open or examine a path.  Nine of them refuse exactly what the
filter hides; `fopen` and `fopen64` never ask it.
-/

namespace RunpodShim

universe u

/-- An entry point with its arguments besides the path. -/
inductive PathEntry where
  | open_ (flags mode : UInt32)
  | open64 (flags mode : UInt32)
  | openat (dirfd : Int) (flags mode : UInt32)
  | openat64 (dirfd : Int) (flags mode : UInt32)
  | fopen (mode : Option CString)
  | fopen64 (mode : Option CString)
  | opendir
  | opendir64
  | stat
  | fstatat (dirfd : Int) (flags : UInt32)
  | newfstatat (dirfd : Int) (flags : UInt32)
deriving DecidableEq, Repr

/-- The streams are opened without the filter. -/
def PathEntry.isStream : PathEntry → Bool
  | .fopen _ | .fopen64 _ => true
  | _ => false

/-- The call of an entry point other than the streams. -/
def PathEntry.call (path : CString) : PathEntry → Option Call
  | .open_ flags mode => some (.open_ (some path) flags mode)
  | .open64 flags mode => some (.open64 (some path) flags mode)
  | .openat dirfd flags mode =>
      some (.openat dirfd (some path) flags mode)
  | .openat64 dirfd flags mode =>
      some (.openat64 dirfd (some path) flags mode)
  | .fopen _ | .fopen64 _ => none
  | .opendir => some (.opendir (some path))
  | .opendir64 => some (.opendir64 (some path))
  | .stat => some (.stat (some path))
  | .fstatat dirfd flags => some (.fstatat dirfd (some path) flags)
  | .newfstatat dirfd flags => some (.newfstatat dirfd (some path) flags)

section Entry

variable {World : Type u}

/-- A call of the entry point; `rounds` bounds the writes of `fopen`. -/
def PathEntry.enter (shim : Shim) (real : Real World) (env : Env)
    (rounds : Nat) (path : CString) (entry : PathEntry)
    (process : Process World) : Option (Reply × Process World) :=
  match entry with
  | .fopen mode =>
      (Preload.fopen shim real env rounds (some path) mode process).map
        (Prod.map .pointer id)
  | .fopen64 mode =>
      (Preload.fopen64 shim real env rounds (some path) mode process).map
        (Prod.map .pointer id)
  | other =>
      (other.call path).bind fun call =>
        perform shim real env call process

/-- The real function of the entry point. -/
def PathEntry.enterReal (real : Real World) (path : CString)
    (entry : PathEntry) (world : World) : Option (Reply × World) :=
  match entry with
  | .fopen mode =>
      some ((real.fopen (some path) mode world).map .pointer id)
  | .fopen64 mode =>
      some ((real.fopen64 (some path) mode world).map .pointer id)
  | other => (other.call path).map fun call => direct real call world

end Entry

/-- Failure with `ENOENT`. -/
def PathEntry.refusal : PathEntry → Reply
  | .open_ _ _ | .open64 _ _ | .openat _ _ _ | .openat64 _ _ _ =>
      .number denied
  | .fopen _ | .fopen64 _ | .opendir | .opendir64 =>
      .pointer ⟨none, enoent⟩
  | .stat | .fstatat _ _ | .newfstatat _ _ => .filled ⟨denied, []⟩

/-- The entry point fails with `ENOENT` before any real call: the process and
the world, of whatever kind, are left as they are. -/
def PathEntry.Hides (shim : Shim) (path : CString) (entry : PathEntry) :
    Prop :=
  ∀ (World : Type) (real : Real World) (env : Env) (rounds : Nat)
    (process : Process World),
    entry.enter shim real env rounds path process =
      some (entry.refusal, process)

/-- What the entry point returns is the reply of its real function, called
last, or a stream over the virtual file.  Only the write loop of a stream can
still be running. -/
def PathEntry.Passes (shim : Shim) (path : CString) (entry : PathEntry) :
    Prop :=
  ∀ (World : Type) (real : Real World) (env : Env) (rounds : Nat)
    (process : Process World),
    match entry.enter shim real env rounds path process with
    | none => entry.isStream = true
    | some (reply, after) =>
        (∃ world,
          entry.enterReal real path world = some (reply, after.world)) ∨
        ∃ stream errno, reply = .pointer ⟨some stream, errno⟩

/-- The entry point does what the filter decides. -/
structure PathEntry.Obeys (shim : Shim) (path : CString)
    (entry : PathEntry) : Prop where
  hides :
    rpsGpuProcPathAllowed (some shim.allowed) (some path) = .deny →
      entry.Hides shim path
  passes :
    rpsGpuProcPathAllowed (some shim.allowed) (some path) ≠ .deny →
      entry.Passes shim path

section Decision

variable {shim : Shim} {path : CString}

theorem gpuProcDenied_eq_decide (video : shim.config.gpuVideo = true)
    (ready : shim.ready = true)
    (absolute : pathIsAbsolute (some path) = true) :
    gpuProcDenied shim (some path) =
      (rpsGpuProcPathAllowed (some shim.allowed) (some path) == .deny) := by
  simp [gpuProcDenied, rpsGpuVideoEnabled, video, ready, absolute]

/-- The nine entry points that ask the filter are calls decided on the path
itself. -/
theorem PathEntry.exists_call (shim : Shim)
    (absolute : pathIsAbsolute (some path) = true) {entry : PathEntry}
    (asks : entry.isStream = false) :
    ∃ call : Call,
      (∀ nodes,
        call.effectivePath nodes = some (.passthrough, some path)) ∧
      call.refusal = entry.refusal ∧
      (∀ (World : Type) (real : Real World) (env : Env) (rounds : Nat)
        (process : Process World),
        entry.enter shim real env rounds path process =
          perform shim real env call process) ∧
      ∀ (World : Type) (real : Real World) (world : World),
        entry.enterReal real path world = some (direct real call world) := by
  have passed (nodes : List RpsGpuFdNode) (dirfd : Int) :
      some (gpuEffectiveOpenatPath nodes dirfd (some path) rpsGpuPathMax) =
        some (.passthrough, some path) := by
    rw [gpuEffectiveOpenatPath_of_absolute absolute]
  cases entry with
  | fopen mode =>
      cases asks
  | fopen64 mode =>
      cases asks
  | open_ flags mode =>
      exact
        ⟨.open_ (some path) flags mode, fun _ => rfl, rfl,
          fun _ _ _ _ _ => rfl, fun _ _ _ => rfl⟩
  | open64 flags mode =>
      exact
        ⟨.open64 (some path) flags mode, fun _ => rfl, rfl,
          fun _ _ _ _ _ => rfl, fun _ _ _ => rfl⟩
  | openat dirfd flags mode =>
      exact
        ⟨.openat dirfd (some path) flags mode, fun nodes =>
          passed nodes dirfd, rfl, fun _ _ _ _ _ => rfl, fun _ _ _ => rfl⟩
  | openat64 dirfd flags mode =>
      exact
        ⟨.openat64 dirfd (some path) flags mode, fun nodes =>
          passed nodes dirfd, rfl, fun _ _ _ _ _ => rfl, fun _ _ _ => rfl⟩
  | opendir =>
      exact
        ⟨.opendir (some path), fun _ => rfl, rfl, fun _ _ _ _ _ => rfl,
          fun _ _ _ => rfl⟩
  | opendir64 =>
      exact
        ⟨.opendir64 (some path), fun _ => rfl, rfl, fun _ _ _ _ _ => rfl,
          fun _ _ _ => rfl⟩
  | stat =>
      exact
        ⟨.stat (some path), fun _ => rfl, rfl, fun _ _ _ _ _ => rfl,
          fun _ _ _ => rfl⟩
  | fstatat dirfd flags =>
      exact
        ⟨.fstatat dirfd (some path) flags, fun nodes => passed nodes dirfd,
          rfl, fun _ _ _ _ _ => rfl, fun _ _ _ => rfl⟩
  | newfstatat dirfd flags =>
      exact
        ⟨.newfstatat dirfd (some path) flags, fun nodes =>
          passed nodes dirfd, rfl, fun _ _ _ _ _ => rfl, fun _ _ _ => rfl⟩

/-- They refuse what the filter hides. -/
theorem PathEntry.hides_of_denied
    (absolute : pathIsAbsolute (some path) = true)
    (denies : gpuProcDenied shim (some path) = true)
    {entry : PathEntry} (asks : entry.isStream = false) :
    entry.Hides shim path := by
  intro World real env rounds process
  obtain ⟨call, effective, refusal, entered, _⟩ :=
    PathEntry.exists_call shim absolute asks
  have refused : call.Refused shim process.state :=
    ⟨.passthrough, some path, effective _, Or.inr denies⟩
  rw [entered, ← refusal]
  exact perform_of_refused refused real env process.world

/-- What the filter does not hide they hand to their real function. -/
theorem PathEntry.passes_of_allowed
    (absolute : pathIsAbsolute (some path) = true)
    (allows : gpuProcDenied shim (some path) = false)
    {entry : PathEntry} (asks : entry.isStream = false) :
    entry.Passes shim path := by
  intro World real env rounds process
  obtain ⟨call, effective, _, entered, enteredReal⟩ :=
    PathEntry.exists_call shim absolute asks
  have takesPath : (call.effectivePath process.state.nodes).isSome := by
    simp [effective]
  have goesOn : ¬ call.Refused shim process.state := by
    rintro ⟨result, other, found, either⟩
    rw [effective] at found
    cases found
    rcases either with deny | denies
    · cases deny
    · rw [allows] at denies
      cases denies
  obtain ⟨state, performed⟩ :=
    transparent_of_not_refused takesPath goesOn World real env
      process.world
  rw [entered, performed]
  exact Or.inl ⟨process.world, enteredReal World real process.world⟩

end Decision

/-! ## Streams -/

section Streams

variable {World : Type u} {shim : Shim} {real : Real World} {env : Env}
variable {rounds : Nat} {path mode : Option CString} {large : Bool}
variable {process after : Process World} {ret : Ret Pointer}

/-- `fopen` ends in the real `fopen`, or returns the stream that it built. -/
theorem fopenCommon_cases
    (returned :
      fopenCommon shim real env rounds path mode large process =
        some (ret, after)) :
    (∃ world,
      realFopenCommon real path mode large world = (ret, after.world)) ∨
      ret.value ≠ none := by
  unfold fopenCommon at returned
  simp only at returned
  split at returned
  · cases returned
    exact Or.inl ⟨process.world, rfl⟩
  · split at returned
    · cases returned
      exact Or.inl ⟨process.world, rfl⟩
    · split at returned
      · cases returned
        exact Or.inl ⟨process.world, rfl⟩
      · rw [Option.map_eq_some_iff] at returned
        obtain ⟨stream, _, made⟩ := returned
        split at made
        · cases made
          exact Or.inl ⟨stream.2, rfl⟩
        · rename_i opened
          cases made
          exact Or.inr opened

/-- Where there is nothing to virtualise `fopen` is the real `fopen`. -/
theorem fopenCommon_of_unwanted
    (unwanted : shouldVirtualizeMeminfo shim.config path 0 = false) :
    fopenCommon shim real env rounds path mode large process =
      some
        ((realFopenCommon real path mode large process.world).1,
          { process with
            world :=
              (realFopenCommon real path mode large process.world).2 }) := by
  simp [fopenCommon, unwanted]

end Streams

/-- The streams, as every entry point, never fail on the shim's account. -/
theorem PathEntry.passes_of_isStream {entry : PathEntry}
    (streams : entry.isStream = true) (shim : Shim) (path : CString) :
    entry.Passes shim path := by
  intro World real env rounds process
  cases entered : entry.enter shim real env rounds path process with
  | none =>
      exact streams
  | some result =>
      cases entry with
      | fopen mode =>
          simp only [enter, Option.map_eq_some_iff] at entered
          obtain ⟨⟨ret, reached⟩, called, made⟩ := entered
          cases made
          rcases fopenCommon_cases called with ⟨world, last⟩ | opened
          · left
            refine ⟨world, ?_⟩
            simp only [realFopenCommon, Bool.false_eq_true,
              if_false] at last
            simp [enterReal, last]
          · right
            obtain ⟨stream, isStream⟩ := Option.ne_none_iff_exists'.mp opened
            exact ⟨stream, ret.errno, by simp [← isStream]⟩
      | fopen64 mode =>
          simp only [enter, Option.map_eq_some_iff] at entered
          obtain ⟨⟨ret, reached⟩, called, made⟩ := entered
          cases made
          rcases fopenCommon_cases called with ⟨world, last⟩ | opened
          · left
            refine ⟨world, ?_⟩
            simp only [realFopenCommon, if_true] at last
            simp [enterReal, last]
          · right
            obtain ⟨stream, isStream⟩ := Option.ne_none_iff_exists'.mp opened
            exact ⟨stream, ret.errno, by simp [← isStream]⟩
      | _ =>
          cases streams

/-- A hidden path is not refused by the streams. -/
theorem PathEntry.not_hides_of_isStream {shim : Shim} {path : CString}
    (denies : gpuProcDenied shim (some path) = true) {entry : PathEntry}
    (streams : entry.isStream = true) :
    ¬ entry.Hides shim path := by
  have differs : some path ≠ some meminfoPath := by
    intro same
    rw [same, gpuProcDenied_meminfoPath] at denies
    cases denies
  have unwanted :
      shouldVirtualizeMeminfo shim.config (some path) 0 = false := by
    simp only [shouldVirtualizeMeminfo, if_pos differs]
  intro hides
  have refused :=
    hides Unit (constantReal Unit 0) containerEnv 0 ⟨ShimState.initial, ()⟩
  cases entry with
  | fopen mode =>
      simp only [enter, Preload.fopen,
        fopenCommon_of_unwanted unwanted] at refused
      cases refused
  | fopen64 mode =>
      simp only [enter, Preload.fopen64,
        fopenCommon_of_unwanted unwanted] at refused
      cases refused
  | _ =>
      cases streams

/-! ## All entry points -/

/-- An entry point obeys the filter unless it is a stream on a hidden path. -/
theorem PathEntry.obeys_iff {shim : Shim} {path : CString}
    (video : shim.config.gpuVideo = true) (ready : shim.ready = true)
    (absolute : pathIsAbsolute (some path) = true) (entry : PathEntry) :
    entry.Obeys shim path ↔
      entry.isStream = false ∨
        rpsGpuProcPathAllowed (some shim.allowed) (some path) ≠ .deny := by
  have decision := gpuProcDenied_eq_decide video ready absolute
  constructor
  · intro obeys
    cases streams : entry.isStream with
    | false =>
        exact Or.inl rfl
    | true =>
        right
        intro hidden
        have denies : gpuProcDenied shim (some path) = true := by
          rw [decision, hidden]
          rfl
        exact not_hides_of_isStream denies streams (obeys.hides hidden)
  · intro either
    constructor
    · intro hidden
      have asks : entry.isStream = false := by
        rcases either with asks | shown
        · exact asks
        · exact absurd hidden shown
      have denies : gpuProcDenied shim (some path) = true := by
        rw [decision, hidden]
        rfl
      exact hides_of_denied absolute denies asks
    · intro shown
      have allows : gpuProcDenied shim (some path) = false := by
        rw [decision]
        simpa using shown
      cases streams : entry.isStream with
      | false =>
          exact passes_of_allowed absolute allows streams
      | true =>
          exact passes_of_isStream streams shim path

/-- A GPU that is not mounted, and its directory. -/
def hiddenBusDir : CString := cstr "/proc/driver/nvidia/gpus/0000:05:00.0"

theorem PathEntry.obeys_opendir_hiddenBusDir :
    PathEntry.opendir.Obeys containerShim hiddenBusDir :=
  (PathEntry.obeys_iff rfl rfl (by decide) .opendir).mpr (Or.inl rfl)

/-- `fopen` opens what the other entry points hide. -/
theorem PathEntry.not_obeys_fopen_hiddenBusDir :
    ¬ (PathEntry.fopen (some (cstr "r"))).Obeys containerShim
      hiddenBusDir := by
  intro obeys
  have hidden :
      rpsGpuProcPathAllowed (some containerShim.allowed)
        (some hiddenBusDir) = .deny := by
    decide
  have refused :=
    obeys.hides hidden Unit (constantReal Unit 0) containerEnv 0
      ⟨ShimState.initial, ()⟩
  revert refused
  decide

end RunpodShim

import RunpodShim.Preload.OpenEffects

/-!
# `openat` on an absolute path

The kernel ignores the directory of an absolute path.  The wrappers agree on
refusal and tracking, and on the virtual meminfo exactly where `openat` has
the working directory or `open` would change nothing.
-/

namespace RunpodShim

/-- `open`, or `open64`. -/
def openWrapper {World : Type} (large : Bool) (shim : Shim)
    (real : Real World) (env : Env) (path : Option CString)
    (flags mode : UInt32) (process : Process World) :
    Ret Int × Process World :=
  if large then Preload.open64 shim real env path flags mode process
  else Preload.open_ shim real env path flags mode process

/-- `openat`, or `openat64`. -/
def openatWrapper {World : Type} (large : Bool) (shim : Shim)
    (real : Real World) (env : Env) (dirfd : Int) (path : Option CString)
    (flags mode : UInt32) (process : Process World) :
    Ret Int × Process World :=
  if large then Preload.openat64 shim real env dirfd path flags mode process
  else Preload.openat shim real env dirfd path flags mode process

/-- The real call below `openWrapper`. -/
def openReal {World : Type} (large : Bool) (real : Real World) :
    Option CString → UInt32 → Option UInt32 → World → Ret Int × World :=
  if large then real.open64 else real.open_

/-- Whatever the real functions are, the wrapper fails by itself and leaves
the process as it is. -/
def Refuses
    (wrapper : (World : Type) → Real World → Process World →
      Ret Int × Process World)
    (state : ShimState) : Prop :=
  ∀ (World : Type) (real : Real World) (world : World),
    wrapper World real ⟨state, world⟩ = (denied, ⟨state, world⟩)

/-- What both tables hold for a descriptor. -/
def leftOn (fd : Int) (state : ShimState) :
    Option RpsGpuFdRecord × Option (List UInt8 × Nat) :=
  (rpsGpuFdMapGet fd state.nodes, fdMapStream fd state.entries)

/-- The two wrappers make the same decision and, where the real calls return
the same descriptor, leave the same on it. -/
structure OpenatIsOpen (large : Bool) (shim : Shim) (env : Env)
    (dirfd : Int) (path : Option CString) (flags mode : UInt32)
    (state : ShimState) (fd : Int) : Prop where
  sameDecision :
    Refuses
        (fun _ real =>
          openatWrapper large shim real env dirfd path flags mode) state ↔
      Refuses
        (fun _ real => openWrapper large shim real env path flags mode) state
  sameTables :
    ∀ (World : Type) (real : Real World) (world : World),
      (openatReal real large dirfd path flags (modeOf flags mode)
          world).1.value = fd →
      (openReal large real path flags (modeOf flags mode) world).1.value =
          fd →
        leftOn fd
            (openatWrapper large shim real env dirfd path flags mode
              ⟨state, world⟩).2.state =
          leftOn fd
            (openWrapper large shim real env path flags mode
              ⟨state, world⟩).2.state

/-- The call does not concern the meminfo table: `openat` attaches as `open`
does, or `open` leaves on the descriptor what is there already. -/
def MeminfoUnconcerned (shim : Shim) (env : Env) (dirfd : Int)
    (path : Option CString) (flags : UInt32) (state : ShimState)
    (fd : Int) : Prop :=
  dirfd = atFdcwd ∨ fd < 0 ∨
    shouldVirtualizeMeminfo shim.config path flags = false ∨
    state.depth ≠ 0 ∨
    ∀ text, env.meminfo = some text →
      (rpsFdMapPut env.contentMalloc fd (some text) text.length
        state.entries).1 = true →
        fdMapStream fd state.entries = some (text, 0)

/-! ## The decisions -/

section Wrappers

variable {shim : Shim} {path : Option CString}

theorem openWrapper_eq {World : Type}
    (allowed : gpuProcDenied shim path = false) (large : Bool)
    (real : Real World) (env : Env) (flags mode : UInt32)
    (process : Process World) :
    openWrapper large shim real env path flags mode process =
      ((openReal large real path flags (modeOf flags mode)
          process.world).1,
        ⟨gpuTraceAndTrackOpen shim env path
            (openReal large real path flags (modeOf flags mode)
              process.world).1.value
            (maybeAttachMeminfo shim env
              (openReal large real path flags (modeOf flags mode)
                process.world).1.value path flags process.state),
          (openReal large real path flags (modeOf flags mode)
            process.world).2⟩) := by
  cases large with
  | false =>
      simp [openWrapper, Preload.open_, openCommon, allowed, openReal]
  | true =>
      simp [openWrapper, Preload.open64, openCommon, allowed, openReal]

theorem openatWrapper_eq {World : Type}
    (absolute : pathIsAbsolute path = true)
    (allowed : gpuProcDenied shim path = false) (large : Bool)
    (real : Real World) (env : Env) (dirfd : Int) (flags mode : UInt32)
    (process : Process World) :
    openatWrapper large shim real env dirfd path flags mode process =
      ((openatReal real large dirfd path flags (modeOf flags mode)
          process.world).1,
        ⟨gpuTraceAndTrackOpen shim env path
            (openatReal real large dirfd path flags (modeOf flags mode)
              process.world).1.value
            (if dirfd = atFdcwd then
              maybeAttachMeminfo shim env
                (openatReal real large dirfd path flags
                  (modeOf flags mode) process.world).1.value
                path flags process.state
            else process.state),
          (openatReal real large dirfd path flags (modeOf flags mode)
            process.world).2⟩) := by
  cases large with
  | false =>
      simp [openatWrapper, Preload.openat, openatCommon,
        gpuEffectiveOpenatPath_of_absolute absolute, allowed, absolute]
  | true =>
      simp [openatWrapper, Preload.openat64, openatCommon,
        gpuEffectiveOpenatPath_of_absolute absolute, allowed, absolute]

theorem refuses_openWrapper_iff (shim : Shim) (large : Bool) (env : Env)
    (flags mode : UInt32) (state : ShimState) :
    Refuses
        (fun _ real => openWrapper large shim real env path flags mode)
        state ↔
      gpuProcDenied shim path = true := by
  constructor
  · intro refuses
    cases decided : gpuProcDenied shim path with
    | true =>
        rfl
    | false =>
        have failed := refuses Unit (constantReal Unit 0) ()
        simp only [openWrapper_eq decided] at failed
        cases large with
        | false =>
            cases failed
        | true =>
            cases failed
  · intro decided World real world
    cases large with
    | false =>
        simp [openWrapper, Preload.open_, openCommon, decided]
    | true =>
        simp [openWrapper, Preload.open64, openCommon, decided]

theorem refuses_openatWrapper_iff (shim : Shim)
    (absolute : pathIsAbsolute path = true) (large : Bool) (env : Env)
    (dirfd : Int) (flags mode : UInt32) (state : ShimState) :
    Refuses
        (fun _ real =>
          openatWrapper large shim real env dirfd path flags mode) state ↔
      gpuProcDenied shim path = true := by
  constructor
  · intro refuses
    cases decided : gpuProcDenied shim path with
    | true =>
        rfl
    | false =>
        have failed := refuses Unit (constantReal Unit 0) ()
        simp only [openatWrapper_eq absolute decided] at failed
        cases large with
        | false =>
            cases failed
        | true =>
            cases failed
  · intro decided World real world
    cases large with
    | false =>
        simp [openatWrapper, Preload.openat, openatCommon,
          gpuEffectiveOpenatPath_of_absolute absolute, decided]
    | true =>
        simp [openatWrapper, Preload.openat64, openatCommon,
          gpuEffectiveOpenatPath_of_absolute absolute, decided]

/-! ## The tables -/

theorem meminfoUnconcerned_iff {env : Env} {dirfd : Int} {flags : UInt32}
    {state : ShimState} {fd : Int} :
    MeminfoUnconcerned shim env dirfd path flags state fd ↔
      dirfd = atFdcwd ∨
        ∀ text, attachedText shim env fd path flags state = some text →
          fdMapStream fd state.entries = some (text, 0) := by
  constructor
  · intro unconcerned
    rcases unconcerned with same | negative | unwanted | held | kept
    · exact Or.inl same
    · right
      intro text attached
      have valid := (attachedText_eq_some_iff.mp attached).1
      omega
    · right
      intro text attached
      have wanted := (attachedText_eq_some_iff.mp attached).2.1
      rw [unwanted] at wanted
      cases wanted
    · right
      intro text attached
      exact absurd (attachedText_eq_some_iff.mp attached).2.2.1 held
    · right
      intro text attached
      obtain ⟨_, _, _, built, stored⟩ :=
        attachedText_eq_some_iff.mp attached
      exact kept text built stored
  · intro either
    rcases either with same | kept
    · exact Or.inl same
    · right
      by_cases negative : fd < 0
      · exact Or.inl negative
      · right
        cases wanted : shouldVirtualizeMeminfo shim.config path flags with
        | false =>
            exact Or.inl rfl
        | true =>
            right
            by_cases free : state.depth = 0
            · right
              intro text built stored
              apply kept text
              exact
                attachedText_eq_some_iff.mpr
                  ⟨Int.not_lt.mp negative, wanted, free, built, stored⟩
            · exact Or.inl free

theorem fdMapStream_after_open_iff {env : Env} {flags : UInt32}
    {state : ShimState} {fd : Int} :
    fdMapStream fd state.entries =
        fdMapStream fd
          (maybeAttachMeminfo shim env fd path flags state).entries ↔
      ∀ text, attachedText shim env fd path flags state = some text →
        fdMapStream fd state.entries = some (text, 0) := by
  rw [fdMapStream_maybeAttachMeminfo]
  cases attachedText shim env fd path flags state with
  | none =>
      simp
  | some text =>
      simp

/-- On an absolute path `openat` is `open`, up to the virtual meminfo of a
directory other than the working directory. -/
theorem openatIsOpen_iff (absolute : pathIsAbsolute path = true)
    (large : Bool) (env : Env) (dirfd : Int) (flags mode : UInt32)
    (state : ShimState) (fd : Int) :
    OpenatIsOpen large shim env dirfd path flags mode state fd ↔
      MeminfoUnconcerned shim env dirfd path flags state fd := by
  have decisions :=
    (refuses_openatWrapper_iff shim absolute large env dirfd flags mode
      state).trans
        (refuses_openWrapper_iff shim large env flags mode state).symm
  cases decided : gpuProcDenied shim path with
  | true =>
      have refusesOpenat :=
        (refuses_openatWrapper_iff shim absolute large env dirfd flags mode
          state).mpr decided
      have refusesOpen :=
        (refuses_openWrapper_iff shim large env flags mode state).mpr decided
      have unwanted :
          shouldVirtualizeMeminfo shim.config path flags = false := by
        have differs : path ≠ some meminfoPath := by
          intro same
          rw [same, gpuProcDenied_meminfoPath] at decided
          cases decided
        simp [shouldVirtualizeMeminfo, differs]
      refine iff_of_true ⟨decisions, ?_⟩ (Or.inr (Or.inr (Or.inl unwanted)))
      intro World real world _ _
      have first := refusesOpenat World real world
      have second := refusesOpen World real world
      simp only at first second
      rw [first, second]
  | false =>
      rw [meminfoUnconcerned_iff, ← fdMapStream_after_open_iff]
      constructor
      · intro same
        by_cases working : dirfd = atFdcwd
        · exact Or.inl working
        · right
          have left :=
            same.sameTables Unit (constantReal Unit fd) ()
              (by cases large <;> rfl) (by cases large <;> rfl)
          have openValue :
              (openReal large (constantReal Unit fd) path flags
                (modeOf flags mode) ()).1.value = fd := by
            cases large <;> rfl
          simp only [openatWrapper_eq absolute decided,
            openWrapper_eq decided, leftOn, working, if_false,
            entries_gpuTraceAndTrackOpen, openValue,
            Prod.mk.injEq] at left
          exact left.2
      · intro either
        refine ⟨decisions, ?_⟩
        intro World real world openatValue openValue
        simp only [openatWrapper_eq absolute decided,
          openWrapper_eq decided, leftOn, entries_gpuTraceAndTrackOpen,
          openatValue, openValue, Prod.mk.injEq]
        rcases either with working | same
        · simp [working]
        · by_cases working : dirfd = atFdcwd
          · simp [working]
          · simp only [working, if_false]
            refine ⟨?_, same⟩
            rw [nodes_gpuTraceAndTrackOpen_congr
              nodes_maybeAttachMeminfo.symm]

end Wrappers

/-- Relative to the working directory the two agree on `/proc/meminfo`. -/
theorem openatIsOpen_workingDirectory :
    OpenatIsOpen false containerShim containerEnv atFdcwd
      (some meminfoPath) 0 0 ShimState.initial 3 :=
  (openatIsOpen_iff (by decide) false containerEnv atFdcwd 0 0
    ShimState.initial 3).mpr (Or.inl rfl)

/-- With any other number for the directory `openat` leaves the host's
`/proc/meminfo` where `open` attaches the virtual one. -/
theorem not_openatIsOpen_meminfo :
    ¬ OpenatIsOpen false containerShim containerEnv 5
      (some meminfoPath) 0 0 ShimState.initial 3 := by
  intro same
  have left := same.sameTables Unit (constantReal Unit 3) () rfl rfl
  revert left
  decide

end RunpodShim

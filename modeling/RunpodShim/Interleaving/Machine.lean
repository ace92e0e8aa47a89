import RunpodShim.Sequential.Effects

/-!
# Threads in the wrappers

Any number of threads in the wrappers that open and close.  Each wrapper is a
sequence of two kinds of atomic steps, the kernel call and the update of the
tracker under its mutex, in the order of the source: the opening wrappers and
`closedir` call the kernel first, `close` updates the tracker first.
-/

namespace RunpodShim

open StepRuns

/-! ## The machine -/

/-- What a descriptor is open as: the path that it was opened with, and the
path that its open tracks it under. -/
structure Usage where
  path : Option CString
  tracks : Option (Option CString)
  /-- a classified path is tracked as it is given -/
  classified : ∀ record, trackedRecord path = some record →
    tracks = some path

/-- The record that the tracker is to hold for it. -/
def Usage.record (usage : Usage) : Option RpsGpuFdRecord :=
  usage.tracks.bind trackedRecord

/-- A classified path has its own record. -/
theorem Usage.record_of_classified {usage : Usage}
    {record : RpsGpuFdRecord}
    (classified : trackedRecord usage.path = some record) :
    usage.record = some record := by
  rw [Usage.record, usage.classified record classified]
  exact classified

/-- A call of a wrapper; a `DIR` is named by its descriptor. -/
inductive Wrapper where
  | opening (call : Call)
  | close (fd : Int)
  | closedir (fd : Int)
deriving DecidableEq, Repr

/-- Where a thread is in its wrapper. -/
inductive Phase where
  | idle
  /-- before the kernel call of an opening wrapper -/
  | opening (usage : Usage)
  /-- the number is returned, the tracker is to be updated -/
  | opened (fd : Int) (usage : Usage)
  /-- in `close`, the record is to be dropped -/
  | dropping (fd : Int)
  /-- in `close`, the number is to be freed -/
  | closing (fd : Int)
  /-- in `closedir`, the number is to be freed -/
  | closingDir (fd : Int)
  /-- in `closedir`, the record is to be dropped -/
  | closedDir (fd : Int)

/-- The thread is in a wrapper that has the number. -/
def Phase.holds (fd : Int) : Phase → Bool
  | .opened number _ | .dropping number | .closing number
  | .closingDir number => number == fd
  | .idle | .opening _ | .closedDir _ => false

def Phase.isIdle : Phase → Bool
  | .idle => true
  | _ => false

structure Machine (threads : Nat) where
  state : ShimState
  descriptors : Int → Option Usage
  phases : Fin threads → Phase

namespace Machine

variable {threads : Nat}

/-- No thread has called a wrapper. -/
def initial (threads : Nat) : Machine threads where
  state := .initial
  descriptors := fun _ => none
  phases := fun _ => .idle

def setPhase (machine : Machine threads) (thread : Fin threads)
    (phase : Phase) : Machine threads :=
  { machine with phases := Function.update machine.phases thread phase }

def setFd (machine : Machine threads) (fd : Int) (usage : Option Usage) :
    Machine threads :=
  { machine with
    descriptors := Function.update machine.descriptors fd usage }

def setState (machine : Machine threads) (state : ShimState) :
    Machine threads :=
  { machine with state := state }

/-- No thread is in a wrapper that has the number. -/
def AtRest (machine : Machine threads) (fd : Int) : Prop :=
  ∀ thread, (machine.phases thread).holds fd = false

instance (machine : Machine threads) (fd : Int) :
    Decidable (machine.AtRest fd) :=
  inferInstanceAs
    (Decidable (∀ thread, (machine.phases thread).holds fd = false))

/-- No wrapper is in progress. -/
def Quiet (machine : Machine threads) : Prop :=
  ∀ thread, (machine.phases thread).isIdle = true

instance (machine : Machine threads) : Decidable machine.Quiet :=
  inferInstanceAs
    (Decidable (∀ thread, (machine.phases thread).isIdle = true))

/-! ## Atomic steps -/

/-- A thread calls an opening wrapper; a refused call returns at once. -/
def enterOpening (shim : Shim) (machine : Machine threads)
    (thread : Fin threads) (call : Call) : Option (Machine threads) :=
  match asked : call.openRequest machine.state.nodes with
  | none => none
  | some request =>
      if call.Refused shim machine.state then some machine
      else
        some
          (machine.setPhase thread
            (.opening
              { path := request.path
                tracks := request.tracks
                classified := fun _ => tracks_of_classified asked }))

/-- A thread calls a wrapper.  It closes no number that another thread is in a
wrapper with. -/
def enter (shim : Shim) (machine : Machine threads) (thread : Fin threads)
    (wrapper : Wrapper) : Option (Machine threads) :=
  match machine.phases thread, wrapper with
  | .idle, .opening call => machine.enterOpening shim thread call
  | .idle, .close fd =>
      if machine.AtRest fd then
        some (machine.setPhase thread (.dropping fd))
      else none
  | .idle, .closedir fd =>
      if machine.AtRest fd then
        some (machine.setPhase thread (.closingDir fd))
      else none
  | _, _ => none

/-- The kernel call.  An open returns a number that is free and that no thread
is closing, or fails. -/
def kernelCall (machine : Machine threads) (thread : Fin threads)
    (answer : Option Int) : Option (Machine threads) :=
  match machine.phases thread with
  | .opening usage =>
      match answer with
      | none => some (machine.setPhase thread .idle)
      | some fd =>
          if 0 ≤ fd ∧ (machine.descriptors fd).isNone ∧
              machine.AtRest fd then
            some
              ((machine.setFd fd (some usage)).setPhase thread
                (if usage.tracks.isSome then .opened fd usage else .idle))
          else none
  | .closing fd => some ((machine.setFd fd none).setPhase thread .idle)
  | .closingDir fd =>
      -- `closedir` fails if its descriptor is closed already
      if (machine.descriptors fd).isSome then
        some ((machine.setFd fd none).setPhase thread (.closedDir fd))
      else some (machine.setPhase thread .idle)
  | _ => none

/-- `rps_gpu_fd_map_remove` under the mutex. -/
def dropRecord (machine : Machine threads) (fd : Int) : Machine threads :=
  machine.setState
    { machine.state with
      nodes := rpsGpuFdMapRemove fd machine.state.nodes }

/-- The update of the tracker; memory for a node can be allocated. -/
def update (shim : Shim) (machine : Machine threads)
    (thread : Fin threads) (env : Env) : Option (Machine threads) :=
  match machine.phases thread with
  | .opened fd usage =>
      match usage.tracks with
      | some path =>
          if env.nodeMalloc then
            some
              ((machine.setState
                (gpuTraceAndTrackOpen shim env path fd
                  machine.state)).setPhase thread .idle)
          else none
      | none => none
  | .dropping fd =>
      some ((machine.dropRecord fd).setPhase thread (.closing fd))
  | .closedDir fd =>
      some ((machine.dropRecord fd).setPhase thread .idle)
  | _ => none

end Machine

/-- An atomic step of one thread. -/
inductive Micro (threads : Nat) where
  | enter (thread : Fin threads) (wrapper : Wrapper)
  | kernel (thread : Fin threads) (answer : Option Int)
  | update (thread : Fin threads) (env : Env)

def microStep (shim : Shim) {threads : Nat} (machine : Machine threads) :
    Micro threads → Option (Machine threads)
  | .enter thread wrapper => machine.enter shim thread wrapper
  | .kernel thread answer => machine.kernelCall thread answer
  | .update thread env => machine.update shim thread env

/-- What an atomic step does. -/
inductive MicroEffect (shim : Shim) {threads : Nat}
    (machine : Machine threads) : Micro threads → Machine threads → Prop
    where
  | refused (thread : Fin threads) (wrapper : Wrapper) :
      MicroEffect shim machine (.enter thread wrapper) machine
  | entersOpening (thread : Fin threads) (wrapper : Wrapper)
      (usage : Usage) (idle : machine.phases thread = .idle) :
      MicroEffect shim machine (.enter thread wrapper)
        (machine.setPhase thread (.opening usage))
  | entersClosing (thread : Fin threads) (wrapper : Wrapper) (fd : Int)
      (phase : Phase) (idle : machine.phases thread = .idle)
      (rests : machine.AtRest fd)
      (either : phase = .dropping fd ∨ phase = .closingDir fd) :
      MicroEffect shim machine (.enter thread wrapper)
        (machine.setPhase thread phase)
  | opensNothing (thread : Fin threads) (usage : Usage)
      (phase : machine.phases thread = .opening usage) :
      MicroEffect shim machine (.kernel thread none)
        (machine.setPhase thread .idle)
  | opens (thread : Fin threads) (fd : Int) (usage : Usage)
      (phase : machine.phases thread = .opening usage) (valid : 0 ≤ fd)
      (free : machine.descriptors fd = none)
      (rests : machine.AtRest fd) :
      MicroEffect shim machine (.kernel thread (some fd))
        ((machine.setFd fd (some usage)).setPhase thread
          (if usage.tracks.isSome then .opened fd usage else .idle))
  | frees (thread : Fin threads) (answer : Option Int) (fd : Int)
      (phase : machine.phases thread = .closing fd) :
      MicroEffect shim machine (.kernel thread answer)
        ((machine.setFd fd none).setPhase thread .idle)
  | freesDir (thread : Fin threads) (answer : Option Int) (fd : Int)
      (phase : machine.phases thread = .closingDir fd) :
      MicroEffect shim machine (.kernel thread answer)
        ((machine.setFd fd none).setPhase thread (.closedDir fd))
  | freesNothing (thread : Fin threads) (answer : Option Int) (fd : Int)
      (phase : machine.phases thread = .closingDir fd)
      (closed : machine.descriptors fd = none) :
      MicroEffect shim machine (.kernel thread answer)
        (machine.setPhase thread .idle)
  | tracks (thread : Fin threads) (env : Env) (fd : Int) (usage : Usage)
      (path : Option CString)
      (phase : machine.phases thread = .opened fd usage)
      (asked : usage.tracks = some path) (malloc : env.nodeMalloc = true) :
      MicroEffect shim machine (.update thread env)
        ((machine.setState
          (gpuTraceAndTrackOpen shim env path fd machine.state)).setPhase
            thread .idle)
  | drops (thread : Fin threads) (env : Env) (fd : Int)
      (phase : machine.phases thread = .dropping fd) :
      MicroEffect shim machine (.update thread env)
        ((machine.dropRecord fd).setPhase thread (.closing fd))
  | dropsLate (thread : Fin threads) (env : Env) (fd : Int)
      (phase : machine.phases thread = .closedDir fd) :
      MicroEffect shim machine (.update thread env)
        ((machine.dropRecord fd).setPhase thread .idle)

section Effects

variable {shim : Shim} {threads : Nat} {machine later : Machine threads}
variable {thread : Fin threads}

theorem microEffect_of_enter {wrapper : Wrapper}
    (taken : machine.enter shim thread wrapper = some later) :
    MicroEffect shim machine (.enter thread wrapper) later := by
  unfold Machine.enter at taken
  split at taken
  · rename_i call idle
    unfold Machine.enterOpening at taken
    split at taken
    · cases taken
    · split at taken
      · cases taken
        exact .refused thread _
      · cases taken
        exact .entersOpening thread _ _ idle
  · rename_i fd idle
    obtain ⟨rests, whole⟩ := Option.ite_none_right_eq_some.mp taken
    cases whole
    exact .entersClosing thread _ fd _ idle rests (Or.inl rfl)
  · rename_i fd idle
    obtain ⟨rests, whole⟩ := Option.ite_none_right_eq_some.mp taken
    cases whole
    exact .entersClosing thread _ fd _ idle rests (Or.inr rfl)
  · cases taken

theorem microEffect_of_kernelCall {answer : Option Int}
    (taken : machine.kernelCall thread answer = some later) :
    MicroEffect shim machine (.kernel thread answer) later := by
  unfold Machine.kernelCall at taken
  split at taken
  · rename_i usage phase
    split at taken
    · cases taken
      exact .opensNothing thread usage phase
    · rename_i fd
      obtain ⟨⟨valid, free, rests⟩, whole⟩ :=
        Option.ite_none_right_eq_some.mp taken
      cases whole
      exact
        .opens thread fd usage phase valid (Option.isNone_iff_eq_none.mp free)
          rests
  · rename_i fd phase
    cases taken
    exact .frees thread answer fd phase
  · rename_i fd phase
    split at taken
    · cases taken
      exact .freesDir thread answer fd phase
    · rename_i closed
      cases taken
      apply MicroEffect.freesNothing thread answer fd phase
      simpa using closed
  · cases taken

theorem microEffect_of_update {env : Env}
    (taken : machine.update shim thread env = some later) :
    MicroEffect shim machine (.update thread env) later := by
  unfold Machine.update at taken
  split at taken
  · rename_i fd usage phase
    split at taken
    · rename_i path asked
      obtain ⟨malloc, whole⟩ := Option.ite_none_right_eq_some.mp taken
      cases whole
      exact .tracks thread env fd usage path phase asked malloc
    · cases taken
  · rename_i fd phase
    cases taken
    exact .drops thread env fd phase
  · rename_i fd phase
    cases taken
    exact .dropsLate thread env fd phase
  · cases taken

theorem microEffect_of_step {label : Micro threads}
    (taken : microStep shim machine label = some later) :
    MicroEffect shim machine label later := by
  cases label with
  | enter thread wrapper =>
      exact microEffect_of_enter taken
  | kernel thread answer =>
      exact microEffect_of_kernelCall taken
  | update thread env =>
      exact microEffect_of_update taken

end Effects

/-! ## Undisturbed wrappers -/

section Undisturbed

variable {shim : Shim} {threads : Nat} {machine : Machine threads}
variable {thread : Fin threads} {fd : Int} {usage : Usage} {env : Env}

@[simp]
theorem Machine.phases_setPhase {phase : Phase} (other : Fin threads) :
    (machine.setPhase thread phase).phases other =
      if other = thread then phase else machine.phases other :=
  Function.update_apply _ _ _ _

theorem Machine.AtRest.setPhase {phase : Phase} (rests : machine.AtRest fd)
    (passes : phase.holds fd = false) :
    (machine.setPhase thread phase).AtRest fd := by
  intro other
  rw [Machine.phases_setPhase]
  split
  · exact passes
  · exact rests other

theorem Machine.enter_opening {call : Call} {request : OpenRequest}
    (idle : machine.phases thread = .idle)
    (asked : call.openRequest machine.state.nodes = some request)
    (goesOn : ¬ call.Refused shim machine.state) :
    ∃ usage,
      usage.path = request.path ∧ usage.tracks = request.tracks ∧
        machine.enter shim thread (.opening call) =
          some (machine.setPhase thread (.opening usage)) := by
  refine
    ⟨⟨request.path, request.tracks, fun _ => tracks_of_classified asked⟩,
      rfl, rfl, ?_⟩
  simp only [Machine.enter, idle, Machine.enterOpening]
  split
  · rename_i missing
    rw [asked] at missing
    cases missing
  · rename_i other found
    rw [asked] at found
    cases found
    rw [if_neg goesOn]

theorem Machine.kernelCall_opening
    (phase : machine.phases thread = .opening usage) (valid : 0 ≤ fd)
    (free : machine.descriptors fd = none) (rests : machine.AtRest fd) :
    ∃ returned,
      machine.kernelCall thread (some fd) = some returned ∧
        returned.state = machine.state ∧
        returned.phases thread =
          if usage.tracks.isSome then .opened fd usage else .idle := by
  have granted :
      0 ≤ fd ∧ (machine.descriptors fd).isNone ∧ machine.AtRest fd :=
    ⟨valid, Option.isNone_iff_eq_none.mpr free, rests⟩
  refine
    ⟨(machine.setFd fd (some usage)).setPhase thread
        (if usage.tracks.isSome then .opened fd usage else .idle),
      ?_, rfl, ?_⟩
  · simp only [Machine.kernelCall, phase]
    rw [if_pos granted]
  · rw [Machine.phases_setPhase, if_pos rfl]

theorem Machine.update_opened {path : Option CString} (shim : Shim)
    (phase : machine.phases thread = .opened fd usage)
    (tracks : usage.tracks = some path) (malloc : env.nodeMalloc = true) :
    ∃ updated,
      machine.update shim thread env = some updated ∧
        updated.state =
          gpuTraceAndTrackOpen shim env path fd machine.state := by
  refine
    ⟨(machine.setState
        (gpuTraceAndTrackOpen shim env path fd machine.state)).setPhase
          thread .idle, ?_, rfl⟩
  simp only [Machine.update, phase, tracks]
  rw [if_pos malloc]

variable {process after : Process Kernel} {answer : Answer}

/-- An opening wrapper that no other thread disturbs leaves the tracker as it
does in a sequential run. -/
theorem undisturbed_opening {call : Call} {request : OpenRequest}
    {file : OpenFile}
    (taken :
      sequentialStep shim process (.call answer env call) = some after)
    (asked : call.openRequest process.state.nodes = some request)
    (goesOn : ¬ call.Refused shim process.state)
    (made : request.file process.world answer = some file)
    (malloc : env.nodeMalloc = true)
    (same : machine.state = process.state)
    (idle : machine.phases thread = .idle)
    (free : machine.descriptors file.first = none)
    (rests : machine.AtRest file.first) :
    ∃ finish,
      runFrom (microStep shim) machine
          (.enter thread (.opening call) ::
            .kernel thread (some file.first) ::
              if request.tracks.isSome then [.update thread env]
              else []) = some finish ∧
        finish.state.nodes = after.state.nodes := by
  have recorded := ((effect_of_step taken).of_file asked goesOn made).1
  have valid := Kernel.nonneg_of_lookup (OpenRequest.lookup_of_file made)
  rw [← same] at asked goesOn recorded
  rw [recorded, OpenRequest.nodes_record]
  obtain ⟨usage, -, tracks, entered⟩ :
      ∃ usage : Usage,
        usage.path = request.path ∧ usage.tracks = request.tracks ∧
          machine.enter shim thread (.opening call) =
            some (machine.setPhase thread (.opening usage)) :=
    Machine.enter_opening idle asked goesOn
  have opening :
      (machine.setPhase thread (.opening usage)).phases thread =
        .opening usage := by
    rw [Machine.phases_setPhase, if_pos rfl]
  have waits : (machine.setPhase thread (.opening usage)).AtRest file.first :=
    rests.setPhase rfl
  obtain ⟨returned, called, kept, phase⟩ :=
    Machine.kernelCall_opening opening valid free waits
  cases tracked : request.tracks with
  | none =>
      refine ⟨returned, ?_, ?_⟩
      · simp [runFrom, microStep, entered, called]
      · exact congrArg ShimState.nodes kept
  | some path =>
      rw [tracked] at tracks
      rw [tracks] at phase
      obtain ⟨updated, ends, whole⟩ :=
        Machine.update_opened shim phase tracks malloc
      refine ⟨updated, ?_, ?_⟩
      · simp [runFrom, microStep, entered, called, ends]
      · rw [whole, kept]
        rfl

/-- So does `close`. -/
theorem undisturbed_close
    (taken :
      sequentialStep shim process (.call answer env (.close fd)) =
        some after)
    (same : machine.state = process.state)
    (idle : machine.phases thread = .idle) (rests : machine.AtRest fd) :
    ∃ finish,
      runFrom (microStep shim) machine
          [.enter thread (.close fd), .update thread env,
            .kernel thread none] = some finish ∧
        finish.state.nodes = after.state.nodes := by
  have dropped :
      after.state.nodes = rpsGpuFdMapRemove fd process.state.nodes := by
    cases taken
    rfl
  rw [dropped, ← same]
  simp [runFrom, microStep, Machine.enter, Machine.update,
    Machine.kernelCall, idle, rests, Machine.dropRecord, Machine.setState,
    Machine.setFd, Machine.setPhase]

/-- And so does a `closedir` that succeeds. -/
theorem undisturbed_closedir {dir : Nat}
    (taken :
      sequentialStep shim process (.call answer env (.closedir dir)) =
        some after)
    (stream : process.world.streams dir = some fd)
    (wasOpen : (process.world.descriptors fd).isSome)
    (succeeds : answer.fd.isSome)
    (same : machine.state = process.state)
    (idle : machine.phases thread = .idle)
    (isOpen : (machine.descriptors fd).isSome)
    (rests : machine.AtRest fd) :
    ∃ finish,
      runFrom (microStep shim) machine
          [.enter thread (.closedir fd), .kernel thread none,
            .update thread env] = some finish ∧
        finish.state.nodes = after.state.nodes := by
  have dropped :
      after.state.nodes = rpsGpuFdMapRemove fd process.state.nodes := by
    have closes : (Kernel.closedir answer dir process.world).1 = ⟨0, 0⟩ := by
      simp [Kernel.closedir, stream, wasOpen, succeeds]
    cases taken
    show
      (if (Kernel.closedir answer dir process.world).1.value = 0 ∧
          Kernel.dirfd dir process.world ≥ 0 then
        { process.state with
          nodes :=
            rpsGpuFdMapRemove (Kernel.dirfd dir process.world)
              process.state.nodes }
      else process.state).nodes = _
    rw [closes, Kernel.dirfd, stream]
    by_cases valid : 0 ≤ fd
    · simp [valid]
    · simp [valid, rpsGpuFdMapRemove, Int.not_le.mp valid]
  rw [dropped, ← same]
  simp [runFrom, microStep, Machine.enter, Machine.update,
    Machine.kernelCall, idle, rests, isOpen, Machine.dropRecord,
    Machine.setState, Machine.setFd, Machine.setPhase]

end Undisturbed

end RunpodShim

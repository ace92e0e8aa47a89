import RunpodShim.Interleaving.Machine

/-!
# Interleaved tracker updates

Whether the tracker is right about the descriptors when threads interleave in
the wrappers.
-/

namespace RunpodShim

open StepRuns

/-! ## What holds of a descriptor at rest -/

/-- Of a number that no wrapper has, the tracker holds the record of its
present use, and no other once every `closedir` on it has returned. -/
structure Machine.TrackedAtRest {threads : Nat} (machine : Machine threads) :
    Prop where
  record : ∀ fd usage record, machine.AtRest fd →
    machine.descriptors fd = some usage → usage.record = some record →
      rpsGpuFdMapGet fd machine.state.nodes = some record
  current : ∀ fd record, machine.AtRest fd →
    (∀ thread, machine.phases thread ≠ .closedDir fd) →
      rpsGpuFdMapGet fd machine.state.nodes = some record →
        ∃ usage,
          machine.descriptors fd = some usage ∧
            usage.record = some record

/-- A `closedir` may drop the record of its number: the number is not in use
again with a record, or a wrapper is at it. -/
def Phase.InTime {threads : Nat} (machine : Machine threads) : Phase → Prop
  | .closedDir fd =>
      machine.AtRest fd → (machine.descriptors fd).bind Usage.record = none
  | _ => True

instance {threads : Nat} (machine : Machine threads) :
    DecidablePred (Phase.InTime machine)
  | .closedDir fd =>
      inferInstanceAs
        (Decidable
          (machine.AtRest fd →
            (machine.descriptors fd).bind Usage.record = none))
  | .idle | .opening _ | .opened _ _ | .dropping _ | .closing _
  | .closingDir _ => inferInstanceAs (Decidable True)

/-- The step drops no record too late. -/
def DropsInTime {threads : Nat} (machine : Machine threads) :
    Micro threads → Prop
  | .update thread _ => (machine.phases thread).InTime machine
  | .enter _ _ | .kernel _ _ => True

instance {threads : Nat} (machine : Machine threads) :
    DecidablePred (DropsInTime machine)
  | .update thread _ =>
      inferInstanceAs (Decidable ((machine.phases thread).InTime machine))
  | .enter _ _ | .kernel _ _ => inferInstanceAs (Decidable True)

/-- What the wrappers keep at a number while they interleave. -/
structure KeptAt {threads : Nat} (machine : Machine threads) (fd : Int) :
    Prop where
  nonneg : ∀ usage, machine.descriptors fd = some usage → 0 ≤ fd
  opened : ∀ thread usage, machine.phases thread = .opened fd usage →
    machine.descriptors fd = some usage
  alone : ∀ thread other, (machine.phases thread).holds fd = true →
    (machine.phases other).holds fd = true → thread = other
  settled : ∀ usage path, machine.descriptors fd = some usage →
    usage.tracks = some path → machine.AtRest fd →
      rpsGpuFdMapGet fd machine.state.nodes = trackedRecord path
  clear :
    (∀ usage, machine.descriptors fd = some usage → usage.tracks = none) →
      (∀ thread, machine.phases thread ≠ .closedDir fd) →
        rpsGpuFdMapGet fd machine.state.nodes = none
  dropped : ∀ thread, machine.phases thread = .closing fd →
    rpsGpuFdMapGet fd machine.state.nodes = none

structure MicroKept {threads : Nat} (machine : Machine threads) : Prop where
  kept : WellKept machine.state.nodes
  each : ∀ fd, KeptAt machine fd

/-! ## One step -/

/-- The number that a phase is about. -/
def Phase.number : Phase → Option Int
  | .opened fd _ | .dropping fd | .closing fd | .closingDir fd
  | .closedDir fd => some fd
  | .idle | .opening _ => none

section Step

variable {threads : Nat} {machine later : Machine threads}
variable {thread : Fin threads} {phase : Phase} {fd : Int}

theorem Phase.number_of_holds (holds : phase.holds fd = true) :
    phase.number = some fd := by
  cases phase with
  | idle =>
      cases holds
  | opening usage =>
      cases holds
  | closedDir number =>
      cases holds
  | _ =>
      exact congrArg some (eq_of_beq holds)

/-- A number that neither the old nor the new phase is about, with the same
use and record. -/
theorem KeptAt.elsewhere (kept : KeptAt machine fd)
    (phases : ∀ other,
      later.phases other =
        if other = thread then phase else machine.phases other)
    (old : (machine.phases thread).number ≠ some fd)
    (new : phase.number ≠ some fd)
    (descriptors : later.descriptors fd = machine.descriptors fd)
    (record :
      rpsGpuFdMapGet fd later.state.nodes =
        rpsGpuFdMapGet fd machine.state.nodes) :
    KeptAt later fd := by
  have same (other : Fin threads)
      (about : (later.phases other).number = some fd) :
      later.phases other = machine.phases other := by
    rw [phases other] at about ⊢
    split
    · rename_i here
      rw [if_pos here] at about
      exact absurd about new
    · rfl
  have back (other : Fin threads)
      (about : (machine.phases other).number = some fd) :
      later.phases other = machine.phases other := by
    rw [phases other, if_neg]
    intro here
    rw [here] at about
    exact old about
  constructor
  · rw [descriptors]
    exact kept.nonneg
  · intro other usage isOpened
    have before := same other (by rw [isOpened]; rfl)
    rw [descriptors]
    exact kept.opened other usage (before ▸ isOpened)
  · intro first second firstHolds secondHolds
    rw [same first (Phase.number_of_holds firstHolds)] at firstHolds
    rw [same second (Phase.number_of_holds secondHolds)] at secondHolds
    exact kept.alone first second firstHolds secondHolds
  · intro usage path isOpen tracks rests
    rw [record]
    rw [descriptors] at isOpen
    apply kept.settled usage path isOpen tracks
    intro other
    apply Bool.eq_false_iff.mpr
    intro holds
    have after := rests other
    rw [back other (Phase.number_of_holds holds), holds] at after
    cases after
  · intro untracked done
    rw [record]
    rw [descriptors] at untracked
    apply kept.clear untracked
    intro other isClosed
    have after := done other
    rw [back other (by rw [isClosed]; rfl)] at after
    exact after isClosed
  · intro other isClosing
    have before := same other (by rw [isClosing]; rfl)
    rw [record]
    exact kept.dropped other (before ▸ isClosing)

/-- A number that no other thread is in a wrapper with. -/
theorem KeptAt.of_alone
    (phases : ∀ other,
      later.phases other =
        if other = thread then phase else machine.phases other)
    (others : ∀ other, other ≠ thread →
      (machine.phases other).holds fd = false)
    (nonneg : ∀ usage, later.descriptors fd = some usage → 0 ≤ fd)
    (opened : ∀ usage, phase = .opened fd usage →
      later.descriptors fd = some usage)
    (settled : phase.holds fd = false → ∀ usage path,
      later.descriptors fd = some usage → usage.tracks = some path →
        rpsGpuFdMapGet fd later.state.nodes = trackedRecord path)
    (clear :
      (∀ usage, later.descriptors fd = some usage →
        usage.tracks = none) →
      (∀ other, later.phases other ≠ .closedDir fd) →
        rpsGpuFdMapGet fd later.state.nodes = none)
    (dropped : phase = .closing fd →
      rpsGpuFdMapGet fd later.state.nodes = none) :
    KeptAt later fd := by
  have only (other : Fin threads)
      (holds : (later.phases other).holds fd = true) : other = thread := by
    apply Classical.byContradiction
    intro differs
    rw [phases other, if_neg differs, others other differs] at holds
    cases holds
  have isPhase : later.phases thread = phase := by
    rw [phases thread, if_pos rfl]
  constructor
  · exact nonneg
  · intro other usage isOpened
    have holds : (later.phases other).holds fd = true := by
      simp [isOpened, Phase.holds]
    rw [only other holds, isPhase] at isOpened
    exact opened usage isOpened
  · intro first second firstHolds secondHolds
    exact (only first firstHolds).trans (only second secondHolds).symm
  · intro usage path isOpen tracks rests
    have released := rests thread
    rw [isPhase] at released
    exact settled released usage path isOpen tracks
  · exact clear
  · intro other isClosing
    have holds : (later.phases other).holds fd = true := by
      simp [isClosing, Phase.holds]
    rw [only other holds, isPhase] at isClosing
    exact dropped isClosing

/-- No other thread is in a wrapper with a number that one has. -/
theorem MicroKept.others (kept : MicroKept machine)
    (holds : (machine.phases thread).holds fd = true)
    (other : Fin threads) (differs : other ≠ thread) :
    (machine.phases other).holds fd = false := by
  apply Bool.eq_false_iff.mpr
  intro alsoHolds
  exact differs ((kept.each fd).alone other thread alsoHolds holds)

/-- A `closedir` on a number is as it was before a thread left another
phase. -/
theorem done_of_done
    (phases : ∀ other,
      later.phases other =
        if other = thread then phase else machine.phases other)
    (differs : machine.phases thread ≠ .closedDir fd)
    (done : ∀ other, later.phases other ≠ .closedDir fd)
    (other : Fin threads) : machine.phases other ≠ .closedDir fd := by
  intro isClosed
  apply done other
  rw [phases other, if_neg]
  · exact isClosed
  · intro same
    rw [same] at isClosed
    exact differs isClosed

/-- A phase change that no number is about. -/
theorem MicroKept.pass (kept : MicroKept machine)
    (old : (machine.phases thread).number = none)
    (new : phase.number = none) :
    MicroKept (machine.setPhase thread phase) where
  kept := kept.kept
  each := by
    intro fd
    apply (kept.each fd).elsewhere Machine.phases_setPhase
    · simp [old]
    · simp [new]
    · rfl
    · rfl

/-- A step at one number keeps the others, if it leaves their use and record
as they were. -/
theorem MicroKept.atNumber (kept : MicroKept machine) (fd : Int)
    (wellKept : WellKept later.state.nodes)
    (phases : ∀ other,
      later.phases other =
        if other = thread then phase else machine.phases other)
    (old : ∀ number, (machine.phases thread).number = some number →
      number = fd)
    (new : ∀ number, phase.number = some number → number = fd)
    (descriptors : ∀ asked, asked ≠ fd →
      later.descriptors asked = machine.descriptors asked)
    (record : ∀ asked, asked ≠ fd →
      rpsGpuFdMapGet asked later.state.nodes =
        rpsGpuFdMapGet asked machine.state.nodes)
    (here : KeptAt later fd) :
    MicroKept later where
  kept := wellKept
  each := by
    intro asked
    by_cases same : asked = fd
    · rw [same]
      exact here
    · apply (kept.each asked).elsewhere phases
      · intro about
        exact same (old asked about)
      · intro about
        exact same (new asked about)
      · exact descriptors asked same
      · exact record asked same

/-- A thread enters `close` or `closedir`. -/
theorem MicroKept.entersClosing (kept : MicroKept machine)
    (idle : machine.phases thread = .idle) (rests : machine.AtRest fd)
    (either : phase = .dropping fd ∨ phase = .closingDir fd) :
    MicroKept (machine.setPhase thread phase) := by
  have before := kept.each fd
  refine
    kept.atNumber fd kept.kept Machine.phases_setPhase ?_ ?_
      (fun _ _ => rfl) (fun _ _ => rfl) ?_
  · simp [idle, Phase.number]
  · rcases either with rfl | rfl <;> simp [Phase.number]
  · refine
      .of_alone Machine.phases_setPhase (fun other _ => rests other)
        before.nonneg ?_ ?_ ?_ ?_
    · rintro usage rfl
      rcases either with impossible | impossible <;> cases impossible
    · intro released
      rcases either with rfl | rfl <;> simp [Phase.holds] at released
    · intro untracked done
      apply before.clear untracked
      exact done_of_done Machine.phases_setPhase (by simp [idle]) done
    · rintro rfl
      rcases either with impossible | impossible <;> cases impossible

/-- The kernel hands out a number. -/
theorem MicroKept.opens (kept : MicroKept machine) {usage : Usage}
    (isOpening : machine.phases thread = .opening usage) (valid : 0 ≤ fd)
    (free : machine.descriptors fd = none) (rests : machine.AtRest fd) :
    MicroKept
      ((machine.setFd fd (some usage)).setPhase thread
        (if usage.tracks.isSome then .opened fd usage else .idle)) := by
  have before := kept.each fd
  have isOpen :
      (machine.setFd fd (some usage)).descriptors fd = some usage :=
    Function.update_self _ _ _
  refine
    kept.atNumber fd kept.kept Machine.phases_setPhase ?_ ?_ ?_
      (fun _ _ => rfl) ?_
  · simp [isOpening, Phase.number]
  · intro number
    split <;> simp [Phase.number, eq_comm]
  · intro asked differs
    exact Function.update_of_ne differs _ _
  · refine
      .of_alone Machine.phases_setPhase (fun other _ => rests other)
        (fun _ _ => valid) ?_ ?_ ?_ ?_
    · intro other isOpened
      split at isOpened
      · cases isOpened
        exact isOpen
      · cases isOpened
    · intro released other path named tracks
      have same : usage = other := Option.some.inj (isOpen.symm.trans named)
      rw [← same] at tracks
      simp [tracks, Phase.holds] at released
    · intro _ done
      apply before.clear
      · intro other named
        rw [free] at named
        cases named
      · exact
          done_of_done Machine.phases_setPhase (by simp [isOpening]) done
    · intro isClosing
      split at isClosing <;> cases isClosing

/-- The kernel frees the number of a `close`. -/
theorem MicroKept.frees (kept : MicroKept machine)
    (isClosing : machine.phases thread = .closing fd) :
    MicroKept ((machine.setFd fd none).setPhase thread .idle) := by
  have isFree : (machine.setFd fd none).descriptors fd = none :=
    Function.update_self _ _ _
  have holds : (machine.phases thread).holds fd = true := by
    simp [isClosing, Phase.holds]
  refine
    kept.atNumber fd kept.kept Machine.phases_setPhase ?_ ?_ ?_
      (fun _ _ => rfl) ?_
  · simp [isClosing, Phase.number]
  · simp [Phase.number]
  · intro asked differs
    exact Function.update_of_ne differs _ _
  · refine
      .of_alone Machine.phases_setPhase (kept.others holds) ?_ nofun ?_ ?_
        nofun
    · intro usage named
      have impossible := isFree.symm.trans named
      cases impossible
    · intro _ usage path named
      have impossible := isFree.symm.trans named
      cases impossible
    · intro _ _
      exact (kept.each fd).dropped thread isClosing

/-- The kernel frees the number of a `closedir`. -/
theorem MicroKept.freesDir (kept : MicroKept machine)
    (isClosing : machine.phases thread = .closingDir fd) :
    MicroKept
      ((machine.setFd fd none).setPhase thread (.closedDir fd)) := by
  have isFree : (machine.setFd fd none).descriptors fd = none :=
    Function.update_self _ _ _
  have holds : (machine.phases thread).holds fd = true := by
    simp [isClosing, Phase.holds]
  refine
    kept.atNumber fd kept.kept Machine.phases_setPhase ?_ ?_ ?_
      (fun _ _ => rfl) ?_
  · simp [isClosing, Phase.number]
  · simp [Phase.number]
  · intro asked differs
    exact Function.update_of_ne differs _ _
  · refine
      .of_alone Machine.phases_setPhase (kept.others holds) ?_ nofun ?_ ?_
        nofun
    · intro usage named
      have impossible := isFree.symm.trans named
      cases impossible
    · intro _ usage path named
      have impossible := isFree.symm.trans named
      cases impossible
    · intro _ done
      exact absurd (by simp) (done thread)

/-- A `closedir` on a number that is closed already fails. -/
theorem MicroKept.freesNothing (kept : MicroKept machine)
    (isClosing : machine.phases thread = .closingDir fd)
    (closed : machine.descriptors fd = none) :
    MicroKept (machine.setPhase thread .idle) := by
  have before := kept.each fd
  have holds : (machine.phases thread).holds fd = true := by
    simp [isClosing, Phase.holds]
  refine
    kept.atNumber fd kept.kept Machine.phases_setPhase ?_ ?_
      (fun _ _ => rfl) (fun _ _ => rfl) ?_
  · simp [isClosing, Phase.number]
  · simp [Phase.number]
  · refine
      .of_alone Machine.phases_setPhase (kept.others holds) before.nonneg
        nofun ?_ ?_ nofun
    · intro _ usage path named
      have impossible := closed.symm.trans named
      cases impossible
    · intro untracked done
      apply before.clear untracked
      exact
        done_of_done Machine.phases_setPhase (by simp [isClosing]) done

/-- An open records its number. -/
theorem MicroKept.tracks {shim : Shim}
    (video : shim.config.gpuVideo = true) (kept : MicroKept machine)
    {usage : Usage} {path : Option CString} {env : Env}
    (isOpened : machine.phases thread = .opened fd usage)
    (asked : usage.tracks = some path) (malloc : env.nodeMalloc = true) :
    MicroKept
      ((machine.setState
        (gpuTraceAndTrackOpen shim env path fd machine.state)).setPhase
          thread .idle) := by
  have before := kept.each fd
  have isOpen := before.opened thread usage isOpened
  have valid := before.nonneg usage isOpen
  have found (number : Int) :
      rpsGpuFdMapGet number
          (gpuTraceAndTrackOpen shim env path fd machine.state).nodes =
        if number = fd then trackedRecord path
        else rpsGpuFdMapGet number machine.state.nodes := by
    rw [rpsGpuFdMapGet_gpuTraceAndTrackOpen video valid kept.kept]
    simp [malloc]
  have holds : (machine.phases thread).holds fd = true := by
    simp [isOpened, Phase.holds]
  refine
    kept.atNumber fd kept.kept.gpuTraceAndTrackOpen
      Machine.phases_setPhase ?_ ?_ (fun _ _ => rfl) ?_ ?_
  · simp [isOpened, Phase.number]
  · simp [Phase.number]
  · intro number differs
    exact (found number).trans (if_neg differs)
  · refine
      .of_alone Machine.phases_setPhase (kept.others holds) before.nonneg
        nofun ?_ ?_ nofun
    · intro _ other given named tracked
      have same : usage = other := Option.some.inj (isOpen.symm.trans named)
      rw [← same, asked] at tracked
      rw [← Option.some.inj tracked]
      exact (found fd).trans (if_pos rfl)
    · intro untracked _
      have never := untracked usage isOpen
      rw [asked] at never
      cases never

theorem Machine.record_dropRecord (kept : WellKept machine.state.nodes)
    (fd asked : Int) :
    rpsGpuFdMapGet asked (machine.dropRecord fd).state.nodes =
      if asked = fd then none
      else rpsGpuFdMapGet asked machine.state.nodes :=
  rpsGpuFdMapGet_remove kept asked

/-- A `close` drops the record of its number. -/
theorem MicroKept.drops (kept : MicroKept machine)
    (isDropping : machine.phases thread = .dropping fd) :
    MicroKept
      ((machine.dropRecord fd).setPhase thread (.closing fd)) := by
  have before := kept.each fd
  have found := Machine.record_dropRecord kept.kept fd
  have holds : (machine.phases thread).holds fd = true := by
    simp [isDropping, Phase.holds]
  refine
    kept.atNumber fd (kept.kept.remove fd) Machine.phases_setPhase ?_ ?_
      (fun _ _ => rfl) ?_ ?_
  · simp [isDropping, Phase.number]
  · simp [Phase.number]
  · intro number differs
    exact (found number).trans (if_neg differs)
  · refine
      .of_alone Machine.phases_setPhase (kept.others holds) before.nonneg
        nofun ?_ ?_ ?_
    · simp [Phase.holds]
    · intro _ _
      exact (found fd).trans (if_pos rfl)
    · intro _
      exact (found fd).trans (if_pos rfl)

/-- A `closedir` drops the record of its number in time. -/
theorem MicroKept.dropsLate (kept : MicroKept machine)
    (isClosed : machine.phases thread = .closedDir fd)
    (inTime : machine.AtRest fd →
      (machine.descriptors fd).bind Usage.record = none) :
    MicroKept ((machine.dropRecord fd).setPhase thread .idle) := by
  have before := kept.each fd
  have found := Machine.record_dropRecord kept.kept fd
  have dropped := (found fd).trans (if_pos rfl)
  have same (other : Fin threads) (held : Phase)
      (isHeld :
        ((machine.dropRecord fd).setPhase thread .idle).phases other =
          held)
      (about : held ≠ .idle) : machine.phases other = held := by
    rw [Machine.phases_setPhase] at isHeld
    split at isHeld
    · exact absurd isHeld.symm about
    · exact isHeld
  have holding (other : Fin threads)
      (holds :
        (((machine.dropRecord fd).setPhase thread .idle).phases
          other).holds fd = true) :
      (machine.phases other).holds fd = true := by
    rw [same other _ rfl]
    · exact holds
    · intro isIdle
      rw [isIdle] at holds
      cases holds
  refine
    kept.atNumber fd (kept.kept.remove fd) Machine.phases_setPhase ?_ ?_
      (fun _ _ => rfl) ?_ ?_
  · simp [isClosed, Phase.number]
  · simp [Phase.number]
  · intro number differs
    exact (found number).trans (if_neg differs)
  · constructor
    · exact before.nonneg
    · intro other usage isOpened
      exact
        before.opened other usage (same other _ isOpened Phase.noConfusion)
    · intro first second firstHolds secondHolds
      exact
        before.alone first second (holding first firstHolds)
          (holding second secondHolds)
    · intro usage path named tracks rests
      have atRest : machine.AtRest fd := by
        intro other
        have after := rests other
        rw [Machine.phases_setPhase] at after
        split at after
        · rename_i here
          rw [here, isClosed]
          rfl
        · exact after
      have unrecorded := inTime atRest
      have isOpen : machine.descriptors fd = some usage := named
      rw [isOpen, Option.bind_some, Usage.record, tracks,
        Option.bind_some] at unrecorded
      rw [unrecorded]
      exact dropped
    · intro _ _
      exact dropped
    · intro _ _
      exact dropped

/-- A step that drops no record too late keeps everything. -/
theorem MicroKept.effect {shim : Shim} {label : Micro threads}
    (video : shim.config.gpuVideo = true) (kept : MicroKept machine)
    (inTime : DropsInTime machine label)
    (done : MicroEffect shim machine label later) : MicroKept later := by
  cases done with
  | refused thread wrapper =>
      exact kept
  | entersOpening thread wrapper usage idle =>
      exact kept.pass (by rw [idle]; rfl) rfl
  | entersClosing thread wrapper fd phase idle rests either =>
      exact kept.entersClosing idle rests either
  | opensNothing thread usage phase =>
      exact kept.pass (by rw [phase]; rfl) rfl
  | opens thread fd usage phase valid free rests =>
      exact kept.opens phase valid free rests
  | frees thread answer fd phase =>
      exact kept.frees phase
  | freesDir thread answer fd phase =>
      exact kept.freesDir phase
  | freesNothing thread answer fd phase closed =>
      exact kept.freesNothing phase closed
  | tracks thread env fd usage path phase asked malloc =>
      exact kept.tracks video phase asked malloc
  | drops thread env fd phase =>
      exact kept.drops phase
  | dropsLate thread env fd phase =>
      apply kept.dropsLate phase
      rw [DropsInTime, phase] at inTime
      exact inTime

theorem MicroKept.trackedAtRest (kept : MicroKept machine) :
    machine.TrackedAtRest where
  record := by
    intro fd usage record rests named has
    obtain ⟨path, tracks, tracked⟩ := Option.bind_eq_some_iff.mp has
    rw [(kept.each fd).settled usage path named tracks rests]
    exact tracked
  current := by
    intro fd record rests done found
    apply Classical.byContradiction
    intro missing
    have untracked (usage : Usage)
        (named : machine.descriptors fd = some usage) :
        usage.tracks = none := by
      cases tracks : usage.tracks with
      | none =>
          rfl
      | some path =>
          have settled :=
            (kept.each fd).settled usage path named tracks rests
          rw [found] at settled
          have has : usage.record = some record := by
            rw [Usage.record, tracks]
            exact settled.symm
          exact absurd ⟨usage, named, has⟩ missing
    rw [(kept.each fd).clear untracked done] at found
    cases found

/-- A record that is dropped too late is missing at once. -/
theorem MicroKept.not_trackedAtRest {shim : Shim} {label : Micro threads}
    (kept : MicroKept machine) (late : ¬ DropsInTime machine label)
    (taken : microStep shim machine label = some later) :
    ¬ later.TrackedAtRest := by
  cases label with
  | enter thread wrapper =>
      exact absurd trivial late
  | kernel thread answer =>
      exact absurd trivial late
  | update thread env =>
      cases phase : machine.phases thread with
      | closedDir fd =>
          rw [DropsInTime, phase] at late
          obtain ⟨rests, has⟩ := Classical.not_imp.mp late
          obtain ⟨record, found⟩ := Option.ne_none_iff_exists'.mp has
          obtain ⟨usage, named, isRecord⟩ :=
            Option.bind_eq_some_iff.mp found
          have dropped :
              later = (machine.dropRecord fd).setPhase thread .idle := by
            simpa [microStep, Machine.update, phase] using taken.symm
          subst dropped
          intro tracked
          have restsAfter :
              ((machine.dropRecord fd).setPhase thread .idle).AtRest
                fd := by
            intro other
            rw [Machine.phases_setPhase]
            split
            · rfl
            · exact rests other
          have present :=
            tracked.record fd usage record restsAfter named isRecord
          have missing :=
            (Machine.record_dropRecord kept.kept fd fd).trans (if_pos rfl)
          cases missing.symm.trans present
      | _ =>
          rw [DropsInTime, phase] at late
          exact absurd trivial late

end Step

/-! ## Runs -/

section Runs

variable {shim : Shim} {threads : Nat}

theorem microKept_initial : MicroKept (Machine.initial threads) where
  kept := wellKept_nil
  each := by
    intro fd
    have empty :
        rpsGpuFdMapGet fd (Machine.initial threads).state.nodes = none :=
      rpsGpuFdMapGet_nil fd
    exact
      { nonneg := nofun
        opened := nofun
        alone := nofun
        settled := nofun
        clear := fun _ _ => empty
        dropped := nofun }

/-- The tracker is right about every descriptor at rest, all along a run,
exactly when no record is dropped too late. -/
theorem trackedAtRest_iff (video : shim.config.gpuVideo = true)
    (labels : List (Micro threads)) :
    Throughout (microStep shim) Machine.TrackedAtRest
        (.initial threads) labels ↔
      StepsMeet (microStep shim)
        (fun before label _ => DropsInTime before label)
        (.initial threads) labels :=
  throughout_iff_stepsMeet
    (fun _ kept => kept.trackedAtRest)
    (fun _ _ _ kept inTime taken =>
      kept.effect video inTime (microEffect_of_step taken))
    (fun _ _ _ kept late taken => kept.not_trackedAtRest late taken)
    labels microKept_initial

/-- With no wrapper in progress: every open descriptor on a classified path has
that path's record, and every record is that of the present use of its
number. -/
structure Machine.Tracked (machine : Machine threads) : Prop where
  record : ∀ fd usage record, machine.descriptors fd = some usage →
    trackedRecord usage.path = some record →
      rpsGpuFdMapGet fd machine.state.nodes = some record
  current : ∀ fd record,
    rpsGpuFdMapGet fd machine.state.nodes = some record →
      ∃ usage,
        machine.descriptors fd = some usage ∧ usage.record = some record

theorem tracked_of_run (video : shim.config.gpuVideo = true)
    {labels : List (Micro threads)} {finish : Machine threads}
    (inTime :
      StepsMeet (microStep shim)
        (fun before label _ => DropsInTime before label)
        (.initial threads) labels)
    (run :
      runFrom (microStep shim) (.initial threads) labels = some finish)
    (quiet : finish.Quiet) : finish.Tracked := by
  have keeps (before : Machine threads) (label : Micro threads)
      (after : Machine threads) (kept : MicroKept before)
      (met : DropsInTime before label)
      (taken : microStep shim before label = some after) :
      MicroKept after :=
    kept.effect video met (microEffect_of_step taken)
  have kept := invariant_of_run keeps microKept_initial inTime run
  have tracked := kept.trackedAtRest
  have idle (thread : Fin threads) : finish.phases thread = .idle := by
    have isIdle := quiet thread
    cases phase : finish.phases thread with
    | idle =>
        rfl
    | _ =>
        rw [phase] at isIdle
        cases isIdle
  have rests (fd : Int) : finish.AtRest fd := by
    intro thread
    rw [idle thread]
    rfl
  constructor
  · intro fd usage record named classified
    exact
      tracked.record fd usage record (rests fd) named
        (Usage.record_of_classified classified)
  · intro fd record found
    apply tracked.current fd record (rests fd) _ found
    intro thread isClosed
    rw [idle thread] at isClosed
    cases isClosed

end Runs

/-! ## Two threads -/

/-- The path of the control device. -/
def nvidiactlPath : CString := cstr "/dev/nvidiactl"

/-- The first thread opens the gpus directory as 3 and closes it, up to the
kernel call of `closedir`. -/
def freeGpusDir : List (Micro 2) :=
  [.enter 0 (.opening (.opendir (some gpusPath))),
    .kernel 0 (some 3),
    .update 0 containerEnv,
    .enter 0 (.closedir 3),
    .kernel 0 none]

/-- The second thread opens the control device, as 3 again. -/
def reopenAsCtl : List (Micro 2) :=
  [.enter 1 (.opening (.open_ (some nvidiactlPath) 0 0)),
    .kernel 1 (some 3),
    .update 1 containerEnv]

/-- If the first thread goes on before the second one, the record stands. -/
theorem tracked_dropBeforeReopen :
    ∃ finish,
      runFrom (microStep containerShim) (.initial 2)
          (freeGpusDir ++ .update 0 containerEnv :: reopenAsCtl) =
        some finish ∧
        (rpsGpuFdMapGet 3 finish.state.nodes).map RpsGpuFdRecord.kind =
          some .nvidiaCtl ∧
        finish.Tracked := by
  have kept :
      (runFrom (microStep containerShim) (.initial 2)
          (freeGpusDir ++ .update 0 containerEnv :: reopenAsCtl)).map
            (fun finish =>
              (decide finish.Quiet,
                (rpsGpuFdMapGet 3 finish.state.nodes).map
                  RpsGpuFdRecord.kind)) =
        some (true, some .nvidiaCtl) := by
    decide
  obtain ⟨finish, run, seen⟩ := Option.map_eq_some_iff.mp kept
  rw [Prod.mk.injEq] at seen
  have quiet := of_decide_eq_true seen.1
  exact
    ⟨finish, run, seen.2, tracked_of_run rfl (by decide) run quiet⟩

/-- If it goes on after it, the record of the control device is lost. -/
theorem not_tracked_dropAfterReopen :
    ∃ finish usage,
      runFrom (microStep containerShim) (.initial 2)
          (freeGpusDir ++ reopenAsCtl ++ [.update 0 containerEnv]) =
        some finish ∧
        finish.Quiet ∧
        finish.descriptors 3 = some usage ∧
        usage.path = some nvidiactlPath ∧
        rpsGpuFdMapGet 3 finish.state.nodes = none ∧
        ¬ finish.Tracked := by
  have lost :
      (runFrom (microStep containerShim) (.initial 2)
          (freeGpusDir ++ reopenAsCtl ++ [.update 0 containerEnv])).map
            (fun finish =>
              (decide finish.Quiet,
                (finish.descriptors 3).map Usage.path,
                rpsGpuFdMapGet 3 finish.state.nodes)) =
        some (true, some (some nvidiactlPath), none) := by
    decide
  obtain ⟨finish, run, seen⟩ := Option.map_eq_some_iff.mp lost
  simp only [Prod.mk.injEq] at seen
  obtain ⟨isQuiet, isCtl, missing⟩ := seen
  obtain ⟨usage, named, path⟩ := Option.map_eq_some_iff.mp isCtl
  refine
    ⟨finish, usage, run, of_decide_eq_true isQuiet, named, path, missing,
      ?_⟩
  intro tracked
  have classified :
      (trackedRecord usage.path).map RpsGpuFdRecord.kind =
        some .nvidiaCtl := by
    rw [path]
    decide
  obtain ⟨record, found, _⟩ := Option.map_eq_some_iff.mp classified
  have present := tracked.record 3 usage record named found
  rw [missing] at present
  cases present

end RunpodShim

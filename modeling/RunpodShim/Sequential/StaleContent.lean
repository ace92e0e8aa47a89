import RunpodShim.Sequential.Effects

/-!
# Stale content

Runs in which descriptors are also closed behind the shim's back, and their
numbers handed out again.  The history has which numbers a virtualised open
attached its text to, and which numbers are in use for something else.
-/

namespace RunpodShim

open StepRuns

/-! ## What a step makes of a number -/

/-- What a step makes of a number. -/
inductive Outcome where
  /-- an open returned it and attached the meminfo text -/
  | attached (fd : Int)
  /-- an open or a duplication returned it for something else -/
  | handedOut (fd : Int)
  /-- `dup2` or `dup3` put something else in its place -/
  | takenOver (fd : Int)
  /-- `close` was called on it -/
  | closed (fd : Int)
  | other
deriving DecidableEq, Repr

/-- The outcome of an opening call. -/
def openOutcome (shim : Shim) (state : ShimState) (kernel : Kernel)
    (answer : Answer) (env : Env) (call : Call) (request : OpenRequest) :
    Outcome :=
  if call.Refused shim state then .other
  else
    match request.file kernel answer with
    | none => .other
    | some file =>
        match request.attachedText shim env file.first state with
        | some _ => .attached file.first
        | none => .handedOut file.first

/-- The outcome of a call that opens nothing. -/
def copyOutcome (kernel : Kernel) (answer : Answer) (call : Call) :
    Outcome :=
  match call, call.duplicates, call.replaces with
  | .close fd, _, _ => .closed fd
  | _, some oldfd, _ =>
      match kernel.descriptors oldfd, kernel.freeFd answer with
      | some _, some newfd => .handedOut newfd
      | _, _ => .other
  | _, none, some (oldfd, newfd) =>
      if kernel.replaces answer oldfd newfd then .takenOver newfd
      else .other
  | _, none, none => .other

def outcome (shim : Shim) (state : ShimState) (kernel : Kernel) :
    Action → Outcome
  | .closeBehind _ => .other
  | .call answer env call =>
      match call.openRequest state.nodes with
      | some request =>
          openOutcome shim state kernel answer env call request
      | none => copyOutcome kernel answer call

/-! ## The history -/

/-- The numbers that a text was attached to, and those that were handed out
for something else and are still in use for it. -/
structure Uses where
  attached : Int → Bool
  plain : Int → Bool

def Uses.none : Uses where
  attached := fun _ => false
  plain := fun _ => false

/-- Whether a number has a text after a step: it loses it by a `close`, by
`dup2` and by `dup3`. -/
def Outcome.attachedAfter (made : Outcome) (fd : Int) (had : Bool) : Bool :=
  match made with
  | .attached number => decide (fd = number) || had
  | .takenOver number | .closed number => decide (fd ≠ number) && had
  | .handedOut _ | .other => had

/-- Whether a number is in use for something else after a step, if it is open
then. -/
def Outcome.plainAfter (made : Outcome) (fd : Int) (was : Bool) : Bool :=
  match made with
  | .handedOut number => decide (fd = number) || was
  | .attached number | .takenOver number => decide (fd ≠ number) && was
  | .closed _ | .other => was

def Uses.after (uses : Uses) (made : Outcome) (later : Kernel) : Uses where
  attached := fun fd => made.attachedAfter fd (uses.attached fd)
  plain := fun fd =>
    (later.descriptors fd).isSome && made.plainAfter fd (uses.plain fd)

/-- The system with the history of its numbers. -/
def useStep (shim : Shim) :
    Process Kernel × Uses → Action → Option (Process Kernel × Uses) :=
  withHistory (sequentialStep shim) fun before action after uses =>
    uses.after (outcome shim before.state before.world action) after.world

/-- A read of a number that is in use for something else is answered by the
real `read`. -/
def NoStaleContent (state : ShimState) (uses : Uses) : Prop :=
  ∀ fd, uses.plain fd = true →
    ∀ (World : Type) (real : Real World) (world : World) (buffer : Bool)
      (count : Nat),
      let read := Preload.read real fd buffer count ⟨state, world⟩
      read.1 = (real.read fd buffer count world).1 ∧
        read.2.world = (real.read fd buffer count world).2

/-! ## The table along a step -/

section Table

variable {shim : Shim} {state after : ShimState} {kernel later : Kernel}
variable {action : Action} {answer : Answer} {env : Env} {call : Call}

theorem outcome_of_file {request : OpenRequest} {file : OpenFile}
    (asked : call.openRequest state.nodes = some request)
    (goesOn : ¬ call.Refused shim state)
    (made : request.file kernel answer = some file) :
    outcome shim state kernel (.call answer env call) =
      match request.attachedText shim env file.first state with
      | some _ => .attached file.first
      | none => .handedOut file.first := by
  simp only [outcome, asked, openOutcome, if_neg goesOn, made]

theorem outcome_of_duplicates {oldfd newfd : Int} {file : OpenFile}
    (asked : call.duplicates = some oldfd)
    (named : kernel.descriptors oldfd = some file)
    (free : kernel.freeFd answer = some newfd) :
    outcome shim state kernel (.call answer env call) =
      .handedOut newfd := by
  have noOpen : call.openRequest state.nodes = none :=
    Call.openRequest_of_duplicates asked
  simp only [outcome, noOpen]
  cases call with
  | dup fd =>
      cases asked
      simp [copyOutcome, Call.duplicates, named, free]
  | fcntl fd cmd arg =>
      simp only [copyOutcome, asked, named, free]
  | _ =>
      cases asked

theorem outcome_of_replaces {oldfd newfd : Int}
    (asked : call.replaces = some (oldfd, newfd)) :
    outcome shim state kernel (.call answer env call) =
      if kernel.replaces answer oldfd newfd then .takenOver newfd
      else .other := by
  cases call with
  | dup2 first second =>
      cases asked
      rfl
  | dup3 first second flags =>
      cases asked
      rfl
  | _ =>
      cases asked

theorem outcome_of_quiet (quiet : call.Quiet shim state kernel answer) :
    outcome shim state kernel (.call answer env call) = .other := by
  cases asked : call.openRequest state.nodes with
  | some request =>
      simp only [outcome, asked, openOutcome]
      split
      · rfl
      · rename_i goesOn
        rw [quiet.opens request asked goesOn]
  | none =>
      cases duplicates : call.duplicates with
      | some oldfd =>
          have fails := quiet.duplicates oldfd duplicates
          simp only [outcome, asked]
          cases call with
          | close fd =>
              cases duplicates
          | _ =>
              simp only [copyOutcome, duplicates]
              rcases fails with closed | taken
              · rw [closed]
              · rw [taken]
                cases kernel.descriptors oldfd <;> rfl
      | none =>
          cases replaces : call.replaces with
          | some pair =>
              rw [outcome_of_replaces replaces,
                quiet.replaces pair.1 pair.2 replaces]
              rfl
          | none =>
              simp only [outcome, asked]
              cases call with
              | close fd =>
                  exact absurd rfl (quiet.closes fd)
              | _ =>
                  simp only [copyOutcome, duplicates, replaces]

/-- Whether a number has an entry after an opening call. -/
theorem isSome_fdMapStream_record {request : OpenRequest} {file : OpenFile}
    (asked : call.openRequest state.nodes = some request)
    (goesOn : ¬ call.Refused shim state)
    (made : request.file kernel answer = some file) (fd : Int) :
    (fdMapStream fd
        (request.record shim env file.first state).entries).isSome =
      (outcome shim state kernel (.call answer env call)).attachedAfter fd
        (fdMapStream fd state.entries).isSome := by
  rw [outcome_of_file asked goesOn made, OpenRequest.fdMapStream_record]
  cases request.attachedText shim env file.first state with
  | none =>
      rfl
  | some text =>
      by_cases here : fd = file.first
      · simp [Outcome.attachedAfter, here]
      · simp [Outcome.attachedAfter, here]

theorem isSome_fdMapStream_remove (kept : TableKept state.entries)
    (number fd : Int) :
    (fdMapStream fd (rpsFdMapRemove number state.entries)).isSome =
      (decide (fd ≠ number) && (fdMapStream fd state.entries).isSome) := by
  rw [fdMapStream_remove kept]
  by_cases here : fd = number
  · simp [here]
  · simp [here]

/-- A read keeps the entries. -/
theorem isSome_fdMapStream_takeRead (buffer : Bool) (count : Nat)
    (number fd : Int) :
    (fdMapStream fd
        (rpsFdMapTakeRead buffer number count state.entries).2).isSome =
      (fdMapStream fd state.entries).isSome := by
  by_cases usable : buffer = true ∨ count = 0
  · rw [fdMapStream_takeRead usable]
    by_cases here : fd = number
    · simp [here]
    · rw [if_neg here]
  · rw [rpsFdMapTakeRead_of_unusable usable]

/-- Whether a number has an entry after a step. -/
theorem isSome_fdMapStream_of_step (kept : TableKept state.entries)
    (done : Effect shim state kernel action after later) (fd : Int) :
    (fdMapStream fd after.entries).isSome =
      (outcome shim state kernel action).attachedAfter fd
        (fdMapStream fd state.entries).isSome := by
  cases done with
  | idle same quiet =>
      rw [outcome_of_quiet quiet, same.entries]
      rfl
  | read number buffer count nodes entries depth =>
      rw [entries]
      exact isSome_fdMapStream_takeRead buffer count number fd
  | opened request file asked goesOn found stream =>
      have made := OpenRequest.file_of_lookup found stream
      exact isSome_fdMapStream_record asked goesOn made fd
  | openedDir request file asked goesOn found stream directory unused =>
      have made :=
        OpenRequest.file_of_directory found directory unused
      exact isSome_fdMapStream_record asked goesOn made fd
  | copied oldfd newfd file asked named free =>
      rw [outcome_of_duplicates asked named free]
      rfl
  | replaced oldfd newfd file asked named replaces =>
      rw [outcome_of_replaces asked, if_pos replaces]
      exact isSome_fdMapStream_remove kept newfd fd
  | closed number closes =>
      exact isSome_fdMapStream_remove kept number fd
  | dropped number fails =>
      exact isSome_fdMapStream_remove kept number fd
  | _ =>
      rfl

/-- What a step hands out is open afterwards. -/
theorem isOpen_of_handedOut
    (done : Effect shim state kernel action after later) {number : Int}
    (handedOut : outcome shim state kernel action = .handedOut number) :
    (later.descriptors number).isSome := by
  cases done with
  | idle same quiet =>
      rw [outcome_of_quiet quiet] at handedOut
      cases handedOut
  | opened request file asked goesOn found stream =>
      have made := OpenRequest.file_of_lookup found stream
      rw [outcome_of_file asked goesOn made] at handedOut
      split at handedOut
      · cases handedOut
      · cases handedOut
        rw [Kernel.descriptors_install, if_pos rfl]
        rfl
  | openedDir request file asked goesOn found stream directory unused =>
      have made :=
        OpenRequest.file_of_directory found directory unused
      rw [outcome_of_file asked goesOn made] at handedOut
      split at handedOut
      · cases handedOut
      · cases handedOut
        show ((kernel.install file).descriptors file.first).isSome
        rw [Kernel.descriptors_install, if_pos rfl]
        rfl
  | copied oldfd newfd file asked named free =>
      rw [outcome_of_duplicates asked named free] at handedOut
      cases handedOut
      rw [Kernel.descriptors_assign, if_pos rfl]
      rfl
  | replaced oldfd newfd file asked named replaces =>
      rw [outcome_of_replaces asked, if_pos replaces] at handedOut
      cases handedOut
  | _ =>
      cases handedOut

end Table

/-! ## Runs -/

section Runs

variable {shim : Shim}

/-- The history knows the entries of the table, and no number in plain use has
one. -/
structure UsesKept (current : Process Kernel × Uses) : Prop where
  table : TableKept current.1.state.entries
  free : current.1.state.depth = 0
  attached : ∀ fd,
    current.2.attached fd =
      (fdMapStream fd current.1.state.entries).isSome
  plain : ∀ fd, current.2.plain fd = true →
    current.2.attached fd = false

theorem usesKept_start (cwd : List CString) :
    UsesKept (Process.start cwd, Uses.none) where
  table := tableKept_emptyEntries
  free := rfl
  attached := by
    intro fd
    rw [Process.start, ShimState.initial, fdMapStream_emptyEntries]
    rfl
  plain := nofun

/-- The step hands no number out that still has a text from an earlier
use. -/
def HandsOutClean (shim : Shim) (before : Process Kernel × Uses)
    (action : Action) : Prop :=
  ∀ number,
    outcome shim before.1.state before.1.world action =
        .handedOut number →
      before.2.attached number = false

variable {before after : Process Kernel × Uses} {action : Action}

/-- The history follows the entries along every step. -/
theorem UsesKept.attached_step (kept : UsesKept before)
    (taken : useStep shim before action = some after) (fd : Int) :
    after.2.attached fd =
      (fdMapStream fd after.1.state.entries).isSome := by
  obtain ⟨stepped, recorded⟩ := withHistory_eq_some.mp taken
  have done := effect_of_step stepped
  rw [recorded, isSome_fdMapStream_of_step kept.table done,
    ← kept.attached fd]
  rfl

theorem UsesKept.step (kept : UsesKept before)
    (clean : HandsOutClean shim before action)
    (taken : useStep shim before action = some after) :
    UsesKept after := by
  have follows := kept.attached_step taken
  obtain ⟨stepped, recorded⟩ := withHistory_eq_some.mp taken
  have done := effect_of_step stepped
  refine
    ⟨done.tableKept kept.table, done.depth.trans kept.free, follows, ?_⟩
  intro fd inUse
  rw [recorded] at inUse ⊢
  have isPlain := (Bool.and_eq_true_iff.mp inUse).2
  have old := kept.plain fd
  show Outcome.attachedAfter _ fd (before.2.attached fd) = false
  cases made : outcome shim before.1.state before.1.world action with
  | attached number =>
      rw [made] at isPlain
      simp only [Outcome.plainAfter, Bool.and_eq_true,
        decide_eq_true_eq] at isPlain
      simp [Outcome.attachedAfter, isPlain.1, old isPlain.2]
  | handedOut number =>
      rw [made] at isPlain
      simp only [Outcome.plainAfter, Bool.or_eq_true,
        decide_eq_true_eq] at isPlain
      rcases isPlain with here | wasPlain
      · rw [here]
        exact clean number made
      · exact old wasPlain
  | takenOver number =>
      rw [made] at isPlain
      simp only [Outcome.plainAfter, Bool.and_eq_true,
        decide_eq_true_eq] at isPlain
      simp [Outcome.attachedAfter, old isPlain.2]
  | closed number =>
      rw [made] at isPlain
      simp [Outcome.attachedAfter, old isPlain]
  | other =>
      rw [made] at isPlain
      exact old isPlain

/-- A number that is handed out with a text from an earlier use reads it. -/
theorem UsesKept.not_noStaleContent (kept : UsesKept before)
    (unclean : ¬ HandsOutClean shim before action)
    (taken : useStep shim before action = some after) :
    ¬ NoStaleContent after.1.state after.2 := by
  have follows := kept.attached_step taken
  obtain ⟨stepped, recorded⟩ := withHistory_eq_some.mp taken
  have done := effect_of_step stepped
  obtain ⟨number, made, dirty⟩ :
      ∃ number,
        outcome shim before.1.state before.1.world action =
            .handedOut number ∧
          before.2.attached number = true := by
    simpa [HandsOutClean] using unclean
  have inUse : after.2.plain number = true := by
    rw [recorded]
    simp [Uses.after, Outcome.plainAfter, made, isOpen_of_handedOut done made]
  have stale : after.2.attached number = true := by
    rw [recorded]
    simp [Uses.after, Outcome.attachedAfter, made, dirty]
  rw [follows] at stale
  obtain ⟨stream, present⟩ := Option.isSome_iff_exists.mp stale
  intro clean
  have real :=
    (clean number inUse Unit (constantReal Unit (-1)) () true 0).1
  have table :=
    (read_of_stream (done.depth.trans kept.free) present
      (constantReal Unit (-1)) () (Or.inl rfl : true = true ∨ 0 = 0)).1
  rw [table] at real
  have value := congrArg (fun filled => filled.ret.value) real
  simp [constantReal] at value

theorem UsesKept.noStaleContent (kept : UsesKept before) :
    NoStaleContent before.1.state before.2 := by
  intro fd inUse World real world buffer count
  have missing : fdMapStream fd before.1.state.entries = none := by
    apply Option.not_isSome_iff_eq_none.mp
    rw [← kept.attached, kept.plain fd inUse]
    exact Bool.false_ne_true
  exact read_of_no_stream missing real world buffer count

/-- No read of a run meets stale content exactly when no number is handed out
with a text from an earlier use. -/
theorem noStaleContent_iff (shim : Shim) (cwd : List CString)
    (actions : List Action) :
    Throughout (useStep shim)
        (fun current => NoStaleContent current.1.state current.2)
        (Process.start cwd, Uses.none) actions ↔
      StepsMeet (useStep shim)
        (fun before action _ => HandsOutClean shim before action)
        (Process.start cwd, Uses.none) actions :=
  throughout_iff_stepsMeet (fun _ kept => kept.noStaleContent)
    (fun _ _ _ kept clean taken => kept.step clean taken)
    (fun _ _ _ kept unclean taken =>
      kept.not_noStaleContent unclean taken)
    actions (usesKept_start cwd)

end Runs

/-! ## A number that is used again -/

/-- `/etc/hosts` gets the number of a `/proc/meminfo` that `fclose` closed. -/
def reuseMeminfo : List Action :=
  [.call (answers 3 false) containerEnv (.open_ (some meminfoPath) 0 0),
    .closeBehind 3,
    .call (answers 3 false) containerEnv
      (.open_ (some (cstr "/etc/hosts")) 0 0)]

/-- Its first read returns the meminfo text. -/
theorem not_noStaleContent_reuseMeminfo :
    ∃ finish,
      runFrom (useStep containerShim)
          (Process.start [], Uses.none) reuseMeminfo = some finish ∧
        finish.2.plain 3 = true ∧
        (∀ (World : Type) (real : Real World) (world : World),
          (Preload.read real 3 true 8 ⟨finish.1.state, world⟩).1 =
            ⟨⟨8, 0⟩, cstr "MemTotal"⟩) ∧
        ¬ NoStaleContent finish.1.state finish.2 := by
  have reused :
      (runFrom (useStep containerShim)
          (Process.start [], Uses.none) reuseMeminfo).map
            (fun finish =>
              (finish.2.plain 3, fdMapStream 3 finish.1.state.entries,
                finish.1.state.depth)) =
        some (true, some (cstr "MemTotal: 1 kB", 0), 0) := by
    decide
  obtain ⟨finish, run, seen⟩ := Option.map_eq_some_iff.mp reused
  simp only [Prod.mk.injEq] at seen
  obtain ⟨inUse, present, free⟩ := seen
  have reads (World : Type) (real : Real World) (world : World) :
      (Preload.read real 3 true 8 ⟨finish.1.state, world⟩).1 =
        ⟨⟨8, 0⟩, cstr "MemTotal"⟩ :=
    (read_of_stream free present real world (Or.inl rfl)).1
  refine ⟨finish, run, inUse, reads, ?_⟩
  intro clean
  have real := (clean 3 inUse Unit (constantReal Unit 0) () true 8).1
  rw [reads] at real
  revert real
  decide

end RunpodShim

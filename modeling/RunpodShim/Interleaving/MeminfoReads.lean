import RunpodShim.Library.Holders
import RunpodShim.Sequential.Effects

/-!
# Threads that read `/proc/meminfo`

Any number of threads that open, duplicate, read and close.  Each wrapper is a
sequence of kernel calls and of updates of the meminfo table under its mutex,
in the order of the source: an open attaches its text after the kernel call,
`close` drops the entry before it, `dup2` and `dup3` drop that of the number
they replace after it, and a read looks into the table first and goes to the
kernel in a step of its own when it has found nothing.
-/

namespace RunpodShim

open Holders StepRuns

/-! ## The machine -/

/-- A call of a wrapper; an opening call that is not refused is given by what
it asks for. -/
inductive ReadWrapper where
  | opening (request : OpenRequest)
  | close (fd : Int)
  | dup (oldfd : Int)
  /-- `dup2` and `dup3` -/
  | replace (oldfd newfd : Int)
deriving DecidableEq, Repr

/-- Where a thread is in its wrapper. -/
inductive Stage where
  | idle
  /-- before the kernel call of an opening wrapper -/
  | opening (request : OpenRequest)
  /-- the number is returned, the text is to be attached -/
  | attaching (fd : Int) (request : OpenRequest)
  /-- in `close`, the entry is to be dropped -/
  | dropping (fd : Int)
  /-- in `close`, the number is to be freed -/
  | closing (fd : Int)
  /-- before the kernel call of `dup` -/
  | copying (oldfd : Int)
  /-- before the kernel call of `dup2` or `dup3` -/
  | replacing (oldfd newfd : Int)
  /-- after it, the entry of the number is to be dropped -/
  | replaced (newfd : Int)
  /-- the table has nothing for a read, the file is to be read -/
  | reading (fd : Int)
deriving DecidableEq, Repr

/-- The number that an opening, closing or replacing wrapper is about in this
stage. -/
def Stage.fd : Stage → Option Int
  | .attaching fd _ | .dropping fd | .closing fd | .replacing _ fd
  | .replaced fd => some fd
  | .idle | .opening _ | .copying _ | .reading _ => none

/-- The thread is in a wrapper that has the number. -/
def Stage.Holds (stage : Stage) (fd : Int) : Prop :=
  stage.fd = some fd

instance (stage : Stage) (fd : Int) : Decidable (stage.Holds fd) :=
  inferInstanceAs (Decidable (stage.fd = some fd))

/-- Every time that a number begins to name something is a use of its own. -/
structure ReadMachine (threads : Nat) where
  state : ShimState
  uses : Int → Option Nat
  nextUse : Nat
  stages : Fin threads → Stage

namespace ReadMachine

variable {threads : Nat}

/-- No thread has called a wrapper. -/
def initial (threads : Nat) : ReadMachine threads where
  state := .initial
  uses := fun _ => none
  nextUse := 0
  stages := fun _ => .idle

def setStage (machine : ReadMachine threads) (thread : Fin threads)
    (stage : Stage) : ReadMachine threads :=
  { machine with stages := Function.update machine.stages thread stage }

def setState (machine : ReadMachine threads) (state : ShimState) :
    ReadMachine threads :=
  { machine with state := state }

/-- A number begins to name something. -/
def use (machine : ReadMachine threads) (fd : Int) : ReadMachine threads :=
  { machine with
    uses := Function.update machine.uses fd (some machine.nextUse)
    nextUse := machine.nextUse + 1 }

def free (machine : ReadMachine threads) (fd : Int) :
    ReadMachine threads :=
  { machine with uses := Function.update machine.uses fd none }

/-- `rps_fd_map_remove` under the mutex. -/
def dropEntry (machine : ReadMachine threads) (fd : Int) :
    ReadMachine threads :=
  machine.setState
    { machine.state with
      entries := rpsFdMapRemove fd machine.state.entries }

instance (machine : ReadMachine threads) (fd : Int) :
    Decidable (AtRest Stage.Holds machine.stages fd) :=
  inferInstanceAs
    (Decidable (∀ thread, ¬ (machine.stages thread).Holds fd))

/-! ## Atomic steps -/

/-- A thread calls a wrapper.  It closes and replaces no number that another
thread is in a wrapper with. -/
def enter (machine : ReadMachine threads) (thread : Fin threads)
    (wrapper : ReadWrapper) : Option (ReadMachine threads) :=
  match machine.stages thread, wrapper with
  | .idle, .opening request =>
      some (machine.setStage thread (.opening request))
  | .idle, .close fd =>
      if AtRest Stage.Holds machine.stages fd then
        some (machine.setStage thread (.dropping fd))
      else none
  | .idle, .dup oldfd => some (machine.setStage thread (.copying oldfd))
  | .idle, .replace oldfd newfd =>
      if AtRest Stage.Holds machine.stages newfd then
        some (machine.setStage thread (.replacing oldfd newfd))
      else none
  | _, _ => none

/-- The number is free and no thread is in a wrapper with it. -/
def Unused (machine : ReadMachine threads) (fd : Int) : Prop :=
  0 ≤ fd ∧ machine.uses fd = none ∧
    AtRest Stage.Holds machine.stages fd

instance (machine : ReadMachine threads) (fd : Int) :
    Decidable (machine.Unused fd) :=
  inferInstanceAs (Decidable (_ ∧ _ ∧ _))

/-- The kernel call; without an answer it fails.  What it hands out is
unused. -/
def kernelCall (machine : ReadMachine threads) (thread : Fin threads)
    (answer : Option Int) : Option (ReadMachine threads) :=
  match machine.stages thread, answer with
  | .opening _, none | .copying _, none | .replacing _ _, none =>
      some (machine.setStage thread .idle)
  | .opening request, some fd =>
      if machine.Unused fd then
        some ((machine.use fd).setStage thread (.attaching fd request))
      else none
  | .copying oldfd, some fd =>
      if (machine.uses oldfd).isSome ∧ machine.Unused fd then
        some ((machine.use fd).setStage thread .idle)
      else none
  | .replacing oldfd newfd, some _ =>
      if (machine.uses oldfd).isSome ∧ 0 ≤ newfd ∧ oldfd ≠ newfd then
        some ((machine.use newfd).setStage thread (.replaced newfd))
      else none
  | .closing fd, _ => some ((machine.free fd).setStage thread .idle)
  | .reading _, _ => some (machine.setStage thread .idle)
  | _, _ => none

end ReadMachine

/-- What `maybe_attach_meminfo` does in an opening call. -/
def OpenRequest.attach (request : OpenRequest) (shim : Shim) (env : Env)
    (fd : Int) (state : ShimState) : ShimState :=
  match request.attaches with
  | some flags => maybeAttachMeminfo shim env fd request.path flags state
  | none => state

namespace ReadMachine

variable {threads : Nat}

/-- The update of the table. -/
def update (shim : Shim) (machine : ReadMachine threads)
    (thread : Fin threads) (env : Env) : Option (ReadMachine threads) :=
  match machine.stages thread with
  | .attaching fd request =>
      some
        ((machine.setState
          (request.attach shim env fd machine.state)).setStage thread .idle)
  | .dropping fd =>
      some ((machine.dropEntry fd).setStage thread (.closing fd))
  | .replaced fd => some ((machine.dropEntry fd).setStage thread .idle)
  | _ => none

/-- What a read takes from the table. -/
def take (machine : ReadMachine threads) (buffer : Bool) (fd : Int)
    (count : Nat) : Option (List UInt8) :=
  (rpsFdMapTakeRead buffer fd count machine.state.entries).1

/-- `rps_fd_map_take_read` under the mutex. -/
def takeRead (machine : ReadMachine threads) (buffer : Bool) (fd : Int)
    (count : Nat) : ReadMachine threads :=
  machine.setState
    { machine.state with
      entries := (rpsFdMapTakeRead buffer fd count machine.state.entries).2 }

/-- A read up to its look into the table.  With what it has found there it
returns. -/
def read (machine : ReadMachine threads) (thread : Fin threads)
    (buffer : Bool) (fd : Int) (count : Nat) :
    Option (ReadMachine threads) :=
  if machine.stages thread = .idle then
    some
      ((machine.takeRead buffer fd count).setStage thread
        (if (machine.take buffer fd count).isSome then .idle
        else .reading fd))
  else none

end ReadMachine

/-- An atomic step of one thread. -/
inductive ReadMicro (threads : Nat) where
  | enter (thread : Fin threads) (wrapper : ReadWrapper)
  | kernel (thread : Fin threads) (answer : Option Int)
  | update (thread : Fin threads) (env : Env)
  | read (thread : Fin threads) (buffer : Bool) (fd : Int) (count : Nat)

def readMicroStep (shim : Shim) {threads : Nat}
    (machine : ReadMachine threads) :
    ReadMicro threads → Option (ReadMachine threads)
  | .enter thread wrapper => machine.enter thread wrapper
  | .kernel thread answer => machine.kernelCall thread answer
  | .update thread env => machine.update shim thread env
  | .read thread buffer fd count => machine.read thread buffer fd count

/-- What has become of the texts: which one each use of a number has got, and
the bytes that reads of a number took since it got its last one. -/
structure ReadHistory where
  attached : Nat → Option (List UInt8)
  handed : Int → List UInt8

namespace ReadHistory

def initial : ReadHistory where
  attached := fun _ => none
  handed := fun _ => []

def attach (history : ReadHistory) (use : Nat) (fd : Int)
    (text : List UInt8) : ReadHistory where
  attached := Function.update history.attached use (some text)
  handed := Function.update history.handed fd []

def hand (history : ReadHistory) (fd : Int) (bytes : List UInt8) :
    ReadHistory :=
  { history with
    handed :=
      Function.update history.handed fd (history.handed fd ++ bytes) }

end ReadHistory

/-- The history of a step. -/
def logRead (shim : Shim) {threads : Nat} (before : ReadMachine threads)
    (label : ReadMicro threads) (history : ReadHistory) : ReadHistory :=
  match label with
  | .enter _ _ | .kernel _ _ => history
  | .update thread env =>
      match before.stages thread with
      | .attaching fd request =>
          match request.attachedText shim env fd before.state,
            before.uses fd with
          | some text, some use => history.attach use fd text
          | _, _ => history
      | _ => history
  | .read _ buffer fd count =>
      match before.take buffer fd count with
      | some bytes => history.hand fd bytes
      | none => history

/-- The machine with the history of its texts. -/
def readStep (shim : Shim) {threads : Nat} :
    ReadMachine threads × ReadHistory → ReadMicro threads →
      Option (ReadMachine threads × ReadHistory) :=
  withHistory (readMicroStep shim) fun before label _ history =>
    logRead shim before label history

/-- What an atomic step does. -/
inductive ReadEffect (shim : Shim) {threads : Nat}
    (machine : ReadMachine threads) :
    ReadMicro threads → ReadMachine threads → Prop where
  | enters (thread : Fin threads) (wrapper : ReadWrapper) (stage : Stage)
      (idle : machine.stages thread = .idle) (free : stage.fd = none) :
      ReadEffect shim machine (.enter thread wrapper)
        (machine.setStage thread stage)
  | entersWith (thread : Fin threads) (wrapper : ReadWrapper) (fd : Int)
      (stage : Stage) (idle : machine.stages thread = .idle)
      (rests : AtRest Stage.Holds machine.stages fd)
      (either :
        stage = .dropping fd ∨ ∃ oldfd, stage = .replacing oldfd fd) :
      ReadEffect shim machine (.enter thread wrapper)
        (machine.setStage thread stage)
  | fails (thread : Fin threads)
      (free : (machine.stages thread).fd = none) :
      ReadEffect shim machine (.kernel thread none)
        (machine.setStage thread .idle)
  | failsReplacing (thread : Fin threads) (oldfd newfd : Int)
      (stage : machine.stages thread = .replacing oldfd newfd) :
      ReadEffect shim machine (.kernel thread none)
        (machine.setStage thread .idle)
  | opens (thread : Fin threads) (fd : Int) (request : OpenRequest)
      (stage : machine.stages thread = .opening request)
      (unused : machine.Unused fd) :
      ReadEffect shim machine (.kernel thread (some fd))
        ((machine.use fd).setStage thread (.attaching fd request))
  | copies (thread : Fin threads) (oldfd fd : Int)
      (stage : machine.stages thread = .copying oldfd)
      (unused : machine.Unused fd) :
      ReadEffect shim machine (.kernel thread (some fd))
        ((machine.use fd).setStage thread .idle)
  | replaces (thread : Fin threads) (oldfd newfd answer : Int)
      (stage : machine.stages thread = .replacing oldfd newfd) :
      ReadEffect shim machine (.kernel thread (some answer))
        ((machine.use newfd).setStage thread (.replaced newfd))
  | frees (thread : Fin threads) (answer : Option Int) (fd : Int)
      (stage : machine.stages thread = .closing fd) :
      ReadEffect shim machine (.kernel thread answer)
        ((machine.free fd).setStage thread .idle)
  | attaches (thread : Fin threads) (env : Env) (fd : Int)
      (request : OpenRequest)
      (stage : machine.stages thread = .attaching fd request) :
      ReadEffect shim machine (.update thread env)
        ((machine.setState
          (request.attach shim env fd machine.state)).setStage thread .idle)
  | drops (thread : Fin threads) (env : Env) (fd : Int)
      (stage : machine.stages thread = .dropping fd) :
      ReadEffect shim machine (.update thread env)
        ((machine.dropEntry fd).setStage thread (.closing fd))
  | dropsReplaced (thread : Fin threads) (env : Env) (fd : Int)
      (stage : machine.stages thread = .replaced fd) :
      ReadEffect shim machine (.update thread env)
        ((machine.dropEntry fd).setStage thread .idle)
  | reads (thread : Fin threads) (buffer : Bool) (fd : Int) (count : Nat)
      (stage : Stage) (idle : machine.stages thread = .idle)
      (free : stage.fd = none) :
      ReadEffect shim machine (.read thread buffer fd count)
        ((machine.takeRead buffer fd count).setStage thread stage)
  | readsFile (thread : Fin threads) (answer : Option Int) (fd : Int)
      (stage : machine.stages thread = .reading fd) :
      ReadEffect shim machine (.kernel thread answer)
        (machine.setStage thread .idle)

section Effects

variable {shim : Shim} {threads : Nat} {machine later : ReadMachine threads}
variable {thread : Fin threads}

theorem readEffect_of_enter {wrapper : ReadWrapper}
    (taken : machine.enter thread wrapper = some later) :
    ReadEffect shim machine (.enter thread wrapper) later := by
  unfold ReadMachine.enter at taken
  split at taken
  · rename_i request idle
    cases taken
    exact .enters thread _ _ idle rfl
  · rename_i fd idle
    obtain ⟨rests, whole⟩ := Option.ite_none_right_eq_some.mp taken
    cases whole
    exact .entersWith thread _ fd _ idle rests (Or.inl rfl)
  · rename_i oldfd idle
    cases taken
    exact .enters thread _ _ idle rfl
  · rename_i oldfd newfd idle
    obtain ⟨rests, whole⟩ := Option.ite_none_right_eq_some.mp taken
    cases whole
    exact .entersWith thread _ newfd _ idle rests (Or.inr ⟨oldfd, rfl⟩)
  · cases taken

theorem readEffect_of_kernelCall {answer : Option Int}
    (taken : machine.kernelCall thread answer = some later) :
    ReadEffect shim machine (.kernel thread answer) later := by
  unfold ReadMachine.kernelCall at taken
  split at taken
  · rename_i request stage
    cases taken
    exact .fails thread (by rw [stage]; rfl)
  · rename_i oldfd stage
    cases taken
    exact .fails thread (by rw [stage]; rfl)
  · rename_i oldfd newfd stage
    cases taken
    exact .failsReplacing thread oldfd newfd stage
  · rename_i request fd stage
    obtain ⟨unused, whole⟩ := Option.ite_none_right_eq_some.mp taken
    cases whole
    exact .opens thread fd request stage unused
  · rename_i oldfd fd stage
    obtain ⟨⟨_, unused⟩, whole⟩ := Option.ite_none_right_eq_some.mp taken
    cases whole
    exact .copies thread oldfd fd stage unused
  · rename_i oldfd newfd number stage
    obtain ⟨_, whole⟩ := Option.ite_none_right_eq_some.mp taken
    cases whole
    exact .replaces thread oldfd newfd number stage
  · rename_i fd stage
    cases taken
    exact .frees thread _ fd stage
  · rename_i fd stage
    cases taken
    exact .readsFile thread _ fd stage
  · cases taken

theorem readEffect_of_update {env : Env}
    (taken : machine.update shim thread env = some later) :
    ReadEffect shim machine (.update thread env) later := by
  unfold ReadMachine.update at taken
  split at taken
  · rename_i fd request stage
    cases taken
    exact .attaches thread env fd request stage
  · rename_i fd stage
    cases taken
    exact .drops thread env fd stage
  · rename_i fd stage
    cases taken
    exact .dropsReplaced thread env fd stage
  · cases taken

theorem readEffect_of_step {label : ReadMicro threads}
    (taken : readMicroStep shim machine label = some later) :
    ReadEffect shim machine label later := by
  cases label with
  | enter thread wrapper =>
      exact readEffect_of_enter taken
  | kernel thread answer =>
      exact readEffect_of_kernelCall taken
  | update thread env =>
      exact readEffect_of_update taken
  | read thread buffer fd count =>
      obtain ⟨idle, whole⟩ := Option.ite_none_right_eq_some.mp taken
      cases whole
      refine .reads thread buffer fd count _ idle ?_
      split
      · rfl
      · rfl

end Effects

/-! ## What the steps keep -/

section Kept

variable {threads : Nat}

/-- What reads of a number should find, from what it is in use for. -/
def unread (machine : ReadMachine threads) (history : ReadHistory)
    (fd : Int) : Option (List UInt8 × Nat) :=
  ((machine.uses fd).bind history.attached).map fun text =>
    (text, (history.handed fd).length)

/-- The table has that for the number. -/
def Settled (machine : ReadMachine threads) (history : ReadHistory)
    (fd : Int) : Prop :=
  fdMapStream fd machine.state.entries = unread machine history fd

/-- The present use of the number has got no text. -/
def Unattached (machine : ReadMachine threads) (history : ReadHistory)
    (fd : Int) : Prop :=
  ∃ use, machine.uses fd = some use ∧ history.attached use = none

/-- What is true of a number in a stage that has it. -/
def Stage.Keeps (machine : ReadMachine threads) (history : ReadHistory) :
    Stage → Int → Prop
  | .attaching _ _, fd =>
      Settled machine history fd ∧ Unattached machine history fd
  | .dropping _, fd | .replacing _ _, fd => Settled machine history fd
  | .closing _, fd => fdMapStream fd machine.state.entries = none
  | .replaced _, fd => Unattached machine history fd
  | .idle, _ | .opening _, _ | .copying _, _ | .reading _, _ => True

/-- No use is counted twice, and reads of a text got it from its beginning
on. -/
structure UsesApart (machine : ReadMachine threads)
    (history : ReadHistory) : Prop where
  used : ∀ fd use, machine.uses fd = some use → use < machine.nextUse
  fresh : ∀ use, machine.nextUse ≤ use → history.attached use = none
  apart : ∀ fd other use, machine.uses fd = some use →
    machine.uses other = some use → fd = other
  inOrder : ∀ fd use text, machine.uses fd = some use →
    history.attached use = some text → history.handed fd <+: text

structure ReadKept (current : ReadMachine threads × ReadHistory) : Prop where
  table : TableKept current.1.state.entries
  uses : UsesApart current.1 current.2
  guarded :
    Guarded Stage.Holds current.1.stages (Settled current.1 current.2)
      (Stage.Keeps current.1 current.2)

/-- Nothing has changed for the number. -/
structure SameAt (before after : ReadMachine threads × ReadHistory)
    (fd : Int) : Prop where
  stream :
    fdMapStream fd after.1.state.entries =
      fdMapStream fd before.1.state.entries
  uses : after.1.uses fd = before.1.uses fd
  handed : after.2.handed fd = before.2.handed fd
  attached : ∀ use, before.1.uses fd = some use →
    after.2.attached use = before.2.attached use

variable {before after : ReadMachine threads × ReadHistory} {fd : Int}

theorem SameAt.unread_eq (same : SameAt before after fd) :
    unread after.1 after.2 fd = unread before.1 before.2 fd := by
  rw [unread, unread, same.uses, same.handed]
  cases named : before.1.uses fd with
  | none =>
      rfl
  | some use =>
      rw [Option.bind_some, Option.bind_some, same.attached use named]

theorem SameAt.settled (same : SameAt before after fd)
    (settled : Settled before.1 before.2 fd) :
    Settled after.1 after.2 fd := by
  rw [Settled, same.stream, same.unread_eq]
  exact settled

theorem SameAt.unattached (same : SameAt before after fd)
    (unattached : Unattached before.1 before.2 fd) :
    Unattached after.1 after.2 fd := by
  obtain ⟨use, named, none⟩ := unattached
  refine ⟨use, ?_, ?_⟩
  · rw [same.uses]
    exact named
  · rw [same.attached use named]
    exact none

theorem SameAt.keeps (same : SameAt before after fd) {stage : Stage}
    (keeps : stage.Keeps before.1 before.2 fd) :
    stage.Keeps after.1 after.2 fd := by
  cases stage with
  | attaching number request =>
      exact ⟨same.settled keeps.1, same.unattached keeps.2⟩
  | dropping number =>
      exact same.settled keeps
  | replacing oldfd newfd =>
      exact same.settled keeps
  | closing number =>
      exact same.stream.trans keeps
  | replaced number =>
      exact same.unattached keeps
  | _ =>
      trivial

theorem unread_of_unattached {machine : ReadMachine threads}
    {history : ReadHistory} (unattached : Unattached machine history fd) :
    unread machine history fd = none := by
  obtain ⟨use, named, none⟩ := unattached
  rw [unread, named, Option.bind_some, none, Option.map_none]

theorem unread_of_free {machine : ReadMachine threads}
    {history : ReadHistory} (free : machine.uses fd = none) :
    unread machine history fd = none := by
  rw [unread, free, Option.bind_none, Option.map_none]

variable {machine : ReadMachine threads} {history : ReadHistory}
variable {thread : Fin threads} {stage : Stage}

theorem Stage.eq_of_holds (about : stage.fd = some fd ∨ stage.fd = none)
    (asked : Int) (holds : stage.Holds asked) : asked = fd := by
  rcases about with isFd | free
  · exact (Option.some.inj (isFd.symm.trans holds)).symm
  · cases free.symm.trans holds

theorem Stage.not_holds (free : stage.fd = none) (asked : Int) :
    ¬ stage.Holds asked := by
  intro holds
  cases free.symm.trans holds

theorem ReadKept.others (kept : ReadKept (machine, history))
    (isFd : (machine.stages thread).fd = some fd) (other : Fin threads)
    (differs : other ≠ thread) : ¬ (machine.stages other).Holds fd :=
  kept.guarded.others isFd other differs

/-- A thread goes on with a number that no other thread has; the other
numbers stay as they are. -/
theorem ReadKept.step (kept : ReadKept (machine, history))
    (later : ReadMachine threads) (laterHistory : ReadHistory) (fd : Int)
    (stages : later.stages = machine.stages)
    (others : ∀ other, other ≠ thread →
      ¬ (machine.stages other).Holds fd)
    (old :
      (machine.stages thread).fd = some fd ∨
        (machine.stages thread).fd = none)
    (new : stage.fd = some fd ∨ stage.fd = none)
    (table : TableKept later.state.entries)
    (uses : UsesApart later laterHistory)
    (same : ∀ asked, asked ≠ fd →
      SameAt (machine, history) (later, laterHistory) asked)
    (restsHere : stage.fd = none → Settled later laterHistory fd)
    (heldHere : stage.fd = some fd →
      stage.Keeps later laterHistory fd) :
    ReadKept (later.setStage thread stage, laterHistory) where
  table := table
  uses :=
    { used := uses.used
      fresh := uses.fresh
      apart := uses.apart
      inOrder := uses.inOrder }
  guarded := by
    have guarded :
        Guarded Stage.Holds (Function.update machine.stages thread stage)
          (Settled later laterHistory) (Stage.Keeps later laterHistory) := by
      apply
        kept.guarded.step fd others (Stage.eq_of_holds old)
          (Stage.eq_of_holds new)
      · intro asked differs settled
        exact (same asked differs).settled settled
      · intro asked held differs _ keeps
        exact (same asked differs).keeps keeps
      · intro released
        exact restsHere (new.resolve_left released)
      · exact heldHere
    rw [← stages] at guarded
    exact guarded

/-! ## One step -/

/-- A stage change that no number is about. -/
theorem ReadKept.pass (kept : ReadKept (machine, history))
    (old : (machine.stages thread).fd = none) (new : stage.fd = none) :
    ReadKept (machine.setStage thread stage, history) where
  table := kept.table
  uses :=
    { used := kept.uses.used
      fresh := kept.uses.fresh
      apart := kept.uses.apart
      inOrder := kept.uses.inOrder }
  guarded := kept.guarded.pass (Stage.not_holds old) (Stage.not_holds new)

/-- A thread enters `close`, `dup2` or `dup3`. -/
theorem ReadKept.entersWith (kept : ReadKept (machine, history))
    (idle : machine.stages thread = .idle)
    (rests : AtRest Stage.Holds machine.stages fd)
    (either : stage = .dropping fd ∨ ∃ oldfd, stage = .replacing oldfd fd) :
    ReadKept (machine.setStage thread stage, history) := by
  have settled := kept.guarded.resting fd rests
  have isFd : stage.fd = some fd := by
    rcases either with rfl | ⟨oldfd, rfl⟩ <;> rfl
  apply
    kept.step machine history fd rfl (fun other _ => rests other)
      (Or.inr (by rw [idle]; rfl)) (Or.inl isFd) kept.table kept.uses
  · intro asked _
    exact ⟨rfl, rfl, rfl, fun _ _ => rfl⟩
  · intro free
    cases isFd.symm.trans free
  · intro _
    rcases either with rfl | ⟨oldfd, rfl⟩
    · exact settled
    · exact settled

/-- A `dup2` or `dup3` that fails leaves its number settled. -/
theorem ReadKept.failsReplacing (kept : ReadKept (machine, history))
    {oldfd : Int} (isReplacing : machine.stages thread = .replacing oldfd fd) :
    ReadKept (machine.setStage thread .idle, history) := by
  have isFd : (machine.stages thread).fd = some fd := by
    rw [isReplacing]
    rfl
  have settled := kept.guarded.held fd thread isFd
  rw [isReplacing] at settled
  apply
    kept.step machine history fd rfl (kept.others isFd) (Or.inl isFd)
      (Or.inr rfl) kept.table kept.uses
  · intro asked _
    exact ⟨rfl, rfl, rfl, fun _ _ => rfl⟩
  · intro _
    exact settled
  · nofun

/-- A number begins to name something. -/
theorem UsesApart.use (kept : UsesApart machine history) (fd : Int) :
    UsesApart (machine.use fd) history := by
  have either {asked : Int} {use : Nat}
      (named : (machine.use fd).uses asked = some use) :
      (asked = fd ∧ use = machine.nextUse) ∨
        machine.uses asked = some use := by
    have named : Function.update machine.uses fd _ asked = some use := named
    by_cases here : asked = fd
    · rw [here, Function.update_self] at named
      exact Or.inl ⟨here, (Option.some.inj named).symm⟩
    · rw [Function.update_of_ne here] at named
      exact Or.inr named
  constructor
  · intro asked use named
    show use < machine.nextUse + 1
    rcases either named with ⟨_, rfl⟩ | before
    · exact Nat.lt_succ_self _
    · exact Nat.lt_succ_of_lt (kept.used asked use before)
  · intro use later
    have later : machine.nextUse + 1 ≤ use := later
    apply kept.fresh use
    omega
  · intro first second use firstNamed secondNamed
    rcases either firstNamed with ⟨firstHere, rfl⟩ | firstBefore
    · rcases either secondNamed with ⟨secondHere, _⟩ | secondBefore
      · rw [firstHere, secondHere]
      · have earlier := kept.used second _ secondBefore
        omega
    · rcases either secondNamed with ⟨_, rfl⟩ | secondBefore
      · have earlier := kept.used first _ firstBefore
        omega
      · exact kept.apart first second use firstBefore secondBefore
  · intro asked use text named attached
    rcases either named with ⟨_, rfl⟩ | before
    · rw [kept.fresh _ (Nat.le_refl _)] at attached
      cases attached
    · exact kept.inOrder asked use text before attached

theorem UsesApart.unattached_use (kept : UsesApart machine history)
    (fd : Int) : Unattached (machine.use fd) history fd :=
  ⟨machine.nextUse, Function.update_self _ _ _,
    kept.fresh _ (Nat.le_refl _)⟩

theorem SameAt.use {asked : Int} (differs : asked ≠ fd) :
    SameAt (machine, history) (machine.use fd, history) asked :=
  ⟨rfl, Function.update_of_ne differs _ _, rfl, fun _ _ => rfl⟩

/-- A free number is settled with nothing in the table. -/
theorem ReadKept.missing_of_unused (kept : ReadKept (machine, history))
    (unused : machine.Unused fd) :
    fdMapStream fd machine.state.entries = none := by
  have settled := kept.guarded.resting fd unused.2.2
  rw [Settled, unread_of_free unused.2.1] at settled
  exact settled

/-- The kernel hands out a number, to an open or to a `dup`. -/
theorem ReadKept.handsOut (kept : ReadKept (machine, history))
    (old : (machine.stages thread).fd = none)
    (unused : machine.Unused fd)
    (either :
      stage = .idle ∨ ∃ request, stage = .attaching fd request) :
    ReadKept ((machine.use fd).setStage thread stage, history) := by
  have fresh := kept.uses.unattached_use fd
  have settled : Settled (machine.use fd) history fd := by
    rw [Settled, unread_of_unattached fresh]
    exact kept.missing_of_unused unused
  have new : stage.fd = some fd ∨ stage.fd = none := by
    rcases either with rfl | ⟨request, rfl⟩
    · exact Or.inr rfl
    · exact Or.inl rfl
  apply
    kept.step (machine.use fd) history fd rfl
      (fun other _ => unused.2.2 other) (Or.inr old) new kept.table
      (kept.uses.use fd)
  · intro asked differs
    exact .use differs
  · intro _
    exact settled
  · intro isFd
    rcases either with rfl | ⟨request, rfl⟩
    · cases isFd
    · exact ⟨settled, fresh⟩

/-- The kernel puts a description in the place of another. -/
theorem ReadKept.replaces (kept : ReadKept (machine, history))
    {oldfd : Int} (isReplacing : machine.stages thread = .replacing oldfd fd) :
    ReadKept ((machine.use fd).setStage thread (.replaced fd), history) := by
  have isFd : (machine.stages thread).fd = some fd := by
    rw [isReplacing]
    rfl
  apply
    kept.step (machine.use fd) history fd rfl (kept.others isFd)
      (Or.inl isFd) (Or.inl rfl) kept.table (kept.uses.use fd)
  · intro asked differs
    exact .use differs
  · nofun
  · intro _
    exact kept.uses.unattached_use fd

theorem UsesApart.free (kept : UsesApart machine history) (fd : Int) :
    UsesApart (machine.free fd) history := by
  have before {asked : Int} {use : Nat}
      (named : (machine.free fd).uses asked = some use) :
      machine.uses asked = some use := by
    have named : Function.update machine.uses fd none asked = some use :=
      named
    by_cases here : asked = fd
    · rw [here, Function.update_self] at named
      cases named
    · rwa [Function.update_of_ne here] at named
  constructor
  · intro asked use named
    exact kept.used asked use (before named)
  · exact kept.fresh
  · intro first second use firstNamed secondNamed
    exact
      kept.apart first second use (before firstNamed) (before secondNamed)
  · intro asked use text named
    exact kept.inOrder asked use text (before named)

/-- The kernel frees the number of a `close`. -/
theorem ReadKept.frees (kept : ReadKept (machine, history))
    (isClosing : machine.stages thread = .closing fd) :
    ReadKept ((machine.free fd).setStage thread .idle, history) := by
  have isFd : (machine.stages thread).fd = some fd := by
    rw [isClosing]
    rfl
  have dropped := kept.guarded.held fd thread isFd
  rw [isClosing] at dropped
  apply
    kept.step (machine.free fd) history fd rfl (kept.others isFd)
      (Or.inl isFd) (Or.inr rfl) kept.table (kept.uses.free fd)
  · intro asked differs
    exact ⟨rfl, Function.update_of_ne differs _ _, rfl, fun _ _ => rfl⟩
  · intro _
    have isFree : (machine.free fd).uses fd = none :=
      Function.update_self _ _ _
    exact dropped.trans (unread_of_free isFree).symm
  · nofun

/-- The table after an opening call has attached its text, or none. -/
theorem fdMapStream_attach {shim : Shim} {env : Env} {state : ShimState}
    (request : OpenRequest) (asked : Int) :
    fdMapStream asked (request.attach shim env fd state).entries =
      match request.attachedText shim env fd state with
      | some text =>
          if asked = fd then some (text, 0)
          else fdMapStream asked state.entries
      | none => fdMapStream asked state.entries := by
  unfold OpenRequest.attach OpenRequest.attachedText
  cases request.attaches with
  | none =>
      rfl
  | some flags =>
      exact fdMapStream_maybeAttachMeminfo asked

theorem tableKept_attach {shim : Shim} {env : Env} {state : ShimState}
    (kept : TableKept state.entries) (request : OpenRequest) :
    TableKept (request.attach shim env fd state).entries := by
  unfold OpenRequest.attach
  cases request.attaches with
  | none =>
      exact kept
  | some flags =>
      exact kept.maybeAttachMeminfo

theorem UsesApart.setState (kept : UsesApart machine history)
    (state : ShimState) : UsesApart (machine.setState state) history where
  used := kept.used
  fresh := kept.fresh
  apart := kept.apart
  inOrder := kept.inOrder

theorem UsesApart.attach (kept : UsesApart machine history) {use : Nat}
    (named : machine.uses fd = some use) (text : List UInt8)
    (state : ShimState) :
    UsesApart (machine.setState state) (history.attach use fd text) where
  used := kept.used
  fresh := by
    intro asked later
    have earlier := kept.used fd use named
    have later : machine.nextUse ≤ asked := later
    have differs : asked ≠ use := by omega
    exact (Function.update_of_ne differs _ _).trans (kept.fresh asked later)
  apart := kept.apart
  inOrder := by
    intro asked other bytes isNamed attached
    have isNamed : machine.uses asked = some other := isNamed
    by_cases here : asked = fd
    · have handed : (history.attach use fd text).handed asked = [] := by
        rw [here]
        exact Function.update_self _ _ _
      rw [handed]
      exact List.nil_prefix
    · have differs : other ≠ use := by
        rintro rfl
        exact here (kept.apart asked fd other isNamed named)
      have handed :
          (history.attach use fd text).handed asked =
            history.handed asked :=
        Function.update_of_ne here _ _
      have before : history.attached other = some bytes :=
        (Function.update_of_ne differs _ _).symm.trans attached
      rw [handed]
      exact kept.inOrder asked other bytes isNamed before

/-- Of a text that has just been attached nothing has been read. -/
theorem unread_attach {use : Nat} (named : machine.uses fd = some use)
    (text : List UInt8) (state : ShimState) :
    unread (machine.setState state) (history.attach use fd text) fd =
      some (text, 0) := by
  have present : (history.attach use fd text).attached use = some text :=
    Function.update_self _ _ _
  have nothingYet : (history.attach use fd text).handed fd = [] :=
    Function.update_self _ _ _
  unfold unread
  simp only [ReadMachine.setState, named, Option.bind_some, present,
    nothingYet, Option.map_some, List.length_nil]

/-- An open attaches its text, if it has one. -/
theorem ReadKept.attaches {shim : Shim} {env : Env} {request : OpenRequest}
    (kept : ReadKept (machine, history))
    (isAttaching : machine.stages thread = .attaching fd request) :
    ReadKept
      ((machine.setState
        (request.attach shim env fd machine.state)).setStage thread .idle,
        logRead shim machine (.update thread env) history) := by
  have isFd : (machine.stages thread).fd = some fd := by
    rw [isAttaching]
    rfl
  have before := kept.guarded.held fd thread isFd
  rw [isAttaching] at before
  obtain ⟨settled, use, named, _⟩ := before
  have named : machine.uses fd = some use := named
  have stream (asked : Int) :
      fdMapStream asked
          (request.attach shim env fd machine.state).entries =
        match request.attachedText shim env fd machine.state with
        | some text =>
            if asked = fd then some (text, 0)
            else fdMapStream asked machine.state.entries
        | none => fdMapStream asked machine.state.entries :=
    fdMapStream_attach request asked
  have table :
      TableKept (request.attach shim env fd machine.state).entries :=
    tableKept_attach kept.table request
  cases attached : request.attachedText shim env fd machine.state with
  | none =>
      simp only [attached] at stream
      have unlogged :
          logRead shim machine (.update thread env) history = history := by
        simp only [logRead, isAttaching, attached]
      rw [unlogged]
      apply
        kept.step
          (machine.setState (request.attach shim env fd machine.state))
          history fd rfl (kept.others isFd) (Or.inl isFd) (Or.inr rfl) table
          (kept.uses.setState _)
      · intro asked _
        exact ⟨stream asked, rfl, rfl, fun _ _ => rfl⟩
      · intro _
        exact (stream fd).trans settled
      · nofun
  | some text =>
      simp only [attached] at stream
      have logged :
          logRead shim machine (.update thread env) history =
            history.attach use fd text := by
        simp only [logRead, isAttaching, attached, named]
      rw [logged]
      apply
        kept.step
          (machine.setState (request.attach shim env fd machine.state))
          (history.attach use fd text) fd rfl (kept.others isFd)
          (Or.inl isFd) (Or.inr rfl) table (kept.uses.attach named text _)
      · intro asked differs
        refine
          ⟨(stream asked).trans (if_neg differs), rfl,
            Function.update_of_ne differs _ _, ?_⟩
        intro other isNamed
        apply Function.update_of_ne
        rintro rfl
        exact differs (kept.uses.apart asked fd other isNamed named)
      · intro _
        exact
          ((stream fd).trans (if_pos rfl)).trans
            (unread_attach named text _).symm
      · nofun

/-- The table without the entry of a number. -/
theorem fdMapStream_dropEntry (kept : ReadKept (machine, history))
    (fd asked : Int) :
    fdMapStream asked (machine.dropEntry fd).state.entries =
      if asked = fd then none
      else fdMapStream asked machine.state.entries :=
  fdMapStream_remove kept.table fd asked

/-- A `close` drops the entry of its number. -/
theorem ReadKept.drops (kept : ReadKept (machine, history))
    (isDropping : machine.stages thread = .dropping fd) :
    ReadKept
      ((machine.dropEntry fd).setStage thread (.closing fd), history) := by
  have isFd : (machine.stages thread).fd = some fd := by
    rw [isDropping]
    rfl
  have stream := fdMapStream_dropEntry kept fd
  apply
    kept.step (machine.dropEntry fd) history fd rfl (kept.others isFd)
      (Or.inl isFd) (Or.inl rfl) (kept.table.remove fd)
      (kept.uses.setState _)
  · intro asked differs
    exact ⟨(stream asked).trans (if_neg differs), rfl, rfl, fun _ _ => rfl⟩
  · nofun
  · intro _
    exact (stream fd).trans (if_pos rfl)

/-- A `dup2` or `dup3` drops the entry of the number that it replaced. -/
theorem ReadKept.dropsReplaced (kept : ReadKept (machine, history))
    (isReplaced : machine.stages thread = .replaced fd) :
    ReadKept ((machine.dropEntry fd).setStage thread .idle, history) := by
  have isFd : (machine.stages thread).fd = some fd := by
    rw [isReplaced]
    rfl
  have unattached := kept.guarded.held fd thread isFd
  rw [isReplaced] at unattached
  have stream := fdMapStream_dropEntry kept fd
  apply
    kept.step (machine.dropEntry fd) history fd rfl (kept.others isFd)
      (Or.inl isFd) (Or.inr rfl) (kept.table.remove fd)
      (kept.uses.setState _)
  · intro asked differs
    exact ⟨(stream asked).trans (if_neg differs), rfl, rfl, fun _ _ => rfl⟩
  · intro _
    exact
      ((stream fd).trans (if_pos rfl)).trans
        (unread_of_unattached unattached).symm
  · nofun

/-- Where the table has something for a number whose use has got a text, it
is what is unread of that. -/
theorem ReadKept.settled_of_attached (kept : ReadKept (machine, history))
    {use : Nat} {text : List UInt8} (named : machine.uses fd = some use)
    (attached : history.attached use = some text)
    (notClosing : ∀ thread, machine.stages thread ≠ .closing fd) :
    fdMapStream fd machine.state.entries =
      some (text, (history.handed fd).length) := by
  have wanted :
      unread machine history fd =
        some (text, (history.handed fd).length) := by
    rw [unread, named, Option.bind_some, attached, Option.map_some]
  have notUnattached : ¬ Unattached machine history fd := by
    rintro ⟨other, isNamed, none⟩
    cases named.symm.trans isNamed
    cases attached.symm.trans none
  rw [← wanted]
  by_cases rests : AtRest Stage.Holds machine.stages fd
  · exact kept.guarded.resting fd rests
  · obtain ⟨thread, holds⟩ := Classical.not_forall_not.mp rests
    have keeps := kept.guarded.held fd thread holds
    cases isStage : machine.stages thread with
    | attaching number request =>
        rw [isStage] at keeps
        exact keeps.1
    | dropping number =>
        rw [isStage] at keeps
        exact keeps
    | replacing oldfd newfd =>
        rw [isStage] at keeps
        exact keeps
    | closing number =>
        rw [isStage] at holds
        cases holds
        exact absurd isStage (notClosing thread)
    | replaced number =>
        rw [isStage] at keeps
        exact absurd keeps notUnattached
    | _ =>
        rw [isStage] at holds
        cases holds

theorem ReadKept.missing_of_closing (kept : ReadKept (machine, history))
    (isClosing : machine.stages thread = .closing fd) :
    fdMapStream fd machine.state.entries = none := by
  have isFd : (machine.stages thread).fd = some fd := by
    rw [isClosing]
    rfl
  have dropped := kept.guarded.held fd thread isFd
  rw [isClosing] at dropped
  exact dropped

/-- What a read that finds something has found, and what is left there. -/
theorem ReadMachine.take_eq_some {buffer : Bool} {count : Nat}
    {bytes : List UInt8}
    (taken : machine.take buffer fd count = some bytes) :
    (buffer = true ∨ count = 0) ∧ ∃ text offset,
      fdMapStream fd machine.state.entries = some (text, offset) ∧
        bytes = (text.drop offset).take count ∧
        ∀ asked,
          fdMapStream asked
              (rpsFdMapTakeRead buffer fd count
                machine.state.entries).2 =
            if asked = fd then some (text, offset + bytes.length)
            else fdMapStream asked machine.state.entries := by
  have usable : buffer = true ∨ count = 0 := by
    by_contra unusable
    rw [take, rpsFdMapTakeRead_of_unusable unusable] at taken
    cases taken
  have found := taken
  rw [take, rpsFdMapTakeRead_fst usable] at found
  obtain ⟨⟨text, offset⟩, present, rfl⟩ := Option.map_eq_some_iff.mp found
  refine ⟨usable, text, offset, present, rfl, ?_⟩
  intro asked
  rw [fdMapStream_takeRead usable, present, Option.map_some,
    List.length_take, List.length_drop]

theorem UsesApart.hand (kept : UsesApart machine history)
    {bytes : List UInt8} (state : ShimState)
    (next : ∀ use text, machine.uses fd = some use →
      history.attached use = some text →
        history.handed fd ++ bytes <+: text) :
    UsesApart (machine.setState state) (history.hand fd bytes) where
  used := kept.used
  fresh := kept.fresh
  apart := kept.apart
  inOrder := by
    intro asked use text named attached
    by_cases here : asked = fd
    · rw [here] at named ⊢
      have handed :
          (history.hand fd bytes).handed fd = history.handed fd ++ bytes :=
        Function.update_self _ _ _
      rw [handed]
      exact next use text named attached
    · have handed :
          (history.hand fd bytes).handed asked = history.handed asked :=
        Function.update_of_ne here _ _
      rw [handed]
      exact kept.inOrder asked use text named attached

/-- The next bytes of a text carry on what has been handed out of it. -/
theorem handed_append_prefix {handed text : List UInt8} {count : Nat}
    (inOrder : handed <+: text) :
    handed ++ (text.drop handed.length).take count <+: text := by
  obtain ⟨rest, rfl⟩ := inOrder
  rw [List.drop_left]
  exact (List.prefix_append_right_inj handed).mpr (List.take_prefix _ rest)

theorem Settled.hand {bytes text : List UInt8} {offset : Nat}
    {state : ShimState} (settled : Settled machine history fd)
    (present : fdMapStream fd machine.state.entries = some (text, offset))
    (left : fdMapStream fd state.entries =
      some (text, offset + bytes.length)) :
    Settled (machine.setState state) (history.hand fd bytes) fd := by
  rw [Settled, present] at settled
  obtain ⟨found, attached, same⟩ := Option.map_eq_some_iff.mp settled.symm
  simp only [Prod.mk.injEq] at same
  have handed :
      (history.hand fd bytes).handed fd = history.handed fd ++ bytes :=
    Function.update_self _ _ _
  have attachedAfter :
      ((machine.setState state).uses fd).bind
          (history.hand fd bytes).attached = some found :=
    attached
  have wanted :
      unread (machine.setState state) (history.hand fd bytes) fd =
        some (text, offset + bytes.length) := by
    rw [unread, attachedAfter, handed, Option.map_some, List.length_append,
      same.1, same.2]
  exact left.trans wanted.symm

theorem Stage.Keeps.hand {bytes text : List UInt8} {offset : Nat}
    {state : ShimState} {stage : Stage}
    (keeps : stage.Keeps machine history fd)
    (present : fdMapStream fd machine.state.entries = some (text, offset))
    (left : fdMapStream fd state.entries =
      some (text, offset + bytes.length)) :
    stage.Keeps (machine.setState state) (history.hand fd bytes) fd := by
  cases stage with
  | attaching number request =>
      exact ⟨keeps.1.hand present left, keeps.2⟩
  | dropping number =>
      exact Settled.hand keeps present left
  | replacing oldfd newfd =>
      exact Settled.hand keeps present left
  | closing number =>
      cases present.symm.trans keeps
  | replaced number =>
      exact keeps
  | _ =>
      trivial

/-- A read hands out the next bytes of what it finds. -/
theorem ReadKept.takeRead {shim : Shim}
    (kept : ReadKept (machine, history)) (thread : Fin threads)
    (buffer : Bool) (fd : Int) (count : Nat) :
    ReadKept
      (machine.takeRead buffer fd count,
        logRead shim machine (.read thread buffer fd count) history) := by
  rw [ReadMachine.takeRead]
  cases taken : machine.take buffer fd count with
  | none =>
      have unlogged :
          logRead shim machine (.read thread buffer fd count) history =
            history := by
        simp only [logRead, taken]
      rw [unlogged, rpsFdMapTakeRead_snd_of_none taken]
      exact kept
  | some bytes =>
      have logged :
          logRead shim machine (.read thread buffer fd count) history =
            history.hand fd bytes := by
        simp only [logRead, taken]
      obtain ⟨usable, text, offset, present, isNext, stream⟩ :=
        ReadMachine.take_eq_some taken
      have here := (stream fd).trans (if_pos rfl)
      have notClosing (other : Fin threads) :
          machine.stages other ≠ .closing fd := by
        intro isClosing
        have missing := kept.missing_of_closing isClosing
        cases present.symm.trans missing
      have same (asked : Int) (differs : asked ≠ fd) :
          SameAt (machine, history)
            (machine.setState
              { machine.state with
                entries :=
                  (rpsFdMapTakeRead buffer fd count
                    machine.state.entries).2 },
              history.hand fd bytes) asked :=
        ⟨(stream asked).trans (if_neg differs), rfl,
          Function.update_of_ne differs _ _, fun _ _ => rfl⟩
      rw [logged]
      refine
        ⟨kept.table.takeRead usable fd, kept.uses.hand _ ?_,
          kept.guarded.mono ?_ ?_⟩
      · intro use whole named attached
        have found := kept.settled_of_attached named attached notClosing
        cases present.symm.trans found
        rw [isNext]
        exact
          handed_append_prefix (kept.uses.inOrder fd use text named attached)
      · intro asked settled
        by_cases isFd : asked = fd
        · rw [isFd] at settled ⊢
          exact settled.hand present here
        · exact (same asked isFd).settled settled
      · intro asked stage _ keeps
        by_cases isFd : asked = fd
        · rw [isFd] at keeps ⊢
          exact keeps.hand present here
        · exact (same asked isFd).keeps keeps

/-- Every atomic step keeps everything. -/
theorem ReadKept.effect {shim : Shim} {later : ReadMachine threads}
    {label : ReadMicro threads} (kept : ReadKept (machine, history))
    (done : ReadEffect shim machine label later) :
    ReadKept (later, logRead shim machine label history) := by
  cases done with
  | enters thread wrapper stage idle free =>
      exact kept.pass (by rw [idle]; rfl) free
  | entersWith thread wrapper fd stage idle rests either =>
      exact kept.entersWith idle rests either
  | fails thread free =>
      exact kept.pass free rfl
  | failsReplacing thread oldfd newfd stage =>
      exact kept.failsReplacing stage
  | opens thread fd request stage unused =>
      exact
        kept.handsOut (by rw [stage]; rfl) unused (Or.inr ⟨request, rfl⟩)
  | copies thread oldfd fd stage unused =>
      exact kept.handsOut (by rw [stage]; rfl) unused (Or.inl rfl)
  | replaces thread oldfd newfd answer stage =>
      exact kept.replaces stage
  | frees thread answer fd stage =>
      exact kept.frees stage
  | attaches thread env fd request stage =>
      exact kept.attaches stage
  | drops thread env fd stage =>
      have unlogged :
          logRead shim machine (.update thread env) history = history := by
        simp only [logRead, stage]
      rw [unlogged]
      exact kept.drops stage
  | dropsReplaced thread env fd stage =>
      have unlogged :
          logRead shim machine (.update thread env) history = history := by
        simp only [logRead, stage]
      rw [unlogged]
      exact kept.dropsReplaced stage
  | reads thread buffer fd count stage idle free =>
      have taken :
          ReadKept
            (machine.takeRead buffer fd count,
              logRead shim machine (.read thread buffer fd count)
                history) :=
        kept.takeRead thread buffer fd count
      have stillIdle :
          ((machine.takeRead buffer fd count).stages thread).fd = none := by
        rw [show (machine.takeRead buffer fd count).stages thread = .idle
          from idle]
        rfl
      exact taken.pass stillIdle free
  | readsFile thread answer fd stage =>
      exact kept.pass (by rw [stage]; rfl) rfl

end Kept

/-! ## Runs -/

section Runs

variable {shim : Shim} {threads : Nat}

/-- What reads get, in a state of the machine. -/
structure ReadsTrue (current : ReadMachine threads × ReadHistory) :
    Prop where
  /-- a number that has got a text gives the next bytes of it, whichever
  threads read it, until a `close` drops its entry -/
  virtualised : ∀ fd use text buffer count,
    current.1.uses fd = some use → current.2.attached use = some text →
      (∀ thread, current.1.stages thread ≠ .closing fd) →
        (buffer = true ∨ count = 0) →
          current.1.take buffer fd count =
            some ((text.drop (current.2.handed fd).length).take count)
  /-- a read within a `close` goes on to the kernel -/
  closing : ∀ thread fd buffer count,
    current.1.stages thread = .closing fd →
      current.1.take buffer fd count = none
  /-- and so does one of a number that has got no text, once the `dup2` that
  put it there has dropped the entry of what it replaced -/
  others : ∀ fd buffer count,
    (current.1.uses fd).bind current.2.attached = none →
      (∀ thread, current.1.stages thread ≠ .replaced fd) →
        current.1.take buffer fd count = none
  /-- the bytes that were handed out are the beginning of the text -/
  inOrder : ∀ fd use text,
    current.1.uses fd = some use → current.2.attached use = some text →
      current.2.handed fd <+: text

theorem take_of_missing {machine : ReadMachine threads} {fd : Int}
    (missing : fdMapStream fd machine.state.entries = none)
    (buffer : Bool) (count : Nat) :
    machine.take buffer fd count = none := by
  by_cases usable : buffer = true ∨ count = 0
  · rw [ReadMachine.take, rpsFdMapTakeRead_fst usable, missing,
      Option.map_none]
  · rw [ReadMachine.take, rpsFdMapTakeRead_of_unusable usable]

/-- A number without a text has nothing in the table, unless a `dup2` is about
to drop it. -/
theorem ReadKept.missing_of_unattached
    {current : ReadMachine threads × ReadHistory}
    (kept : ReadKept current) {fd : Int}
    (none : (current.1.uses fd).bind current.2.attached = none)
    (notReplaced : ∀ thread, current.1.stages thread ≠ .replaced fd) :
    fdMapStream fd current.1.state.entries = Option.none := by
  have settledMissing (settled : Settled current.1 current.2 fd) :
      fdMapStream fd current.1.state.entries = Option.none := by
    rw [settled, unread, none, Option.map_none]
  by_cases rests : AtRest Stage.Holds current.1.stages fd
  · exact settledMissing (kept.guarded.resting fd rests)
  · obtain ⟨thread, holds⟩ := Classical.not_forall_not.mp rests
    have keeps := kept.guarded.held fd thread holds
    cases isStage : current.1.stages thread with
    | attaching number request =>
        rw [isStage] at keeps
        exact settledMissing keeps.1
    | dropping number =>
        rw [isStage] at keeps
        exact settledMissing keeps
    | replacing oldfd newfd =>
        rw [isStage] at keeps
        exact settledMissing keeps
    | closing number =>
        rw [isStage] at keeps
        exact keeps
    | replaced number =>
        rw [isStage] at holds
        cases holds
        exact absurd isStage (notReplaced thread)
    | _ =>
        rw [isStage] at holds
        cases holds

theorem ReadKept.readsTrue {current : ReadMachine threads × ReadHistory}
    (kept : ReadKept current) : ReadsTrue current where
  virtualised := by
    intro fd use text buffer count named attached notClosing usable
    have found := kept.settled_of_attached named attached notClosing
    rw [ReadMachine.take, rpsFdMapTakeRead_fst usable, found,
      Option.map_some]
  closing := by
    intro thread fd buffer count isClosing
    exact take_of_missing (kept.missing_of_closing isClosing) buffer count
  others := by
    intro fd buffer count none notReplaced
    exact
      take_of_missing (kept.missing_of_unattached none notReplaced) buffer
        count
  inOrder := kept.uses.inOrder

theorem readKept_initial :
    ReadKept (ReadMachine.initial threads, ReadHistory.initial) where
  table := tableKept_emptyEntries
  uses := ⟨nofun, fun _ _ => rfl, nofun, nofun⟩
  guarded :=
    { alone := nofun
      resting := by
        intro fd _
        exact fdMapStream_emptyEntries fd
      held := nofun }

/-- However any number of threads interleave in their wrappers: a number that
has got a text gives it from its beginning on, each byte once, whichever
threads read it.  Of the reads that look into the table from then on only those
within its own `close` go on to the real file, and only those within the `dup2`
that replaces a number see a text of before. -/
theorem readsTrue_of_run {labels : List (ReadMicro threads)}
    {finish : ReadMachine threads × ReadHistory}
    (run :
      runFrom (readStep shim)
          (ReadMachine.initial threads, ReadHistory.initial) labels =
        some finish) :
    ReadsTrue finish := by
  have keeps (before : ReadMachine threads × ReadHistory)
      (label : ReadMicro threads)
      (after : ReadMachine threads × ReadHistory) (kept : ReadKept before)
      (taken : readStep shim before label = some after) :
      ReadKept after := by
    obtain ⟨stepped, logged⟩ := withHistory_eq_some.mp taken
    obtain ⟨later, history⟩ := after
    simp only at stepped logged
    rw [logged]
    exact kept.effect (readEffect_of_step stepped)
  exact (invariant_of_every_run keeps readKept_initial run).readsTrue

end Runs

/-! ## Undisturbed wrappers -/

section Undisturbed

variable {shim : Shim} {threads : Nat} {machine : ReadMachine threads}
variable {state after : ShimState} {kernel later : Kernel}

/-- The machine between wrappers, as a sequential run has it. -/
structure Matches (machine : ReadMachine threads) (state : ShimState)
    (kernel : Kernel) : Prop where
  entries : machine.state.entries = state.entries
  depth : machine.state.depth = state.depth
  used : ∀ fd,
    (machine.uses fd).isSome = (kernel.descriptors fd).isSome
  idle : ∀ thread, machine.stages thread = .idle

/-- A step within the wrappers of the machine: no stream is closed, nothing is
closed behind the shim's back, and no open descriptor stays open when it is
closed. -/
def WithinWrappers (kernel : Kernel) : Action → Prop
  | .closeBehind _ | .call _ _ (.closedir _) => False
  | .call answer _ (.close fd) =>
      (kernel.descriptors fd).isSome → kernel.closes answer fd = true
  | .call _ _ _ => True

theorem entries_maybeAttachMeminfo_congr {env : Env} {fd : Int}
    {path : Option CString} {flags : UInt32} {other : ShimState}
    (entries : other.entries = state.entries)
    (depth : other.depth = state.depth) :
    (maybeAttachMeminfo shim env fd path flags other).entries =
      (maybeAttachMeminfo shim env fd path flags state).entries := by
  unfold maybeAttachMeminfo
  rw [entries, depth]
  split
  · exact entries
  · cases rpsGuardEnter state.depth with
    | none =>
        exact entries
    | some inside =>
        cases env.meminfo with
        | none =>
            rfl
        | some text =>
            rfl

theorem depth_attach {env : Env} {fd : Int} (request : OpenRequest) :
    (request.attach shim env fd state).depth = state.depth := by
  unfold OpenRequest.attach
  cases request.attaches with
  | none =>
      rfl
  | some flags =>
      exact depth_maybeAttachMeminfo

theorem entries_attach {env : Env} {fd : Int} {request : OpenRequest}
    {other : ShimState} (entries : other.entries = state.entries)
    (depth : other.depth = state.depth) :
    (request.attach shim env fd other).entries =
      (request.record shim env fd state).entries := by
  rw [OpenRequest.entries_record]
  unfold OpenRequest.attach
  cases request.attaches with
  | none =>
      exact entries
  | some flags =>
      exact entries_maybeAttachMeminfo_congr entries depth

/-- The machine after a thread has gone through a wrapper and is idle
again. -/
theorem Matches.through (matched : Matches machine state kernel)
    (thread : Fin threads) (finish : ReadMachine threads)
    (entries : finish.state.entries = after.entries)
    (depth : finish.state.depth = after.depth)
    (used : ∀ fd,
      (finish.uses fd).isSome = (later.descriptors fd).isSome)
    (stages :
      finish.stages = Function.update machine.stages thread .idle) :
    Matches finish after later where
  entries := entries
  depth := depth
  used := used
  idle := by
    intro other
    rw [stages, Function.update_apply]
    split
    · rfl
    · exact matched.idle other

theorem Matches.atRest (matched : Matches machine state kernel) (fd : Int) :
    AtRest Stage.Holds machine.stages fd := by
  intro thread holds
  rw [matched.idle thread] at holds
  cases holds

theorem Matches.unused (matched : Matches machine state kernel) {fd : Int}
    (valid : 0 ≤ fd) (free : kernel.descriptors fd = none) :
    machine.Unused fd := by
  refine ⟨valid, ?_, matched.atRest fd⟩
  have none := matched.used fd
  rw [free] at none
  simpa using none

theorem isSome_use {fd asked : Int} {file : OpenFile}
    (matched : Matches machine state kernel) :
    ((machine.use fd).uses asked).isSome =
      (if asked = fd then some file
        else kernel.descriptors asked).isSome := by
  show (Function.update machine.uses fd _ asked).isSome = _
  rw [Function.update_apply]
  split
  · rfl
  · exact matched.used asked

theorem isSome_free {fd asked : Int}
    (matched : Matches machine state kernel) :
    ((machine.free fd).uses asked).isSome =
      (if asked = fd then none
        else kernel.descriptors asked).isSome := by
  show (Function.update machine.uses fd none asked).isSome = _
  rw [Function.update_apply]
  split
  · rfl
  · exact matched.used asked

/-- An opening wrapper in which nothing else happens. -/
theorem Matches.opened (matched : Matches machine state kernel)
    (thread : Fin threads) (request : OpenRequest) {env : Env}
    {file : OpenFile} (valid : 0 ≤ file.first)
    (free : kernel.descriptors file.first = none)
    (descriptors : ∀ asked, later.descriptors asked =
      if asked = file.first then some file
      else kernel.descriptors asked) :
    ∃ labels finish,
      runFrom (readMicroStep shim) machine labels = some finish ∧
        Matches finish (request.record shim env file.first state) later := by
  refine
    ⟨[.enter thread (.opening request), .kernel thread (some file.first),
        .update thread env],
      ((machine.use file.first).setState
        (request.attach shim env file.first machine.state)).setStage thread
          .idle, ?_, ?_⟩
  · have unused := matched.unused valid free
    have unusedNow :
        (machine.setStage thread (.opening request)).Unused file.first := by
      refine ⟨valid, unused.2.1, ?_⟩
      intro other holds
      simp only [ReadMachine.setStage, Function.update_apply] at holds
      split at holds
      · cases holds
      · exact unused.2.2 other holds
    simp only [runFrom, readMicroStep, ReadMachine.enter,
      matched.idle thread, Option.bind_some, ReadMachine.kernelCall,
      ReadMachine.setStage, Function.update_self, ReadMachine.update,
      ReadMachine.use, ReadMachine.setState, Function.update_idem]
    simp only [ReadMachine.setStage] at unusedNow
    simp [unusedNow]
  · apply matched.through thread
    · exact entries_attach matched.entries matched.depth
    · rw [OpenRequest.depth_record]
      exact (depth_attach request).trans matched.depth
    · intro asked
      rw [descriptors]
      exact isSome_use matched
    · rfl

/-- A `dup`, or an `fcntl` that duplicates. -/
theorem Matches.copied (matched : Matches machine state kernel)
    (thread : Fin threads) {env : Env} {oldfd newfd : Int}
    {file : OpenFile} (named : kernel.descriptors oldfd = some file)
    (valid : 0 ≤ newfd) (free : kernel.descriptors newfd = none) :
    ∃ labels finish,
      runFrom (readMicroStep shim) machine labels = some finish ∧
        Matches finish
          { state with
            nodes := rpsGpuFdMapCopy env.nodeMalloc oldfd newfd state.nodes }
          (kernel.assign newfd file) := by
  refine
    ⟨[.enter thread (.dup oldfd), .kernel thread (some newfd)],
      (machine.use newfd).setStage thread .idle, ?_, ?_⟩
  · have unused := matched.unused valid free
    have isOpen : (machine.uses oldfd).isSome := by
      rw [matched.used, named]
      rfl
    have unusedNow :
        (machine.setStage thread (.copying oldfd)).Unused newfd := by
      refine ⟨valid, unused.2.1, ?_⟩
      intro other holds
      simp only [ReadMachine.setStage, Function.update_apply] at holds
      split at holds
      · cases holds
      · exact unused.2.2 other holds
    simp only [ReadMachine.setStage] at unusedNow
    simp [runFrom, readMicroStep, ReadMachine.enter, matched.idle thread,
      ReadMachine.kernelCall, ReadMachine.setStage, ReadMachine.use, isOpen,
      unusedNow]
  · apply matched.through thread
    · exact matched.entries
    · exact matched.depth
    · intro asked
      rw [Kernel.descriptors_assign]
      exact isSome_use matched
    · rfl

/-- A `dup2` or `dup3` that replaces its number. -/
theorem Matches.replaced (matched : Matches machine state kernel)
    (thread : Fin threads) {env : Env} {answer : Answer}
    {oldfd newfd : Int} {file : OpenFile}
    (named : kernel.descriptors oldfd = some file)
    (succeeds : kernel.replaces answer oldfd newfd = true) :
    ∃ labels finish,
      runFrom (readMicroStep shim) machine labels = some finish ∧
        Matches finish (Preload.replaceFd env oldfd newfd state)
          (kernel.assign newfd file) := by
  refine
    ⟨[.enter thread (.replace oldfd newfd), .kernel thread (some newfd),
        .update thread env],
      ((machine.use newfd).dropEntry newfd).setStage thread .idle, ?_, ?_⟩
  · have isOpen : (machine.uses oldfd).isSome := by
      rw [matched.used, named]
      rfl
    simp only [Kernel.replaces, Bool.and_eq_true, decide_eq_true_eq]
      at succeeds
    obtain ⟨⟨_, valid⟩, differs⟩ := succeeds
    have rests := matched.atRest newfd
    simp [runFrom, readMicroStep, ReadMachine.enter, matched.idle thread,
      rests, ReadMachine.kernelCall, ReadMachine.setStage, isOpen, valid,
      differs, ReadMachine.update, ReadMachine.use, ReadMachine.dropEntry,
      ReadMachine.setState]
  · apply matched.through thread
    · exact congrArg (rpsFdMapRemove newfd) matched.entries
    · exact matched.depth
    · intro asked
      rw [Kernel.descriptors_assign]
      exact isSome_use matched
    · rfl

/-- A `close`. -/
theorem Matches.closed (matched : Matches machine state kernel)
    (thread : Fin threads) (env : Env) {fd : Int}
    (descriptors : ∀ asked, later.descriptors asked =
      if asked = fd then none else kernel.descriptors asked) :
    ∃ labels finish,
      runFrom (readMicroStep shim) machine labels = some finish ∧
        Matches finish (dropFd fd state) later := by
  refine
    ⟨[.enter thread (.close fd), .update thread env, .kernel thread none],
      ((machine.free fd).dropEntry fd).setStage thread .idle, ?_, ?_⟩
  · have rests := matched.atRest fd
    simp [runFrom, readMicroStep, ReadMachine.enter, matched.idle thread,
      rests, ReadMachine.kernelCall, ReadMachine.setStage,
      ReadMachine.update, ReadMachine.free, ReadMachine.dropEntry,
      ReadMachine.setState]
  · apply matched.through thread
    · exact congrArg (rpsFdMapRemove fd) matched.entries
    · exact matched.depth
    · intro asked
      rw [descriptors]
      exact isSome_free matched
    · rfl

/-- Nothing happens that the machine could see. -/
theorem Matches.unseen (matched : Matches machine state kernel)
    (entries : after.entries = state.entries)
    (depth : after.depth = state.depth)
    (descriptors : later.descriptors = kernel.descriptors) :
    Matches machine after later where
  entries := matched.entries.trans entries.symm
  depth := matched.depth.trans depth.symm
  used := by
    intro fd
    rw [descriptors]
    exact matched.used fd
  idle := matched.idle

/-- A read, which goes to the kernel when it finds nothing. -/
theorem Matches.reads (matched : Matches machine state kernel)
    (thread : Fin threads) (fd : Int) (buffer : Bool) (count : Nat)
    (entries :
      after.entries = (rpsFdMapTakeRead buffer fd count state.entries).2)
    (depth : after.depth = state.depth) :
    ∃ labels finish,
      runFrom (readMicroStep shim) machine labels = some finish ∧
        Matches finish after kernel := by
  have idle := matched.idle thread
  refine
    ⟨if (machine.take buffer fd count).isSome then
        [.read thread buffer fd count]
      else [.read thread buffer fd count, .kernel thread none],
      (machine.takeRead buffer fd count).setStage thread .idle, ?_, ?_⟩
  · by_cases found : (machine.take buffer fd count).isSome = true
    · simp [found, runFrom, readMicroStep, ReadMachine.read, idle]
    · simp [found, runFrom, readMicroStep, ReadMachine.read, idle,
        ReadMachine.kernelCall, ReadMachine.setStage]
  · apply matched.through thread
    · rw [entries, ← matched.entries]
      rfl
    · rw [depth]
      exact matched.depth
    · exact matched.used
    · rfl

/-- Every step of a sequential run is a run of one thread through a
wrapper. -/
theorem Matches.effect (matched : Matches machine state kernel)
    (thread : Fin threads) {action : Action}
    (within : WithinWrappers kernel action)
    (done : Effect shim state kernel action after later) :
    ∃ labels finish,
      runFrom (readMicroStep shim) machine labels = some finish ∧
        Matches finish after later := by
  cases done with
  | idle same quiet =>
      exact
        ⟨[], machine, rfl, matched.unseen same.entries same.depth rfl⟩
  | read fd buffer count nodes entries depth =>
      exact matched.reads thread fd buffer count entries depth
  | opened request file asked goesOn found stream =>
      exact
        matched.opened thread request (Kernel.nonneg_of_lookup found)
          (Kernel.free_of_lookup found)
          fun _ => Kernel.descriptors_install
  | openedDir request file asked goesOn found stream directory unused =>
      exact
        matched.opened thread request (Kernel.nonneg_of_lookup found)
          (Kernel.free_of_lookup found)
          fun _ => Kernel.descriptors_install
  | copied oldfd newfd file asked named free =>
      exact
        matched.copied thread named (Kernel.nonneg_of_freeFd free)
          (Kernel.unused_of_freeFd free)
  | replaced oldfd newfd file asked named replaces =>
      exact matched.replaced thread named replaces
  | closed fd closes =>
      exact
        matched.closed thread containerEnv
          fun _ => Kernel.descriptors_release
  | dropped fd fails =>
      apply matched.closed thread containerEnv
      intro asked
      split
      · rename_i here
        rw [here]
        apply Option.eq_none_iff_forall_ne_some.mpr
        intro file named
        have isOpen : (kernel.descriptors fd).isSome := by
          rw [named]
          rfl
        exact fails (within isOpen)
      · rfl
  | streamed fd file named directory unused =>
      exact ⟨[], machine, rfl, matched.unseen rfl rfl rfl⟩
  | closedDir dir fd stream wasOpen =>
      cases within
  | freedDir dir fd stream fails =>
      cases within
  | closedBehind fd =>
      cases within

theorem matches_initial (cwd : List CString) :
    Matches (ReadMachine.initial threads) (Process.start cwd).state
      (Process.start cwd).world where
  entries := rfl
  depth := rfl
  used := fun _ => rfl
  idle := fun _ => rfl

/-- A sequential run is a run of the machine with any one of its threads at
work: the table is the same at its end. -/
theorem exists_microRun_of_run (thread : Fin threads)
    {actions : List Action} {process finish : Process Kernel}
    (matched : Matches machine process.state process.world)
    (within :
      StepsMeet (sequentialStep shim)
        (fun before action _ => WithinWrappers before.world action)
        process actions)
    (run : runFrom (sequentialStep shim) process actions = some finish) :
    ∃ labels reached,
      runFrom (readMicroStep shim) machine labels = some reached ∧
        Matches reached finish.state finish.world := by
  induction actions generalizing process machine with
  | nil =>
      cases run
      exact ⟨[], machine, rfl, matched⟩
  | cons action rest inductionHypothesis =>
      cases taken : sequentialStep shim process action with
      | none =>
          simp [runFrom, taken] at run
      | some next =>
          have later :
              runFrom (sequentialStep shim) next rest = some finish := by
            simpa [runFrom, taken] using run
          obtain ⟨here, rests⟩ := within next taken
          obtain ⟨first, middle, firstRun, matchedNext⟩ :=
            matched.effect thread here (effect_of_step taken)
          obtain ⟨second, reached, secondRun, matchedLast⟩ :=
            inductionHypothesis matchedNext rests later
          refine ⟨first ++ second, reached, ?_, matchedLast⟩
          rw [runFrom_append firstRun]
          exact secondRun

end Undisturbed

/-! ## Three threads -/

/-- An open of `/proc/meminfo` for reading. -/
def meminfoRequest : OpenRequest where
  dirfd := atFdcwd
  path := some meminfoPath
  attaches := some 0
  tracks := some (some meminfoPath)
  stream := false

/-- The first thread opens it, and the two others read; a look into the table
that comes before the text goes on to the file. -/
def readByOthers : List (ReadMicro 3) :=
  [.enter 0 (.opening meminfoRequest),
    .kernel 0 (some 3),
    .read 1 true 3 4,
    .update 0 containerEnv,
    .kernel 1 none,
    .read 1 true 3 4,
    .read 2 true 3 5]

theorem readsTrue_readByOthers :
    ∃ finish,
      runFrom (readStep containerShim)
          (ReadMachine.initial 3, ReadHistory.initial) readByOthers =
        some finish ∧
        finish.2.handed 3 = cstr "MemTotal:" ∧ ReadsTrue finish := by
  have ran :
      (runFrom (readStep containerShim)
          (ReadMachine.initial 3, ReadHistory.initial) readByOthers).map
            (fun finish => finish.2.handed 3) =
        some (cstr "MemTotal:") := by
    decide
  obtain ⟨finish, run, handed⟩ := Option.map_eq_some_iff.mp ran
  exact ⟨finish, run, handed, readsTrue_of_run run⟩

end RunpodShim

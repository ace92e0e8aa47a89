import Mathlib.Logic.Function.Basic
import RunpodShim.Library.StepRuns
import RunpodShim.Preload.OpenEffects

/-!
# Streams over whole runs

Runs of `fopen` and `fopen64`, in which every call of the kernel and of the
library may fail and `write` may stop anywhere.  A stream shows the meminfo
text or the file from disk, one of them whole, and no descriptor is left
behind.
-/

namespace RunpodShim

open StepRuns

/-- What an open file holds, and where the next read or write begins. -/
structure HeldFile where
  bytes : List UInt8
  offset : Nat
deriving DecidableEq, Repr

/-- What the kernel or the library decides in one call: the number that a
success hands out or counts, below zero for a failure with `errno`. -/
structure Decision where
  number : Int
  errno : Int
deriving DecidableEq, Repr

/-- The open descriptors, the descriptor under each open `FILE`, what is on
disk, and the decisions to come. -/
structure StreamWorld where
  files : Int → Option HeldFile
  streams : Nat → Option Int
  disk : Option CString → List UInt8
  decisions : Nat → Decision

namespace StreamWorld

/-- The decision of this call. -/
def now (world : StreamWorld) : Decision :=
  world.decisions 0

/-- The world behind that decision. -/
def next (world : StreamWorld) : StreamWorld :=
  { world with decisions := fun call => world.decisions (call + 1) }

def setFile (fd : Int) (file : Option HeldFile) (world : StreamWorld) :
    StreamWorld :=
  { world with files := Function.update world.files fd file }

def setStream (stream : Nat) (fd : Option Int) (world : StreamWorld) :
    StreamWorld :=
  { world with streams := Function.update world.streams stream fd }

@[simp]
theorem files_setFile {world : StreamWorld} {fd other : Int}
    {file : Option HeldFile} :
    (world.setFile fd file).files other =
      if other = fd then file else world.files other :=
  Function.update_apply _ _ _ _

@[simp]
theorem streams_setFile {world : StreamWorld} {fd : Int}
    {file : Option HeldFile} :
    (world.setFile fd file).streams = world.streams :=
  rfl

@[simp]
theorem files_setStream {world : StreamWorld} {stream : Nat}
    {fd : Option Int} :
    (world.setStream stream fd).files = world.files :=
  rfl

@[simp]
theorem streams_setStream {world : StreamWorld} {stream other : Nat}
    {fd : Option Int} :
    (world.setStream stream fd).streams other =
      if other = stream then fd else world.streams other :=
  Function.update_apply _ _ _ _

def failed (world : StreamWorld) : Ret Int :=
  ⟨-1, world.now.errno⟩

/-- `memfd_create`. -/
def memfdCreate (world : StreamWorld) : Ret Int × StreamWorld :=
  let fd := world.now.number
  if 0 ≤ fd ∧ world.files fd = none then
    (⟨fd, 0⟩, world.next.setFile fd (some ⟨[], 0⟩))
  else (world.failed, world.next)

/-- `write`, which may stop after any number of the bytes. -/
def write (fd : Int) (given : List UInt8) (world : StreamWorld) :
    Ret Int × StreamWorld :=
  match world.files fd with
  | none => (world.failed, world.next)
  | some file =>
      if world.now.number < 0 then (world.failed, world.next)
      else
        let put := given.take world.now.number.toNat
        (⟨put.length, 0⟩,
          world.next.setFile fd
            (some
              { bytes :=
                  file.bytes.take file.offset ++ put ++
                    file.bytes.drop (file.offset + put.length)
                offset := file.offset + put.length }))

/-- `lseek` to the beginning. -/
def lseek (fd : Int) (world : StreamWorld) : Ret Int × StreamWorld :=
  match world.files fd with
  | none => (world.failed, world.next)
  | some file =>
      if world.now.number < 0 then (world.failed, world.next)
      else (⟨0, 0⟩, world.next.setFile fd (some { file with offset := 0 }))

/-- `fdopen`. -/
def fdopen (fd : Int) (world : StreamWorld) : Ret Pointer × StreamWorld :=
  let stream := world.now.number.toNat
  if 0 ≤ world.now.number ∧ world.streams stream = none ∧
      (world.files fd).isSome then
    (⟨some stream, 0⟩, world.next.setStream stream (some fd))
  else (⟨none, world.now.errno⟩, world.next)

/-- `close`, which closes also when it reports a failure. -/
def close (fd : Int) (world : StreamWorld) : Ret Int × StreamWorld :=
  (if world.now.number < 0 then world.failed else ⟨0, 0⟩,
    world.next.setFile fd none)

/-- `fopen`: a free descriptor, and a stream over it. -/
def fopen (path : Option CString) (world : StreamWorld) :
    Ret Pointer × StreamWorld :=
  let fd := world.now.number
  let stream := world.next.now.number.toNat
  let later := world.next.next
  if 0 ≤ fd ∧ world.files fd = none ∧ world.streams stream = none then
    (⟨some stream, 0⟩,
      (later.setFile fd (some ⟨world.disk path, 0⟩)).setStream stream
        (some fd))
  else (⟨none, world.now.errno⟩, later)

/-- `fclose`. -/
def fclose (stream : Nat) (world : StreamWorld) : StreamWorld :=
  match world.streams stream with
  | none => world
  | some fd => (world.setFile fd none).setStream stream none

/-- `fread` of at most `count` bytes, and the bytes. -/
def fread (stream count : Nat) (world : StreamWorld) :
    List UInt8 × StreamWorld :=
  match world.streams stream with
  | none => ([], world)
  | some fd =>
      match world.files fd with
      | none => ([], world)
      | some file =>
          let out := (file.bytes.drop file.offset).take count
          (out,
            world.setFile fd
              (some { file with offset := file.offset + out.length }))

/-- The real functions that `fopen_common` calls. -/
def real : Real StreamWorld :=
  { constantReal StreamWorld (-1) with
    fopen := fun path _ => fopen path
    fopen64 := fun path _ => fopen path
    fdopen := fun fd _ => fdopen fd
    close := close
    sysMemfdCreate := fun _ _ => memfdCreate
    sysWrite := write
    sysLseek := lseek }

/-- Both worlds have the same files, streams and disk. -/
structure Same (first second : StreamWorld) : Prop where
  files : second.files = first.files
  streams : second.streams = first.streams
  disk : second.disk = first.disk

/-- The worlds differ in what one descriptor names. -/
structure Holds (fd : Int) (file : HeldFile) (first second : StreamWorld) :
    Prop where
  files : second.files = Function.update first.files fd (some file)
  streams : second.streams = first.streams
  disk : second.disk = first.disk

end StreamWorld

namespace StreamWorld

variable {fd : Int} {file second : HeldFile}
variable {first world later : StreamWorld}

/-- What one descriptor names changes once more. -/
theorem Holds.setFile (holds : Holds fd file first world) :
    Holds fd second first (world.next.setFile fd (some second)) where
  files := by
    show Function.update world.files fd (some second) = _
    rw [holds.files, Function.update_idem]
  streams := holds.streams
  disk := holds.disk

theorem Holds.next (holds : Holds fd file first world) :
    Holds fd file first world.next :=
  ⟨holds.files, holds.streams, holds.disk⟩

theorem Holds.found (holds : Holds fd file first world) :
    world.files fd = some file := by
  rw [holds.files, Function.update_self]

end StreamWorld

/-! ## The loop of `write_all_fd` -/

section Writing

open StreamWorld

variable {fd : Int} {first world later : StreamWorld}
variable {written rest : List UInt8}

/-- One `write` behind what has been written: it fails, or it puts a part of
what it is given there. -/
theorem write_of_held (given : List UInt8)
    (holds : Holds fd ⟨written, written.length⟩ first world) :
    (world.now.number < 0 ∧
        world.write fd given = (world.failed, world.next)) ∨
      ∃ put later, put <+: given ∧
        world.write fd given = (⟨put.length, 0⟩, later) ∧
        later.decisions = world.next.decisions ∧
        Holds fd ⟨written ++ put, (written ++ put).length⟩ first later := by
  by_cases fails : world.now.number < 0
  · refine Or.inl ⟨fails, ?_⟩
    rw [StreamWorld.write, holds.found]
    exact if_pos fails
  · let put := given.take world.now.number.toNat
    refine
      Or.inr
        ⟨put,
          world.next.setFile fd
            (some ⟨written ++ put, (written ++ put).length⟩),
          given.take_prefix _, ?_, rfl, holds.setFile⟩
    rw [StreamWorld.write, holds.found]
    simp only [if_neg fails, List.take_length]
    rw [List.drop_of_length_le (Nat.le_add_right _ _), List.append_nil,
      List.length_append]

/-- However far each `write` comes: what has been written is the text from its
beginning on, and all of it after a success. -/
theorem writeAllFd_of_held {rounds : Nat} {done : Bool}
    (holds : Holds fd ⟨written, written.length⟩ first world)
    (ran : writeAllFd real fd rounds rest world = some (done, later)) :
    ∃ put, put <+: rest ∧ (done = true → put = rest) ∧
      Holds fd ⟨written ++ put, (written ++ put).length⟩ first later := by
  induction rounds generalizing written rest world with
  | zero =>
      cases ran
  | succ rounds inductionHypothesis =>
      have stopped (world : StreamWorld)
          (holds : Holds fd ⟨written, written.length⟩ first world)
          (ends : done = true → rest = []) (same : world = later) :
          ∃ put, put <+: rest ∧ (done = true → put = rest) ∧
            Holds fd ⟨written ++ put, (written ++ put).length⟩ first
              later := by
        refine ⟨[], List.nil_prefix, fun isDone => (ends isDone).symm, ?_⟩
        rw [List.append_nil, ← same]
        exact holds
      have failure (failed : false = true) : rest = [] :=
        absurd failed Bool.false_ne_true
      rw [writeAllFd] at ran
      split at ran
      · rename_i empty
        cases ran
        exact stopped _ holds (fun _ => empty) rfl
      · rcases write_of_held rest holds with
          ⟨_, fails⟩ | ⟨put, reached, isPut, puts, _, holdsMore⟩
        · have called :
              real.sysWrite fd rest world = (world.failed, world.next) :=
            fails
          simp only [called, StreamWorld.failed] at ran
          split at ran
          · split at ran
            · exact inductionHypothesis holds.next ran
            · cases ran
              exact stopped _ holds.next failure rfl
          · rename_i notNegative
            exact absurd (Int.negSucc_lt_zero 0) notNegative
        · have called :
              real.sysWrite fd rest world = (⟨put.length, 0⟩, reached) :=
            puts
          simp only [called] at ran
          rw [if_neg (by omega)] at ran
          split at ran
          · rename_i nothing
            cases ran
            have isEmpty : put = [] := by
              apply List.length_eq_zero_iff.mp
              omega
            rw [isEmpty, List.append_nil] at holdsMore
            exact stopped _ holdsMore failure rfl
          · rw [Int.toNat_natCast] at ran
            obtain ⟨more, isMore, whole, reachedMore⟩ :=
              inductionHypothesis holdsMore ran
            have split : put ++ rest.drop put.length = rest := by
              obtain ⟨beyond, same⟩ := isPut
              rw [← same, List.drop_left]
            refine ⟨put ++ more, ?_, ?_, ?_⟩
            · rw [← split]
              exact List.prefix_append_right_inj put |>.mpr isMore
            · intro isDone
              rw [whole isDone, split]
            · rw [← List.append_assoc]
              exact reachedMore

end Writing

/-! ## The stream over an anonymous file -/

section Streams

open StreamWorld

variable {world later : StreamWorld} {fd : Int} {file : HeldFile}
variable {text : List UInt8} {ret : Ret Pointer}

/-- A stream is opened over a descriptor of its own, at the beginning of what
that holds. -/
structure OpensOver (text : List UInt8) (stream : Nat)
    (before after : StreamWorld) : Prop where
  opens : ∃ fd, 0 ≤ fd ∧ before.files fd = none ∧
    after.files = Function.update before.files fd (some ⟨text, 0⟩) ∧
    after.streams = Function.update before.streams stream (some fd)
  unused : before.streams stream = none
  disk : after.disk = before.disk

/-- Closing the descriptor takes the world back. -/
theorem StreamWorld.Holds.close (holds : Holds fd file world later)
    (unused : world.files fd = none) : Same world (later.close fd).2 where
  files := by
    show Function.update later.files fd none = world.files
    rw [holds.files, Function.update_idem, ← unused,
      Function.update_eq_self]
  streams := holds.streams
  disk := holds.disk

/-- `memfd_create` fails, or makes an empty file under a free number. -/
theorem memfdCreate_cases (world : StreamWorld) :
    world.memfdCreate = (world.failed, world.next) ∨
      ∃ fd later, 0 ≤ fd ∧ world.files fd = none ∧
        world.memfdCreate = (⟨fd, 0⟩, later) ∧
        later.decisions = world.next.decisions ∧
        Holds fd ⟨[], 0⟩ world later := by
  simp only [memfdCreate]
  split
  · rename_i free
    exact Or.inr ⟨_, _, free.1, free.2, rfl, rfl, rfl, rfl, rfl⟩
  · exact Or.inl rfl

/-- `lseek` fails, or goes back to the beginning. -/
theorem lseek_of_held (holds : Holds fd file world later) :
    (later.lseek fd).1.value ≠ 0 ∧
        Holds fd file world (later.lseek fd).2 ∨
      (later.lseek fd).1.value = 0 ∧
        Holds fd ⟨file.bytes, 0⟩ world (later.lseek fd).2 := by
  unfold lseek
  rw [holds.found]
  simp only
  split
  · exact Or.inl ⟨Int.negSucc_ne_zero 0, holds.next⟩
  · exact Or.inr ⟨rfl, holds.setFile⟩

/-- What `memfd_stream` has when it looks for a stream: one over the text, or
none. -/
structure Opened (fd : Int) (text : List UInt8) (world : StreamWorld)
    (opened : Ret Pointer × StreamWorld) : Prop where
  opens : ∀ stream, opened.1.value = some stream →
    OpensOver text stream world opened.2
  held : opened.1.value = none → ∃ file, Holds fd file world opened.2

theorem Opened.of_none (holds : Holds fd file world later)
    (errno : Int) : Opened fd text world (⟨none, errno⟩, later) where
  opens := nofun
  held := fun _ => ⟨file, holds⟩

/-- `fdopen` opens a stream over what the descriptor names, or none. -/
theorem fdopen_of_held (valid : 0 ≤ fd) (unused : world.files fd = none)
    (holds : Holds fd ⟨text, 0⟩ world later) :
    Opened fd text world (later.fdopen fd) := by
  simp only [fdopen]
  split
  · rename_i free
    refine ⟨?_, nofun⟩
    intro stream opened
    cases opened
    refine ⟨⟨fd, valid, unused, holds.files, ?_⟩, ?_, holds.disk⟩
    · rw [← holds.streams]
      rfl
    · rw [← holds.streams]
      exact free.2.1
  · exact .of_none holds.next _

/-- The end of `memfd_stream`: without a stream the descriptor is closed. -/
theorem Opened.closes {opened : Ret Pointer × StreamWorld}
    (unused : world.files fd = none) (reached : Opened fd text world opened)
    (whole :
      (if opened.1.value = none then
          let closed := real.close fd opened.2
          (⟨none, closed.1.errno⟩, closed.2)
        else opened) = (ret, later)) :
    (∃ stream, ret.value = some stream ∧
        OpensOver text stream world later) ∨
      ret.value = none ∧ Same world later := by
  cases found : opened.1.value with
  | none =>
      obtain ⟨file, holds⟩ := reached.held found
      rw [if_pos found] at whole
      cases whole
      exact Or.inr ⟨rfl, holds.close unused⟩
  | some stream =>
      have isSome : opened.1.value ≠ none := by
        rw [found]
        exact Option.some_ne_none stream
      rw [if_neg isSome] at whole
      cases whole
      exact Or.inl ⟨stream, found, reached.opens stream found⟩

/-- `memfd_stream` gives a stream over the whole text, or nothing and leaves
nothing behind. -/
theorem memfdStream_streamWorld {rounds : Nat}
    (built : memfdStream real rounds text world = some (ret, later)) :
    (∃ stream, ret.value = some stream ∧
        OpensOver text stream world later) ∨
      ret.value = none ∧ Same world later := by
  unfold memfdStream at built
  rcases memfdCreate_cases world with
    fails | ⟨fd, empty, valid, unused, made, _, holds⟩
  · have created :
        real.sysMemfdCreate (cstr "runpod-shim-meminfo") 1 world =
          (world.failed, world.next) :=
      fails
    have isNegative : (-1 : Int) < 0 := Int.negSucc_lt_zero 0
    simp only [created, StreamWorld.failed] at built
    rw [if_pos isNegative] at built
    cases built
    exact Or.inr ⟨rfl, rfl, rfl, rfl⟩
  · have created :
        real.sysMemfdCreate (cstr "runpod-shim-meminfo") 1 world =
          (⟨fd, 0⟩, empty) :=
      made
    simp only [created] at built
    rw [if_neg (by omega)] at built
    obtain ⟨⟨done, filled⟩, ran, whole⟩ := Option.map_eq_some_iff.mp built
    obtain ⟨put, _, isWhole, holdsPut⟩ := writeAllFd_of_held holds ran
    refine Opened.closes unused ?_ whole
    cases done with
    | false =>
        exact .of_none holdsPut 0
    | true =>
        rw [List.nil_append, isWhole rfl] at holdsPut
        show Opened fd text world
          (if (filled.lseek fd).1.value = 0 then
              (filled.lseek fd).2.fdopen fd
            else (⟨none, _⟩, (filled.lseek fd).2))
        rcases lseek_of_held holdsPut with
          ⟨elsewhere, holdsSought⟩ | ⟨atStart, holdsSought⟩
        · rw [if_neg elsewhere]
          exact .of_none holdsSought _
        · rw [if_pos atStart]
          exact fdopen_of_held valid unused holdsSought

/-- `fopen` opens a stream over what is on disk, or nothing. -/
theorem fopen_cases (path : Option CString) (world : StreamWorld) :
    (∃ stream, (world.fopen path).1.value = some stream ∧
        OpensOver (world.disk path) stream world (world.fopen path).2) ∨
      (world.fopen path).1.value = none ∧
        Same world (world.fopen path).2 := by
  simp only [fopen]
  split
  · rename_i free
    exact
      Or.inl
        ⟨_, rfl, ⟨_, free.1, free.2.1, rfl, rfl⟩, free.2.2, rfl⟩
  · exact Or.inr ⟨rfl, rfl, rfl, rfl⟩

theorem OpensOver.of_same {middle : StreamWorld} {stream : Nat}
    (same : Same world middle) (opens : OpensOver text stream middle later) :
    OpensOver text stream world later := by
  obtain ⟨⟨fd, valid, unused, files, streams⟩, free, disk⟩ := opens
  rw [same.files] at unused files
  rw [same.streams] at streams free
  rw [same.disk] at disk
  exact ⟨⟨fd, valid, unused, files, streams⟩, free, disk⟩

end Streams

/-! ## `fopen` -/

/-- The texts that a stream opened by this call may show: the file on disk,
and for a virtualised open what was built in its place. -/
def offeredTexts (shim : Shim) (env : Env) (path mode : Option CString)
    (process : Process StreamWorld) : List (List UInt8) :=
  process.world.disk path ::
    if meminfoModeIsReadOnly mode = true ∧
        shouldVirtualizeMeminfo shim.config path 0 = true ∧
          (rpsGuardEnter process.state.depth).isSome then
      env.meminfo.toList
    else []

section Opens

open StreamWorld

variable {shim : Shim} {env : Env} {path mode : Option CString}
variable {rounds : Nat} {large : Bool} {state : ShimState}
variable {world : StreamWorld} {ret : Ret Pointer}
variable {after : Process StreamWorld}

/-- What a call of `fopen_common` has done. -/
structure FopenDone (shim : Shim) (env : Env) (path mode : Option CString)
    (before : Process StreamWorld) (ret : Ret Pointer)
    (after : Process StreamWorld) : Prop where
  state : after.state = before.state
  world :
    (∃ stream text, ret.value = some stream ∧
        text ∈ offeredTexts shim env path mode before ∧
        OpensOver text stream before.world after.world) ∨
      ret.value = none ∧ Same before.world after.world

/-- The real call, from a world with the same files. -/
theorem fopenDone_passed {middle : StreamWorld} (large : Bool)
    (same : Same world middle) :
    FopenDone shim env path mode ⟨state, world⟩
      (realFopenCommon StreamWorld.real path mode large middle).1
      ⟨state, (realFopenCommon StreamWorld.real path mode large middle).2⟩
    where
  state := rfl
  world := by
    have isFopen :
        realFopenCommon StreamWorld.real path mode large middle =
          middle.fopen path := by
      cases large <;> rfl
    rw [isFopen]
    rcases fopen_cases path middle with
      ⟨stream, opened, opens⟩ | ⟨none, unchanged⟩
    · refine Or.inl ⟨stream, _, opened, ?_, opens.of_same same⟩
      rw [same.disk]
      exact List.mem_cons_self
    · refine Or.inr ⟨none, ?_, ?_, ?_⟩
      · exact unchanged.files.trans same.files
      · exact unchanged.streams.trans same.streams
      · exact unchanged.disk.trans same.disk

/-- `fopen` gives a stream over one of the texts, or none, and nothing else
changes. -/
theorem fopenDone_of_fopenCommon
    (ran :
      fopenCommon shim StreamWorld.real env rounds path mode large
        ⟨state, world⟩ = some (ret, after)) :
    FopenDone shim env path mode ⟨state, world⟩ ret after := by
  have passes {middle : StreamWorld} (same : Same world middle) :
      FopenDone shim env path mode ⟨state, world⟩
        (realFopenCommon StreamWorld.real path mode large middle).1
        ⟨state,
          (realFopenCommon StreamWorld.real path mode large middle).2⟩ :=
    fopenDone_passed large same
  unfold fopenCommon at ran
  split at ran
  · cases ran
    exact passes ⟨rfl, rfl, rfl⟩
  · rename_i virtualises
    rw [not_or, not_not, not_not] at virtualises
    split at ran
    · cases ran
      exact passes ⟨rfl, rfl, rfl⟩
    · rename_i inside entered
      split at ran
      · cases ran
        exact passes ⟨rfl, rfl, rfl⟩
      · rename_i text built
        obtain ⟨⟨made, reached⟩, stream, whole⟩ :=
          Option.map_eq_some_iff.mp ran
        have isOffered :
            text ∈ offeredTexts shim env path mode ⟨state, world⟩ := by
          have enters : (rpsGuardEnter state.depth).isSome := by
            rw [entered]
            rfl
          apply List.mem_cons_of_mem
          rw [if_pos ⟨virtualises.1, virtualises.2, enters⟩, built]
          exact List.mem_cons_self
        rcases memfdStream_streamWorld stream with
          ⟨opened, isOpened, opens⟩ | ⟨none, same⟩
        · have isSome : made.value ≠ Option.none := by
            rw [isOpened]
            exact Option.some_ne_none opened
          simp only [if_neg isSome] at whole
          cases whole
          exact ⟨rfl, Or.inl ⟨opened, text, isOpened, isOffered, opens⟩⟩
        · simp only [if_pos none] at whole
          cases whole
          exact passes same

end Opens

/-! ## The loop ends -/

section Ends

open StreamWorld

variable {fd : Int} {first world : StreamWorld}
variable {written rest : List UInt8}

/-- The call is interrupted by a signal. -/
def Decision.Interrupts (decision : Decision) : Prop :=
  decision.number < 0 ∧ decision.errno = eintr

/-- Interruptions do not go on for ever. -/
def StreamWorld.Fair (world : StreamWorld) : Prop :=
  ∀ call, ∃ later, call ≤ later ∧ ¬ (world.decisions later).Interrupts

theorem StreamWorld.Fair.next (fair : world.Fair) : world.next.Fair := by
  intro call
  obtain ⟨later, reached, goesOn⟩ := fair (call + 1)
  cases later with
  | zero =>
      omega
  | succ before =>
      exact ⟨before, by omega, goesOn⟩

theorem StreamWorld.Fair.of_eq {later : StreamWorld} (fair : world.Fair)
    (same : later.decisions = world.next.decisions) : later.Fair := by
  intro call
  rw [same]
  exact fair.next call

/-- A `write` that is not interrupted ends the loop or leaves less to do. -/
theorem exists_writeAllFd_of_not_interrupts
    (holds : Holds fd ⟨written, written.length⟩ first world)
    (goesOn : ¬ world.now.Interrupts)
    (shorter : ∀ put later, put <+: rest → put ≠ [] →
      later.decisions = world.next.decisions →
        Holds fd ⟨written ++ put, (written ++ put).length⟩ first later →
          ∃ rounds,
            (writeAllFd real fd rounds (rest.drop put.length)
              later).isSome) :
    ∃ rounds, (writeAllFd real fd rounds rest world).isSome := by
  by_cases empty : rest = []
  · refine ⟨1, ?_⟩
    rw [writeAllFd, if_pos empty]
    rfl
  · rcases write_of_held rest holds with
      ⟨fails, called⟩ | ⟨put, later, isPut, called, decisions, holdsMore⟩
    · refine ⟨1, ?_⟩
      have written :
          real.sysWrite fd rest world = (world.failed, world.next) :=
        called
      have isNegative : (-1 : Int) < 0 := Int.negSucc_lt_zero 0
      have notInterrupted : ¬ world.now.errno = eintr :=
        fun isInterrupt => goesOn ⟨fails, isInterrupt⟩
      rw [writeAllFd, if_neg empty]
      simp only [written, StreamWorld.failed]
      rw [if_pos isNegative, if_neg notInterrupted]
      rfl
    · have written :
          real.sysWrite fd rest world = (⟨put.length, 0⟩, later) :=
        called
      by_cases nothing : put = []
      · refine ⟨1, ?_⟩
        rw [writeAllFd, if_neg empty]
        simp only [written, nothing]
        rfl
      · obtain ⟨rounds, ends⟩ :=
          shorter put later isPut nothing decisions holdsMore
        refine ⟨rounds + 1, ?_⟩
        have some := List.length_pos_iff.mpr nothing
        rw [writeAllFd, if_neg empty]
        simp only [written]
        rw [if_neg (by omega), if_neg (by omega), Int.toNat_natCast]
        exact ends

/-- An interrupted `write` is made again. -/
theorem writeAllFd_of_interrupts (empty : rest ≠ [])
    (holds : Holds fd ⟨written, written.length⟩ first world)
    (interrupted : world.now.Interrupts) (rounds : Nat) :
    writeAllFd real fd (rounds + 1) rest world =
      writeAllFd real fd rounds rest world.next := by
  have called :
      real.sysWrite fd rest world = (world.failed, world.next) := by
    show world.write fd rest = _
    rw [StreamWorld.write, holds.found]
    exact if_pos interrupted.1
  have isNegative : (-1 : Int) < 0 := Int.negSucc_lt_zero 0
  rw [writeAllFd, if_neg empty]
  simp only [called, StreamWorld.failed]
  rw [if_pos isNegative, if_pos interrupted.2]

/-- `write_all_fd` ends if interruptions do. -/
theorem exists_writeAllFd
    (holds : Holds fd ⟨written, written.length⟩ first world)
    (fair : world.Fair) :
    ∃ rounds, (writeAllFd real fd rounds rest world).isSome := by
  induction size : rest.length using Nat.strong_induction_on
    generalizing rest written world with
  | _ bound inductionHypothesis =>
      -- up to the first `write` that is not interrupted nothing changes
      obtain ⟨call, -, goesOn⟩ := fair 0
      have lands {world : StreamWorld}
          (holds : Holds fd ⟨written, written.length⟩ first world)
          (fair : world.Fair) (goesOn : ¬ world.now.Interrupts) :
          ∃ rounds, (writeAllFd real fd rounds rest world).isSome := by
        apply exists_writeAllFd_of_not_interrupts holds goesOn
        intro put later isPut some decisions holdsMore
        have more := List.length_pos_iff.mpr some
        have enough := isPut.length_le
        have less : (rest.drop put.length).length < bound := by
          rw [List.length_drop]
          omega
        exact
          inductionHypothesis _ less holdsMore (fair.of_eq decisions) rfl
      induction call generalizing world with
      | zero =>
          exact lands holds fair goesOn
      | succ call waits =>
          by_cases empty : rest = []
          · refine ⟨1, ?_⟩
            rw [writeAllFd, if_pos empty]
            rfl
          · by_cases interrupted : world.now.Interrupts
            · obtain ⟨rounds, ends⟩ := waits holds.next fair.next goesOn
              refine ⟨rounds + 1, ?_⟩
              rw [writeAllFd_of_interrupts empty holds interrupted]
              exact ends
            · exact lands holds fair interrupted

/-- `fopen` returns if interruptions end. -/
theorem exists_fopenCommon (shim : Shim) (env : Env)
    (path mode : Option CString) (large : Bool)
    (process : Process StreamWorld) (fair : process.world.Fair) :
    ∃ rounds,
      (fopenCommon shim real env rounds path mode large process).isSome := by
  unfold fopenCommon
  split
  · exact ⟨0, rfl⟩
  · split
    · exact ⟨0, rfl⟩
    · split
      · exact ⟨0, rfl⟩
      · rename_i text _
        simp only [Option.isSome_map]
        unfold memfdStream
        rcases memfdCreate_cases process.world with
          fails | ⟨fd, empty, valid, unused, made, decisions, holds⟩
        · have created :
              real.sysMemfdCreate (cstr "runpod-shim-meminfo") 1
                  process.world =
                (process.world.failed, process.world.next) :=
            fails
          have isNegative : (-1 : Int) < 0 := Int.negSucc_lt_zero 0
          refine ⟨0, ?_⟩
          simp only [created, StreamWorld.failed]
          rw [if_pos isNegative]
          rfl
        · have created :
              real.sysMemfdCreate (cstr "runpod-shim-meminfo") 1
                process.world = (⟨fd, 0⟩, empty) :=
            made
          obtain ⟨rounds, ends⟩ :=
            exists_writeAllFd holds (fair.of_eq decisions)
          refine ⟨rounds, ?_⟩
          simp only [created]
          rw [if_neg (by omega), Option.isSome_map]
          exact ends

end Ends

/-! ## Runs -/

/-- A call of the program: `fopen` or `fopen64` through the shim, or a
function of the library on a stream. -/
inductive StreamAction where
  | fopen (env : Env) (rounds : Nat) (large : Bool)
      (path mode : Option CString)
  | fread (stream count : Nat)
  | fclose (stream : Nat)

def streamProcessStep (shim : Shim) (process : Process StreamWorld) :
    StreamAction → Option (Process StreamWorld)
  | .fopen env rounds large path mode =>
      let called :=
        if large then
          Preload.fopen64 shim StreamWorld.real env rounds path mode process
        else
          Preload.fopen shim StreamWorld.real env rounds path mode process
      called.map Prod.snd
  | .fread stream count =>
      some
        { process with world := (process.world.fread stream count).2 }
  | .fclose stream =>
      some { process with world := process.world.fclose stream }

/-- For each stream the texts that it could show when it was opened, and what
has been read from it since. -/
structure StreamHistory where
  offered : Nat → List (List UInt8)
  received : Nat → List UInt8

def StreamHistory.initial : StreamHistory where
  offered := fun _ => []
  received := fun _ => []

def offeredBy (shim : Shim) (process : Process StreamWorld) :
    StreamAction → List (List UInt8)
  | .fopen env _ _ path mode => offeredTexts shim env path mode process
  | _ => []

def logStreamRead (world : StreamWorld) (received : Nat → List UInt8) :
    StreamAction → Nat → List UInt8
  | .fread stream count =>
      Function.update received stream
        (received stream ++ (world.fread stream count).1)
  | _ => received

/-- The system with its history. -/
def streamStep (shim : Shim) :
    Process StreamWorld × StreamHistory → StreamAction →
      Option (Process StreamWorld × StreamHistory) :=
  withHistory (streamProcessStep shim) fun before action after history =>
    { offered :=
        atNew before.world.streams after.world.streams
          (offeredBy shim before action) history.offered
      received :=
        atNew before.world.streams after.world.streams []
          (logStreamRead before.world history.received action) }

/-- Every open descriptor is that of one stream, and every stream has an open
descriptor, which holds one of the texts that were offered; what has been read
is what stands before the offset. -/
structure ReadsWhole (world : StreamWorld)
    (offered : Nat → List (List UInt8)) (received : Nat → List UInt8) :
    Prop where
  alone : ∀ first second fd, world.streams first = some fd →
    world.streams second = some fd → first = second
  owned : ∀ fd, world.files fd ≠ none →
    ∃ stream, world.streams stream = some fd
  whole : ∀ stream fd, world.streams stream = some fd →
    ∃ file, world.files fd = some file ∧
      file.bytes ∈ offered stream ∧
      received stream ++ file.bytes.drop file.offset = file.bytes

section Runs

open StreamWorld

variable {shim : Shim} {world later : StreamWorld}
variable {offered : Nat → List (List UInt8)}
variable {received : Nat → List UInt8} {stream : Nat}

/-- A step that opens and closes nothing and reads nothing. -/
theorem ReadsWhole.of_same (holds : ReadsWhole world offered received)
    (same : Same world later) : ReadsWhole later offered received where
  alone := by
    rw [same.streams]
    exact holds.alone
  owned := by
    rw [same.streams, same.files]
    exact holds.owned
  whole := by
    rw [same.streams, same.files]
    exact holds.whole

theorem ReadsWhole.opens (holds : ReadsWhole world offered received)
    {text : List UInt8} {texts : List (List UInt8)} (isText : text ∈ texts)
    (opens : OpensOver text stream world later) :
    ReadsWhole later (atNew world.streams later.streams texts offered)
      (atNew world.streams later.streams [] received) := by
  obtain ⟨⟨fd, _, free, files, streams⟩, unused, _⟩ := opens
  have opened : later.streams stream = some fd := by
    rw [streams, Function.update_self]
  have others {other : Nat} (differs : other ≠ stream) :
      later.streams other = world.streams other := by
    rw [streams, Function.update_of_ne differs]
  have otherFd {other : Nat} {number : Int}
      (names : world.streams other = some number) : number ≠ fd := by
    intro same
    obtain ⟨file, held, _⟩ := holds.whole other number names
    rw [same, free] at held
    cases held
  constructor
  · intro first second number firstNames secondNames
    by_cases isFirst : first = stream
    · by_cases isSecond : second = stream
      · rw [isFirst, isSecond]
      · rw [isFirst, opened] at firstNames
        rw [others isSecond] at secondNames
        exact
          absurd (Option.some.inj firstNames).symm (otherFd secondNames)
    · rw [others isFirst] at firstNames
      by_cases isSecond : second = stream
      · rw [isSecond, opened] at secondNames
        exact
          absurd (Option.some.inj secondNames).symm (otherFd firstNames)
      · rw [others isSecond] at secondNames
        exact holds.alone first second number firstNames secondNames
  · intro number isOpen
    by_cases same : number = fd
    · exact ⟨stream, by rw [same, opened]⟩
    · rw [files, Function.update_of_ne same] at isOpen
      obtain ⟨other, names⟩ := holds.owned number isOpen
      refine ⟨other, ?_⟩
      rw [others _, names]
      intro isNew
      rw [isNew, unused] at names
      cases names
  · intro other number names
    by_cases isNew : other = stream
    · rw [isNew] at names ⊢
      have isOpen : later.streams stream ≠ none := by
        rw [opened]
        exact Option.some_ne_none fd
      rw [opened] at names
      cases names
      refine ⟨⟨text, 0⟩, ?_, ?_, ?_⟩
      · rw [files, Function.update_self]
      · rw [atNew_of_none unused isOpen]
        exact isText
      · rw [atNew_of_none unused isOpen]
        rfl
    · rw [others isNew] at names
      obtain ⟨file, held, isOffered, read⟩ :=
        holds.whole other number names
      refine ⟨file, ?_, ?_, ?_⟩
      · rw [files, Function.update_of_ne (otherFd names)]
        exact held
      · rw [atNew_of_eq (others isNew)]
        exact isOffered
      · rw [atNew_of_eq (others isNew)]
        exact read

theorem ReadsWhole.fread (holds : ReadsWhole world offered received)
    (stream count : Nat) :
    ReadsWhole (world.fread stream count).2 offered
      (Function.update received stream
        (received stream ++ (world.fread stream count).1)) := by
  cases names : world.streams stream with
  | none =>
      have nothing : world.fread stream count = ([], world) := by
        rw [StreamWorld.fread, names]
      rw [nothing, List.append_nil, Function.update_eq_self]
      exact holds
  | some fd =>
      obtain ⟨file, held, isOffered, read⟩ := holds.whole stream fd names
      let out := (file.bytes.drop file.offset).take count
      have called :
          world.fread stream count =
            (out,
              world.setFile fd
                (some { file with offset := file.offset + out.length })) := by
        rw [StreamWorld.fread, names]
        simp only [held]
        rfl
      have rest :
          out ++ file.bytes.drop (file.offset + out.length) =
            file.bytes.drop file.offset := by
        rw [← List.drop_drop]
        exact List.prefix_iff_eq_append.mp (List.take_prefix count _)
      rw [called]
      constructor
      · exact holds.alone
      · intro number isOpen
        rw [files_setFile] at isOpen
        by_cases same : number = fd
        · rw [same]
          exact ⟨stream, names⟩
        · rw [if_neg same] at isOpen
          exact holds.owned number isOpen
      · intro other number otherNames
        rw [streams_setFile] at otherNames
        rw [files_setFile]
        by_cases same : other = stream
        · rw [same] at otherNames ⊢
          have sameFd : number = fd :=
            Option.some.inj (otherNames.symm.trans names)
          rw [if_pos sameFd, Function.update_self]
          refine ⟨_, rfl, isOffered, ?_⟩
          rw [List.append_assoc, rest]
          exact read
        · have otherFd : number ≠ fd := by
            intro sameFd
            rw [sameFd] at otherNames
            exact same (holds.alone other stream fd otherNames names)
          rw [if_neg otherFd, Function.update_of_ne same]
          exact holds.whole other number otherNames

theorem ReadsWhole.fclose (holds : ReadsWhole world offered received)
    (stream : Nat) :
    ReadsWhole (world.fclose stream) offered received := by
  cases names : world.streams stream with
  | none =>
      have nothing : world.fclose stream = world := by
        rw [StreamWorld.fclose, names]
      rw [nothing]
      exact holds
  | some fd =>
      have closed :
          world.fclose stream =
            (world.setFile fd none).setStream stream none := by
        rw [StreamWorld.fclose, names]
      have stays {other : Nat} {number : Int}
          (later : (world.fclose stream).streams other = some number) :
          other ≠ stream ∧ world.streams other = some number := by
        rw [closed, streams_setStream, streams_setFile] at later
        split at later
        · cases later
        · rename_i differs
          exact ⟨differs, later⟩
      constructor
      · intro first second number firstNames secondNames
        exact
          holds.alone first second number (stays firstNames).2
            (stays secondNames).2
      · intro number isOpen
        rw [closed, files_setStream, files_setFile] at isOpen
        split at isOpen
        · cases isOpen rfl
        · rename_i otherFd
          obtain ⟨other, otherNames⟩ := holds.owned number isOpen
          refine ⟨other, ?_⟩
          have differs : other ≠ stream := by
            intro same
            rw [same, names] at otherNames
            exact otherFd (Option.some.inj otherNames).symm
          rw [closed, streams_setStream, if_neg differs]
          exact otherNames
      · intro other number otherNames
        obtain ⟨differs, otherNames⟩ := stays otherNames
        have otherFd : number ≠ fd := by
          intro sameFd
          rw [sameFd] at otherNames
          exact differs (holds.alone other stream fd otherNames names)
        rw [closed, files_setStream, files_setFile, if_neg otherFd]
        exact holds.whole other number otherNames

/-- What holds along every run. -/
structure StreamsRead (current : Process StreamWorld × StreamHistory) :
    Prop where
  state : current.1.state = .initial
  reads : ReadsWhole current.1.world current.2.offered current.2.received

theorem StreamsRead.step
    {before after : Process StreamWorld × StreamHistory}
    {action : StreamAction} (holds : StreamsRead before)
    (taken : streamStep shim before action = some after) :
    StreamsRead after := by
  obtain ⟨stepped, recorded⟩ := withHistory_eq_some.mp taken
  obtain ⟨finish, history⟩ := after
  simp only at stepped recorded
  subst recorded
  cases action with
  | fopen env rounds large path mode =>
      have called :
          ∃ ret,
            fopenCommon shim StreamWorld.real env rounds path mode large
              before.1 = some (ret, finish) := by
        cases large with
        | false =>
            obtain ⟨⟨ret, _⟩, opened, rfl⟩ :=
              Option.map_eq_some_iff.mp stepped
            exact ⟨ret, opened⟩
        | true =>
            obtain ⟨⟨ret, _⟩, opened, rfl⟩ :=
              Option.map_eq_some_iff.mp stepped
            exact ⟨ret, opened⟩
      obtain ⟨ret, opened⟩ := called
      have done := fopenDone_of_fopenCommon opened
      refine ⟨done.state.trans holds.state, ?_⟩
      rcases done.world with
        ⟨stream, text, _, isOffered, opens⟩ | ⟨_, same⟩
      · exact holds.reads.opens isOffered opens
      · simp only [same.streams, atNew_self]
        exact holds.reads.of_same same
  | fread stream count =>
      cases stepped
      have sameStreams :
          (before.1.world.fread stream count).2.streams =
            before.1.world.streams := by
        unfold StreamWorld.fread
        split
        · rfl
        · split <;> rfl
      refine ⟨holds.state, ?_⟩
      simp only [sameStreams, atNew_self]
      exact holds.reads.fread stream count
  | fclose stream =>
      cases stepped
      have noNew (other : Nat)
          (wasFree : before.1.world.streams other = none) :
          (before.1.world.fclose stream).streams other = none := by
        unfold StreamWorld.fclose
        split
        · exact wasFree
        · rw [streams_setStream, streams_setFile, wasFree]
          exact ite_self none
      refine ⟨holds.state, ?_⟩
      simp only [atNew_of_no_new noNew]
      exact holds.reads.fclose stream

/-- After any run of `fopen`, `fopen64`, `fread` and `fclose`, whatever failed
in it: the variables of the shim are as they were, every open descriptor is
that of one open stream, and what has been read from a stream is, with what is
left, one whole text that its open could show.  While interruptions end, the
next open returns. -/
theorem streamsRead_of_run {disk : Option CString → List UInt8}
    {decisions : Nat → Decision} {actions : List StreamAction}
    {finish : Process StreamWorld × StreamHistory}
    (run :
      runFrom (streamStep shim)
          (⟨.initial, ⟨fun _ => none, fun _ => none, disk, decisions⟩⟩,
            .initial) actions = some finish) :
    finish.1.state = .initial ∧
      (∀ fd, finish.1.world.files fd ≠ none →
        ∃! stream, finish.1.world.streams stream = some fd) ∧
      (∀ stream fd, finish.1.world.streams stream = some fd →
        ∃ text, text ∈ finish.2.offered stream ∧
          ∀ count, text.length ≤ count →
            finish.2.received stream ++
              (finish.1.world.fread stream count).1 = text) ∧
      (finish.1.world.Fair → ∀ env large path mode, ∃ rounds,
        (streamStep shim finish
          (.fopen env rounds large path mode)).isSome) := by
  have start :
      StreamsRead
        (⟨.initial, ⟨fun _ => none, fun _ => none, disk, decisions⟩⟩,
          .initial) :=
    ⟨rfl, nofun, fun _ isOpen => absurd rfl isOpen, nofun⟩
  have keeps (before : Process StreamWorld × StreamHistory)
      (action : StreamAction) (after : Process StreamWorld × StreamHistory)
      (kept : StreamsRead before)
      (taken : streamStep shim before action = some after) :
      StreamsRead after :=
    kept.step taken
  have holds := invariant_of_every_run keeps start run
  refine ⟨holds.state, ?_, ?_, ?_⟩
  · intro fd isOpen
    obtain ⟨stream, names⟩ := holds.reads.owned fd isOpen
    refine ⟨stream, names, ?_⟩
    intro other otherNames
    exact holds.reads.alone other stream fd otherNames names
  · intro stream fd names
    obtain ⟨file, held, isOffered, read⟩ :=
      holds.reads.whole stream fd names
    refine ⟨file.bytes, isOffered, ?_⟩
    intro count enough
    have all : (file.bytes.drop file.offset).length ≤ count := by
      rw [List.length_drop]
      omega
    rw [StreamWorld.fread, names]
    simp only [held]
    rw [List.take_of_length_le all]
    exact read
  · intro fair env large path mode
    obtain ⟨rounds, returns⟩ :=
      exists_fopenCommon shim env path mode large finish.1 fair
    refine ⟨rounds, ?_⟩
    rw [streamStep, withHistory, Option.isSome_map]
    cases large with
    | false =>
        simp only [streamProcessStep, Option.isSome_map]
        exact returns
    | true =>
        simp only [streamProcessStep, Option.isSome_map]
        exact returns

end Runs

/-- `memfd_create` gives 3, the first `write` is interrupted and the second
stops after five bytes. -/
def interruptedDecisions : Nat → Decision
  | 1 => ⟨-1, eintr⟩
  | 2 => ⟨5, 0⟩
  | 3 => ⟨100, 0⟩
  | _ => ⟨3, 0⟩

/-- Open `/proc/meminfo` and read nine bytes. -/
def readMeminfoStream : List StreamAction :=
  [.fopen containerEnv 9 false (some meminfoPath) (some (cstr "r")),
    .fread 3 9]

/-- The rest of the text comes next. -/
theorem streamsRead_readMeminfoStream :
    ∃ finish,
      runFrom (streamStep containerShim)
          (⟨.initial,
            ⟨fun _ => none, fun _ => none, fun _ => [],
              interruptedDecisions⟩⟩, .initial)
          readMeminfoStream = some finish ∧
        finish.2.received 3 = cstr "MemTotal:" ∧
        (finish.1.world.fread 3 100).1 = cstr " 1 kB" := by
  have ran :
      (runFrom (streamStep containerShim)
          (⟨.initial,
            ⟨fun _ => none, fun _ => none, fun _ => [],
              interruptedDecisions⟩⟩, .initial)
          readMeminfoStream).map (fun finish =>
            (finish.2.received 3, finish.2.offered 3,
              finish.1.world.streams 3)) =
        some
          (cstr "MemTotal:", [[], cstr "MemTotal: 1 kB"], some 3) := by
    decide
  obtain ⟨finish, run, shows⟩ := Option.map_eq_some_iff.mp ran
  simp only [Prod.mk.injEq] at shows
  obtain ⟨received, offered, names⟩ := shows
  obtain ⟨text, isOffered, whole⟩ :=
    (streamsRead_of_run run).2.2.1 3 3 names
  rw [offered] at isOffered
  rw [received] at whole
  refine ⟨finish, run, received, ?_⟩
  rcases List.mem_cons.mp isOffered with isEmpty | isText
  · rw [isEmpty] at whole
    cases whole 100 (Nat.zero_le 100)
  · rw [List.mem_singleton.mp isText] at whole
    exact List.append_cancel_left (whole 100 (by decide))

end RunpodShim

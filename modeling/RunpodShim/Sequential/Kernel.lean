import Mathlib.Logic.Function.Basic
import RunpodShim.Preload.Call

/-!
# A kernel for sequential runs

Descriptors, open file descriptions and directory streams.  Every description
has a lexical path.  What the kernel is free to decide is in an `Answer`; an
answer that is not possible is a failure.
-/

namespace RunpodShim

open LexicalPath

/-- An open file description. -/
structure OpenFile where
  id : Nat
  /-- the number it was first handed out under -/
  first : Int
  names : List CString
  directory : Bool
deriving DecidableEq, Repr

/-- The kernel and the directory streams of the C library. -/
structure Kernel where
  cwd : List CString
  descriptors : Int → Option OpenFile
  /-- the descriptor of each open `DIR` -/
  streams : Nat → Option Int
  nextId : Nat

/-- What the kernel decides in one call: the number that a successful call
hands out, the address of a new `DIR`, whether what a path leads to is a
directory, and `errno`. -/
structure Answer where
  fd : Option Int
  dir : Nat
  directory : Bool
  errno : Int
  /-- a close that fails frees the number all the same, as on Linux -/
  frees : Bool := false
deriving DecidableEq, Repr

/-- An answer that hands out a number. -/
def answers (fd : Int) (directory : Bool) : Answer where
  fd := some fd
  dir := 0
  directory := directory
  errno := 0

/-- Where `/proc/meminfo` is; it is not a directory. -/
def meminfoNames : List CString :=
  [cstr "proc", cstr "meminfo"]

namespace Kernel

/-- Nothing is open. -/
def initial (cwd : List CString) : Kernel where
  cwd := cwd
  descriptors := fun _ => none
  streams := fun _ => none
  nextId := 0

/-! ## What a path leads to -/

def failure (answer : Answer) : Ret Int :=
  ⟨-1, answer.errno⟩

/-- The number that an answer hands out, if it is free. -/
def freeFd (kernel : Kernel) (answer : Answer) : Option Int :=
  answer.fd.filter fun fd =>
    decide (0 ≤ fd) && (kernel.descriptors fd).isNone

/-- The directory that a path starts from. -/
def start (kernel : Kernel) (dirfd : Int) (path : CString) :
    Option (List CString) :=
  if path.head? = some slash then some []
  else if dirfd = atFdcwd then some kernel.cwd
  else
    ((kernel.descriptors dirfd).filter OpenFile.directory).map
      OpenFile.names

/-- The description that an open creates. -/
def fileAt (kernel : Kernel) (answer : Answer) (fd : Int)
    (names : List CString) : OpenFile where
  id := kernel.nextId
  first := fd
  names := names
  directory := answer.directory && decide (names ≠ meminfoNames)

/-- The description that an open creates, if it succeeds. -/
def lookup (kernel : Kernel) (answer : Answer) (dirfd : Int)
    (path : Option CString) : Option OpenFile :=
  path.bind fun path =>
    (kernel.freeFd answer).bind fun fd =>
      (kernel.start dirfd path).map fun names =>
        kernel.fileAt answer fd
          (resolve unixPath names (segments slash path))

/-! ## Changes -/

/-- Let a number name a description. -/
def assign (kernel : Kernel) (fd : Int) (file : OpenFile) : Kernel :=
  { kernel with
    descriptors := Function.update kernel.descriptors fd (some file) }

def release (kernel : Kernel) (fd : Int) : Kernel :=
  { kernel with
    descriptors := Function.update kernel.descriptors fd none }

/-- Open a new description under its first number. -/
def install (kernel : Kernel) (file : OpenFile) : Kernel :=
  { kernel.assign file.first file with nextId := kernel.nextId + 1 }

def setStream (kernel : Kernel) (dir : Nat) (fd : Int) : Kernel :=
  { kernel with streams := Function.update kernel.streams dir (some fd) }

def freeStream (kernel : Kernel) (dir : Nat) : Kernel :=
  { kernel with streams := Function.update kernel.streams dir none }

/-! ## The calls -/

/-- `open` and `openat`. -/
def openAt (answer : Answer) (dirfd : Int) (path : Option CString)
    (kernel : Kernel) : Ret Int × Kernel :=
  match kernel.lookup answer dirfd path with
  | none => (failure answer, kernel)
  | some file => (⟨file.first, 0⟩, kernel.install file)

/-- A close of the number frees it. -/
def closes (kernel : Kernel) (answer : Answer) (fd : Int) : Bool :=
  (kernel.descriptors fd).isSome && (answer.fd.isSome || answer.frees)

/-- `close`: success, a failure that frees the number all the same, or a
failure without effect. -/
def close (answer : Answer) (fd : Int) (kernel : Kernel) :
    Ret Int × Kernel :=
  if kernel.closes answer fd then
    (if answer.fd.isSome then ⟨0, 0⟩ else failure answer,
      kernel.release fd)
  else (failure answer, kernel)

/-- `dup`, and `fcntl` where it duplicates. -/
def dup (answer : Answer) (oldfd : Int) (kernel : Kernel) :
    Ret Int × Kernel :=
  match kernel.descriptors oldfd, kernel.freeFd answer with
  | some file, some fd => (⟨fd, 0⟩, kernel.assign fd file)
  | _, _ => (failure answer, kernel)

/-- `dup2` and `dup3` put one description in the place of another. -/
def replaces (kernel : Kernel) (answer : Answer) (oldfd newfd : Int) :
    Bool :=
  (kernel.descriptors oldfd).isSome && answer.fd.isSome &&
    decide (0 ≤ newfd) && decide (oldfd ≠ newfd)

/-- `dup3`, which refuses to duplicate a descriptor onto itself; an open
descriptor that is overwritten is closed. -/
def dup3 (answer : Answer) (oldfd newfd : Int) (kernel : Kernel) :
    Ret Int × Kernel :=
  match kernel.descriptors oldfd with
  | none => (failure answer, kernel)
  | some file =>
      if kernel.replaces answer oldfd newfd then
        (⟨newfd, 0⟩, kernel.assign newfd file)
      else (failure answer, kernel)

/-- `dup2`, which has nothing to do onto itself. -/
def dup2 (answer : Answer) (oldfd newfd : Int) (kernel : Kernel) :
    Ret Int × Kernel :=
  if oldfd = newfd ∧ (kernel.descriptors oldfd).isSome then
    (⟨newfd, 0⟩, kernel)
  else dup3 answer oldfd newfd kernel

/-- `fcntl`; the commands that do not duplicate change no descriptor. -/
def fcntl (answer : Answer) (fd cmd : Int) (kernel : Kernel) :
    Ret Int × Kernel :=
  if fcntlDuplicatesFd cmd then dup answer fd kernel
  else (⟨answer.fd.getD (-1), answer.errno⟩, kernel)

/-- `opendir`. -/
def opendir (answer : Answer) (path : Option CString) (kernel : Kernel) :
    Ret Pointer × Kernel :=
  match kernel.lookup answer atFdcwd path with
  | none => (⟨none, answer.errno⟩, kernel)
  | some file =>
      if file.directory = true ∧ kernel.streams answer.dir = none then
        (⟨some answer.dir, 0⟩,
          (kernel.install file).setStream answer.dir file.first)
      else (⟨none, answer.errno⟩, kernel)

/-- `fdopendir`, on a descriptor of a directory. -/
def fdopendir (answer : Answer) (fd : Int) (kernel : Kernel) :
    Ret Pointer × Kernel :=
  if ((kernel.descriptors fd).filter OpenFile.directory).isSome = true ∧
      answer.fd.isSome ∧ kernel.streams answer.dir = none then
    (⟨some answer.dir, 0⟩, kernel.setStream answer.dir fd)
  else (⟨none, answer.errno⟩, kernel)

/-- `dirfd`. -/
def dirfd (dir : Nat) (kernel : Kernel) : Int :=
  (kernel.streams dir).getD (-1)

/-- `closedir`: it closes the descriptor with the stream.  If something else
has closed the descriptor, or if the close fails and frees the number all the
same, the stream is freed and the call fails. -/
def closedir (answer : Answer) (dir : Nat) (kernel : Kernel) :
    Ret Int × Kernel :=
  match kernel.streams dir with
  | none => (failure answer, kernel)
  | some fd =>
      if answer.fd.isSome ∧ (kernel.descriptors fd).isSome then
        (⟨0, 0⟩, (kernel.release fd).freeStream dir)
      else if answer.fd.isSome ∨ answer.frees = true then
        (failure answer, (kernel.release fd).freeStream dir)
      else (failure answer, kernel)

/-- The real functions over this kernel, with one answer.  Calls that change
no descriptor return the number of the answer. -/
def real (answer : Answer) : Real Kernel :=
  { constantReal Kernel (answer.fd.getD (-1)) with
    open_ := fun path _ _ => openAt answer atFdcwd path
    open64 := fun path _ _ => openAt answer atFdcwd path
    openat := fun dirfd path _ _ => openAt answer dirfd path
    openat64 := some fun dirfd path _ _ => openAt answer dirfd path
    close := close answer
    dup := dup answer
    dup2 := dup2 answer
    dup3 := fun oldfd newfd _ => dup3 answer oldfd newfd
    fcntl := fun fd cmd _ => fcntl answer fd cmd
    opendir := opendir answer
    opendir64 := some (opendir answer)
    fdopendir := some (fdopendir answer)
    closedir := closedir answer
    dirfd := dirfd }

/-! ## Sound kernels -/

/-- Numbers are not negative, the ids of descriptions are used up in order and
`/proc/meminfo` is no directory. -/
structure Sound (kernel : Kernel) : Prop where
  nonneg : ∀ fd file, kernel.descriptors fd = some file → 0 ≤ fd
  used : ∀ fd file, kernel.descriptors fd = some file →
    file.id < kernel.nextId
  regular : ∀ fd file, kernel.descriptors fd = some file →
    file.directory = true → file.names ≠ meminfoNames

theorem sound_initial (cwd : List CString) : Sound (initial cwd) where
  nonneg := nofun
  used := nofun
  regular := nofun

section Facts

variable {kernel : Kernel} {answer : Answer} {fd asked : Int}
variable {file : OpenFile}

theorem failure_neg (answer : Answer) : (failure answer).value < 0 :=
  Int.negSucc_lt_zero 0

theorem nonneg_of_replaces {oldfd newfd : Int}
    (replaces : kernel.replaces answer oldfd newfd = true) :
    0 ≤ newfd := by
  simp only [Kernel.replaces, Bool.and_eq_true, decide_eq_true_eq]
    at replaces
  exact replaces.1.2

theorem freeFd_eq_some_iff :
    kernel.freeFd answer = some fd ↔
      answer.fd = some fd ∧ 0 ≤ fd ∧ kernel.descriptors fd = none := by
  simp [freeFd]

theorem nonneg_of_freeFd (free : kernel.freeFd answer = some fd) :
    0 ≤ fd :=
  (freeFd_eq_some_iff.mp free).2.1

theorem unused_of_freeFd (free : kernel.freeFd answer = some fd) :
    kernel.descriptors fd = none :=
  (freeFd_eq_some_iff.mp free).2.2

/-- A description that an open creates, in full. -/
theorem lookup_eq_some_iff {dirfd : Int} {path : Option CString} :
    kernel.lookup answer dirfd path = some file ↔
      ∃ bytes names,
        path = some bytes ∧ answer.fd = some file.first ∧
          0 ≤ file.first ∧ kernel.descriptors file.first = none ∧
          kernel.start dirfd bytes = some names ∧
          file =
            kernel.fileAt answer file.first
              (resolve unixPath names (segments slash bytes)) := by
  constructor
  · intro found
    obtain ⟨bytes, given, found⟩ := Option.bind_eq_some_iff.mp found
    obtain ⟨number, free, found⟩ := Option.bind_eq_some_iff.mp found
    obtain ⟨names, started, rfl⟩ := Option.map_eq_some_iff.mp found
    obtain ⟨answered, valid, unused⟩ := freeFd_eq_some_iff.mp free
    exact ⟨bytes, names, given, answered, valid, unused, started, rfl⟩
  · rintro ⟨bytes, names, given, answered, valid, unused, started, whole⟩
    have free := freeFd_eq_some_iff.mpr ⟨answered, valid, unused⟩
    rw [lookup, given, Option.bind_some, free, Option.bind_some, started,
      Option.map_some, ← whole]

section Lookup

variable {dirfd : Int} {path : Option CString}
variable (looked : kernel.lookup answer dirfd path = some file)

include looked

theorem nonneg_of_lookup : 0 ≤ file.first := by
  obtain ⟨_, _, _, _, valid, _⟩ := lookup_eq_some_iff.mp looked
  exact valid

theorem free_of_lookup : kernel.descriptors file.first = none := by
  obtain ⟨_, _, _, _, _, free, _⟩ := lookup_eq_some_iff.mp looked
  exact free

theorem id_of_lookup : file.id = kernel.nextId := by
  obtain ⟨_, _, _, _, _, _, _, whole⟩ := lookup_eq_some_iff.mp looked
  rw [whole]
  rfl

theorem regular_of_lookup (isDirectory : file.directory = true) :
    file.names ≠ meminfoNames := by
  obtain ⟨_, _, _, _, _, _, _, whole⟩ := lookup_eq_some_iff.mp looked
  rw [whole] at isDirectory ⊢
  simp only [fileAt, Bool.and_eq_true, decide_eq_true_eq] at isDirectory
  exact isDirectory.2

/-- An absolute path is resolved from the root. -/
theorem names_of_lookup {bytes : CString} (given : path = some bytes)
    (absolute : bytes.head? = some slash) :
    file.names = resolve unixPath [] (segments slash bytes) := by
  obtain ⟨other, names, same, _, _, _, started, whole⟩ :=
    lookup_eq_some_iff.mp looked
  rw [given] at same
  cases same
  rw [start, if_pos absolute] at started
  rw [whole, ← Option.some.inj started]
  rfl

end Lookup

@[simp]
theorem descriptors_assign :
    (kernel.assign fd file).descriptors asked =
      if asked = fd then some file else kernel.descriptors asked :=
  Function.update_apply _ _ _ _

@[simp]
theorem descriptors_release :
    (kernel.release fd).descriptors asked =
      if asked = fd then none else kernel.descriptors asked :=
  Function.update_apply _ _ _ _

theorem descriptors_release_self :
    (kernel.release fd).descriptors fd = none := by
  rw [descriptors_release, if_pos rfl]

@[simp]
theorem descriptors_install :
    (kernel.install file).descriptors asked =
      if asked = file.first then some file
      else kernel.descriptors asked :=
  Function.update_apply _ _ _ _

@[simp]
theorem streams_setStream {dir other : Nat} :
    (kernel.setStream dir fd).streams other =
      if other = dir then some fd else kernel.streams other :=
  Function.update_apply _ _ _ _

@[simp]
theorem streams_freeStream {dir other : Nat} :
    (kernel.freeStream dir).streams other =
      if other = dir then none else kernel.streams other :=
  Function.update_apply _ _ _ _

theorem Sound.assign (sound : Sound kernel) (valid : 0 ≤ fd)
    (old : ∃ oldfd, kernel.descriptors oldfd = some file) :
    Sound (kernel.assign fd file) where
  nonneg := by
    intro asked found opened
    rw [descriptors_assign] at opened
    split at opened
    · rename_i same
      exact same ▸ valid
    · exact sound.nonneg asked found opened
  used := by
    intro asked found opened
    rw [descriptors_assign] at opened
    split at opened
    · obtain ⟨oldfd, named⟩ := old
      exact Option.some.inj opened ▸ sound.used oldfd file named
    · exact sound.used asked found opened
  regular := by
    intro asked found opened
    rw [descriptors_assign] at opened
    split at opened
    · obtain ⟨oldfd, named⟩ := old
      exact Option.some.inj opened ▸ sound.regular oldfd file named
    · exact sound.regular asked found opened

theorem Sound.release (sound : Sound kernel) (fd : Int) :
    Sound (kernel.release fd) where
  nonneg := by
    intro asked found opened
    rw [descriptors_release] at opened
    split at opened
    · cases opened
    · exact sound.nonneg asked found opened
  used := by
    intro asked found opened
    rw [descriptors_release] at opened
    split at opened
    · cases opened
    · exact sound.used asked found opened
  regular := by
    intro asked found opened
    rw [descriptors_release] at opened
    split at opened
    · cases opened
    · exact sound.regular asked found opened

theorem Sound.install (sound : Sound kernel) {dirfd : Int}
    {path : Option CString}
    (looked : kernel.lookup answer dirfd path = some file) :
    Sound (kernel.install file) where
  nonneg := by
    intro asked found opened
    rw [descriptors_install] at opened
    split at opened
    · rename_i same
      exact same ▸ nonneg_of_lookup looked
    · exact sound.nonneg asked found opened
  used := by
    intro asked found opened
    have more : (kernel.install file).nextId = kernel.nextId + 1 := rfl
    rw [more]
    rw [descriptors_install] at opened
    split at opened
    · rw [← Option.some.inj opened, id_of_lookup looked]
      exact Nat.lt_succ_self _
    · have before := sound.used asked found opened
      omega
  regular := by
    intro asked found opened isDirectory
    rw [descriptors_install] at opened
    split at opened
    · rw [← Option.some.inj opened] at isDirectory ⊢
      exact regular_of_lookup looked isDirectory
    · exact sound.regular asked found opened isDirectory

end Facts

/-! ## Histories of descriptions -/

section Named

universe u

variable {History : Type u} {kernel : Kernel}
variable {log : Nat → Option History} {fd : Int}
variable {property : OpenFile → History → Prop}

/-- The descriptor is open, and its description has a history with the
property. -/
def Named (kernel : Kernel) (log : Nat → Option History) (fd : Int)
    (property : OpenFile → History → Prop) : Prop :=
  ∃ file history,
    kernel.descriptors fd = some file ∧ log file.id = some history ∧
      property file history

theorem Named.isOpen (named : kernel.Named log fd property) :
    kernel.descriptors fd ≠ none := by
  obtain ⟨file, _, opened, _⟩ := named
  rw [opened]
  exact Option.some_ne_none file

theorem Named.install (named : kernel.Named log fd property)
    (sound : kernel.Sound) {file : OpenFile}
    (free : kernel.descriptors file.first = none)
    (history : Option History) :
    (kernel.install file).Named
      (Function.update log kernel.nextId history) fd property := by
  obtain ⟨old, past, opened, logged, holds⟩ := named
  have differs : fd ≠ file.first := by
    intro same
    rw [same, free] at opened
    cases opened
  have earlier : old.id ≠ kernel.nextId :=
    Nat.ne_of_lt (sound.used fd old opened)
  refine ⟨old, past, ?_, ?_, holds⟩
  · rw [descriptors_install, if_neg differs]
    exact opened
  · rw [Function.update_of_ne earlier]
    exact logged

theorem Named.assign (named : kernel.Named log fd property) {newfd : Int}
    (differs : fd ≠ newfd) (file : OpenFile) :
    (kernel.assign newfd file).Named log fd property := by
  obtain ⟨old, past, opened, facts⟩ := named
  refine ⟨old, past, ?_, facts⟩
  rw [descriptors_assign, if_neg differs]
  exact opened

theorem Named.duplicate (named : kernel.Named log fd property)
    {newfd : Int} {file : OpenFile}
    (opened : kernel.descriptors fd = some file) :
    (kernel.assign newfd file).Named log newfd property := by
  obtain ⟨old, past, found, facts⟩ := named
  have same : file = old := Option.some.inj (opened.symm.trans found)
  refine ⟨old, past, ?_, facts⟩
  rw [descriptors_assign, if_pos rfl, same]

theorem Named.release (named : kernel.Named log fd property)
    {closed : Int} (differs : fd ≠ closed) :
    (kernel.release closed).Named log fd property := by
  obtain ⟨old, past, opened, facts⟩ := named
  refine ⟨old, past, ?_, facts⟩
  rw [descriptors_release, if_neg differs]
  exact opened

end Named

end Kernel

end RunpodShim

import RunpodShim.Behaviour.DirentBuffers
import RunpodShim.Sequential.ExactTracker

/-!
# Directory streams over whole runs

Runs of a process that opens directories and reads them through `readdir` and
`readdir64`, any number at a time, between any other calls.  Unlike
`getdents64`, the loops never stop at entries that are hidden.
-/

namespace RunpodShim

open StepRuns

namespace Kernel

/-- The descriptions that there have been. -/
def made (kernel : Kernel) (id : Nat) : Option Unit :=
  if id < kernel.nextId then some () else none

/-- The description that a descriptor names. -/
def idAt (kernel : Kernel) (fd : Int) : Option Nat :=
  (kernel.descriptors fd).map OpenFile.id

/-- The description under a stream. -/
def streamId (kernel : Kernel) (dir : Nat) : Option Nat :=
  (kernel.streams dir).bind kernel.idAt

/-- The entries that are kept for the description under a stream. -/
def ofStream (kernel : Kernel) (entries : Nat → List DirEntry)
    (dir : Nat) : List DirEntry :=
  ((kernel.streamId dir).map entries).getD []

end Kernel

/-- The kernel and what is left unread of the directories behind its
descriptions.  The position of a stream is that of the description under it. -/
structure DirectoryWorld where
  kernel : Kernel
  left : Nat → List DirEntry

namespace DirectoryWorld

/-- What a stream has yet to hand out. -/
def remaining (world : DirectoryWorld) (dir : Nat) : List DirEntry :=
  world.kernel.ofStream world.left dir

/-- The kernel after a call; a description that the call created begins with
the whole listing. -/
def reached (listing : List DirEntry) (world : DirectoryWorld)
    (later : Kernel) : DirectoryWorld where
  kernel := later
  left := atNew world.kernel.made later.made listing world.left

/-- A real function of the kernel. -/
def onKernel {Value : Type} (listing : List DirEntry)
    (call : Kernel → Value × Kernel) (world : DirectoryWorld) :
    Value × DirectoryWorld :=
  (call world.kernel).map id (world.reached listing)

/-- The world in which a description, if it is one, has other entries left. -/
def leave (id : Option Nat) (entries : List DirEntry)
    (world : DirectoryWorld) : DirectoryWorld :=
  { world with
    left :=
      id.elim world.left fun id => Function.update world.left id entries }

/-- The world in which a stream has other entries left. -/
def setRemaining (dir : Nat) (entries : List DirEntry)
    (world : DirectoryWorld) : DirectoryWorld :=
  world.leave (world.kernel.streamId dir) entries

/-- `readdir`. -/
def readdir (dir : Nat) (world : DirectoryWorld) :
    Ret (Option DirEntry) × DirectoryWorld :=
  match world.remaining dir with
  | [] => (⟨none, 0⟩, world)
  | entry :: rest => (⟨some entry, 0⟩, world.setRemaining dir rest)

/-- The real functions, with the answer of the kernel and the listing of the
directory that is opened, or what a `getdents64` leaves unread of its own. -/
def real (answer : Answer) (listing : List DirEntry) :
    Real DirectoryWorld :=
  let kernel := Kernel.real answer
  { constantReal DirectoryWorld (answer.fd.getD (-1)) with
    open_ := fun path flags mode =>
      onKernel listing (kernel.open_ path flags mode)
    open64 := fun path flags mode =>
      onKernel listing (kernel.open64 path flags mode)
    openat := fun dirfd path flags mode =>
      onKernel listing (kernel.openat dirfd path flags mode)
    openat64 := some fun dirfd path flags mode =>
      onKernel listing (openatReal kernel true dirfd path flags mode)
    close := fun fd => onKernel listing (kernel.close fd)
    dup := fun oldfd => onKernel listing (kernel.dup oldfd)
    dup2 := fun oldfd newfd => onKernel listing (kernel.dup2 oldfd newfd)
    dup3 := fun oldfd newfd flags =>
      onKernel listing (kernel.dup3 oldfd newfd flags)
    fcntl := fun fd cmd arg => onKernel listing (kernel.fcntl fd cmd arg)
    opendir := fun path => onKernel listing (kernel.opendir path)
    opendir64 := some fun path =>
      onKernel listing (Preload.opendirReal kernel true path)
    fdopendir := some fun fd =>
      onKernel listing (Kernel.fdopendir answer fd)
    readdir := readdir
    readdir64 := some readdir
    sysGetdents64 := fun fd _ world =>
      (⟨⟨answer.fd.getD (-1), 0⟩, []⟩,
        world.leave (world.kernel.idAt fd) listing)
    closedir := fun dir => onKernel listing (kernel.closedir dir)
    dirfd := fun dir world => kernel.dirfd dir world.kernel }

theorem reached_self (listing : List DirEntry) (world : DirectoryWorld) :
    world.reached listing world.kernel = world := by
  have same :
      atNew world.kernel.made world.kernel.made listing world.left =
        world.left :=
    atNew_self
  rw [reached, same]

end DirectoryWorld

/-- The calls of `readdir` and `readdir64`. -/
def Call.readsStream : Call → Option (Nat × Nat)
  | .readdir rounds dir | .readdir64 rounds dir => some (rounds, dir)
  | _ => none

/-- The descriptor whose directory `getdents64` reads. -/
def Call.readsBatch : Call → Option Int
  | .getdents64 fd _ => some fd
  | _ => none

section Lifted

variable {shim : Shim} {env : Env} {answer : Answer}
variable {listing : List DirEntry} {call : Call} {state : ShimState}
variable {world : DirectoryWorld}

/-- The process with the larger world. -/
def Process.lifted (listing : List DirEntry) (world : DirectoryWorld)
    (process : Process Kernel) : Process DirectoryWorld where
  state := process.state
  world := world.reached listing process.world

/-- Every call but those that read a directory is the call of the kernel. -/
theorem perform_directoryWorld (other : call.readsStream = none)
    (noBatch : call.readsBatch = none) :
    perform shim (DirectoryWorld.real answer listing) env call
        ⟨state, world⟩ =
      (perform shim (Kernel.real answer) env call
        ⟨state, world.kernel⟩).map
          (Prod.map id (Process.lifted listing world)) := by
  -- where the kernel stays as it is, so does the larger world
  have unchanged (reply : Reply) (after : ShimState) :
      some (reply, (⟨after, world⟩ : Process DirectoryWorld)) =
        (some (reply, (⟨after, world.kernel⟩ : Process Kernel))).map
          (Prod.map id (Process.lifted listing world)) := by
    rw [Option.map_some, Prod.map, Process.lifted, world.reached_self]
    rfl
  by_cases refused : call.Refused shim state
  · rw [perform_of_refused refused, perform_of_refused refused]
    exact unchanged _ _
  · cases call with
    | readdir rounds dir =>
        cases other
    | readdir64 rounds dir =>
        cases other
    | open_ path flags mode =>
        obtain ⟨_, allows⟩ := Call.allows_of_not_refused refused rfl
        simp only [perform, Preload.open_, openCommon, allows,
          Bool.false_eq_true, if_false]
        rfl
    | open64 path flags mode =>
        obtain ⟨_, allows⟩ := Call.allows_of_not_refused refused rfl
        simp only [perform, Preload.open64, openCommon, allows,
          Bool.false_eq_true, if_false]
        rfl
    | openat dirfd path flags mode =>
        obtain ⟨resolved, allows⟩ := Call.allows_of_not_refused refused rfl
        simp only [perform, Preload.openat,
          openatCommon_of_allowed _ _ rfl resolved allows]
        rfl
    | openat64 dirfd path flags mode =>
        obtain ⟨resolved, allows⟩ := Call.allows_of_not_refused refused rfl
        simp only [perform, Preload.openat64,
          openatCommon_of_allowed _ _ rfl resolved allows]
        rfl
    | opendir path =>
        obtain ⟨_, allows⟩ := Call.allows_of_not_refused refused rfl
        simp only [perform, Preload.opendir, Preload.opendirCommon, allows,
          Bool.false_eq_true, if_false]
        rfl
    | opendir64 path =>
        obtain ⟨_, allows⟩ := Call.allows_of_not_refused refused rfl
        simp only [perform, Preload.opendir64, Preload.opendirCommon, allows,
          Bool.false_eq_true, if_false]
        rfl
    | read fd buffer count =>
        simp only [perform, Preload.read]
        cases rpsGuardEnter state.depth with
        | none =>
            exact unchanged _ _
        | some inside =>
            cases (rpsFdMapTakeRead buffer fd count state.entries).1 with
            | none =>
                exact unchanged _ _
            | some bytes =>
                exact unchanged _ _
    | stat path =>
        obtain ⟨_, allows⟩ := Call.allows_of_not_refused refused rfl
        simp only [perform, Preload.stat, allows, Bool.false_eq_true,
          if_false]
        exact unchanged _ _
    | newfstatat dirfd path flags =>
        obtain ⟨resolved, allows⟩ := Call.allows_of_not_refused refused rfl
        simp only [perform, Preload.newfstatat,
          fstatatCommon_of_allowed _ rfl resolved allows]
        exact unchanged _ _
    | fstatat dirfd path flags =>
        obtain ⟨resolved, allows⟩ := Call.allows_of_not_refused refused rfl
        simp only [perform, Preload.fstatat,
          fstatatCommon_of_allowed _ rfl resolved allows]
        exact unchanged _ _
    | ioctl fd request arg =>
        simp only [perform, Preload.ioctl]
        split
        · exact unchanged _ _
        · exact unchanged _ _
    | getdents64 fd count =>
        cases noBatch
    | _ =>
        rfl

end Lifted

/-! ## The loop of `readdir` -/

/-- What a stream shows of its entries, by the record of its descriptor. -/
def entryShown (shim : Shim) (record : Option RpsGpuFdRecord)
    (entry : DirEntry) : Bool :=
  if record.any fun record => record.kind == .procGpusDir then
    direntNameKept (some shim.allowed) entry.dName
  else true

def shownEntries (shim : Shim) (record : Option RpsGpuFdRecord) :
    List DirEntry → List DirEntry :=
  List.filter (entryShown shim record)

section Loop

variable {shim : Shim} {state : ShimState} {dir : Nat} {fd : Int}

theorem gpuReaddirEntryAllowed_eq (video : shim.config.gpuVideo = true)
    (ready : shim.ready = true) (fd : Int) (entry : DirEntry) :
    gpuReaddirEntryAllowed shim state fd entry.dName =
      entryShown shim (rpsGpuFdMapGet fd state.nodes) entry := by
  have filters :
      ¬ (¬ rpsGpuVideoEnabled shim.config = true ∨
        ¬ shim.ready = true) := by
    simp [rpsGpuVideoEnabled, video, ready]
  cases found : rpsGpuFdMapGet fd state.nodes with
  | none =>
      rw [gpuReaddirEntryAllowed, if_neg filters, found]
      rfl
  | some record =>
      by_cases kind : record.kind = .procGpusDir
      · rw [gpuReaddirEntryAllowed_of_tracked video ready found kind]
        simp [entryShown, kind]
      · rw [gpuReaddirEntryAllowed, if_neg filters, found]
        simp [entryShown, kind]

/-- The entries that the loop passes over. -/
def hiddenAt (shim : Shim) (state : ShimState) (fd : Int)
    (entry : DirEntry) : Bool :=
  !gpuReaddirEntryAllowed shim state fd entry.dName

theorem DirectoryWorld.setRemaining_self {world : DirectoryWorld}
    {entries : List DirEntry} (isLeft : world.remaining dir = entries) :
    world.setRemaining dir entries = world := by
  rw [remaining, Kernel.ofStream] at isLeft
  rw [setRemaining, leave]
  cases under : world.kernel.streamId dir with
  | none =>
      rfl
  | some id =>
      rw [under, Option.map_some, Option.getD_some] at isLeft
      simp only [Option.elim_some, ← isLeft, Function.update_eq_self]

/-- A stream that is not open has nothing left. -/
theorem DirectoryWorld.remaining_setRemaining {world : DirectoryWorld}
    {entries : List DirEntry}
    (fits : world.remaining dir ≠ [] ∨ entries = []) :
    (world.setRemaining dir entries).remaining dir = entries := by
  rw [remaining, Kernel.ofStream] at fits
  rw [setRemaining, remaining, Kernel.ofStream, leave]
  cases under : world.kernel.streamId dir with
  | none =>
      rw [under] at fits
      exact (fits.resolve_left fun more => more rfl).symm
  | some id =>
      simp only [Option.map_some, Option.getD_some, Option.elim_some,
        Function.update_self]

theorem DirectoryWorld.setRemaining_setRemaining (world : DirectoryWorld)
    (first second : List DirEntry) :
    (world.setRemaining dir first).setRemaining dir second =
      world.setRemaining dir second := by
  simp only [setRemaining, leave]
  cases world.kernel.streamId dir with
  | none =>
      rfl
  | some id =>
      simp only [Option.elim_some, Function.update_idem]

theorem DirectoryWorld.readdir_of_nil {world : DirectoryWorld}
    (left : world.remaining dir = []) :
    world.readdir dir = (⟨none, 0⟩, world) := by
  rw [readdir, left]

theorem DirectoryWorld.readdir_of_cons {world : DirectoryWorld}
    {entry : DirEntry} {rest : List DirEntry}
    (left : world.remaining dir = entry :: rest) :
    world.readdir dir = (⟨some entry, 0⟩, world.setRemaining dir rest) := by
  rw [readdir, left]

/-- The loop reads past the hidden entries, if it is observed for as many
rounds, and hands back what comes next. -/
theorem skipHidden_readdir (rounds : Nat) (world : DirectoryWorld) :
    Preload.skipHidden shim state DirectoryWorld.readdir dir fd rounds
        (world.readdir dir) =
      if ((world.remaining dir).takeWhile
          (hiddenAt shim state fd)).length ≤ rounds then
        some
          ((world.setRemaining dir
            ((world.remaining dir).dropWhile
              (hiddenAt shim state fd))).readdir dir)
      else none := by
  induction left : world.remaining dir generalizing rounds world with
  | nil =>
      rw [world.readdir_of_nil left, Preload.skipHidden.eq_def,
        List.dropWhile_nil, world.setRemaining_self left,
        world.readdir_of_nil left]
      rfl
  | cons entry rest inductionHypothesis =>
      rw [world.readdir_of_cons left]
      by_cases shows :
          gpuReaddirEntryAllowed shim state fd entry.dName = true
      · have isShown : ¬ hiddenAt shim state fd entry = true := by
          simp [hiddenAt, shows]
        rw [List.takeWhile_cons_of_neg isShown,
          List.dropWhile_cons_of_neg isShown, world.setRemaining_self left,
          world.readdir_of_cons left, Preload.skipHidden.eq_def]
        simp [shows]
      · have isHidden : hiddenAt shim state fd entry = true := by
          simp [hiddenAt, shows]
        rw [List.takeWhile_cons_of_pos isHidden,
          List.dropWhile_cons_of_pos isHidden, Preload.skipHidden.eq_def]
        cases rounds with
        | zero =>
            simp [shows]
        | succ more =>
            have moved : (world.setRemaining dir rest).remaining dir = rest :=
              DirectoryWorld.remaining_setRemaining
                (Or.inl (left ▸ List.cons_ne_nil entry rest))
            have later :=
              inductionHypothesis more (world.setRemaining dir rest) moved
            rw [world.setRemaining_setRemaining] at later
            simpa [shows] using later

/-- What comes next is the first of the entries that are shown. -/
theorem shown_eq (shows : DirEntry → Bool) (entries : List DirEntry) :
    entries.filter shows =
      (entries.dropWhile fun entry => !shows entry).head?.toList ++
        (entries.dropWhile fun entry => !shows entry).tail.filter shows := by
  induction entries with
  | nil =>
      rfl
  | cons entry rest inductionHypothesis =>
      by_cases isShown : shows entry = true
      · simp [isShown]
      · simpa [isShown] using inductionHypothesis

/-- What `readdir` does to the process with all that it has yet to show. -/
structure Shows (shim : Shim) (record : Option RpsGpuFdRecord) (dir : Nat)
    (entry : Option DirEntry) (before after : DirectoryWorld) : Prop where
  kernel : after.kernel = before.kernel
  others : ∀ id, before.kernel.streamId dir ≠ some id →
    after.left id = before.left id
  shown : shownEntries shim record (before.remaining dir) =
    entry.toList ++ shownEntries shim record (after.remaining dir)
  last : entry = none → after.remaining dir = []

/-- The entry is the first that is left to show. -/
theorem Shows.value_eq {record : Option RpsGpuFdRecord}
    {entry : Option DirEntry} {before after : DirectoryWorld}
    (shows : Shows shim record dir entry before after) :
    entry = (shownEntries shim record (before.remaining dir)).head? := by
  rw [shows.shown]
  cases entry with
  | none =>
      rw [shows.last rfl]
      rfl
  | some first =>
      rfl

theorem DirectoryWorld.left_leave {world : DirectoryWorld}
    {moved : Option Nat} {id : Nat} (other : moved ≠ some id)
    (entries : List DirEntry) :
    (world.leave moved entries).left id = world.left id := by
  rw [leave]
  cases moved with
  | none =>
      rfl
  | some number =>
      have differs : id ≠ number := fun same => other (same ▸ rfl)
      exact Function.update_of_ne differs entries world.left

theorem DirectoryWorld.shows_readdir {record : Option RpsGpuFdRecord}
    (world : DirectoryWorld) :
    let reached :=
      (world.setRemaining dir
        ((world.remaining dir).dropWhile fun entry =>
          !entryShown shim record entry)).readdir dir
    Shows shim record dir reached.1.value world reached.2 := by
  intro reached
  have split :=
    shown_eq (entryShown shim record) (world.remaining dir)
  cases left :
      (world.remaining dir).dropWhile
        fun entry => !entryShown shim record entry with
  | nil =>
      have moved : (world.setRemaining dir []).remaining dir = [] :=
        remaining_setRemaining (Or.inr rfl)
      have whole : reached = (⟨none, 0⟩, world.setRemaining dir []) := by
        simp only [reached, left]
        exact readdir_of_nil moved
      rw [left] at split
      rw [whole]
      refine ⟨rfl, ?_, ?_, fun _ => moved⟩
      · intro id other
        exact left_leave other []
      · rw [moved]
        exact split
  | cons entry rest =>
      have more : world.remaining dir ≠ [] := by
        intro empty
        rw [empty] at left
        cases left
      have moved (entries : List DirEntry) :
          (world.setRemaining dir entries).remaining dir = entries :=
        remaining_setRemaining (Or.inl more)
      have whole :
          reached = (⟨some entry, 0⟩, world.setRemaining dir rest) := by
        simp only [reached, left]
        rw [readdir_of_cons (moved (entry :: rest)),
          setRemaining_setRemaining]
      rw [left] at split
      rw [whole]
      refine ⟨rfl, ?_, ?_, nofun⟩
      · intro id other
        exact left_leave other rest
      · rw [moved rest]
        exact split

/-- `readdir` of a stream. -/
theorem readVisible_directoryWorld (video : shim.config.gpuVideo = true)
    (ready : shim.ready = true) (answer : Answer)
    (listing : List DirEntry) (rounds dir : Nat) (state : ShimState)
    (world : DirectoryWorld) :
    let hides := fun entry =>
      !entryShown shim
        (rpsGpuFdMapGet (world.kernel.dirfd dir) state.nodes) entry
    let reached :=
      (world.setRemaining dir
        ((world.remaining dir).dropWhile hides)).readdir dir
    Preload.readVisible shim (DirectoryWorld.real answer listing)
        DirectoryWorld.readdir rounds dir ⟨state, world⟩ =
      if ((world.remaining dir).takeWhile hides).length ≤ rounds then
        some (reached.1, ⟨state, reached.2⟩)
      else none := by
  intro hides reached
  have sameKernel : (world.readdir dir).2.kernel = world.kernel := by
    unfold DirectoryWorld.readdir
    split <;> rfl
  have number :
      (DirectoryWorld.real answer listing).dirfd dir
          (world.readdir dir).2 = world.kernel.dirfd dir := by
    show (world.readdir dir).2.kernel.dirfd dir = world.kernel.dirfd dir
    rw [sameKernel]
  have same :
      hiddenAt shim state (world.kernel.dirfd dir) = hides := by
    funext entry
    rw [hiddenAt, gpuReaddirEntryAllowed_eq video ready]
  rw [Preload.readVisible]
  simp only [number, skipHidden_readdir, same]
  split
  · rfl
  · rfl

/-- A call that reads a stream shows its next entry. -/
theorem shows_of_perform (video : shim.config.gpuVideo = true)
    (ready : shim.ready = true) {answer : Answer}
    {listing : List DirEntry} {env : Env} {call : Call} {rounds : Nat}
    {world : DirectoryWorld} {reply : Reply}
    {after : Process DirectoryWorld}
    (reads : call.readsStream = some (rounds, dir))
    (performed :
      perform shim (DirectoryWorld.real answer listing) env call
        ⟨state, world⟩ = some (reply, after)) :
    ∃ ret,
      reply = .entry ret ∧ after.state = state ∧
        Shows shim
          (rpsGpuFdMapGet (world.kernel.dirfd dir) state.nodes) dir
          ret.value world after.world := by
  have asRead :
      (Preload.readVisible shim (DirectoryWorld.real answer listing)
        DirectoryWorld.readdir rounds dir ⟨state, world⟩).map
          (Prod.map .entry id) = some (reply, after) := by
    cases call with
    | readdir _ _ =>
        cases reads
        exact performed
    | readdir64 _ _ =>
        cases reads
        exact performed
    | _ =>
        cases reads
  obtain ⟨⟨ret, process⟩, read, whole⟩ := Option.map_eq_some_iff.mp asRead
  rw [readVisible_directoryWorld video ready] at read
  split at read
  · cases read
    cases whole
    exact ⟨_, rfl, rfl, world.shows_readdir⟩
  · cases read

/-- The loop ends when it is observed for long enough. -/
theorem isSome_perform_of_length_le (video : shim.config.gpuVideo = true)
    (ready : shim.ready = true) (answer : Answer)
    (listing : List DirEntry) (env : Env) {call : Call} {rounds : Nat}
    {world : DirectoryWorld}
    (reads : call.readsStream = some (rounds, dir))
    (enough : (world.remaining dir).length ≤ rounds) :
    (perform shim (DirectoryWorld.real answer listing) env call
      ⟨state, world⟩).isSome := by
  have few (hides : DirEntry → Bool) :
      ((world.remaining dir).takeWhile hides).length ≤ rounds :=
    (List.takeWhile_prefix hides).length_le.trans enough
  have read :=
    readVisible_directoryWorld video ready answer listing rounds dir state
      world
  simp only [if_pos (few _)] at read
  cases call with
  | readdir _ _ =>
      cases reads
      simp only [perform, Preload.readdir]
      rw [Option.isSome_map]
      exact Option.isSome_of_eq_some read
  | readdir64 _ _ =>
      cases reads
      rw [perform, Option.isSome_map]
      exact Option.isSome_of_eq_some read
  | _ =>
      cases reads

end Loop

/-! ## One step -/

/-- A step, with what the directory that it opens lists, if it opens one, or
what a `getdents64` leaves unread. -/
abbrev ScanAction := Action × List DirEntry

def scanProcessStep (shim : Shim) (process : Process DirectoryWorld) :
    ScanAction → Option (Process DirectoryWorld)
  | (.call answer env call, listing) =>
      (perform shim (DirectoryWorld.real answer listing) env call
        process).map Prod.snd
  | (.closeBehind fd, listing) =>
      some
        { process with
          world :=
            process.world.reached listing
              (process.world.kernel.release fd) }

/-- The openings of the descriptions, what the directory of each listed when it
was opened, and what the caller has received from each stream. -/
structure ScanHistory where
  openings : Nat → Option Opening
  listed : Nat → List DirEntry
  received : Nat → List DirEntry

def ScanHistory.initial : ScanHistory where
  openings := fun _ => none
  listed := fun _ => []
  received := fun _ => []

/-- The stream that a step reads, if it reads one. -/
def Action.readsStream : Action → Option (Nat × Nat)
  | .call _ _ asked => asked.readsStream
  | .closeBehind _ => none

/-- The descriptor whose directory a step reads through `getdents64`. -/
def Action.readsBatch : Action → Option Int
  | .call _ _ asked => asked.readsBatch
  | .closeBehind _ => none

/-- A description under a stream is read through that stream alone, and nothing
has been read of it when the stream is opened. -/
def OwnsPosition (world : DirectoryWorld) (history : ScanHistory) :
    Action → Prop
  | .call _ _ (.getdents64 fd _) =>
      ∀ dir id, world.kernel.streamId dir = some id →
        world.kernel.idAt fd ≠ some id
  | .call _ _ (.fdopendir fd) =>
      ∀ id, world.kernel.idAt fd = some id →
        world.left id = history.listed id ∧
          ∀ dir, world.kernel.streamId dir ≠ some id
  | _ => True

/-- The caller keeps the entry that it is given. -/
def logEntry (shim : Shim) (process : Process DirectoryWorld)
    (received : Nat → List DirEntry) :
    ScanAction → Nat → List DirEntry
  | (.call answer env call, listing) =>
      match call.readsStream,
        perform shim (DirectoryWorld.real answer listing) env call
          process with
      | some (_, dir), some (.entry ret, _) =>
          Function.update received dir
            (received dir ++ ret.value.toList)
      | _, _ => received
  | (.closeBehind _, _) => received

/-- The system with its history. -/
def scanStep (shim : Shim) :
    Process DirectoryWorld × ScanHistory → ScanAction →
      Option (Process DirectoryWorld × ScanHistory) :=
  withHistory (scanProcessStep shim) fun before action after history =>
    { openings :=
        logOpening shim before.state.nodes before.world.kernel action.1
          after.world.kernel history.openings
      listed :=
        atNew before.world.kernel.made after.world.kernel.made action.2
          history.listed
      received :=
        atNew before.world.kernel.streams after.world.kernel.streams []
          (logEntry shim before history.received action) }

/-- The process without what its streams hold. -/
def Process.inner (process : Process DirectoryWorld) : Process Kernel where
  state := process.state
  world := process.world.kernel

section Steps

variable {shim : Shim} {before after : Process DirectoryWorld}
variable {action : ScanAction} {state later : ShimState}
variable {kernel next : Kernel} {log : Nat → Option Opening}

/-- How a description came about is logged once. -/
theorem openingAt_logOpening (sound : kernel.Sound) {fd : Int}
    {action : Action} (same : next.descriptors fd = kernel.descriptors fd) :
    openingAt next (logOpening shim state.nodes kernel action next log)
        fd = openingAt kernel log fd := by
  rw [openingAt, same, openingAt]
  cases named : kernel.descriptors fd with
  | none =>
      rfl
  | some file =>
      have old : file.id ≠ kernel.nextId :=
        Nat.ne_of_lt (sound.used fd file named)
      rw [Option.bind_some, Option.bind_some]
      unfold logOpening
      split
      · rfl
      · split
        · exact Function.update_of_ne old _ _
        · rfl

/-- A stream that stays open keeps its descriptor and the description of
that. -/
theorem Effect.stream_stays {action : Action}
    (streams : StreamsKept kernel) (disciplined : Disciplined kernel action)
    (done : Effect shim state kernel action later next) {dir : Nat}
    {fd number : Int} (stream : kernel.streams dir = some fd)
    (stays : next.streams dir = some number) :
    number = fd ∧ next.descriptors fd = kernel.descriptors fd := by
  obtain ⟨owned, isOwned, _⟩ := streams.directory dir fd stream
  have notFree {free : Int} (closed : kernel.descriptors free = none) :
      fd ≠ free := by
    intro same
    rw [same, closed] at isOwned
    cases isOwned
  have notUnowned {other : Int}
      (unowned : ∀ dir, kernel.streams dir ≠ some other) : fd ≠ other := by
    intro same
    rw [same] at stream
    exact unowned dir stream
  have kept (sameStream : next.streams dir = kernel.streams dir)
      (same : next.descriptors fd = kernel.descriptors fd) :
      number = fd ∧ next.descriptors fd = kernel.descriptors fd := by
    rw [sameStream, stream] at stays
    exact ⟨(Option.some.inj stays).symm, same⟩
  -- no stream that stays is the one that is opened or closed here
  have otherStream {opened : Nat} (unused : kernel.streams opened = none) :
      dir ≠ opened := by
    intro same
    rw [same, unused] at stream
    cases stream
  cases done with
  | idle same quiet =>
      exact kept rfl rfl
  | read fd buffer count nodes entries depth =>
      exact kept rfl rfl
  | opened request file asked goesOn found isStream =>
      apply kept rfl
      rw [Kernel.descriptors_install,
        if_neg (notFree (Kernel.free_of_lookup found))]
  | openedDir request file asked goesOn found isStream directory unused =>
      apply kept
      · rw [Kernel.streams_setStream, if_neg (otherStream unused)]
        rfl
      · show (kernel.install file).descriptors fd = kernel.descriptors fd
        rw [Kernel.descriptors_install,
          if_neg (notFree (Kernel.free_of_lookup found))]
  | copied oldfd newfd file asked named free =>
      apply kept rfl
      rw [Kernel.descriptors_assign,
        if_neg (notFree (Kernel.unused_of_freeFd free))]
  | replaced oldfd newfd file asked named replaces =>
      apply kept rfl
      rw [Kernel.descriptors_assign,
        if_neg (notUnowned (unowned_of_replaces disciplined asked))]
  | closed other closes =>
      apply kept rfl
      rw [Kernel.descriptors_release,
        if_neg (notUnowned disciplined.owned)]
  | dropped other fails =>
      exact kept rfl rfl
  | streamed other file named directory unused =>
      apply kept _ rfl
      rw [Kernel.streams_setStream, if_neg (otherStream unused)]
  | closedDir closed other isStream wasOpen =>
      have differs : dir ≠ closed := by
        intro same
        rw [same, Kernel.streams_freeStream, if_pos rfl] at stays
        cases stays
      have otherFd : fd ≠ other := by
        intro same
        rw [← same] at isStream
        exact differs (streams.alone dir closed fd stream isStream)
      apply kept
      · rw [Kernel.streams_freeStream, if_neg differs]
        rfl
      · show (kernel.release other).descriptors fd = kernel.descriptors fd
        rw [Kernel.descriptors_release, if_neg otherFd]
  | freedDir closed other isStream fails =>
      exact absurd fails (disciplined.not_freedDir streams isStream)
  | closedBehind other =>
      cases disciplined.owned

/-- The streams that a step opens: one, and over a new description unless the
step is an `fdopendir`. -/
structure OpensStream (kernel next : Kernel) (action : Action) (dir : Nat)
    (fd : Int) : Prop where
  others : ∀ other, other ≠ dir →
    next.streams other = kernel.streams other
  description :
    (∃ file, next.descriptors fd = some file ∧ file.id = kernel.nextId ∧
      next.nextId = kernel.nextId + 1) ∨
    (∃ answer env, action = .call answer env (.fdopendir fd)) ∧
      next.descriptors = kernel.descriptors ∧
      next.nextId = kernel.nextId

theorem Effect.opensStream {action : Action}
    (done : Effect shim state kernel action later next) {dir : Nat}
    {fd : Int} (wasFree : kernel.streams dir = none)
    (isOpen : next.streams dir = some fd) :
    OpensStream kernel next action dir fd := by
  have notSame (sameStream : next.streams dir = kernel.streams dir) :
      OpensStream kernel next action dir fd := by
    rw [sameStream, wasFree] at isOpen
    cases isOpen
  cases done with
  | idle | read | opened | copied | replaced | closed | dropped
  | closedBehind =>
      exact notSame rfl
  | openedDir request file asked goesOn found isStream directory unused =>
      rw [Kernel.streams_setStream] at isOpen
      split at isOpen
      · rename_i here
        cases isOpen
        refine ⟨?_, Or.inl ⟨file, ?_, Kernel.id_of_lookup found, rfl⟩⟩
        · intro other differs
          rw [Kernel.streams_setStream, if_neg (here ▸ differs)]
          rfl
        · show (kernel.install file).descriptors file.first = some file
          rw [Kernel.descriptors_install, if_pos rfl]
      · exact absurd (wasFree.symm.trans isOpen) nofun
  | streamed other file named directory unused =>
      rw [Kernel.streams_setStream] at isOpen
      split at isOpen
      · rename_i here
        cases isOpen
        refine ⟨?_, Or.inr ⟨⟨_, _, rfl⟩, rfl, rfl⟩⟩
        intro asked differs
        rw [Kernel.streams_setStream, if_neg (here ▸ differs)]
      · exact absurd (wasFree.symm.trans isOpen) nofun
  | closedDir closed other isStream wasOpen =>
      rw [Kernel.streams_freeStream] at isOpen
      split at isOpen
      · cases isOpen
      · exact absurd (wasFree.symm.trans isOpen) nofun
  | freedDir closed other isStream fails =>
      rw [Kernel.streams_freeStream] at isOpen
      split at isOpen
      · cases isOpen
      · exact absurd (wasFree.symm.trans isOpen) nofun

/-- A step that reads no directory is the step of the kernel. -/
theorem scanProcessStep_of_other (other : action.1.readsStream = none)
    (noBatch : action.1.readsBatch = none)
    (taken : scanProcessStep shim before action = some after) :
    sequentialStep shim before.inner action.1 = some after.inner ∧
      after.world = before.world.reached action.2 after.world.kernel ∧
      ∀ received, logEntry shim before received action = received := by
  obtain ⟨action, listing⟩ := action
  cases action with
  | closeBehind fd =>
      cases taken
      exact ⟨rfl, rfl, fun _ => rfl⟩
  | call answer env call =>
      have noStream : call.readsStream = none := other
      have lifted :
          perform shim (DirectoryWorld.real answer listing) env call
              before =
            (perform shim (Kernel.real answer) env call before.inner).map
              (Prod.map id (Process.lifted listing before.world)) :=
        perform_directoryWorld noStream noBatch
      rw [scanProcessStep, lifted, Option.map_map] at taken
      obtain ⟨result, performed, rfl⟩ := Option.map_eq_some_iff.mp taken
      refine ⟨?_, rfl, ?_⟩
      · exact Option.map_eq_some_iff.mpr ⟨result, performed, rfl⟩
      · intro received
        simp only [logEntry, noStream]

/-- A `getdents64`. -/
theorem scanProcessStep_of_readsBatch {fd : Int}
    (batch : action.1.readsBatch = some fd)
    (taken : scanProcessStep shim before action = some after) :
    after.state = before.state ∧
      after.world =
        before.world.leave (before.world.kernel.idAt fd) action.2 ∧
      ∀ received, logEntry shim before received action = received := by
  obtain ⟨action, listing⟩ := action
  cases action with
  | closeBehind other =>
      cases batch
  | call answer env call =>
      cases call with
      | getdents64 other count =>
          cases batch
          cases taken
          exact ⟨rfl, rfl, fun _ => rfl⟩
      | _ =>
          cases batch

/-- A step that reads a stream. -/
theorem scanProcessStep_of_readsStream
    (video : shim.config.gpuVideo = true) (ready : shim.ready = true)
    {rounds dir : Nat} (reads : action.1.readsStream = some (rounds, dir))
    (taken : scanProcessStep shim before action = some after) :
    ∃ entry,
      (∀ received,
        logEntry shim before received action =
          Function.update received dir
            (received dir ++ entry.toList)) ∧
        after.state = before.state ∧
        Shows shim
          (rpsGpuFdMapGet (before.world.kernel.dirfd dir)
            before.state.nodes)
          dir entry before.world after.world := by
  obtain ⟨action, listing⟩ := action
  cases action with
  | closeBehind fd =>
      cases reads
  | call answer env call =>
      have isRead : call.readsStream = some (rounds, dir) := reads
      obtain ⟨⟨reply, reached⟩, performed, rfl⟩ :=
        Option.map_eq_some_iff.mp taken
      obtain ⟨ret, rfl, same, shows⟩ :=
        shows_of_perform video ready isRead performed
      refine ⟨ret.value, ?_, same, shows⟩
      intro received
      simp only [logEntry, isRead, performed]

/-- What a step does to the tables and to the kernel. -/
theorem effect_of_scanProcessStep (video : shim.config.gpuVideo = true)
    (ready : shim.ready = true)
    (taken : scanProcessStep shim before action = some after) :
    Effect shim before.state before.world.kernel action.1 after.state
      after.world.kernel := by
  cases reads : action.1.readsStream with
  | none =>
      cases batch : action.1.readsBatch with
      | none =>
          exact effect_of_step (scanProcessStep_of_other reads batch taken).1
      | some fd =>
          obtain ⟨same, world, _⟩ := scanProcessStep_of_readsBatch batch taken
          rw [same, world]
          obtain ⟨action, listing⟩ := action
          cases action with
          | closeBehind other =>
              cases batch
          | call answer env call =>
              cases call with
              | getdents64 other count =>
                  exact .nothing rfl rfl rfl rfl
              | _ =>
                  cases batch
  | some asked =>
      obtain ⟨entry, _, same, shows⟩ :=
        scanProcessStep_of_readsStream video ready reads taken
      rw [same, shows.kernel]
      obtain ⟨action, listing⟩ := action
      cases action with
      | closeBehind fd =>
          cases reads
      | call answer env call =>
          cases call with
          | readdir _ _ =>
              exact .nothing rfl rfl rfl rfl
          | readdir64 _ _ =>
              exact .nothing rfl rfl rfl rfl
          | _ =>
              cases reads

end Steps

/-! ## Runs -/

/-- The record that the descriptor of a stream has, if the tracker is
exact. -/
def streamRecord (kernel : Kernel) (log : Nat → Option Opening)
    (fd : Int) : Option RpsGpuFdRecord :=
  (openingAt kernel log fd).bind Opening.tracked

/-- What the caller has received from each stream, with what is left to show,
is what its directory listed and may show; no two streams are over one
description. -/
structure Scanned (shim : Shim) (world : DirectoryWorld)
    (history : ScanHistory) : Prop where
  shown : ∀ dir fd, world.kernel.streams dir = some fd →
    let shown :=
      shownEntries shim (streamRecord world.kernel history.openings fd)
    history.received dir ++ shown (world.remaining dir) =
      shown (world.kernel.ofStream history.listed dir)
  alone : ∀ dir other id, world.kernel.streamId dir = some id →
    world.kernel.streamId other = some id → dir = other

structure ScanKept (shim : Shim)
    (current : Process DirectoryWorld × ScanHistory) : Prop where
  kept : SequentialKept (current.1.inner, current.2.openings)
  exactly : ExactTracker current.1.state current.1.world.kernel
    current.2.openings
  scanned : Scanned shim current.1.world current.2

section Runs

variable {shim : Shim} {action : ScanAction}
variable {before after : Process DirectoryWorld × ScanHistory}

theorem scanKept_start (cwd : List CString)
    (left : Nat → List DirEntry) :
    ScanKept shim (⟨.initial, ⟨.initial cwd, left⟩⟩, .initial) where
  kept := sequentialKept_start cwd
  exactly := by
    intro fd
    exact rpsGpuFdMapGet_nil fd
  scanned := ⟨nofun, nofun⟩

section Descriptions

variable {kernel later : Kernel} {dir id : Nat}

theorem Kernel.made_of_used (sound : kernel.Sound)
    (under : kernel.streamId dir = some id) : kernel.made id ≠ none := by
  obtain ⟨fd, _, isNamed⟩ := Option.bind_eq_some_iff.mp under
  obtain ⟨file, named, rfl⟩ := Option.map_eq_some_iff.mp isNamed
  rw [Kernel.made, if_pos (sound.used fd file named)]
  exact Option.some_ne_none ()

/-- What is kept for a description stays when a step creates another. -/
theorem Kernel.ofStream_atNew (sound : kernel.Sound)
    (same : later.streamId dir = kernel.streamId dir)
    (fresh : List DirEntry) (entries : Nat → List DirEntry) :
    later.ofStream (atNew kernel.made later.made fresh entries) dir =
      kernel.ofStream entries dir := by
  rw [ofStream, ofStream, same]
  cases under : kernel.streamId dir with
  | none =>
      rfl
  | some id =>
      rw [Option.map_some, Option.map_some,
        atNew_of_ne_none (Kernel.made_of_used sound under)]

theorem Kernel.streamId_of_stays {fd : Int}
    (stream : kernel.streams dir = some fd)
    (stays : later.streams dir = some fd)
    (same : later.descriptors fd = kernel.descriptors fd) :
    later.streamId dir = kernel.streamId dir := by
  rw [streamId, stays, streamId, stream, Option.bind_some,
    Option.bind_some, idAt, same, idAt]

/-- A stream over the description that a step creates. -/
theorem Kernel.ofStream_new {file : OpenFile} {fd : Int}
    (stream : later.streams dir = some fd)
    (named : later.descriptors fd = some file)
    (isNew : file.id = kernel.nextId)
    (created : later.nextId = kernel.nextId + 1)
    (fresh : List DirEntry) (entries : Nat → List DirEntry) :
    later.ofStream (atNew kernel.made later.made fresh entries) dir =
      fresh := by
  have wasUnmade : kernel.made file.id = none := by
    rw [made, isNew, if_neg (Nat.lt_irrefl _)]
  have isMade : later.made file.id ≠ none := by
    rw [made, isNew, created, if_pos (Nat.lt_succ_self _)]
    exact Option.some_ne_none ()
  rw [ofStream, streamId, stream, Option.bind_some, idAt, named,
    Option.map_some, Option.map_some, Option.getD_some,
    atNew_of_none wasUnmade isMade]

/-- The entries of a stream depend on those of its description. -/
theorem Kernel.ofStream_congr {entries others : Nat → List DirEntry}
    (same : ∀ id, kernel.streamId dir = some id →
      others id = entries id) :
    kernel.ofStream others dir = kernel.ofStream entries dir := by
  rw [ofStream, ofStream]
  cases under : kernel.streamId dir with
  | none =>
      rfl
  | some id =>
      rw [Option.map_some, Option.map_some, same id under]

end Descriptions

/-- The next entry of one stream. -/
theorem Scanned.shows {world later : DirectoryWorld}
    {history : ScanHistory} (scanned : Scanned shim world history)
    {dir : Nat} {entry : Option DirEntry} {record : Option RpsGpuFdRecord}
    (tracked : ∀ fd, world.kernel.streams dir = some fd →
      record = streamRecord world.kernel history.openings fd)
    (shows : Shows shim record dir entry world later) :
    Scanned shim later
      { history with
        received :=
          Function.update history.received dir
            (history.received dir ++ entry.toList) } := by
  have alone := scanned.alone
  rw [← shows.kernel] at alone
  refine ⟨?_, alone⟩
  intro asked fd stream
  rw [shows.kernel] at stream
  have whole := scanned.shown asked fd stream
  simp only [shows.kernel] at whole ⊢
  by_cases same : asked = dir
  · subst same
    rw [← tracked fd stream] at whole ⊢
    rw [Function.update_self, List.append_assoc, ← shows.shown]
    exact whole
  · have others : later.remaining asked = world.remaining asked := by
      rw [DirectoryWorld.remaining, shows.kernel]
      apply Kernel.ofStream_congr
      intro id under
      apply shows.others
      intro shared
      exact same (scanned.alone asked dir id under shared)
    rw [Function.update_of_ne same, others]
    exact whole

/-- A `getdents64` of another description. -/
theorem Scanned.leave {world : DirectoryWorld} {history : ScanHistory}
    (scanned : Scanned shim world history) {moved : Option Nat}
    (other : ∀ dir id, world.kernel.streamId dir = some id →
      moved ≠ some id)
    (entries : List DirEntry) :
    Scanned shim (world.leave moved entries) history := by
  refine ⟨?_, scanned.alone⟩
  intro dir fd stream
  have same :
      (world.leave moved entries).remaining dir = world.remaining dir :=
    Kernel.ofStream_congr fun id under =>
      DirectoryWorld.left_leave (other dir id under) entries
  rw [same]
  exact scanned.shown dir fd stream

section Reached

variable {state reached : ShimState} {kernel : Kernel}
variable {world : DirectoryWorld} {history : ScanHistory} {done : Action}

/-- A stream that stays is over the same description. -/
theorem Effect.streamId_stays (streams : StreamsKept world.kernel)
    (disciplined : Disciplined world.kernel done)
    (effect : Effect shim state world.kernel done reached kernel)
    {dir : Nat} {fd number : Int}
    (stream : world.kernel.streams dir = some fd)
    (isOpen : kernel.streams dir = some number) :
    kernel.streamId dir = world.kernel.streamId dir := by
  obtain ⟨rfl, same⟩ :=
    effect.stream_stays streams disciplined stream isOpen
  exact Kernel.streamId_of_stays stream isOpen same

/-- A new stream is over a description that no other has. -/
theorem Effect.not_shared_of_new (sound : world.kernel.Sound)
    (streams : StreamsKept world.kernel)
    (disciplined : Disciplined world.kernel done)
    (owns : OwnsPosition world history done)
    (effect : Effect shim state world.kernel done reached kernel)
    {dir other id : Nat} (differs : other ≠ dir)
    (wasFree : world.kernel.streams dir = none)
    (under : kernel.streamId dir = some id) :
    kernel.streamId other ≠ some id := by
  intro otherUnder
  obtain ⟨fd, isOpen, isNamed⟩ := Option.bind_eq_some_iff.mp under
  obtain ⟨number, otherOpen, _⟩ := Option.bind_eq_some_iff.mp otherUnder
  have opens := effect.opensStream wasFree isOpen
  have before : world.kernel.streams other = some number :=
    (opens.others other differs).symm.trans otherOpen
  have otherBefore : world.kernel.streamId other = some id :=
    (effect.streamId_stays streams disciplined before
      otherOpen).symm.trans otherUnder
  rcases opens.description with
    ⟨file, named, isLast, _⟩ | ⟨⟨answer, env, rfl⟩, sameFiles, _⟩
  · rw [Kernel.idAt, named, Option.map_some] at isNamed
    apply Kernel.made_of_used sound otherBefore
    rw [← Option.some.inj isNamed, Kernel.made, isLast,
      if_neg (Nat.lt_irrefl _)]
  · rw [Kernel.idAt, sameFiles] at isNamed
    exact (owns id isNamed).2 other otherBefore

theorem Scanned.alone_effect (scanned : Scanned shim world history)
    (sound : world.kernel.Sound) (streams : StreamsKept world.kernel)
    (disciplined : Disciplined world.kernel done)
    (owns : OwnsPosition world history done)
    (effect : Effect shim state world.kernel done reached kernel)
    {dir other id : Nat} (under : kernel.streamId dir = some id)
    (otherUnder : kernel.streamId other = some id) : dir = other := by
  by_contra differs
  have notShared {new old : Nat} (distinct : old ≠ new)
      (wasFree : world.kernel.streams new = none) :
      kernel.streamId new = some id → kernel.streamId old ≠ some id :=
    effect.not_shared_of_new sound streams disciplined owns distinct
      wasFree
  cases before : world.kernel.streams dir with
  | none =>
      exact notShared (Ne.symm differs) before under otherUnder
  | some fd =>
      cases otherBefore : world.kernel.streams other with
      | none =>
          exact notShared differs otherBefore otherUnder under
      | some number =>
          obtain ⟨_, isOpen, _⟩ := Option.bind_eq_some_iff.mp under
          obtain ⟨_, otherOpen, _⟩ := Option.bind_eq_some_iff.mp otherUnder
          have stays :=
            effect.streamId_stays streams disciplined before isOpen
          have otherStays :=
            effect.streamId_stays streams disciplined otherBefore otherOpen
          exact
            differs
              (scanned.alone dir other id (stays.symm.trans under)
                (otherStays.symm.trans otherUnder))

/-- Of a new stream nothing has been read. -/
theorem Effect.ofStream_new_stream (owns : OwnsPosition world history done)
    (effect : Effect shim state world.kernel done reached kernel)
    {listing : List DirEntry} {dir : Nat} {number : Int}
    (wasFree : world.kernel.streams dir = none)
    (isOpen : kernel.streams dir = some number) :
    kernel.ofStream (atNew world.kernel.made kernel.made listing world.left)
        dir =
      kernel.ofStream
        (atNew world.kernel.made kernel.made listing history.listed)
        dir := by
  rcases (effect.opensStream wasFree isOpen).description with
    ⟨file, named, isLast, created⟩ |
      ⟨⟨answer, env, rfl⟩, sameFiles, sameNext⟩
  · rw [Kernel.ofStream_new isOpen named isLast created,
      Kernel.ofStream_new isOpen named isLast created]
  · have noneMade : kernel.made = world.kernel.made := by
      funext id
      rw [Kernel.made, Kernel.made, sameNext]
    rw [noneMade, atNew_self, atNew_self]
    apply Kernel.ofStream_congr
    intro id under
    rw [Kernel.streamId, isOpen, Option.bind_some, Kernel.idAt,
      sameFiles] at under
    exact (owns id under).1

/-- A step that reads no directory leaves the streams that stay as they were,
and of a new one nothing has been read. -/
theorem Scanned.effect (scanned : Scanned shim world history)
    (sound : world.kernel.Sound) (streams : StreamsKept world.kernel)
    (disciplined : Disciplined world.kernel done)
    (owns : OwnsPosition world history done)
    (effect : Effect shim state world.kernel done reached kernel)
    (listing : List DirEntry) :
    Scanned shim (world.reached listing kernel)
      { openings :=
          logOpening shim state.nodes world.kernel done kernel
            history.openings
        listed :=
          atNew world.kernel.made kernel.made listing history.listed
        received :=
          atNew world.kernel.streams kernel.streams [] history.received } := by
  refine ⟨?_, ?_⟩
  · intro dir number isOpen
    simp only [DirectoryWorld.reached, DirectoryWorld.remaining] at isOpen ⊢
    cases before : world.kernel.streams dir with
    | none =>
        have isNew : kernel.streams dir ≠ none :=
          isOpen ▸ Option.some_ne_none number
        rw [atNew_of_none before isNew, List.nil_append,
          effect.ofStream_new_stream owns before isOpen]
    | some fd =>
        have wasOpen : world.kernel.streams dir ≠ none :=
          before ▸ Option.some_ne_none fd
        have under :=
          effect.streamId_stays streams disciplined before isOpen
        obtain ⟨rfl, same⟩ :=
          effect.stream_stays streams disciplined before isOpen
        rw [atNew_of_ne_none wasOpen, Kernel.ofStream_atNew sound under,
          Kernel.ofStream_atNew sound under, streamRecord,
          openingAt_logOpening sound same]
        exact scanned.shown dir number before
  · intro dir other id
    exact scanned.alone_effect sound streams disciplined owns effect

end Reached

theorem owns_of_readsBatch {world : DirectoryWorld}
    {history : ScanHistory} {done : Action} {fd : Int}
    (owns : OwnsPosition world history done)
    (batch : done.readsBatch = some fd) :
    ∀ dir id, world.kernel.streamId dir = some id →
      world.kernel.idAt fd ≠ some id := by
  cases done with
  | closeBehind other =>
      cases batch
  | call answer env call =>
      cases call with
      | getdents64 other count =>
          cases batch
          exact owns
      | _ =>
          cases batch

theorem ScanKept.step (video : shim.config.gpuVideo = true)
    (ready : shim.ready = true) (holds : ScanKept shim before)
    (disciplined : Disciplined before.1.world.kernel action.1)
    (keeps :
      KeepsRecords shim before.1.state before.1.world.kernel action.1)
    (owns : OwnsPosition before.1.world before.2 action.1)
    (taken : scanStep shim before action = some after) :
    ScanKept shim after := by
  obtain ⟨stepped, recorded⟩ := withHistory_eq_some.mp taken
  have done := effect_of_scanProcessStep video ready stepped
  obtain ⟨finish, history⟩ := after
  simp only at stepped recorded done
  subst recorded
  refine ⟨holds.kept.effect disciplined done, ?_, ?_⟩
  · exact
      (holds.exactly.effect_iff video holds.kept.truthful holds.kept.sound
        holds.kept.streams disciplined done).mpr keeps
  · -- the kernel stays as it is when a directory is read
    have sameOpenings
        (same : finish.world.kernel = before.1.world.kernel) :
        logOpening shim before.1.state.nodes before.1.world.kernel
            action.1 finish.world.kernel before.2.openings =
          before.2.openings := by
      rw [same, logOpening_of_same rfl]
    cases reads : action.1.readsStream with
    | none =>
        cases batch : action.1.readsBatch with
        | none =>
            obtain ⟨_, world, logs⟩ :=
              scanProcessStep_of_other reads batch stepped
            simp only [logs]
            rw [world]
            exact
              holds.scanned.effect holds.kept.sound holds.kept.streams
                disciplined owns done action.2
        | some fd =>
            obtain ⟨_, world, logs⟩ :=
              scanProcessStep_of_readsBatch batch stepped
            have same : finish.world.kernel = before.1.world.kernel := by
              rw [world]
              rfl
            simp only [sameOpenings same, logs]
            rw [same, atNew_self, atNew_self, world]
            exact
              holds.scanned.leave (owns_of_readsBatch owns batch) action.2
    | some asked =>
        obtain ⟨entry, logs, _, shows⟩ :=
          scanProcessStep_of_readsStream video ready reads stepped
        simp only [sameOpenings shows.kernel, logs]
        rw [shows.kernel, atNew_self, atNew_self]
        apply holds.scanned.shows _ shows
        intro fd stream
        rw [Kernel.dirfd, stream, Option.getD_some]
        exact holds.exactly fd

end Runs

def entryNamed (name : String) : DirEntry where
  dIno := 1
  dOff := 0
  dType := 4
  dName := cstr name

/-- The gpus directory of a host with two GPUs, of which one is mounted. -/
def gpusListing : List DirEntry :=
  ["0000:03:00.0", ".", "0000:04:00.0", ".."].map entryNamed

/-- Open the gpus directory and another one, make a stream of the latter's
descriptor, read both in turns and close the other one. -/
def scanTwoDirectories : List ScanAction :=
  [(.call (answers 3 true) containerEnv (.opendir (some gpusPath)),
      gpusListing),
    (.call (answers 4 true) containerEnv
        (.open_ (some (cstr "/proc")) 65536 0), gpusListing),
    (.call { answers 4 true with dir := 1 } containerEnv (.fdopendir 4),
      []),
    (.call (answers 0 true) containerEnv (.readdir 9 0), []),
    (.call (answers 0 true) containerEnv (.readdir64 9 1), []),
    (.call (answers 0 true) containerEnv (.readdir64 9 0), []),
    (.call (answers 0 true) containerEnv (.closedir 1), [])]

end RunpodShim

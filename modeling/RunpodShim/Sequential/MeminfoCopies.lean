import RunpodShim.Sequential.Effects

/-!
# Duplicates of a virtual meminfo

Runs that open `/proc/meminfo`, duplicate descriptors, read and close.  The
history has the text that was built for each description and how much of it
was read, under whichever number.
-/

namespace RunpodShim

open StepRuns

/-! ## The runs -/

/-- The calls that these runs are made of. -/
def Call.isOnMeminfo : Call → Bool
  | .open_ path _ _ | .open64 path _ _ | .openat _ path _ _
  | .openat64 _ path _ _ => path == some meminfoPath
  | .fcntl _ cmd _ => fcntlDuplicatesFd cmd
  | .read _ _ _ | .close _ | .dup _ | .dup2 _ _ | .dup3 _ _ _ => true
  | _ => false

/-- The call asks for a `/proc/meminfo` to virtualise. -/
def Call.virtualises (shim : Shim) : Call → Bool
  | .open_ path flags _ | .open64 path flags _ | .openat _ path flags _
  | .openat64 _ path flags _ =>
      shouldVirtualizeMeminfo shim.config path flags
  | _ => false

/-- The text is built, and the table takes it for the number that is handed
out. -/
def buildSucceeds (answer : Answer) (env : Env) (state : ShimState) : Bool :=
  env.meminfo.any fun text =>
    answer.fd.all fun fd =>
      (rpsFdMapPut env.contentMalloc fd (some text) text.length
        state.entries).1

/-- One of these calls, whose build succeeds if it asks for one. -/
def meminfoStep (shim : Shim) (process : Process Kernel) :
    Action → Option (Process Kernel)
  | .closeBehind _ => none
  | .call answer env call =>
      if call.isOnMeminfo = true ∧
          (call.virtualises shim = true →
            buildSucceeds answer env process.state = true) then
        sequentialStep shim process (.call answer env call)
      else none

/-! ## The history -/

/-- The text that each description is to show, and how many of its bytes were
read. -/
abbrev Contents := Nat → Option (List UInt8 × Nat)

/-- What a descriptor is to show. -/
def contentAt (kernel : Kernel) (contents : Contents) (fd : Int) :
    Option (List UInt8 × Nat) :=
  (kernel.descriptors fd).bind fun file => contents file.id

/-- What is left after a read of at most `count` bytes. -/
def consume (count : Nat) (content : List UInt8 × Nat) : List UInt8 × Nat :=
  (content.1, content.2 + min count (content.1.length - content.2))

/-- A read through any number moves the offset of the description. -/
def readContents (kernel : Kernel) (fd : Int) (count : Nat)
    (contents : Contents) : Contents :=
  match kernel.descriptors fd with
  | none => contents
  | some file =>
      Function.update contents file.id
        ((contents file.id).map (consume count))

def contentsAfter (shim : Shim) (kernel : Kernel) (action : Action)
    (later : Kernel) (contents : Contents) : Contents :=
  match action with
  | .closeBehind _ => contents
  | .call _ _ (.read fd buffer count) =>
      if buffer = true ∨ count = 0 then
        readContents kernel fd count contents
      else contents
  | .call _ env call =>
      if later.nextId = kernel.nextId then contents
      else
        Function.update contents kernel.nextId
          (if call.virtualises shim then
            env.meminfo.map fun text => (text, 0)
          else none)

/-- The system with the history of its contents. -/
def contentStep (shim : Shim) :
    Process Kernel × Contents → Action →
      Option (Process Kernel × Contents) :=
  withHistory (meminfoStep shim) fun before action after contents =>
    contentsAfter shim before.world action after.world contents

/-! ## Reading -/

/-- A read into a buffer, of a descriptor with a content, returns its next
bytes whatever the real `read` would do, which is not called. -/
def ReadsNextBytes (state : ShimState) (kernel : Kernel)
    (contents : Contents) : Prop :=
  ∀ (fd : Int) (text : List UInt8) (consumed : Nat),
    contentAt kernel contents fd = some (text, consumed) →
      ∀ (World : Type) (real : Real World) (world : World) (buffer : Bool)
        (count : Nat),
        (buffer = true ∨ count = 0) →
          let bytes := (text.drop consumed).take count
          let read := Preload.read real fd buffer count ⟨state, world⟩
          read.1 = ⟨⟨bytes.length, 0⟩, bytes⟩ ∧ read.2.world = world

section Reading

variable {state : ShimState} {kernel : Kernel} {contents : Contents}
variable {fd : Int}

/-- Reads that do as they should find an entry for every content. -/
theorem ReadsNextBytes.present
    (reads : ReadsNextBytes state kernel contents)
    {content : List UInt8 × Nat}
    (shows : contentAt kernel contents fd = some content) :
    fdMapStream fd state.entries ≠ none := by
  intro missing
  have read :=
    (reads fd content.1 content.2 shows Unit (constantReal Unit (-1)) ()
      true 0 (Or.inl rfl)).1
  rw [(read_of_no_stream missing _ _ true 0).1] at read
  have value := congrArg (fun filled => filled.ret.value) read
  simp [constantReal] at value

end Reading

/-! ## What holds while originals stay alone -/

/-- Every description with a content has one number, and the table has the
content for it; a number that is closed has no entry. -/
structure MeminfoKept (state : ShimState) (kernel : Kernel)
    (contents : Contents) : Prop where
  sound : kernel.Sound
  table : TableKept state.entries
  free : state.depth = 0
  used : ∀ id, contents id ≠ none → id < kernel.nextId
  held : ∀ fd content, contentAt kernel contents fd = some content →
    fdMapStream fd state.entries = some content
  alone : ∀ fd other file same, kernel.descriptors fd = some file →
    kernel.descriptors other = some same → file.id = same.id →
      contents file.id ≠ none → fd = other
  closed : ∀ fd, kernel.descriptors fd = none →
    fdMapStream fd state.entries = none

theorem MeminfoKept.reads {state : ShimState} {kernel : Kernel}
    {contents : Contents} (kept : MeminfoKept state kernel contents) :
    ReadsNextBytes state kernel contents := by
  intro fd text consumed shows World real world buffer count usable
  have present := kept.held fd (text, consumed) shows
  exact read_of_stream kept.free present real world usable

/-- The call neither duplicates a descriptor with a content, nor leaves it open
when it is to close it, nor asks for the file through a directory. -/
structure KeepsOriginals (shim : Shim) (nodes : List RpsGpuFdNode)
    (kernel : Kernel) (contents : Contents) (answer : Answer) (call : Call) :
    Prop where
  uncopied : ∀ oldfd, call.duplicates = some oldfd →
    (contentAt kernel contents oldfd).isSome →
      kernel.freeFd answer = none
  unreplaced : ∀ oldfd newfd, call.replaces = some (oldfd, newfd) →
    (contentAt kernel contents oldfd).isSome →
      kernel.replaces answer oldfd newfd = false
  attached : ∀ request, call.openRequest nodes = some request →
    call.virtualises shim = true → request.dirfd ≠ atFdcwd →
      request.file kernel answer = none
  closes : ∀ fd, call = .close fd →
    (contentAt kernel contents fd).isSome → kernel.closes answer fd = true

section Keeps

variable {shim : Shim} {state after : ShimState} {kernel later : Kernel}
variable {contents : Contents} {answer : Answer} {env : Env} {call : Call}

theorem contentAt_eq_some_iff {fd : Int} {content : List UInt8 × Nat} :
    contentAt kernel contents fd = some content ↔
      ∃ file,
        kernel.descriptors fd = some file ∧
          contents file.id = some content :=
  Option.bind_eq_some_iff

theorem contentAt_of_named {fd : Int} {file : OpenFile}
    (named : kernel.descriptors fd = some file) :
    contentAt kernel contents fd = contents file.id := by
  rw [contentAt, named, Option.bind_some]

theorem isOpen_of_content {fd : Int}
    (shows : (contentAt kernel contents fd).isSome) :
    ∃ file, kernel.descriptors fd = some file := by
  obtain ⟨content, found⟩ := Option.isSome_iff_exists.mp shows
  obtain ⟨file, named, _⟩ := contentAt_eq_some_iff.mp found
  exact ⟨file, named⟩

/-- A duplicate is to show what the original is to show. -/
theorem contentAt_assign {oldfd : Int} {file : OpenFile}
    (named : kernel.descriptors oldfd = some file) (newfd : Int) :
    contentAt (kernel.assign newfd file) contents newfd =
      contentAt kernel contents oldfd := by
  rw [contentAt_of_named named]
  apply contentAt_of_named
  rw [Kernel.descriptors_assign, if_pos rfl]

/-- A step that takes the entry away from one number, where there is no
content any more, and leaves the others as they were. -/
theorem MeminfoKept.changeAt (kept : MeminfoKept state kernel contents)
    (sound : later.Sound) (table : TableKept after.entries)
    (free : after.depth = state.depth)
    (nextId : later.nextId = kernel.nextId) (fd : Int)
    (elsewhere : ∀ asked, asked ≠ fd →
      later.descriptors asked = kernel.descriptors asked)
    (streams : ∀ asked,
      fdMapStream asked after.entries =
        if asked = fd then none else fdMapStream asked state.entries)
    (plain : contentAt later contents fd = none) :
    MeminfoKept after later contents where
  sound := sound
  table := table
  free := free.trans kept.free
  used := by
    intro id shows
    rw [nextId]
    exact kept.used id shows
  held := by
    intro asked content shows
    have other : asked ≠ fd := by
      intro same
      rw [same, plain] at shows
      cases shows
    rw [streams, if_neg other]
    apply kept.held
    rw [contentAt, ← elsewhere asked other]
    exact shows
  alone := by
    have other {asked : Int} {file : OpenFile}
        (named : later.descriptors asked = some file)
        (shows : contents file.id ≠ none) : asked ≠ fd := by
      intro same
      rw [same] at named
      rw [contentAt_of_named named] at plain
      exact shows plain
    intro first second file same firstNamed secondNamed ids shows
    have firstOther := other firstNamed shows
    have secondOther := other secondNamed (ids ▸ shows)
    rw [elsewhere first firstOther] at firstNamed
    rw [elsewhere second secondOther] at secondNamed
    exact kept.alone first second file same firstNamed secondNamed ids shows
  closed := by
    intro asked isClosed
    rw [streams]
    split
    · rfl
    · rename_i other
      rw [elsewhere asked other] at isClosed
      exact kept.closed asked isClosed

/-- A step that changes neither table nor kernel. -/
theorem MeminfoKept.of_same (kept : MeminfoKept state kernel contents)
    (same : SameTables state after) : MeminfoKept after kernel contents where
  sound := kept.sound
  table := same.entries ▸ kept.table
  free := same.depth.trans kept.free
  used := kept.used
  held := by
    rw [same.entries]
    exact kept.held
  alone := kept.alone
  closed := by
    rw [same.entries]
    exact kept.closed

/-! ## Opening -/

/-- An open of the file to virtualise is not refused. -/
theorem not_refused_of_virtualises (wanted : call.virtualises shim = true) :
    ¬ call.Refused shim state := by
  have effective :
      call.effectivePath state.nodes =
        some (.passthrough, some meminfoPath) := by
    have absolute : pathIsAbsolute (some meminfoPath) = true := by
      decide
    have through (dirfd : Int) {path : Option CString}
        (isMeminfo : path = some meminfoPath) :
        gpuEffectiveOpenatPath state.nodes dirfd path rpsGpuPathMax =
          (.passthrough, some meminfoPath) := by
      rw [isMeminfo]
      exact gpuEffectiveOpenatPath_of_absolute absolute _ dirfd _
    cases call with
    | open_ path flags mode =>
        simp [Call.effectivePath, path_of_shouldVirtualizeMeminfo wanted]
    | open64 path flags mode =>
        simp [Call.effectivePath, path_of_shouldVirtualizeMeminfo wanted]
    | openat dirfd path flags mode =>
        have isMeminfo := path_of_shouldVirtualizeMeminfo wanted
        exact congrArg some (through dirfd isMeminfo)
    | openat64 dirfd path flags mode =>
        have isMeminfo := path_of_shouldVirtualizeMeminfo wanted
        exact congrArg some (through dirfd isMeminfo)
    | _ =>
        cases wanted
  rintro ⟨result, path, same, denies⟩
  rw [effective] at same
  cases same
  rcases denies with isDeny | denies
  · cases isDeny
  · rw [gpuProcDenied_meminfoPath] at denies
    cases denies

/-- Where the build succeeds, an open attaches the text that is built. -/
theorem attachedText_of_built {fd : Int} {path : Option CString}
    {flags : UInt32} (free : state.depth = 0) (valid : 0 ≤ fd)
    (number : answer.fd = some fd)
    (builds : shouldVirtualizeMeminfo shim.config path flags = true →
      buildSucceeds answer env state = true) :
    attachedText shim env fd path flags state =
      if shouldVirtualizeMeminfo shim.config path flags then env.meminfo
      else none := by
  cases wanted : shouldVirtualizeMeminfo shim.config path flags with
  | false =>
      simp [attachedText, wanted]
  | true =>
      obtain ⟨text, built, stored⟩ :=
        (Option.any_eq_true _ _).mp (builds wanted)
      rw [number, Option.all_some] at stored
      rw [if_pos rfl, built]
      exact attachedText_eq_some_iff.mpr ⟨valid, wanted, free, built, stored⟩

/-- An `openat` through a directory attaches nothing. -/
theorem attachedText_of_elsewhere {nodes : List RpsGpuFdNode} {fd : Int}
    {request : OpenRequest} (asked : call.openRequest nodes = some request)
    (elsewhere : request.dirfd ≠ atFdcwd) :
    request.attachedText shim env fd state = none := by
  have unattached : request.attaches = none := by
    cases call with
    | openat dirfd path flags mode =>
        cases asked
        exact if_neg elsewhere
    | openat64 dirfd path flags mode =>
        cases asked
        exact if_neg elsewhere
    | _ =>
        cases asked <;> exact absurd rfl elsewhere
  rw [OpenRequest.attachedText, unattached, Option.bind_none]

/-- An open that keeps to the rules attaches what it is to show. -/
theorem attachedText_of_keeps (kept : MeminfoKept state kernel contents)
    (isOn : call.isOnMeminfo = true)
    (builds : call.virtualises shim = true →
      buildSucceeds answer env state = true)
    (keeps : KeepsOriginals shim state.nodes kernel contents answer call)
    {request : OpenRequest} {file : OpenFile}
    (asked : call.openRequest state.nodes = some request)
    (made : request.file kernel answer = some file) :
    request.attachedText shim env file.first state =
      if call.virtualises shim then env.meminfo else none := by
  have looked := OpenRequest.lookup_of_file made
  obtain ⟨_, _, _, number, valid, _⟩ :=
    Kernel.lookup_eq_some_iff.mp looked
  have attaches {path : Option CString} {flags : UInt32}
      (builds : shouldVirtualizeMeminfo shim.config path flags = true →
        buildSucceeds answer env state = true) :
      attachedText shim env file.first path flags state =
        if shouldVirtualizeMeminfo shim.config path flags then env.meminfo
        else none :=
    attachedText_of_built kept.free valid number builds
  have through (dirfd : Int) (path : Option CString) (flags unread : UInt32)
      (same :
        Call.openRequest state.nodes (.openat dirfd path flags unread) =
          some request)
      (virtualises :
        call.virtualises shim =
          shouldVirtualizeMeminfo shim.config path flags) :
      request.attachedText shim env file.first state =
        if call.virtualises shim then env.meminfo else none := by
    by_cases here : dirfd = atFdcwd
    · cases same
      rw [virtualises] at builds ⊢
      simp only [OpenRequest.attachedText, if_pos here, Option.bind_some]
      exact attaches builds
    · have elsewhere : request.dirfd ≠ atFdcwd := by
        cases same
        exact here
      have isPlain : call.virtualises shim = false := by
        apply Bool.eq_false_iff.mpr
        intro wanted
        rw [keeps.attached request asked wanted elsewhere] at made
        cases made
      rw [attachedText_of_elsewhere asked elsewhere, isPlain]
      rfl
  cases call with
  | open_ path flags mode =>
      cases asked
      exact attaches builds
  | open64 path flags mode =>
      cases asked
      exact attaches builds
  | openat dirfd path flags mode =>
      exact through dirfd path flags mode asked rfl
  | openat64 dirfd path flags mode =>
      exact through dirfd path flags mode asked rfl
  | opendir path =>
      cases isOn
  | opendir64 path =>
      cases isOn
  | _ =>
      cases asked

/-- A new description, with the content that its open attached. -/
theorem MeminfoKept.open_ (kept : MeminfoKept state kernel contents)
    {request : OpenRequest} {file : OpenFile}
    (found :
      kernel.lookup answer request.dirfd request.path = some file)
    {shown : Option (List UInt8)}
    (attached :
      request.attachedText shim env file.first state = shown) :
    MeminfoKept (request.record shim env file.first state)
      (kernel.install file)
      (Function.update contents kernel.nextId
        (shown.map fun text => (text, 0))) := by
  have isNew := Kernel.id_of_lookup found
  have older {fd : Int} {other : OpenFile}
      (named : kernel.descriptors fd = some other) :
      other.id ≠ kernel.nextId :=
    Nat.ne_of_lt (kept.sound.used fd other named)
  constructor
  · exact kept.sound.install found
  · exact kept.table.record
  · exact OpenRequest.depth_record.trans kept.free
  · intro id shows
    have bound : id < kernel.nextId + 1 := by
      by_cases same : id = kernel.nextId
      · omega
      · rw [Function.update_of_ne same] at shows
        exact Nat.lt_succ_of_lt (kept.used id shows)
    exact bound
  · intro fd content shows
    obtain ⟨other, named, has⟩ := contentAt_eq_some_iff.mp shows
    rw [Kernel.descriptors_install] at named
    rw [OpenRequest.fdMapStream_record, attached]
    by_cases here : fd = file.first
    · rw [if_pos here] at named
      cases named
      rw [isNew, Function.update_self] at has
      obtain ⟨text, isShown, rfl⟩ := Option.map_eq_some_iff.mp has
      simp only [isShown, if_pos here]
    · rw [if_neg here] at named
      rw [Function.update_of_ne (older named)] at has
      have before := kept.held fd content
        (contentAt_eq_some_iff.mpr ⟨other, named, has⟩)
      cases shown with
      | none =>
          exact before
      | some text =>
          simp only [if_neg here]
          exact before
  · intro first second left right firstNamed secondNamed ids shows
    rw [Kernel.descriptors_install] at firstNamed secondNamed
    by_cases firstHere : first = file.first
    · by_cases secondHere : second = file.first
      · exact firstHere.trans secondHere.symm
      · rw [if_pos firstHere] at firstNamed
        rw [if_neg secondHere] at secondNamed
        cases firstNamed
        exact absurd (ids.symm.trans isNew) (older secondNamed)
    · rw [if_neg firstHere] at firstNamed
      by_cases secondHere : second = file.first
      · rw [if_pos secondHere] at secondNamed
        cases secondNamed
        exact absurd (ids.trans isNew) (older firstNamed)
      · rw [if_neg secondHere] at secondNamed
        rw [Function.update_of_ne (older firstNamed)] at shows
        exact
          kept.alone first second left right firstNamed secondNamed ids
            shows
  · intro fd isClosed
    rw [Kernel.descriptors_install] at isClosed
    by_cases here : fd = file.first
    · rw [if_pos here] at isClosed
      cases isClosed
    · rw [if_neg here] at isClosed
      have before := kept.closed fd isClosed
      rw [OpenRequest.fdMapStream_record]
      cases request.attachedText shim env file.first state with
      | none =>
          exact before
      | some text =>
          simp only [if_neg here]
          exact before

/-! ## Reading on -/

theorem shows_of_readContents {fd : Int} {count id : Nat}
    (shows : readContents kernel fd count contents id ≠ none) :
    contents id ≠ none := by
  intro missing
  apply shows
  unfold readContents
  cases kernel.descriptors fd with
  | none =>
      exact missing
  | some file =>
      by_cases same : id = file.id
      · simp only [same, Function.update_self]
        rw [← same, missing, Option.map_none]
      · simp only [Function.update_of_ne same]
        exact missing

/-- A read through its one number takes the next bytes of a description. -/
theorem MeminfoKept.read (kept : MeminfoKept state kernel contents)
    {fd : Int} {buffer : Bool} {count : Nat}
    (usable : buffer = true ∨ count = 0)
    (entries :
      after.entries = (rpsFdMapTakeRead buffer fd count state.entries).2)
    (depth : after.depth = state.depth) :
    MeminfoKept after kernel (readContents kernel fd count contents) where
  sound := kept.sound
  table := entries ▸ kept.table.takeRead usable fd
  free := depth.trans kept.free
  used := by
    intro id shows
    exact kept.used id (shows_of_readContents shows)
  held := by
    intro asked content shows
    obtain ⟨other, named, has⟩ := contentAt_eq_some_iff.mp shows
    have before (had : contents other.id = some content) :
        fdMapStream asked state.entries = some content :=
      kept.held asked content
        (contentAt_eq_some_iff.mpr ⟨other, named, had⟩)
    rw [entries, fdMapStream_takeRead usable]
    unfold readContents at has
    cases opened : kernel.descriptors fd with
    | none =>
        rw [opened] at has
        have differs : asked ≠ fd := by
          intro same
          rw [same, opened] at named
          cases named
        rw [if_neg differs]
        exact before has
    | some file =>
        rw [opened] at has
        simp only at has
        by_cases sameFile : other.id = file.id
        · rw [sameFile, Function.update_self] at has
          obtain ⟨content, had, rfl⟩ := Option.map_eq_some_iff.mp has
          have shown : contents other.id ≠ none := by
            rw [sameFile, had]
            exact Option.some_ne_none content
          have here : asked = fd :=
            kept.alone asked fd other file named opened sameFile shown
          have present := kept.held fd content
            (contentAt_eq_some_iff.mpr ⟨file, opened, had⟩)
          rw [if_pos here, present]
          rfl
        · rw [Function.update_of_ne sameFile] at has
          have differs : asked ≠ fd := by
            intro same
            rw [same, opened] at named
            cases named
            exact sameFile rfl
          rw [if_neg differs]
          exact before has
  alone := by
    intro first second left right firstNamed secondNamed ids shows
    exact
      kept.alone first second left right firstNamed secondNamed ids
        (shows_of_readContents shows)
  closed := by
    intro asked isClosed
    have before := kept.closed asked isClosed
    rw [entries, fdMapStream_takeRead usable]
    split
    · rename_i same
      rw [same] at before
      rw [before]
      rfl
    · exact before

/-! ## One step -/

theorem contentsAfter_of_same
    (noRead : ∀ fd buffer count, call ≠ .read fd buffer count)
    (same : later.nextId = kernel.nextId) :
    contentsAfter shim kernel (.call answer env call) later contents =
      contents := by
  cases call with
  | read fd buffer count =>
      exact absurd rfl (noRead fd buffer count)
  | _ =>
      exact if_pos same

theorem contentsAfter_of_opened {nodes : List RpsGpuFdNode}
    {request : OpenRequest}
    (asked : call.openRequest nodes = some request)
    (more : later.nextId = kernel.nextId + 1) :
    contentsAfter shim kernel (.call answer env call) later contents =
      Function.update contents kernel.nextId
        ((if call.virtualises shim then env.meminfo else none).map
          fun text => (text, 0)) := by
  have differs : ¬ later.nextId = kernel.nextId := by
    omega
  have written :
      contentsAfter shim kernel (.call answer env call) later contents =
        Function.update contents kernel.nextId
          (if call.virtualises shim then
            env.meminfo.map fun text => (text, 0)
          else none) := by
    cases call with
    | read fd buffer count =>
        cases asked
    | _ =>
        exact if_neg differs
  rw [written]
  split <;> rfl

/-- A step that keeps to the rules keeps the contents in the table. -/
theorem MeminfoKept.effect (kept : MeminfoKept state kernel contents)
    (isOn : call.isOnMeminfo = true)
    (builds : call.virtualises shim = true →
      buildSucceeds answer env state = true)
    (keeps : KeepsOriginals shim state.nodes kernel contents answer call)
    (done : Effect shim state kernel (.call answer env call) after later) :
    MeminfoKept after later
      (contentsAfter shim kernel (.call answer env call) later
        contents) := by
  have sound := done.sound kept.sound
  have table := done.tableKept kept.table
  have depth := done.depth
  have unlogged
      (noRead : ∀ fd buffer count, call ≠ .read fd buffer count)
      (same : later.nextId = kernel.nextId)
      (holds : MeminfoKept after later contents) :
      MeminfoKept after later
        (contentsAfter shim kernel (.call answer env call) later
          contents) := by
    rw [contentsAfter_of_same noRead same]
    exact holds
  cases done with
  | idle same quiet =>
      apply unlogged _ rfl (kept.of_same same)
      intro fd buffer count isRead
      exact quiet.reads fd buffer count isRead kept.free
  | read fd buffer count nodes entries _ =>
      by_cases usable : buffer = true ∨ count = 0
      · rw [contentsAfter, if_pos usable]
        exact kept.read usable entries depth
      · rw [contentsAfter, if_neg usable]
        rw [rpsFdMapTakeRead_of_unusable usable] at entries
        exact kept.of_same ⟨nodes, entries, depth⟩
  | opened request file asked goesOn found stream =>
      have made := OpenRequest.file_of_lookup found stream
      rw [contentsAfter_of_opened asked rfl]
      apply kept.open_ found
      exact attachedText_of_keeps kept isOn builds keeps asked made
  | openedDir request file asked goesOn found stream directory unused =>
      cases call with
      | opendir path =>
          cases isOn
      | opendir64 path =>
          cases isOn
      | _ =>
          cases asked <;> cases stream
  | copied oldfd newfd file asked named free =>
      have noRead (fd : Int) (buffer : Bool) (count : Nat) :
          call ≠ .read fd buffer count := by
        rintro rfl
        cases asked
      have closed := kept.closed newfd (Kernel.unused_of_freeFd free)
      apply unlogged noRead rfl
      refine kept.changeAt sound table rfl rfl newfd ?_ ?_ ?_
      · intro asked other
        rw [Kernel.descriptors_assign, if_neg other]
      · intro asked
        split
        · rename_i here
          rw [here]
          exact closed
        · rfl
      · rw [contentAt_assign named]
        apply Option.not_isSome_iff_eq_none.mp
        intro shows
        rw [keeps.uncopied oldfd asked shows] at free
        cases free
  | replaced oldfd newfd file asked named replaces =>
      have noRead (fd : Int) (buffer : Bool) (count : Nat) :
          call ≠ .read fd buffer count := by
        rintro rfl
        cases asked
      apply unlogged noRead rfl
      refine kept.changeAt sound table rfl rfl newfd ?_ ?_ ?_
      · intro asked other
        rw [Kernel.descriptors_assign, if_neg other]
      · exact fdMapStream_remove kept.table newfd
      · rw [contentAt_assign named]
        apply Option.not_isSome_iff_eq_none.mp
        intro shows
        rw [keeps.unreplaced oldfd newfd asked shows] at replaces
        cases replaces
  | closed fd closes =>
      apply unlogged nofun rfl
      refine kept.changeAt sound table rfl rfl fd ?_ ?_ ?_
      · intro asked other
        rw [Kernel.descriptors_release, if_neg other]
      · exact fdMapStream_remove kept.table fd
      · rw [contentAt, Kernel.descriptors_release, if_pos rfl]
        rfl
  | dropped fd fails =>
      apply unlogged nofun rfl
      refine kept.changeAt sound table rfl rfl fd ?_ ?_ ?_
      · intro asked other
        rfl
      · exact fdMapStream_remove kept.table fd
      · apply Option.not_isSome_iff_eq_none.mp
        intro shows
        exact fails (keeps.closes fd rfl shows)
  | streamed fd file named directory unused =>
      cases isOn
  | closedDir dir fd stream wasOpen =>
      cases isOn
  | freedDir dir fd stream fails =>
      cases isOn

end Keeps

/-! ## Steps that break the rules -/

section Breaks

variable {shim : Shim} {state after : ShimState} {kernel later : Kernel}
variable {contents : Contents} {answer : Answer} {env : Env} {call : Call}
variable
  (reads :
    ReadsNextBytes after later
      (contentsAfter shim kernel (.call answer env call) later contents))

include reads

/-- A descriptor that is to show an old content has an entry for it. -/
theorem entry_of_unlogged {fd shown : Int} {content : List UInt8 × Nat}
    (noRead : ∀ fd buffer count, call ≠ .read fd buffer count)
    (nextId : later.nextId = kernel.nextId)
    (found : contentAt kernel contents shown = some content)
    (same :
      contentAt later contents fd = contentAt kernel contents shown) :
    fdMapStream fd after.entries ≠ none := by
  have shows :
      contentAt later
          (contentsAfter shim kernel (.call answer env call) later contents)
          fd = some content := by
    rw [contentsAfter_of_same noRead nextId, same]
    exact found
  exact reads.present shows

variable (kept : MeminfoKept state kernel contents)
variable
  (done : Effect shim state kernel (.call answer env call) after later)

include kept done

theorem uncopied_of_reads (oldfd : Int)
    (asked : call.duplicates = some oldfd)
    (shows : (contentAt kernel contents oldfd).isSome) :
    kernel.freeFd answer = none := by
  cases free : kernel.freeFd answer with
  | none =>
      rfl
  | some newfd =>
      obtain ⟨content, found⟩ := Option.isSome_iff_exists.mp shows
      obtain ⟨file, named⟩ := isOpen_of_content shows
      have noRead (fd : Int) (buffer : Bool) (count : Nat) :
          call ≠ .read fd buffer count := by
        rintro rfl
        cases asked
      obtain ⟨rfl, rfl⟩ := done.of_duplicates asked named free
      have unused := Kernel.unused_of_freeFd free
      exact
        absurd (kept.closed newfd unused)
          (entry_of_unlogged reads noRead rfl found
            (contentAt_assign named newfd))

theorem unreplaced_of_reads (oldfd newfd : Int)
    (asked : call.replaces = some (oldfd, newfd))
    (shows : (contentAt kernel contents oldfd).isSome) :
    kernel.replaces answer oldfd newfd = false := by
  apply Bool.eq_false_iff.mpr
  intro replaces
  obtain ⟨content, found⟩ := Option.isSome_iff_exists.mp shows
  obtain ⟨file, named⟩ := isOpen_of_content shows
  have noRead (fd : Int) (buffer : Bool) (count : Nat) :
      call ≠ .read fd buffer count := by
    rintro rfl
    cases asked
  obtain ⟨rfl, rfl⟩ := done.of_replaces asked named replaces
  have removed :
      fdMapStream newfd (rpsFdMapRemove newfd state.entries) = none :=
    (fdMapStream_remove kept.table newfd newfd).trans (if_pos rfl)
  exact
    absurd removed
      (entry_of_unlogged reads noRead rfl found
        (contentAt_assign named newfd))

theorem attached_of_reads
    (builds : call.virtualises shim = true →
      buildSucceeds answer env state = true)
    (request : OpenRequest)
    (asked : call.openRequest state.nodes = some request)
    (wanted : call.virtualises shim = true)
    (elsewhere : request.dirfd ≠ atFdcwd) :
    request.file kernel answer = none := by
  cases made : request.file kernel answer with
  | none =>
      rfl
  | some file =>
      have goesOn : ¬ call.Refused shim state :=
        not_refused_of_virtualises wanted
      obtain ⟨rfl, descriptors, nextId⟩ := done.of_file asked goesOn made
      have looked := OpenRequest.lookup_of_file made
      obtain ⟨text, built, _⟩ :=
        (Option.any_eq_true _ _).mp (builds wanted)
      have opened : later.descriptors file.first = some file := by
        rw [descriptors, Kernel.descriptors_install, if_pos rfl]
      have shows :
          contentAt later
              (contentsAfter shim kernel (.call answer env call) later
                contents) file.first = some (text, 0) := by
        rw [contentAt_of_named opened, contentsAfter_of_opened asked nextId,
          Kernel.id_of_lookup looked, Function.update_self, if_pos wanted,
          built]
        rfl
      have unattached :
          request.attachedText shim env file.first state = none :=
        attachedText_of_elsewhere asked elsewhere
      have unused := kept.closed file.first (Kernel.free_of_lookup looked)
      apply absurd _ (reads.present shows)
      rw [OpenRequest.fdMapStream_record, unattached]
      exact unused

theorem closes_of_reads (fd : Int) (isClose : call = .close fd)
    (shows : (contentAt kernel contents fd).isSome) :
    kernel.closes answer fd = true := by
  subst isClose
  cases done with
  | closed closed closes =>
      exact closes
  | dropped closed fails =>
      obtain ⟨content, found⟩ := Option.isSome_iff_exists.mp shows
      have removed :
          fdMapStream fd (rpsFdMapRemove fd state.entries) = none :=
        (fdMapStream_remove kept.table fd fd).trans (if_pos rfl)
      exact
        absurd removed
          (entry_of_unlogged reads nofun rfl found rfl)
  | idle same quiet =>
      exact absurd rfl (quiet.closes fd)
  | opened request file asked goesOn found stream =>
      cases asked
  | openedDir request file asked goesOn found stream directory unused =>
      cases asked
  | copied oldfd newfd file asked named free =>
      cases asked
  | replaced oldfd newfd file asked named replaces =>
      cases asked

end Breaks

/-! ## Runs -/

section Runs

variable {shim : Shim}

/-- What a step of these runs is. -/
theorem effect_of_contentStep
    {before after : Process Kernel × Contents} {action : Action}
    (taken : contentStep shim before action = some after) :
    ∃ answer env call,
      action = .call answer env call ∧ call.isOnMeminfo = true ∧
        (call.virtualises shim = true →
          buildSucceeds answer env before.1.state = true) ∧
        Effect shim before.1.state before.1.world action after.1.state
          after.1.world ∧
        after.2 =
          contentsAfter shim before.1.world action after.1.world
            before.2 := by
  obtain ⟨stepped, logged⟩ := withHistory_eq_some.mp taken
  cases action with
  | closeBehind fd =>
      cases stepped
  | call answer env call =>
      obtain ⟨⟨isOn, builds⟩, stepped⟩ :=
        Option.ite_none_right_eq_some.mp stepped
      exact
        ⟨answer, env, call, rfl, isOn, builds, effect_of_step stepped,
          logged⟩

/-- The action leaves every description with a content to its one reader. -/
def Action.KeepsOriginals (shim : Shim) (before : Process Kernel × Contents) :
    Action → Prop
  | .call answer _ made =>
      RunpodShim.KeepsOriginals shim before.1.state.nodes before.1.world
        before.2 answer made
  | .closeBehind _ => True

theorem meminfoKept_start (cwd : List CString) :
    MeminfoKept (Process.start cwd).state (Process.start cwd).world
      fun _ => none where
  sound := Kernel.sound_initial cwd
  table := tableKept_emptyEntries
  free := rfl
  used := by
    intro id shows
    exact absurd rfl shows
  held := nofun
  alone := nofun
  closed := by
    intro fd _
    exact fdMapStream_emptyEntries fd

/-- Every description of a run shows its text to all its readers exactly when
none is duplicated. -/
theorem readsNextBytes_iff (shim : Shim) (cwd : List CString)
    (actions : List Action) :
    Throughout (contentStep shim)
        (fun current =>
          ReadsNextBytes current.1.state current.1.world current.2)
        (Process.start cwd, fun _ => none) actions ↔
      StepsMeet (contentStep shim)
        (fun before action _ => action.KeepsOriginals shim before)
        (Process.start cwd, fun _ => none) actions := by
  have keeps (before : Process Kernel × Contents) (action : Action)
      (after : Process Kernel × Contents)
      (kept : MeminfoKept before.1.state before.1.world before.2)
      (met : action.KeepsOriginals shim before)
      (taken : contentStep shim before action = some after) :
      MeminfoKept after.1.state after.1.world after.2 := by
    obtain ⟨answer, env, call, rfl, isOn, builds, done, logged⟩ :=
      effect_of_contentStep taken
    rw [logged]
    exact kept.effect isOn builds met done
  have breaks (before : Process Kernel × Contents) (action : Action)
      (after : Process Kernel × Contents)
      (kept : MeminfoKept before.1.state before.1.world before.2)
      (unmet : ¬ action.KeepsOriginals shim before)
      (taken : contentStep shim before action = some after) :
      ¬ ReadsNextBytes after.1.state after.1.world after.2 := by
    obtain ⟨answer, env, call, rfl, _, builds, done, logged⟩ :=
      effect_of_contentStep taken
    intro reads
    rw [logged] at reads
    exact
      unmet
        { uncopied := uncopied_of_reads reads kept done
          unreplaced := unreplaced_of_reads reads kept done
          attached := attached_of_reads reads kept done builds
          closes := closes_of_reads reads kept done }
  exact
    throughout_iff_stepsMeet (fun _ kept => kept.reads) keeps breaks actions
      (meminfoKept_start cwd)

end Runs

/-! ## A shell redirection -/

/-- Open `/proc/meminfo` and put it in the place of the standard input. -/
def redirectMeminfo : List Action :=
  [.call (answers 3 false) containerEnv (.open_ (some meminfoPath) 0 0),
    .call (answers 0 false) containerEnv (.dup2 3 0)]

/-- The standard input then reads the real file. -/
theorem not_readsNextBytes_redirectMeminfo :
    ∃ finish,
      runFrom (contentStep containerShim)
          (Process.start [], fun _ => none) redirectMeminfo =
        some finish ∧
        contentAt finish.1.world finish.2 0 =
          some (cstr "MemTotal: 1 kB", 0) ∧
        (∀ (World : Type) (real : Real World) (world : World),
          (Preload.read real 0 true 16 ⟨finish.1.state, world⟩).1 =
            (real.read 0 true 16 world).1) ∧
        ¬ ReadsNextBytes finish.1.state finish.1.world finish.2 := by
  have redirected :
      (runFrom (contentStep containerShim)
          (Process.start [], fun _ => none) redirectMeminfo).map
            (fun finish =>
              (contentAt finish.1.world finish.2 0,
                fdMapStream 0 finish.1.state.entries)) =
        some (some (cstr "MemTotal: 1 kB", 0), none) := by
    decide
  obtain ⟨finish, run, seen⟩ := Option.map_eq_some_iff.mp redirected
  rw [Prod.mk.injEq] at seen
  obtain ⟨shows, missing⟩ := seen
  refine ⟨finish, run, shows, ?_, ?_⟩
  · intro World real world
    exact (read_of_no_stream missing real world true 16).1
  · intro reads
    exact reads.present shows missing

end RunpodShim

import RunpodShim.Behaviour.DirectoryScan
import RunpodShim.Behaviour.PathDecision
import RunpodShim.Library.TextLines

/-!
# What topology discovery hides

From the directories and the information files to the decision on a GPU's
directory.
-/

namespace RunpodShim

open LexicalPath
open TextLines

/-! ## The scans -/

section Scans

variable {Found : Type} {visit : Found → CString → Found}

theorem scanBatch_direntBytes {records : List Dirent} {rounds : Nat}
    (enough : (direntBytes records).length ≤ rounds) (found : Found) :
    scanBatch visit rounds (direntBytes records) found =
      ((records.map Dirent.name).foldl visit found, true) := by
  induction records generalizing rounds found with
  | nil =>
      cases rounds with
      | zero =>
          rfl
      | succ rounds =>
          rw [scanBatch, if_pos direntBytes_nil]
          rfl
  | cons record rest inductionHypothesis =>
      have positive := record.bytes_length_pos
      rw [direntBytes_cons, List.length_append] at enough
      cases rounds with
      | zero =>
          omega
      | succ rounds =>
          have more : direntBytes (record :: rest) ≠ [] := by
            intro empty
            cases direntBytes_eq_nil_iff.mp empty
          have usable :
              ¬ (dReclen (direntBytes (record :: rest)) = 0 ∨
                dReclen (direntBytes (record :: rest)) >
                  (direntBytes (record :: rest)).length) := by
            rw [direntBytes_cons, record.dReclen_append,
              List.length_append]
            omega
          rw [scanBatch, if_neg more, if_neg usable, direntBytes_cons,
            record.dReclen_append, record.dName_append, List.drop_left,
            inductionHypothesis (by omega)]
          rfl

theorem scanBatches_direntBytes {batches : List (List Dirent)}
    (nonempty : ∀ batch, batch ∈ batches → batch ≠ []) (found : Found) :
    scanBatches visit (batches.map direntBytes) found =
      (batches.flatten.map Dirent.name).foldl visit found := by
  induction batches generalizing found with
  | nil =>
      rfl
  | cons batch rest inductionHypothesis =>
      rw [List.forall_mem_cons] at nonempty
      have later := inductionHypothesis nonempty.2
      cases bytes : direntBytes batch with
      | nil =>
          exact absurd (direntBytes_eq_nil_iff.mp bytes) nonempty.1
      | cons byte more =>
          rw [List.map_cons, bytes, scanBatches, ← bytes,
            scanBatch_direntBytes (Nat.le_refl _)]
          · simp only [later, List.flatten_cons, List.map_append,
              List.foldl_append]
          · simp

/-- A bounded collection takes every item, as long as there are no more than
there is room for. -/
theorem foldl_of_collects {Item : Type} {capacity : Nat}
    {visit : List Item → CString → List Item} {pick : CString → Option Item}
    (skips : ∀ items name, pick name = none → visit items name = items)
    (takes :
      ∀ items name item, pick name = some item → items.length < capacity →
        visit items name = items ++ [item])
    {names : List CString} {items : List Item}
    (room : items.length + (names.filterMap pick).length ≤ capacity) :
    names.foldl visit items = items ++ names.filterMap pick := by
  induction names generalizing items with
  | nil =>
      simp
  | cons name rest inductionHypothesis =>
      rw [List.foldl_cons]
      cases picked : pick name with
      | none =>
          rw [List.filterMap_cons_none picked] at room ⊢
          rw [skips items name picked, inductionHypothesis room]
      | some item =>
          rw [List.filterMap_cons_some picked] at room ⊢
          rw [List.length_cons] at room
          have roomLater :
              (items ++ [item]).length + (rest.filterMap pick).length ≤
                capacity := by
            rw [List.length_append, List.length_singleton]
            omega
          rw [takes items name item picked (by omega),
            inductionHypothesis roomLater, List.append_assoc]
          rfl

end Scans

/-- The names that a directory lists; none when it cannot be opened. -/
def listedNames (listing : Option Listing) : List CString :=
  ((listing.map Listing.batches).getD []).flatten.map Dirent.name

/-- The minors of the mounted device nodes. -/
def mountedMinors (tree : GpuTree) : List Int :=
  ((listedNames tree.dev).filterMap rpsGpuNameIsNvidiaMinor).map
    fun (minor : Nat) => (minor : Int)

/-- The directories of the GPUs. -/
def gpuDirectories (tree : GpuTree) : List CString :=
  (listedNames tree.gpus).filter fun name =>
    name ≠ cstr "." ∧ name ≠ cstr ".."

/-- What the information files say, where they can be read and parsed. -/
def gpuInfos (tree : GpuTree) : List RpsGpuInfo :=
  (gpuDirectories tree).filterMap (readGpuInfo tree)

theorem foldl_visitDevName {capacity : Nat} {names : List CString}
    (room :
      (names.filterMap rpsGpuNameIsNvidiaMinor).length ≤ capacity) :
    names.foldl (visitDevName capacity) [] =
      (names.filterMap rpsGpuNameIsNvidiaMinor).map
        fun (minor : Nat) => (minor : Int) := by
  have few :
      ([] : List Int).length +
          (names.filterMap fun name =>
            (rpsGpuNameIsNvidiaMinor name).map
              fun (minor : Nat) => (minor : Int)).length ≤
        capacity := by
    rw [← List.map_filterMap, List.length_map, List.length_nil,
      Nat.zero_add]
    exact room
  rw [List.map_filterMap]
  apply foldl_of_collects _ _ few
  · intro minors name notMinor
    rw [Option.map_eq_none_iff] at notMinor
    rw [visitDevName, notMinor]
  · intro minors name item picked fits
    rw [Option.map_eq_some_iff] at picked
    obtain ⟨minor, isMinor, rfl⟩ := picked
    rw [visitDevName, isMinor]
    exact if_pos fits

theorem foldl_visitGpuName (tree : GpuTree) {capacity : Nat}
    {names : List CString}
    (room :
      (names.filter fun name =>
        name ≠ cstr "." ∧ name ≠ cstr "..").length ≤ capacity) :
    names.foldl (visitGpuName tree capacity) [] =
      (names.filter fun name =>
        name ≠ cstr "." ∧ name ≠ cstr "..").filterMap
          (readGpuInfo tree) := by
  have parsed :=
    List.length_filterMap_le (readGpuInfo tree)
      (names.filter fun name => name ≠ cstr "." ∧ name ≠ cstr "..")
  rw [List.filterMap_filter] at parsed ⊢
  have few :
      ([] : List RpsGpuInfo).length +
          (names.filterMap fun name =>
            if decide (name ≠ cstr "." ∧ name ≠ cstr "..") then
              readGpuInfo tree name
            else none).length ≤
        capacity := by
    rw [List.length_nil, Nat.zero_add]
    exact Nat.le_trans parsed room
  apply foldl_of_collects _ _ few
  · intro infos name notPicked
    rw [visitGpuName]
    split
    · rename_i visits
      rw [if_pos (by simpa using ⟨visits.1, visits.2.1⟩)] at notPicked
      rw [notPicked]
    · rfl
  · intro infos name info picked fits
    split at picked
    · rename_i proper
      rw [decide_eq_true_eq] at proper
      rw [visitGpuName, if_pos ⟨proper.1, proper.2, fits⟩, picked]
    · cases picked

/-- A tree that fits the arrays of the module, with names as a file system
has them. -/
structure FitsModule (tree : GpuTree) : Prop where
  nodes : (mountedMinors tree).length ≤ rpsGpuMaxGpus
  directories : (gpuDirectories tree).length ≤ rpsGpuMaxGpus
  proper : ∀ name, name ∈ gpuDirectories tree → IsName unixPath name

section Collecting

variable {tree : GpuTree}

theorem rpsGpuCollectMountedMinors_eq (fits : FitsModule tree) :
    rpsGpuCollectMountedMinors tree rpsGpuMaxGpus = mountedMinors tree := by
  have few := fits.nodes
  rw [mountedMinors, List.length_map] at few
  rw [rpsGpuCollectMountedMinors, if_neg (by decide), mountedMinors]
  cases opened : tree.dev with
  | none =>
      rfl
  | some listing =>
      rw [opened] at few
      exact
        (scanBatches_direntBytes listing.nonempty []).trans
          (foldl_visitDevName few)

theorem rpsGpuCollectGpuInfos_eq (fits : FitsModule tree) :
    rpsGpuCollectGpuInfos tree rpsGpuMaxGpus = gpuInfos tree := by
  have few := fits.directories
  rw [gpuDirectories] at few
  rw [rpsGpuCollectGpuInfos, if_neg (by decide), gpuInfos, gpuDirectories]
  cases opened : tree.gpus with
  | none =>
      rfl
  | some listing =>
      rw [opened] at few
      exact
        (scanBatches_direntBytes listing.nonempty []).trans
          (foldl_visitGpuName tree few)

theorem length_gpuInfos_le (fits : FitsModule tree) :
    (gpuInfos tree).length ≤ rpsGpuMaxGpus :=
  Nat.le_trans (List.length_filterMap_le _ _) fits.directories

end Collecting

/-! ## The bus id of a parsed file -/

section BusIds

variable {name bus : CString} {text : CString} {parse : InfoParse}

theorem isName_informationName : IsName unixPath informationName := by
  decide

/-- The bus id that the path of an information file gives. -/
theorem rpsGpuExtractProcBus_informationPath (proper : IsName unixPath name)
    (extracted :
      rpsGpuExtractProcBus (some (informationPath name))
        rpsGpuProcBusIdMax = some bus) :
    bus = name := by
  have below :
      ∀ other, other ∈ [name, informationName] → IsName unixPath other := by
    intro other member
    rcases List.mem_cons.mp member with rfl | last
    · exact proper
    · rw [List.mem_singleton.mp last]
      exact isName_informationName
  have written :
      informationPath name =
        gpusPath ++ render slash [name, informationName] := by
    simp [informationPath]
  have names :
      resolve unixPath [] (segments slash (informationPath name)) =
        gpusNames ++ [name, informationName] := by
    rw [written, resolve_below_gpusPath below]
  unfold rpsGpuExtractProcBus at extracted
  rw [rpsGpuExtractProcBusKind_eq] at extracted
  cases normal : namesWithin rpsGpuProcPathMax (informationPath name) with
  | none =>
      rw [normal] at extracted
      cases extracted
  | some found =>
      have same := (resolve_of_namesWithin normal).trans names
      rw [normal, same, Option.bind_some, gpuPathOf_append,
        gpuPathBelow] at extracted
      by_cases short : name.length < rpsGpuProcBusIdMax
      · rw [if_pos ⟨short, rfl⟩] at extracted
        exact (Option.some.inj extracted).symm
      · rw [if_neg fun both => short both.1] at extracted
        cases extracted

/-- What one line does to the bus id, when it repeats the name. -/
theorem busId_parseInfoLine {line : CString}
    (repeats :
      ∀ value, rpsGpuValueAfterKey line busLocationKey = some value →
        value = name)
    (before : parse.info.busId = [] ∨ parse.info.busId = name) :
    (parseInfoLine line parse).info.busId = [] ∨
      (parseInfoLine line parse).info.busId = name := by
  unfold parseInfoLine
  split
  · split
    · exact before
    · exact before
  · split
    · rename_i value located
      split
      · exact before
      · rw [repeats value located, rpsGpuCopySliceExact]
        split
        · rename_i busId copied
          split at copied
          · cases copied
          · exact Or.inr (Option.some.inj copied).symm
        · exact before
    · split
      · split
        · exact before
        · exact before
      · exact before

theorem busId_parseInfoLines {lines : List CString}
    (repeats :
      ∀ line, line ∈ lines → ∀ value,
        rpsGpuValueAfterKey line busLocationKey = some value →
          value = name)
    (before : parse.info.busId = [] ∨ parse.info.busId = name) :
    (lines.foldl (fun parse line => parseInfoLine line parse)
        parse).info.busId = [] ∨
      (lines.foldl (fun parse line => parseInfoLine line parse)
        parse).info.busId = name := by
  induction lines generalizing parse with
  | nil =>
      exact before
  | cons line rest inductionHypothesis =>
      rw [List.forall_mem_cons] at repeats
      exact
        inductionHypothesis repeats.2
          (busId_parseInfoLine repeats.1 before)

/-- A parsed text whose lines repeat the name gives the name. -/
theorem busId_of_rpsGpuParseGpuInformation {info : RpsGpuInfo}
    (proper : IsName unixPath name)
    (repeats :
      ∀ line, line ∈ infoLines text → ∀ value,
        rpsGpuValueAfterKey line busLocationKey = some value →
          value = name)
    (parsed :
      rpsGpuParseGpuInformation (some (informationPath name)) (some text) =
        some info) :
    info.busId = name := by
  simp only [rpsGpuParseGpuInformation,
    parseInfoLines_eq (Nat.le_refl text.length)] at parsed
  have start :
      (⟨rpsGpuZeroInfo, true⟩ : InfoParse).info.busId = [] ∨
        (⟨rpsGpuZeroInfo, true⟩ : InfoParse).info.busId = name :=
    Or.inl rfl
  have either := busId_parseInfoLines repeats start
  revert parsed either
  generalize (infoLines text).foldl
    (fun parse line => parseInfoLine line parse)
      ⟨rpsGpuZeroInfo, true⟩ = after
  intro parsed either
  split at parsed
  · cases parsed
  · split at parsed
    · cases parsed
    · rename_i busId found
      have isName : busId = name := by
        split at found
        · exact rpsGpuExtractProcBus_informationPath proper found
        · rename_i given
          rw [← Option.some.inj found]
          exact either.resolve_left given
      split at parsed
      · rw [← Option.some.inj parsed]
        exact isName
      · cases parsed

end BusIds

/-! ## The decision on a directory -/

/-- The information of some mounted GPU names the directory. -/
def NamedByMounted (tree : GpuTree) (name : CString) : Prop :=
  ∃ info, info ∈ gpuInfos tree ∧
    info.deviceMinor ∈ mountedMinors tree ∧ info.busId = name

/-- The information file of the directory was read and parsed, and its minor
is not mounted. -/
def KnownUnmounted (tree : GpuTree) (name : CString) : Prop :=
  ∃ info, readGpuInfo tree name = some info ∧
    info.deviceMinor ∉ mountedMinors tree

/-- Some information file was read and parsed with a mounted minor. -/
def SomeMounted (tree : GpuTree) : Prop :=
  ∃ info, info ∈ gpuInfos tree ∧ info.deviceMinor ∈ mountedMinors tree

/-- Only directories of GPUs known to be unmounted are hidden. -/
def HidesOnlyUnmounted (tree : GpuTree) : Prop :=
  ∀ name, name ∈ gpuDirectories tree →
    rpsGpuProcPathAllowed (some (rpsGpuProcFilterRuntimeInit tree none))
        (some (busPath name)) = .deny →
      KnownUnmounted tree name

/-- A bus location, where a text that was read has one, is the name of the
directory. -/
def BusLocationsRepeat (tree : GpuTree) : Prop :=
  ∀ name, name ∈ gpuDirectories tree → ∀ text,
    rpsGpuReadFileToBuffer tree (informationPath name) textBufferSize =
        some text →
      ∀ line, line ∈ infoLines text → ∀ value,
        rpsGpuValueAfterKey line busLocationKey = some value →
          value = name

section Decisions

variable {tree : GpuTree} {name : CString}

theorem mem_gpuInfos {info : RpsGpuInfo} :
    info ∈ gpuInfos tree ↔
      ∃ name, name ∈ gpuDirectories tree ∧
        readGpuInfo tree name = some info := by
  rw [gpuInfos, List.mem_filterMap]

theorem exists_text_of_readGpuInfo {info : RpsGpuInfo}
    (read : readGpuInfo tree name = some info) :
    ∃ text,
      rpsGpuReadFileToBuffer tree (informationPath name) textBufferSize =
          some text ∧
        rpsGpuParseGpuInformation (some (informationPath name))
          (some text) = some info := by
  unfold readGpuInfo at read
  split at read
  · split at read
    · cases read
    · rename_i text delivered
      exact ⟨text, delivered, read⟩
  · cases read

theorem isSelected_of_mem_gpuInfos {info : RpsGpuInfo}
    (member : info ∈ gpuInfos tree) :
    IsSelected (mountedMinors tree) none info ↔
      info.deviceMinor ∈ mountedMinors tree := by
  constructor
  · intro selected
    exact selected.mounted
  · intro mounted
    obtain ⟨name, _, read⟩ := mem_gpuInfos.mp member
    obtain ⟨text, _, parsed⟩ := exists_text_of_readGpuInfo read
    refine ⟨present_of_rpsGpuParseGpuInformation parsed, mounted, ?_⟩
    intro uuid explicit
    cases explicit

/-- The names that the path of a GPU's directory normalises to. -/
theorem names_of_busPath (proper : IsName unixPath name)
    {names : List CString}
    (within : namesWithin rpsGpuProcPathMax (busPath name) = some names) :
    names = gpusNames ++ [name] := by
  have written : busPath name = gpusPath ++ render slash [name] := by
    simp [busPath]
  rw [resolve_of_namesWithin within, written, resolve_below_gpusPath]
  intro other member
  rw [List.mem_singleton.mp member]
  exact proper

theorem rpsGpuProcPathAllowed_busPath (allowed : Option RpsGpuAllowedGpus)
    (proper : IsName unixPath name) :
    rpsGpuProcPathAllowed allowed (some (busPath name)) =
      if name.length ≤ 31 then gpuPathDecision allowed (.busDir name)
      else .ignore := by
  rw [rpsGpuProcPathAllowed_eq]
  by_cases short : name.length ≤ 31
  · have place : gpuPathBelow [name] = .busDir name :=
      if_pos (Nat.lt_succ_of_le short)
    rw [namesWithin_busPath proper short, if_pos short]
    simp only [gpuPathOf_append, place]
  · rw [if_neg short]
    cases within : namesWithin rpsGpuProcPathMax (busPath name) with
    | none =>
        rfl
    | some names =>
        have place : gpuPathBelow [name] = .outside :=
          if_neg fun fits => short (Nat.le_of_lt_succ fits)
        simp only [names_of_busPath proper within, gpuPathOf_append, place]
        rfl

/-- Which directories are denied. -/
theorem deny_busPath_iff (fits : FitsModule tree)
    (proper : IsName unixPath name) :
    rpsGpuProcPathAllowed (some (rpsGpuProcFilterRuntimeInit tree none))
        (some (busPath name)) = .deny ↔
      name.length ≤ 31 ∧ SomeMounted tree ∧ ¬ NamedByMounted tree name := by
  have selected :
      ∀ info, info ∈ gpuInfos tree →
        (IsSelected (mountedMinors tree) none info ↔
          info.deviceMinor ∈ mountedMinors tree) :=
    fun info => isSelected_of_mem_gpuInfos
  rw [rpsGpuProcPathAllowed_busPath _ proper, rpsGpuProcFilterRuntimeInit,
    rpsGpuCollectGpuInfos_eq fits, rpsGpuCollectMountedMinors_eq fits]
  by_cases short : name.length ≤ 31
  · rw [if_pos short,
      gpuPathDecision_built_eq_deny_iff (length_gpuInfos_le fits)
        proper.nonempty (Or.inl rfl)]
    have some :
        (∃ info, info ∈ gpuInfos tree ∧
            IsSelected (mountedMinors tree) none info) ↔
          SomeMounted tree :=
      exists_congr fun info => and_congr_right (selected info)
    have named :
        (∃ info, info ∈ gpuInfos tree ∧
            IsSelected (mountedMinors tree) none info ∧
              info.busId = name) ↔
          NamedByMounted tree name :=
      exists_congr fun info =>
        and_congr_right fun member =>
          and_congr_left fun _ => selected info member
    rw [some, named]
    simp [short]
  · simp [short]

/-- The bus id of a directory, when bus locations repeat the name. -/
theorem busId_of_readGpuInfo {info : RpsGpuInfo}
    (repeats : BusLocationsRepeat tree) (proper : IsName unixPath name)
    (member : name ∈ gpuDirectories tree)
    (read : readGpuInfo tree name = some info) :
    info.busId = name := by
  obtain ⟨text, delivered, parsed⟩ := exists_text_of_readGpuInfo read
  exact
    busId_of_rpsGpuParseGpuInformation proper
      (repeats name member text delivered) parsed

/-- Then a mounted GPU names its own directory and no other. -/
theorem namedByMounted_iff (fits : FitsModule tree)
    (repeats : BusLocationsRepeat tree)
    (member : name ∈ gpuDirectories tree) :
    NamedByMounted tree name ↔
      ∃ info, readGpuInfo tree name = some info ∧
        info.deviceMinor ∈ mountedMinors tree := by
  constructor
  · intro given
    rcases given with ⟨info, inInfos, mounted, isName⟩
    obtain ⟨other, inDirectories, read⟩ := mem_gpuInfos.mp inInfos
    have same :=
      busId_of_readGpuInfo repeats (fits.proper other inDirectories)
        inDirectories read
    rw [isName] at same
    exact ⟨info, same ▸ read, mounted⟩
  · intro given
    rcases given with ⟨info, read, mounted⟩
    exact
      ⟨info, mem_gpuInfos.mpr ⟨name, member, read⟩, mounted,
        busId_of_readGpuInfo repeats (fits.proper name member) member
          read⟩

theorem hidesOnlyUnmounted_iff_named (fits : FitsModule tree) :
    HidesOnlyUnmounted tree ↔
      ¬ SomeMounted tree ∨
        ∀ name, name ∈ gpuDirectories tree → name.length ≤ 31 →
          NamedByMounted tree name ∨ KnownUnmounted tree name := by
  constructor
  · intro hides
    by_cases some : SomeMounted tree
    · right
      intro name member short
      by_cases named : NamedByMounted tree name
      · exact Or.inl named
      · right
        apply hides name member
        exact
          (deny_busPath_iff fits (fits.proper name member)).mpr
            ⟨short, some, named⟩
    · exact Or.inl some
  · intro either name member denied
    obtain ⟨short, some, notNamed⟩ :=
      (deny_busPath_iff fits (fits.proper name member)).mp denied
    rcases either with nobody | all
    · exact absurd some nobody
    · exact (all name member short).resolve_left notNamed

end Decisions

/-- Topology discovery hides GPUs known to be unmounted only, exactly when it
finds no mounted GPU at all or reads and parses the information of every
directory that has a bus id's length.  Without the assumption on bus locations
a directory may also be named by another one's file. -/
theorem hidesOnlyUnmounted_iff {tree : GpuTree} (fits : FitsModule tree) :
    (HidesOnlyUnmounted tree ↔
      ¬ SomeMounted tree ∨
        ∀ name, name ∈ gpuDirectories tree → name.length ≤ 31 →
          NamedByMounted tree name ∨ KnownUnmounted tree name) ∧
    (BusLocationsRepeat tree →
      (HidesOnlyUnmounted tree ↔
        ¬ SomeMounted tree ∨
          ∀ name, name ∈ gpuDirectories tree → name.length ≤ 31 →
            ∃ info, readGpuInfo tree name = some info)) := by
  refine ⟨hidesOnlyUnmounted_iff_named fits, ?_⟩
  intro repeats
  rw [hidesOnlyUnmounted_iff_named fits]
  have determined :
      ∀ name, name ∈ gpuDirectories tree →
        (NamedByMounted tree name ∨ KnownUnmounted tree name ↔
          ∃ info, readGpuInfo tree name = some info) := by
    intro name member
    rw [namedByMounted_iff fits repeats member, KnownUnmounted]
    constructor
    · intro either
      rcases either with ⟨info, read, _⟩ | ⟨info, read, _⟩
      · exact ⟨info, read⟩
      · exact ⟨info, read⟩
    · intro given
      rcases given with ⟨info, read⟩
      by_cases mounted : info.deviceMinor ∈ mountedMinors tree
      · exact Or.inl ⟨info, read, mounted⟩
      · exact Or.inr ⟨info, read, mounted⟩
  apply or_congr_right
  constructor
  · intro all name member short
    exact (determined name member).mp (all name member short)
  · intro all name member short
    exact (determined name member).mpr (all name member short)

/-! ## Two GPUs, one of them mounted -/

/-- The node of the mounted GPU in `/dev`. -/
def mountedNode : Dirent where
  bytes := List.replicate 16 0 ++ [28, 0, 2] ++ cstr "nvidia4" ++ [0, 0]
  sized := by decide
  headed := by decide
  named := by decide

/-- A file system with the directories of two GPUs, and what reading the
information of the second one delivers. -/
def twoGpuTree (second : Option (List UInt8)) : GpuTree where
  dev := some ⟨[[selfDirent, mountedNode]], by simp⟩
  gpus := some ⟨[[selfDirent, mountedDirent], [hiddenDirent]], by simp⟩
  file := fun path =>
    if path = informationPath (cstr "0000:04:00.0") then
      some (cstr "Bus Location: \t 0000:04:00.0\nDevice Minor: \t 4\n")
    else if path = informationPath (cstr "0000:05:00.0") then second
    else none

theorem mountedMinors_twoGpuTree (second : Option (List UInt8)) :
    mountedMinors (twoGpuTree second) = [4] := by
  change mountedMinors (twoGpuTree none) = [4]
  decide

theorem gpuDirectories_twoGpuTree (second : Option (List UInt8)) :
    gpuDirectories (twoGpuTree second) =
      [cstr "0000:04:00.0", cstr "0000:05:00.0"] := by
  change
    gpuDirectories (twoGpuTree none) =
      [cstr "0000:04:00.0", cstr "0000:05:00.0"]
  decide

theorem fitsModule_twoGpuTree (second : Option (List UInt8)) :
    FitsModule (twoGpuTree second) where
  nodes := by
    rw [mountedMinors_twoGpuTree]
    decide
  directories := by
    rw [gpuDirectories_twoGpuTree]
    decide
  proper := by
    rw [gpuDirectories_twoGpuTree]
    decide

/-- The text of the second GPU's information file. -/
def secondInformation : List UInt8 :=
  cstr "Bus Location: \t 0000:05:00.0\nDevice Minor: \t 5\n"

theorem busLocationsRepeat_twoGpuTree {second : Option (List UInt8)}
    (known : second = none ∨ second = some secondInformation) :
    BusLocationsRepeat (twoGpuTree second) := by
  have firstRepeats :
      ∀ line,
        line ∈ infoLines
            (cstr "Bus Location: \t 0000:04:00.0\nDevice Minor: \t 4\n") →
          rpsGpuValueAfterKey line busLocationKey = none ∨
            rpsGpuValueAfterKey line busLocationKey =
              some (cstr "0000:04:00.0") := by
    decide
  have secondRepeats :
      ∀ line, line ∈ infoLines secondInformation →
        rpsGpuValueAfterKey line busLocationKey = none ∨
          rpsGpuValueAfterKey line busLocationKey =
            some (cstr "0000:05:00.0") := by
    decide
  intro name member text delivered line inLines value located
  rw [gpuDirectories_twoGpuTree] at member
  rcases List.mem_cons.mp member with rfl | last
  · have isText :
        rpsGpuReadFileToBuffer (twoGpuTree second)
            (informationPath (cstr "0000:04:00.0")) textBufferSize =
          some
            (cstr "Bus Location: \t 0000:04:00.0\nDevice Minor: \t 4\n") := by
      change
        rpsGpuReadFileToBuffer (twoGpuTree none)
            (informationPath (cstr "0000:04:00.0")) textBufferSize = _
      decide
    rw [isText] at delivered
    rw [← Option.some.inj delivered] at inLines
    have either := firstRepeats line inLines
    rw [located] at either
    simpa using either
  · rw [List.mem_singleton.mp last] at delivered ⊢
    rcases known with rfl | rfl
    · have unread :
          rpsGpuReadFileToBuffer (twoGpuTree none)
            (informationPath (cstr "0000:05:00.0")) textBufferSize =
              none := by
        decide
      rw [unread] at delivered
      cases delivered
    · have isText :
          rpsGpuReadFileToBuffer (twoGpuTree (some secondInformation))
              (informationPath (cstr "0000:05:00.0")) textBufferSize =
            some secondInformation := by
        decide
      rw [isText] at delivered
      rw [← Option.some.inj delivered] at inLines
      have either := secondRepeats line inLines
      rw [located] at either
      simpa using either

/-- With both files read nothing but the second GPU is hidden. -/
theorem hidesOnlyUnmounted_bothRead :
    HidesOnlyUnmounted (twoGpuTree (some secondInformation)) := by
  have repeats : BusLocationsRepeat (twoGpuTree (some secondInformation)) :=
    busLocationsRepeat_twoGpuTree (Or.inr rfl)
  apply
    ((hidesOnlyUnmounted_iff (fitsModule_twoGpuTree _)).2 repeats).mpr
  right
  intro name member _
  rw [gpuDirectories_twoGpuTree] at member
  rcases List.mem_cons.mp member with rfl | last
  · exact ⟨⟨true, 4, cstr "0000:04:00.0", []⟩, by decide⟩
  · rw [List.mem_singleton.mp last]
    exact ⟨⟨true, 5, cstr "0000:05:00.0", []⟩, by decide⟩

/-- A GPU whose information file cannot be read is hidden as soon as another
one is mounted. -/
theorem not_hidesOnlyUnmounted_unreadable :
    FitsModule (twoGpuTree none) ∧ BusLocationsRepeat (twoGpuTree none) ∧
      ¬ HidesOnlyUnmounted (twoGpuTree none) := by
  refine
    ⟨fitsModule_twoGpuTree none,
      busLocationsRepeat_twoGpuTree (Or.inl rfl), ?_⟩
  intro hides
  have member :
      cstr "0000:05:00.0" ∈ gpuDirectories (twoGpuTree none) := by
    decide
  have denied :
      rpsGpuProcPathAllowed
          (some (rpsGpuProcFilterRuntimeInit (twoGpuTree none) none))
          (some (busPath (cstr "0000:05:00.0"))) = .deny := by
    decide
  obtain ⟨info, read, _⟩ := hides _ member denied
  have unread :
      readGpuInfo (twoGpuTree none) (cstr "0000:05:00.0") = none := by
    decide
  rw [unread] at read
  cases read

end RunpodShim

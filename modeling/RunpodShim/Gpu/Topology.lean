import Mathlib.Data.List.DropRight
import RunpodShim.Gpu.DirentFilter
import RunpodShim.Library.TextLines

/-!
# Topology discovery

The other side of `gpu/proc_filter.c`: which GPUs are mounted, what their
information files say, and the allowed set that comes of it.
-/

namespace RunpodShim

open LexicalPath
open TextLines

/-- `RPS_GPU_PROC_UUID_MAX`. -/
def rpsGpuProcUuidMax : Nat := 96

/-- `PATH_MAX`. -/
def pathMax : Nat := 4096

/-- `sizeof(text_buffer)`. -/
def textBufferSize : Nat := 8192

/-! ## The information file -/

/-- The number in the name of a device node. -/
def rpsGpuNameIsNvidiaMinor (name : CString) : Option Nat :=
  if cstr "nvidia" <+: name then
    match name.drop (cstr "nvidia").length with
    | [] => none
    | first :: rest => digitLoop intMax (first :: rest) 0
  else none

/-- The record as `rps_gpu_zero_info` leaves it. -/
def rpsGpuZeroInfo : RpsGpuInfo where
  present := false
  deviceMinor := -1
  busId := []
  uuid := []

/-- The bytes that `rps_gpu_trim_slice` takes off both ends. -/
def isBlank (byte : UInt8) : Bool :=
  byte == 32 || byte == 9 || byte == carriageReturn || byte == newline

def rpsGpuTrimSlice (slice : CString) : CString :=
  (slice.dropWhile isBlank).rdropWhile isBlank

def rpsGpuCopySliceExact (dstSize : Nat) (src : CString) :
    Option CString :=
  if dstSize = 0 ∨ src.length ≥ dstSize then none else some src

def rpsGpuParseNonnegativeInt (src : CString) : Option Nat :=
  if src.length = 0 then none else digitLoop intMax src 0

def rpsGpuValueAfterKey (line key : CString) : Option CString :=
  if key <+: line then some (rpsGpuTrimSlice (line.drop key.length))
  else none

/-- `rps_gpu_extract_proc_bus`; `none` is the result 0. -/
def rpsGpuExtractProcBus (path : Option CString) (busIdSize : Nat) :
    Option CString :=
  match rpsGpuExtractProcBusKind path busIdSize with
  | none => none
  | some kind => if kind.isInformation then some kind.busId else none

/-- `info` and `ok` inside `rps_gpu_parse_gpu_information`. -/
structure InfoParse where
  info : RpsGpuInfo
  ok : Bool
deriving DecidableEq, Repr

def uuidKey : CString := cstr "GPU UUID:"

def busLocationKey : CString := cstr "Bus Location:"

def deviceMinorKey : CString := cstr "Device Minor:"

/-- The chain of tests on one line. -/
def parseInfoLine (line : CString) (parse : InfoParse) : InfoParse :=
  match rpsGpuValueAfterKey line uuidKey with
  | some value =>
      match rpsGpuCopySliceExact rpsGpuProcUuidMax value with
      | some uuid => { parse with info := { parse.info with uuid := uuid } }
      | none => { parse with ok := false }
  | none =>
      match rpsGpuValueAfterKey line busLocationKey with
      | some value =>
          if value.length = 0 then { parse with ok := false }
          else
            match rpsGpuCopySliceExact rpsGpuProcBusIdMax value with
            | some busId =>
                { parse with info := { parse.info with busId := busId } }
            | none => { parse with ok := false }
      | none =>
          match rpsGpuValueAfterKey line deviceMinorKey with
          | some value =>
              match rpsGpuParseNonnegativeInt value with
              | some minor =>
                  { parse with
                    info := { parse.info with deviceMinor := minor } }
              | none => { parse with ok := false }
          | none => parse

/-- `if (line_len > 0 && line[line_len - 1] == '\r') line_len--`. -/
def dropCarriageReturn (line : CString) : CString :=
  if line.getLast? = some carriageReturn then line.dropLast else line

/-- The loop over the lines of the text; every round passes a byte, so the
length of the text is enough rounds. -/
def parseInfoLines : Nat → CString → InfoParse → InfoParse
  | 0, _, parse => parse
  | rounds + 1, text, parse =>
      if text = [] then parse
      else
        let line := dropCarriageReturn (text.takeWhile (· != newline))
        parseInfoLines rounds ((text.dropWhile (· != newline)).drop 1)
          (parseInfoLine line parse)

/-- `rps_gpu_parse_gpu_information`; `none` is the result 0, with which
`present` is 0 and no caller reads the rest. -/
def rpsGpuParseGpuInformation (path text : Option CString) :
    Option RpsGpuInfo :=
  match text with
  | none => none
  | some text =>
      let parse := parseInfoLines text.length text ⟨rpsGpuZeroInfo, true⟩
      if !parse.ok then none
      else
        let busId :=
          if parse.info.busId = [] then
            rpsGpuExtractProcBus path rpsGpuProcBusIdMax
          else some parse.info.busId
        match busId with
        | none => none
        | some busId =>
            if parse.info.deviceMinor ≥ 0 ∧ busId ≠ [] then
              some { parse.info with present := true, busId := busId }
            else none

/-- The lines of the text as the parser sees them. -/
def infoLines (text : CString) : List CString :=
  (rawLines newline text).map fun raw =>
    dropCarriageReturn (raw.takeWhile (· != newline))

theorem parseInfoLines_eq {rounds : Nat} {text : CString}
    (enough : text.length ≤ rounds) (parse : InfoParse) :
    parseInfoLines rounds text parse =
      (infoLines text).foldl (fun parse line => parseInfoLine line parse)
        parse := by
  induction rounds generalizing text parse with
  | zero =>
      rw [List.eq_nil_of_length_eq_zero (Nat.le_zero.mp enough)]
      rfl
  | succ rounds inductionHypothesis =>
      by_cases done : text = []
      · subst done
        rfl
      · have shorter :
            (afterFirstLine newline text).length < text.length :=
          length_afterFirstLine_lt done
        have later :
            ((text.dropWhile (· != newline)).drop 1).length ≤ rounds :=
          Nat.le_of_lt_succ (Nat.lt_of_lt_of_le shorter enough)
        rw [parseInfoLines, if_neg done, infoLines, rawLines_of_ne_nil done,
          List.map_cons, List.foldl_cons, takeWhile_firstLine,
          inductionHypothesis later]
        rfl

/-- What the caller of a successful parse may rely on. -/
theorem present_of_rpsGpuParseGpuInformation {path text : Option CString}
    {info : RpsGpuInfo}
    (parsed : rpsGpuParseGpuInformation path text = some info) :
    info.present = true := by
  unfold rpsGpuParseGpuInformation at parsed
  split at parsed
  · cases parsed
  · simp only at parsed
    split at parsed
    · cases parsed
    · split at parsed
      · cases parsed
      · split at parsed
        · cases parsed
          rfl
        · cases parsed

/-! ## The allowed set -/

/-- `rps_gpu_minor_is_mounted`. -/
def rpsGpuMinorIsMounted (minor : Int) (mounted : Option (List Int)) :
    Bool :=
  match mounted with
  | none => false
  | some minors => minors.contains minor

/-- `explicit_uuid != NULL && explicit_uuid[0] != '\0' && strcmp(...) != 0`. -/
def otherUuid (explicitUuid : Option CString) (uuid : CString) : Bool :=
  match explicitUuid with
  | none => false
  | some wanted => !wanted.isEmpty && uuid != wanted

/-- The loop of `rps_gpu_build_allowed_gpus`, with the GPUs so far. -/
def collectAllowed (mounted : Option (List Int))
    (explicitUuid : Option CString) :
    List RpsGpuInfo → List RpsGpuInfo → List RpsGpuInfo
  | gpus, [] => gpus
  | gpus, info :: rest =>
      if gpus.length < rpsGpuMaxGpus then
        if !info.present then collectAllowed mounted explicitUuid gpus rest
        else if !rpsGpuMinorIsMounted info.deviceMinor mounted then
          collectAllowed mounted explicitUuid gpus rest
        else if otherUuid explicitUuid info.uuid then
          collectAllowed mounted explicitUuid gpus rest
        else collectAllowed mounted explicitUuid (gpus ++ [info]) rest
      else gpus

theorem length_collectAllowed_le (mounted : Option (List Int))
    (explicitUuid : Option CString) (gpus infos : List RpsGpuInfo)
    (few : gpus.length ≤ rpsGpuMaxGpus) :
    (collectAllowed mounted explicitUuid gpus infos).length ≤
      rpsGpuMaxGpus := by
  induction infos generalizing gpus with
  | nil =>
      exact few
  | cons info rest inductionHypothesis =>
      unfold collectAllowed
      split
      · rename_i room
        have pushed : (gpus ++ [info]).length ≤ rpsGpuMaxGpus := by
          rw [List.length_append]
          exact room
        split
        · exact inductionHypothesis gpus few
        · split
          · exact inductionHypothesis gpus few
          · split
            · exact inductionHypothesis gpus few
            · exact inductionHypothesis _ pushed
      · exact few

/-- A set that allows nothing. -/
def noAllowedGpus : RpsGpuAllowedGpus where
  valid := false
  gpus := []
  count_le := Nat.zero_le _

/-- `rps_gpu_build_allowed_gpus`; its result is the `valid` of the set. -/
def rpsGpuBuildAllowedGpus (infos : Option (List RpsGpuInfo))
    (mounted : Option (List Int)) (explicitUuid : Option CString) :
    RpsGpuAllowedGpus :=
  match infos, mounted with
  | some infos, some minors =>
      if infos.length = 0 ∨ minors.length = 0 then noAllowedGpus
      else
        { valid :=
            decide
              ((collectAllowed (some minors) explicitUuid [] infos).length
                > 0)
          gpus := collectAllowed (some minors) explicitUuid [] infos
          count_le :=
            length_collectAllowed_le (some minors) explicitUuid [] infos
              (Nat.zero_le _) }
  | _, _ => noAllowedGpus

/-- An entry that the allowed set is made of: a present one with a mounted
minor, and with the explicit uuid if there is one. -/
structure IsSelected (minors : List Int) (explicitUuid : Option CString)
    (info : RpsGpuInfo) : Prop where
  present : info.present = true
  mounted : info.deviceMinor ∈ minors
  wanted : ∀ uuid, explicitUuid = some uuid → uuid ≠ [] → info.uuid = uuid

theorem otherUuid_eq_false_iff {explicitUuid : Option CString}
    {uuid : CString} :
    otherUuid explicitUuid uuid = false ↔
      ∀ wanted, explicitUuid = some wanted → wanted ≠ [] → uuid = wanted := by
  cases explicitUuid with
  | none =>
      simp [otherUuid]
  | some wanted =>
      simp only [otherUuid, Bool.and_eq_false_iff, Bool.not_eq_false',
        List.isEmpty_iff, bne_eq_false_iff_eq, Option.some.injEq,
        forall_eq']
      exact or_iff_not_imp_left

theorem isSelected_iff {minors : List Int} {explicitUuid : Option CString}
    {info : RpsGpuInfo} :
    IsSelected minors explicitUuid info ↔
      info.present = true ∧
        rpsGpuMinorIsMounted info.deviceMinor (some minors) = true ∧
        otherUuid explicitUuid info.uuid = false := by
  rw [otherUuid_eq_false_iff]
  constructor
  · intro selected
    exact
      ⟨selected.present, List.contains_iff_mem.mpr selected.mounted,
        selected.wanted⟩
  · intro given
    rcases given with ⟨present, mounted, wanted⟩
    exact ⟨present, List.contains_iff_mem.mp mounted, wanted⟩

instance (minors : List Int) (explicitUuid : Option CString) :
    DecidablePred (IsSelected minors explicitUuid) :=
  fun _ => decidable_of_iff _ isSelected_iff.symm

/-- The loop takes every selected entry, as long as there are no more than the
array holds. -/
theorem collectAllowed_eq (minors : List Int)
    (explicitUuid : Option CString) {gpus infos : List RpsGpuInfo}
    (few : gpus.length + infos.length ≤ rpsGpuMaxGpus) :
    collectAllowed (some minors) explicitUuid gpus infos =
      gpus ++ infos.filter fun info =>
        IsSelected minors explicitUuid info := by
  induction infos generalizing gpus with
  | nil =>
      simp [collectAllowed]
  | cons info rest inductionHypothesis =>
      rw [List.length_cons] at few
      have room : gpus.length < rpsGpuMaxGpus := by omega
      have skipped : gpus.length + rest.length ≤ rpsGpuMaxGpus := by omega
      have taken : (gpus ++ [info]).length + rest.length ≤ rpsGpuMaxGpus := by
        rw [List.length_append, List.length_singleton]
        omega
      rw [collectAllowed, if_pos room]
      by_cases selected : IsSelected minors explicitUuid info
      · obtain ⟨present, mounted, wanted⟩ := isSelected_iff.mp selected
        simp only [present, mounted, wanted, Bool.not_true,
          Bool.false_eq_true, if_false]
        rw [inductionHypothesis taken, List.filter_cons,
          if_pos (decide_eq_true selected), List.append_assoc]
        rfl
      · have dropped :
            (info :: rest).filter
                (fun info => IsSelected minors explicitUuid info) =
              rest.filter fun info =>
                IsSelected minors explicitUuid info := by
          rw [List.filter_cons, if_neg]
          simpa using selected
        rw [dropped]
        split
        · exact inductionHypothesis skipped
        · rename_i present
          split
          · exact inductionHypothesis skipped
          · rename_i mounted
            split
            · exact inductionHypothesis skipped
            · rename_i wanted
              apply absurd (isSelected_iff.mpr ⟨?_, ?_, ?_⟩) selected
              · simpa using present
              · simpa using mounted
              · simpa using wanted

/-- The allowed set holds the selected entries, and is valid when there are
any. -/
theorem gpus_rpsGpuBuildAllowedGpus {infos : List RpsGpuInfo}
    (few : infos.length ≤ rpsGpuMaxGpus) (minors : List Int)
    (explicitUuid : Option CString) :
    (rpsGpuBuildAllowedGpus (some infos) (some minors) explicitUuid).gpus =
      infos.filter fun info => IsSelected minors explicitUuid info := by
  unfold rpsGpuBuildAllowedGpus
  by_cases nothing : infos.length = 0 ∨ minors.length = 0
  · simp only [if_pos nothing]
    symm
    apply List.filter_eq_nil_iff.mpr
    intro info member selected
    have mounted := (of_decide_eq_true selected).mounted
    rcases nothing with noInfo | noMinor
    · rw [List.eq_nil_of_length_eq_zero noInfo] at member
      cases member
    · rw [List.eq_nil_of_length_eq_zero noMinor] at mounted
      cases mounted
  · simp only [if_neg nothing]
    rw [collectAllowed_eq minors explicitUuid (by simpa using few)]
    rfl

theorem valid_rpsGpuBuildAllowedGpus (infos : Option (List RpsGpuInfo))
    (minors : Option (List Int)) (explicitUuid : Option CString) :
    (rpsGpuBuildAllowedGpus infos minors explicitUuid).valid = true ↔
      (rpsGpuBuildAllowedGpus infos minors explicitUuid).gpus ≠ [] := by
  unfold rpsGpuBuildAllowedGpus
  split
  · split
    · simp [noAllowedGpus]
    · simp [List.length_pos_iff]
  · simp [noAllowedGpus]

/-! ## Scanning the directories -/

/-- A directory as `getdents64` hands it out, batch by batch; what follows the
last batch is the end or an error. -/
structure Listing where
  batches : List (List Dirent)
  nonempty : ∀ batch, batch ∈ batches → batch ≠ []

/-- What topology discovery reads: `/dev` and the gpus directory, unless they
cannot be opened, and what reading a file delivers up to its end, unless it
cannot be opened or read. -/
structure GpuTree where
  dev : Option Listing
  gpus : Option Listing
  file : CString → Option (List UInt8)

/-- The loop over the records of one batch, and whether the function goes on
after it.  Every round passes a byte. -/
def scanBatch {Found : Type} (visit : Found → CString → Found) :
    Nat → List UInt8 → Found → Found × Bool
  | 0, _, found => (found, true)
  | rounds + 1, bytes, found =>
      if bytes = [] then (found, true)
      else if dReclen bytes = 0 ∨ dReclen bytes > bytes.length then
        (found, false)
      else
        scanBatch visit rounds (bytes.drop (dReclen bytes))
          (visit found (dName bytes))

/-- The loop over the batches. -/
def scanBatches {Found : Type} (visit : Found → CString → Found) :
    List (List UInt8) → Found → Found
  | [], found => found
  | [] :: _, found => found
  | batch :: rest, found =>
      match scanBatch visit batch.length batch found with
      | (next, true) => scanBatches visit rest next
      | (next, false) => next

/-- `rps_gpu_collect_mounted_minors`: the visit of one name. -/
def visitDevName (capacity : Nat) (minors : List Int) (name : CString) :
    List Int :=
  match rpsGpuNameIsNvidiaMinor name with
  | some minor =>
      if minors.length < capacity then minors ++ [(minor : Int)] else minors
  | none => minors

def rpsGpuCollectMountedMinors (tree : GpuTree) (capacity : Nat) :
    List Int :=
  if capacity = 0 then []
  else
    match tree.dev with
    | none => []
    | some listing =>
        scanBatches (visitDevName capacity)
          (listing.batches.map direntBytes) []

/-- `rps_gpu_read_file_to_buffer`: the C string in the buffer. -/
def rpsGpuReadFileToBuffer (tree : GpuTree) (path : CString)
    (bufferSize : Nat) : Option CString :=
  match tree.file path with
  | none => none
  | some bytes =>
      let used := bytes.take (bufferSize - 1)
      if used.length > 0 then some (used.takeWhile (· != 0)) else none

/-- `snprintf` of the path of an information file. -/
def informationPath (name : CString) : CString :=
  gpusPath ++ slash :: (name ++ slash :: informationName)

/-- What one directory of the gpus directory yields. -/
def readGpuInfo (tree : GpuTree) (name : CString) : Option RpsGpuInfo :=
  if (informationPath name).length < pathMax then
    match
      rpsGpuReadFileToBuffer tree (informationPath name) textBufferSize
    with
    | none => none
    | some text =>
        rpsGpuParseGpuInformation (some (informationPath name)) (some text)
  else none

/-- `rps_gpu_collect_gpu_infos`: the visit of one name. -/
def visitGpuName (tree : GpuTree) (capacity : Nat)
    (infos : List RpsGpuInfo) (name : CString) : List RpsGpuInfo :=
  if name ≠ cstr "." ∧ name ≠ cstr ".." ∧ infos.length < capacity then
    match readGpuInfo tree name with
    | some info => infos ++ [info]
    | none => infos
  else infos

def rpsGpuCollectGpuInfos (tree : GpuTree) (capacity : Nat) :
    List RpsGpuInfo :=
  if capacity = 0 then []
  else
    match tree.gpus with
    | none => []
    | some listing =>
        scanBatches (visitGpuName tree capacity)
          (listing.batches.map direntBytes) []

/-- `rps_gpu_proc_filter_runtime_init`; its result is the `valid` of the
set. -/
def rpsGpuProcFilterRuntimeInit (tree : GpuTree)
    (explicitUuid : Option CString) : RpsGpuAllowedGpus :=
  rpsGpuBuildAllowedGpus
    (some (rpsGpuCollectGpuInfos tree rpsGpuMaxGpus))
    (some (rpsGpuCollectMountedMinors tree rpsGpuMaxGpus)) explicitUuid

end RunpodShim

import RunpodShim.CString

/-!
# The procfs path filter

The path side of `gpu/proc_filter.c`: normalisation, the extraction of a bus
id and the decision.  Over them stands `GpuPath`, what a normal form means to
the filter, and each function is shown to compute it.
-/

namespace RunpodShim

open LexicalPath

/-- `RPS_GPU_MAX_GPUS`. -/
def rpsGpuMaxGpus : Nat := 32

/-- `RPS_GPU_PROC_PATH_MAX`. -/
def rpsGpuProcPathMax : Nat := 256

/-- `RPS_GPU_PROC_BUS_ID_MAX`. -/
def rpsGpuProcBusIdMax : Nat := 32

/-- The number of elements of the `segments` arrays. -/
def rpsGpuSegmentsMax : Nat := 64

structure RpsGpuInfo where
  present : Bool
  deviceMinor : Int
  busId : CString
  uuid : CString
deriving DecidableEq, Repr

/-- The allowed set; `gpus` holds the first `count` elements of the array. -/
structure RpsGpuAllowedGpus where
  valid : Bool
  gpus : List RpsGpuInfo
  count_le : gpus.length ≤ rpsGpuMaxGpus
deriving DecidableEq, Repr

inductive RpsGpuProcDecision where
  | ignore
  | allow
  | deny
deriving DecidableEq, Repr

/-! ## Normalisation -/

/-- `..` in `rps_gpu_proc_normalize_path`: `if (count > 0) count--`. -/
def rootedClimb (stack : List CString) : Option (List CString) :=
  some stack.dropLast

/-- The copying loop: each segment after a slash, while it fits. -/
def joinSegments (outSize : Nat) : List CString → CString → Option CString
  | [], out => some out
  | segment :: rest, out =>
      if out.length + 1 + segment.length ≥ outSize then none
      else joinSegments outSize rest (out ++ slash :: segment)

/-- `rps_gpu_proc_normalize_path`; `none` is the result 0. -/
def rpsGpuProcNormalizePath
    (path : Option CString) (outSize : Nat) : Option CString :=
  match path with
  | none => none
  | some path =>
      if outSize < 2 ∨ path.head? ≠ some slash then none
      else
        match
          scan slash (enterWithin unixPath rpsGpuSegmentsMax rootedClimb)
            path.length path []
        with
        | none => none
        | some [] => some [slash]
        | some (first :: rest) => joinSegments outSize (first :: rest) []

theorem joinSegments_eq (outSize : Nat) (names : List CString)
    (out : CString) (fits : out.length < outSize) :
    joinSegments outSize names out =
      if (out ++ render slash names).length < outSize then
        some (out ++ render slash names)
      else none := by
  induction names generalizing out with
  | nil =>
      simp [joinSegments, fits]
  | cons name rest inductionHypothesis =>
      by_cases tooLong : out.length + 1 + name.length ≥ outSize
      · have whole :
            ¬ (out ++ render slash (name :: rest)).length < outSize := by
          simp only [render_cons, List.length_append, List.length_cons]
          omega
        rw [joinSegments, if_pos tooLong, if_neg whole]
      · have nextFits : (out ++ slash :: name).length < outSize := by
          simp only [List.length_append, List.length_cons]
          omega
        rw [joinSegments, if_neg tooLong, inductionHypothesis _ nextFits]
        simp

/-- The names of a path's normal form, if it keeps to the limits. -/
def namesWithin (outSize : Nat) (path : CString) : Option (List CString) :=
  if path.head? = some slash then
    (walkWithin unixPath rpsGpuSegmentsMax rootedClimb []
      (segments slash path)).filter
        fun names => (canonical names).length < outSize
  else none

/-- Normalisation finds the names and writes them canonically. -/
theorem rpsGpuProcNormalizePath_eq (path : CString) {outSize : Nat}
    (room : 2 ≤ outSize) :
    rpsGpuProcNormalizePath (some path) outSize =
      (namesWithin outSize path).map canonical := by
  have notSmall : ¬ outSize < 2 := by omega
  by_cases absolute : path.head? = some slash
  · have scanned :
        scan slash (enterWithin unixPath rpsGpuSegmentsMax rootedClimb)
            path.length path [] =
          walkWithin unixPath rpsGpuSegmentsMax rootedClimb []
            (segments slash path) :=
      scan_enterWithin unixPath path.length path [] (Nat.le_refl _)
    simp only [rpsGpuProcNormalizePath, notSmall, absolute, ne_eq,
      not_true_eq_false, or_self, if_false, scanned, namesWithin, if_true]
    cases walked :
        walkWithin unixPath rpsGpuSegmentsMax rootedClimb []
          (segments slash path) with
    | none =>
        rfl
    | some names =>
        cases names with
        | nil =>
            have fits : 1 < outSize := by omega
            simp [Option.filter, fits]
        | cons first rest =>
            have joined :=
              joinSegments_eq outSize (first :: rest) [] (by simp; omega)
            have written :
                canonical (first :: rest) =
                  [] ++ render slash (first :: rest) :=
              canonical_of_ne_nil (List.cons_ne_nil first rest)
            simp only [joined, ← written, Option.filter]
            by_cases fits :
                (canonical (first :: rest)).length < outSize
            · simp [fits]
            · simp [fits]
  · simp [rpsGpuProcNormalizePath, absolute, namesWithin]

theorem rootedClimb_drops {before after : List CString}
    (climbed : rootedClimb before = some after) :
    after = before.dropLast :=
  (Option.some.inj climbed).symm

theorem namesWithin_eq_some_iff {outSize : Nat} {path : CString}
    {names : List CString} :
    namesWithin outSize path = some names ↔
      path.head? = some slash ∧
        walkWithin unixPath rpsGpuSegmentsMax rootedClimb []
          (segments slash path) = some names ∧
        (canonical names).length < outSize := by
  unfold namesWithin
  by_cases absolute : path.head? = some slash
  · simp [absolute]
  · simp [absolute]

/-- Within the limits the normal form is the lexical resolution. -/
theorem resolve_of_namesWithin {outSize : Nat} {path : CString}
    {names : List CString}
    (normal : namesWithin outSize path = some names) :
    names = resolve unixPath [] (segments slash path) :=
  walkWithin_eq_some
    (fun _ _ climbed => rootedClimb_drops climbed)
    (namesWithin_eq_some_iff.mp normal).2.1

theorem isName_of_mem_namesWithin {outSize : Nat} {path : CString}
    {names : List CString}
    (normal : namesWithin outSize path = some names) :
    ∀ name, name ∈ names → IsName unixPath name := by
  rw [resolve_of_namesWithin normal]
  exact
    isName_of_mem_resolve
      (by simp)
      (fun piece member => isSegment_of_mem_segments member)

/-- Names within the limits are their own normal form. -/
theorem namesWithin_canonical {outSize : Nat} {names : List CString}
    (proper : ∀ name, name ∈ names → IsName unixPath name)
    (few : names.length ≤ rpsGpuSegmentsMax)
    (short : (canonical names).length < outSize) :
    namesWithin outSize (canonical names) = some names := by
  apply namesWithin_eq_some_iff.mpr
  refine ⟨head?_canonical names, ?_, short⟩
  rw [segments_canonical proper]
  have walked :
      walkWithin unixPath rpsGpuSegmentsMax rootedClimb [] names =
        some ([] ++ names) :=
    walkWithin_of_isName proper (by simpa using few)
  simpa using walked

/-- Normalising twice is normalising once. -/
theorem namesWithin_canonical_of_namesWithin {outSize : Nat}
    {path : CString} {names : List CString}
    (normal : namesWithin outSize path = some names) :
    namesWithin outSize (canonical names) = some names := by
  obtain ⟨_, walked, short⟩ := namesWithin_eq_some_iff.mp normal
  exact
    namesWithin_canonical
      (isName_of_mem_namesWithin normal)
      (length_walkWithin_le
        (fun _ _ climbed => rootedClimb_drops climbed)
        (Nat.zero_le _) walked)
      short

/-! ## Extraction and decision -/

/-- The `base` literals. -/
def gpusPath : CString := cstr "/proc/driver/nvidia/gpus"

/-- The `info_name` literals. -/
def informationName : CString := cstr "information"

/-- `normalized + base_len + 1`, where the path goes on below the base. -/
def afterGpusPath (normalized : CString) : Option CString :=
  if gpusPath <+: normalized ∧ normalized[gpusPath.length]? = some slash then
    some (normalized.drop (gpusPath.length + 1))
  else none

/-- What `rps_gpu_extract_proc_bus_kind` writes when it returns 1. -/
structure ProcBusKind where
  busId : CString
  isBusDir : Bool
  isInformation : Bool
deriving DecidableEq, Repr

/-- `rps_gpu_extract_proc_bus_kind`; `none` is the result 0, whose buffer no
caller reads. -/
def rpsGpuExtractProcBusKind
    (path : Option CString) (busIdSize : Nat) : Option ProcBusKind :=
  match rpsGpuProcNormalizePath path rpsGpuProcPathMax with
  | none => none
  | some normalized =>
      match afterGpusPath normalized with
      | none => none
      | some rest =>
          let busId := rest.takeWhile (· != slash)
          if busId.length = 0 ∨ busId.length ≥ busIdSize then none
          else
            match rest.dropWhile (· != slash) with
            | [] => some ⟨busId, true, false⟩
            | _ :: suffix =>
                if suffix = informationName then some ⟨busId, false, true⟩
                else none

/-- `rps_gpu_allowed_contains_bus`. -/
def rpsGpuAllowedContainsBus
    (allowed : Option RpsGpuAllowedGpus) (busId : CString) : Bool :=
  match allowed with
  | none => false
  | some allowed =>
      if !allowed.valid || busId.isEmpty then false
      else allowed.gpus.any fun gpu => gpu.busId == busId

/-- `rps_gpu_proc_path_allowed`. -/
def rpsGpuProcPathAllowed
    (allowed : Option RpsGpuAllowedGpus) (path : Option CString) :
    RpsGpuProcDecision :=
  match rpsGpuProcNormalizePath path rpsGpuProcPathMax with
  | none => .ignore
  | some normalized =>
      if normalized = gpusPath then .allow
      else
        match
          rpsGpuExtractProcBusKind (some normalized) rpsGpuProcBusIdMax
        with
        | none => .ignore
        | some kind =>
            if !kind.isBusDir && !kind.isInformation then .ignore
            else
              match allowed with
              | none => .allow
              | some gpus =>
                  if !gpus.valid then .allow
                  else if rpsGpuAllowedContainsBus allowed kind.busId then
                    .allow
                  else .deny

/-! ## What a normal form means -/

/-- The names of the gpus directory. -/
def gpusNames : List CString :=
  [cstr "proc", cstr "driver", cstr "nvidia", cstr "gpus"]

/-- The places that the GPU module knows below `/proc`. -/
inductive GpuPath where
  | outside
  | gpusDir
  | busDir (bus : CString)
  | information (bus : CString)
deriving DecidableEq, Repr

/-- The place named relative to the gpus directory. -/
def gpuPathBelow : List CString → GpuPath
  | [] => .gpusDir
  | [bus] =>
      if bus.length < rpsGpuProcBusIdMax then .busDir bus else .outside
  | [bus, file] =>
      if bus.length < rpsGpuProcBusIdMax ∧ file = informationName then
        .information bus
      else .outside
  | _ :: _ :: _ :: _ => .outside

/-- The place that a list of names stands for. -/
def gpuPathOf (names : List CString) : GpuPath :=
  if gpusNames <+: names then gpuPathBelow (names.drop gpusNames.length)
  else .outside

/-- The decision for each place. -/
def gpuPathDecision (allowed : Option RpsGpuAllowedGpus) :
    GpuPath → RpsGpuProcDecision
  | .outside => .ignore
  | .gpusDir => .allow
  | .busDir bus | .information bus =>
      match allowed with
      | none => .allow
      | some gpus =>
          if !gpus.valid then .allow
          else if rpsGpuAllowedContainsBus allowed bus then .allow
          else .deny

theorem isName_of_mem_gpusNames :
    ∀ name, name ∈ gpusNames → IsName unixPath name := by
  decide

theorem canonical_gpusNames : canonical gpusNames = gpusPath := by
  decide

theorem render_gpusNames : render slash gpusNames = gpusPath := by
  decide

theorem segments_gpusPath : segments slash gpusPath = gpusNames := by
  decide

@[simp]
theorem gpuPathOf_append (names : List CString) :
    gpuPathOf (gpusNames ++ names) = gpuPathBelow names := by
  simp [gpuPathOf]

theorem gpuPathOf_gpusNames : gpuPathOf gpusNames = .gpusDir := by
  decide

/-- Only the gpus directory's names stand for it. -/
theorem gpuPathOf_eq_gpusDir_iff {names : List CString} :
    gpuPathOf names = .gpusDir ↔ names = gpusNames := by
  constructor
  · intro place
    unfold gpuPathOf at place
    split at place
    · rename_i below
      obtain ⟨tail, rfl⟩ := below
      rw [List.drop_left] at place
      unfold gpuPathBelow at place
      split at place
      · simp
      · split at place <;> cases place
      · split at place <;> cases place
      · cases place
    · cases place
  · intro same
    rw [same, gpuPathOf_gpusNames]

theorem gpuPathOf_eq_busDir_iff {names : List CString} {bus : CString} :
    gpuPathOf names = .busDir bus ↔
      names = gpusNames ++ [bus] ∧ bus.length < rpsGpuProcBusIdMax := by
  constructor
  · intro place
    unfold gpuPathOf at place
    split at place
    · rename_i below
      obtain ⟨tail, rfl⟩ := below
      rw [List.drop_left] at place
      unfold gpuPathBelow at place
      split at place
      · cases place
      · split at place
        · cases place
          exact ⟨rfl, ‹_›⟩
        · cases place
      · split at place <;> cases place
      · cases place
    · cases place
  · rintro ⟨rfl, short⟩
    simp [gpuPathBelow, short]

theorem gpuPathOf_eq_information_iff {names : List CString}
    {bus : CString} :
    gpuPathOf names = .information bus ↔
      names = gpusNames ++ [bus, informationName] ∧
        bus.length < rpsGpuProcBusIdMax := by
  constructor
  · intro place
    unfold gpuPathOf at place
    split at place
    · rename_i below
      obtain ⟨tail, rfl⟩ := below
      rw [List.drop_left] at place
      unfold gpuPathBelow at place
      split at place
      · cases place
      · split at place <;> cases place
      · split at place
        · rename_i matched
          cases place
          exact ⟨by rw [matched.2], matched.1⟩
        · cases place
      · cases place
    · cases place
  · rintro ⟨rfl, short⟩
    simp [gpuPathBelow, short]

/-! ## The functions compute the places -/

/-- Among canonical paths, those that go on below the base. -/
theorem afterGpusPath_canonical_iff {names : List CString} {rest : CString}
    (proper : ∀ name, name ∈ names → IsName unixPath name) :
    afterGpusPath (canonical names) = some rest ↔
      ∃ bus more, names = gpusNames ++ bus :: more ∧
        rest = bus ++ render slash more := by
  constructor
  · intro after
    unfold afterGpusPath at after
    split at after
    · rename_i below
      obtain ⟨⟨tail, split⟩, next⟩ := below
      rw [← split, List.getElem?_append_right (Nat.le_refl _),
        Nat.sub_self] at next
      obtain ⟨beyond, rfl⟩ : ∃ beyond, tail = slash :: beyond := by
        cases tail with
        | nil =>
            simp at next
        | cons head beyond =>
            simp only [List.getElem?_cons_zero, Option.some.injEq] at next
            exact ⟨beyond, by rw [next]⟩
      have restSame : beyond = rest := by
        rw [← split, ← List.drop_drop, List.drop_left] at after
        simpa using after
      subst restSame
      have cut : names = gpusNames ++ segments slash beyond := by
        rw [← segments_canonical proper, ← split, segments_append,
          segments_gpusPath]
      have nonempty : names ≠ [] := by
        rw [cut]
        simp [gpusNames]
      have written :
          slash :: beyond = render slash (segments slash beyond) := by
        have whole := split
        rw [canonical_of_ne_nil nonempty] at whole
        rw [cut, render_append, render_gpusNames] at whole
        exact List.append_cancel_left whole
      cases pieces : segments slash beyond with
      | nil =>
          rw [pieces] at written
          cases written
      | cons bus more =>
          rw [pieces, render_cons, List.cons.injEq] at written
          exact ⟨bus, more, by rw [cut, pieces], written.2⟩
    · cases after
  · rintro ⟨bus, more, rfl, rfl⟩
    have written :
        canonical (gpusNames ++ bus :: more) =
          gpusPath ++ slash :: (bus ++ render slash more) := by
      rw [canonical_of_ne_nil (by simp), render_append, render_gpusNames,
        render_cons]
    rw [written, afterGpusPath, if_pos]
    · simp [← List.drop_drop]
    · refine ⟨List.prefix_append _ _, ?_⟩
      rw [List.getElem?_append_right (Nat.le_refl _), Nat.sub_self]
      rfl

theorem suffix_eq_informationName_iff {file : CString}
    {later : List CString} :
    file ++ render slash later = informationName ↔
      file = informationName ∧ later = [] := by
  constructor
  · intro same
    cases later with
    | nil =>
        exact ⟨by simpa using same, rfl⟩
    | cons next rest =>
        have found : slash ∈ informationName := by
          rw [← same]
          simp
        exact absurd found (by decide)
  · rintro ⟨rfl, rfl⟩
    simp

/-- The place of a path that goes on with `rest` below the base, cut the way
the source cuts it. -/
def placeAfter (rest : CString) : GpuPath :=
  let bus := rest.takeWhile (· != slash)
  if bus.length = 0 ∨ bus.length ≥ rpsGpuProcBusIdMax then .outside
  else
    match rest.dropWhile (· != slash) with
    | [] => .busDir bus
    | _ :: suffix =>
        if suffix = informationName then .information bus else .outside

theorem gpuPathOf_of_afterGpusPath_none {names : List CString}
    (proper : ∀ name, name ∈ names → IsName unixPath name)
    (after : afterGpusPath (canonical names) = none)
    (notGpus : names ≠ gpusNames) :
    gpuPathOf names = .outside := by
  have notBelow : ∀ bus more, names ≠ gpusNames ++ bus :: more := by
    intro bus more same
    have found :=
      (afterGpusPath_canonical_iff proper).mpr ⟨bus, more, same, rfl⟩
    rw [after] at found
    cases found
  cases place : gpuPathOf names with
  | outside =>
      rfl
  | gpusDir =>
      exact absurd (gpuPathOf_eq_gpusDir_iff.mp place) notGpus
  | busDir bus =>
      exact
        absurd (gpuPathOf_eq_busDir_iff.mp place).1 (notBelow bus [])
  | information bus =>
      exact
        absurd (gpuPathOf_eq_information_iff.mp place).1
          (notBelow bus [informationName])

theorem gpuPathOf_eq_placeAfter {names : List CString} {rest : CString}
    (proper : ∀ name, name ∈ names → IsName unixPath name)
    (after : afterGpusPath (canonical names) = some rest) :
    gpuPathOf names = placeAfter rest := by
  obtain ⟨bus, more, rfl, rfl⟩ :=
    (afterGpusPath_canonical_iff proper).mp after
  have busProper : IsSegment slash bus :=
    (proper bus (by simp)).toIsSegment
  have busLong : bus.length ≠ 0 := by
    simpa using busProper.nonempty
  simp only [placeAfter, takeWhile_append_render busProper,
    dropWhile_append_render busProper, gpuPathOf_append, busLong, false_or]
  by_cases short : bus.length < rpsGpuProcBusIdMax
  · rw [if_neg (Nat.not_le.mpr short)]
    cases more with
    | nil =>
        simp [gpuPathBelow, short]
    | cons file later =>
        simp only [render_cons, suffix_eq_informationName_iff]
        cases later with
        | nil =>
            simp [gpuPathBelow, short]
        | cons next rest =>
            simp [gpuPathBelow]
  · rw [if_pos (Nat.not_lt.mp short)]
    cases more with
    | nil =>
        simp [gpuPathBelow, short]
    | cons file later =>
        cases later with
        | nil =>
            simp [gpuPathBelow, short]
        | cons next rest =>
            rfl

/-- The bus id and the shape of the suffix, as `gpuPathOf` has them. -/
def busKindOf : GpuPath → Option ProcBusKind
  | .busDir bus => some ⟨bus, true, false⟩
  | .information bus => some ⟨bus, false, true⟩
  | .outside | .gpusDir => none

theorem rpsGpuExtractProcBusKind_eq (path : CString) :
    rpsGpuExtractProcBusKind (some path) rpsGpuProcBusIdMax =
      (namesWithin rpsGpuProcPathMax path).bind fun names =>
        busKindOf (gpuPathOf names) := by
  rw [rpsGpuExtractProcBusKind,
    rpsGpuProcNormalizePath_eq path (by decide)]
  cases normal : namesWithin rpsGpuProcPathMax path with
  | none =>
      rfl
  | some names =>
      have proper := isName_of_mem_namesWithin normal
      simp only [Option.map_some, Option.bind_some]
      cases after : afterGpusPath (canonical names) with
      | none =>
          by_cases isGpus : names = gpusNames
          · rw [isGpus, gpuPathOf_gpusNames]
            rfl
          · rw [gpuPathOf_of_afterGpusPath_none proper after isGpus]
            rfl
      | some rest =>
          rw [gpuPathOf_eq_placeAfter proper after]
          unfold placeAfter
          simp only
          split
          · rfl
          · cases rest.dropWhile (· != slash) with
            | nil =>
                rfl
            | cons first suffix =>
                by_cases isInformation : suffix = informationName
                · simp [isInformation, busKindOf]
                · simp [isInformation, busKindOf]

/-- The decision depends on the path through its normal form only. -/
theorem rpsGpuProcPathAllowed_eq
    (allowed : Option RpsGpuAllowedGpus) (path : CString) :
    rpsGpuProcPathAllowed allowed (some path) =
      match namesWithin rpsGpuProcPathMax path with
      | none => .ignore
      | some names => gpuPathDecision allowed (gpuPathOf names) := by
  rw [rpsGpuProcPathAllowed, rpsGpuProcNormalizePath_eq path (by decide)]
  cases normal : namesWithin rpsGpuProcPathMax path with
  | none =>
      rfl
  | some names =>
      have proper := isName_of_mem_namesWithin normal
      have again := namesWithin_canonical_of_namesWithin normal
      simp only [Option.map_some, rpsGpuExtractProcBusKind_eq, again,
        Option.bind_some]
      by_cases isGpus : names = gpusNames
      · subst isGpus
        rw [if_pos canonical_gpusNames, gpuPathOf_gpusNames]
        rfl
      · have notBase : canonical names ≠ gpusPath := by
          intro same
          rw [← canonical_gpusNames] at same
          exact
            isGpus
              (canonical_injective proper isName_of_mem_gpusNames same)
        have notDir : gpuPathOf names ≠ .gpusDir := by
          intro place
          exact isGpus (gpuPathOf_eq_gpusDir_iff.mp place)
        rw [if_neg notBase]
        cases place : gpuPathOf names with
        | outside =>
            rfl
        | gpusDir =>
            exact absurd place notDir
        | busDir bus =>
            rfl
        | information bus =>
            rfl

end RunpodShim

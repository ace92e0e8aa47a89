import RunpodShim.Gpu.FdTracker

/-!
# Paths relative to a tracked directory

The part of `preload.c` that turns a relative path and a tracked directory
into the path that the filter decides on.
-/

namespace RunpodShim

open LexicalPath

/-- `..` in `gpu_resolve_relative_proc_path`, which never leaves the gpus
directory: `if (count <= min_count) return false`. -/
def gpusClimb (stack : List CString) : Option (List CString) :=
  if stack.length ≤ gpusNames.length then none else some stack.dropLast

/-- The segments that the walk starts from. -/
def baseSegments (record : RpsGpuFdRecord) : Option (List CString) :=
  if record.kind = .procGpuBusDir then
    if record.busId.length = 0 then none
    else some (gpusNames ++ [record.busId])
  else if record.kind ≠ .procGpusDir then none
  else some gpusNames

def gpuResolveRelativeProcPath (record : Option RpsGpuFdRecord)
    (path : Option CString) (bufferLen : Nat) : Option CString :=
  match record, path with
  | some record, some path =>
      if bufferLen < 2 then none
      else
        match baseSegments record with
        | none => none
        | some base =>
            match
              scan slash (enterWithin unixPath rpsGpuSegmentsMax gpusClimb)
                path.length path base
            with
            | none => none
            | some segments => joinSegments bufferLen segments []
  | _, _ => none

inductive RpsGpuEffectivePathResult where
  | passthrough
  | resolved
  | deny
deriving DecidableEq, Repr

/-- `gpu_effective_openat_path`: the result and `*out_path`. -/
def gpuEffectiveOpenatPath (nodes : List RpsGpuFdNode) (dirfd : Int)
    (path : Option CString) (bufferLen : Nat) :
    RpsGpuEffectivePathResult × Option CString :=
  if !pathIsRelative path || bufferLen == 0 then (.passthrough, path)
  else
    match rpsGpuFdMapGet dirfd nodes with
    | none => (.passthrough, path)
    | some record =>
        if record.kind ≠ .procGpusDir ∧ record.kind ≠ .procGpuBusDir then
          (.passthrough, path)
        else
          match gpuResolveRelativeProcPath (some record) path bufferLen with
          | none => (.deny, none)
          | some buffer => (.resolved, some buffer)

/-! ## The walk below the gpus directory -/

/-- The names reached from `base` by a path that keeps below the gpus
directory and within the limits. -/
def namesBelow (bufferLen : Nat) (base : List CString) (path : CString) :
    Option (List CString) :=
  (walkWithin unixPath rpsGpuSegmentsMax gpusClimb base
    (segments slash path)).filter
      fun names => (canonical names).length < bufferLen

theorem gpusClimb_drops {before after : List CString}
    (climbed : gpusClimb before = some after) :
    after = before.dropLast := by
  unfold gpusClimb at climbed
  split at climbed
  · cases climbed
  · exact (Option.some.inj climbed).symm

theorem rootedClimb_of_gpusClimb {before after : List CString}
    (climbed : gpusClimb before = some after) :
    rootedClimb before = some after := by
  rw [gpusClimb_drops climbed]
  rfl

/-- Above a directory that is strictly below the gpus directory comes one that
is not above it. -/
theorem gpusNames_prefix_dropLast {stack : List CString}
    (below : gpusNames <+: stack) (deeper : stack ≠ gpusNames) :
    gpusNames <+: stack.dropLast := by
  obtain ⟨names, rfl⟩ := below
  have more : names ≠ [] := by
    intro empty
    exact deeper (by rw [empty, List.append_nil])
  rw [List.dropLast_append_of_ne_nil more]
  exact List.prefix_append _ _

theorem gpusNames_prefix_of_gpusClimb {before after : List CString}
    (below : gpusNames <+: before)
    (climbed : gpusClimb before = some after) :
    gpusNames <+: after := by
  rw [gpusClimb_drops climbed]
  apply gpusNames_prefix_dropLast below
  intro same
  rw [same, gpusClimb, if_pos (Nat.le_refl _)] at climbed
  cases climbed

/-- The walk stays below the gpus directory. -/
theorem gpusNames_prefix_of_walkWithin {pieces base names : List CString}
    (below : gpusNames <+: base)
    (walked :
      walkWithin unixPath rpsGpuSegmentsMax gpusClimb base pieces =
        some names) :
    gpusNames <+: names := by
  induction pieces generalizing base with
  | nil =>
      rw [← Option.some.inj walked]
      exact below
  | cons piece rest inductionHypothesis =>
      rw [walkWithin, Option.bind_eq_some_iff] at walked
      obtain ⟨next, entered, later⟩ := walked
      refine inductionHypothesis ?_ later
      unfold enterWithin at entered
      split at entered
      · rw [← Option.some.inj entered]
        exact below
      · split at entered
        · exact gpusNames_prefix_of_gpusClimb below entered
        · split at entered
          · cases entered
          · rw [← Option.some.inj entered]
            exact below.trans (List.prefix_append base [piece])

theorem namesBelow_eq_some_iff {bufferLen : Nat} {base names : List CString}
    {path : CString} :
    namesBelow bufferLen base path = some names ↔
      walkWithin unixPath rpsGpuSegmentsMax gpusClimb base
          (segments slash path) = some names ∧
        (canonical names).length < bufferLen := by
  simp [namesBelow]

/-- No path fits where there is no room for a slash and a NUL. -/
theorem namesBelow_eq_none_of_small {bufferLen : Nat}
    (small : bufferLen < 2) (base : List CString) (path : CString) :
    namesBelow bufferLen base path = none := by
  apply Option.eq_none_iff_forall_ne_some.mpr
  intro names below
  have short := (namesBelow_eq_some_iff.mp below).2
  have starts := head?_canonical names
  cases written : canonical names with
  | nil =>
      rw [written] at starts
      cases starts
  | cons first rest =>
      rw [written, List.length_cons] at short
      omega

/-- Below a directory the resolved names are the lexical resolution. -/
theorem resolve_of_namesBelow {bufferLen : Nat} {base names : List CString}
    {path : CString} (below : namesBelow bufferLen base path = some names) :
    names = resolve unixPath base (segments slash path) :=
  walkWithin_eq_some
    (fun _ _ climbed => gpusClimb_drops climbed)
    (namesBelow_eq_some_iff.mp below).1

/-- The segments that the source starts from are the names of a directory of
the GPU module. -/
structure TrackedDirectory
    (record : RpsGpuFdRecord) (base : List CString) : Prop where
  found : baseSegments record = some base
  below : gpusNames <+: base
  proper : ∀ name, name ∈ base → IsName unixPath name
  few : base.length ≤ gpusNames.length + 1
  written : record.path = canonical base

/-- Resolution against a tracked directory. -/
theorem gpuResolveRelativeProcPath_eq {record : RpsGpuFdRecord}
    {base : List CString} (directory : TrackedDirectory record base)
    (path : CString) (bufferLen : Nat) :
    gpuResolveRelativeProcPath (some record) (some path) bufferLen =
      (namesBelow bufferLen base path).map canonical := by
  by_cases small : bufferLen < 2
  · simp only [gpuResolveRelativeProcPath, small, if_true,
      namesBelow_eq_none_of_small small, Option.map_none]
  have scanned :
      scan slash (enterWithin unixPath rpsGpuSegmentsMax gpusClimb)
          path.length path base =
        walkWithin unixPath rpsGpuSegmentsMax gpusClimb base
          (segments slash path) :=
    scan_enterWithin unixPath path.length path base (Nat.le_refl _)
  simp only [gpuResolveRelativeProcPath, small, if_false,
    directory.found, scanned, namesBelow]
  cases walked :
      walkWithin unixPath rpsGpuSegmentsMax gpusClimb base
        (segments slash path) with
  | none =>
      rfl
  | some names =>
      have below := gpusNames_prefix_of_walkWithin directory.below walked
      have more : names ≠ [] := by
        intro empty
        rw [empty] at below
        exact absurd below (by decide)
      have joined := joinSegments_eq bufferLen names [] (by simp; omega)
      rw [List.nil_append, ← canonical_of_ne_nil more] at joined
      simp only [joined, Option.filter]
      by_cases fits : (canonical names).length < bufferLen
      · simp [fits]
      · simp [fits]

/-- What the two directory kinds stand for, in full: the resolution never
passes a relative path on. -/
theorem gpuEffectiveOpenatPath_of_trackedDirectory
    {nodes : List RpsGpuFdNode} {dirfd : Int} {record : RpsGpuFdRecord}
    {base : List CString} {path : CString} {bufferLen : Nat}
    (found : rpsGpuFdMapGet dirfd nodes = some record)
    (directory : TrackedDirectory record base)
    (relative : pathIsRelative (some path) = true)
    (room : 0 < bufferLen) :
    gpuEffectiveOpenatPath nodes dirfd (some path) bufferLen =
      match namesBelow bufferLen base path with
      | none => (.deny, none)
      | some names => (.resolved, some (canonical names)) := by
  have kind :
      ¬ (record.kind ≠ .procGpusDir ∧ record.kind ≠ .procGpuBusDir) := by
    intro neither
    have missing : baseSegments record = none := by
      simp [baseSegments, neither]
    rw [directory.found] at missing
    cases missing
  have given : (bufferLen == 0) = false := by
    simpa using Nat.ne_of_gt room
  rw [gpuEffectiveOpenatPath, relative, given]
  simp only [Bool.not_true, Bool.or_self, Bool.false_eq_true, if_false,
    found, if_neg kind,
    gpuResolveRelativeProcPath_eq directory path bufferLen]
  cases namesBelow bufferLen base path with
  | none =>
      rfl
  | some names =>
      rfl

/-! ## Relative and absolute paths agree -/

/-- A path that resolves below a tracked directory has the same names when it
is written out behind the directory's own path. -/
theorem namesWithin_of_namesBelow {record : RpsGpuFdRecord}
    {base names : List CString} {path : CString} {bufferLen : Nat}
    (directory : TrackedDirectory record base)
    (below : namesBelow bufferLen base path = some names) :
    namesWithin bufferLen (record.path ++ slash :: path) =
      some names := by
  obtain ⟨walked, short⟩ := namesBelow_eq_some_iff.mp below
  apply namesWithin_eq_some_iff.mpr
  refine ⟨?_, ?_, short⟩
  · rw [directory.written]
    have starts := head?_canonical base
    cases written : canonical base with
    | nil =>
        rw [written] at starts
        cases starts
    | cons first rest =>
        rw [written] at starts
        simpa using starts
  · have few : ([] : List CString).length + base.length ≤
        rpsGpuSegmentsMax := by
      have bound := directory.few
      have limit : gpusNames.length + 1 ≤ rpsGpuSegmentsMax := by
        decide
      simp only [List.length_nil]
      omega
    rw [directory.written, segments_append,
      segments_canonical directory.proper, walkWithin_append,
      walkWithin_of_isName directory.proper few, List.nil_append,
      Option.bind_some]
    exact
      walkWithin_mono
        (fun _ _ climbed => rootedClimb_of_gpusClimb climbed) walked

/-- Classification of either spelling of a path below a tracked directory. -/
theorem rpsGpuClassifyPath_relative {record : RpsGpuFdRecord}
    {base names : List CString} {path : CString}
    (directory : TrackedDirectory record base)
    (below : namesBelow rpsGpuPathMax base path = some names) :
    ∀ spelling,
      (spelling = canonical names ∨
        spelling = record.path ++ slash :: path) →
        rpsGpuClassifyPath (some spelling) =
          placeRecord names (blankRecord (some spelling))
            (gpuPathOf names) := by
  have written :
      namesWithin rpsGpuProcPathMax (record.path ++ slash :: path) =
        some names :=
    namesWithin_of_namesBelow directory below
  have prefixed :=
    gpusNames_prefix_of_walkWithin directory.below
      (namesBelow_eq_some_iff.mp below).1
  intro spelling either
  rcases either with rfl | rfl
  · exact
      rpsGpuClassifyPath_below
        (namesWithin_canonical_of_namesWithin written) prefixed
  · exact rpsGpuClassifyPath_below written prefixed

/-- Two blank records classify alike when the place is known to the module. -/
theorem placeRecord_blankRecord {names : List CString}
    {first second : Option CString} {record : RpsGpuFdRecord}
    {place : GpuPath}
    (placed :
      placeRecord names (blankRecord first) place = (true, record)) :
    placeRecord names (blankRecord second) place = (true, record) := by
  cases place with
  | outside =>
      cases placed
  | gpusDir =>
      exact placed
  | busDir bus =>
      exact placed
  | information bus =>
      exact placed

/-- The records that classification makes of the two directories. -/
theorem trackedDirectory_of_classified {path : Option CString}
    {record : RpsGpuFdRecord}
    (classified : rpsGpuClassifyPath path = (true, record))
    (kind : record.kind = .procGpusDir ∨ record.kind = .procGpuBusDir) :
    ∃ bytes base,
      path = some bytes ∧
        namesWithin rpsGpuProcPathMax bytes = some base ∧
        TrackedDirectory record base := by
  obtain ⟨bytes, names, isPath, normal, placed⟩ :=
    names_of_classified classified kind
  refine ⟨bytes, names, isPath, normal, ?_⟩
  have proper := isName_of_mem_namesWithin normal
  cases place : gpuPathOf names with
  | outside =>
      rw [place] at placed
      cases placed
  | gpusDir =>
      rw [place] at placed
      cases placed
      have isGpus := gpuPathOf_eq_gpusDir_iff.mp place
      subst isGpus
      exact ⟨rfl, List.prefix_rfl, proper, by simp, rfl⟩
  | busDir bus =>
      rw [place] at placed
      cases placed
      have isBus := (gpuPathOf_eq_busDir_iff.mp place).1
      subst isBus
      have busLong : bus.length ≠ 0 := by
        simpa using (proper bus (by simp)).nonempty
      refine ⟨?_, List.prefix_append _ _, proper, by simp, rfl⟩
      simp [baseSegments, busLong]
  | information bus =>
      rw [place] at placed
      cases placed
      rcases kind with isDir | isBus
      · cases isDir
      · cases isBus

end RunpodShim

import RunpodShim.Gpu.ProcFilter
import RunpodShim.Library.FirstMatch

/-!
# The GPU descriptor tracker

`gpu/fd_tracker.c`: the classification of paths and the linked list of
descriptor records.  The list operations are shown to be those of a finite
map from descriptor numbers to records.
-/

namespace RunpodShim

open LexicalPath FirstMatch

/-- `RPS_GPU_PATH_MAX`. -/
def rpsGpuPathMax : Nat := 256

theorem rpsGpuPathMax_pos : 0 < rpsGpuPathMax := by
  decide

/-- `RPS_GPU_BUS_ID_MAX`. -/
def rpsGpuBusIdMax : Nat := 32

inductive RpsGpuFdKind where
  | other
  | nvidiaCtl
  | nvidiaDevice
  | nvidiaUvm
  | procGpusDir
  | procGpuBusDir
  | procGpuInfo
deriving DecidableEq, Repr

structure RpsGpuFdRecord where
  kind : RpsGpuFdKind
  deviceMinor : Int
  path : CString
  busId : CString
deriving DecidableEq, Repr

structure RpsGpuFdNode where
  fd : Int
  record : RpsGpuFdRecord
deriving DecidableEq, Repr

/-! ## Classification -/

/-- `rps_gpu_copy_string` into an array of `dstSize` bytes. -/
def rpsGpuCopyString (dstSize : Nat) (src : Option CString) : CString :=
  match src with
  | none => []
  | some src => src.take (dstSize - 1)

/-- `rps_gpu_copy_slice` into an array of `dstSize` bytes. -/
def rpsGpuCopySlice (dstSize : Nat) (src : CString) : CString :=
  src.take (dstSize - 1)

/-- `rps_gpu_parse_nvidia_minor`. -/
def rpsGpuParseNvidiaMinor (path : CString) : Option Nat :=
  if cstr "/dev/nvidia" <+: path then
    match path.drop (cstr "/dev/nvidia").length with
    | [] => none
    | first :: rest => digitLoop intMax (first :: rest) 0
  else none

/-- `rps_gpu_classify_proc_gpu_path`: the result and the record after it. -/
def rpsGpuClassifyProcGpuPath
    (path : CString) (record : RpsGpuFdRecord) : Bool × RpsGpuFdRecord :=
  match rpsGpuProcNormalizePath (some path) rpsGpuProcPathMax with
  | none => (false, record)
  | some normalized =>
      if normalized = gpusPath then
        (true,
          { record with
            kind := .procGpusDir
            path := rpsGpuCopyString rpsGpuPathMax (some normalized) })
      else
        match afterGpusPath normalized with
        | none => (false, record)
        | some rest =>
            let bus := rest.takeWhile (· != slash)
            if bus.length = 0 ∨ bus.length ≥ rpsGpuBusIdMax then
              (false, record)
            else
              match rest.dropWhile (· != slash) with
              | [] =>
                  (true,
                    { record with
                      kind := .procGpuBusDir
                      busId := rpsGpuCopySlice rpsGpuBusIdMax bus
                      path :=
                        rpsGpuCopyString rpsGpuPathMax (some normalized) })
              | _ :: suffix =>
                  if suffix = informationName then
                    (true,
                      { record with
                        kind := .procGpuInfo
                        busId := rpsGpuCopySlice rpsGpuBusIdMax bus
                        path :=
                          rpsGpuCopyString rpsGpuPathMax
                            (some normalized) })
                  else (false, record)

/-- The record as `rps_gpu_classify_path` initialises it. -/
def blankRecord (path : Option CString) : RpsGpuFdRecord where
  kind := .other
  deviceMinor := -1
  path := rpsGpuCopyString rpsGpuPathMax path
  busId := []

/-- `rps_gpu_classify_path`: the result and the record it fills. -/
def rpsGpuClassifyPath (path : Option CString) : Bool × RpsGpuFdRecord :=
  match path with
  | none => (false, blankRecord path)
  | some bytes =>
      if bytes = cstr "/dev/nvidiactl" then
        (true, { blankRecord path with kind := .nvidiaCtl })
      else if bytes = cstr "/dev/nvidia-uvm" then
        (true, { blankRecord path with kind := .nvidiaUvm })
      else
        match rpsGpuParseNvidiaMinor bytes with
        | some minor =>
            (true,
              { blankRecord path with
                kind := .nvidiaDevice
                deviceMinor := minor })
        | none => rpsGpuClassifyProcGpuPath bytes (blankRecord path)

/-! ## The linked list -/

/-- `rps_gpu_fd_map_get`. -/
def rpsGpuFdMapGet (fd : Int) (nodes : List RpsGpuFdNode) :
    Option RpsGpuFdRecord :=
  if fd < 0 then none
  else (nodes.find? fun node => node.fd == fd).map RpsGpuFdNode.record

/-- `rps_gpu_fd_map_clear`: one node after the other is freed. -/
def rpsGpuFdMapClear : List RpsGpuFdNode → List RpsGpuFdNode
  | [] => []
  | _ :: next => rpsGpuFdMapClear next

/-- `rps_gpu_fd_map_set`; `malloc` says whether a node can be allocated. -/
def rpsGpuFdMapSet (malloc : Bool) (fd : Int) (record : RpsGpuFdRecord)
    (nodes : List RpsGpuFdNode) : List RpsGpuFdNode :=
  if fd < 0 then nodes
  else if nodes.any fun node => node.fd == fd then
    updateFirst (fun node => node.fd == fd)
      (fun node => { node with record := record }) nodes
  else if malloc then ⟨fd, record⟩ :: nodes
  else nodes

/-- `rps_gpu_fd_map_remove`. -/
def rpsGpuFdMapRemove (fd : Int) (nodes : List RpsGpuFdNode) :
    List RpsGpuFdNode :=
  if fd < 0 then nodes
  else nodes.eraseP fun node => node.fd == fd

/-- `rps_gpu_fd_map_copy`.  The search loop has no break, so it ends with the
last node of each number. -/
def rpsGpuFdMapCopy (malloc : Bool) (oldfd newfd : Int)
    (nodes : List RpsGpuFdNode) : List RpsGpuFdNode :=
  if oldfd < 0 ∨ newfd < 0 then nodes
  else
    match (nodes.filter fun node => node.fd == oldfd).getLast? with
    | some oldNode =>
        if nodes.any fun node => node.fd == newfd then
          updateLast (fun node => node.fd == newfd)
            (fun node => { node with record := oldNode.record }) nodes
        else if malloc then ⟨newfd, oldNode.record⟩ :: nodes
        else nodes
    | none => eraseLast (fun node => node.fd == newfd) nodes

/-! ## The list is a finite map -/

/-- No number is negative and none has two nodes. -/
structure WellKept (nodes : List RpsGpuFdNode) : Prop where
  nonneg : ∀ node, node ∈ nodes → 0 ≤ node.fd
  unique : ∀ fd, (nodes.countP fun node => node.fd == fd) ≤ 1

theorem wellKept_nil : WellKept [] where
  nonneg := by simp
  unique := by simp

theorem rpsGpuFdMapGet_of_nonneg {fd : Int} (valid : 0 ≤ fd)
    (nodes : List RpsGpuFdNode) :
    rpsGpuFdMapGet fd nodes =
      (nodes.find? fun node => node.fd == fd).map RpsGpuFdNode.record := by
  rw [rpsGpuFdMapGet, if_neg (Int.not_lt.mpr valid)]

theorem rpsGpuFdMapGet_of_neg {fd : Int} (invalid : fd < 0)
    (nodes : List RpsGpuFdNode) :
    rpsGpuFdMapGet fd nodes = none := by
  rw [rpsGpuFdMapGet, if_pos invalid]

theorem nonneg_of_rpsGpuFdMapGet {fd : Int} {nodes : List RpsGpuFdNode}
    {record : RpsGpuFdRecord}
    (found : rpsGpuFdMapGet fd nodes = some record) :
    0 ≤ fd := by
  by_cases invalid : fd < 0
  · rw [rpsGpuFdMapGet_of_neg invalid] at found
    cases found
  · exact Int.not_lt.mp invalid

@[simp]
theorem rpsGpuFdMapGet_nil (fd : Int) : rpsGpuFdMapGet fd [] = none := by
  simp [rpsGpuFdMapGet]

theorem any_eq_isSome_rpsGpuFdMapGet {fd : Int} (valid : 0 ≤ fd)
    (nodes : List RpsGpuFdNode) :
    (nodes.any fun node => node.fd == fd) =
      (rpsGpuFdMapGet fd nodes).isSome := by
  rw [Bool.eq_iff_iff, List.any_eq_true, rpsGpuFdMapGet_of_nonneg valid,
    Option.isSome_map, List.find?_isSome]

theorem rpsGpuFdMapGet_cons {fd : Int} (valid : 0 ≤ fd)
    (record : RpsGpuFdRecord) (nodes : List RpsGpuFdNode) (asked : Int) :
    rpsGpuFdMapGet asked (⟨fd, record⟩ :: nodes) =
      if asked = fd then some record else rpsGpuFdMapGet asked nodes := by
  by_cases same : asked = fd
  · subst same
    rw [rpsGpuFdMapGet_of_nonneg valid]
    simp
  · have differs : ¬ fd = asked := fun equal => same equal.symm
    simp [rpsGpuFdMapGet, same, differs]

theorem rpsGpuFdMapGet_updateFirst {fd : Int} (valid : 0 ≤ fd)
    (record : RpsGpuFdRecord) {nodes : List RpsGpuFdNode}
    (present : (rpsGpuFdMapGet fd nodes).isSome) (asked : Int) :
    rpsGpuFdMapGet asked
        (updateFirst (fun node => node.fd == fd)
          (fun node => { node with record := record }) nodes) =
      if asked = fd then some record else rpsGpuFdMapGet asked nodes := by
  by_cases same : asked = fd
  · subst same
    rw [rpsGpuFdMapGet_of_nonneg valid] at present ⊢
    rw [find?_updateFirst_self (by simp)]
    rw [Option.isSome_map] at present
    obtain ⟨node, found⟩ := Option.isSome_iff_exists.mp present
    simp [found]
  · rw [if_neg same]
    unfold rpsGpuFdMapGet
    rw [find?_updateFirst_of_unseen]
    · intro node atFd
      have numbered : node.fd = fd := by simpa using atFd
      simpa [numbered] using fun equal => same equal.symm
    · intro node atFd
      have numbered : node.fd = fd := by simpa using atFd
      simpa [numbered] using fun equal => same equal.symm

/-- `set` binds its number, unless a node is needed and cannot be had. -/
theorem rpsGpuFdMapGet_set (malloc : Bool) {fd : Int} (valid : 0 ≤ fd)
    (record : RpsGpuFdRecord) (nodes : List RpsGpuFdNode) (asked : Int) :
    rpsGpuFdMapGet asked (rpsGpuFdMapSet malloc fd record nodes) =
      if asked = fd ∧ (malloc = true ∨ (rpsGpuFdMapGet fd nodes).isSome) then
        some record
      else rpsGpuFdMapGet asked nodes := by
  rw [rpsGpuFdMapSet, if_neg (Int.not_lt.mpr valid),
    any_eq_isSome_rpsGpuFdMapGet valid]
  by_cases present : (rpsGpuFdMapGet fd nodes).isSome
  · rw [if_pos present, rpsGpuFdMapGet_updateFirst valid record present]
    simp [present]
  · rw [if_neg present]
    cases malloc with
    | false =>
        simp [present]
    | true =>
        rw [if_pos rfl, rpsGpuFdMapGet_cons valid]
        simp

theorem rpsGpuFdMapGet_eraseP {fd : Int} {nodes : List RpsGpuFdNode}
    (kept : WellKept nodes) (asked : Int) :
    rpsGpuFdMapGet asked (nodes.eraseP fun node => node.fd == fd) =
      if asked = fd then none else rpsGpuFdMapGet asked nodes := by
  by_cases same : asked = fd
  · subst same
    simp [rpsGpuFdMapGet, find?_eraseP_of_unique (kept.unique asked)]
  · rw [if_neg same]
    unfold rpsGpuFdMapGet
    rw [find?_eraseP_of_unseen]
    intro node atFd
    have numbered : node.fd = fd := by simpa using atFd
    simpa [numbered] using fun equal => same equal.symm

/-- `remove` unbinds its number. -/
theorem rpsGpuFdMapGet_remove {fd : Int} {nodes : List RpsGpuFdNode}
    (kept : WellKept nodes) (asked : Int) :
    rpsGpuFdMapGet asked (rpsGpuFdMapRemove fd nodes) =
      if asked = fd then none else rpsGpuFdMapGet asked nodes := by
  unfold rpsGpuFdMapRemove
  split
  · rename_i invalid
    by_cases same : asked = fd
    · rw [if_pos same, same, rpsGpuFdMapGet_of_neg invalid]
    · rw [if_neg same]
  · exact rpsGpuFdMapGet_eraseP kept asked

/-- `copy` gives the new number the old one's binding, unless a node is
needed and cannot be had. -/
theorem rpsGpuFdMapGet_copy (malloc : Bool) {oldfd newfd : Int}
    (oldValid : 0 ≤ oldfd) (newValid : 0 ≤ newfd)
    {nodes : List RpsGpuFdNode} (kept : WellKept nodes) (asked : Int) :
    rpsGpuFdMapGet asked (rpsGpuFdMapCopy malloc oldfd newfd nodes) =
      if asked = newfd then
        if malloc = true ∨ (rpsGpuFdMapGet newfd nodes).isSome then
          rpsGpuFdMapGet oldfd nodes
        else none
      else rpsGpuFdMapGet asked nodes := by
  have bothValid : ¬ (oldfd < 0 ∨ newfd < 0) := by omega
  have oldFound := rpsGpuFdMapGet_of_nonneg oldValid nodes
  rw [rpsGpuFdMapCopy, if_neg bothValid,
    getLast?_filter_of_unique (kept.unique oldfd),
    any_eq_isSome_rpsGpuFdMapGet newValid]
  cases found : nodes.find? fun node => node.fd == oldfd with
  | none =>
      rw [found, Option.map_none] at oldFound
      rw [eraseLast_of_unique (kept.unique newfd),
        rpsGpuFdMapGet_eraseP kept, oldFound, ite_self]
  | some oldNode =>
      rw [found, Option.map_some] at oldFound
      simp only [oldFound]
      by_cases present : (rpsGpuFdMapGet newfd nodes).isSome
      · rw [if_pos present, updateLast_of_unique (kept.unique newfd),
          rpsGpuFdMapGet_updateFirst newValid _ present]
        simp [present]
      · rw [if_neg present]
        cases malloc with
        | false =>
            have absent : rpsGpuFdMapGet newfd nodes = none := by
              simpa using present
            by_cases same : asked = newfd
            · simp [same, absent]
            · simp [same]
        | true =>
            rw [if_pos rfl, rpsGpuFdMapGet_cons newValid]
            simp

/-! ## The list stays well kept -/

theorem WellKept.cons {fd : Int} {nodes : List RpsGpuFdNode}
    (kept : WellKept nodes) (valid : 0 ≤ fd)
    (absent : rpsGpuFdMapGet fd nodes = none)
    (record : RpsGpuFdRecord) :
    WellKept (⟨fd, record⟩ :: nodes) where
  nonneg := by
    intro node member
    rcases List.mem_cons.mp member with rfl | inNodes
    · exact valid
    · exact kept.nonneg node inNodes
  unique := by
    intro asked
    have bound := kept.unique asked
    rw [List.countP_cons]
    by_cases same : fd = asked
    · subst same
      rw [rpsGpuFdMapGet_of_nonneg valid, Option.map_eq_none_iff,
        List.find?_eq_none] at absent
      have none : (nodes.countP fun node => node.fd == fd) = 0 :=
        List.countP_eq_zero.mpr absent
      simp [none]
    · simpa [same] using bound

theorem WellKept.updateFirst {fd : Int} {nodes : List RpsGpuFdNode}
    (kept : WellKept nodes) (record : RpsGpuFdRecord) :
    WellKept
      (FirstMatch.updateFirst (fun node => node.fd == fd)
        (fun node => { node with record := record }) nodes) where
  nonneg := by
    intro node member
    have none :
        nodes.countP (fun other => decide (other.fd < 0)) = 0 := by
      apply List.countP_eq_zero.mpr
      intro other inNodes
      simpa using kept.nonneg other inNodes
    have stillNone :
        (FirstMatch.updateFirst (fun node => node.fd == fd)
          (fun node => { node with record := record }) nodes).countP
            (fun other => decide (other.fd < 0)) = 0 := by
      rw [countP_updateFirst_of_unchanged (by simp), none]
    simpa using List.countP_eq_zero.mp stillNone node member
  unique := by
    intro asked
    rw [countP_updateFirst_of_unchanged (by simp)]
    exact kept.unique asked

theorem WellKept.eraseP {nodes : List RpsGpuFdNode}
    (kept : WellKept nodes) (test : RpsGpuFdNode → Bool) :
    WellKept (nodes.eraseP test) where
  nonneg := by
    intro node member
    exact kept.nonneg node (List.mem_of_mem_eraseP member)
  unique := by
    intro asked
    exact Nat.le_trans (countP_eraseP_le nodes) (kept.unique asked)

theorem WellKept.set {nodes : List RpsGpuFdNode} (kept : WellKept nodes)
    (malloc : Bool) (fd : Int) (record : RpsGpuFdRecord) :
    WellKept (rpsGpuFdMapSet malloc fd record nodes) := by
  unfold rpsGpuFdMapSet
  split
  · exact kept
  · rename_i valid
    have nonneg : 0 ≤ fd := Int.not_lt.mp valid
    split
    · exact kept.updateFirst record
    · rename_i absent
      split
      · apply kept.cons nonneg
        rw [any_eq_isSome_rpsGpuFdMapGet nonneg] at absent
        simpa using absent
      · exact kept

theorem WellKept.remove {nodes : List RpsGpuFdNode} (kept : WellKept nodes)
    (fd : Int) :
    WellKept (rpsGpuFdMapRemove fd nodes) := by
  unfold rpsGpuFdMapRemove
  split
  · exact kept
  · exact kept.eraseP _

theorem WellKept.copy {nodes : List RpsGpuFdNode} (kept : WellKept nodes)
    (malloc : Bool) (oldfd newfd : Int) :
    WellKept (rpsGpuFdMapCopy malloc oldfd newfd nodes) := by
  unfold rpsGpuFdMapCopy
  split
  · exact kept
  · rename_i valid
    have nonneg : 0 ≤ newfd := by omega
    split
    · split
      · rw [updateLast_of_unique (kept.unique newfd)]
        exact kept.updateFirst _
      · rename_i absent
        split
        · apply kept.cons nonneg
          rw [any_eq_isSome_rpsGpuFdMapGet nonneg] at absent
          simpa using absent
        · exact kept
    · rw [eraseLast_of_unique (kept.unique newfd)]
      exact kept.eraseP _

/-- In a well-kept list every node is the one its number finds. -/
theorem WellKept.rpsGpuFdMapGet_of_mem {nodes : List RpsGpuFdNode}
    (kept : WellKept nodes) {node : RpsGpuFdNode} (member : node ∈ nodes) :
    rpsGpuFdMapGet node.fd nodes = some node.record := by
  induction nodes with
  | nil =>
      cases member
  | cons head tail inductionHypothesis =>
      have valid := kept.nonneg node member
      rw [rpsGpuFdMapGet_of_nonneg valid]
      rcases List.mem_cons.mp member with rfl | inTail
      · simp
      · have tailKept : WellKept tail := by
          have erased := kept.eraseP fun other => decide (other = head)
          simpa using erased
        have differs : ¬ head.fd = node.fd := by
          intro same
          have bound := kept.unique node.fd
          have found :
              0 < tail.countP fun other => other.fd == node.fd :=
            List.countP_pos_iff.mpr ⟨node, inTail, by simp⟩
          rw [List.countP_cons] at bound
          simp only [same, beq_self_eq_true, if_true] at bound
          omega
        have tailFound := inductionHypothesis tailKept inTail
        rw [rpsGpuFdMapGet_of_nonneg valid] at tailFound
        simpa [differs] using tailFound

/-! ## What classification finds -/

/-- The tracker and the path filter bound bus ids alike. -/
theorem rpsGpuBusIdMax_eq : rpsGpuBusIdMax = rpsGpuProcBusIdMax :=
  rfl

/-- The record of a place below the base. -/
def placeRecord (names : List CString) (record : RpsGpuFdRecord) :
    GpuPath → Bool × RpsGpuFdRecord
  | .outside => (false, record)
  | .gpusDir =>
      (true, { record with kind := .procGpusDir, path := canonical names })
  | .busDir bus =>
      (true,
        { record with
          kind := .procGpuBusDir, busId := bus, path := canonical names })
  | .information bus =>
      (true,
        { record with
          kind := .procGpuInfo, busId := bus, path := canonical names })

theorem rpsGpuCopyString_of_short {dstSize : Nat} {src : CString}
    (short : src.length < dstSize) :
    rpsGpuCopyString dstSize (some src) = src := by
  have whole : src.length ≤ dstSize - 1 := by omega
  simp [rpsGpuCopyString, List.take_of_length_le whole]

theorem rpsGpuCopySlice_of_short {dstSize : Nat} {src : CString}
    (short : src.length < dstSize) :
    rpsGpuCopySlice dstSize src = src :=
  rpsGpuCopyString_of_short short

theorem rpsGpuClassifyProcGpuPath_eq
    (path : CString) (record : RpsGpuFdRecord) :
    rpsGpuClassifyProcGpuPath path record =
      match namesWithin rpsGpuProcPathMax path with
      | none => (false, record)
      | some names => placeRecord names record (gpuPathOf names) := by
  rw [rpsGpuClassifyProcGpuPath,
    rpsGpuProcNormalizePath_eq path (by decide)]
  cases normal : namesWithin rpsGpuProcPathMax path with
  | none =>
      rfl
  | some names =>
      have proper := isName_of_mem_namesWithin normal
      have short : (canonical names).length < rpsGpuPathMax :=
        (namesWithin_eq_some_iff.mp normal).2.2
      simp only [Option.map_some, rpsGpuCopyString_of_short short]
      by_cases isGpus : names = gpusNames
      · subst isGpus
        rw [if_pos canonical_gpusNames, gpuPathOf_gpusNames]
        rfl
      · have notBase : canonical names ≠ gpusPath := by
          intro same
          rw [← canonical_gpusNames] at same
          exact
            isGpus
              (canonical_injective proper isName_of_mem_gpusNames same)
        rw [if_neg notBase]
        cases after : afterGpusPath (canonical names) with
        | none =>
            rw [gpuPathOf_of_afterGpusPath_none proper after isGpus]
            rfl
        | some rest =>
            rw [gpuPathOf_eq_placeAfter proper after]
            unfold placeAfter
            simp only
            by_cases unusable :
                (rest.takeWhile (· != slash)).length = 0 ∨
                  (rest.takeWhile (· != slash)).length ≥ rpsGpuBusIdMax
            · have unusableHere := unusable
              rw [rpsGpuBusIdMax_eq] at unusableHere
              rw [if_pos unusable, if_pos unusableHere]
              rfl
            · have busShort :
                  (rest.takeWhile (· != slash)).length < rpsGpuBusIdMax := by
                omega
              have usableHere := unusable
              rw [rpsGpuBusIdMax_eq] at usableHere
              rw [if_neg unusable, if_neg usableHere,
                rpsGpuCopySlice_of_short busShort]
              cases rest.dropWhile (· != slash) with
              | nil =>
                  rfl
              | cons first suffix =>
                  by_cases isInformation : suffix = informationName
                  · simp [isInformation, placeRecord]
                  · simp [isInformation, placeRecord]

/-- What follows the prefix of the device nodes makes one name with it. -/
theorem isName_nvidia_append {tail : CString} (free : slash ∉ tail) :
    IsName unixPath (cstr "nvidia" ++ tail) := by
  refine ⟨⟨by simp [cstr], ?_⟩, ?_, ?_⟩
  · intro member
    rcases List.mem_append.mp member with inLetters | inTail
    · exact absurd inLetters (by decide)
    · exact free inTail
  · intro same
    exact absurd (List.cons.inj same).1 (by decide)
  · intro same
    exact absurd (List.cons.inj same).1 (by decide)

/-- The names of a device node, within the limits. -/
theorem names_of_nvidia_append {outSize : Nat} {tail : CString}
    {names : List CString} (free : slash ∉ tail)
    (normal : namesWithin outSize (cstr "/dev/nvidia" ++ tail) = some names) :
    names = [cstr "dev", cstr "nvidia" ++ tail] := by
  have proper := isName_nvidia_append free
  have one :
      segments slash (cstr "nvidia" ++ tail) = [cstr "nvidia" ++ tail] :=
    segments_of_isSegment proper.toIsSegment
  have cut :
      segments slash (cstr "/dev/nvidia" ++ tail) =
        [cstr "dev", cstr "nvidia" ++ tail] := by
    have split :=
      segments_append slash (cstr "/dev") (cstr "nvidia" ++ tail)
    rw [one] at split
    exact split
  have bothProper :
      ∀ name, name ∈ [cstr "dev", cstr "nvidia" ++ tail] →
        IsName unixPath name := by
    intro name member
    rcases List.mem_cons.mp member with isDev | isNode
    · rw [isDev]
      decide
    · rw [List.mem_singleton.mp isNode]
      exact proper
  rw [resolve_of_namesWithin normal, cut]
  exact resolve_of_isName bothProper []

/-- The minors are the decimals up to `INT_MAX` behind the prefix. -/
theorem rpsGpuParseNvidiaMinor_eq_some_iff {path : CString} {minor : Nat} :
    rpsGpuParseNvidiaMinor path = some minor ↔
      ∃ digits, IsDecimal digits ∧ decimalFrom 0 digits = minor ∧
        minor ≤ intMax ∧ path = cstr "/dev/nvidia" ++ digits := by
  rw [rpsGpuParseNvidiaMinor]
  split
  · rename_i starts
    obtain ⟨digits, rfl⟩ := starts
    rw [List.drop_left]
    cases digits with
    | nil =>
        constructor
        · intro impossible
          cases impossible
        · intro given
          rcases given with ⟨digits, isDecimal, _, _, same⟩
          exact
            absurd (List.append_cancel_left same).symm isDecimal.nonempty
    | cons first rest =>
        simp only
        rw [digitLoop_eq_some_iff (by decide) (Nat.zero_le _)]
        constructor
        · intro given
          rcases given with ⟨digitsOnly, value, short⟩
          exact
            ⟨first :: rest, ⟨List.cons_ne_nil _ _, digitsOnly⟩, value, short,
              rfl⟩
        · intro given
          rcases given with ⟨digits, isDecimal, value, short, same⟩
          rw [List.append_cancel_left same]
          exact ⟨isDecimal.digits, value, short⟩
  · rename_i differs
    constructor
    · intro impossible
      cases impossible
    · intro given
      rcases given with ⟨digits, _, _, _, rfl⟩
      exact absurd (List.prefix_append _ _) differs

theorem IsDecimal.slash_notMem {digits : CString}
    (isDecimal : IsDecimal digits) : slash ∉ digits := by
  intro member
  exact isDecimal.digits slash member (by decide)

/-- No spelling of a device node has the gpus directory among its names. -/
theorem rpsGpuParseNvidiaMinor_eq_none {path : CString}
    {names : List CString}
    (normal : namesWithin rpsGpuProcPathMax path = some names)
    (below : gpusNames <+: names) :
    rpsGpuParseNvidiaMinor path = none := by
  rw [Option.eq_none_iff_forall_ne_some]
  intro minor parsed
  obtain ⟨digits, isDecimal, _, _, rfl⟩ :=
    rpsGpuParseNvidiaMinor_eq_some_iff.mp parsed
  rw [names_of_nvidia_append isDecimal.slash_notMem normal] at below
  obtain ⟨tail, same⟩ := below
  exact absurd (List.cons.inj same).1 (by decide)

/-- Every spelling of a path below the gpus directory is classified by its
names. -/
theorem rpsGpuClassifyPath_below {path : CString} {names : List CString}
    (normal : namesWithin rpsGpuProcPathMax path = some names)
    (below : gpusNames <+: names) :
    rpsGpuClassifyPath (some path) =
      placeRecord names (blankRecord (some path)) (gpuPathOf names) := by
  have notCtl : path ≠ cstr "/dev/nvidiactl" := by
    intro same
    have ctlNames :
        namesWithin rpsGpuProcPathMax (cstr "/dev/nvidiactl") =
          some [cstr "dev", cstr "nvidiactl"] := by
      decide
    rw [same, ctlNames] at normal
    rw [← Option.some.inj normal] at below
    exact absurd below (by decide)
  have notUvm : path ≠ cstr "/dev/nvidia-uvm" := by
    intro same
    have uvmNames :
        namesWithin rpsGpuProcPathMax (cstr "/dev/nvidia-uvm") =
          some [cstr "dev", cstr "nvidia-uvm"] := by
      decide
    rw [same, uvmNames] at normal
    rw [← Option.some.inj normal] at below
    exact absurd below (by decide)
  simp only [rpsGpuClassifyPath, if_neg notCtl, if_neg notUvm,
    rpsGpuParseNvidiaMinor_eq_none normal below,
    rpsGpuClassifyProcGpuPath_eq, normal]

/-- A record of one of the procfs kinds. -/
def IsProcRecord (record : RpsGpuFdRecord) : Prop :=
  record.kind = .procGpusDir ∨ record.kind = .procGpuBusDir ∨
    record.kind = .procGpuInfo

/-- A record of a procfs kind comes from the names of its path. -/
theorem names_of_procRecord {path : Option CString}
    {record : RpsGpuFdRecord}
    (classified : rpsGpuClassifyPath path = (true, record))
    (proc : IsProcRecord record) :
    ∃ bytes names,
      path = some bytes ∧
        namesWithin rpsGpuProcPathMax bytes = some names ∧
        placeRecord names (blankRecord (some bytes)) (gpuPathOf names) =
          (true, record) := by
  cases path with
  | none =>
      cases classified
  | some bytes =>
      unfold rpsGpuClassifyPath at classified
      simp only at classified
      split at classified
      · cases classified
        simp [IsProcRecord] at proc
      · split at classified
        · cases classified
          simp [IsProcRecord] at proc
        · split at classified
          · cases classified
            simp [IsProcRecord] at proc
          · rw [rpsGpuClassifyProcGpuPath_eq] at classified
            cases normal : namesWithin rpsGpuProcPathMax bytes with
            | none =>
                rw [normal] at classified
                cases classified
            | some names =>
                rw [normal] at classified
                exact ⟨bytes, names, rfl, normal, classified⟩

/-- A record of a directory kind comes from the names of that directory. -/
theorem names_of_classified {path : Option CString}
    {record : RpsGpuFdRecord}
    (classified : rpsGpuClassifyPath path = (true, record))
    (kind : record.kind = .procGpusDir ∨ record.kind = .procGpuBusDir) :
    ∃ bytes names,
      path = some bytes ∧
        namesWithin rpsGpuProcPathMax bytes = some names ∧
        placeRecord names (blankRecord (some bytes)) (gpuPathOf names) =
          (true, record) := by
  apply names_of_procRecord classified
  rcases kind with isDir | isBus
  · exact Or.inl isDir
  · exact Or.inr (Or.inl isBus)

/-- Only absolute paths are classified. -/
theorem absolute_of_classified {path : Option CString}
    {record : RpsGpuFdRecord}
    (classified : rpsGpuClassifyPath path = (true, record)) :
    ∃ bytes, path = some bytes ∧ bytes.head? = some slash := by
  cases path with
  | none =>
      cases classified
  | some bytes =>
      refine ⟨bytes, rfl, ?_⟩
      unfold rpsGpuClassifyPath at classified
      simp only at classified
      split at classified
      · rename_i isCtl
        rw [isCtl]
        rfl
      · split at classified
        · rename_i isUvm
          rw [isUvm]
          rfl
        · split at classified
          · rename_i minor parsed
            unfold rpsGpuParseNvidiaMinor at parsed
            split at parsed
            · rename_i starts
              obtain ⟨digits, rfl⟩ := starts
              rfl
            · cases parsed
          · rw [rpsGpuClassifyProcGpuPath_eq] at classified
            cases normal : namesWithin rpsGpuProcPathMax bytes with
            | none =>
                rw [normal] at classified
                cases classified
            | some names =>
                exact (namesWithin_eq_some_iff.mp normal).1

end RunpodShim

import RunpodShim.Core.Paths

/-!
# Paths of the cgroup files

`rps_cgroup_path` without a test root: the mount point, the part of the
process path below the mount root and the file name, joined with single
separators.
-/

namespace RunpodShim

/-- Two paths with one separator added between them, unless the left one ends
with a slash; leading slashes of the right one are dropped. -/
def joinPath (left right : CString) : CString :=
  left ++ (if left.getLast? = some slash then [] else [slash]) ++
    cleanRel right

/-- A mount root without its trailing slashes; the root itself is empty. -/
def mountRootOf (mountRoot : Option CString) : CString :=
  (mountRoot.getD []).rdropWhile (· == slash)

/-- The part of a path below a mount root: all of it below the root itself,
and otherwise what follows the mount root at a component boundary. -/
inductive PartBelow (root path : CString) : CString → Prop
  | whole : root = [] → PartBelow root path path
  | same : root ≠ [] → path = root → PartBelow root path []
  | below (rest : CString) :
      root ≠ [] → path = root ++ slash :: rest →
        PartBelow root path (slash :: rest)

/-! ## Joining -/

section Join

variable {buflen : Nat} {buf segment : CString}

/-- An append is a join that fits. -/
theorem appendSegment_eq (long : segment ≠ []) :
    appendSegment buflen buf segment =
      if (joinPath buf segment).length < buflen then
        some (joinPath buf segment)
      else none := by
  rw [appendSegment, if_neg long]
  simp only
  by_cases ends : buf.getLast? = some slash
  · have joined : joinPath buf segment = buf ++ cleanRel segment := by
      rw [joinPath, if_pos ends, List.append_nil]
    rw [if_pos ends, joined, List.length_append]
    by_cases fits : buf.length + (cleanRel segment).length < buflen
    · rw [if_pos fits, if_neg (by omega)]
    · rw [if_neg fits, if_pos (by omega)]
  · have joined : joinPath buf segment = buf ++ slash :: cleanRel segment := by
      rw [joinPath, if_neg ends, List.append_assoc]
      rfl
    rw [if_neg ends, joined, List.length_append]
    by_cases fits :
        buf.length + (slash :: cleanRel segment).length < buflen
    · rw [if_pos fits, if_neg (by omega)]
    · rw [if_neg fits, if_pos (by omega)]

theorem length_le_length_joinPath (left right : CString) :
    left.length ≤ (joinPath left right).length := by
  rw [joinPath, List.length_append, List.length_append]
  omega

/-- A name without leading slashes is appended to a directory. -/
theorem exists_directory (left : CString) :
    ∃ directory : CString, directory.getLast? = some slash ∧
      ∀ file, cleanRel file = file → joinPath left file = directory ++ file := by
  refine
    ⟨left ++ (if left.getLast? = some slash then [] else [slash]), ?_, ?_⟩
  · by_cases ends : left.getLast? = some slash
    · rw [if_pos ends, List.append_nil]
      exact ends
    · rw [if_neg ends]
      exact List.getLast?_concat
  · intro file clean
    rw [joinPath, clean]

theorem cleanRel_of_notMem {file : CString} (free : slash ∉ file) :
    cleanRel file = file := by
  cases file with
  | nil =>
      rfl
  | cons first rest =>
      have notSlash : first ≠ slash := fun same =>
        free (same ▸ List.mem_cons_self)
      simp [cleanRel, notSlash]

end Join

/-! ## The part below the mount root -/

section Below

theorem rdropWhile_cons (test : UInt8 → Bool) (first : UInt8)
    (rest : CString) :
    (first :: rest).rdropWhile test =
      if rest.rdropWhile test = [] ∧ test first = true then []
      else first :: rest.rdropWhile test := by
  induction rest using List.reverseRecOn with
  | nil =>
      rw [List.rdropWhile_singleton, List.rdropWhile_nil]
      simp
  | append_singleton rest last inductionHypothesis =>
      rw [← List.cons_append]
      by_cases dropped : test last = true
      · rw [List.rdropWhile_concat_pos test _ _ dropped,
          List.rdropWhile_concat_pos test _ _ dropped, inductionHypothesis]
      · rw [List.rdropWhile_concat_neg test _ _ dropped,
          List.rdropWhile_concat_neg test _ _ dropped]
        simp

/-- Of the slashes of the root itself the code keeps one. -/
theorem withoutTrailingSlashes_eq (mountRoot : Option CString) :
    withoutTrailingSlashes (orRootPath mountRoot) =
      if mountRootOf mountRoot = [] then [slash]
      else mountRootOf mountRoot := by
  rw [mountRootOf, orRootPath]
  cases mountRoot.getD [] with
  | nil =>
      rfl
  | cons first rest =>
      have kept :
          withoutTrailingSlashes (first :: rest) =
            first :: rest.rdropWhile (· == slash) :=
        rfl
      rw [if_neg (List.cons_ne_nil first rest), kept, rdropWhile_cons]
      by_cases allSlashes :
          rest.rdropWhile (· == slash) = [] ∧ (first == slash) = true
      · rw [if_pos allSlashes, allSlashes.1, if_pos rfl,
          beq_iff_eq.mp allSlashes.2]
      · rw [if_neg allSlashes, if_neg (List.cons_ne_nil _ _)]

theorem mountRootOf_ne_slash (mountRoot : Option CString) :
    mountRootOf mountRoot ≠ [slash] := by
  intro same
  have long : mountRootOf mountRoot ≠ [] := by
    rw [same]
    exact List.cons_ne_nil _ _
  have last := List.rdropWhile_last_not (· == slash) _ long
  rw [mountRootOf] at same
  simp [same] at last

theorem orRootPath_ne_nil (path : Option CString) : orRootPath path ≠ [] := by
  rw [orRootPath]
  split
  · exact List.cons_ne_nil _ _
  · assumption

section Parts

variable {root path part : CString}

theorem partBelow_of_root_nil (isRoot : root = []) :
    PartBelow root path part ↔ part = path := by
  constructor
  · intro below
    cases below with
    | whole _ =>
        rfl
    | same long _ =>
        exact absurd isRoot long
    | below rest long _ =>
        exact absurd isRoot long
  · intro same
    rw [same]
    exact PartBelow.whole isRoot

theorem PartBelow.starts (below : PartBelow root path part) :
    root <+: path := by
  cases below with
  | whole isRoot =>
      rw [isRoot]
      exact List.nil_prefix
  | same _ same =>
      exact same ▸ List.prefix_refl root
  | below rest _ same =>
      exact same ▸ List.prefix_append root (slash :: rest)

/-- A path below the mount root goes on at a component boundary. -/
theorem partBelow_append_iff (long : root ≠ []) (rest : CString) :
    PartBelow root (root ++ rest) part ↔
      part = rest ∧ (rest = [] ∨ rest.head? = some slash) := by
  constructor
  · intro below
    generalize whole : root ++ rest = path at below
    cases below with
    | whole none =>
        exact absurd none long
    | same _ same =>
        have nothing : rest = [] :=
          List.append_cancel_left
            ((whole.trans same).trans (List.append_nil root).symm)
        exact ⟨nothing.symm, Or.inl nothing⟩
    | below more _ same =>
        have tail : rest = slash :: more :=
          List.append_cancel_left (whole.trans same)
        exact ⟨tail.symm, Or.inr (by rw [tail, List.head?_cons])⟩
  · intro given
    obtain ⟨rfl, boundary⟩ := given
    rcases boundary with nothing | starts
    · rw [nothing]
      exact PartBelow.same long (List.append_nil root)
    · obtain ⟨more, rfl⟩ := List.head?_eq_some_iff.mp starts
      exact PartBelow.below more long rfl

end Parts

/-- The code finds the part below the mount root; it writes a slash for an
empty one. -/
theorem cgroupPathUnderMountRoot_eq_some_iff
    {mountRoot relPath : Option CString} {inside : CString} :
    cgroupPathUnderMountRoot mountRoot relPath = some inside ↔
      ∃ part, PartBelow (mountRootOf mountRoot) (orRootPath relPath) part ∧
        inside = if part = [] then [slash] else part := by
  have pathLong : orRootPath relPath ≠ [] := orRootPath_ne_nil relPath
  rw [cgroupPathUnderMountRoot]
  simp only [withoutTrailingSlashes_eq]
  by_cases isRoot : mountRootOf mountRoot = []
  · rw [if_pos isRoot, if_pos rfl]
    simp only [partBelow_of_root_nil isRoot, exists_eq_left,
      if_neg pathLong, Option.some.injEq]
    exact eq_comm
  · rw [if_neg isRoot, if_neg (mountRootOf_ne_slash mountRoot)]
    by_cases starts : mountRootOf mountRoot <+: orRootPath relPath
    · rw [if_neg (not_not.mpr starts)]
      obtain ⟨rest, whole⟩ := starts
      rw [← whole, List.drop_left]
      simp only [partBelow_append_iff isRoot, and_assoc, exists_eq_left]
      by_cases nothing : rest = []
      · rw [if_pos nothing, if_pos nothing,
          and_iff_right (Or.inl nothing), Option.some.injEq]
        exact eq_comm
      · rw [if_neg nothing, if_neg nothing]
        by_cases boundary : rest.head? = some slash
        · rw [if_pos boundary, and_iff_right (Or.inr boundary),
            Option.some.injEq]
          exact eq_comm
        · rw [if_neg boundary]
          constructor
          · intro impossible
            cases impossible
          · intro given
            rcases given.1 with empty | atBoundary
            · exact absurd empty nothing
            · exact absurd atBoundary boundary
    · rw [if_pos starts]
      constructor
      · intro impossible
        cases impossible
      · intro given
        obtain ⟨part, below, _⟩ := given
        exact absurd below.starts starts

end Below

section Whole

variable {world : FileWorld} {buflen : Nat} {mountPoint file : CString}
variable {mountRoot relPath : Option CString}

theorem cgroupStart_of_no_testRoot
    (noTestRoot : testRoot world.testCgroupRoot = none) :
    cgroupStart world mountPoint = (mountPoint, []) := by
  rw [cgroupStart, noTestRoot]
  rfl

theorem joinPath_inside (left part : CString) :
    joinPath left (if part = [] then [slash] else part) =
      joinPath left part := by
  by_cases empty : part = []
  · rw [if_pos empty, empty]
    rfl
  · rw [if_neg empty]

/-- The result is the two joins, when they fit. -/
theorem rpsCgroupPath_eq_some_iff
    (noTestRoot : testRoot world.testCgroupRoot = none) (long : file ≠ [])
    {result : CString} :
    rpsCgroupPath world buflen mountPoint mountRoot relPath file =
        some result ↔
      ∃ part, PartBelow (mountRootOf mountRoot) (orRootPath relPath) part ∧
        result = joinPath (joinPath mountPoint part) file ∧
          result.length < buflen := by
  rw [rpsCgroupPath, Option.bind_eq_some_iff]
  simp only [cgroupStart_of_no_testRoot noTestRoot,
    cgroupPathUnderMountRoot_eq_some_iff]
  have appended (part : CString) :
      (if mountPoint.length ≥ buflen then none
      else
        (appendSegment buflen mountPoint []).bind fun mounted =>
          (appendSegment buflen mounted
            (if part = [] then [slash] else part)).bind fun below =>
              appendSegment buflen below file) =
        if (joinPath (joinPath mountPoint part) file).length < buflen then
          some (joinPath (joinPath mountPoint part) file)
        else none := by
    have insideLong :
        (if part = [] then [slash] else part) ≠ [] := by
      split
      · exact List.cons_ne_nil _ _
      · assumption
    have first := length_le_length_joinPath mountPoint part
    have second :=
      length_le_length_joinPath (joinPath mountPoint part) file
    by_cases mounts : mountPoint.length ≥ buflen
    · rw [if_pos mounts, if_neg (by omega)]
    · rw [if_neg mounts, appendSegment, if_pos rfl, Option.bind_some,
        appendSegment_eq insideLong, joinPath_inside]
      by_cases fits : (joinPath mountPoint part).length < buflen
      · rw [if_pos fits, Option.bind_some, appendSegment_eq long]
      · rw [if_neg fits, Option.bind_none, if_neg (by omega)]
  constructor
  · intro given
    rcases given with ⟨_, ⟨part, below, rfl⟩, built⟩
    rw [appended part] at built
    split at built
    · rename_i fits
      rw [Option.some.inj built] at fits
      exact ⟨part, below, (Option.some.inj built).symm, fits⟩
    · cases built
  · intro given
    rcases given with ⟨part, below, rfl, fits⟩
    refine ⟨_, ⟨part, below, rfl⟩, ?_⟩
    rw [appended part, if_pos fits]

/-- At most one part of a path is below a mount root. -/
theorem PartBelow.unique {root path first second : CString}
    (left : PartBelow root path first)
    (right : PartBelow root path second) : first = second := by
  cases left with
  | whole none =>
      cases right with
      | whole _ =>
          rfl
      | same long _ =>
          exact absurd none long
      | below _ long _ =>
          exact absurd none long
  | same long isRoot =>
      cases right with
      | whole none =>
          exact absurd none long
      | same _ _ =>
          rfl
      | below rest _ isBelow =>
          have longer := congrArg List.length (isRoot.symm.trans isBelow)
          rw [List.length_append, List.length_cons] at longer
          omega
  | below rest long isBelow =>
      cases right with
      | whole none =>
          exact absurd none long
      | same _ isRoot =>
          have longer := congrArg List.length (isRoot.symm.trans isBelow)
          rw [List.length_append, List.length_cons] at longer
          omega
      | below more _ alsoBelow =>
          exact List.append_cancel_left (isBelow.symm.trans alsoBelow)

end Whole

/-- The paths of the cgroup files, without a test root: which arguments have
one, what it is, that the files of one candidate are in one directory, and
that a longer name beside the mount root is not inside it. -/
theorem rpsCgroupPath_exact {world : FileWorld}
    (noTestRoot : testRoot world.testCgroupRoot = none)
    (mountPoint : CString) (mountRoot relPath : Option CString) :
    (∀ (file : CString), file ≠ [] → slash ∉ file →
      ∀ (buflen : Nat) (result : CString),
        rpsCgroupPath world buflen mountPoint mountRoot relPath file =
            some result ↔
          ∃ part,
            PartBelow (mountRootOf mountRoot) (orRootPath relPath) part ∧
              result = joinPath (joinPath mountPoint part) file ∧
                result.length < buflen) ∧
      (∃ directory : CString, directory.getLast? = some slash ∧
        ∀ (file : CString), file ≠ [] → slash ∉ file →
          ∀ (buflen : Nat) (result : CString),
            rpsCgroupPath world buflen mountPoint mountRoot relPath file =
                some result →
              result = directory ++ file) ∧
      ∀ (file : CString), file ≠ [] → slash ∉ file →
        ∀ (buflen : Nat) (next : UInt8) (rest : CString),
          next ≠ slash → mountRootOf mountRoot ≠ [] →
            orRootPath relPath = mountRootOf mountRoot ++ next :: rest →
              rpsCgroupPath world buflen mountPoint mountRoot relPath file =
                none := by
  refine ⟨?_, ?_, ?_⟩
  · intro file long _ buflen result
    exact rpsCgroupPath_eq_some_iff noTestRoot long
  · by_cases inside :
        ∃ part, PartBelow (mountRootOf mountRoot) (orRootPath relPath) part
    · obtain ⟨part, below⟩ := inside
      obtain ⟨directory, ends, joined⟩ :=
        exists_directory (joinPath mountPoint part)
      refine ⟨directory, ends, ?_⟩
      intro file long free buflen result built
      obtain ⟨other, alsoBelow, rfl, _⟩ :=
        (rpsCgroupPath_eq_some_iff noTestRoot long).mp built
      rw [alsoBelow.unique below, joined file (cleanRel_of_notMem free)]
    · refine ⟨[slash], rfl, ?_⟩
      intro file long _ buflen result built
      obtain ⟨part, below, _⟩ :=
        (rpsCgroupPath_eq_some_iff noTestRoot long).mp built
      exact absurd ⟨part, below⟩ inside
  · intro file long _ buflen next rest notSlash notRoot beside
    rw [Option.eq_none_iff_forall_ne_some]
    intro result built
    obtain ⟨part, below, _⟩ :=
      (rpsCgroupPath_eq_some_iff noTestRoot long).mp built
    rw [beside] at below
    cases below with
    | whole isRoot =>
        exact notRoot isRoot
    | same _ same =>
        have longer := congrArg List.length same
        rw [List.length_append, List.length_cons] at longer
        omega
    | below more _ same =>
        exact
          notSlash (List.cons.inj (List.append_cancel_left same)).1

/-- A group below the mount root, and one beside it. -/
theorem rpsCgroupPath_exact_docker :
    rpsCgroupPath (worldOf []) 512 (cstr "/cg/") (some (cstr "/docker/"))
        (some (cstr "/docker//pod")) (cstr "memory.max") =
      some (cstr "/cg/pod/memory.max") ∧
      rpsCgroupPath (worldOf []) 512 (cstr "/cg/")
          (some (cstr "/docker/")) (some (cstr "/docker2"))
          (cstr "memory.max") = none := by
  constructor
  · have exact :=
      rpsCgroupPath_exact (rfl : testRoot (worldOf []).testCgroupRoot = none)
        (cstr "/cg/") (some (cstr "/docker/"))
        (some (cstr "/docker//pod"))
    refine
      (exact.1 (cstr "memory.max") (by decide) (by decide) 512 _).mpr
        ⟨cstr "//pod", ?_, by decide, by decide⟩
    exact PartBelow.below (cstr "/pod") (by decide) (by decide)
  · have exact :=
      rpsCgroupPath_exact (rfl : testRoot (worldOf []).testCgroupRoot = none)
        (cstr "/cg/") (some (cstr "/docker/")) (some (cstr "/docker2"))
    exact
      exact.2.2 (cstr "memory.max") (by decide) (by decide) 512
        (UInt8.ofNat 50) [] (by decide) (by decide) (by decide)

end RunpodShim

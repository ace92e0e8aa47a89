import RunpodShim.Cgroup.Cgroup
import RunpodShim.Library.FirstMinimum

/-!
# The most restrictive candidate

Cgroup detection against a reading of its own: what a candidate is, line by
line, and which one of them is chosen.
-/

namespace RunpodShim

open FirstMinimum
open TextLines

/-! ## Tokens -/

/-- The first token of the first line of a file. -/
def firstToken (content : List UInt8) : CString :=
  trimToken ((firstLine newline content).takeWhile (· != 0))

/-- The first token of the first line of the file is a decimal of that
value. -/
def HasDecimal (world : FileWorld) (path : CString) (value : Nat) : Prop :=
  ∃ content, world.file path = some content ∧
    IsDecimal (firstToken content) ∧
      decimalFrom 0 (firstToken content) = value

/-- The first line of the file is as short as the kernel writes it. -/
def ShortFirstLine (world : FileWorld) (path : CString) : Prop :=
  ∀ content, world.file path = some content →
    (content.takeWhile (· != newline)).length < 63

section Tokens

variable {world : FileWorld} {path token : CString} {value : Nat}

theorem parseU64Token_eq_some_iff :
    parseU64Token token = some value ↔
      IsDecimal token ∧ decimalFrom 0 token = value ∧
        value ≤ uint64Max := by
  unfold parseU64Token
  by_cases empty : token = []
  · rw [if_pos empty]
    constructor
    · intro impossible
      cases impossible
    · intro given
      rcases given with ⟨decimal, _⟩
      exact absurd empty decimal.nonempty
  · rw [if_neg empty, digitLoop_eq_some_iff (by decide) (Nat.zero_le _)]
    constructor
    · intro given
      rcases given with ⟨digits, same, fits⟩
      exact ⟨⟨empty, digits⟩, same, fits⟩
    · intro given
      rcases given with ⟨decimal, same, fits⟩
      exact ⟨decimal.digits, same, fits⟩

theorem length_firstLine_le (text : List UInt8) :
    (firstLine newline text).length ≤
      (text.takeWhile (· != newline)).length + 1 := by
  rw [firstLine, List.length_append, List.length_take]
  omega

/-- With a short first line the reader takes its first token. -/
theorem readTokenFile_eq_some_iff (short : ShortFirstLine world path) :
    readTokenFile world path tokenBufferSize = some token ↔
      ∃ content, world.file path = some content ∧
        firstToken content = token ∧ token ≠ [] := by
  unfold readTokenFile
  cases opened : world.file path with
  | none =>
      simp
  | some content =>
      have room := short content opened
      have whole :
          chunk newline (tokenBufferSize - 1) content =
            firstLine newline content := by
        apply List.take_of_length_le
        have bound := length_firstLine_le content
        simp only [tokenBufferSize]
        omega
      simp only [Option.bind_some, Option.some.injEq, exists_eq_left',
        fgets, whole]
      by_cases empty : content = []
      · subst empty
        have nothing : firstToken [] = [] := by
          decide
        rw [if_pos rfl, nothing]
        constructor
        · intro impossible
          cases impossible
        · intro given
          rcases given with ⟨rfl, more⟩
          exact absurd rfl more
      · rw [if_neg empty, Option.bind_some, ← firstToken]
        by_cases blank : firstToken content = []
        · rw [if_pos blank, blank]
          constructor
          · intro impossible
            cases impossible
          · intro given
            rcases given with ⟨rfl, more⟩
            exact absurd rfl more
        · rw [if_neg blank, Option.some.injEq]
          constructor
          · intro same
            subst same
            exact ⟨rfl, blank⟩
          · exact fun both => both.1

theorem readCounterFile_eq_some_iff (short : ShortFirstLine world path) :
    readCounterFile world path = some value ↔
      HasDecimal world path value ∧ value ≤ uint64Max := by
  simp only [readCounterFile, Option.bind_eq_some_iff,
    readTokenFile_eq_some_iff short, parseU64Token_eq_some_iff, HasDecimal]
  constructor
  · intro given
    rcases given with ⟨token, ⟨content, opened, rfl, _⟩, decimal, same, fits⟩
    exact ⟨⟨content, opened, decimal, same⟩, fits⟩
  · intro given
    rcases given with ⟨⟨content, opened, decimal, same⟩, fits⟩
    exact
      ⟨_, ⟨content, opened, rfl, decimal.nonempty⟩, decimal, same, fits⟩

theorem not_isDecimal_max : ¬ IsDecimal (cstr "max") := by
  intro decimal
  exact decimal.digits 109 (by decide) (by decide)

theorem readLimitFile_eq_some_iff (short : ShortFirstLine world path) :
    readLimitFile world path = some value ↔
      HasDecimal world path value ∧ 0 < value ∧
        value < rpsCgroupUnlimitedSentinel := by
  have sentinelFits : rpsCgroupUnlimitedSentinel ≤ uint64Max := by
    decide
  simp only [readLimitFile, Option.bind_eq_some_iff,
    readTokenFile_eq_some_iff short, HasDecimal]
  constructor
  · intro given
    rcases given with ⟨token, ⟨content, opened, rfl, _⟩, read⟩
    split at read
    · cases read
    · obtain ⟨parsed, isParsed, kept⟩ := Option.bind_eq_some_iff.mp read
      split at kept
      · cases kept
      · rename_i bounded
        obtain ⟨decimal, same, _⟩ := parseU64Token_eq_some_iff.mp isParsed
        rw [← Option.some.inj kept]
        exact ⟨⟨content, opened, decimal, same⟩, by omega, by omega⟩
  · intro given
    rcases given with ⟨⟨content, opened, decimal, same⟩, positive, limited⟩
    refine ⟨_, ⟨content, opened, rfl, decimal.nonempty⟩, ?_⟩
    have notMax : firstToken content ≠ cstr "max" := by
      intro isMax
      rw [isMax] at decimal
      exact not_isDecimal_max decimal
    have parsed : parseU64Token (firstToken content) = some value :=
      parseU64Token_eq_some_iff.mpr ⟨decimal, same, by omega⟩
    rw [if_neg notMax, parsed, Option.bind_some, if_neg (by omega)]

end Tokens

/-! ## Lines -/

section Lines

variable {line : CString}

/-- The loop over the parts looks for the needle among them. -/
theorem controllersLoop_eq_true_iff {needle part : CString}
    (long : needle ≠ []) {rounds : Nat} (enough : part.length ≤ rounds) :
    controllersLoop needle rounds part = true ↔
      needle ∈ part.splitOn comma := by
  induction rounds generalizing part with
  | zero =>
      rw [List.eq_nil_of_length_eq_zero (Nat.le_zero.mp enough)]
      simp [controllersLoop, long]
  | succ rounds inductionHypothesis =>
      by_cases done : part = []
      · subst done
        simp [controllersLoop, long]
      · rw [controllersLoop, if_neg done]
        by_cases cut : comma ∈ part
        · obtain ⟨front, back, rfl, free⟩ :=
            List.eq_append_cons_of_mem cut
          have later : back.length ≤ rounds := by
            simp only [List.length_append, List.length_cons] at enough
            omega
          rw [takeWhile_append_separator free,
            dropWhile_append_separator free,
            List.splitOn_append_cons_self_of_not_mem free,
            List.mem_cons, if_neg (List.cons_ne_nil comma back)]
          by_cases found : front = needle
          · simp [found]
          · rw [if_neg found, List.drop_succ_cons, List.drop_zero,
              inductionHypothesis later]
            simp [Ne.symm found]
        · rw [takeWhile_of_separator_notMem cut,
            dropWhile_of_separator_notMem cut,
            List.splitOn_eq_singleton cut, List.mem_singleton]
          by_cases found : part = needle
          · simp [found]
          · simp [found, Ne.symm found]

theorem controllersInclude_iff {controllers needle : CString}
    (long : needle ≠ []) :
    controllersInclude controllers needle = true ↔
      needle ∈ controllers.splitOn comma :=
  controllersLoop_eq_true_iff long (Nat.le_refl _)

/-- The parts of a line are what stands around its first two colons. -/
theorem splitCgroupLine_eq_some_iff {parts : CgroupLine} :
    splitCgroupLine line = some parts ↔
      ∃ path,
        colon ∉ parts.hierarchy ∧ colon ∉ parts.controllers ∧
          line =
            parts.hierarchy ++
              colon :: (parts.controllers ++ colon :: path) ∧
          parts.relPath = if path = [] then [slash] else path := by
  constructor
  · intro split
    unfold splitCgroupLine at split
    by_cases hasFirst : colon ∈ line
    · obtain ⟨hierarchy, tail, rfl, hierarchyFree⟩ :=
        List.eq_append_cons_of_mem hasFirst
      rw [takeWhile_append_separator hierarchyFree,
        dropWhile_append_separator hierarchyFree] at split
      simp only [List.cons_ne_nil, if_false, List.drop_succ_cons,
        List.drop_zero] at split
      by_cases hasSecond : colon ∈ tail
      · obtain ⟨controllers, path, rfl, controllersFree⟩ :=
          List.eq_append_cons_of_mem hasSecond
        rw [takeWhile_append_separator controllersFree,
          dropWhile_append_separator controllersFree] at split
        simp only [List.cons_ne_nil, if_false, List.drop_succ_cons,
          List.drop_zero, Option.some.injEq] at split
        subst split
        exact ⟨path, hierarchyFree, controllersFree, rfl, rfl⟩
      · rw [dropWhile_of_separator_notMem hasSecond] at split
        simp at split
    · rw [dropWhile_of_separator_notMem hasFirst] at split
      simp at split
  · intro given
    rcases given with ⟨path, hierarchyFree, controllersFree, rfl, isPath⟩
    unfold splitCgroupLine
    rw [takeWhile_append_separator hierarchyFree,
      dropWhile_append_separator hierarchyFree]
    simp only [List.cons_ne_nil, if_false, List.drop_succ_cons,
      List.drop_zero]
    rw [takeWhile_append_separator controllersFree,
      dropWhile_append_separator controllersFree]
    simp only [List.cons_ne_nil, if_false, List.drop_succ_cons,
      List.drop_zero, ← isPath]

/-- The lines of a file, without their newlines. -/
def cgroupLines (content : List UInt8) : List CString :=
  (rawLines newline content).map fun raw => raw.takeWhile (· != newline)

/-- A file as the kernel writes it: no NUL, no carriage return, and lines
that fit the line buffer. -/
structure IsPlainText (content : List UInt8) : Prop where
  noNul : 0 ∉ content
  noReturn : carriageReturn ∉ content
  fits :
    ∀ raw, raw ∈ rawLines newline content → raw.length ≤ 1023

theorem mem_of_mem_rawLines {content raw : List UInt8} {byte : UInt8}
    (inLines : raw ∈ rawLines newline content) (member : byte ∈ raw) :
    byte ∈ content := by
  rw [← flatten_rawLines newline content]
  exact List.mem_flatten.mpr ⟨raw, inLines, member⟩

theorem cutLine_of_plain {raw : CString} (noNul : 0 ∉ raw)
    (noReturn : carriageReturn ∉ raw) :
    cutLine raw = raw.takeWhile (· != newline) := by
  induction raw with
  | nil =>
      rfl
  | cons byte rest inductionHypothesis =>
      rw [List.mem_cons, not_or] at noNul noReturn
      have later := inductionHypothesis noNul.2 noReturn.2
      have notNul : byte ≠ 0 := Ne.symm noNul.1
      have notReturn : byte ≠ carriageReturn := Ne.symm noReturn.1
      rw [cutLine] at later ⊢
      by_cases ends : byte = newline
      · simp [ends]
      · simp [notNul, notReturn, ends, later]

theorem fgetsLines_of_plain {content : List UInt8}
    (plain : IsPlainText content) :
    fgetsLines content = cgroupLines content := by
  have chunks :
      readChunks newline (lineBufferSize - 1) content.length content =
        rawLines newline content :=
    readChunks_eq_rawLines plain.fits (Nat.le_refl _)
  rw [fgetsLines, chunks, cgroupLines]
  apply List.map_congr_left
  intro raw inLines
  apply cutLine_of_plain
  · intro member
    exact plain.noNul (mem_of_mem_rawLines inLines member)
  · intro member
    exact plain.noReturn (mem_of_mem_rawLines inLines member)

end Lines

/-! ## Candidates -/

/-- The path of a line, read as the root when it is empty. -/
def pathOrRoot (path : CString) : CString :=
  if path = [] then [slash] else path

/-- The hierarchy and the path that a line names. -/
inductive LineNames (mounts : RpsCgroupMounts) :
    CString → CgroupFiles → CgroupMount → CString → Prop
  | v2 (path : CString) (mount : CgroupMount)
      (mounted : mounts.v2 = some mount) :
      LineNames mounts (cstr "0::" ++ path) v2Files mount (pathOrRoot path)
  | v1 (hierarchy controllers path : CString) (mount : CgroupMount)
      (hierarchyFree : colon ∉ hierarchy)
      (controllersFree : colon ∉ controllers)
      (lists : cstr "memory" ∈ controllers.splitOn comma)
      (mounted : mounts.v1Memory = some mount) :
      LineNames mounts
        (hierarchy ++ colon :: (controllers ++ colon :: path)) v1Files mount
        (pathOrRoot path)

/-- The record holds what the two files of one place say: a limit that is one,
and a counter. -/
structure ReadsAs (world : FileWorld) (files : CgroupFiles)
    (mount : CgroupMount) (path : CString) (candidate : RpsCgroupMemory) :
    Prop where
  version : candidate.version = files.version
  limitPath :
    rpsCgroupPath world cgroupPathSize mount.mountPoint (some mount.root)
      (some path) files.limitFile = some candidate.limitPath
  currentPath :
    rpsCgroupPath world cgroupPathSize mount.mountPoint (some mount.root)
      (some path) files.currentFile = some candidate.currentPath
  limit : HasDecimal world candidate.limitPath candidate.limitBytes
  positive : 0 < candidate.limitBytes
  limited : candidate.limitBytes < 0x7ffffffffffff000
  current : HasDecimal world candidate.currentPath candidate.currentBytes
  fits : candidate.currentBytes ≤ uint64Max

/-- The line yields the candidate. -/
def IsCandidate (world : FileWorld) (mounts : RpsCgroupMounts)
    (line : CString) (candidate : RpsCgroupMemory) : Prop :=
  ∃ files mount path, LineNames mounts line files mount path ∧
    ReadsAs world files mount path candidate

/-- The files of the mounted hierarchies have short first lines. -/
structure ShortCgroupFiles (world : FileWorld)
    (mounts : RpsCgroupMounts) : Prop where
  limits :
    ∀ line files mount path, LineNames mounts line files mount path →
      ∀ limitPath,
        rpsCgroupPath world cgroupPathSize mount.mountPoint
            (some mount.root) (some path) files.limitFile =
          some limitPath →
        ShortFirstLine world limitPath
  counters :
    ∀ line files mount path, LineNames mounts line files mount path →
      ∀ currentPath,
        rpsCgroupPath world cgroupPathSize mount.mountPoint
            (some mount.root) (some path) files.currentFile =
          some currentPath →
        ShortFirstLine world currentPath

/-- The candidate of a line, as the loop finds it. -/
def candidateOfLine (world : FileWorld) (mounts : RpsCgroupMounts)
    (line : CString) : Option RpsCgroupMemory :=
  (splitCgroupLine line).bind fun parts =>
    if parts.hierarchy = cstr "0" ∧ parts.controllers = [] then
      mounts.v2.bind fun mount =>
        candidateAt world v2Files mount parts.relPath
    else if controllersInclude parts.controllers (cstr "memory") = true then
      mounts.v1Memory.bind fun mount =>
        candidateAt world v1Files mount parts.relPath
    else none

section Candidates

variable {world : FileWorld} {mounts : RpsCgroupMounts} {line : CString}
variable {candidate : RpsCgroupMemory}

theorem candidateAt_eq_some_iff {files : CgroupFiles} {mount : CgroupMount}
    {path : CString} (short : ShortCgroupFiles world mounts)
    (names : LineNames mounts line files mount path) :
    candidateAt world files mount path = some candidate ↔
      ReadsAs world files mount path candidate := by
  simp only [candidateAt, Option.bind_eq_some_iff, Option.map_eq_some_iff]
  constructor
  · intro given
    rcases given with
      ⟨limitPath, builtLimit, currentPath, builtCurrent, limitBytes,
        readLimit, currentBytes, readCurrent, rfl⟩
    obtain ⟨limit, positive, limited⟩ :=
      (readLimitFile_eq_some_iff
        (short.limits _ _ _ _ names _ builtLimit)).mp readLimit
    obtain ⟨current, fits⟩ :=
      (readCounterFile_eq_some_iff
        (short.counters _ _ _ _ names _ builtCurrent)).mp readCurrent
    exact
      ⟨rfl, builtLimit, builtCurrent, limit, positive, limited, current,
        fits⟩
  · intro reads
    have readLimit :=
      (readLimitFile_eq_some_iff
        (short.limits _ _ _ _ names _ reads.limitPath)).mpr
          ⟨reads.limit, reads.positive, reads.limited⟩
    have readCurrent :=
      (readCounterFile_eq_some_iff
        (short.counters _ _ _ _ names _ reads.currentPath)).mpr
          ⟨reads.current, reads.fits⟩
    refine
      ⟨_, reads.limitPath, _, reads.currentPath, _, readLimit, _,
        readCurrent, ?_⟩
    rw [← reads.version]

/-- A version 2 line lists no controller. -/
theorem not_controllersInclude_nil :
    controllersInclude [] (cstr "memory") = false :=
  rfl

theorem lineNames_iff {files : CgroupFiles} {mount : CgroupMount}
    {path : CString} :
    LineNames mounts line files mount path ↔
      ∃ parts, splitCgroupLine line = some parts ∧ parts.relPath = path ∧
        ((parts.hierarchy = cstr "0" ∧ parts.controllers = [] ∧
            files = v2Files ∧ mounts.v2 = some mount) ∨
          (controllersInclude parts.controllers (cstr "memory") = true ∧
            files = v1Files ∧ mounts.v1Memory = some mount)) := by
  have long : cstr "memory" ≠ [] := by
    decide
  constructor
  · intro names
    cases names with
    | v2 path mount mounted =>
        refine
          ⟨⟨cstr "0", [], pathOrRoot path⟩, ?_, rfl,
            Or.inl ⟨rfl, rfl, rfl, mounted⟩⟩
        apply splitCgroupLine_eq_some_iff.mpr
        have zeroFree : colon ∉ cstr "0" := by
          decide
        exact ⟨path, zeroFree, List.not_mem_nil, rfl, rfl⟩
    | v1 hierarchy controllers path mount hierarchyFree controllersFree
        lists mounted =>
        refine
          ⟨⟨hierarchy, controllers, pathOrRoot path⟩, ?_, rfl,
            Or.inr ⟨(controllersInclude_iff long).mpr lists, rfl, mounted⟩⟩
        apply splitCgroupLine_eq_some_iff.mpr
        exact ⟨path, hierarchyFree, controllersFree, rfl, rfl⟩
  · intro given
    rcases given with ⟨parts, split, rfl, either⟩
    obtain ⟨path, hierarchyFree, controllersFree, rfl, isPath⟩ :=
      splitCgroupLine_eq_some_iff.mp split
    rw [isPath]
    rcases either with
      ⟨isZero, noControllers, rfl, mounted⟩ | ⟨includes, rfl, mounted⟩
    · rw [isZero, noControllers]
      exact LineNames.v2 path mount mounted
    · exact
        LineNames.v1 _ _ path mount hierarchyFree controllersFree
          ((controllersInclude_iff long).mp includes) mounted

theorem candidateOfLine_eq_some_iff
    (short : ShortCgroupFiles world mounts) :
    candidateOfLine world mounts line = some candidate ↔
      IsCandidate world mounts line candidate := by
  have candidates :
      candidateOfLine world mounts line = some candidate ↔
        ∃ files mount path, LineNames mounts line files mount path ∧
          candidateAt world files mount path = some candidate := by
    simp only [lineNames_iff, candidateOfLine, Option.bind_eq_some_iff]
    constructor
    · intro given
      rcases given with ⟨parts, split, yielded⟩
      split at yielded
      · rename_i isV2
        obtain ⟨mount, mounted, built⟩ :=
          Option.bind_eq_some_iff.mp yielded
        exact
          ⟨v2Files, mount, parts.relPath,
            ⟨parts, split, rfl, Or.inl ⟨isV2.1, isV2.2, rfl, mounted⟩⟩,
            built⟩
      · split at yielded
        · rename_i includes
          obtain ⟨mount, mounted, built⟩ :=
            Option.bind_eq_some_iff.mp yielded
          exact
            ⟨v1Files, mount, parts.relPath,
              ⟨parts, split, rfl, Or.inr ⟨includes, rfl, mounted⟩⟩, built⟩
        · cases yielded
    · intro given
      rcases given with
        ⟨files, mount, path, ⟨parts, split, rfl, either⟩, built⟩
      refine ⟨parts, split, ?_⟩
      rcases either with
        ⟨isZero, noControllers, rfl, mounted⟩ | ⟨includes, rfl, mounted⟩
      · rw [if_pos ⟨isZero, noControllers⟩, mounted]
        exact built
      · have notV2 :
            ¬ (parts.hierarchy = cstr "0" ∧ parts.controllers = []) := by
          intro given
          rcases given with ⟨_, noControllers⟩
          rw [noControllers, not_controllersInclude_nil] at includes
          cases includes
        rw [if_neg notV2, if_pos includes, mounted]
        exact built
  rw [candidates]
  refine exists_congr fun files => exists_congr fun mount => ?_
  refine exists_congr fun path => and_congr_right fun names => ?_
  exact candidateAt_eq_some_iff short names

end Candidates

/-! ## The fold -/

/-- The mounts that detection goes by; none when there are none. -/
def detectedMounts (world : FileWorld) : RpsCgroupMounts :=
  (detectMounts world).getD ⟨none, none⟩

/-- The content of `/proc/self/cgroup`; nothing when it cannot be opened. -/
def cgroupContent (world : FileWorld) : List UInt8 :=
  ((rpsProcPath world cgroupPathSize (cstr "/proc/self/cgroup")).bind
    world.file).getD []

/-- The candidate kept so far. -/
def Detection.chosen (detection : Detection) : Option RpsCgroupMemory :=
  if detection.found then some detection.best else none

section Fold

variable {world : FileWorld} {mounts : RpsCgroupMounts}

/-- A line is considered once. -/
theorem detectLine_eq (detection : Detection) (line : CString) :
    detectLine world mounts detection line =
      considerCandidate detection (candidateOfLine world mounts line) := by
  unfold detectLine candidateOfLine
  cases splitCgroupLine line with
  | none =>
      rfl
  | some parts =>
      simp only [Option.bind_some]
      by_cases isV2 : parts.hierarchy = cstr "0" ∧ parts.controllers = []
      · rw [if_pos isV2, if_pos isV2, isV2.2, not_controllersInclude_nil]
        rfl
      · rw [if_neg isV2, if_neg isV2]
        by_cases includes :
            controllersInclude parts.controllers (cstr "memory") = true
        · rw [if_pos includes, if_pos includes]
        · rw [if_neg includes, if_neg includes]
          rfl

/-- A candidate replaces the one kept so far when it is smaller. -/
theorem chosen_considerCandidate (detection : Detection)
    (candidate : RpsCgroupMemory) :
    (considerCandidate detection (some candidate)).chosen =
      List.argAux
        (fun later kept => later.limitBytes < kept.limitBytes)
        detection.chosen candidate := by
  obtain ⟨found, best⟩ := detection
  cases found with
  | false =>
      rfl
  | true =>
      simp only [considerCandidate, Detection.chosen, List.argAux]
      by_cases smaller : candidate.limitBytes < best.limitBytes
      · simp [smaller]
      · simp [smaller]

theorem chosen_foldl_detectLine (lines : List CString)
    (detection : Detection) :
    (lines.foldl (detectLine world mounts) detection).chosen =
      (lines.filterMap (candidateOfLine world mounts)).foldl
        (List.argAux fun later kept =>
          later.limitBytes < kept.limitBytes)
        detection.chosen := by
  induction lines generalizing detection with
  | nil =>
      rfl
  | cons line rest inductionHypothesis =>
      rw [List.foldl_cons, inductionHypothesis, detectLine_eq]
      cases yielded : candidateOfLine world mounts line with
      | none =>
          rw [List.filterMap_cons_none yielded]
          rfl
      | some candidate =>
          rw [List.filterMap_cons_some yielded, List.foldl_cons,
            chosen_considerCandidate]

theorem candidateOfLine_of_noMounts (line : CString) :
    candidateOfLine world ⟨none, none⟩ line = none := by
  unfold candidateOfLine
  cases splitCgroupLine line with
  | none =>
      rfl
  | some parts =>
      simp

/-- The record that detection chooses, and that it chooses none otherwise. -/
theorem rpsCgroupMemoryDetect_eq (world : FileWorld) :
    rpsCgroupMemoryDetect world =
      (((fgetsLines (cgroupContent world)).filterMap
        (candidateOfLine world (detectedMounts world))).argmin
          RpsCgroupMemory.limitBytes).elim
            (false, zeroCgroupMemory) fun best => (true, best) := by
  unfold rpsCgroupMemoryDetect detectedMounts
  cases detected : detectMounts world with
  | none =>
      have silent :
          (fgetsLines (cgroupContent world)).filterMap
            (candidateOfLine world ⟨none, none⟩) = [] := by
        rw [List.filterMap_eq_nil_iff]
        exact fun line _ => candidateOfLine_of_noMounts line
      rw [Option.getD_none, silent]
      rfl
  | some mounts =>
      rw [Option.getD_some]
      simp only
      unfold cgroupContent
      cases opened :
          (rpsProcPath world cgroupPathSize
            (cstr "/proc/self/cgroup")).bind world.file with
      | none =>
          rfl
      | some content =>
          have chosen :
              ((fgetsLines content).foldl (detectLine world mounts)
                  ⟨false, zeroCgroupMemory⟩).chosen =
                ((fgetsLines content).filterMap
                  (candidateOfLine world mounts)).argmin
                    RpsCgroupMemory.limitBytes :=
            chosen_foldl_detectLine (fgetsLines content)
              ⟨false, zeroCgroupMemory⟩
          simp only [Option.getD_some, ← chosen]
          generalize (fgetsLines content).foldl (detectLine world mounts)
            ⟨false, zeroCgroupMemory⟩ = detection
          obtain ⟨found, best⟩ := detection
          cases found with
          | false =>
              rfl
          | true =>
              rfl

/-- What detection finds is what it read from the files of one place. -/
theorem exists_candidateAt_of_detect
    (found : (rpsCgroupMemoryDetect world).1 = true) :
    ∃ files mount path, (files = v2Files ∨ files = v1Files) ∧
      candidateAt world files mount path =
        some (rpsCgroupMemoryDetect world).2 := by
  rw [rpsCgroupMemoryDetect_eq] at found ⊢
  cases chosen :
      ((fgetsLines (cgroupContent world)).filterMap
        (candidateOfLine world (detectedMounts world))).argmin
          RpsCgroupMemory.limitBytes with
  | none =>
      rw [chosen] at found
      cases found
  | some best =>
      obtain ⟨line, _, yielded⟩ :=
        List.mem_filterMap.mp (List.argmin_mem (Option.mem_def.mpr chosen))
      obtain ⟨parts, _, built⟩ := Option.bind_eq_some_iff.mp yielded
      split at built
      · obtain ⟨mount, _, isBest⟩ := Option.bind_eq_some_iff.mp built
        exact ⟨v2Files, mount, parts.relPath, Or.inl rfl, isBest⟩
      · split at built
        · obtain ⟨mount, _, isBest⟩ := Option.bind_eq_some_iff.mp built
          exact ⟨v1Files, mount, parts.relPath, Or.inr rfl, isBest⟩
        · cases built

end Fold

/-- Detection picks the first least of the candidates, and says so; when no
line yields one the record is all zero. -/
theorem rpsCgroupMemoryDetect_exact {world : FileWorld}
    (plain : IsPlainText (cgroupContent world))
    (short : ShortCgroupFiles world (detectedMounts world)) :
    ((rpsCgroupMemoryDetect world).1 = true ↔
      ∃ line candidate, line ∈ cgroupLines (cgroupContent world) ∧
        IsCandidate world (detectedMounts world) line candidate) ∧
    ((rpsCgroupMemoryDetect world).1 = true →
      ∃ front line back,
        cgroupLines (cgroupContent world) = front ++ line :: back ∧
          IsCandidate world (detectedMounts world) line
            (rpsCgroupMemoryDetect world).2 ∧
          (∀ other, other ∈ front → ∀ candidate,
            IsCandidate world (detectedMounts world) other candidate →
              (rpsCgroupMemoryDetect world).2.limitBytes <
                candidate.limitBytes) ∧
          ∀ other, other ∈ back → ∀ candidate,
            IsCandidate world (detectedMounts world) other candidate →
              (rpsCgroupMemoryDetect world).2.limitBytes ≤
                candidate.limitBytes) ∧
    ((rpsCgroupMemoryDetect world).1 = false →
      (rpsCgroupMemoryDetect world).2 = zeroCgroupMemory) := by
  rw [rpsCgroupMemoryDetect_eq, fgetsLines_of_plain plain]
  simp only [← candidateOfLine_eq_some_iff short]
  cases chosen :
      ((cgroupLines (cgroupContent world)).filterMap
        (candidateOfLine world (detectedMounts world))).argmin
          RpsCgroupMemory.limitBytes with
  | none =>
      have nothing :=
        List.filterMap_eq_nil_iff.mp (List.argmin_eq_none.mp chosen)
      simp only [Option.elim_none, Bool.false_eq_true, false_implies,
        false_iff, implies_true, and_true]
      intro given
      rcases given with ⟨line, candidate, member, yielded⟩
      rw [nothing line member] at yielded
      cases yielded
  | some best =>
      simp only [Option.elim_some, true_iff, true_implies,
        Bool.true_eq_false, false_implies, and_true]
      have first :=
        isFirstLeast_filterMap_iff.mp
          (argmin_eq_some_iff_isFirstLeast.mp chosen)
      refine ⟨?_, first⟩
      obtain ⟨front, line, back, split, yielded, _⟩ := first
      refine ⟨line, best, ?_, yielded⟩
      rw [split]
      exact List.mem_append_right front List.mem_cons_self

theorem shortFirstLine_worldOf {files : List (CString × List UInt8)}
    (short :
      ∀ entry, entry ∈ files →
        (entry.2.takeWhile (· != newline)).length < 63)
    (path : CString) : ShortFirstLine (worldOf files) path := by
  intro content opened
  obtain ⟨entry, found, rfl⟩ := Option.map_eq_some_iff.mp opened
  exact short entry (List.mem_of_find?_eq_some found)

/-- A process in both hierarchies, with the lower limit in version 2. -/
def hybridWorld : FileWorld :=
  worldOf
    [(cstr "/proc/self/mountinfo",
        cstr "30 23 0:26 / /cg/memory rw - cgroup cgroup rw,memory\n" ++
          cstr "31 23 0:27 / /cg/unified rw - cgroup2 cgroup2 rw\n"),
      (cstr "/proc/self/cgroup", cstr "5:cpu,memory:/pod\n0::/pod\n"),
      (cstr "/cg/memory/pod/memory.limit_in_bytes", cstr "8192\n"),
      (cstr "/cg/memory/pod/memory.usage_in_bytes", cstr "64\n"),
      (cstr "/cg/unified/pod/memory.max", cstr "4096\n"),
      (cstr "/cg/unified/pod/memory.current", cstr "512\n")]

/-- Its version 2 line yields the record that is chosen. -/
theorem rpsCgroupMemoryDetect_exact_hybrid :
    (rpsCgroupMemoryDetect hybridWorld).2.limitBytes = 4096 ∧
      ∃ front line back,
        cgroupLines (cgroupContent hybridWorld) = front ++ line :: back ∧
          IsCandidate hybridWorld (detectedMounts hybridWorld) line
            (rpsCgroupMemoryDetect hybridWorld).2 := by
  have plain : IsPlainText (cgroupContent hybridWorld) :=
    ⟨by decide, by decide, by decide⟩
  have firstLines : ∀ path, ShortFirstLine hybridWorld path :=
    shortFirstLine_worldOf (by decide)
  have short : ShortCgroupFiles hybridWorld (detectedMounts hybridWorld) :=
    ⟨fun _ _ _ _ _ path _ => firstLines path,
      fun _ _ _ _ _ path _ => firstLines path⟩
  obtain ⟨front, line, back, split, yields, _⟩ :=
    (rpsCgroupMemoryDetect_exact plain short).2.1 (by decide)
  exact ⟨by decide, front, line, back, split, yields⟩

end RunpodShim

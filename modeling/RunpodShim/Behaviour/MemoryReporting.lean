import RunpodShim.Behaviour.CgroupDetection
import RunpodShim.Preload.MemoryCalls

/-!
# Memory reporting over a run

Calls of `rps_memory_snapshot` while the files change between them.  The first
detection is kept for the rest of the run, and only the usage counter is read
again.
-/

namespace RunpodShim

/-! ## Where a detected record comes from -/

section Detected

variable {world : FileWorld}

theorem ne_nil_of_appendSegment {buflen : Nat} {buf segment result : CString}
    (long : cleanRel segment ≠ [])
    (appended : appendSegment buflen buf segment = some result) :
    result ≠ [] := by
  have segmentLong : segment ≠ [] := by
    intro same
    subst same
    exact long rfl
  rw [appendSegment, if_neg segmentLong] at appended
  simp only at appended
  by_cases ends : buf.getLast? = some slash
  · rw [if_pos ends] at appended
    split at appended
    · cases appended
    · rw [← Option.some.inj appended]
      simp [long]
  · rw [if_neg ends] at appended
    split at appended
    · cases appended
    · rw [← Option.some.inj appended]
      simp

theorem ne_nil_of_rpsCgroupPath {buflen : Nat}
    {mountPoint file result : CString} {mountRoot relPath : Option CString}
    (long : cleanRel file ≠ [])
    (built :
      rpsCgroupPath world buflen mountPoint mountRoot relPath file =
        some result) :
    result ≠ [] := by
  obtain ⟨inside, _, rest⟩ := Option.bind_eq_some_iff.mp built
  simp only at rest
  split at rest
  · cases rest
  · obtain ⟨mounted, _, more⟩ := Option.bind_eq_some_iff.mp rest
    obtain ⟨below, _, last⟩ := Option.bind_eq_some_iff.mp more
    exact ne_nil_of_appendSegment long last

/-- A candidate names its counter file, and has just read it. -/
theorem currentPath_of_candidateAt {files : CgroupFiles}
    {mount : CgroupMount} {path : CString} {candidate : RpsCgroupMemory}
    (known : files = v2Files ∨ files = v1Files)
    (built : candidateAt world files mount path = some candidate) :
    candidate.currentPath ≠ [] ∧
      readCounterFile world candidate.currentPath =
        some candidate.currentBytes := by
  have long : cleanRel files.currentFile ≠ [] := by
    rcases known with rfl | rfl
    · decide
    · decide
  simp only [candidateAt, Option.bind_eq_some_iff,
    Option.map_eq_some_iff] at built
  obtain ⟨limitPath, _, currentPath, builtCurrent, limitBytes, _,
    currentBytes, read, rfl⟩ := built
  exact ⟨ne_nil_of_rpsCgroupPath long builtCurrent, read⟩

end Detected

/-! ## What is kept -/

/-- A call with the files as they are at that time. -/
structure SnapshotCall where
  world : FileWorld
  out : Option RpsMemorySnapshot

/-- What detection finds in the files, if anything. -/
def detectedIn (world : FileWorld) : Option RpsCgroupMemory :=
  if (rpsCgroupMemoryDetect world).1 then
    some (rpsCgroupMemoryDetect world).2
  else none

/-- What a call adds when nothing is kept yet. -/
def SnapshotCall.detected (call : SnapshotCall) : Option RpsCgroupMemory :=
  if call.out = none then none else detectedIn call.world

/-- The record of the first call that detects a limit. -/
def firstDetected (calls : List SnapshotCall) : Option RpsCgroupMemory :=
  calls.findSome? SnapshotCall.detected

/-- The static variables after the calls. -/
def stateAfter (calls : List SnapshotCall) : MemoryState :=
  calls.foldl
    (fun state call => (rpsMemorySnapshot call.world state call.out).state)
    MemoryState.initial

/-- The static variables hold the record, but for its counter. -/
structure Keeps (kept : Option RpsCgroupMemory) (state : MemoryState) :
    Prop where
  detected : state.detected = kept.isSome
  record :
    ∀ mem, kept = some mem →
      state.cgmem = { mem with currentBytes := state.cgmem.currentBytes }
  located : ∀ mem, kept = some mem → mem.currentPath ≠ []

section Step

variable {world : FileWorld} {state : MemoryState}
variable {kept : Option RpsCgroupMemory} {mem : RpsCgroupMemory}

theorem keeps_initial : Keeps none MemoryState.initial where
  detected := rfl
  record := by
    intro mem isKept
    cases isKept
  located := by
    intro mem isKept
    cases isKept

theorem located_of_detectedIn (found : detectedIn world = some mem) :
    mem.currentPath ≠ [] ∧
      readCounterFile world mem.currentPath = some mem.currentBytes := by
  unfold detectedIn at found
  split at found
  · rename_i detects
    obtain ⟨files, mount, path, known, built⟩ :=
      exists_candidateAt_of_detect detects
    rw [Option.some.inj found] at built
    exact currentPath_of_candidateAt known built
  · cases found

/-- A detection that was made before stays, and otherwise a new one is
kept. -/
theorem keeps_detectOnce (keeps : Keeps kept state) :
    Keeps (kept.or (detectedIn world)) (detectOnce world state) := by
  have detected := keeps.detected
  cases kept with
  | some mem =>
      rw [Option.isSome_some] at detected
      rw [detectOnce, if_pos detected, Option.some_or]
      exact keeps
  | none =>
      rw [Option.isSome_none] at detected
      rw [detectOnce, if_neg (by simp [detected]), Option.none_or]
      unfold detectedIn
      constructor
      · simp only
        cases (rpsCgroupMemoryDetect world).1 with
        | false =>
            rfl
        | true =>
            rfl
      · intro mem found
        split at found
        · rw [← Option.some.inj found]
        · cases found
      · intro mem found
        exact (located_of_detectedIn found).1

theorem rpsCgroupMemoryRefresh_of_keeps
    (keeps : Keeps (some mem) state) :
    rpsCgroupMemoryRefresh world state.cgmem =
      (readCounterFile world mem.currentPath).map fun current =>
        { mem with currentBytes := current } := by
  have record := keeps.record mem rfl
  have samePath : state.cgmem.currentPath = mem.currentPath := by
    rw [record]
  rw [rpsCgroupMemoryRefresh, samePath, if_neg (keeps.located mem rfl)]
  congr 1
  funext current
  rw [record]

/-- Storing a record that was read again keeps what is kept. -/
theorem keeps_of_refresh {refreshed : RpsCgroupMemory}
    (keeps : Keeps kept state) (detected : state.detected = true)
    (refresh :
      rpsCgroupMemoryRefresh world state.cgmem = some refreshed) :
    Keeps kept { state with cgmem := refreshed } := by
  cases kept with
  | none =>
      rw [keeps.detected] at detected
      cases detected
  | some mem =>
      rw [rpsCgroupMemoryRefresh_of_keeps keeps,
        Option.map_eq_some_iff] at refresh
      obtain ⟨current, _, rfl⟩ := refresh
      refine ⟨keeps.detected, ?_, keeps.located⟩
      intro other same
      rw [← Option.some.inj same]

/-- What a call does to what is kept. -/
theorem keeps_rpsMemorySnapshot (keeps : Keeps kept state)
    (call : SnapshotCall) :
    Keeps (kept.or call.detected)
      (rpsMemorySnapshot call.world state call.out).state := by
  unfold rpsMemorySnapshot SnapshotCall.detected
  by_cases null : call.out = none
  · rw [if_pos null, if_pos null, Option.or_none]
    exact keeps
  · rw [if_neg null, if_neg null]
    have once :
        Keeps (kept.or (detectedIn call.world))
          (detectOnce call.world state) :=
      keeps_detectOnce keeps
    simp only
    split
    · exact once
    · rename_i detected
      split
      · exact once
      · rename_i refreshed refresh
        exact keeps_of_refresh once (by simpa using detected) refresh

/-- What a call reports, from what is kept after it. -/
theorem rpsMemorySnapshot_of_keeps (keeps : Keeps kept state)
    (out : RpsMemorySnapshot) :
    (rpsMemorySnapshot world state (some out)).ok =
        ((kept.or (detectedIn world)).bind fun mem =>
          readCounterFile world mem.currentPath).isSome ∧
      (rpsMemorySnapshot world state (some out)).out =
        some
          (((kept.or (detectedIn world)).bind fun mem =>
            (readCounterFile world mem.currentPath).map fun used =>
              ⟨mem.limitBytes, mem.limitBytes - used⟩).getD out) := by
  have once :
      Keeps (kept.or (detectedIn world)) (detectOnce world state) :=
    keeps_detectOnce keeps
  rw [rpsMemorySnapshot, if_neg (Option.some_ne_none out)]
  simp only
  cases next : kept.or (detectedIn world) with
  | none =>
      rw [next] at once
      have detected := once.detected
      rw [Option.isSome_none] at detected
      rw [if_pos (by simp [detected])]
      exact ⟨rfl, rfl⟩
  | some mem =>
      rw [next] at once
      have detected := once.detected
      rw [Option.isSome_some] at detected
      rw [if_neg (by simp [detected]),
        rpsCgroupMemoryRefresh_of_keeps once]
      simp only [Option.bind_some]
      cases read : readCounterFile world mem.currentPath with
      | none =>
          exact ⟨rfl, rfl⟩
      | some used =>
          refine ⟨rfl, ?_⟩
          simp only [Option.map_some, Option.getD_some, snapshotOf]
          split
          · rfl
          · rename_i notBelow
            rw [Nat.sub_eq_zero_of_le (not_lt.mp notBelow)]

end Step

/-! ## Runs -/

theorem firstDetected_append (calls : List SnapshotCall)
    (call : SnapshotCall) :
    firstDetected (calls ++ [call]) =
      (firstDetected calls).or call.detected := by
  rw [firstDetected, List.findSome?_append, List.findSome?_singleton]
  rfl

theorem stateAfter_append (calls : List SnapshotCall)
    (call : SnapshotCall) :
    stateAfter (calls ++ [call]) =
      (rpsMemorySnapshot call.world (stateAfter calls) call.out).state := by
  rw [stateAfter, List.foldl_append]
  rfl

/-- After any calls the first detected record is the one that is kept. -/
theorem keeps_stateAfter (calls : List SnapshotCall) :
    Keeps (firstDetected calls) (stateAfter calls) := by
  induction calls using List.reverseRecOn with
  | nil =>
      exact keeps_initial
  | append_singleton calls call inductionHypothesis =>
      rw [firstDetected_append, stateAfter_append]
      exact keeps_rpsMemorySnapshot inductionHypothesis call

/-! ## The callers of a failed snapshot -/

/-- The callers of the snapshot give the host's values. -/
structure GivesHostValues (world : FileWorld) (state : MemoryState) :
    Prop where
  sysinfo :
    ∀ (ulongMax : Nat) (cfg : RpsConfig) (enters : Bool) (rc : Int)
      (info : Option SysInfo),
      (sysinfo ulongMax cfg enters world state rc info).1 = info
  sysconf :
    ∀ (longMax : Nat) (cfg : RpsConfig) (enters : Bool)
      (real : SysconfName → Ret Int) (name : SysconfName),
      (sysconf longMax cfg enters world state real name).1 = real name
  meminfo :
    ∀ buflen : Nat, (rpsProcMeminfoBuild world state buflen).1 = none

section Callers

variable {world : FileWorld} {state : MemoryState}

theorem givesHostValues_of_fails
    (fails : (rpsMemorySnapshot world state (some ⟨0, 0⟩)).ok = false) :
    GivesHostValues world state := by
  constructor
  · intro ulongMax cfg enters rc info
    cases info with
    | none =>
        rfl
    | some real =>
        simp only [RunpodShim.sysinfo, fails]
        split
        · rfl
        · split
          · rfl
          · rfl
  · intro longMax cfg enters real name
    simp only [RunpodShim.sysconf, fails]
    split
    · rfl
    · split
      · rfl
      · split
        · rfl
        · rfl
  · intro buflen
    simp [rpsProcMeminfoBuild, fails]

end Callers

/-- Every call of a run: it succeeds when some call up to this one detected a
limit and the counter of the first one that did can be read now; it reports
that limit and what the counter leaves of it; and when it fails nothing is
written and the host's values stay. -/
theorem rpsMemorySnapshot_run (calls : List SnapshotCall)
    (world : FileWorld) (out : RpsMemorySnapshot) :
    ((rpsMemorySnapshot world (stateAfter calls) (some out)).ok = true ↔
      ∃ mem used,
        firstDetected (calls ++ [⟨world, some out⟩]) = some mem ∧
          readCounterFile world mem.currentPath = some used) ∧
    (∀ mem used,
      firstDetected (calls ++ [⟨world, some out⟩]) = some mem →
        readCounterFile world mem.currentPath = some used →
          (rpsMemorySnapshot world (stateAfter calls) (some out)).out =
            some ⟨mem.limitBytes, mem.limitBytes - used⟩) ∧
    ((rpsMemorySnapshot world (stateAfter calls) (some out)).ok = false →
      (rpsMemorySnapshot world (stateAfter calls) (some out)).out =
          some out ∧
        GivesHostValues world (stateAfter calls)) := by
  have keeps := keeps_stateAfter calls
  obtain ⟨isOk, isOut⟩ :
      (rpsMemorySnapshot world (stateAfter calls) (some out)).ok =
          (((firstDetected calls).or (detectedIn world)).bind fun mem =>
            readCounterFile world mem.currentPath).isSome ∧
        (rpsMemorySnapshot world (stateAfter calls) (some out)).out =
          some
            ((((firstDetected calls).or (detectedIn world)).bind fun mem =>
              (readCounterFile world mem.currentPath).map fun used =>
                ⟨mem.limitBytes, mem.limitBytes - used⟩).getD out) :=
    rpsMemorySnapshot_of_keeps keeps out
  have next :
      firstDetected (calls ++ [⟨world, some out⟩]) =
        (firstDetected calls).or (detectedIn world) := by
    rw [firstDetected_append]
    rfl
  rw [next, isOk, isOut]
  refine ⟨?_, ?_, ?_⟩
  · rw [Option.isSome_iff_exists]
    simp only [Option.bind_eq_some_iff]
    constructor
    · intro given
      rcases given with ⟨used, mem, kept, read⟩
      exact ⟨mem, used, kept, read⟩
    · intro given
      rcases given with ⟨mem, used, kept, read⟩
      exact ⟨used, mem, kept, read⟩
  · intro mem used kept read
    rw [kept, Option.bind_some, read]
    rfl
  · intro fails
    constructor
    · cases kept : (firstDetected calls).or (detectedIn world) with
      | none =>
          rfl
      | some mem =>
          rw [kept, Option.bind_some] at fails
          cases read : readCounterFile world mem.currentPath with
          | none =>
              simp [read]
          | some used =>
              rw [read] at fails
              cases fails
    · apply givesHostValues_of_fails
      rw [(rpsMemorySnapshot_of_keeps keeps ⟨0, 0⟩).1]
      exact fails

/-! ## A limit that is lifted -/

/-- A process in one version 2 group, with this text as its limit. -/
def groupWorld (limit : List UInt8) : FileWorld :=
  worldOf
    [(cstr "/proc/self/mountinfo",
        cstr "31 23 0:27 / /cg rw - cgroup2 cgroup2 rw\n"),
      (cstr "/proc/self/cgroup", cstr "0::/pod\n"),
      (cstr "/cg/pod/memory.max", limit),
      (cstr "/cg/pod/memory.current", cstr "512\n")]

/-- Once a limit was reported it goes on being reported after it is gone. -/
theorem rpsMemorySnapshot_afterLimitLifted :
    detectedIn (groupWorld (cstr "max\n")) = none ∧
      (rpsMemorySnapshot (groupWorld (cstr "max\n"))
          (stateAfter [⟨groupWorld (cstr "4096\n"), some ⟨0, 0⟩⟩])
          (some ⟨0, 0⟩)).ok = true ∧
      (rpsMemorySnapshot (groupWorld (cstr "max\n"))
          (stateAfter [⟨groupWorld (cstr "4096\n"), some ⟨0, 0⟩⟩])
          (some ⟨0, 0⟩)).out = some ⟨4096, 3584⟩ := by
  decide

end RunpodShim

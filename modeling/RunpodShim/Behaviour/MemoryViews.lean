import RunpodShim.Behaviour.MeminfoRewrite
import RunpodShim.Behaviour.SysinfoEncoding
import RunpodShim.Library.CallMachine

/-!
# The memory that a process is shown

`sysinfo`, `sysconf` and the meminfo text share the static variables of
`rps_memory_snapshot`.  In whatever order they are called while the files
change, each reports the same group as the others.
-/

namespace RunpodShim

open CallMachine TextLines

/-- A call of one of the three.  `enters` is the result of `rps_guard_enter`,
and `real` what the real function answers. -/
inductive MemoryCall where
  | sysinfo (enters : Bool) (rc : Int) (info : Option SysInfo)
  | sysconf (enters : Bool) (real : SysconfName → Ret Int)
      (name : SysconfName)
  | meminfo (buflen : Nat)

/-- What the caller is given. -/
inductive MemoryReport where
  | sysinfo (info : Option SysInfo)
  | sysconf (ret : Ret Int)
  | meminfo (text : Option CString)
deriving DecidableEq, Repr

/-- The ranges of `unsigned long` and `long`. -/
structure MachineWord where
  ulongMax : Nat
  longMax : Nat
  width : ulongMax = 2 ^ 32 - 1 ∨ ulongMax = 2 ^ 64 - 1

section Calls

variable (word : MachineWord) (cfg : RpsConfig)

def memoryStep (state : MemoryState) :
    FileWorld × MemoryCall → MemoryReport × MemoryState
  | (world, .sysinfo enters rc info) =>
      (sysinfo word.ulongMax cfg enters world state rc info).map
        .sysinfo id
  | (world, .sysconf enters real name) =>
      (sysconf word.longMax cfg enters world state real name).map
        .sysconf id
  | (world, .meminfo buflen) =>
      (rpsProcMeminfoBuild world state buflen).map .meminfo id

/-- The call asks for a snapshot. -/
def MemoryCall.takes : MemoryCall → Bool
  | .sysinfo enters rc info =>
      info.isSome && cfg.cgroupMemory && enters && rc == 0
  | .sysconf enters real name =>
      (name == .physPages || name == .avphysPages) && cfg.cgroupMemory &&
        enters && decide (0 < (real .pageSize).value)
  | .meminfo _ => true

/-- The calls of `rps_memory_snapshot` that these calls make. -/
def snapshotCalls (calls : List (FileWorld × MemoryCall)) :
    List SnapshotCall :=
  (calls.filter fun call => call.2.takes cfg).map fun call =>
    ⟨call.1, some ⟨0, 0⟩⟩

/-- The static variables after the calls, each with the files as they were. -/
def stateAfterMemory (calls : List (FileWorld × MemoryCall)) :
    MemoryState :=
  afterCalls (memoryStep word cfg) MemoryState.initial calls

end Calls

/-! ## One call -/

/-- What a snapshot would give here, if it would succeed. -/
structure Sees (world : FileWorld) (state : MemoryState)
    (seen : Option RpsMemorySnapshot) : Prop where
  ok : (rpsMemorySnapshot world state (some ⟨0, 0⟩)).ok = seen.isSome
  out :
    (rpsMemorySnapshot world state (some ⟨0, 0⟩)).out =
      some (seen.getD ⟨0, 0⟩)

/-- The pages that `sysconf` reports of a snapshot. -/
def pagesOf (real : SysconfName → Ret Int) (name : SysconfName)
    (seen : RpsMemorySnapshot) : Nat :=
  (if name = .physPages then seen.total else seen.available) /
    (real .pageSize).value.toNat

/-- The report of a call that has this snapshot, or none, to go by.  Without
one the host's values are left alone. -/
def FromSnapshot (word : MachineWord) (world : FileWorld) :
    Option RpsMemorySnapshot → MemoryCall → MemoryReport → Prop
  | none, .sysinfo _ _ info, report => report = .sysinfo info
  | none, .sysconf _ real name, report => report = .sysconf (real name)
  | none, .meminfo _, report => report = .meminfo none
  | some seen, .sysinfo _ _ info, report =>
      ∃ host exponent, info = some host ∧
        IsLeastExponent word.ulongMax seen exponent ∧
          report = .sysinfo (some (correctedIn exponent seen host))
  | some seen, .sysconf _ real name, report =>
      ∃ ret, report = .sysconf ret ∧
        if pagesOf real name seen ≤ word.longMax then
          ret.value = pagesOf real name seen
        else ret = ⟨-1, eoverflow⟩
  | some seen, .meminfo buflen, report =>
      ∀ path content, openMeminfo world = some path →
        world.readError path = false → world.file path = some content →
          IsShortLined content →
            report =
              .meminfo
                (if (rewrittenText seen content).length ≤ buflen then
                  some (rewrittenText seen content)
                else none)

section Steps

variable {word : MachineWord} {cfg : RpsConfig} {world : FileWorld}
variable {state : MemoryState} {call : MemoryCall}
variable {seen : Option RpsMemorySnapshot}

theorem sysinfo_of_asksNot {ulongMax : Nat} {enters : Bool} {rc : Int}
    {info : Option SysInfo}
    (asksNot : (MemoryCall.sysinfo enters rc info).takes cfg = false) :
    sysinfo ulongMax cfg enters world state rc info = (info, state) := by
  cases info with
  | none =>
      rfl
  | some host =>
      cases switched : cfg.cgroupMemory with
      | false =>
          simp [sysinfo, switched]
      | true =>
          cases enters with
          | false =>
              simp [sysinfo]
          | true =>
              have fails : rc ≠ 0 := by
                simpa [MemoryCall.takes, switched] using asksNot
              simp [sysinfo, fails]

theorem sysconf_of_asksNot {longMax : Nat} {enters : Bool}
    {real : SysconfName → Ret Int} {name : SysconfName}
    (asksNot : (MemoryCall.sysconf enters real name).takes cfg = false) :
    sysconf longMax cfg enters world state real name =
      (real name, state) := by
  unfold sysconf
  split
  · rfl
  · rename_i isMemory
    split
    · rfl
    · rename_i goesOn
      rw [if_pos]
      by_contra sized
      have isName : name = .physPages ∨ name = .avphysPages := by
        by_contra neither
        exact isMemory (not_or.mp neither)
      have switched : cfg.cgroupMemory = true ∧ enters = true := by
        simpa using goesOn
      have asks :
          (MemoryCall.sysconf enters real name).takes cfg = true := by
        have positive : 0 < (real .pageSize).value := by
          omega
        rcases isName with isName | isName
        · simp [MemoryCall.takes, isName, switched.1, switched.2, positive]
        · simp [MemoryCall.takes, isName, switched.1, switched.2, positive]
      rw [asks] at asksNot
      cases asksNot

/-- A call that asks for no snapshot gives the host's values and leaves the
variables alone. -/
theorem memoryStep_of_asksNot (asksNot : call.takes cfg = false) :
    FromSnapshot word world none call
        (memoryStep word cfg state (world, call)).1 ∧
      (memoryStep word cfg state (world, call)).2 = state := by
  cases call with
  | sysinfo enters rc info =>
      simp only [memoryStep, sysinfo_of_asksNot asksNot]
      exact ⟨rfl, rfl⟩
  | sysconf enters real name =>
      simp only [memoryStep, sysconf_of_asksNot asksNot]
      exact ⟨rfl, rfl⟩
  | meminfo buflen =>
      cases asksNot

theorem sysinfo_of_asks {ulongMax : Nat} {enters : Bool} {rc : Int}
    {host : SysInfo}
    (asks : (MemoryCall.sysinfo enters rc (some host)).takes cfg = true) :
    sysinfo ulongMax cfg enters world state rc (some host) =
      let taken := rpsMemorySnapshot world state (some ⟨0, 0⟩)
      (some
          (if taken.ok then
            ((encodeSysinfoMemory ulongMax
                (taken.out.getD ⟨0, 0⟩)).map fun encoded =>
              { host with
                memUnit := encoded.memUnit
                totalram := encoded.totalram
                freeram := encoded.freeram }).getD host
          else host),
        taken.state) := by
  simp only [MemoryCall.takes, Bool.and_eq_true, beq_iff_eq] at asks
  obtain ⟨⟨⟨_, switched⟩, entered⟩, worked⟩ := asks
  have goesOn : ¬ (rc ≠ 0 ∨ cfg.cgroupMemory = false) := by
    simp [switched, worked]
  simp only [sysinfo, if_neg goesOn, entered]
  cases (rpsMemorySnapshot world state (some ⟨0, 0⟩)).ok <;> rfl

theorem sysconf_of_asks {longMax : Nat} {enters : Bool}
    {real : SysconfName → Ret Int} {name : SysconfName}
    (asks : (MemoryCall.sysconf enters real name).takes cfg = true) :
    sysconf longMax cfg enters world state real name =
      let taken := rpsMemorySnapshot world state (some ⟨0, 0⟩)
      let pages := pagesOf real name (taken.out.getD ⟨0, 0⟩)
      (if taken.ok then
          if pages > longMax then ⟨-1, eoverflow⟩
          else ⟨pages, (real .pageSize).errno⟩
        else real name,
        taken.state) := by
  simp only [MemoryCall.takes, Bool.and_eq_true, Bool.or_eq_true,
    beq_iff_eq, decide_eq_true_eq] at asks
  obtain ⟨⟨⟨isName, switched⟩, entered⟩, sized⟩ := asks
  have isMemory : ¬ (name ≠ .physPages ∧ name ≠ .avphysPages) := by
    intro neither
    exact isName.elim neither.1 neither.2
  have goesOn : ¬ (!cfg.cgroupMemory || !enters) = true := by
    simp [switched, entered]
  have hasSize : ¬ (real .pageSize).value ≤ 0 := by
    omega
  simp only [sysconf, if_neg isMemory, if_neg goesOn, if_neg hasSize]
  cases (rpsMemorySnapshot world state (some ⟨0, 0⟩)).ok with
  | false =>
      rfl
  | true =>
      simp only [Bool.not_true, Bool.false_eq_true, if_false, if_true]
      by_cases overflows :
          pagesOf real name
            ((rpsMemorySnapshot world state (some ⟨0, 0⟩)).out.getD
              ⟨0, 0⟩) > longMax
      · rw [if_pos overflows]
        exact if_pos overflows
      · rw [if_neg overflows]
        exact if_neg overflows

/-- A call that asks leaves what its snapshot leaves. -/
theorem memoryStep_state (asks : call.takes cfg = true) :
    (memoryStep word cfg state (world, call)).2 =
      (rpsMemorySnapshot world state (some ⟨0, 0⟩)).state := by
  cases call with
  | sysinfo enters rc info =>
      cases info with
      | none =>
          cases asks
      | some host =>
          simp only [memoryStep, sysinfo_of_asks asks]
          rfl
  | sysconf enters real name =>
      simp only [memoryStep, sysconf_of_asks asks]
      rfl
  | meminfo buflen =>
      simp only [memoryStep, rpsProcMeminfoBuild]
      split <;> rfl

/-- A call that asks reports from its snapshot. -/
theorem memoryStep_report (asks : call.takes cfg = true)
    (sees : Sees world state seen)
    (limited : ∀ snapshot, seen = some snapshot →
      snapshot.total < rpsCgroupUnlimitedSentinel) :
    FromSnapshot word world seen call
      (memoryStep word cfg state (world, call)).1 := by
  cases seen with
  | none =>
      cases call with
      | sysinfo enters rc info =>
          cases info with
          | none =>
              cases asks
          | some host =>
              simp only [memoryStep, sysinfo_of_asks asks, sees.ok]
              rfl
      | sysconf enters real name =>
          simp only [memoryStep, sysconf_of_asks asks, sees.ok]
          rfl
      | meminfo buflen =>
          simp only [memoryStep, rpsProcMeminfoBuild, sees.ok]
          rfl
  | some snapshot =>
      have below := limited snapshot rfl
      have within : snapshot.available ≤ snapshot.total :=
        available_le_total_of_taken sees.ok sees.out
      cases call with
      | sysinfo enters rc info =>
          cases info with
          | none =>
              cases asks
          | some host =>
              have wide : 2 ^ 32 - 1 ≤ word.ulongMax := by
                have width := word.width
                omega
              obtain ⟨exponent, _, least, encoded⟩ :=
                encodeSysinfoMemory_of_fitsIn
                  (fitsIn_of_detectable wide below within)
              refine ⟨host, exponent, rfl, least, ?_⟩
              simp only [memoryStep, sysinfo_of_asks asks, sees.ok,
                sees.out, Option.isSome_some, if_true, Option.getD_some,
                encoded]
              rfl
      | sysconf enters real name =>
          refine
            ⟨(sysconf word.longMax cfg enters world state real name).1, rfl,
              ?_⟩
          simp only [sysconf_of_asks asks, sees.ok, sees.out,
            Option.isSome_some, if_true, Option.getD_some]
          by_cases fits : pagesOf real name snapshot ≤ word.longMax
          · rw [if_pos fits, if_neg (not_lt.mpr fits)]
          · rw [if_neg fits, if_pos (not_le.mp fits)]
      | meminfo buflen =>
          intro path content opened readable isFile shortLined
          have range : snapshot.total < 2 ^ 64 := by
            have sentinel : rpsCgroupUnlimitedSentinel ≤ 2 ^ 64 := by
              decide
            omega
          have built :=
            rpsProcMeminfoBuild_eq sees.ok sees.out range opened readable
              isFile shortLined buflen
          simp only [memoryStep, Prod.map, built]
          rfl

end Steps

/-! ## Runs -/

/-- What the kept group, or else the one that the files name now, says. -/
def seenBy (kept : Option RpsCgroupMemory) (world : FileWorld) :
    Option RpsMemorySnapshot :=
  (kept.or (detectedIn world)).bind fun mem =>
    (readCounterFile world mem.currentPath).map fun used =>
      ⟨mem.limitBytes, mem.limitBytes - used⟩

section Runs

variable {word : MachineWord} {cfg : RpsConfig} {world : FileWorld}
variable {state : MemoryState} {kept : Option RpsCgroupMemory}

theorem limited_of_detectedIn {mem : RpsCgroupMemory}
    (found : detectedIn world = some mem) :
    mem.limitBytes < rpsCgroupUnlimitedSentinel := by
  unfold detectedIn at found
  split at found
  · rename_i detects
    obtain ⟨files, mount, path, _, built⟩ :=
      exists_candidateAt_of_detect detects
    rw [Option.some.inj found] at built
    simp only [candidateAt, Option.bind_eq_some_iff,
      Option.map_eq_some_iff] at built
    obtain ⟨limitPath, _, _, _, limitBytes, read, _, _, rfl⟩ := built
    obtain ⟨token, _, parsed⟩ := Option.bind_eq_some_iff.mp read
    split at parsed
    · cases parsed
    · obtain ⟨value, _, bounded⟩ := Option.bind_eq_some_iff.mp parsed
      split at bounded
      · cases bounded
      · rename_i inRange
        have isValue := Option.some.inj bounded
        simp only
        omega
  · cases found

/-- A group that was detected in some call has a limit that is one. -/
theorem limited_of_firstDetected {calls : List SnapshotCall}
    {mem : RpsCgroupMemory} (found : firstDetected calls = some mem) :
    mem.limitBytes < rpsCgroupUnlimitedSentinel := by
  obtain ⟨call, _, detected⟩ := List.exists_of_findSome?_eq_some found
  unfold SnapshotCall.detected at detected
  split at detected
  · cases detected
  · exact limited_of_detectedIn detected

theorem sees_of_keeps (keeps : Keeps kept state) :
    Sees world state (seenBy kept world) := by
  obtain ⟨isOk, isOut⟩ := rpsMemorySnapshot_of_keeps keeps ⟨0, 0⟩
  refine ⟨?_, isOut⟩
  rw [isOk, seenBy]
  cases kept.or (detectedIn world) with
  | none =>
      rfl
  | some mem =>
      simp

theorem snapshotCalls_append (first second : List (FileWorld × MemoryCall)) :
    snapshotCalls cfg (first ++ second) =
      snapshotCalls cfg first ++ snapshotCalls cfg second := by
  rw [snapshotCalls, List.filter_append, List.map_append]
  rfl

theorem snapshotCalls_cons (call : FileWorld × MemoryCall)
    (rest : List (FileWorld × MemoryCall)) :
    snapshotCalls cfg (call :: rest) =
      if call.2.takes cfg then
        ⟨call.1, some ⟨0, 0⟩⟩ :: snapshotCalls cfg rest
      else snapshotCalls cfg rest := by
  simp only [snapshotCalls, List.filter_cons]
  split <;> rfl

/-- The variables are those that the snapshots alone would leave. -/
theorem stateAfterMemory_eq (calls : List (FileWorld × MemoryCall)) :
    stateAfterMemory word cfg calls =
      stateAfter (snapshotCalls cfg calls) := by
  unfold stateAfterMemory stateAfter
  generalize MemoryState.initial = state
  induction calls generalizing state with
  | nil =>
      rfl
  | cons call rest inductionHypothesis =>
      obtain ⟨world, asked⟩ := call
      rw [afterCalls, inductionHypothesis, snapshotCalls_cons]
      cases asks : asked.takes cfg with
      | false =>
          rw [(memoryStep_of_asksNot asks).2]
          rfl
      | true =>
          rw [memoryStep_state asks]
          rfl

/-- Calls with the files as they are now detect what they name now, if
anything. -/
theorem firstDetected_here (more : List MemoryCall) :
    (firstDetected
        (snapshotCalls cfg (more.map fun call => (world, call)))).or
      (detectedIn world) = detectedIn world := by
  induction more with
  | nil =>
      rfl
  | cons call rest inductionHypothesis =>
      rw [List.map_cons, snapshotCalls_cons]
      cases asks : call.takes cfg with
      | false =>
          exact inductionHypothesis
      | true =>
          have here :
              SnapshotCall.detected ⟨world, some ⟨0, 0⟩⟩ =
                detectedIn world := by
            rw [SnapshotCall.detected, if_neg (Option.some_ne_none _)]
          rw [if_pos rfl, firstDetected, List.findSome?_cons, here]
          cases found : detectedIn world with
          | none =>
              rw [found] at inductionHypothesis
              exact inductionHypothesis
          | some mem =>
              rfl

/-- While the files stay as they are, so does what is seen. -/
theorem seenBy_append (calls : List (FileWorld × MemoryCall))
    (more : List MemoryCall) :
    seenBy
        (firstDetected
          (snapshotCalls cfg (calls ++ more.map fun call => (world, call))))
        world =
      seenBy (firstDetected (snapshotCalls cfg calls)) world := by
  rw [snapshotCalls_append, firstDetected, List.findSome?_append,
    ← firstDetected, ← firstDetected, seenBy, seenBy, Option.or_assoc,
    firstDetected_here]

theorem limited_of_seenBy {calls : List SnapshotCall}
    {snapshot : RpsMemorySnapshot}
    (seen : seenBy (firstDetected calls) world = some snapshot) :
    snapshot.total < rpsCgroupUnlimitedSentinel := by
  obtain ⟨mem, isMem, read⟩ := Option.bind_eq_some_iff.mp seen
  obtain ⟨used, _, rfl⟩ := Option.map_eq_some_iff.mp read
  rcases Option.or_eq_some_iff.mp isMem with kept | ⟨_, found⟩
  · exact limited_of_firstDetected kept
  · exact limited_of_detectedIn found

/-- After any calls in any order, while the files changed in between: with the
files as they are now, every further call that asks for a snapshot reports
from the same one, whichever of the three it is and whatever was called
before it.  It is that of the group that was detected first.  A call that asks
for none gives the host's values. -/
theorem memoryViews_of_run (word : MachineWord) (cfg : RpsConfig)
    (calls : List (FileWorld × MemoryCall)) (world : FileWorld)
    (more : List MemoryCall) (call : MemoryCall) :
    let seen := seenBy (firstDetected (snapshotCalls cfg calls)) world
    let state :=
      stateAfterMemory word cfg
        (calls ++ more.map fun call => (world, call))
    FromSnapshot word world (if call.takes cfg then seen else none) call
      (memoryStep word cfg state (world, call)).1 := by
  intro seen state
  cases asks : call.takes cfg with
  | false =>
      exact (memoryStep_of_asksNot asks).1
  | true =>
      have sees : Sees world state seen := by
        have kept :=
          keeps_stateAfter
            (snapshotCalls cfg (calls ++ more.map fun call => (world, call)))
        simp only [state, stateAfterMemory_eq, seen]
        rw [← seenBy_append calls more]
        exact sees_of_keeps kept
      rw [if_pos rfl]
      apply memoryStep_report asks sees
      intro snapshot isSeen
      exact limited_of_seenBy isSeen

end Runs

end RunpodShim

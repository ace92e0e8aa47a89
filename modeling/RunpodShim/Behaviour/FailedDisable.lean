import RunpodShim.Tools.InstallGlobal

/-!
# A `disable` that fails

What `runpod-shim-install-global disable` leaves of the preload file for every
choice of the commands that fail.
-/

namespace RunpodShim

open ShellScript TextLines

/-- The file reads the same in both worlds. -/
def SameContent (before after : InstallWorld) : Prop :=
  after.content = before.content

/-- The filter works, or fails unnoticed: the status 1 of a redirection is
taken for that of a `grep` which selects no line. -/
def FilterPasses (failures : InstallFailures) : Prop :=
  (failures.createTmp = none → failures.filter = none) ∧
    ∀ failure, failures.createTmp = some failure → failure.status = 1

/-- No command keeps the script from opening the preload file. -/
def TargetOpened (failures : InstallFailures) : Prop :=
  failures.mkdir = none ∧ failures.touch = none ∧
    FilterPasses failures ∧ failures.openTarget = none

/-- A command fails once the preload file has been opened. -/
def FailsLater (failures : InstallFailures)
    (leftover : Option CString) : Prop :=
  failures.copy ≠ none ∨ failures.removeTmp ≠ none ∨
    failures.report ≠ none ∨
    (failures.createTmp ≠ none ∧ leftover = none)

/-- The file is text for `grep`: it has no NUL byte, and each line is text in
the locale. -/
def IsTextFile (userland : Userland) (content : CString) : Prop :=
  0 ∉ content ∧
    ∀ line, line ∈ lines newline content → userland.isText line = true

/-- The bytes that are put into the file are those that were in it.  They are
lines of the file itself, or those of a leftover temporary file. -/
def PutsBack (settings : InstallSettings) (failures : InstallFailures)
    (before : InstallWorld) : Prop :=
  (failures.createTmp = none →
    IsTextFile settings.userland before.content ∧
      settings.lib ∉ lines newline before.content ∧
      (failures.copy = none →
        before.content = [] ∨
          before.content.getLast? = some newline) ∧
      ∀ failure, failures.copy = some failure →
        (before.content = [] ∨
            before.content.getLast? = some newline) ∧
          before.content.length ≤ failure.written ∨
        failure.written = before.content.length) ∧
    (failures.createTmp ≠ none →
      putOut failures.copy (before.tmp.getD []) = before.content)

/-! ## The commands beside the file -/

section Beside

variable {failures : InstallFailures} {settings : InstallSettings}

theorem sameContent_refl (world : InstallWorld) : SameContent world world :=
  rfl

theorem sameContent_trans (before between after : InstallWorld)
    (first : SameContent before between)
    (second : SameContent between after) : SameContent before after :=
  Eq.trans second first

theorem within_warn (line : CString) :
    Within SameContent (warn failures settings line) := by
  apply within_must
  intro world
  rw [warned]
  split
  · rfl
  · rfl

theorem within_echo (line : CString) :
    Within SameContent (echo failures settings line) := by
  apply within_must
  intro world
  split
  · rfl
  · rfl

theorem within_removeTmp : Within SameContent (removeTmp failures) := by
  apply within_must
  intro world
  split
  · rfl
  · rfl

theorem within_giveUp (message : CString) (status : Nat) :
    Within SameContent (giveUp failures settings message status) := by
  apply Within.bind sameContent_trans within_removeTmp
  intro _
  apply Within.bind sameContent_trans (within_warn _)
  intro _
  exact within_exit sameContent_refl status

theorem exitStatus_giveUp {status : Nat} (nonzero : status ≠ 0)
    (message : CString) (world : InstallWorld) :
    exitStatus (giveUp failures settings message status) world ≠ 0 := by
  intro ended
  rw [giveUp, removeTmp, exitStatus_must_bind_eq_zero_iff, warn,
    exitStatus_must_bind_eq_zero_iff] at ended
  exact nonzero ended.2.2

theorem within_ensurePreload :
    Within SameContent (ensurePreload failures) := by
  apply Within.bind sameContent_trans (within_must sameContent_refl _)
  intro _
  apply within_must
  intro world
  split
  · rfl
  · rfl

theorem within_filterPreload :
    Within SameContent (filterPreload failures settings) := by
  intro world
  rw [worldAfter, filterPreload]
  cases failures.createTmp with
  | none =>
      rfl
  | some failure =>
      rfl

theorem within_copyBack {failure : Failure}
    (fails : failures.openTarget = some failure) :
    Within SameContent (copyBack failures) := by
  intro world
  rw [worldAfter_of_ok (run_copyBack_of_openTarget fails world)]
  rfl

theorem within_updatePreload {failure : Failure}
    (fails : failures.openTarget = some failure) :
    Within SameContent (updatePreload failures settings) := by
  apply Within.bind sameContent_trans (within_copyBack fails)
  intro status
  split
  · exact within_removeTmp
  · exact within_giveUp _ 1

/-- A filter that does not pass has a status of its own. -/
theorem exists_run_filterPreload (stopped : ¬ FilterPasses failures)
    (settings : InstallSettings) (world : InstallWorld) :
    ∃ status after,
      (filterPreload failures settings).run world = .ok status after ∧
        ¬ (status = 0 ∨ status = 1) := by
  cases create : failures.createTmp with
  | none =>
      cases filters : failures.filter with
      | none =>
          refine absurd ⟨fun _ => filters, ?_⟩ stopped
          intro failure created
          rw [create] at created
          cases created
      | some failure =>
          obtain ⟨after, ran⟩ :=
            run_filterPreload_of_filter create filters settings world
          exact
            ⟨failure.status, after, ran,
              not_passes (failures.filter_status failure filters)⟩
  | some failure =>
      refine
        ⟨failure.status, world,
          run_filterPreload_of_createTmp create world,
          not_passes fun one => stopped ?_⟩
      constructor
      · intro created
        rw [create] at created
        cases created
      · intro other created
        rw [create] at created
        cases created
        exact one

theorem within_removeLib
    (closed : ¬ (FilterPasses failures ∧ failures.openTarget = none)) :
    Within SameContent (removeLib failures settings) := by
  cases opens : failures.openTarget with
  | none =>
      intro world
      have stopped : ¬ FilterPasses failures :=
        fun passes => closed ⟨passes, opens⟩
      obtain ⟨status, between, ran, strange⟩ :=
        exists_run_filterPreload stopped settings world
      have here :
          SameContent world
            (worldAfter (filterPreload failures settings) world) :=
        within_filterPreload world
      rw [worldAfter_of_ok ran] at here
      rw [removeLib, worldAfter_bind_of_ok ran, if_neg strange]
      exact
        sameContent_trans _ _ _ here (within_giveUp _ status between)
  | some failure =>
      apply Within.bind sameContent_trans within_filterPreload
      intro status
      split
      · exact within_updatePreload opens
      · exact within_giveUp _ status

end Beside

/-! ## The file stays closed -/

section Closed

variable {failures : InstallFailures} {settings : InstallSettings}

theorem eq_none_of_run_ensurePreload {before after : InstallWorld}
    (ran : (ensurePreload failures).run before = .ok () after) :
    failures.mkdir = none ∧ failures.touch = none := by
  obtain ⟨_, between, made, touched⟩ := exists_of_run_bind_ok ran
  exact
    ⟨(eq_none_of_run_must_ok made).1, (eq_none_of_run_must_ok touched).1⟩

/-- When the file is not opened for writing it reads as before. -/
theorem sameContent_installDisable (closed : ¬ TargetOpened failures)
    (before : InstallWorld) :
    SameContent before
      (worldAfter (installDisable failures settings) before) := by
  have ensured :
      SameContent before (worldAfter (ensurePreload failures) before) :=
    within_ensurePreload before
  cases ran : (ensurePreload failures).run before with
  | ok value between =>
      obtain ⟨noMkdir, noTouch⟩ := eq_none_of_run_ensurePreload ran
      have notBoth :
          ¬ (FilterPasses failures ∧ failures.openTarget = none) :=
        fun both => closed ⟨noMkdir, noTouch, both⟩
      have rest :
          Within SameContent
            (removeLib failures settings >>= fun _ =>
              echo failures settings
                (cstr "runpod-shim global preload " ++
                  disabledLine settings.lib)) :=
        Within.bind sameContent_trans (within_removeLib notBoth)
          fun _ => within_echo _
      rw [worldAfter_of_ok ran] at ensured
      rw [installDisable, worldAfter_bind_of_ok ran]
      exact sameContent_trans _ _ _ ensured (rest between)
  | error status between =>
      rw [worldAfter_of_error ran] at ensured
      rw [installDisable, worldAfter_of_error (run_bind_of_error ran)]
      exact ensured

end Closed

/-! ## The file is opened -/

/-- What `cat` is to copy: the lines of the file without the library, or what
was left over where those could not be written. -/
def copiedFile (settings : InstallSettings) (failures : InstallFailures)
    (before : InstallWorld) : Option CString :=
  if failures.createTmp.isNone then
    some
      (endLines newline
        (grepPutsOut settings.userland settings.lib before.content))
  else before.tmp

section Opened

variable {failures : InstallFailures} {settings : InstallSettings}
variable {world : InstallWorld}

theorem run_filterPreload_of_passes (passes : FilterPasses failures)
    {content : CString} (present : world.preload = some content)
    (settings : InstallSettings) :
    ∃ status, (status = 0 ∨ status = 1) ∧
      (filterPreload failures settings).run world =
        .ok status
          { world with tmp := copiedFile settings failures world } := by
  have isContent := content_of_present present
  cases create : failures.createTmp with
  | none =>
      have ran :
          (filterPreload failures settings).run world =
            .ok (filteredStatus settings.lib content)
              { world with
                tmp :=
                  some
                    (endLines newline
                      (grepPutsOut settings.userland settings.lib
                        content)) } :=
        run_filterPreload create (passes.1 create) present
      refine ⟨_, filteredStatus_passes settings.lib content, ?_⟩
      rw [ran, copiedFile, create, isContent]
      rfl
  | some failure =>
      refine
        ⟨failure.status, Or.inr (passes.2 failure create), ?_⟩
      rw [run_filterPreload_of_createTmp create, copiedFile, create]
      rfl

theorem exists_run_copyBack (opens : failures.openTarget = none)
    (world : InstallWorld) :
    ∃ status,
      (copyBack failures).run world =
          .ok status
            { world with
              preload :=
                some (putOut failures.copy (world.tmp.getD [])) } ∧
        (status = 0 ↔ failures.copy = none ∧ world.tmp ≠ none) := by
  by_cases missing : world.tmp = none
  · refine ⟨1, ?_, iff_of_false Nat.one_ne_zero fun both => ?_⟩
    · rw [run_copyBack_of_missing opens missing, missing, Option.getD_none,
        putOut_nil]
    · exact both.2 missing
  · obtain ⟨bytes, source⟩ := Option.ne_none_iff_exists'.mp missing
    refine ⟨(failures.copy.map Failure.status).getD 0, ?_, ?_⟩
    · rw [run_copyBack opens source, source, Option.getD_some]
    · cases failures.copy with
      | none =>
          exact iff_of_true rfl ⟨rfl, missing⟩
      | some failure =>
          exact
            iff_of_false failure.nonzero
              fun both => Option.some_ne_none failure both.1

/-- The end of the script once the target has been opened. -/
theorem worldAfter_updatePreload (opens : failures.openTarget = none)
    (line : CString) :
    (worldAfter
        (updatePreload failures settings >>= fun _ =>
          echo failures settings line)
        world).content =
      putOut failures.copy (world.tmp.getD []) := by
  obtain ⟨status, ran, _⟩ := exists_run_copyBack opens world
  have later :
      Within SameContent
        ((if status = 0 then removeTmp failures
          else giveUp failures settings (cstr "failed to update ") 1) >>=
            fun _ => echo failures settings line) := by
    apply Within.bind sameContent_trans
    · split
      · exact within_removeTmp
      · exact within_giveUp _ 1
    · intro _
      exact within_echo line
  rw [updatePreload, bind_assoc, worldAfter_bind_of_ok ran]
  exact later _

theorem exitStatus_updatePreload (opens : failures.openTarget = none)
    (line : CString) :
    exitStatus
        (updatePreload failures settings >>= fun _ =>
          echo failures settings line)
        world = 0 ↔
      (failures.copy = none ∧ world.tmp ≠ none) ∧
        failures.removeTmp = none ∧ failures.report = none := by
  obtain ⟨status, ran, works⟩ := exists_run_copyBack opens world
  rw [updatePreload, bind_assoc, exitStatus_bind_of_ok ran]
  by_cases zero : status = 0
  · rw [if_pos zero, removeTmp, exitStatus_must_bind_eq_zero_iff, echo,
      exitStatus_must_eq_zero_iff, and_iff_right (works.mp zero)]
  · rw [if_neg zero]
    constructor
    · intro ended
      exact
        absurd ended
          (exitStatus_bind_ne_zero
            (exitStatus_giveUp Nat.one_ne_zero _ _))
    · intro given
      exact absurd (works.mpr given.1) zero

/-- An opened file holds what was copied, and the script fails when a command
fails from there on. -/
theorem installDisable_of_targetOpened (opened : TargetOpened failures)
    (settings : InstallSettings) (before : InstallWorld) :
    (worldAfter (installDisable failures settings) before).content =
        putOut failures.copy
          ((copiedFile settings failures before).getD []) ∧
      (exitStatus (installDisable failures settings) before ≠ 0 ↔
        FailsLater failures before.tmp) := by
  obtain ⟨noMkdir, noTouch, passes, opens⟩ := opened
  have ensured := run_ensurePreload noMkdir noTouch before
  obtain ⟨status, passing, filtered⟩ :=
    run_filterPreload_of_passes passes
      (show ({ before with preload := some before.content } :
        InstallWorld).preload = some before.content from rfl) settings
  have sameSource :
      copiedFile settings failures
          { before with preload := some before.content } =
        copiedFile settings failures before := rfl
  rw [sameSource] at filtered
  constructor
  · rw [installDisable, worldAfter_bind_of_ok ensured, removeLib,
      bind_assoc, worldAfter_bind_of_ok filtered, if_pos passing,
      worldAfter_updatePreload opens]
  · rw [installDisable, exitStatus_bind_of_ok ensured, removeLib,
      bind_assoc, exitStatus_bind_of_ok filtered, if_pos passing, ne_eq,
      exitStatus_updatePreload opens]
    have missing :
        copiedFile settings failures before = none ↔
          failures.createTmp ≠ none ∧ before.tmp = none := by
      rw [copiedFile]
      cases failures.createTmp with
      | none =>
          simp
      | some failure =>
          simp
    simp only [FailsLater, missing, ne_eq]
    tauto

/-- What was copied is the old content just when the condition on the inputs
says so. -/
theorem putOut_copiedFile_eq_iff {before : InstallWorld} :
    putOut failures.copy
          ((copiedFile settings failures before).getD []) =
        before.content ↔
      PutsBack settings failures before := by
  have allKept :
      (∀ line, line ∈ lines newline before.content →
        (settings.userland.isText line && decide (line ≠ settings.lib)) =
          true) ↔
        (∀ line, line ∈ lines newline before.content →
          settings.userland.isText line = true) ∧
        settings.lib ∉ lines newline before.content := by
    simp only [Bool.and_eq_true, decide_eq_true_eq, forall_and,
      and_congr_right_iff]
    intro _
    exact
      ⟨fun all member => all _ member rfl,
        fun notLine line member same => notLine (same ▸ member)⟩
  rw [PutsBack, copiedFile, IsTextFile]
  cases failures.createTmp with
  | some failure =>
      simp
  | none =>
      rw [Option.isNone_none, if_pos rfl, Option.getD_some]
      by_cases nul : 0 ∈ before.content
      · -- Nothing is put out, and the file was not empty.
        have notEmpty : [] ≠ before.content := by
          intro empty
          rw [← empty] at nul
          cases nul
        rw [grepPutsOut_of_nul nul]
        refine iff_of_false ?_ fun puts => (puts.1 rfl).1.1 nul
        exact (putOut_nil failures.copy).trans_ne notEmpty
      · rw [grepPutsOut_of_noNul nul]
        cases failures.copy with
        | none =>
            rw [putOut, endLines_filter_lines_eq_iff, allKept]
            simp [nul, and_assoc]
        | some failure =>
            rw [putOut, take_endLines_filter_lines_eq_iff, allKept]
            simp [nul, and_assoc]

end Opened

/-- A failed `disable` leaves the file as it was just when it fails before the
file is opened for writing, or what it has put into the file by then is what
was in it before. -/
theorem failedDisable_undamaged_iff (failures : InstallFailures)
    (settings : InstallSettings) (before : InstallWorld) :
    (exitStatus
          (installGlobal failures settings [cstr "disable"]) before ≠ 0 →
        (worldAfter
            (installGlobal failures settings [cstr "disable"])
            before).content =
          before.content) ↔
      (TargetOpened failures → FailsLater failures before.tmp →
        PutsBack settings failures before) := by
  rw [installGlobal_disable]
  by_cases opened : TargetOpened failures
  · obtain ⟨content, fails⟩ :=
      installDisable_of_targetOpened opened settings before
    rw [content, fails, putOut_copiedFile_eq_iff]
    exact ⟨fun given _ => given, fun given => given opened⟩
  · constructor
    · intro _ isOpened
      exact absurd isOpened opened
    · intro _ _
      exact sameContent_installDisable opened before

/-- On a full disk the first write of `cat` fails. -/
def fullDisk : InstallFailures :=
  { noFailures with copy := some ⟨1, 0, Nat.one_ne_zero⟩ }

def twoEntries : InstallWorld where
  preload :=
    some
      (cstr "/opt/other.so" ++ [newline] ++
        cstr "/usr/lib/runpod-shim/librunpod-shim.so" ++ [newline])
  tmp := none
  stdout := []
  stderr := []

/-- The script reports the failure, and the other entry is lost with the
library. -/
theorem failedDisable_damages :
    exitStatus
          (installGlobal fullDisk packagedSettings [cstr "disable"])
          twoEntries =
        1 ∧
      (worldAfter
          (installGlobal fullDisk packagedSettings [cstr "disable"])
          twoEntries).content =
        [] ∧
      twoEntries.content ≠ [] := by
  decide +kernel

end RunpodShim

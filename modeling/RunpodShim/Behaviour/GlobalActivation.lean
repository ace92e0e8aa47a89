import RunpodShim.Library.CallMachine
import RunpodShim.Library.Words
import RunpodShim.Tools.InstallGlobal

/-!
# Global activation as the loader sees it

The commands of `runpod-shim-install-global` work on the lines of the preload
file, and the dynamic loader reads the words between its blanks.
-/

namespace RunpodShim

open CallMachine ShellScript TextLines Words

/-- White space of the loader, the end of a line included. -/
def isWhiteSpace (byte : UInt8) : Bool :=
  byte == 32 || (decide (9 ≤ byte) && decide (byte ≤ 13))

/-- The libraries that the loader reads from a file without comments. -/
def preloadEntries (file : Option CString) : List CString :=
  words isWhiteSpace (file.getD [])

/-- A path that can stand in the list and is no option of `grep`. -/
structure LibraryPath where
  bytes : CString
  nonempty : bytes ≠ []
  unblank : ∀ byte, byte ∈ bytes → isWhiteSpace byte = false
  notOption : bytes.head? ≠ some 45
  /-- as in every variable of a shell -/
  noNul : 0 ∉ bytes

inductive InstallCommand
  | enable
  | disable
  | status

namespace InstallCommand

def arguments : InstallCommand → List CString
  | enable => [cstr "enable"]
  | disable => [cstr "disable"]
  | status => [cstr "status"]

end InstallCommand

/-- No redirection fails with the status that `grep` has for no line; in the
shells where one does, the script cannot tell the two apart. -/
def ToldApart (failures : InstallFailures) : Prop :=
  (∀ failure, failures.search = some failure → failure.status ≠ 1) ∧
    ∀ failure, failures.createTmp = some failure → failure.status ≠ 1

/-- Whatever fails on the way and whatever temporary file there is, the script
runs to its end, with status 0, and has printed this and left this file. -/
def Completes (settings : InstallSettings) (command : InstallCommand)
    (before : Option CString) (printed : List CString)
    (after : Option CString) : Prop :=
  ∃ failures start finish, ToldApart failures ∧
    start.preload = before ∧ start.stdout = [] ∧
    (installGlobal failures settings command.arguments).run start =
      .ok () finish ∧
    finish.stdout = printed ∧ finish.preload = after

/-! ## The commands on lines -/

/-- The line that `enable` or `disable` prints. -/
def globalLine (line : CString) : CString :=
  cstr "runpod-shim global preload " ++ line

/-- What one `echo` puts out. -/
def InstallSettings.prints (settings : InstallSettings) (line : CString) :
    List CString :=
  [settings.userland.echo.out line]

def enabledContent (lib content : CString) : CString :=
  if Listed lib (lines newline content) then content
  else endLines newline (lines newline content ++ [lib])

def disabledContent (userland : Userland) (lib content : CString) :
    CString :=
  endLines newline (grepPutsOut userland lib content)

/-- The script as a machine on the file. -/
def installMachine (settings : InstallSettings) (file : Option CString) :
    InstallCommand → List CString × Option CString
  | .enable =>
      (settings.prints (globalLine (enabledLine settings.lib)),
        some (enabledContent settings.lib (file.getD [])))
  | .disable =>
      (settings.prints (globalLine (disabledLine settings.lib)),
        some
          (disabledContent settings.userland settings.lib
            (file.getD [])))
  | .status =>
      (settings.prints
          (if Listed settings.lib (lines newline (file.getD [])) then
            enabledLine settings.lib
          else disabledLine settings.lib),
        file)

section Completed

variable {failures : InstallFailures} {settings : InstallSettings}
variable {world after : InstallWorld} {content : CString}

theorem echo_ok {line : CString}
    (ran : (echo failures settings line).run world = .ok () after) :
    after =
      { world with stdout := world.stdout ++ settings.prints line } := by
  obtain ⟨works, rfl⟩ := eq_none_of_run_must_ok ran
  rw [works]
  rfl

theorem ensurePreload_ok
    (ran : (ensurePreload failures).run world = .ok () after) :
    after = { world with preload := some world.content } := by
  obtain ⟨_, between, made, touched⟩ := exists_of_run_bind_ok ran
  obtain ⟨_, rfl⟩ := eq_none_of_run_must_ok made
  obtain ⟨works, rfl⟩ := eq_none_of_run_must_ok touched
  rw [works]
  rfl

theorem run_hasLib (noNul : 0 ∉ content)
    (noSearch : failures.search = none)
    (present : world.preload = some content) :
    (hasLib failures settings).run world =
      .ok (decide (Listed settings.lib (lines newline content))) world := by
  rw [hasLib, EStateM.run_bind, EStateM.run_get]
  simp only [grepFx, noSearch, present, reduceCtorEq, if_false,
    content_of_present present, grepLines_of_noNul noNul]
  by_cases member : Listed settings.lib (lines newline content)
  · simp [member]
  · simp [member]

theorem hasLib_ok (told : ToldApart failures) (noNul : 0 ∉ content)
    (present : world.preload = some content) {found : Bool}
    (ran : (hasLib failures settings).run world = .ok found after) :
    found = decide (Listed settings.lib (lines newline content)) ∧
      after = world := by
  cases search : failures.search with
  | none =>
      rw [run_hasLib noNul search present] at ran
      cases ran
      exact ⟨rfl, rfl⟩
  | some failure =>
      have notOne := told.1 failure search
      rw [hasLib, EStateM.run_bind, EStateM.run_get] at ran
      simp only [grepFx, search, failure.nonzero, notOne, if_false,
        EStateM.run_bind, run_attempt, run_exit, reduceCtorEq] at ran

/-- The last byte of a file is lost in `$(...)` when it is a newline. -/
theorem commandSubstitution_last_eq_nil_iff (noNul : 0 ∉ content)
    (more : content ≠ []) :
    commandSubstitution (content.drop (content.length - 1)) = [] ↔
      content.getLast? = some newline := by
  obtain ⟨front, final, rfl⟩ : ∃ front final, content = front ++ [final] :=
    ⟨_, _, (List.dropLast_append_getLast more).symm⟩
  have last :
      (front ++ [final]).drop ((front ++ [final]).length - 1) = [final] := by
    rw [List.length_append, List.length_singleton, Nat.add_sub_cancel,
      List.drop_left]
  have notNul : final ≠ 0 := by
    intro isNul
    subst isNul
    exact noNul (List.mem_append_right _ (List.mem_singleton_self _))
  have read : [final].filter (· != 0) = [final] :=
    List.filter_cons_of_pos (bne_iff_ne.mpr notNul)
  rw [last, commandSubstitution, read, List.rdropWhile_singleton,
    List.getLast?_concat]
  by_cases isNewline : final = newline
  · rw [if_pos (beq_iff_eq.mpr isNewline), isNewline]
    exact iff_of_true rfl rfl
  · rw [if_neg fun same => isNewline (beq_iff_eq.mp same)]
    exact
      iff_of_false (List.cons_ne_nil _ _)
        fun same => isNewline (Option.some.inj same)

theorem endLastLine_ok (noNul : 0 ∉ content)
    (present : world.preload = some content)
    (ran : (endLastLine failures).run world = .ok () after) :
    after =
      { world with
        preload := some (endLines newline (lines newline content)) } := by
  rw [endLines_lines]
  rw [endLastLine, EStateM.run_bind, EStateM.run_get] at ran
  simp only [content_of_present present] at ran
  by_cases empty : content = []
  · rw [if_pos empty] at ran
    cases ran
    rw [if_pos (Or.inl empty), ← present]
  · rw [if_neg empty] at ran
    obtain ⟨_, between, read, written⟩ := exists_of_run_bind_ok ran
    have same : between = world := (eq_none_of_run_must_ok read).2
    subst same
    by_cases ended : content.getLast? = some newline
    · have isEnded :=
        (commandSubstitution_last_eq_nil_iff noNul empty).mpr ended
      rw [if_pos isEnded] at written
      cases written
      rw [if_pos (Or.inr ended), ← present]
    · have notEnded :=
        mt (commandSubstitution_last_eq_nil_iff noNul empty).mp ended
      rw [if_neg notEnded] at written
      obtain ⟨works, rfl⟩ := eq_none_of_run_must_ok written
      rw [if_neg fun either => either.elim empty ended, works, putOut,
        content_of_present present]

theorem appendLib_ok (noNul : 0 ∉ content)
    (present : world.preload = some content)
    (absent : ¬ Listed settings.lib (lines newline content))
    (ran : (appendLib failures settings).run world = .ok () after) :
    after =
      { world with
        preload := some (enabledContent settings.lib content) } := by
  obtain ⟨_, between, ended, written⟩ := exists_of_run_bind_ok ran
  rw [endLastLine_ok noNul present ended] at written
  obtain ⟨works, rfl⟩ := eq_none_of_run_must_ok written
  rw [works, enabledContent, if_neg absent, endLines_append,
    endLines_cons]
  rfl

theorem not_ok_giveUp (message : CString) (status : Nat) :
    (giveUp failures settings message status).run world ≠
      .ok () after := by
  intro ran
  obtain ⟨_, _, _, later⟩ := exists_of_run_bind_ok ran
  obtain ⟨_, _, _, last⟩ := exists_of_run_bind_ok later
  cases last

theorem updatePreload_ok {source : CString}
    (present : world.tmp = some source)
    (ran : (updatePreload failures settings).run world = .ok () after) :
    after = { world with preload := some source, tmp := none } := by
  obtain ⟨status, between, copied, ended⟩ := exists_of_run_bind_ok ran
  by_cases zero : status = 0
  · rw [if_pos zero] at ended
    cases opens : failures.openTarget with
    | some failure =>
        rw [run_copyBack_of_openTarget opens] at copied
        cases copied
        exact absurd zero failure.nonzero
    | none =>
        rw [run_copyBack opens present] at copied
        cases copies : failures.copy with
        | some failure =>
            rw [copies] at copied
            cases copied
            exact absurd zero failure.nonzero
        | none =>
            rw [copies] at copied
            cases copied
            obtain ⟨works, rfl⟩ := eq_none_of_run_must_ok ended
            rw [works]
            rfl
  · rw [if_neg zero] at ended
    exact absurd ended (not_ok_giveUp _ 1)

theorem removeLib_ok (told : ToldApart failures)
    (present : world.preload = some content)
    (ran : (removeLib failures settings).run world = .ok () after) :
    after =
      { world with
        preload :=
          some (disabledContent settings.userland settings.lib content)
        tmp := none } := by
  obtain ⟨status, between, filtered, updated⟩ := exists_of_run_bind_ok ran
  by_cases passing : status = 0 ∨ status = 1
  · rw [if_pos passing] at updated
    cases create : failures.createTmp with
    | some failure =>
        rw [run_filterPreload_of_createTmp create] at filtered
        cases filtered
        exact absurd passing (not_passes (told.2 failure create))
    | none =>
        cases filters : failures.filter with
        | some failure =>
            obtain ⟨next, stopped⟩ :=
              run_filterPreload_of_filter create filters settings world
            rw [stopped] at filtered
            cases filtered
            exact
              absurd passing
                (not_passes (failures.filter_status failure filters))
        | none =>
            rw [run_filterPreload create filters present] at filtered
            cases filtered
            have done := updatePreload_ok rfl updated
            exact done
  · rw [if_neg passing] at updated
    exact absurd updated (not_ok_giveUp _ status)

theorem ensureLib_ok (told : ToldApart failures) (noNul : 0 ∉ content)
    (present : world.preload = some content)
    (ran : (ensureLib failures settings).run world = .ok () after) :
    after =
      { world with
        preload := some (enabledContent settings.lib content) } := by
  obtain ⟨found, _, looked, appended⟩ := exists_of_run_bind_ok ran
  obtain ⟨isFound, rfl⟩ := hasLib_ok told noNul present looked
  by_cases member : Listed settings.lib (lines newline content)
  · rw [isFound, decide_eq_true member, if_pos rfl] at appended
    cases appended
    rw [enabledContent, if_pos member, ← present]
  · rw [isFound, decide_eq_false member, if_neg Bool.false_ne_true]
      at appended
    exact appendLib_ok noNul present member appended

theorem installEnable_ok (told : ToldApart failures)
    (noNul : 0 ∉ world.content)
    (ran : (installEnable failures settings).run world = .ok () after) :
    after.preload = some (enabledContent settings.lib world.content) ∧
      after.stdout =
        world.stdout ++
          settings.prints (globalLine (enabledLine settings.lib)) := by
  obtain ⟨_, _, ensured, changed⟩ := exists_of_run_bind_ok ran
  rw [ensurePreload_ok ensured] at changed
  obtain ⟨_, _, added, printed⟩ := exists_of_run_bind_ok changed
  rw [echo_ok printed, ensureLib_ok told noNul rfl added]
  exact ⟨rfl, rfl⟩

theorem installDisable_ok (told : ToldApart failures)
    (ran : (installDisable failures settings).run world = .ok () after) :
    after.preload =
        some
          (disabledContent settings.userland settings.lib world.content) ∧
      after.stdout =
        world.stdout ++
          settings.prints (globalLine (disabledLine settings.lib)) := by
  obtain ⟨_, _, ensured, changed⟩ := exists_of_run_bind_ok ran
  rw [ensurePreload_ok ensured] at changed
  obtain ⟨_, _, removed, printed⟩ := exists_of_run_bind_ok changed
  rw [echo_ok printed, removeLib_ok told rfl removed]
  exact ⟨rfl, rfl⟩

theorem installStatus_ok (told : ToldApart failures)
    (noNul : 0 ∉ world.content)
    (ran : (installStatus failures settings).run world = .ok () after) :
    after.preload = world.preload ∧
      after.stdout =
        world.stdout ++
          settings.prints
            (if Listed settings.lib (lines newline world.content) then
              enabledLine settings.lib
            else disabledLine settings.lib) := by
  rw [installStatus, EStateM.run_bind, EStateM.run_get] at ran
  by_cases missing : world.preload = none
  · simp only [missing, if_true] at ran
    have notListed : ¬ Listed settings.lib (lines newline []) :=
      List.not_mem_nil
    rw [echo_ok ran, content_of_missing missing, if_neg notListed]
    exact ⟨rfl, rfl⟩
  · obtain ⟨content, present⟩ := Option.ne_none_iff_exists'.mp missing
    simp only [missing, if_false] at ran
    obtain ⟨found, _, looked, printed⟩ := exists_of_run_bind_ok ran
    have isContent := content_of_present present
    rw [isContent] at noNul
    obtain ⟨isFound, rfl⟩ := hasLib_ok told noNul present looked
    rw [isContent]
    by_cases member : Listed settings.lib (lines newline content)
    · rw [isFound, decide_eq_true member, if_pos rfl] at printed
      rw [echo_ok printed, if_pos member]
      exact ⟨rfl, rfl⟩
    · rw [isFound, decide_eq_false member, if_neg Bool.false_ne_true]
        at printed
      rw [echo_ok printed, if_neg member]
      exact ⟨rfl, rfl⟩

end Completed

/-! ## Without failures every command completes -/

section Working

variable (settings : InstallSettings)

theorem toldApart_noFailures : ToldApart noFailures := by
  constructor
  · intro failure impossible
    cases impossible
  · intro failure impossible
    cases impossible

theorem goesOn_appendLib : GoesOn (appendLib noFailures settings) := by
  apply GoesOn.bind
  · apply GoesOn.bind goesOn_get
    intro world
    split
    · exact goesOn_pure ()
    · apply GoesOn.bind (goesOn_must_none id)
      intro _
      split
      · exact goesOn_pure ()
      · exact goesOn_must_none _
  · intro _
    exact goesOn_must_none _

theorem exists_run_ensureLib (world : InstallWorld) {content : CString}
    (noNul : 0 ∉ content) (present : world.preload = some content) :
    ∃ after,
      (ensureLib noFailures settings).run world = .ok () after := by
  rw [ensureLib, run_bind_of_ok (run_hasLib noNul rfl present)]
  split
  · exact ⟨world, rfl⟩
  · obtain ⟨_, after, ran⟩ := goesOn_appendLib settings world
    exact ⟨after, ran⟩

theorem exists_run_removeLib (world : InstallWorld) {content : CString}
    (present : world.preload = some content) :
    ∃ after,
      (removeLib noFailures settings).run world = .ok () after := by
  rw [removeLib, run_bind_of_ok (run_filterPreload rfl rfl present),
    if_pos (filteredStatus_passes settings.lib content), updatePreload,
    run_bind_of_ok (run_copyBack rfl rfl)]
  exact ⟨_, run_must_none _ _⟩

theorem exists_run_installStatus (world : InstallWorld)
    (noNul : 0 ∉ world.content) :
    ∃ after,
      (installStatus noFailures settings).run world = .ok () after := by
  rw [installStatus, EStateM.run_bind, EStateM.run_get]
  by_cases missing : world.preload = none
  · simp only [missing, if_true]
    exact ⟨_, run_must_none _ _⟩
  · obtain ⟨content, present⟩ := Option.ne_none_iff_exists'.mp missing
    simp only [missing, if_false]
    rw [content_of_present present] at noNul
    rw [run_bind_of_ok (run_hasLib noNul rfl present)]
    split
    · exact ⟨_, run_must_none _ _⟩
    · exact ⟨_, run_must_none _ _⟩

/-- Without failures every command runs to its end. -/
theorem exists_run_installGlobal (command : InstallCommand)
    (world : InstallWorld) (noNul : 0 ∉ world.content) :
    ∃ after,
      (installGlobal noFailures settings command.arguments).run world =
        .ok () after := by
  cases command with
  | enable =>
      obtain ⟨between, ran⟩ :=
        exists_run_ensureLib settings
          { world with preload := some world.content } noNul rfl
      rw [InstallCommand.arguments, installGlobal_enable, installEnable,
        run_bind_of_ok (run_ensurePreload rfl rfl world),
        run_bind_of_ok ran]
      exact ⟨_, run_must_none _ _⟩
  | disable =>
      obtain ⟨between, ran⟩ :=
        exists_run_removeLib settings
          { world with preload := some world.content } rfl
      rw [InstallCommand.arguments, installGlobal_disable, installDisable,
        run_bind_of_ok (run_ensurePreload rfl rfl world),
        run_bind_of_ok ran]
      exact ⟨_, run_must_none _ _⟩
  | status =>
      rw [InstallCommand.arguments, installGlobal_status]
      exact exists_run_installStatus settings world noNul

end Working

/-- A completed command is one step of the machine on the file. -/
theorem completes_iff {settings : InstallSettings}
    {command : InstallCommand} {before after : Option CString}
    {printed : List CString} (noNul : 0 ∉ before.getD []) :
    Completes settings command before printed after ↔
      printed = (installMachine settings before command).1 ∧
        after = (installMachine settings before command).2 := by
  have effect (failures : InstallFailures) (start finish : InstallWorld)
      (told : ToldApart failures) (textual : 0 ∉ start.content)
      (ran :
        (installGlobal failures settings command.arguments).run start =
          .ok () finish) :
      finish.stdout =
          start.stdout ++
            (installMachine settings start.preload command).1 ∧
        finish.preload =
          (installMachine settings start.preload command).2 := by
    cases command with
    | enable =>
        rw [InstallCommand.arguments, installGlobal_enable] at ran
        exact (installEnable_ok told textual ran).symm
    | disable =>
        rw [InstallCommand.arguments, installGlobal_disable] at ran
        exact (installDisable_ok told ran).symm
    | status =>
        rw [InstallCommand.arguments, installGlobal_status] at ran
        exact (installStatus_ok told textual ran).symm
  constructor
  · intro completes
    obtain ⟨failures, start, finish, told, rfl, fresh, ran, rfl, rfl⟩ :=
      completes
    obtain ⟨isPrinted, isAfter⟩ :=
      effect failures start finish told noNul ran
    rw [fresh, List.nil_append] at isPrinted
    exact ⟨isPrinted, isAfter⟩
  · intro given
    obtain ⟨rfl, rfl⟩ := given
    obtain ⟨finish, ran⟩ :=
      exists_run_installGlobal settings command
        { preload := before, tmp := none, stdout := [], stderr := [] }
        noNul
    have told := toldApart_noFailures
    obtain ⟨isPrinted, isAfter⟩ :=
      effect noFailures
        { preload := before, tmp := none, stdout := [], stderr := [] }
        finish told noNul ran
    rw [List.nil_append] at isPrinted
    exact
      ⟨noFailures, _, finish, told, rfl, rfl, ran, isPrinted, isAfter⟩

/-! ## The commands on the list of the loader -/

/-- What the commands are to do to the list. -/
def loaderMachine (settings : InstallSettings) (entries : List CString) :
    InstallCommand → List CString × List CString
  | .enable =>
      (settings.prints (globalLine (enabledLine settings.lib)),
        if Listed settings.lib entries then entries
        else entries ++ [settings.lib])
  | .disable =>
      (settings.prints (globalLine (disabledLine settings.lib)),
        entries.filter fun entry => decide (entry ≠ settings.lib))
  | .status =>
      (settings.prints
          (if Listed settings.lib entries then enabledLine settings.lib
          else disabledLine settings.lib),
        entries)

/-- The lines of a file in which the script manages the library. -/
structure LinesManaged (settings : InstallSettings) (content : CString) :
    Prop where
  /-- A line of text shares the library with nothing, not even with blanks. -/
  own : ∀ line, line ∈ lines newline content →
    settings.userland.isText line = true →
      settings.lib ∈ words isWhiteSpace line → line = settings.lib
  /-- No other library stands on a line that is not text. -/
  spared : ∀ line, line ∈ lines newline content →
    settings.userland.isText line = false →
      ∀ word, word ∈ words isWhiteSpace line → word = settings.lib
  /-- A library in the list is a line. -/
  found : settings.lib ∈ preloadEntries (some content) →
    settings.lib ∈ lines newline content

/-- The script for one library. -/
def LibraryPath.settings (library : LibraryPath) (path : CString)
    (userland : Userland) : InstallSettings where
  lib := library.bytes
  preload := path
  userland := userland

section Lists

variable (library : LibraryPath) {path : CString} {userland : Userland}
variable {content : CString}

theorem isWhiteSpace_newline : isWhiteSpace newline = true := by
  decide

theorem words_library :
    words isWhiteSpace library.bytes = [library.bytes] :=
  words_of_unblank library.nonempty library.unblank

theorem newline_notMem_library : newline ∉ library.bytes := by
  intro member
  have unblank := library.unblank newline member
  rw [isWhiteSpace_newline] at unblank
  cases unblank

theorem preloadEntries_some (content : CString) :
    preloadEntries (some content) =
      (lines newline content).flatMap (words isWhiteSpace) :=
  words_eq_flatMap_lines isWhiteSpace_newline content

theorem preloadEntries_getD (file : Option CString) :
    preloadEntries (some (file.getD [])) = preloadEntries file :=
  rfl

theorem mem_preloadEntries_of_mem_lines
    (isLine : library.bytes ∈ lines newline content) :
    library.bytes ∈ preloadEntries (some content) := by
  rw [preloadEntries_some]
  refine List.mem_flatMap.mpr ⟨library.bytes, isLine, ?_⟩
  rw [words_library]
  exact List.mem_singleton_self _

theorem lines_enabledContent :
    lines newline (enabledContent library.bytes content) =
      if Listed library.bytes (lines newline content) then
        lines newline content
      else lines newline content ++ [library.bytes] := by
  rw [enabledContent]
  split
  · rfl
  · apply lines_endLines
    intro line member
    rcases List.mem_append.mp member with old | new
    · exact separator_notMem_of_mem_lines old
    · rw [List.mem_singleton.mp new]
      exact newline_notMem_library library

theorem mem_lines_enabledContent_iff {line : CString} :
    line ∈ lines newline (enabledContent library.bytes content) ↔
      line ∈ lines newline content ∨ line = library.bytes := by
  rw [lines_enabledContent]
  split
  · rename_i present
    exact ⟨Or.inl, fun either => either.elim id fun same => same ▸ present⟩
  · rw [List.mem_append, List.mem_singleton]

theorem mem_lines_enabledContent :
    library.bytes ∈
      lines newline (enabledContent library.bytes content) :=
  (mem_lines_enabledContent_iff library).mpr (Or.inr rfl)

theorem lines_disabledContent (noNul : 0 ∉ content) (userland : Userland)
    (lib : CString) :
    lines newline (disabledContent userland lib content) =
      (lines newline content).filter fun line =>
        userland.isText line && decide (line ≠ lib) := by
  rw [disabledContent, grepPutsOut_of_noNul noNul]
  apply lines_endLines
  intro line member
  exact separator_notMem_of_mem_lines (List.mem_of_mem_filter member)

theorem mem_lines_disabledContent_iff (noNul : 0 ∉ content)
    {lib line : CString} :
    line ∈ lines newline (disabledContent userland lib content) ↔
      line ∈ lines newline content ∧
        userland.isText line = true ∧ line ≠ lib := by
  rw [lines_disabledContent noNul, List.mem_filter, Bool.and_eq_true,
    decide_eq_true_eq]

/-- No command puts a NUL byte into the file. -/
theorem noNul_installMachine {file : Option CString}
    (noNul : 0 ∉ file.getD []) (command : InstallCommand) :
    0 ∉
      (installMachine (library.settings path userland) file
        command).2.getD [] := by
  have notNewline : (0 : UInt8) ≠ newline := by decide
  have onLines := mt (mem_iff_mem_lines notNewline).mpr noNul
  cases command with
  | enable =>
      intro member
      have isLine := (mem_iff_mem_lines notNewline).mp member
      obtain ⟨line, isLine, inLine⟩ := isLine
      rcases (mem_lines_enabledContent_iff library).mp isLine with
        old | isNew
      · exact onLines ⟨line, old, inLine⟩
      · exact library.noNul (isNew ▸ inLine)
  | disable =>
      intro member
      have isLine := (mem_iff_mem_lines notNewline).mp member
      obtain ⟨line, isLine, inLine⟩ := isLine
      have kept := (mem_lines_disabledContent_iff noNul).mp isLine
      exact onLines ⟨line, kept.1, inLine⟩
  | status =>
      exact noNul

/-- In a managed file the library is an entry just when it is a line. -/
theorem LinesManaged.listed_preloadEntries_iff
    (managed : LinesManaged (library.settings path userland) content) :
    Listed library.bytes (preloadEntries (some content)) ↔
      Listed library.bytes (lines newline content) :=
  ⟨managed.found, mem_preloadEntries_of_mem_lines library⟩

/-- A `disable` takes just the library from the list where every word but the
library is on a line that stays. -/
theorem preloadEntries_disabledContent_iff (noNul : 0 ∉ content) :
    preloadEntries
          (some (disabledContent userland library.bytes content)) =
        (preloadEntries (some content)).filter
          (fun entry => decide (entry ≠ library.bytes)) ↔
      ∀ line, line ∈ lines newline content →
        ∀ word, word ∈ words isWhiteSpace line →
          decide (word ≠ library.bytes) =
            (userland.isText line && decide (line ≠ library.bytes)) := by
  rw [preloadEntries_some, lines_disabledContent noNul,
    preloadEntries_some]
  exact flatMap_filter_eq_iff

theorem LinesManaged.preloadEntries_disabledContent
    (managed : LinesManaged (library.settings path userland) content)
    (noNul : 0 ∉ content) :
    preloadEntries
        (some (disabledContent userland library.bytes content)) =
      (preloadEntries (some content)).filter
        fun entry => decide (entry ≠ library.bytes) := by
  rw [preloadEntries_disabledContent_iff library noNul]
  intro line member word isWord
  cases text : userland.isText line with
  | true =>
      rw [Bool.true_and, decide_eq_decide]
      constructor
      · intro other isLibrary
        rw [isLibrary, words_library] at isWord
        exact other (List.mem_singleton.mp isWord)
      · intro differs isLibrary
        rw [isLibrary] at isWord
        exact differs (managed.own line member text isWord)
  | false =>
      rw [Bool.false_and, decide_eq_false_iff_not, not_not]
      exact managed.spared line member text word isWord

theorem LinesManaged.preloadEntries_enabledContent
    (managed : LinesManaged (library.settings path userland) content) :
    preloadEntries (some (enabledContent library.bytes content)) =
      if Listed library.bytes (preloadEntries (some content)) then
        preloadEntries (some content)
      else preloadEntries (some content) ++ [library.bytes] := by
  rw [preloadEntries_some, lines_enabledContent]
  by_cases member : Listed library.bytes (lines newline content)
  · rw [if_pos member,
      if_pos ((managed.listed_preloadEntries_iff library).mpr member),
      preloadEntries_some]
  · rw [if_neg member,
      if_neg fun isEntry =>
        member ((managed.listed_preloadEntries_iff library).mp isEntry),
      List.flatMap_append, ← preloadEntries_some, List.flatMap_singleton,
      words_library]

theorem LinesManaged.after_enable
    (managed : LinesManaged (library.settings path userland) content) :
    LinesManaged (library.settings path userland)
      (enabledContent library.bytes content) := by
  refine ⟨?_, ?_, fun _ => mem_lines_enabledContent library⟩
  · intro line member text isWord
    rcases (mem_lines_enabledContent_iff library).mp member with
      isOld | isNew
    · exact managed.own line isOld text isWord
    · exact isNew
  · intro line member notText word isWord
    rcases (mem_lines_enabledContent_iff library).mp member with
      isOld | isNew
    · exact managed.spared line isOld notText word isWord
    · rw [isNew, words_library] at isWord
      exact List.mem_singleton.mp isWord

theorem LinesManaged.after_disable
    (managed : LinesManaged (library.settings path userland) content)
    (noNul : 0 ∉ content) :
    LinesManaged (library.settings path userland)
      (disabledContent userland library.bytes content) := by
  refine ⟨?_, ?_, ?_⟩
  · intro line member text isWord
    have kept := (mem_lines_disabledContent_iff noNul).mp member
    exact managed.own line kept.1 text isWord
  · intro line member notText
    have kept := (mem_lines_disabledContent_iff noNul).mp member
    exact absurd (kept.2.1.symm.trans notText) (Bool.false_ne_true ·.symm)
  · intro isEntry
    have entries := managed.preloadEntries_disabledContent library noNul
    have isOther : library.bytes ∈ _ := entries ▸ isEntry
    exact absurd rfl (of_decide_eq_true (List.mem_filter.mp isOther).2)

/-- On a file whose lines it manages the script is the machine on the list. -/
theorem installMachine_refines (path : CString) (userland : Userland) :
    Refines (installMachine (library.settings path userland))
      (loaderMachine (library.settings path userland))
      (fun file =>
        0 ∉ file.getD [] ∧
          LinesManaged (library.settings path userland) (file.getD []))
      preloadEntries where
  keeps file command given := by
    obtain ⟨noNul, managed⟩ := given
    refine ⟨noNul_installMachine library noNul command, ?_⟩
    cases command with
    | enable =>
        exact managed.after_enable library
    | disable =>
        exact managed.after_disable library noNul
    | status =>
        exact managed
  answer file command given := by
    cases command with
    | enable =>
        rfl
    | disable =>
        rfl
    | status =>
        have listed :
            Listed (library.settings path userland).lib
                (preloadEntries file) ↔
              Listed (library.settings path userland).lib
                (lines newline (file.getD [])) :=
          given.2.listed_preloadEntries_iff library
        simp only [installMachine, loaderMachine, listed]
  step file command given := by
    cases command with
    | enable =>
        exact given.2.preloadEntries_enabledContent library
    | disable =>
        exact given.2.preloadEntries_disabledContent library given.1
    | status =>
        rfl

end Lists

/-! ## What the commands mean to the loader -/

/-- The file after commands that have all run to their end. -/
def ReachedBy (settings : InstallSettings) :
    List InstallCommand → Option CString → Option CString → Prop
  | [], file, after => after = file
  | command :: rest, file, after =>
      ∃ printed next, Completes settings command file printed next ∧
        ReachedBy settings rest next after

theorem reachedBy_iff {library : LibraryPath} {path : CString}
    {userland : Userland} {commands : List InstallCommand}
    {file after : Option CString} (noNul : 0 ∉ file.getD []) :
    ReachedBy (library.settings path userland) commands file after ↔
      after =
        afterCalls (installMachine (library.settings path userland)) file
          commands := by
  induction commands generalizing file with
  | nil =>
      exact Iff.rfl
  | cons command rest inductionHypothesis =>
      have later :
          0 ∉
            (installMachine (library.settings path userland) file
              command).2.getD [] :=
        noNul_installMachine library noNul command
      rw [ReachedBy, afterCalls]
      constructor
      · intro given
        obtain ⟨printed, next, completes, reached⟩ := given
        obtain ⟨_, rfl⟩ := (completes_iff noNul).mp completes
        exact (inductionHypothesis later).mp reached
      · intro same
        exact
          ⟨_, _, (completes_iff noNul).mpr ⟨rfl, rfl⟩,
            (inductionHypothesis later).mpr same⟩

/-- What each command is to do from this file on. -/
structure MeantByLoader (settings : InstallSettings)
    (file : Option CString) : Prop where
  enable : ∀ printed after, Completes settings .enable file printed after →
    settings.lib ∈ preloadEntries after ∧
      preloadEntries file <+: preloadEntries after ∧
      (settings.lib ∉ preloadEntries file →
        preloadEntries after = preloadEntries file ++ [settings.lib] ∧
          (preloadEntries after).count settings.lib = 1)
  disable : ∀ printed after,
    Completes settings .disable file printed after →
      settings.lib ∉ preloadEntries after ∧
        preloadEntries after =
          (preloadEntries file).filter
            fun entry => decide (entry ≠ settings.lib)
  status : ∀ printed after, Completes settings .status file printed after →
    after = file ∧
      (printed = settings.prints (enabledLine settings.lib) ↔
        settings.lib ∈ preloadEntries file) ∧
      (printed = settings.prints (disabledLine settings.lib) ↔
        settings.lib ∉ preloadEntries file)
  enable_again : ∀ printed once printedAgain twice,
    Completes settings .enable file printed once →
      Completes settings .enable once printedAgain twice → twice = once
  disable_again : ∀ printed once printedAgain twice,
    Completes settings .disable file printed once →
      Completes settings .disable once printedAgain twice → twice = once
  restores : ∀ printed enabled printedNext disabled,
    settings.lib ∉ preloadEntries file →
      Completes settings .enable file printed enabled →
        Completes settings .disable enabled printedNext disabled →
          preloadEntries disabled = preloadEntries file

section Meaning

variable {library : LibraryPath} {path : CString} {userland : Userland}
variable {file : Option CString}

/-- `echo` expands nothing before the path. -/
theorem prints_enabledLine_ne (settings : InstallSettings) (lib : CString) :
    settings.prints (enabledLine lib) ≠ settings.prints (disabledLine lib) := by
  have expand := settings.userland.echo.out_append
  rw [InstallSettings.prints, InstallSettings.prints, enabledLine,
    disabledLine, expand _ lib (by decide), expand _ lib (by decide)]
  intro same
  have heads : some (101 : UInt8) = some 100 :=
    congrArg List.head? (List.singleton_inj.mp same)
  exact absurd heads (by decide)

theorem enabledContent_enabledContent (library : LibraryPath)
    (content : CString) :
    enabledContent library.bytes (enabledContent library.bytes content) =
      enabledContent library.bytes content := by
  rw [enabledContent, if_pos]
  exact mem_lines_enabledContent library

/-- What `disable` leaves it leaves again. -/
theorem disabledContent_disabledContent {content : CString}
    (noNul : 0 ∉ content)
    (noNulAfter : 0 ∉ disabledContent userland library.bytes content) :
    disabledContent userland library.bytes
        (disabledContent userland library.bytes content) =
      disabledContent userland library.bytes content := by
  rw [disabledContent, grepPutsOut_of_noNul noNulAfter,
    lines_disabledContent noNul, List.filter_filter, disabledContent,
    grepPutsOut_of_noNul noNul]
  simp only [Bool.and_self]

/-- A completed command is a step of the machine on the list. -/
theorem LinesManaged.completes
    (managed :
      LinesManaged (library.settings path userland) (file.getD []))
    (noNul : 0 ∉ file.getD [])
    {command : InstallCommand} {printed : List CString}
    {after : Option CString}
    (completes :
      Completes (library.settings path userland) command file printed
        after) :
    (0 ∉ after.getD [] ∧
        LinesManaged (library.settings path userland) (after.getD [])) ∧
      printed =
        (loaderMachine (library.settings path userland)
          (preloadEntries file) command).1 ∧
      preloadEntries after =
        (loaderMachine (library.settings path userland)
          (preloadEntries file) command).2 := by
  have refines := installMachine_refines library path userland
  have given := And.intro noNul managed
  obtain ⟨rfl, rfl⟩ := (completes_iff noNul).mp completes
  exact
    ⟨refines.keeps file command given, refines.answer file command given,
      refines.step file command given⟩

/-- In a file whose lines it manages the script does what the loader makes of
it. -/
theorem LinesManaged.meantByLoader
    (managed :
      LinesManaged (library.settings path userland) (file.getD []))
    (noNul : 0 ∉ file.getD []) :
    MeantByLoader (library.settings path userland) file where
  enable := by
    intro printed after completes
    obtain ⟨_, _, entries⟩ := managed.completes noNul completes
    rw [entries, loaderMachine]
    by_cases member :
        Listed (library.settings path userland).lib (preloadEntries file)
    · rw [if_pos member]
      exact
        ⟨member, List.prefix_refl _, fun absent => absurd member absent⟩
    · rw [if_neg member]
      refine
        ⟨List.mem_append_right _ (List.mem_singleton_self _),
          List.prefix_append _ _, fun _ => ⟨rfl, ?_⟩⟩
      rw [List.count_append, List.count_eq_zero_of_not_mem member,
        List.count_singleton_self]
  disable := by
    intro printed after completes
    obtain ⟨_, _, entries⟩ := managed.completes noNul completes
    rw [entries, loaderMachine]
    exact ⟨by simp, rfl⟩
  status := by
    intro printed after completes
    obtain ⟨_, isPrinted, _⟩ := managed.completes noNul completes
    have same : after = file := ((completes_iff noNul).mp completes).2
    have differ :=
      prints_enabledLine_ne (library.settings path userland) library.bytes
    rw [isPrinted, loaderMachine]
    by_cases member :
        Listed (library.settings path userland).lib (preloadEntries file)
    · rw [if_pos member]
      exact
        ⟨same, iff_of_true rfl member,
          iff_of_false differ fun not => not member⟩
    · rw [if_neg member]
      exact
        ⟨same, iff_of_false differ.symm member, iff_of_true rfl member⟩
  enable_again := by
    intro printed once printedAgain twice first second
    have later := (managed.completes noNul first).1.1
    rw [((completes_iff later).mp second).2,
      ((completes_iff noNul).mp first).2]
    exact congrArg some (enabledContent_enabledContent library _)
  disable_again := by
    intro printed once printedAgain twice first second
    have later := (managed.completes noNul first).1.1
    obtain ⟨_, rfl⟩ := (completes_iff noNul).mp first
    rw [((completes_iff later).mp second).2]
    exact congrArg some (disabledContent_disabledContent noNul later)
  restores := by
    intro printed enabled printedNext disabled absent first second
    obtain ⟨⟨later, managedAfter⟩, _, added⟩ :=
      managed.completes noNul first
    obtain ⟨_, _, removed⟩ := managedAfter.completes later second
    have notListed :
        ¬ Listed (library.settings path userland).lib
          (preloadEntries file) :=
      absent
    rw [removed, added, loaderMachine, loaderMachine, if_neg notListed,
      List.filter_append, List.filter_eq_self.mpr]
    · simp
    · intro entry member
      rw [decide_eq_true_iff]
      exact fun same => absent (same ▸ member)

/-- The laws of `disable` and `status` fail on lines that the script does not
manage. -/
theorem MeantByLoader.linesManaged
    (meant : MeantByLoader (library.settings path userland) file)
    (noNul : 0 ∉ file.getD []) :
    LinesManaged (library.settings path userland) (file.getD []) := by
  have disabled :=
    (meant.disable _ _ ((completes_iff noNul).mpr ⟨rfl, rfl⟩)).2
  have kept :=
    (preloadEntries_disabledContent_iff library noNul).mp disabled
  have shown :=
    (meant.status _ _ ((completes_iff noNul).mpr ⟨rfl, rfl⟩)).2.1
  refine ⟨?_, ?_, ?_⟩
  · intro line member text isWord
    have same := kept line member library.bytes isWord
    rw [text, Bool.true_and, decide_eq_decide] at same
    by_contra differs
    exact same.mpr differs rfl
  · intro line member notText word isWord
    have same := kept line member word isWord
    rw [notText, Bool.false_and, decide_eq_false_iff_not, not_not] at same
    exact same
  · intro isEntry
    have printed := shown.mpr isEntry
    by_contra notLine
    have notListed :
        ¬ Listed (library.settings path userland).lib
          (lines newline (file.getD [])) :=
      notLine
    rw [installMachine, if_neg notListed] at printed
    exact prints_enabledLine_ne _ _ printed.symm

end Meaning

/-- The script means what the loader makes of it, in every file that any
commands lead to, just when the lines of the first file are managed. -/
theorem globalActivation_iff (library : LibraryPath) (path : CString)
    (userland : Userland) (file : Option CString)
    (noNul : 0 ∉ file.getD []) :
    (∀ commands after,
      ReachedBy (library.settings path userland) commands file after →
        MeantByLoader (library.settings path userland) after ∧
          preloadEntries after =
            afterCalls (loaderMachine (library.settings path userland))
              (preloadEntries file) commands) ↔
      LinesManaged (library.settings path userland) (file.getD []) := by
  constructor
  · intro always
    exact (always [] file rfl).1.linesManaged noNul
  · intro managed commands after reached
    have refines := installMachine_refines library path userland
    have given := And.intro noNul managed
    rw [(reachedBy_iff noNul).mp reached]
    constructor
    · obtain ⟨later, managedAfter⟩ := refines.kept_afterCalls given commands
      exact managedAfter.meantByLoader later
    · exact refines.view_afterCalls given commands

def packagedLibrary : LibraryPath where
  bytes := packagedSettings.lib
  nonempty := by decide
  unblank := by decide +kernel
  notOption := by decide
  noNul := by decide +kernel

/-- Two other libraries on one line, and the library at the end. -/
def managedLines : CString :=
  cstr "/opt/a.so /opt/b.so" ++ [newline, newline] ++ packagedSettings.lib

/-- The script manages these lines, and whatever commands run on them do what
the loader makes of them. -/
theorem globalActivation_managedLines :
    LinesManaged packagedSettings managedLines ∧
      ∀ commands after,
        ReachedBy packagedSettings commands (some managedLines) after →
          MeantByLoader packagedSettings after ∧
            preloadEntries after =
              afterCalls (loaderMachine packagedSettings)
                (preloadEntries (some managedLines)) commands := by
  have managed : LinesManaged packagedSettings managedLines := by
    refine ⟨?_, nofun, fun _ => ?_⟩
    · decide +kernel
    · decide +kernel
  have noNul : 0 ∉ (some managedLines).getD [] := by
    decide +kernel
  exact
    ⟨managed,
      (globalActivation_iff packagedLibrary packagedSettings.preload
        packagedSettings.userland (some managedLines) noNul).mpr managed⟩

/-- Two libraries on one line. -/
def sharedLine : CString :=
  cstr "/opt/other.so " ++ packagedSettings.lib ++ [newline]

/-- The library of the package stays in the list when it has been disabled,
and is reported as disabled. -/
theorem globalActivation_misses :
    Completes packagedSettings .disable (some sharedLine)
        (packagedSettings.prints
          (globalLine (disabledLine packagedSettings.lib)))
        (some sharedLine) ∧
      Completes packagedSettings .status (some sharedLine)
        (packagedSettings.prints (disabledLine packagedSettings.lib))
        (some sharedLine) ∧
      packagedSettings.lib ∈ preloadEntries (some sharedLine) := by
  have noNul : 0 ∉ (some sharedLine).getD [] := by decide +kernel
  refine
    ⟨(completes_iff noNul).mpr ⟨rfl, ?_⟩,
      (completes_iff noNul).mpr ⟨?_, rfl⟩, ?_⟩
  · decide +kernel
  · decide +kernel
  · decide +kernel

end RunpodShim

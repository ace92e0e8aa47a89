import Mathlib.Data.List.DropRight
import RunpodShim.Library.ShellScript
import RunpodShim.Library.TextLines
import RunpodShim.Tools.Shell

/-!
# The global installer

`tools/runpod-shim-install-global`: the commands of the script and what each
of them leaves behind when it works and when it fails.
-/

namespace RunpodShim

open ShellScript TextLines

/-- What the surroundings of the script decide. -/
structure Userland where
  /-- `grep` takes the line for text in its locale. -/
  isText : CString → Bool
  echo : Echo

/-- The C locale, and a shell that leaves backslashes alone. -/
def plainUserland : Userland where
  isText := fun _ => true
  echo := plainEcho

/-- The variables that the script sets first, and what it runs in. -/
structure InstallSettings where
  lib : CString
  preload : CString
  userland : Userland

/-- `$lib`: `:-` takes the default in place of an empty value too. -/
def installedLib (defaultLib : CString) (globalLib : Option CString) :
    CString :=
  if globalLib.getD [] = [] then defaultLib else globalLib.getD []

def installSettings (defaultLib : CString)
    (globalRoot globalLib : Option CString) (userland : Userland) :
    InstallSettings where
  lib := installedLib defaultLib globalLib
  preload := globalRoot.getD [] ++ cstr "/etc/ld.so.preload"
  userland := userland

/-- The settings of the package where no variable changes them. -/
def packagedSettings : InstallSettings :=
  installSettings (cstr "/usr/lib/runpod-shim/librunpod-shim.so") none none
    plainUserland

/-- The files of the script, and what each `echo` has put out. -/
structure InstallWorld where
  preload : Option CString
  tmp : Option CString
  stdout : List CString
  stderr : List CString

/-- What is read from the preload file, nothing when there is none. -/
def InstallWorld.content (world : InstallWorld) : CString :=
  world.preload.getD []

/-- Which of the commands fail.  A redirection is a command of its own: when it
fails the command behind it is not run. -/
structure InstallFailures where
  mkdir : Option Failure
  touch : Option Failure
  /-- A `touch` that fails may have created the file. -/
  touchCreates : Bool
  search : Option Failure
  tail : Option Failure
  newline : Option Failure
  entry : Option Failure
  createTmp : Option Failure
  filter : Option Failure
  openTarget : Option Failure
  copy : Option Failure
  removeTmp : Option Failure
  report : Option Failure
  /-- `grep` reports an error with a status above 1. -/
  filter_status : ∀ failure, filter = some failure → failure.status ≠ 1

/-- No command fails. -/
def noFailures : InstallFailures where
  mkdir := none
  touch := none
  touchCreates := false
  search := none
  tail := none
  newline := none
  entry := none
  createTmp := none
  filter := none
  openTarget := none
  copy := none
  removeTmp := none
  report := none
  filter_status := by
    intro failure impossible
    cases impossible

/-! ## The commands -/

section Commands

variable (failures : InstallFailures) (settings : InstallSettings)

/-- `echo`. -/
def echo (line : CString) : Script InstallWorld Unit :=
  must failures.report fun world =>
    if failures.report.isSome then world
    else
      { world with
        stdout := world.stdout ++ [settings.userland.echo.out line] }

/-- What `echo ... >&2` does. -/
def warned (line : CString) (world : InstallWorld) : InstallWorld :=
  if failures.report.isSome then world
  else
    { world with
      stderr := world.stderr ++ [settings.userland.echo.out line] }

def warn (line : CString) : Script InstallWorld Unit :=
  must failures.report (warned failures settings line)

/-- `rm -f "$tmp"`. -/
def removeTmp : Script InstallWorld Unit :=
  must failures.removeTmp fun world =>
    if failures.removeTmp.isSome then world else { world with tmp := none }

/-- `printf ... >>"$preload"`. -/
def appendPreload (failure : Option Failure) (bytes : CString) :
    Script InstallWorld Unit :=
  must failure fun world =>
    { world with preload := some (world.content ++ putOut failure bytes) }

/-- The output of a command in `$(...)`, without NUL bytes and the newlines at
its end. -/
def commandSubstitution (output : CString) : CString :=
  (output.filter (· != 0)).rdropWhile (· == newline)

/-- The text is one of a list. -/
def Listed (text : CString) (texts : List CString) : Prop :=
  text ∈ texts

instance (text : CString) (texts : List CString) :
    Decidable (Listed text texts) :=
  inferInstanceAs (Decidable (text ∈ texts))

/-- The lines that `grep` reads.  In a file with a NUL byte it ends a line at
each of them. -/
def grepLines (content : CString) : List CString :=
  lines newline
    (content.map fun byte => if byte = 0 then newline else byte)

/-- The status of `grep -Fx "$lib" "$preload" >/dev/null 2>&1`. -/
def grepFx (world : InstallWorld) : Nat :=
  match failures.search with
  | some failure => failure.status
  | none =>
      if world.preload = none then 2
      else if Listed settings.lib (grepLines world.content) then 0
      else 1

/-- The lines that `grep -Fxv "$lib"` selects. -/
def grepFxv (lib content : CString) : List CString :=
  (grepLines content).filter fun line => decide (line ≠ lib)

/-- The selected lines that it puts out: those that are text, and none of a
file with a NUL byte.  Of the others it only says that there are some, and on
standard error. -/
def grepPutsOut (userland : Userland) (lib content : CString) :
    List CString :=
  if content.contains 0 then []
  else (grepFxv lib content).filter userland.isText

/-- `grep -Fxv "$lib" "$preload" >"$tmp"`, with its status. -/
def filterPreload : Script InstallWorld Nat :=
  match failures.createTmp with
  | some failure => pure failure.status
  | none => do
      let before ← get
      let status ← attempt failures.filter fun world =>
        { world with
          tmp :=
            some
              (putOut failures.filter
                (endLines newline
                  (grepPutsOut settings.userland settings.lib
                    world.content))) }
      -- No line selected is a status of its own, none put out is not.
      pure
        (if status ≠ 0 then status
        else if before.preload = none then 2
        else if grepFxv settings.lib before.content = [] then 1
        else 0)

/-- `cat "$tmp" >"$preload"`, with its status.  The target is empty from the
moment it is opened. -/
def copyBack : Script InstallWorld Nat :=
  match failures.openTarget with
  | some failure => pure failure.status
  | none => do
      let before ← get
      modify fun world => { world with preload := some [] }
      if before.tmp = none then pure 1
      else
        attempt failures.copy fun world =>
          { world with
            preload :=
              some (putOut failures.copy (world.tmp.getD [])) }

end Commands

/-! ## The functions of the script -/

section Functions

variable (failures : InstallFailures) (settings : InstallSettings)

/-- `usage`. -/
def installUsage : Script InstallWorld Unit :=
  warn failures settings
    (cstr "usage: runpod-shim-install-global enable|disable|status")

/-- `ensure_preload`. -/
def ensurePreload : Script InstallWorld Unit := do
  must failures.mkdir id
  must failures.touch fun world =>
    if failures.touch.isSome ∧ failures.touchCreates = false then world
    else { world with preload := some world.content }

/-- `has_lib`. -/
def hasLib : Script InstallWorld Bool := do
  let world ← get
  let status := grepFx failures settings world
  if status = 0 then pure true
  else if status = 1 then pure false
  else do
    -- In the condition of an `if` the shell ignores `set -e`.
    let _ ← attempt failures.report
      (warned failures settings
        (cstr "failed to read " ++ settings.preload))
    exit status

/-- The part of `append_lib` that ends the last line of the file. -/
def endLastLine : Script InstallWorld Unit := do
  let world ← get
  if world.content = [] then pure ()
  else do
    let lastChar :=
      commandSubstitution
        (world.content.drop (world.content.length - 1))
    must failures.tail id
    if lastChar = [] then pure ()
    else appendPreload failures.newline [newline]

/-- `append_lib`. -/
def appendLib : Script InstallWorld Unit := do
  endLastLine failures
  appendPreload failures.entry (settings.lib ++ [newline])

/-- What `remove_lib` does when a command has failed. -/
def giveUp (message : CString) (status : Nat) :
    Script InstallWorld Unit := do
  removeTmp failures
  warn failures settings (message ++ settings.preload)
  exit status

/-- The part of `remove_lib` behind the filter. -/
def updatePreload : Script InstallWorld Unit := do
  let status ← copyBack failures
  if status = 0 then removeTmp failures
  else giveUp failures settings (cstr "failed to update ") 1

/-- `remove_lib`. -/
def removeLib : Script InstallWorld Unit := do
  let status ← filterPreload failures settings
  if status = 0 ∨ status = 1 then updatePreload failures settings
  else giveUp failures settings (cstr "failed to filter ") status

def enabledLine (lib : CString) : CString :=
  cstr "enabled: " ++ lib

def disabledLine (lib : CString) : CString :=
  cstr "disabled: " ++ lib

/-- `if ! has_lib; then append_lib; fi`. -/
def ensureLib : Script InstallWorld Unit := do
  let present ← hasLib failures settings
  if present then pure () else appendLib failures settings

/-- The `enable` branch. -/
def installEnable : Script InstallWorld Unit := do
  ensurePreload failures
  ensureLib failures settings
  echo failures settings
    (cstr "runpod-shim global preload " ++ enabledLine settings.lib)

/-- The `disable` branch. -/
def installDisable : Script InstallWorld Unit := do
  ensurePreload failures
  removeLib failures settings
  echo failures settings
    (cstr "runpod-shim global preload " ++ disabledLine settings.lib)

/-- The `status` branch. -/
def installStatus : Script InstallWorld Unit := do
  let world ← get
  if world.preload = none then
    echo failures settings (disabledLine settings.lib)
  else do
    let present ← hasLib failures settings
    if present then echo failures settings (enabledLine settings.lib)
    else echo failures settings (disabledLine settings.lib)

/-- The script with its arguments. -/
def installGlobal (arguments : List CString) :
    Script InstallWorld Unit :=
  if arguments = [cstr "enable"] then installEnable failures settings
  else if arguments = [cstr "disable"] then
    installDisable failures settings
  else if arguments = [cstr "status"] then
    installStatus failures settings
  else do
    installUsage failures settings
    exit 2

theorem installGlobal_enable :
    installGlobal failures settings [cstr "enable"] =
      installEnable failures settings := by
  rw [installGlobal, if_pos rfl]

theorem installGlobal_disable :
    installGlobal failures settings [cstr "disable"] =
      installDisable failures settings := by
  rw [installGlobal, if_neg (by decide), if_pos rfl]

theorem installGlobal_status :
    installGlobal failures settings [cstr "status"] =
      installStatus failures settings := by
  rw [installGlobal, if_neg (by decide), if_neg (by decide), if_pos rfl]

end Functions

/-! ## What the commands do -/

section Runs

variable {failures : InstallFailures} {settings : InstallSettings}
variable {world : InstallWorld} {content : CString}

theorem content_of_present (present : world.preload = some content) :
    world.content = content := by
  rw [InstallWorld.content, present]
  rfl

theorem content_of_missing (missing : world.preload = none) :
    world.content = [] := by
  rw [InstallWorld.content, missing]
  rfl

/-- Without NUL bytes `grep` reads the lines of the file. -/
theorem grepLines_of_noNul (noNul : 0 ∉ content) :
    grepLines content = lines newline content := by
  have same :
      (content.map fun byte => if byte = 0 then newline else byte) =
        content := by
    refine (List.map_congr_left ?_).trans (List.map_id content)
    intro byte member
    exact if_neg fun isNul : byte = 0 => noNul (isNul ▸ member)
  rw [grepLines, same]

theorem grepPutsOut_of_noNul (noNul : 0 ∉ content) (userland : Userland)
    (lib : CString) :
    grepPutsOut userland lib content =
      (lines newline content).filter fun line =>
        userland.isText line && decide (line ≠ lib) := by
  have textual : content.contains 0 = false := by
    rw [List.contains_eq_mem, decide_eq_false noNul]
  rw [grepPutsOut, textual, if_neg Bool.false_ne_true, grepFxv,
    grepLines_of_noNul noNul, List.filter_filter]

theorem grepPutsOut_of_nul (nul : 0 ∈ content) (userland : Userland)
    (lib : CString) :
    grepPutsOut userland lib content = [] := by
  rw [grepPutsOut, List.contains_eq_mem, decide_eq_true nul, if_pos rfl]

theorem run_ensurePreload (noMkdir : failures.mkdir = none)
    (noTouch : failures.touch = none) (world : InstallWorld) :
    (ensurePreload failures).run world =
      .ok () { world with preload := some world.content } := by
  rw [ensurePreload, noMkdir, run_bind_of_ok (run_must_none id world),
    noTouch, run_must_none]
  rfl

/-- A status that `grep` does not have is a failure to filter. -/
theorem not_passes {failure : Failure} (notOne : failure.status ≠ 1) :
    ¬ (failure.status = 0 ∨ failure.status = 1) := by
  intro passes
  rcases passes with zero | one
  · exact failure.nonzero zero
  · exact notOne one

/-- The status of a filter that nothing has kept from its work. -/
def filteredStatus (lib content : CString) : Nat :=
  if grepFxv lib content = [] then 1 else 0

theorem filteredStatus_passes (lib content : CString) :
    filteredStatus lib content = 0 ∨ filteredStatus lib content = 1 := by
  rw [filteredStatus]
  split
  · exact Or.inr rfl
  · exact Or.inl rfl

theorem run_filterPreload (noCreate : failures.createTmp = none)
    (noFilter : failures.filter = none)
    (present : world.preload = some content) :
    (filterPreload failures settings).run world =
      .ok (filteredStatus settings.lib content)
        { world with
          tmp :=
            some
              (endLines newline
                (grepPutsOut settings.userland settings.lib content)) } := by
  rw [filterPreload, noCreate]
  simp only [EStateM.run_bind, EStateM.run_get, run_attempt, noFilter,
    Option.map_none, Option.getD_none, EStateM.run_pure, putOut,
    content_of_present present, present, ne_eq, not_true_eq_false, if_false,
    reduceCtorEq, filteredStatus]

theorem run_filterPreload_of_createTmp {failure : Failure}
    (fails : failures.createTmp = some failure) (world : InstallWorld) :
    (filterPreload failures settings).run world =
      .ok failure.status world := by
  rw [filterPreload, fails]
  rfl

theorem run_filterPreload_of_filter (noCreate : failures.createTmp = none)
    {failure : Failure} (fails : failures.filter = some failure)
    (settings : InstallSettings) (world : InstallWorld) :
    ∃ after,
      (filterPreload failures settings).run world =
        .ok failure.status after := by
  rw [filterPreload, noCreate]
  simp only [EStateM.run_bind, EStateM.run_get, run_attempt, fails,
    Option.map_some, Option.getD_some, EStateM.run_pure, ne_eq,
    failure.nonzero, not_false_eq_true, if_true]
  exact ⟨_, rfl⟩

theorem run_copyBack_of_openTarget {failure : Failure}
    (fails : failures.openTarget = some failure) (world : InstallWorld) :
    (copyBack failures).run world = .ok failure.status world := by
  rw [copyBack, fails]
  rfl

theorem run_copyBack_of_missing (noOpen : failures.openTarget = none)
    (missing : world.tmp = none) :
    (copyBack failures).run world =
      .ok 1 { world with preload := some [] } := by
  rw [copyBack, noOpen]
  simp only [EStateM.run_bind, EStateM.run_get, EStateM.run_modify,
    missing, if_true, EStateM.run_pure]

theorem run_copyBack (noOpen : failures.openTarget = none)
    {source : CString} (present : world.tmp = some source) :
    (copyBack failures).run world =
      .ok ((failures.copy.map Failure.status).getD 0)
        { world with preload := some (putOut failures.copy source) } := by
  rw [copyBack, noOpen]
  simp only [EStateM.run_bind, EStateM.run_get, EStateM.run_modify,
    present, reduceCtorEq, if_false, run_attempt, Option.getD_some]

end Runs

end RunpodShim

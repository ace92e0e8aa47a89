import Mathlib.Data.Fintype.Card
import RunpodShim.Behaviour.GlobalActivation
import RunpodShim.Library.StepRuns

/-!
# Enabling at the same time

Any number of `runpod-shim-install-global enable` run at once on one preload
file.  Each is a sequence of commands, and each command is one step; a command
that fails may have put out a part of what it writes.
-/

namespace RunpodShim

open ShellScript StepRuns TextLines Words

/-! ## The commands as steps -/

/-- The command that a run of the script is at. -/
inductive EnablePhase where
  | mkdir
  | touch
  /-- `grep` in `has_lib` -/
  | search
  /-- `[ -s "$preload" ]` -/
  | size
  | tail
  /-- `printf '\n'` -/
  | newline
  /-- `printf '%s\n' "$lib"` -/
  | entry
  | report
  | exited (status : Nat)
deriving DecidableEq, Repr

/-- The command after one that ends the script when it fails. -/
def EnablePhase.after (failure : Option Failure) (next : EnablePhase) :
    EnablePhase :=
  match failure with
  | none => next
  | some failure => .exited failure.status

/-- `printf ... >>"$preload"`. -/
def appendTo (failure : Option Failure) (bytes : CString)
    (file : Option CString) : Option CString :=
  some (file.getD [] ++ putOut failure bytes)

section Commands

variable (failures : InstallFailures) (settings : InstallSettings)

/-- One command of the `enable` branch, with the file as the command finds
it. -/
def enableStep (file : Option CString) :
    EnablePhase → Option CString × EnablePhase
  | .mkdir => (file, .after failures.mkdir .touch)
  | .touch =>
      (if failures.touch.isSome ∧ failures.touchCreates = false then file
        else some (file.getD []),
        .after failures.touch .search)
  | .search =>
      let status :=
        grepFx failures settings
          { preload := file, tmp := none, stdout := [], stderr := [] }
      (file,
        if status = 0 then .report
        else if status = 1 then .size
        else .exited status)
  | .size => (file, if file.getD [] = [] then .entry else .tail)
  | .tail =>
      let lastChar :=
        commandSubstitution
          ((file.getD []).drop ((file.getD []).length - 1))
      (file,
        .after failures.tail (if lastChar = [] then .entry else .newline))
  | .newline =>
      (appendTo failures.newline [newline] file,
        .after failures.newline .entry)
  | .entry =>
      (appendTo failures.entry (settings.lib ++ [newline]) file,
        .after failures.entry .report)
  | .report => (file, .after failures.report (.exited 0))
  | .exited status => (file, .exited status)

/-- So many commands of one run, when no other one comes in between. -/
def enableAlone : Nat → Option CString × EnablePhase →
    Option CString × EnablePhase
  | 0, current => current
  | rounds + 1, current =>
      enableAlone rounds (enableStep failures settings current.1 current.2)

end Commands

/-! ## Alone the commands are the script -/

section Alone

variable {failures : InstallFailures} {settings : InstallSettings}

variable {world between : InstallWorld} {phase next : EnablePhase}

/-- From this command on a run does what the piece of the script does. -/
def Follows (failures : InstallFailures) (settings : InstallSettings)
    (phase : EnablePhase) (script : Script InstallWorld Unit)
    (world : InstallWorld) : Prop :=
  ∃ rounds,
    enableAlone failures settings rounds (world.preload, phase) =
      ((worldAfter script world).preload, .exited (exitStatus script world))

theorem Follows.step {script rest : Script InstallWorld Unit}
    (follows : Follows failures settings next rest between)
    (taken :
      enableStep failures settings world.preload phase =
        (between.preload, next))
    (ran : script.run world = rest.run between) :
    Follows failures settings phase script world := by
  obtain ⟨rounds, done⟩ := follows
  refine ⟨rounds + 1, ?_⟩
  rw [enableAlone, taken, done]
  simp only [worldAfter, exitStatus, ran]

/-- A command that must work, and what comes after it. -/
theorem Follows.must {failure : Option Failure}
    {effect : InstallWorld → InstallWorld}
    {rest : Unit → Script InstallWorld Unit}
    (follows : Follows failures settings next (rest ()) (effect world))
    (taken :
      enableStep failures settings world.preload phase =
        ((effect world).preload, .after failure next)) :
    Follows failures settings phase
      (ShellScript.must failure effect >>= rest) world := by
  cases failure with
  | none =>
      exact
        follows.step taken (run_bind_of_ok (run_must_none effect world))
  | some failure =>
      have ended :
          (ShellScript.must (some failure) effect >>= rest).run world =
            .error failure.status (effect world) :=
        run_bind_of_error (run_must_some failure effect world)
      refine ⟨1, ?_⟩
      rw [enableAlone, taken, worldAfter_of_error ended,
        exitStatus_of_error ended]
      rfl

theorem follows_report (line : CString) :
    Follows failures settings .report (echo failures settings line)
      world := by
  have sameFile :
      (if failures.report.isSome then world
        else
          { world with
            stdout :=
              world.stdout ++ [settings.userland.echo.out line] }).preload =
        world.preload := by
    split
    · rfl
    · rfl
  have ended :
      Follows failures settings (.exited 0) (pure ())
        (if failures.report.isSome then world
        else
          { world with
            stdout :=
              world.stdout ++ [settings.userland.echo.out line] }) :=
    ⟨0, rfl⟩
  rw [echo, ← bind_pure (ShellScript.must _ _)]
  refine Follows.must ended ?_
  rw [sameFile]
  rfl

theorem follows_entry (line : CString) :
    Follows failures settings .entry
      (appendPreload failures.entry (settings.lib ++ [newline]) >>= fun _ =>
        echo failures settings line)
      world :=
  Follows.must (follows_report line) rfl

theorem follows_newline (line : CString) :
    Follows failures settings .newline
      (appendPreload failures.newline [newline] >>= fun _ =>
        appendPreload failures.entry (settings.lib ++ [newline]) >>= fun _ =>
          echo failures settings line)
      world :=
  Follows.must (follows_entry line) rfl

/-- What `append_lib` does with the last byte of a file. -/
def endAfter (failures : InstallFailures) (lastChar : CString) :
    Script InstallWorld Unit :=
  if lastChar = [] then pure ()
  else appendPreload failures.newline [newline]

theorem follows_tail (world : InstallWorld) (line : CString) :
    Follows failures settings .tail
      (ShellScript.must failures.tail id >>= fun _ =>
        endAfter failures
            (commandSubstitution
              (world.content.drop (world.content.length - 1))) >>= fun _ =>
          appendPreload failures.entry (settings.lib ++ [newline]) >>=
            fun _ => echo failures settings line)
      world := by
  by_cases ended :
      commandSubstitution
        (world.content.drop (world.content.length - 1)) = []
  · rw [endAfter, if_pos ended]
    refine Follows.must (follows_entry line) ?_
    rw [enableStep, ← InstallWorld.content, if_pos ended]
    rfl
  · rw [endAfter, if_neg ended]
    refine Follows.must (follows_newline line) ?_
    rw [enableStep, ← InstallWorld.content, if_neg ended]
    rfl

theorem follows_size (line : CString) :
    Follows failures settings .size
      (appendLib failures settings >>= fun _ => echo failures settings line)
      world := by
  rw [appendLib, bind_assoc]
  by_cases empty : world.content = []
  · have skipped : (endLastLine failures).run world = .ok () world := by
      rw [endLastLine, EStateM.run_bind, EStateM.run_get]
      simp only [empty, if_true, EStateM.run_pure]
    refine Follows.step (follows_entry line) ?_ (run_bind_of_ok skipped)
    exact congrArg (Prod.mk world.preload) (if_pos empty)
  · have looked :
        (endLastLine failures).run world =
          (ShellScript.must failures.tail id >>= fun _ =>
            endAfter failures
              (commandSubstitution
                (world.content.drop
                  (world.content.length - 1)))).run world := by
      rw [endLastLine, EStateM.run_bind, EStateM.run_get]
      simp only [empty, if_false]
      rfl
    refine Follows.step (follows_tail world line) ?_ ?_
    · exact congrArg (Prod.mk world.preload) (if_neg empty)
    · rw [EStateM.run_bind, looked, ← EStateM.run_bind, bind_assoc]

theorem preload_warned (line : CString) :
    (warned failures settings line world).preload = world.preload := by
  rw [warned]
  split
  · rfl
  · rfl

theorem follows_search (line : CString) :
    Follows failures settings .search
      (ensureLib failures settings >>= fun _ => echo failures settings line)
      world := by
  have sameStatus :
      grepFx failures settings
          { preload := world.preload, tmp := none, stdout := [],
            stderr := [] } =
        grepFx failures settings world :=
    rfl
  rw [ensureLib, bind_assoc]
  by_cases found : grepFx failures settings world = 0
  · have ran : (hasLib failures settings).run world = .ok true world := by
      rw [hasLib, EStateM.run_bind, EStateM.run_get]
      simp only [found, if_true, EStateM.run_pure]
    refine Follows.step (follows_report line) ?_ (run_bind_of_ok ran)
    rw [enableStep, sameStatus, if_pos found]
  · by_cases absent : grepFx failures settings world = 1
    · have ran :
          (hasLib failures settings).run world = .ok false world := by
        rw [hasLib, EStateM.run_bind, EStateM.run_get]
        simp only [absent, Nat.one_ne_zero, if_false, if_true,
          EStateM.run_pure]
      refine Follows.step (follows_size line) ?_ (run_bind_of_ok ran)
      rw [enableStep, sameStatus, if_neg found, if_pos absent]
    · have ran :
          (hasLib failures settings).run world =
            .error (grepFx failures settings world)
              (warned failures settings
                (cstr "failed to read " ++ settings.preload) world) := by
        rw [hasLib, EStateM.run_bind, EStateM.run_get]
        simp only [found, absent, if_false, EStateM.run_bind, run_attempt,
          run_exit]
      refine ⟨1, ?_⟩
      rw [enableAlone, enableStep, sameStatus, if_neg found, if_neg absent,
        worldAfter_of_error (run_bind_of_error ran),
        exitStatus_of_error (run_bind_of_error ran), preload_warned]
      rfl

/-- A run that no other one comes in between of leaves the file that the script
leaves, and exits with the same status, whatever fails. -/
theorem follows_installEnable (failures : InstallFailures)
    (settings : InstallSettings) (world : InstallWorld) :
    Follows failures settings .mkdir (installEnable failures settings)
      world := by
  rw [installEnable, ensurePreload, bind_assoc]
  refine Follows.must ?_ rfl
  refine Follows.must (follows_search _) ?_
  rw [enableStep, apply_ite InstallWorld.preload]
  rfl

end Alone

/-! ## What a command can do -/

/-- The run has put its entry out, has found one, or is over. -/
def EnablePhase.Past : EnablePhase → Prop
  | .report | .exited _ => True
  | _ => False

/-- The run has not failed up to its report. -/
def EnablePhase.Succeeds (phase : EnablePhase) : Prop :=
  phase = .report ∨ phase = .exited 0

theorem EnablePhase.Succeeds.past {phase : EnablePhase}
    (succeeds : phase.Succeeds) : phase.Past := by
  rcases succeeds with rfl | rfl
  · trivial
  · trivial

theorem not_succeeds_exited {status : Nat} (nonzero : status ≠ 0) :
    ¬ (EnablePhase.exited status).Succeeds := by
  intro succeeds
  rcases succeeds with isReport | isExit
  · cases isReport
  · exact nonzero (EnablePhase.exited.inj isExit)

/-- The next line starts at the end of the text. -/
def IsEnded (content : CString) : Prop :=
  content = [] ∨ content.getLast? = some newline

/-- From one phase to the next, with the bytes that the command puts at the end
of the file. -/
inductive EnableMoves (lib : CString) (failures : InstallFailures)
    (content : CString) : EnablePhase → CString → EnablePhase → Prop
  | goesOn {phase next : EnablePhase} :
      ¬ phase.Past → ¬ next.Past → next ≠ .entry →
        EnableMoves lib failures content phase [] next
  | givesUp {phase : EnablePhase} {status : Nat} :
      status ≠ 0 → EnableMoves lib failures content phase [] (.exited status)
  | finds :
      lib ∈ lines newline content →
        EnableMoves lib failures content .search [] .report
  | skipsNewline {phase : EnablePhase} :
      ¬ phase.Past → IsEnded content →
        EnableMoves lib failures content phase [] .entry
  | endsLine {next : EnablePhase} :
      (next = .entry ∨ ∃ status, status ≠ 0 ∧ next = .exited status) →
        EnableMoves lib failures content .newline [newline] next
  | writes :
      EnableMoves lib failures content .entry (lib ++ [newline]) .report
  | stops {failure : Failure} :
      failures.entry = some failure →
        EnableMoves lib failures content .entry
          ((lib ++ [newline]).take failure.written)
          (.exited failure.status)
  | reports : EnableMoves lib failures content .report [] (.exited 0)

section Moves

variable {failures : InstallFailures} {settings : InstallSettings}
variable {file : Option CString} {phase : EnablePhase}

/-- A command that must work and writes nothing. -/
theorem moves_after {lib content : CString} {failure : Option Failure}
    {next : EnablePhase} (early : ¬ phase.Past) (later : ¬ next.Past)
    (notEntry : next ≠ .entry) :
    EnableMoves lib failures content phase [] (.after failure next) := by
  cases failure with
  | none =>
      exact .goesOn early later notEntry
  | some failure =>
      exact .givesUp failure.nonzero

/-- `grep` finds the library only where it is a line. -/
theorem mem_lines_of_grepFx {world : InstallWorld}
    (noNul : 0 ∉ world.content)
    (found : grepFx failures settings world = 0) :
    settings.lib ∈ lines newline world.content := by
  rw [grepFx] at found
  split at found
  · rename_i failure _
    exact absurd found failure.nonzero
  · split at found
    · cases found
    · rw [grepLines_of_noNul noNul] at found
      split at found
      · assumption
      · cases found

/-- The last byte says whether the next line starts there. -/
theorem isEnded_of_commandSubstitution {content : CString}
    (noNul : 0 ∉ content)
    (last :
      commandSubstitution (content.drop (content.length - 1)) = []) :
    IsEnded content := by
  by_cases empty : content = []
  · exact Or.inl empty
  · exact
      Or.inr ((commandSubstitution_last_eq_nil_iff noNul empty).mp last)

theorem enableStep_moves (noNul : 0 ∉ file.getD [])
    (running : ∀ status, phase ≠ .exited status) :
    ∃ written,
      (enableStep failures settings file phase).1.getD [] =
          file.getD [] ++ written ∧
        EnableMoves settings.lib failures (file.getD []) phase written
          (enableStep failures settings file phase).2 := by
  cases phase with
  | mkdir =>
      refine ⟨[], (List.append_nil _).symm, ?_⟩
      exact moves_after (fun past => past) (fun past => past) nofun
  | touch =>
      refine ⟨[], ?_, ?_⟩
      · rw [enableStep, List.append_nil]
        split
        · rfl
        · rfl
      · exact moves_after (fun past => past) (fun past => past) nofun
  | search =>
      refine ⟨[], (List.append_nil _).symm, ?_⟩
      simp only [enableStep]
      split
      · rename_i found
        have isLine : settings.lib ∈ lines newline (file.getD []) :=
          mem_lines_of_grepFx
            (show 0 ∉ InstallWorld.content ⟨file, none, [], []⟩ from noNul)
            found
        exact .finds isLine
      · rename_i notFound
        split
        · exact .goesOn (fun past => past) (fun past => past) nofun
        · exact .givesUp notFound
  | size =>
      refine ⟨[], (List.append_nil _).symm, ?_⟩
      rw [enableStep]
      split
      · rename_i empty
        exact .skipsNewline (fun past => past) (Or.inl empty)
      · exact .goesOn (fun past => past) (fun past => past) nofun
  | tail =>
      refine ⟨[], (List.append_nil _).symm, ?_⟩
      simp only [enableStep]
      split
      · rename_i ended
        cases failures.tail with
        | none =>
            exact
              .skipsNewline (fun past => past)
                (isEnded_of_commandSubstitution noNul ended)
        | some failure =>
            exact .givesUp failure.nonzero
      · exact moves_after (fun past => past) (fun past => past) nofun
  | newline =>
      refine ⟨putOut failures.newline [newline], rfl, ?_⟩
      rw [enableStep]
      cases failures.newline with
      | none =>
          exact .endsLine (Or.inl rfl)
      | some failure =>
          rcases Nat.eq_zero_or_pos failure.written with nothing | all
          · rw [putOut, nothing, List.take_zero]
            exact .givesUp failure.nonzero
          · rw [putOut, List.take_of_length_le all]
            exact .endsLine (Or.inr ⟨failure.status, failure.nonzero, rfl⟩)
  | entry =>
      refine ⟨putOut failures.entry (settings.lib ++ [newline]), rfl, ?_⟩
      cases fails : failures.entry with
      | none =>
          rw [enableStep, fails]
          exact .writes
      | some failure =>
          rw [enableStep, fails]
          exact .stops fails
  | report =>
      refine ⟨[], (List.append_nil _).symm, ?_⟩
      cases fails : failures.report with
      | none =>
          rw [enableStep, fails]
          exact .reports
      | some failure =>
          rw [enableStep, fails]
          exact .givesUp failure.nonzero
  | exited status =>
      exact absurd rfl (running status)

end Moves

/-! ## Any number of runs -/

structure EnableMachine (count : Nat) where
  file : Option CString
  phases : Fin count → EnablePhase

section Machine

variable {count : Nat}

def EnableMachine.start (count : Nat) (file : Option CString) :
    EnableMachine count where
  file := file
  phases := fun _ => .mkdir

/-- The next command of one of the runs. -/
def EnableMachine.step (failures : Fin count → InstallFailures)
    (settings : InstallSettings) (machine : EnableMachine count)
    (process : Fin count) : Option (EnableMachine count) :=
  match machine.phases process with
  | .exited _ => none
  | phase =>
      let next :=
        enableStep (failures process) settings machine.file phase
      some
        { file := next.1
          phases := Function.update machine.phases process next.2 }

variable {failures : Fin count → InstallFailures}
variable {settings : InstallSettings} {machine after : EnableMachine count}
variable {process : Fin count}

/-- One run moves, and the others stay where they are. -/
theorem EnableMachine.step_moves (noNul : 0 ∉ machine.file.getD [])
    (taken : machine.step failures settings process = some after) :
    ∃ written next,
      after.file.getD [] = machine.file.getD [] ++ written ∧
        after.phases = Function.update machine.phases process next ∧
        EnableMoves settings.lib (failures process)
          (machine.file.getD []) (machine.phases process) written next := by
  rw [step] at taken
  split at taken
  · cases taken
  · rename_i running
    cases taken
    obtain ⟨written, appended, moves⟩ := enableStep_moves noNul running
    exact ⟨written, _, appended, rfl, moves⟩

theorem EnableMoves.mem_written {lib content written : CString}
    {failures : InstallFailures} {phase next : EnablePhase}
    (moves : EnableMoves lib failures content phase written next)
    {byte : UInt8} (member : byte ∈ written) :
    byte = newline ∨ byte ∈ lib := by
  have ofEntry (among : byte ∈ lib ++ [newline]) :
      byte = newline ∨ byte ∈ lib := by
    rw [List.mem_append, List.mem_singleton] at among
    exact among.symm
  cases moves with
  | goesOn | givesUp | finds | skipsNewline | reports =>
      cases member
  | endsLine =>
      exact Or.inl (List.mem_singleton.mp member)
  | writes =>
      exact ofEntry member
  | stops =>
      exact ofEntry (List.mem_of_mem_take member)

/-- No run puts a NUL byte into the file. -/
theorem EnableMachine.step_noNul (libNoNul : 0 ∉ settings.lib)
    (noNul : 0 ∉ machine.file.getD [])
    (taken : machine.step failures settings process = some after) :
    0 ∉ after.file.getD [] := by
  obtain ⟨written, next, appended, _, moves⟩ := step_moves noNul taken
  rw [appended, List.mem_append]
  intro either
  rcases either with old | new
  · exact noNul old
  · rcases moves.mem_written new with isNewline | inLib
    · exact absurd isNewline (by decide)
    · exact libNoNul inLib

/-! ## No entry is lost -/

/-- What stands behind a text does not go on with its last line. -/
def StartsOwnLine (before extra : CString) : Prop :=
  IsEnded before ∨ extra.head? = some newline

section Kept

variable {before extra : CString}

theorem StartsOwnLine.append (own : StartsOwnLine before extra)
    (written : CString) :
    StartsOwnLine before (extra ++ written) := by
  rcases own with ended | starts
  · exact Or.inl ended
  · obtain ⟨rest, rfl⟩ := List.head?_eq_some_iff.mp starts
    exact Or.inr rfl

theorem startsOwnLine_newline
    (own : extra = [] ∨ StartsOwnLine before extra) :
    StartsOwnLine before (extra ++ [newline]) := by
  rcases own with empty | own
  · rw [empty]
    exact Or.inr rfl
  · exact own.append [newline]

/-- Behind an ended file starts a line. -/
theorem startsOwnLine_of_isEnded
    (own : extra = [] ∨ StartsOwnLine before extra)
    (ended : IsEnded (before ++ extra)) :
    StartsOwnLine before extra := by
  rcases own with empty | own
  · rw [empty, List.append_nil] at ended
    exact Or.inl ended
  · exact own

theorem preloadEntries_append
    (own : extra = [] ∨ StartsOwnLine before extra) :
    preloadEntries (some (before ++ extra)) =
      preloadEntries (some before) ++ preloadEntries (some extra) := by
  rcases own with empty | (empty | ended) | starts
  · rw [empty, List.append_nil]
    exact (List.append_nil _).symm
  · exact words_append isWhiteSpace_newline (Or.inl empty)
  · exact words_append isWhiteSpace_newline (Or.inr (Or.inl ended))
  · exact words_append isWhiteSpace_newline (Or.inr (Or.inr starts))

/-- The file starts with what was there, and no run is about to write into its
last line. -/
def KeepsLines (before : CString) (machine : EnableMachine count) : Prop :=
  ∃ extra, machine.file.getD [] = before ++ extra ∧
    (extra = [] ∨ StartsOwnLine before extra) ∧
    ∀ process, machine.phases process = .entry → StartsOwnLine before extra

theorem EnableMoves.written_cases {lib content written : CString}
    {failures : InstallFailures} {phase next : EnablePhase}
    (moves : EnableMoves lib failures content phase written next) :
    written = [] ∨ written = [newline] ∨ phase = .entry := by
  cases moves with
  | goesOn | givesUp | finds | skipsNewline | reports =>
      exact Or.inl rfl
  | endsLine =>
      exact Or.inr (Or.inl rfl)
  | writes | stops =>
      exact Or.inr (Or.inr rfl)

theorem EnableMoves.to_entry {lib content written : CString}
    {failures : InstallFailures} {phase : EnablePhase}
    (moves : EnableMoves lib failures content phase written .entry) :
    written = [] ∧ IsEnded content ∨ written = [newline] := by
  cases moves with
  | goesOn _ _ notEntry =>
      exact absurd rfl notEntry
  | skipsNewline _ ended =>
      exact Or.inl ⟨rfl, ended⟩
  | endsLine =>
      exact Or.inr rfl

theorem KeepsLines.step (keeps : KeepsLines before machine)
    (noNul : 0 ∉ machine.file.getD [])
    (taken : machine.step failures settings process = some after) :
    KeepsLines before after := by
  obtain ⟨extra, content, own, atEntry⟩ := keeps
  obtain ⟨written, next, appended, phases, moves⟩ :=
    EnableMachine.step_moves noNul taken
  refine ⟨extra ++ written, ?_, ?_, ?_⟩
  · rw [appended, content, List.append_assoc]
  · rcases moves.written_cases with nothing | ends | writes
    · rw [nothing, List.append_nil]
      exact own
    · rw [ends]
      exact Or.inr (startsOwnLine_newline own)
    · exact Or.inr ((atEntry process writes).append written)
  · intro other isAt
    rw [phases] at isAt
    by_cases same : other = process
    · rw [same, Function.update_self] at isAt
      rw [isAt] at moves
      rcases moves.to_entry with ⟨nothing, ended⟩ | ends
      · rw [content] at ended
        rw [nothing, List.append_nil]
        exact startsOwnLine_of_isEnded own ended
      · rw [ends]
        exact startsOwnLine_newline own
    · rw [Function.update_of_ne same] at isAt
      exact (atEntry other isAt).append written

theorem keepsLines_start (file : Option CString) :
    KeepsLines (file.getD []) (EnableMachine.start count file) :=
  ⟨[], (List.append_nil _).symm, Or.inl rfl, nofun⟩

theorem KeepsLines.prefix_preloadEntries
    (keeps : KeepsLines before machine) :
    preloadEntries (some before) <+: preloadEntries machine.file := by
  obtain ⟨extra, content, own, _⟩ := keeps
  rw [← preloadEntries_getD machine.file, content,
    preloadEntries_append own]
  exact List.prefix_append _ _

end Kept

/-! ## Only copies of the library are added -/

/-- A write of the entry that fails puts out the whole line or nothing. -/
def WholeLine (lib : CString) (failures : InstallFailures) : Prop :=
  ∀ failure, failures.entry = some failure →
    failure.written = 0 ∨ lib.length < failure.written

section Copies

variable {library : LibraryPath} {path : CString} {userland : Userland}
variable {failing : InstallFailures} {content written : CString}
variable {phase next : EnablePhase}

theorem isEnded_append_newline (text : CString) :
    IsEnded (text ++ [newline]) :=
  Or.inr List.getLast?_concat

theorem preloadEntries_append_newline (content : CString) :
    preloadEntries (some (content ++ [newline])) =
      preloadEntries (some content) := by
  rw [preloadEntries_append (Or.inr (Or.inr rfl))]
  exact List.append_nil _

theorem preloadEntries_append_library (library : LibraryPath)
    (ended : IsEnded content) :
    preloadEntries (some (content ++ (library.bytes ++ [newline]))) =
      preloadEntries (some content) ++ [library.bytes] := by
  have entry : preloadEntries (some library.bytes) = [library.bytes] :=
    words_library library
  rw [preloadEntries_append (Or.inr (Or.inl ended)),
    preloadEntries_append_newline, entry]

/-- What is put out is nothing, the end of a line or an entry. -/
theorem EnableMoves.whole_cases {lib : CString}
    (moves : EnableMoves lib failing content phase written next)
    (whole : WholeLine lib failing) :
    written = [] ∨ written = [newline] ∨
      phase = .entry ∧ next.Past ∧ written = lib ++ [newline] := by
  cases moves with
  | goesOn | givesUp | finds | skipsNewline | reports =>
      exact Or.inl rfl
  | endsLine =>
      exact Or.inr (Or.inl rfl)
  | writes =>
      exact Or.inr (Or.inr ⟨rfl, trivial, rfl⟩)
  | @stops failure fails =>
      rcases whole failure fails with nothing | all
      · rw [nothing, List.take_zero]
        exact Or.inl rfl
      · refine Or.inr (Or.inr ⟨rfl, trivial, ?_⟩)
        rw [List.take_of_length_le]
        rw [List.length_append, List.length_singleton]
        exact all

/-- An ended file stays so, and a run comes to its entry at an ended file. -/
theorem EnableMoves.isEnded {lib : CString}
    (moves : EnableMoves lib failing content phase written next)
    (whole : WholeLine lib failing)
    (ended : IsEnded content ∨ next = .entry) :
    IsEnded (content ++ written) := by
  rcases moves.whole_cases whole with nothing | ends | ⟨_, _, writes⟩
  · rcases ended with ended | comes
    · rw [nothing, List.append_nil]
      exact ended
    · rw [comes] at moves
      rcases moves.to_entry with ⟨_, ended⟩ | ends
      · rw [nothing, List.append_nil]
        exact ended
      · rw [ends]
        exact isEnded_append_newline content
  · rw [ends]
    exact isEnded_append_newline content
  · rw [writes, ← List.append_assoc]
    exact isEnded_append_newline (content ++ lib)

/-- The entries after a command: those before, or a copy more. -/
theorem EnableMoves.entries_cases
    (moves :
      EnableMoves library.bytes failing content phase written next)
    (whole : WholeLine library.bytes failing)
    (ended : phase = .entry → IsEnded content) :
    preloadEntries (some (content ++ written)) =
        preloadEntries (some content) ∨
      (phase = .entry ∧ next.Past) ∧
        preloadEntries (some (content ++ written)) =
          preloadEntries (some content) ++ [library.bytes] := by
  rcases moves.whole_cases whole with
    nothing | ends | ⟨isEntry, past, writes⟩
  · rw [nothing, List.append_nil]
    exact Or.inl rfl
  · rw [ends]
    exact Or.inl (preloadEntries_append_newline content)
  · rw [writes]
    exact
      Or.inr
        ⟨⟨isEntry, past⟩,
          preloadEntries_append_library library (ended isEntry)⟩

/-- A run that has come to its report has found the library or put it there. -/
theorem EnableMoves.reported
    (moves :
      EnableMoves library.bytes failing content phase written next)
    (ended : phase = .entry → IsEnded content)
    (succeeds : next.Succeeds) :
    phase = .report ∧ written = [] ∨
      library.bytes ∈ preloadEntries (some (content ++ written)) := by
  cases moves with
  | goesOn _ notPast =>
      exact absurd succeeds.past notPast
  | givesUp nonzero =>
      exact absurd succeeds (not_succeeds_exited nonzero)
  | finds isLine =>
      rw [List.append_nil]
      exact Or.inr (mem_preloadEntries_of_mem_lines library isLine)
  | skipsNewline =>
      exact succeeds.past.elim
  | endsLine ends =>
      rcases ends with rfl | ⟨status, nonzero, rfl⟩
      · exact succeeds.past.elim
      · exact absurd succeeds (not_succeeds_exited nonzero)
  | writes =>
      rw [preloadEntries_append_library library (ended rfl)]
      exact Or.inr (List.mem_append_right _ (List.mem_singleton_self _))
  | @stops failure =>
      exact absurd succeeds (not_succeeds_exited failure.nonzero)
  | reports =>
      exact Or.inl ⟨rfl, rfl⟩

/-- What holds as long as no entry stops in its middle. -/
structure AddsCopies (lib : CString) (before : Option CString)
    (machine : EnableMachine count) : Prop where
  ended : ∀ process, machine.phases process = .entry →
    IsEnded (machine.file.getD [])
  /-- each copy is the one of a run of its own -/
  added : ∃ writers : List (Fin count), writers.Nodup ∧
    (∀ writer, writer ∈ writers → (machine.phases writer).Past) ∧
    preloadEntries machine.file =
      preloadEntries before ++ List.replicate writers.length lib
  reported : ∀ process, (machine.phases process).Succeeds →
    lib ∈ preloadEntries machine.file

theorem addsCopies_start (lib : CString) (before : Option CString) :
    AddsCopies lib before (EnableMachine.start count before) where
  ended := nofun
  added := ⟨[], List.nodup_nil, nofun, (List.append_nil _).symm⟩
  reported := fun _ succeeds => succeeds.past.elim

/-- A run that was past its entry is still so after any step. -/
theorem EnableMoves.past {lib : CString}
    (moves : EnableMoves lib failing content phase written next)
    (past : phase.Past) : next.Past := by
  cases moves with
  | goesOn notPast | skipsNewline notPast =>
      exact absurd past notPast
  | givesUp | finds | writes | stops | reports =>
      trivial
  | endsLine =>
      exact past.elim

theorem AddsCopies.step {before : Option CString}
    (adds : AddsCopies library.bytes before machine)
    (noNul : 0 ∉ machine.file.getD [])
    (whole : ∀ process, WholeLine library.bytes (failures process))
    (taken :
      machine.step failures (library.settings path userland) process =
        some after) :
    AddsCopies library.bytes before after := by
  obtain ⟨written, next, appended, phases, moves⟩ :=
    EnableMachine.step_moves noNul taken
  have wholeHere := whole process
  have here : ∀ other, other = process → after.phases other = next := by
    intro other same
    rw [phases, same, Function.update_self]
  have elsewhere :
      ∀ other, other ≠ process →
        after.phases other = machine.phases other := by
    intro other differs
    rw [phases, Function.update_of_ne differs]
  have entries :
      preloadEntries after.file =
        preloadEntries (some (machine.file.getD [] ++ written)) := by
    rw [← preloadEntries_getD after.file, appended]
  have cases :=
    moves.entries_cases wholeHere (adds.ended process)
  have stays :
      ∀ entry, entry ∈ preloadEntries machine.file →
        entry ∈ preloadEntries after.file := by
    intro entry member
    rw [entries]
    rcases cases with same | ⟨_, more⟩
    · rw [same]
      exact member
    · rw [more]
      exact List.mem_append_left _ member
  obtain ⟨writers, distinct, past, added⟩ := adds.added
  have stillPast :
      ∀ writer, writer ∈ writers → (after.phases writer).Past := by
    intro writer member
    by_cases same : writer = process
    · rw [here writer same]
      exact moves.past (same ▸ past writer member)
    · rw [elsewhere writer same]
      exact past writer member
  refine ⟨?_, ?_, ?_⟩
  · intro other isAt
    rw [appended]
    by_cases same : other = process
    · rw [here other same] at isAt
      exact moves.isEnded wholeHere (Or.inr isAt)
    · rw [elsewhere other same] at isAt
      exact moves.isEnded wholeHere (Or.inl (adds.ended other isAt))
  · rcases cases with same | ⟨⟨isEntry, nextPast⟩, more⟩
    · refine ⟨writers, distinct, stillPast, ?_⟩
      rw [entries, same]
      exact added
    · have new : process ∉ writers := by
        intro member
        have wasPast := past process member
        rw [isEntry] at wasPast
        exact wasPast
      refine
        ⟨process :: writers, List.nodup_cons.mpr ⟨new, distinct⟩, ?_, ?_⟩
      · intro writer member
        rcases List.mem_cons.mp member with rfl | member
        · rw [here writer rfl]
          exact nextPast
        · exact stillPast writer member
      · rw [entries, more, preloadEntries_getD, added, List.append_assoc,
          List.length_cons, List.replicate_succ']
  · intro other succeeds
    by_cases same : other = process
    · rw [here other same] at succeeds
      rcases moves.reported (adds.ended process) succeeds with
        ⟨atReport, _⟩ | listed
      · exact stays _ (adds.reported process (Or.inl atReport))
      · rw [entries]
        exact listed
    · rw [elsewhere other same] at succeeds
      exact stays _ (adds.reported other succeeds)

end Copies

end Machine

/-! ## Every interleaving -/

/-- However the commands of any number of runs come one after the other and
whichever of them fail, the loader finds every entry that it found before, and
in its place.  Where no entry stops in its middle only copies of the library
are added, at most one for each run, and the library is in the list when a run
has succeeded. -/
theorem enables_of_run {count : Nat} (library : LibraryPath)
    (path : CString) (userland : Userland)
    {failures : Fin count → InstallFailures}
    {before : Option CString} (noNul : 0 ∉ before.getD [])
    {schedule : List (Fin count)} {machine : EnableMachine count}
    (run :
      runFrom
          (EnableMachine.step failures (library.settings path userland))
          (EnableMachine.start count before) schedule =
        some machine) :
    preloadEntries before <+: preloadEntries machine.file ∧
      ((∀ process, WholeLine library.bytes (failures process)) →
        ∃ copies, copies ≤ count ∧
          preloadEntries machine.file =
            preloadEntries before ++
              List.replicate copies library.bytes ∧
          ∀ process, machine.phases process = .exited 0 →
            library.bytes ∈ preloadEntries machine.file) := by
  have textual {current next : EnableMachine count} {process : Fin count}
      (noNul : 0 ∉ current.file.getD [])
      (taken :
        current.step failures (library.settings path userland) process =
          some next) :
      0 ∉ next.file.getD [] :=
    EnableMachine.step_noNul library.noNul noNul taken
  constructor
  · have kept (current : EnableMachine count) (process : Fin count)
        (next : EnableMachine count)
        (keeps :
          0 ∉ current.file.getD [] ∧ KeepsLines (before.getD []) current)
        (taken :
          current.step failures (library.settings path userland)
              process =
            some next) :
        0 ∉ next.file.getD [] ∧ KeepsLines (before.getD []) next :=
      ⟨textual keeps.1 taken, keeps.2.step keeps.1 taken⟩
    have keeps :=
      invariant_of_every_run kept ⟨noNul, keepsLines_start before⟩ run
    exact keeps.2.prefix_preloadEntries
  · intro whole
    have kept (current : EnableMachine count) (process : Fin count)
        (next : EnableMachine count)
        (adds :
          0 ∉ current.file.getD [] ∧
            AddsCopies library.bytes before current)
        (taken :
          current.step failures (library.settings path userland)
              process =
            some next) :
        0 ∉ next.file.getD [] ∧ AddsCopies library.bytes before next :=
      ⟨textual adds.1 taken, adds.2.step adds.1 whole taken⟩
    have adds :=
      invariant_of_every_run kept
        ⟨noNul, addsCopies_start library.bytes before⟩ run
    obtain ⟨writers, distinct, _, added⟩ := adds.2.added
    have fits : writers.length ≤ count := by
      have bounded := distinct.length_le_card
      rwa [Fintype.card_fin] at bounded
    exact
      ⟨writers.length, fits, added,
        fun process exits => adds.2.reported process (Or.inr exits)⟩

def oneRun : Fin 2 :=
  ⟨0, Nat.zero_lt_two⟩

def otherRun : Fin 2 :=
  ⟨1, Nat.one_lt_two⟩

/-- Both runs look into the file before either writes. -/
def bothSearch : List (Fin 2) :=
  [oneRun, otherRun, oneRun, otherRun, oneRun, otherRun] ++
    List.replicate 3 oneRun ++ List.replicate 4 otherRun

/-- Then both put the library into the list. -/
theorem enables_bothSearch :
    ∃ machine,
      runFrom
          (EnableMachine.step (fun _ => noFailures) packagedSettings)
          (EnableMachine.start 2 none) bothSearch =
        some machine ∧
      preloadEntries machine.file =
        [packagedLibrary.bytes, packagedLibrary.bytes] ∧
      preloadEntries none <+: preloadEntries machine.file ∧
      ∃ copies, copies ≤ 2 ∧
        preloadEntries machine.file =
          preloadEntries none ++
            List.replicate copies packagedLibrary.bytes ∧
        ∀ process, machine.phases process = .exited 0 →
          packagedLibrary.bytes ∈ preloadEntries machine.file := by
  have reaches :
      (runFrom
          (EnableMachine.step (fun _ => noFailures) packagedSettings)
          (EnableMachine.start 2 none) bothSearch).map
            (fun machine => preloadEntries machine.file) =
        some [packagedLibrary.bytes, packagedLibrary.bytes] := by
    decide +kernel
  obtain ⟨machine, run, entries⟩ := Option.map_eq_some_iff.mp reaches
  have noNul : 0 ∉ (none : Option CString).getD [] :=
    List.not_mem_nil
  have enabled :=
    enables_of_run packagedLibrary packagedSettings.preload
      packagedSettings.userland noNul run
  exact
    ⟨machine, run, entries, enabled.1, enabled.2 fun _ => nofun⟩

end RunpodShim

import RunpodShim.Library.StepRuns
import RunpodShim.Library.Words
import RunpodShim.Tools.Launcher

/-!
# Launches

The arguments of the launcher as lines of a language, what a line means, and
what is left of the switches when launchers run launchers.
-/

namespace RunpodShim

open ShellScript StepRuns Words

/-! ## Lines -/

/-- An option with its argument. -/
inductive LaunchOption where
  | switch (flag : LaunchSwitch)
  | lib (path : CString)
deriving DecidableEq, Repr

namespace LaunchOption

def words : LaunchOption → List CString
  | switch flag => [flag.word]
  | lib path => [libWord, path]

def switch? : LaunchOption → Option LaunchSwitch
  | switch flag => some flag
  | lib _ => none

def path? : LaunchOption → Option CString
  | switch _ => none
  | lib path => some path

end LaunchOption

/-- A word that the launcher takes for an option, or for their end. -/
def isKnownWord (word : CString) : Bool :=
  (LaunchSwitch.ofWord word).isSome || decide (word = libWord) ||
    isHelpWord word || decide (word = endWord)

/-- What follows the options. -/
inductive LaunchEnding where
  | command (words : List CString) (plain : StartsPlain words)
  | terminated (words : List CString)
  | help (word : CString) (rest : List CString)
      (isHelp : isHelpWord word = true)
  | unknown (word : CString) (rest : List CString)
      (isOption : isOptionWord word = true)
      (unknown : isKnownWord word = false)
  | noPath

namespace LaunchEnding

def words : LaunchEnding → List CString
  | command words _ => words
  | terminated words => endWord :: words
  | help word rest _ => word :: rest
  | unknown word rest _ _ => word :: rest
  | noPath => [libWord]

end LaunchEnding

/-- The arguments of a launch. -/
structure LaunchLine where
  options : List LaunchOption
  ending : LaunchEnding

namespace LaunchLine

def words (line : LaunchLine) : List CString :=
  line.options.flatMap LaunchOption.words ++ line.ending.words

def cons (option : LaunchOption) (line : LaunchLine) : LaunchLine :=
  { line with options := option :: line.options }

theorem words_cons (option : LaunchOption) (line : LaunchLine) :
    (line.cons option).words = option.words ++ line.words := by
  simp [cons, words]

end LaunchLine

/-! ## Every list of arguments is one line -/

theorem ofWord_word (flag : LaunchSwitch) :
    LaunchSwitch.ofWord flag.word = some flag := by
  cases flag with
  | _ =>
      decide +kernel

theorem word_of_ofWord {arg : CString} {flag : LaunchSwitch}
    (found : LaunchSwitch.ofWord arg = some flag) :
    flag.word = arg := by
  simpa using List.find?_some found

theorem isOptionWord_of_isKnownWord {word : CString}
    (known : isKnownWord word = true) : isOptionWord word = true := by
  simp only [isKnownWord, isHelpWord, Bool.or_eq_true, decide_eq_true_eq,
    Option.isSome_iff_exists] at known
  rcases known with ((⟨flag, found⟩ | rfl) | rfl | rfl) | rfl
  · rw [← word_of_ofWord found]
    cases flag with
    | _ =>
        decide
  · decide
  · decide
  · decide
  · decide

/-- The line that a list of arguments is. -/
def lineOf : List CString → LaunchLine
  | [] => ⟨[], .command [] (by simp [StartsPlain])⟩
  | arg :: rest =>
      match noSwitch : LaunchSwitch.ofWord arg with
      | some flag => (lineOf rest).cons (.switch flag)
      | none =>
          if isLib : arg = libWord then
            match rest with
            | [] => ⟨[], .noPath⟩
            | path :: more => (lineOf more).cons (.lib path)
          else if isHelp : isHelpWord arg = true then
            ⟨[], .help arg rest isHelp⟩
          else if isEnd : arg = endWord then ⟨[], .terminated rest⟩
          else if isOption : isOptionWord arg = true then
            ⟨[], .unknown arg rest isOption
              (by simp [isKnownWord, noSwitch, isLib, isHelp, isEnd])⟩
          else
            ⟨[], .command (arg :: rest)
              (by
                intro word isHead
                rw [List.head?_cons, Option.some.injEq] at isHead
                rw [← isHead]
                simpa using isOption)⟩

theorem words_lineOf (args : List CString) : (lineOf args).words = args := by
  fun_induction lineOf args with
  | case1 =>
      rfl
  | case2 arg rest flag found inductionHypothesis =>
      rw [LaunchLine.words_cons, inductionHypothesis, LaunchOption.words,
        word_of_ofWord found]
      rfl
  | case3 noSwitch =>
      rfl
  | case4 path more noSwitch inductionHypothesis =>
      rw [LaunchLine.words_cons, inductionHypothesis]
      rfl
  | case5 arg rest noSwitch notLib isHelp =>
      rfl
  | case6 rest noSwitch notLib notHelp =>
      rfl
  | case7 arg rest noSwitch notLib notHelp notEnd isOption =>
      rfl
  | case8 arg rest noSwitch notLib notHelp notEnd notOption =>
      rfl

/-- A word that is no option starts the command. -/
theorem isKnownWord_of_not_isOptionWord {word : CString}
    (plain : isOptionWord word = false) : isKnownWord word = false := by
  cases known : isKnownWord word with
  | false =>
      rfl
  | true =>
      rw [isOptionWord_of_isKnownWord known] at plain
      cases plain

theorem lineOf_unknown {word : CString} {rest : List CString}
    (unknown : isKnownWord word = false)
    (isOption : isOptionWord word = true) :
    lineOf (word :: rest) =
      ⟨[], .unknown word rest isOption unknown⟩ := by
  simp only [isKnownWord, Bool.or_eq_false_iff, decide_eq_false_iff_not,
    Option.isSome_eq_false_iff, Option.isNone_iff_eq_none] at unknown
  obtain ⟨⟨⟨noSwitch, notLib⟩, notHelp⟩, notEnd⟩ := unknown
  unfold lineOf
  split
  · rename_i flag found
    rw [found] at noSwitch
    cases noSwitch
  · rw [dif_neg notLib, dif_neg (by simp [notHelp]), dif_neg notEnd,
      dif_pos isOption]

theorem lineOf_command {words : List CString}
    (plain : StartsPlain words) :
    lineOf words = ⟨[], .command words plain⟩ := by
  cases words with
  | nil =>
      rfl
  | cons word rest =>
      have notOption := plain word rfl
      have unknown := isKnownWord_of_not_isOptionWord notOption
      simp only [isKnownWord, Bool.or_eq_false_iff, decide_eq_false_iff_not,
        Option.isSome_eq_false_iff, Option.isNone_iff_eq_none] at unknown
      obtain ⟨⟨⟨noSwitch, notLib⟩, notHelp⟩, notEnd⟩ := unknown
      unfold lineOf
      split
      · rename_i flag found
        rw [found] at noSwitch
        cases noSwitch
      · rw [dif_neg notLib, dif_neg (by simp [notHelp]), dif_neg notEnd,
          dif_neg (by simp [notOption])]

theorem lineOf_terminated (words : List CString) :
    lineOf (endWord :: words) = ⟨[], .terminated words⟩ := by
  have noSwitch : LaunchSwitch.ofWord endWord = none := by
    decide +kernel
  unfold lineOf
  split
  · rename_i flag found
    rw [found] at noSwitch
    cases noSwitch
  · rw [dif_neg (by decide), dif_neg (by decide), dif_pos rfl]

theorem lineOf_help {word : CString} (rest : List CString)
    (isHelp : isHelpWord word = true) :
    lineOf (word :: rest) = ⟨[], .help word rest isHelp⟩ := by
  have facts : LaunchSwitch.ofWord word = none ∧ word ≠ libWord := by
    simp only [isHelpWord, Bool.or_eq_true, decide_eq_true_eq] at isHelp
    rcases isHelp with rfl | rfl
    · decide +kernel
    · decide +kernel
  unfold lineOf
  split
  · rename_i flag found
    rw [found] at facts
    cases facts.1
  · rw [dif_neg facts.2, dif_pos isHelp]

theorem lineOf_lib (path : CString) (rest : List CString) :
    lineOf (libWord :: path :: rest) = (lineOf rest).cons (.lib path) := by
  have noSwitch : LaunchSwitch.ofWord libWord = none := by
    decide +kernel
  rw [lineOf]
  split
  · rename_i flag found
    rw [found] at noSwitch
    cases noSwitch
  · rw [dif_pos rfl]

theorem lineOf_switch (flag : LaunchSwitch) (rest : List CString) :
    lineOf (flag.word :: rest) = (lineOf rest).cons (.switch flag) := by
  conv_lhs => unfold lineOf
  split
  · rename_i found isFound
    rw [ofWord_word] at isFound
    cases isFound
    rfl
  · rename_i missed
    rw [ofWord_word] at missed
    cases missed

theorem lineOf_words (line : LaunchLine) : lineOf line.words = line := by
  obtain ⟨options, ending⟩ := line
  induction options with
  | nil =>
      cases ending with
      | command words plain =>
          exact lineOf_command plain
      | terminated words =>
          exact lineOf_terminated words
      | help word rest isHelp =>
          exact lineOf_help rest isHelp
      | unknown word rest isOption unknown =>
          exact lineOf_unknown unknown isOption
      | noPath =>
          rfl
  | cons option rest inductionHypothesis =>
      have words :
          LaunchLine.words ⟨option :: rest, ending⟩ =
            option.words ++ LaunchLine.words ⟨rest, ending⟩ :=
        LaunchLine.words_cons option ⟨rest, ending⟩
      rw [words]
      cases option with
      | switch flag =>
          exact
            (lineOf_switch flag _).trans
              (congrArg (LaunchLine.cons (.switch flag))
                inductionHypothesis)
      | lib path =>
          exact
            (lineOf_lib path _).trans
              (congrArg (LaunchLine.cons (.lib path)) inductionHypothesis)

/-! ## What a line means -/

/-- The directory of the launcher, and the one above it. -/
structure LaunchPlace where
  scriptDir : CString
  prefixDir : CString

def launchPlace (world : LauncherWorld) (script : CString) :
    Except Failure LaunchPlace :=
  match world.cdPwd (world.dirname script) with
  | .error failure => .error failure
  | .ok scriptDir =>
      match world.cdPwd (scriptDir ++ cstr "/..") with
      | .error failure => .error failure
      | .ok prefixDir => .ok ⟨scriptDir, prefixDir⟩

section Meaning

variable (world : LauncherWorld) (place : LaunchPlace)
variable (options : List LaunchOption) (env : Environment)

/-- The library is the last one that an option gives, or that of the
environment, or one that is found. -/
def chosenLib : CString :=
  let given := (env shimLibVariable).getD []
  ((options.filterMap LaunchOption.path?).getLast?).getD
    (if given = [] then foundLib world place.prefixDir else given)

/-- The value that the options give a variable. -/
def switchedTo (name : CString) : Option CString :=
  ((options.filterMap LaunchOption.switch?).find? fun flag =>
    decide (flag.variableName = name)).map LaunchSwitch.value

/-- The variables of the script itself, the last one that it sets first. -/
def ownVariables (lib : CString) : List (CString × CString) :=
  [(libVariable, lib),
    (cstr "installed_system_lib", installedSystemLib),
    (cstr "installed_local_lib", installedLocalLib),
    (cstr "installed_relocatable_lib",
      installedRelocatableLib place.prefixDir),
    (cstr "source_lib", sourceLib place.prefixDir),
    (cstr "prefix_dir", place.prefixDir),
    (cstr "script_dir", place.scriptDir)]

/-- The value that the script gives a variable of its own. -/
def ownValue (lib name : CString) : Option CString :=
  ((ownVariables place lib).find? fun entry =>
    decide (entry.1 = name)).map Prod.snd

/-- The environment behind the options. -/
def switchedEnv (lib : CString) : Environment := fun name =>
  (switchedTo options name).or
    ((env name).map fun value => (ownValue place lib name).getD value)

/-- The environment of the command. -/
def commandEnv (lib : CString) : Environment := fun name =>
  if name = ldPreloadVariable then
    some (preloadValue lib env)
  else switchedEnv place options env lib name

end Meaning

/-- How a launch with this line ends. -/
def LaunchLine.outcome (world : LauncherWorld) (place : LaunchPlace)
    (env : Environment) (line : LaunchLine) : LaunchOutcome :=
  match line.ending with
  | .command words _ | .terminated words =>
      let lib := chosenLib world place line.options env
      if words = [] then .exits 2 [] launchUsage
      else if world.isFile lib = false then
        .exits 1 []
          (world.echo.out
            (launchMessage (cstr "library not found at " ++ lib)))
      else world.turnInto words (commandEnv place line.options env lib)
  | .help _ _ _ => .exits 0 launchUsage []
  | .unknown word _ _ _ =>
      .exits 2 []
        (world.echo.out
            (launchMessage (cstr "unknown option: " ++ word)) ++
          launchUsage)
  | .noPath =>
      .exits 2 []
        (world.echo.out (launchMessage (cstr "--lib requires a path")))

/-- How a launch ends. -/
def launchOutcome (world : LauncherWorld) (script : CString)
    (env : Environment) (line : LaunchLine) : LaunchOutcome :=
  match launchPlace world script with
  | .error failure => .exits failure.status [] []
  | .ok place => line.outcome world place (world.shell.start env)

/-! ## The script does what its line means -/

/-- What the loop does for an option. -/
def LaunchOption.apply (launch : Launch) : LaunchOption → Launch
  | switch flag =>
      { launch with
        env := exportVariable flag.variableName flag.value launch.env }
  | lib path => launch.setLib path

/-- What the loop does for what follows the options. -/
def LaunchEnding.read (echo : Echo) (launch : Launch) :
    LaunchEnding → Except LaunchOutcome (Launch × List CString)
  | command words _ => .ok (launch, words)
  | terminated words => .ok (launch, words)
  | help _ _ _ => .error (.exits 0 launchUsage [])
  | unknown word _ _ _ =>
      .error
        (.exits 2 []
          (echo.out (launchMessage (cstr "unknown option: " ++ word)) ++
            launchUsage))
  | noPath =>
      .error
        (.exits 2 []
          (echo.out (launchMessage (cstr "--lib requires a path"))))

theorem launchLoop_eq (echo : Echo) (args : List CString)
    (launch : Launch) :
    launchLoop echo args launch =
      (lineOf args).ending.read echo
        ((lineOf args).options.foldl LaunchOption.apply launch) := by
  fun_induction lineOf args generalizing launch with
  | case1 =>
      rfl
  | case2 arg rest flag found inductionHypothesis =>
      unfold launchLoop
      simp only [found]
      exact inductionHypothesis _
  | case3 noSwitch =>
      rfl
  | case4 path more noSwitch inductionHypothesis =>
      unfold launchLoop
      simp only [noSwitch, if_true]
      exact inductionHypothesis _
  | case5 arg rest noSwitch notLib isHelp =>
      unfold launchLoop
      simp only [noSwitch, if_neg notLib, if_pos isHelp]
      rfl
  | case6 rest noSwitch notLib notHelp =>
      unfold launchLoop
      simp only [noSwitch, if_neg notLib, if_neg notHelp, if_true]
      rfl
  | case7 arg rest noSwitch notLib notHelp notEnd isOption =>
      unfold launchLoop
      simp only [noSwitch, if_neg notLib, if_neg notHelp, if_neg notEnd,
        if_pos isOption]
      rfl
  | case8 arg rest noSwitch notLib notHelp notEnd notOption =>
      unfold launchLoop
      simp only [noSwitch, if_neg notLib, if_neg notHelp, if_neg notEnd,
        if_neg notOption]
      rfl

/-! ### Variables -/

theorem assignVariable_apply (name value asked : CString)
    (env : Environment) :
    assignVariable name value env asked =
      (env asked).map fun before => if asked = name then value else before := by
  unfold assignVariable exportVariable
  by_cases same : asked = name
  · subst same
    cases present : env asked with
    | none =>
        simp [present]
    | some before =>
        simp
  · split
    · rw [Function.update_of_ne same]
      simp
    · simp

/-- An assignment hides an earlier one. -/
theorem assignVariable_again (name value earlier : CString)
    (env : Environment) :
    assignVariable name value (assignVariable name earlier env) =
      assignVariable name value env := by
  funext asked
  simp only [assignVariable_apply, Option.map_map]
  congr 1
  funext before
  by_cases same : asked = name
  · simp [same]
  · simp [same]

/-- Assignments one after the other, the last one first. -/
theorem foldr_assignVariable (entries : List (CString × CString))
    (env : Environment) (asked : CString) :
    entries.foldr (fun entry env => assignVariable entry.1 entry.2 env) env
        asked =
      (env asked).map fun before =>
        ((entries.find? fun entry => decide (entry.1 = asked)).map
          Prod.snd).getD before := by
  induction entries with
  | nil =>
      simp
  | cons entry rest inductionHypothesis =>
      rw [List.foldr_cons, assignVariable_apply, inductionHypothesis,
        Option.map_map]
      congr 1
      funext before
      by_cases same : entry.1 = asked
      · simp [same]
      · have differs : ¬ asked = entry.1 := fun other => same other.symm
        simp [same, differs]

theorem exportVariable_apply (name value asked : CString)
    (env : Environment) :
    exportVariable name value env asked =
      if asked = name then some value else env asked :=
  Function.update_apply env name (some value) asked

theorem variableName_injective {first second : LaunchSwitch}
    (same : first.variableName = second.variableName) : first = second := by
  have distinct : ∀ first second : LaunchSwitch,
      first.variableName = second.variableName → first = second := by
    intro first second
    cases first with
    | _ =>
        cases second with
        | _ =>
            decide +kernel
  exact distinct first second same

/-- No option sets this variable. -/
def IsForeign (name : CString) : Prop :=
  ∀ flag : LaunchSwitch, flag.variableName ≠ name

theorem switchedTo_of_isForeign {name : CString} (foreign : IsForeign name)
    (options : List LaunchOption) : switchedTo options name = none := by
  have differs (flag : LaunchSwitch) :
      ¬ decide (flag.variableName = name) = true := by
    simpa using foreign flag
  rw [switchedTo, List.find?_eq_none.mpr fun flag _ => differs flag,
    Option.map_none]

theorem isForeign_libVariable : IsForeign libVariable := by
  intro flag
  cases flag with
  | _ =>
      decide

theorem isForeign_ldPreloadVariable : IsForeign ldPreloadVariable := by
  intro flag
  cases flag with
  | _ =>
      decide

/-- Another option gives its variable the same value as an earlier one did. -/
theorem switchedTo_append_switch (options : List LaunchOption)
    (flag : LaunchSwitch) (name : CString) :
    switchedTo (options ++ [.switch flag]) name =
      if name = flag.variableName then some flag.value
      else switchedTo options name := by
  have flags :
      (options ++ [LaunchOption.switch flag]).filterMap
          LaunchOption.switch? =
        options.filterMap LaunchOption.switch? ++ [flag] := by
    simp [LaunchOption.switch?]
  rw [switchedTo, flags, List.find?_append, switchedTo]
  by_cases same : name = flag.variableName
  · rw [if_pos same]
    cases found :
        (options.filterMap LaunchOption.switch?).find? fun flag =>
          decide (flag.variableName = name) with
    | none =>
        simp [same]
    | some earlier =>
        have isName : earlier.variableName = name := by
          simpa using List.find?_some found
        rw [variableName_injective (isName.trans same)]
        rfl
  · have differs : ¬ flag.variableName = name := fun other => same other.symm
    simp [same, differs]

theorem switchedTo_append_lib (options : List LaunchOption)
    (path name : CString) :
    switchedTo (options ++ [.lib path]) name = switchedTo options name := by
  simp [switchedTo, LaunchOption.switch?]

section Carries

variable {world : LauncherWorld} {place : LaunchPlace}
variable {options : List LaunchOption} {env : Environment}
variable {launch : Launch}

/-- The script has these options behind it. -/
structure Carries (world : LauncherWorld) (place : LaunchPlace)
    (env : Environment) (options : List LaunchOption) (launch : Launch) :
    Prop where
  lib : launch.lib = chosenLib world place options env
  env : launch.env = switchedEnv place options env launch.lib

theorem carries_start (world : LauncherWorld) (place : LaunchPlace)
    (env : Environment) :
    Carries world place env []
      (startLaunch world place.scriptDir place.prefixDir env) := by
  have assigned (lib : CString) :
      assignVariable libVariable lib
          ((ownVariables place lib).tail.foldr
            (fun entry env => assignVariable entry.1 entry.2 env) env) =
        switchedEnv place [] env lib := by
    funext name
    exact foldr_assignVariable (ownVariables place lib) env name
  unfold startLaunch
  by_cases unset : (env shimLibVariable).getD [] = []
  · simp only [if_pos unset]
    constructor
    · simp only [chosenLib, if_pos unset]
      rfl
    · simp only [Launch.setLib, assignVariable_again]
      exact assigned _
  · simp only [if_neg unset]
    constructor
    · simp only [chosenLib, if_neg unset]
      rfl
    · exact assigned _

theorem Carries.apply (carries : Carries world place env options launch)
    (option : LaunchOption) :
    Carries world place env (options ++ [option])
      (option.apply launch) := by
  cases option with
  | switch flag =>
      constructor
      · have samePaths :
            (options ++ [LaunchOption.switch flag]).filterMap
                LaunchOption.path? =
              options.filterMap LaunchOption.path? := by
          simp [LaunchOption.path?]
        rw [LaunchOption.apply, carries.lib, chosenLib, chosenLib, samePaths]
      · funext name
        simp only [LaunchOption.apply, exportVariable_apply, carries.env,
          switchedEnv, switchedTo_append_switch]
        split
        · rfl
        · rfl
  | lib path =>
      constructor
      · simp [LaunchOption.apply, Launch.setLib, chosenLib,
          LaunchOption.path?]
      · funext name
        simp only [LaunchOption.apply, Launch.setLib, assignVariable_apply,
          carries.env, switchedEnv, switchedTo_append_lib]
        by_cases isLib : name = libVariable
        · rw [isLib, switchedTo_of_isForeign isForeign_libVariable]
          simp [ownValue, ownVariables, Function.comp_def]
        · have differs : ¬ libVariable = name := fun other => isLib other.symm
          simp [isLib, ownValue, ownVariables, differs]

theorem Carries.foldl (carries : Carries world place env options launch)
    (more : List LaunchOption) :
    Carries world place env (options ++ more)
      (more.foldl LaunchOption.apply launch) := by
  induction more generalizing options launch with
  | nil =>
      rw [List.append_nil]
      exact carries
  | cons option rest inductionHypothesis =>
      have later := inductionHypothesis (carries.apply option)
      rw [List.append_assoc] at later
      exact later

/-- What is left of the environment's own preload list. -/
theorem ldPreload_of_carries
    (carries : Carries world place env options launch) :
    launch.env ldPreloadVariable = env ldPreloadVariable := by
  have notOwn : ownValue place launch.lib ldPreloadVariable = none := by
    rfl
  rw [carries.env, switchedEnv,
    switchedTo_of_isForeign isForeign_ldPreloadVariable, notOwn]
  simp

theorem launchCommand_eq (carries : Carries world place env options launch)
    (command : List CString) :
    launchCommand world launch command =
      (LaunchLine.mk options (.terminated command)).outcome world place
        env := by
  have exported :
      exportVariable ldPreloadVariable
          (preloadValue launch.lib launch.env) launch.env =
        commandEnv place options env launch.lib := by
    have sameValue :
        preloadValue launch.lib launch.env = preloadValue launch.lib env := by
      rw [preloadValue, preloadValue, ldPreload_of_carries carries]
    funext name
    rw [exportVariable_apply, sameValue, commandEnv, carries.env]
  rw [launchCommand, exported, LaunchLine.outcome, carries.lib]
  simp only [Bool.not_eq_true']

end Carries

/-- The arguments are one line of the language, and the launcher does what the
line means. -/
theorem runpodShim_exact (world : LauncherWorld) (script : CString)
    (env : Environment) (args : List CString) :
    ∃! line : LaunchLine, line.words = args ∧
      runpodShim world script env args =
        launchOutcome world script env line := by
  refine ⟨lineOf args, ⟨words_lineOf args, ?_⟩, ?_⟩
  · unfold runpodShim launchOutcome launchPlace
    cases world.cdPwd (world.dirname script) with
    | error failure =>
        rfl
    | ok scriptDir =>
        simp only
        cases world.cdPwd (scriptDir ++ cstr "/..") with
        | error failure =>
            rfl
        | ok prefixDir =>
            have carries :=
              (carries_start world ⟨scriptDir, prefixDir⟩
                (world.shell.start env)).foldl (lineOf args).options
            simp only [launchLoop_eq]
            generalize lineOf args = line at carries ⊢
            obtain ⟨options, ending⟩ := line
            cases ending with
            | command words plain =>
                exact launchCommand_eq carries words
            | terminated words =>
                exact launchCommand_eq carries words
            | help word rest isHelp =>
                rfl
            | unknown word rest isOption unknown =>
                rfl
            | noPath =>
                rfl
  · rintro other ⟨rfl, _⟩
    exact (lineOf_words other).symm

/-! ## Launchers that run launchers -/

/-- A command with its arguments, and the environment it is started in. -/
structure Started where
  argv : List CString
  env : Environment

/-- A launcher that is started and turns into a command. -/
def launchStep (world : LauncherWorld) (started : Started) (_ : Unit) :
    Option Started :=
  match started.argv with
  | [] => none
  | name :: args =>
      (world.runs name).bind fun script =>
        match runpodShim world script started.env args with
        | .execs command env => some ⟨command, env⟩
        | .exits _ _ _ => none

/-- One launch out of many: the name of the launcher and its options. -/
structure LaunchLevel where
  name : CString
  options : List LaunchOption
  terminated : Bool

namespace LaunchLevel

def words (level : LaunchLevel) : List CString :=
  level.name :: level.options.flatMap LaunchOption.words ++
    if level.terminated then [endWord] else []

def uses (level : LaunchLevel) (flag : LaunchSwitch) : Bool :=
  level.options.any fun option => decide (option.switch? = some flag)

/-- The library that is preloaded. -/
def lib (world : LauncherWorld) (env : Environment) (level : LaunchLevel) :
    CString :=
  match launchPlace world ((world.runs level.name).getD []) with
  | .error _ => []
  | .ok place => chosenLib world place level.options env

end LaunchLevel

/-- What the loader separates the libraries of `LD_PRELOAD` by. -/
def isPreloadSeparator (byte : UInt8) : Bool :=
  byte == 58 || byte == 32

/-- The libraries that are preloaded into a command. -/
def preloadedBy (env : Environment) : List CString :=
  words isPreloadSeparator ((env ldPreloadVariable).getD [])

/-- The switches that a command finds at its start. -/
def startSwitches (env : Environment) : TracedConfig :=
  (rpsConfigGet env none).1

/-- Switches after launches: modules that were on, less those that a launcher
has disabled. -/
def TracedConfig.launched (levels : List LaunchLevel)
    (config : TracedConfig) : TracedConfig where
  config :=
    { gpuVideo :=
        config.config.gpuVideo &&
          !levels.any fun level => level.uses .disableGpuVideo
      gpuIoctl :=
        config.config.gpuIoctl &&
          !levels.any fun level => level.uses .disableGpuIoctl
      cgroupMemory :=
        config.config.cgroupMemory &&
          !levels.any fun level => level.uses .disableCgroupMemory }
  trace := config.trace || levels.any fun level => level.uses .trace

/-- The launcher may set the variable. -/
def IsLaunchVariable (name : CString) : Prop :=
  (∃ flag : LaunchSwitch, flag.variableName = name) ∨
    name = ldPreloadVariable ∨
      ∃ place lib, ownValue place lib name ≠ none

/-- What launches leave of a command and its environment. -/
structure LaunchedBy (world : LauncherWorld) (levels : List LaunchLevel)
    (start finish : Started) : Prop where
  argv : start.argv = levels.flatMap LaunchLevel.words ++ finish.argv
  switches :
    startSwitches finish.env = (startSwitches start.env).launched levels
  preloaded :
    preloadedBy finish.env =
      (levels.reverse.flatMap fun level =>
          words isPreloadSeparator (level.lib world start.env)) ++
        preloadedBy start.env
  others : ∀ name, ¬ IsLaunchVariable name →
    world.shell.isOwn name = false → finish.env name = start.env name

section Launches

variable {world : LauncherWorld} {place : LaunchPlace}
variable {options : List LaunchOption} {env : Environment} {lib : CString}

theorem switchedTo_variableName (options : List LaunchOption)
    (flag : LaunchSwitch) :
    switchedTo options flag.variableName =
      if options.any fun option => decide (option.switch? = some flag) then
        some flag.value
      else none := by
  rw [switchedTo]
  cases found :
      (options.filterMap LaunchOption.switch?).find? fun other =>
        decide (other.variableName = flag.variableName) with
  | none =>
      have unused :
          ¬ (options.any fun option =>
            decide (option.switch? = some flag)) = true := by
        intro used
        obtain ⟨option, member, isSwitch⟩ := List.any_eq_true.mp used
        have isUsed : flag ∈ options.filterMap LaunchOption.switch? :=
          List.mem_filterMap.mpr ⟨option, member, of_decide_eq_true isSwitch⟩
        exact List.find?_eq_none.mp found flag isUsed (decide_eq_true rfl)
      rw [if_neg unused]
      rfl
  | some other =>
      have same : other = flag :=
        variableName_injective (by simpa using List.find?_some found)
      obtain ⟨option, member, isSwitch⟩ :=
        List.mem_filterMap.mp (List.mem_of_find?_eq_some found)
      have used :
          (options.any fun option =>
            decide (option.switch? = some flag)) = true :=
        List.any_eq_true.mpr
          ⟨option, member, decide_eq_true (same ▸ isSwitch)⟩
      rw [if_pos used, same]
      rfl

theorem commandEnv_variableName (place : LaunchPlace)
    (options : List LaunchOption) (env : Environment) (lib : CString)
    (flag : LaunchSwitch) :
    commandEnv place options env lib flag.variableName =
      if options.any fun option => decide (option.switch? = some flag) then
        some flag.value
      else env flag.variableName := by
  have notOwn : ownValue place lib flag.variableName = none := by
    cases flag with
    | _ =>
        rfl
  rw [commandEnv, if_neg (isForeign_ldPreloadVariable flag), switchedEnv,
    switchedTo_variableName, notOwn]
  split
  · rfl
  · simp

theorem commandEnv_others {name : CString}
    (other : ¬ IsLaunchVariable name) :
    commandEnv place options env lib name = env name := by
  obtain ⟨foreign, notPreload, notOwn⟩ :
      IsForeign name ∧ name ≠ ldPreloadVariable ∧
        ownValue place lib name = none := by
    refine ⟨?_, ?_, ?_⟩
    · exact fun flag same => other (Or.inl ⟨flag, same⟩)
    · exact fun same => other (Or.inr (Or.inl same))
    · by_contra own
      exact other (Or.inr (Or.inr ⟨place, lib, own⟩))
  rw [commandEnv, if_neg notPreload, switchedEnv,
    switchedTo_of_isForeign foreign, notOwn]
  simp

theorem preloadedBy_commandEnv (place : LaunchPlace)
    (options : List LaunchOption) (env : Environment) (lib : CString) :
    preloadedBy (commandEnv place options env lib) =
      words isPreloadSeparator lib ++ preloadedBy env := by
  rw [preloadedBy, commandEnv, if_pos rfl, Option.getD_some, preloadValue,
    preloadedBy]
  by_cases nothing : (env ldPreloadVariable).getD [] = []
  · simp [nothing, words_nil]
  · have separates : isPreloadSeparator 58 = true := by
      decide
    have colon : cstr ":" = [58] := by
      decide
    simp only [if_neg nothing, colon, List.append_assoc,
      List.singleton_append, words_append_blank separates]

theorem envIsAmong_commandEnv (texts : List CString) (place : LaunchPlace)
    (options : List LaunchOption) (env : Environment) (lib : CString)
    (flag : LaunchSwitch) :
    envIsAmong texts (commandEnv place options env lib) flag.variableName =
      if options.any fun option => decide (option.switch? = some flag) then
        texts.any fun text => decide (flag.value = text)
      else envIsAmong texts env flag.variableName := by
  rw [envIsAmong, commandEnv_variableName]
  split
  · rfl
  · rfl

/-- A disabled module was on before and is not disabled by the launch. -/
theorem rpsEnvIsDisabled_commandEnv (place : LaunchPlace)
    (env : Environment) (lib : CString) (level : LaunchLevel)
    {flag : LaunchSwitch} (disables : flag.value = cstr "0") :
    (!rpsEnvIsDisabled (commandEnv place level.options env lib)
        flag.variableName) =
      (!rpsEnvIsDisabled env flag.variableName && !level.uses flag) := by
  have isDisabled :
      (disabledTexts.any fun text => decide (flag.value = text)) = true := by
    rw [disables]
    decide +kernel
  rw [rpsEnvIsDisabled, envIsAmong_commandEnv, isDisabled, LaunchLevel.uses,
    rpsEnvIsDisabled]
  split
  · rename_i used
    simp [used]
  · rename_i unused
    simp [unused]

theorem rpsEnvIsEnabled_commandEnv (place : LaunchPlace)
    (env : Environment) (lib : CString) (level : LaunchLevel)
    {flag : LaunchSwitch} (enables : flag.value = cstr "1") :
    rpsEnvIsEnabled (commandEnv place level.options env lib)
        flag.variableName =
      (rpsEnvIsEnabled env flag.variableName || level.uses flag) := by
  have isEnabled :
      (enabledTexts.any fun text => decide (flag.value = text)) = true := by
    rw [enables]
    decide +kernel
  rw [rpsEnvIsEnabled, envIsAmong_commandEnv, isEnabled, LaunchLevel.uses,
    rpsEnvIsEnabled]
  split
  · rename_i used
    simp [used]
  · rename_i unused
    simp [unused]

theorem startSwitches_commandEnv (place : LaunchPlace)
    (env : Environment) (lib : CString) (level : LaunchLevel) :
    startSwitches (commandEnv place level.options env lib) =
      (startSwitches env).launched [level] := by
  have disabled {flag : LaunchSwitch} (disables : flag.value = cstr "0") :=
    rpsEnvIsDisabled_commandEnv place env lib level disables
  have video := disabled (show LaunchSwitch.disableGpuVideo.value = _ from rfl)
  have rmIoctl :=
    disabled (show LaunchSwitch.disableGpuIoctl.value = _ from rfl)
  have memory :=
    disabled (show LaunchSwitch.disableCgroupMemory.value = _ from rfl)
  have traces :=
    rpsEnvIsEnabled_commandEnv place env lib level
      (show LaunchSwitch.trace.value = _ from rfl)
  simp only [LaunchSwitch.variableName] at video rmIoctl memory traces
  simp only [startSwitches, rpsConfigGet, Option.getD_none,
    TracedConfig.launched, List.any_cons, List.any_nil, Bool.or_false,
    video, rmIoctl, memory, traces]

theorem TracedConfig.launched_append (first second : List LaunchLevel)
    (config : TracedConfig) :
    config.launched (first ++ second) =
      (config.launched first).launched second := by
  simp only [TracedConfig.launched, List.any_append, Bool.not_or,
    Bool.and_assoc, Bool.or_assoc]

/-- Launchers do not change where the next one looks for its library. -/
theorem LaunchLevel.lib_congr {other : Environment}
    (same : other shimLibVariable = env shimLibVariable)
    (level : LaunchLevel) :
    level.lib world other = level.lib world env := by
  unfold LaunchLevel.lib
  split
  · rfl
  · rw [chosenLib, chosenLib, same]

theorem not_isLaunchVariable_shimLibVariable :
    ¬ IsLaunchVariable shimLibVariable := by
  rintro (⟨flag, same⟩ | same | ⟨place, lib, own⟩)
  · revert same
    cases flag with
    | _ =>
        decide
  · revert same
    decide
  · exact own rfl

/-! ### What the shell keeps -/

/-- The environments differ in variables of the shell's own only. -/
def SameButOwn (world : LauncherWorld) (env other : Environment) : Prop :=
  ∀ name, world.shell.isOwn name = false → env name = other name

theorem sameButOwn_start (world : LauncherWorld) (env : Environment) :
    SameButOwn world (world.shell.start env) env :=
  world.shell.start_of_not_own env

theorem SameButOwn.launchVariable {other : Environment}
    (same : SameButOwn world other env) {name : CString}
    (member : name ∈ launchVariables) : other name = env name :=
  same name (world.launch_not_own name member)

theorem SameButOwn.startSwitches_eq {other : Environment}
    (same : SameButOwn world other env) :
    startSwitches other = startSwitches env := by
  have kept (name : CString) (member : name ∈ launchVariables)
      (texts : List CString) :
      envIsAmong texts other name = envIsAmong texts env name := by
    rw [envIsAmong, same.launchVariable member, envIsAmong]
  simp only [startSwitches, rpsConfigGet, rpsEnvIsDisabled,
    rpsEnvIsEnabled, kept traceVariable (by simp [launchVariables]),
    kept gpuVideoVariable (by simp [launchVariables]),
    kept gpuIoctlVariable (by simp [launchVariables]),
    kept cgroupMemoryVariable (by simp [launchVariables])]

theorem SameButOwn.preloadedBy_eq {other : Environment}
    (same : SameButOwn world other env) :
    preloadedBy other = preloadedBy env := by
  have member : ldPreloadVariable ∈ launchVariables :=
    List.mem_cons_of_mem _ List.mem_cons_self
  rw [preloadedBy, same.launchVariable member, preloadedBy]

/-! ### One launch -/

/-- The launcher is given a command without a leading '-', if any. -/
def Started.LaunchesPlain (started : Started) : Prop :=
  ∀ words, (lineOf started.argv.tail).ending = .terminated words →
    StartsPlain words

/-- A command without a leading '-' that can be run is run. -/
theorem eq_of_turnInto_execs {words command : List CString}
    {given commanded : Environment} (plain : StartsPlain words)
    (execs : world.turnInto words given = .execs command commanded) :
    words = command ∧ SameButOwn world commanded given := by
  rw [LauncherWorld.turnInto] at execs
  split at execs
  · cases execs
  · rename_i ran
    cases execs
    exact
      ⟨(world.exec.command_eq words given _ _ plain ran).symm,
        world.exec.commanded_of_not_own words given _ _ plain ran⟩

/-- A launch that turns into a command has it at the end of its line. -/
theorem exists_of_execs {script : CString} {line : LaunchLine}
    {command : List CString} {commanded : Environment}
    (plain : ∀ words, line.ending = .terminated words → StartsPlain words)
    (execs :
      launchOutcome world script env line = .execs command commanded) :
    ∃ place terminated,
      launchPlace world script = .ok place ∧
        line.words =
          line.options.flatMap LaunchOption.words ++
              (if terminated = true then [endWord] else []) ++ command ∧
        SameButOwn world commanded
          (commandEnv place line.options (world.shell.start env)
            (chosenLib world place line.options
              (world.shell.start env))) := by
  unfold launchOutcome at execs
  split at execs
  · cases execs
  · rename_i place found
    have ofCommand {words : List CString} (starts : StartsPlain words)
        (ended :
          (LaunchLine.mk line.options (.terminated words)).outcome world
            place (world.shell.start env) = .execs command commanded) :
        words = command ∧
          SameButOwn world commanded
            (commandEnv place line.options (world.shell.start env)
              (chosenLib world place line.options
                (world.shell.start env))) := by
      simp only [LaunchLine.outcome] at ended
      split at ended
      · cases ended
      · split at ended
        · cases ended
        · exact eq_of_turnInto_execs starts ended
    obtain ⟨options, ending⟩ := line
    cases ending with
    | command words starts =>
        obtain ⟨rfl, isEnv⟩ := ofCommand starts execs
        refine ⟨place, false, found, ?_, isEnv⟩
        simp [LaunchLine.words, LaunchEnding.words]
    | terminated words =>
        obtain ⟨rfl, isEnv⟩ := ofCommand (plain words rfl) execs
        refine ⟨place, true, found, ?_, isEnv⟩
        simp [LaunchLine.words, LaunchEnding.words]
    | help word rest isHelp =>
        cases execs
    | unknown word rest isOption unknown =>
        cases execs
    | noPath =>
        cases execs

theorem launchedBy_of_step {start finish : Started}
    (plain : start.LaunchesPlain)
    (taken : launchStep world start () = some finish) :
    ∃ level, LaunchedBy world [level] start finish := by
  obtain ⟨argv, env⟩ := start
  cases argv with
  | nil =>
      cases taken
  | cons name args =>
      obtain ⟨script, runs, ended⟩ := Option.bind_eq_some_iff.mp taken
      obtain ⟨line, ⟨rfl, exact⟩, _⟩ :=
        runpodShim_exact world script env args
      have isLine : lineOf line.words = line := lineOf_words line
      simp only [exact] at ended
      split at ended
      · rename_i command commanded execs
        cases ended
        have plainEnding (words : List CString)
            (isEnding : line.ending = .terminated words) :
            StartsPlain words := by
          apply plain words
          rw [List.tail_cons, isLine, isEnding]
        obtain ⟨place, terminated, found, spelled, same⟩ :=
          exists_of_execs plainEnding execs
        have started := sameButOwn_start world env
        let level : LaunchLevel := ⟨name, line.options, terminated⟩
        have isLib :
            level.lib world env =
              chosenLib world place line.options
                (world.shell.start env) := by
          rw [← level.lib_congr
            (started.launchVariable List.mem_cons_self)]
          simp only [level, LaunchLevel.lib, runs, Option.getD_some, found]
        refine ⟨level, ?_, ?_, ?_, ?_⟩
        · rw [spelled]
          simp [level, LaunchLevel.words]
        · rw [same.startSwitches_eq, ← started.startSwitches_eq]
          exact startSwitches_commandEnv place _ _ level
        · rw [same.preloadedBy_eq, preloadedBy_commandEnv, ← isLib,
            started.preloadedBy_eq]
          simp
        · intro asked other notOwn
          calc
            commanded asked = commandEnv place line.options _ _ asked :=
              same asked notOwn
            _ = world.shell.start env asked := commandEnv_others other
            _ = env asked := started asked notOwn
      · cases ended

theorem LaunchedBy.trans {first second : List LaunchLevel}
    {start middle finish : Started}
    (before : LaunchedBy world first start middle)
    (after : LaunchedBy world second middle finish) :
    LaunchedBy world (first ++ second) start finish := by
  have sameLib : middle.env shimLibVariable = start.env shimLibVariable :=
    before.others _ not_isLaunchVariable_shimLibVariable
      (world.launch_not_own _ List.mem_cons_self)
  have libs :
      (fun level : LaunchLevel =>
          words isPreloadSeparator (level.lib world middle.env)) =
        fun level =>
          words isPreloadSeparator (level.lib world start.env) := by
    funext level
    rw [level.lib_congr sameLib]
  constructor
  · rw [before.argv, after.argv, List.flatMap_append, List.append_assoc]
  · rw [after.switches, before.switches, TracedConfig.launched_append]
  · rw [after.preloaded, before.preloaded, libs, List.reverse_append,
      List.flatMap_append, List.append_assoc]
  · intro name other notOwn
    rw [after.others name other notOwn, before.others name other notOwn]

/-- However many launchers run one another, each on a command without a leading
'-', the command that comes out of them was at the end of their arguments; a
module is on for it when it was on before and no launcher has disabled it; the
libraries of the launchers are preloaded, the innermost first and those from
before last; and no other variable that the shell keeps has changed. -/
theorem launchedBy_of_run (world : LauncherWorld) (start finish : Started)
    (rounds : Nat)
    (plain :
      StepsMeet (launchStep world)
        (fun before _ _ => before.LaunchesPlain) start
        (List.replicate rounds ()))
    (run :
      runFrom (launchStep world) start (List.replicate rounds ()) =
        some finish) :
    ∃ levels : List LaunchLevel,
      levels.length = rounds ∧ LaunchedBy world levels start finish := by
  induction rounds generalizing start with
  | zero =>
      cases run
      refine ⟨[], rfl, rfl, ?_, rfl, fun name other notOwn => rfl⟩
      simp [TracedConfig.launched]
  | succ rounds inductionHypothesis =>
      obtain ⟨middle, taken, later⟩ := Option.bind_eq_some_iff.mp run
      obtain ⟨here, rest⟩ := plain middle taken
      obtain ⟨level, before⟩ := launchedBy_of_step here taken
      obtain ⟨levels, length, after⟩ :=
        inductionHypothesis middle rest later
      refine ⟨level :: levels, ?_, before.trans after⟩
      rw [List.length_cons, length]

end Launches

/-- A container with the launcher in one place. -/
def packagedLauncher : LauncherWorld where
  dirname _ := cstr "/usr/bin"
  cdPwd _ := .ok (cstr "/usr")
  isFile _ := true
  runs name := if name = cstr "runpod-shim" then some name else none
  echo := plainEcho
  shell := plainStart (cstr "/root") (cstr "1")
  exec := plainExec (plainStart (cstr "/root") (cstr "1"))
  launch_not_own := by decide +kernel

/-- A launcher that runs a launcher. -/
def nestedLaunch : Started where
  argv :=
    [cstr "runpod-shim", cstr "--disable-gpu-video", cstr "--",
      cstr "runpod-shim", cstr "--trace", cstr "sh"]
  env _ := none

theorem launchedBy_nestedLaunch :
    ∃ finish levels,
      runFrom (launchStep packagedLauncher) nestedLaunch [(), ()] =
          some finish ∧
        finish.argv = [cstr "sh"] ∧ levels.length = 2 ∧
          LaunchedBy packagedLauncher levels nestedLaunch finish := by
  obtain ⟨finish, run, isShell⟩ :
      ∃ finish,
        runFrom (launchStep packagedLauncher) nestedLaunch [(), ()] =
            some finish ∧ finish.argv = [cstr "sh"] := by
    exact ⟨_, rfl, rfl⟩
  have plain :
      StepsMeet (launchStep packagedLauncher)
        (fun before _ _ => before.LaunchesPlain) nestedLaunch [(), ()] := by
    intro middle taken
    cases taken
    refine ⟨?_, ?_⟩
    · intro words isEnding
      cases isEnding
      intro word isHead
      cases isHead
      rfl
    · intro last taken
      cases taken
      refine ⟨?_, trivial⟩
      intro words isEnding
      cases isEnding
  obtain ⟨levels, two, launched⟩ :=
    launchedBy_of_run packagedLauncher nestedLaunch finish 2 plain run
  exact ⟨finish, levels, run, isShell, two, launched⟩

end RunpodShim

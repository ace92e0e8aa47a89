import Mathlib.Logic.Function.Basic
import RunpodShim.Core.Config
import RunpodShim.Library.ShellScript

/-!
# The shell of the scripts

`/bin/sh` as the scripts in `tools` find it: what its `echo` puts out, what it
makes of the environment that it is started in, and what its `exec` runs.
-/

namespace RunpodShim

open ShellScript

/-- The `echo` of a shell.  Some expand what stands behind a backslash. -/
structure Echo where
  out : CString → CString
  out_nil : out [] = [newline]
  out_append : ∀ front back, 92 ∉ front →
    out (front ++ back) = front ++ out back

/-- An `echo` that leaves backslashes alone. -/
def plainEcho : Echo where
  out := fun line => line ++ [newline]
  out_nil := rfl
  out_append := fun front back _ => List.append_assoc front back [newline]

/-! ## Variables -/

/-- `export name=value`. -/
def exportVariable (name value : CString) (env : Environment) :
    Environment :=
  Function.update env name (some value)

/-- `name=value`.  A variable that came with the environment stays
exported. -/
def assignVariable (name value : CString) (env : Environment) :
    Environment :=
  if (env name).isSome then exportVariable name value env else env

/-- What a shell makes of its environment.  It drops or sets some variables by
itself, and keeps the others. -/
structure ShellStart where
  start : Environment → Environment
  isOwn : CString → Bool
  start_of_not_own : ∀ env name, isOwn name = false →
    start env name = env name

def isNameStart (byte : UInt8) : Bool :=
  byte == 95 || (decide (65 ≤ byte) && decide (byte ≤ 90)) ||
    (decide (97 ≤ byte) && decide (byte ≤ 122))

/-- The name of a variable of the shell. -/
def isVariableName (name : CString) : Bool :=
  name.head?.any isNameStart &&
    name.all fun byte =>
      isNameStart byte || (decide (48 ≤ byte) && decide (byte ≤ 57))

/-- The variables that a shell sets first, each with its value. -/
def shellVariables (directory parent : CString) :
    List (CString × CString) :=
  [(cstr "PWD", directory), (cstr "IFS", [32, 9, 10]),
    (cstr "OPTIND", cstr "1"), (cstr "PPID", parent)]

/-- A shell that drops what is no name, exports `PWD`, and has values of its
own for others that are exported. -/
def plainStart (directory parent : CString) : ShellStart where
  start env := fun name =>
    if isVariableName name then
      if name = cstr "PWD" then some directory
      else
        (env name).map fun value =>
          (((shellVariables directory parent).find? fun entry =>
            decide (entry.1 = name)).map Prod.snd).getD value
    else none
  isOwn := fun name =>
    !isVariableName name ||
      (shellVariables directory parent).any fun entry =>
        decide (entry.1 = name)
  start_of_not_own := by
    intro env name notOwn
    rw [Bool.or_eq_false_iff, Bool.not_eq_false'] at notOwn
    obtain ⟨isName, others⟩ := notOwn
    rw [List.any_eq_false] at others
    have notDirectory : ¬ name = cstr "PWD" := by
      intro same
      exact
        others (cstr "PWD", directory) List.mem_cons_self
          (decide_eq_true same.symm)
    rw [if_pos isName, if_neg notDirectory, List.find?_eq_none.mpr others]
    exact Option.map_id'

/-! ## `exec` -/

/-- `-*`. -/
def isOptionWord (arg : CString) : Bool :=
  arg.head? == some 45

/-- The words start with a command. -/
def StartsPlain (words : List CString) : Prop :=
  ∀ word, words.head? = some word → isOptionWord word = false

/-- The `exec` of a shell: the command and its environment, or why none is run.
Some shells have options there, and variables that they set on the way. -/
structure ShellExec (shell : ShellStart) where
  run : List CString → Environment →
    Except Failure (List CString × Environment)
  command_eq : ∀ words env command commanded, StartsPlain words →
    run words env = .ok (command, commanded) → command = words
  commanded_of_not_own : ∀ words env command commanded, StartsPlain words →
    run words env = .ok (command, commanded) →
      ∀ name, shell.isOwn name = false → commanded name = env name

/-- An `exec` without options that always works. -/
def plainExec (shell : ShellStart) : ShellExec shell where
  run words env := .ok (words, env)
  command_eq := by
    intro words env command commanded _ ran
    cases ran
    rfl
  commanded_of_not_own := by
    intro words env command commanded _ ran name _
    cases ran
    rfl

end RunpodShim

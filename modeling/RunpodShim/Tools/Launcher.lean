import RunpodShim.Library.ShellScript
import RunpodShim.Library.TextLines
import RunpodShim.Tools.Shell

/-!
# The launcher

`tools/runpod-shim`: how it reads its arguments, which library it preloads,
and the command that it turns into.  The messages of `cd` and `exec` are left
out; what the script prints itself is always written.
-/

namespace RunpodShim

open ShellScript TextLines

def shimLibVariable : CString := cstr "RUNPOD_SHIM_LIB"

def ldPreloadVariable : CString := cstr "LD_PRELOAD"

/-- The variables that the launcher reads or exports. -/
def launchVariables : List CString :=
  [shimLibVariable, ldPreloadVariable, traceVariable, gpuVideoVariable,
    gpuIoctlVariable, cgroupMemoryVariable]

/-- The commands that the launcher runs and the files that it looks for.
`cdPwd` is the output of `cd` and `pwd`, and `runs` tells for a command word
whether it names the launcher, with `$0` then. -/
structure LauncherWorld where
  dirname : CString → CString
  cdPwd : CString → Except Failure CString
  isFile : CString → Bool
  runs : CString → Option CString
  echo : Echo
  shell : ShellStart
  exec : ShellExec shell
  launch_not_own : ∀ name, name ∈ launchVariables →
    shell.isOwn name = false

/-- How the launcher ends: with a status and what it has printed, or as another
command. -/
inductive LaunchOutcome where
  | exits (status : Nat) (stdout stderr : CString)
  | execs (command : List CString) (env : Environment)

/-- `usage`. -/
def launchUsage : CString :=
  endLines newline
    [cstr "usage: runpod-shim [options] -- command [args...]",
      cstr "",
      cstr "Run a command with Runpod Shim enabled.",
      cstr "",
      cstr "Options:",
      cstr "  --trace                    enable trace logging",
      cstr "  --disable-gpu-video        disable NVIDIA video topology fixes",
      cstr "  --disable-gpu-ioctl        disable NVIDIA RM ioctl filtering only",
      cstr "  --disable-cgroup-memory    disable cgroup-aware memory reporting",
      cstr "  --lib PATH                 use a specific librunpod-shim.so",
      cstr "  -h, --help                 show this help"]

/-! ## Variables -/

def libVariable : CString := cstr "lib"

/-- The environment of the script with its variable `lib`. -/
structure Launch where
  env : Environment
  lib : CString

/-- `lib=value`. -/
def Launch.setLib (value : CString) (launch : Launch) : Launch where
  env := assignVariable libVariable value launch.env
  lib := value

def sourceLib (prefixDir : CString) : CString :=
  prefixDir ++ cstr "/librunpod-shim.so"

def installedRelocatableLib (prefixDir : CString) : CString :=
  prefixDir ++ cstr "/lib/runpod-shim/librunpod-shim.so"

def installedLocalLib : CString :=
  cstr "/usr/local/lib/runpod-shim/librunpod-shim.so"

def installedSystemLib : CString :=
  cstr "/usr/lib/runpod-shim/librunpod-shim.so"

/-- The library that is looked up when none is given. -/
def foundLib (world : LauncherWorld) (prefixDir : CString) : CString :=
  if world.isFile (sourceLib prefixDir) then sourceLib prefixDir
  else if world.isFile (installedRelocatableLib prefixDir) then
    installedRelocatableLib prefixDir
  else if world.isFile installedLocalLib then installedLocalLib
  else installedSystemLib

/-- The variables that are set before the arguments are read. -/
def startLaunch (world : LauncherWorld) (scriptDir prefixDir : CString)
    (env : Environment) : Launch :=
  let given := (env shimLibVariable).getD []
  let assigned :=
    assignVariable (cstr "installed_system_lib") installedSystemLib
      (assignVariable (cstr "installed_local_lib") installedLocalLib
        (assignVariable (cstr "installed_relocatable_lib")
          (installedRelocatableLib prefixDir)
          (assignVariable (cstr "source_lib") (sourceLib prefixDir)
            (assignVariable (cstr "prefix_dir") prefixDir
              (assignVariable (cstr "script_dir") scriptDir env)))))
  let launch := Launch.setLib given ⟨assigned, given⟩
  if given = [] then launch.setLib (foundLib world prefixDir) else launch

/-! ## Arguments -/

/-- The options that export a variable. -/
inductive LaunchSwitch where
  | trace
  | disableGpuVideo
  | disableGpuIoctl
  | disableCgroupMemory
deriving DecidableEq, Repr

namespace LaunchSwitch

def all : List LaunchSwitch :=
  [trace, disableGpuVideo, disableGpuIoctl, disableCgroupMemory]

def word : LaunchSwitch → CString
  | trace => cstr "--trace"
  | disableGpuVideo => cstr "--disable-gpu-video"
  | disableGpuIoctl => cstr "--disable-gpu-ioctl"
  | disableCgroupMemory => cstr "--disable-cgroup-memory"

def variableName : LaunchSwitch → CString
  | trace => traceVariable
  | disableGpuVideo => gpuVideoVariable
  | disableGpuIoctl => gpuIoctlVariable
  | disableCgroupMemory => cgroupMemoryVariable

def value : LaunchSwitch → CString
  | trace => cstr "1"
  | disableGpuVideo | disableGpuIoctl | disableCgroupMemory => cstr "0"

/-- The branch of the `case` that an argument takes, if it is one of these. -/
def ofWord (arg : CString) : Option LaunchSwitch :=
  all.find? fun switch => decide (switch.word = arg)

end LaunchSwitch

def libWord : CString := cstr "--lib"

def isHelpWord (arg : CString) : Bool :=
  decide (arg = cstr "-h") || decide (arg = cstr "--help")

def endWord : CString := cstr "--"

def launchMessage (message : CString) : CString :=
  cstr "runpod-shim: " ++ message

/-- The loop over the arguments: what is left of them, unless the script
ends. -/
def launchLoop (echo : Echo) :
    List CString → Launch → Except LaunchOutcome (Launch × List CString)
  | [], launch => .ok (launch, [])
  | arg :: rest, launch =>
      match LaunchSwitch.ofWord arg with
      | some switch =>
          launchLoop echo rest
            { launch with
              env :=
                exportVariable switch.variableName switch.value launch.env }
      | none =>
          if arg = libWord then
            match rest with
            | [] =>
                .error
                  (.exits 2 []
                    (echo.out (launchMessage (cstr "--lib requires a path"))))
            | path :: more => launchLoop echo more (launch.setLib path)
          else if isHelpWord arg then .error (.exits 0 launchUsage [])
          else if arg = endWord then .ok (launch, rest)
          else if isOptionWord arg then
            .error
              (.exits 2 []
                (echo.out (launchMessage (cstr "unknown option: " ++ arg)) ++
                  launchUsage))
          else .ok (launch, arg :: rest)

/-! ## The script -/

/-- `$LD_PRELOAD` as it is exported. -/
def preloadValue (lib : CString) (env : Environment) : CString :=
  let before := (env ldPreloadVariable).getD []
  if before = [] then lib else lib ++ cstr ":" ++ before

/-- `exec "$@"`. -/
def LauncherWorld.turnInto (world : LauncherWorld) (words : List CString)
    (env : Environment) : LaunchOutcome :=
  match world.exec.run words env with
  | .error failure => .exits failure.status [] []
  | .ok (command, commanded) => .execs command commanded

/-- What is left to do with the arguments that follow the options. -/
def launchCommand (world : LauncherWorld) (launch : Launch)
    (command : List CString) : LaunchOutcome :=
  if command = [] then .exits 2 [] launchUsage
  else if !world.isFile launch.lib then
    .exits 1 []
      (world.echo.out
        (launchMessage (cstr "library not found at " ++ launch.lib)))
  else
    world.turnInto command
      (exportVariable ldPreloadVariable
        (preloadValue launch.lib launch.env) launch.env)

/-- The script, called as `script`. -/
def runpodShim (world : LauncherWorld) (script : CString)
    (env : Environment) (args : List CString) : LaunchOutcome :=
  match world.cdPwd (world.dirname script) with
  | .error failure => .exits failure.status [] []
  | .ok scriptDir =>
      match world.cdPwd (scriptDir ++ cstr "/..") with
      | .error failure => .exits failure.status [] []
      | .ok prefixDir =>
          match
            launchLoop world.echo args
              (startLaunch world scriptDir prefixDir
                (world.shell.start env))
          with
          | .error outcome => outcome
          | .ok (launch, command) => launchCommand world launch command

end RunpodShim

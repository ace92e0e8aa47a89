import Mathlib.Logic.Basic
import RunpodShim.CString

/-!
# Module switches

`core/config.c`, and the switches of `core/config.h` as the wrappers read
them.  The trace switch stands apart: what `rps_trace` leaves of an answer is
in `Preload.Trace`.
-/

namespace RunpodShim

structure RpsConfig where
  gpuVideo : Bool
  gpuIoctl : Bool
  cgroupMemory : Bool
deriving DecidableEq, Repr

/-- `rps_gpu_video_enabled`. -/
def rpsGpuVideoEnabled (cfg : RpsConfig) : Bool :=
  cfg.gpuVideo

/-- `rps_gpu_ioctl_enabled`. -/
def rpsGpuIoctlEnabled (cfg : RpsConfig) : Bool :=
  cfg.gpuVideo && cfg.gpuIoctl

/-! ## The environment -/

/-- The environment of a process, as `getenv` reads it. -/
abbrev Environment := CString → Option CString

/-- The variable is set to one of these texts. -/
def envIsAmong (texts : List CString) (env : Environment) (name : CString) :
    Bool :=
  (env name).any fun value => texts.any fun text => decide (value = text)

def disabledTexts : List CString :=
  [cstr "0", cstr "false", cstr "FALSE", cstr "off", cstr "OFF", cstr "no",
    cstr "NO"]

def enabledTexts : List CString :=
  [cstr "1", cstr "true", cstr "TRUE", cstr "on", cstr "ON", cstr "yes",
    cstr "YES"]

def rpsEnvIsDisabled (env : Environment) (name : CString) : Bool :=
  envIsAmong disabledTexts env name

def rpsEnvIsEnabled (env : Environment) (name : CString) : Bool :=
  envIsAmong enabledTexts env name

def gpuVideoVariable : CString := cstr "RUNPOD_SHIM_GPU_VIDEO"

def gpuIoctlVariable : CString := cstr "RUNPOD_SHIM_GPU_IOCTL"

def cgroupMemoryVariable : CString := cstr "RUNPOD_SHIM_CGROUP_MEMORY"

def traceVariable : CString := cstr "RUNPOD_SHIM_TRACE"

/-- `struct rps_config` with its trace switch. -/
structure TracedConfig where
  config : RpsConfig
  trace : Bool
deriving DecidableEq, Repr

/-- `rps_config_get`, with what `config` holds once it is `initialized`: the
environment is only read by the first call. -/
def rpsConfigGet (env : Environment) (loaded : Option TracedConfig) :
    TracedConfig × Option TracedConfig :=
  let config :=
    loaded.getD
      { config :=
          { gpuVideo := !rpsEnvIsDisabled env gpuVideoVariable
            gpuIoctl := !rpsEnvIsDisabled env gpuIoctlVariable
            cgroupMemory := !rpsEnvIsDisabled env cgroupMemoryVariable }
        trace := rpsEnvIsEnabled env traceVariable }
  (config, some config)

end RunpodShim

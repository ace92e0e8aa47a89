import RunpodShim.Core.Config
import RunpodShim.Memory.Memory
import RunpodShim.Preload.Real

/-!
# `sysinfo` and `sysconf`

The two memory calls of `preload.c`.  What the real function answers is an
argument, and so are the ranges of `unsigned long` and `long`.
-/

namespace RunpodShim

/-- `EOVERFLOW`. -/
def eoverflow : Int := 75

/-- `UINT_MAX`. -/
def uintMax : Nat := 4294967295

/-- `struct sysinfo`. -/
structure SysInfo where
  uptime : Int
  loads : List Nat
  totalram : Nat
  freeram : Nat
  sharedram : Nat
  bufferram : Nat
  totalswap : Nat
  freeswap : Nat
  procs : Nat
  totalhigh : Nat
  freehigh : Nat
  memUnit : Nat
deriving DecidableEq, Repr

/-- The loop of `encode_sysinfo_memory`: the scale after it, unless it gives
up.  The scale doubles every round and no round starts above 2147483648, so
33 rounds are enough. -/
def encodeScale (ulongMax : Nat) (snapshot : RpsMemorySnapshot) :
    Nat → Nat → Option Nat
  | 0, _ => none
  | rounds + 1, scale =>
      if snapshot.total / scale > ulongMax ∨
          snapshot.available / scale > ulongMax then
        if scale > uintMax / 2 then none
        else encodeScale ulongMax snapshot rounds (scale * 2)
      else some scale

/-- `totalram`, `freeram` and `mem_unit`. -/
structure EncodedMemory where
  totalram : Nat
  freeram : Nat
  memUnit : Nat
deriving DecidableEq, Repr

/-- `encode_sysinfo_memory`; `none` is the result `false`. -/
def encodeSysinfoMemory (ulongMax : Nat) (snapshot : RpsMemorySnapshot) :
    Option EncodedMemory :=
  (encodeScale ulongMax snapshot 33 1).bind fun scale =>
    if scale > uintMax then none
    else some ⟨snapshot.total / scale, snapshot.available / scale, scale⟩

/-- `sysinfo`, when the real call returned `rc` with `*info` filled in;
`enters` is the result of `rps_guard_enter`.  The result is `rc`. -/
def sysinfo (ulongMax : Nat) (cfg : RpsConfig) (enters : Bool)
    (world : FileWorld) (state : MemoryState) (rc : Int)
    (info : Option SysInfo) : Option SysInfo × MemoryState :=
  match info with
  | none => (none, state)
  | some real =>
      if rc ≠ 0 ∨ cfg.cgroupMemory = false then (some real, state)
      else if !enters then (some real, state)
      else
        let taken := rpsMemorySnapshot world state (some ⟨0, 0⟩)
        if !taken.ok then (some real, taken.state)
        else
          (some
              (((encodeSysinfoMemory ulongMax
                  (taken.out.getD ⟨0, 0⟩)).map fun encoded =>
                { real with
                  memUnit := encoded.memUnit
                  totalram := encoded.totalram
                  freeram := encoded.freeram }).getD real),
            taken.state)

/-- The names that `sysconf` is asked for. -/
inductive SysconfName where
  | physPages
  | avphysPages
  | pageSize
  | other (name : Int)
deriving DecidableEq, Repr

/-- `sysconf`, over what the real function answers for each name. -/
def sysconf (longMax : Nat) (cfg : RpsConfig) (enters : Bool)
    (world : FileWorld) (state : MemoryState)
    (real : SysconfName → Ret Int) (name : SysconfName) :
    Ret Int × MemoryState :=
  if name ≠ .physPages ∧ name ≠ .avphysPages then (real name, state)
  else if !cfg.cgroupMemory || !enters then (real name, state)
  else if (real .pageSize).value ≤ 0 then (real name, state)
  else
    let taken := rpsMemorySnapshot world state (some ⟨0, 0⟩)
    if !taken.ok then (real name, taken.state)
    else
      let snapshot := taken.out.getD ⟨0, 0⟩
      let bytes :=
        if name = .physPages then snapshot.total else snapshot.available
      let pages := bytes / (real .pageSize).value.toNat
      if pages > longMax then (⟨-1, eoverflow⟩, taken.state)
      else (⟨pages, (real .pageSize).errno⟩, taken.state)

end RunpodShim

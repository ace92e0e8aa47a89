import RunpodShim.Cgroup.Cgroup

/-!
# Memory snapshots

`memory/memory.c` and `memory/proc_meminfo.c`.
-/

namespace RunpodShim

open TextLines

structure RpsMemorySnapshot where
  total : Nat
  available : Nat
deriving DecidableEq, Repr

/-- The static variables of `rps_memory_snapshot`. -/
structure MemoryState where
  cgmem : RpsCgroupMemory
  detected : Bool
deriving DecidableEq, Repr

/-- The variables before the first call. -/
def MemoryState.initial : MemoryState :=
  ⟨zeroCgroupMemory, false⟩

/-- What a call of `rps_memory_snapshot` leaves: its result, `*out` and the
static variables. -/
structure Snapshot where
  ok : Bool
  out : Option RpsMemorySnapshot
  state : MemoryState
deriving DecidableEq, Repr

/-- `if (!detected)`: the static variables after it. -/
def detectOnce (world : FileWorld) (state : MemoryState) : MemoryState :=
  if state.detected then state
  else
    { cgmem := (rpsCgroupMemoryDetect world).2
      detected := (rpsCgroupMemoryDetect world).1 }

/-- What a successful call puts into `*out`. -/
def snapshotOf (mem : RpsCgroupMemory) : RpsMemorySnapshot where
  total := mem.limitBytes
  available :=
    if mem.currentBytes < mem.limitBytes then
      mem.limitBytes - mem.currentBytes
    else 0

/-- `rps_memory_snapshot`; an `out` of `none` is NULL. -/
def rpsMemorySnapshot (world : FileWorld) (state : MemoryState)
    (out : Option RpsMemorySnapshot) : Snapshot :=
  if out = none then ⟨false, out, state⟩
  else
    let current := detectOnce world state
    if !current.detected then ⟨false, out, current⟩
    else
      match rpsCgroupMemoryRefresh world current.cgmem with
      | none => ⟨false, out, current⟩
      | some mem =>
          ⟨true, some (snapshotOf mem), { current with cgmem := mem }⟩

/-! ## The meminfo text -/

def appendBytes (buflen : Nat) (buf data : CString) : Option CString :=
  if data.length > buflen ∨ buf.length > buflen - data.length then none
  else some (buf ++ data)

/-- `"%s%16llu kB"`, with a newline or without. -/
def kbLine (key : CString) (valueKb : Nat) (ends : Bool) : CString :=
  let digits := cstr (toString valueKb)
  key ++ List.replicate (16 - digits.length) 32 ++ digits ++ cstr " kB" ++
    if ends then [newline] else []

def appendRewrittenLine (buflen : Nat) (buf key : CString) (valueKb : Nat)
    (ends : Bool) : Option CString :=
  if (kbLine key valueKb ends).length ≥ 128 then none
  else appendBytes buflen buf (kbLine key valueKb ends)

/-- The body of the loop of `rps_proc_meminfo_build`. -/
def rewriteLine (snapshot : RpsMemorySnapshot) (buflen : Nat)
    (buf line : CString) : Option CString :=
  let ends := line.contains newline
  if cstr "MemTotal:" <+: line then
    appendRewrittenLine buflen buf (cstr "MemTotal:")
      (snapshot.total / 1024) ends
  else if cstr "MemAvailable:" <+: line then
    appendRewrittenLine buflen buf (cstr "MemAvailable:")
      (snapshot.available / 1024) ends
  else if cstr "MemFree:" <+: line then
    appendRewrittenLine buflen buf (cstr "MemFree:")
      (snapshot.available / 1024) ends
  else appendBytes buflen buf line

/-- The loop over the lines. -/
def rewriteLines (snapshot : RpsMemorySnapshot) (buflen : Nat) :
    CString → List CString → Option CString
  | buf, [] => some buf
  | buf, line :: rest =>
      (rewriteLine snapshot buflen buf line).bind fun next =>
        rewriteLines snapshot buflen next rest

/-- `open_meminfo`: the path that was opened. -/
def openMeminfo (world : FileWorld) : Option CString :=
  (rpsProcPath world cgroupPathSize (cstr "/proc/meminfo")).bind fun path =>
    if (world.file path).isSome then some path
    else if path ≠ cstr "/proc/meminfo" then
      (rpsProcPath world cgroupPathSize (cstr "/proc/self/meminfo")).filter
        fun other => (world.file other).isSome
    else none

/-- `rps_proc_meminfo_build`: the text, and the static variables of
`rps_memory_snapshot` after it. -/
def rpsProcMeminfoBuild (world : FileWorld) (state : MemoryState)
    (buflen : Nat) : Option CString × MemoryState :=
  let taken := rpsMemorySnapshot world state (some ⟨0, 0⟩)
  if !taken.ok then (none, taken.state)
  else
    ((openMeminfo world).bind fun path =>
      let lines :=
        (readChunks newline (lineBufferSize - 1)
          ((world.file path).getD []).length
          ((world.file path).getD [])).map
            fun line => line.takeWhile (· != 0)
      (rewriteLines (taken.out.getD ⟨0, 0⟩) buflen [] lines).filter
        fun _ => !world.readError path,
      taken.state)

end RunpodShim

import RunpodShim.Core.Paths
import RunpodShim.Library.TextLines

/-!
# Cgroup memory detection

`cgroup/cgroup.c`.  A file that is read with `fgets` is cut into the pieces
that the buffer takes, and each piece is a C string.
-/

namespace RunpodShim

open LexicalPath
open TextLines

/-- `RPS_CGROUP_UNLIMITED_SENTINEL`. -/
def rpsCgroupUnlimitedSentinel : Nat := 0x7ffffffffffff000

/-- The size of the path buffers. -/
def cgroupPathSize : Nat := 512

/-- The size of the line buffers. -/
def lineBufferSize : Nat := 1024

/-- The size of the token buffers. -/
def tokenBufferSize : Nat := 64

structure RpsCgroupMemory where
  version : Nat
  limitBytes : Nat
  currentBytes : Nat
  limitPath : CString
  currentPath : CString
deriving DecidableEq, Repr

/-- The record after `memset`. -/
def zeroCgroupMemory : RpsCgroupMemory :=
  ⟨0, 0, 0, [], []⟩

/-- A root and a mount point; the source keeps them next to a flag, and reads
them when the flag is set only. -/
structure CgroupMount where
  root : CString
  mountPoint : CString
deriving DecidableEq, Repr

structure RpsCgroupMounts where
  v2 : Option CgroupMount
  v1Memory : Option CgroupMount
deriving DecidableEq, Repr

/-! ## Files of one token -/

/-- `isspace` in the C locale. -/
def isSpace (byte : UInt8) : Bool :=
  byte == 32 || 9 ≤ byte && byte ≤ 13

def trimToken (buf : CString) : CString :=
  (buf.dropWhile isSpace).takeWhile fun byte => !isSpace byte

/-- The C string that one `fgets` leaves in a buffer; `none` is NULL. -/
def fgets (size : Nat) (stream : List UInt8) : Option CString :=
  if stream = [] then none
  else some ((chunk newline (size - 1) stream).takeWhile (· != 0))

/-- `read_token_file`; `none` is the result `false`. -/
def readTokenFile (world : FileWorld) (path : CString) (buflen : Nat) :
    Option CString :=
  (world.file path).bind fun stream =>
    (fgets buflen stream).bind fun buf =>
      if trimToken buf = [] then none else some (trimToken buf)

def parseU64Token (token : CString) : Option Nat :=
  if token = [] then none else digitLoop uint64Max token 0

def readLimitFile (world : FileWorld) (path : CString) : Option Nat :=
  (readTokenFile world path tokenBufferSize).bind fun token =>
    if token = cstr "max" then none
    else
      (parseU64Token token).bind fun value =>
        if value = 0 ∨ value ≥ rpsCgroupUnlimitedSentinel then none
        else some value

def readCounterFile (world : FileWorld) (path : CString) : Option Nat :=
  (readTokenFile world path tokenBufferSize).bind parseU64Token

/-! ## Mounts -/

/-- The byte `','`. -/
def comma : UInt8 := 44

/-- The loop of `controllers_include`; every round passes a byte. -/
def controllersLoop (needle : CString) : Nat → CString → Bool
  | 0, _ => false
  | rounds + 1, part =>
      if part = [] then false
      else if part.takeWhile (· != comma) = needle then true
      else if part.dropWhile (· != comma) = [] then false
      else
        controllersLoop needle rounds
          ((part.dropWhile (· != comma)).drop 1)

def controllersInclude (controllers needle : CString) : Bool :=
  controllersLoop needle controllers.length controllers

/-- `copy_mount`. -/
def copyMount (buflen : Nat) (mountPoint : CString) : Option CString :=
  if mountPoint.length < buflen then some mountPoint else none

/-- The locals of `parse_mountinfo_line`. -/
structure MountFields where
  mountRoot : Option CString
  mountPoint : Option CString
  mountOptions : Option CString
  fstype : Option CString
  superOptions : Option CString
deriving DecidableEq, Repr

/-- The loop over the tokens of a line, after `field` of them. -/
def mountFieldsLoop : Nat → List CString → MountFields → MountFields
  | _, [], fields => fields
  | field, token :: rest, fields =>
      let taken :=
        if field + 1 = 4 then { fields with mountRoot := some token }
        else if field + 1 = 5 then { fields with mountPoint := some token }
        else if field + 1 = 6 then { fields with mountOptions := some token }
        else fields
      if token = cstr "-" then
        { taken with fstype := rest[0]?, superOptions := rest[2]? }
      else mountFieldsLoop (field + 1) rest taken

/-- The root and the mount point, when both fit their buffers. -/
def copyMounts (mountRoot mountPoint : CString) : Option CgroupMount :=
  (copyMount cgroupPathSize mountRoot).bind fun root =>
    (copyMount cgroupPathSize mountPoint).map fun point => ⟨root, point⟩

/-- `parse_mountinfo_line`: the mounts after it. -/
def parseMountinfoLine (mounts : RpsCgroupMounts) (line : CString) :
    RpsCgroupMounts :=
  let fields :=
    mountFieldsLoop 0 (segments 32 line) ⟨none, none, none, none, none⟩
  match fields.mountRoot, fields.mountPoint, fields.fstype with
  | some mountRoot, some mountPoint, some fstype =>
      { v2 :=
          if mounts.v2 = none ∧ fstype = cstr "cgroup2" then
            copyMounts mountRoot mountPoint
          else mounts.v2
        v1Memory :=
          if mounts.v1Memory = none ∧ fstype = cstr "cgroup" ∧
              (controllersInclude (fields.mountOptions.getD [])
                  (cstr "memory") = true ∨
                controllersInclude (fields.superOptions.getD [])
                  (cstr "memory") = true) then
            copyMounts mountRoot mountPoint
          else mounts.v1Memory }
  | _, _, _ => mounts

/-- `line[strcspn(line, "\\r\\n")] = '\\0'` on what `fgets` left. -/
def cutLine (line : CString) : CString :=
  line.takeWhile fun byte =>
    byte != 0 && byte != carriageReturn && byte != newline

/-- The lines that a loop of `fgets` hands out. -/
def fgetsLines (stream : List UInt8) : List CString :=
  (readChunks newline (lineBufferSize - 1) stream.length stream).map cutLine

/-- `detect_mounts`; `none` is the result `false`. -/
def detectMounts (world : FileWorld) : Option RpsCgroupMounts :=
  (rpsProcPath world cgroupPathSize (cstr "/proc/self/mountinfo")).bind
    fun path =>
      (world.file path).bind fun stream =>
        let mounts :=
          (fgetsLines stream).foldl parseMountinfoLine ⟨none, none⟩
        if mounts.v2.isSome || mounts.v1Memory.isSome then some mounts
        else none

/-! ## Candidates -/

/-- The two file names of a hierarchy. -/
structure CgroupFiles where
  version : Nat
  limitFile : CString
  currentFile : CString
deriving DecidableEq, Repr

def v2Files : CgroupFiles :=
  ⟨2, cstr "memory.max", cstr "memory.current"⟩

def v1Files : CgroupFiles :=
  ⟨1, cstr "memory.limit_in_bytes", cstr "memory.usage_in_bytes"⟩

/-- The candidate that `consider_candidate` builds, unless it returns
early. -/
def candidateAt (world : FileWorld) (files : CgroupFiles)
    (mount : CgroupMount) (relPath : CString) : Option RpsCgroupMemory :=
  (rpsCgroupPath world cgroupPathSize mount.mountPoint (some mount.root)
      (some relPath) files.limitFile).bind fun limitPath =>
    (rpsCgroupPath world cgroupPathSize mount.mountPoint (some mount.root)
        (some relPath) files.currentFile).bind fun currentPath =>
      (readLimitFile world limitPath).bind fun limitBytes =>
        (readCounterFile world currentPath).map fun currentBytes =>
          ⟨files.version, limitBytes, currentBytes, limitPath, currentPath⟩

/-- `found` and `*out` inside `rps_cgroup_memory_detect`. -/
structure Detection where
  found : Bool
  best : RpsCgroupMemory
deriving DecidableEq, Repr

/-- `consider_candidate`: what it leaves. -/
def considerCandidate (detection : Detection)
    (candidate : Option RpsCgroupMemory) : Detection :=
  match candidate with
  | none => detection
  | some candidate =>
      if !detection.found ∨
          candidate.limitBytes < detection.best.limitBytes then
        ⟨true, candidate⟩
      else detection

/-- The byte `':'`. -/
def colon : UInt8 := 58

/-- `hierarchy`, `controllers` and `rel_path` of a line. -/
structure CgroupLine where
  hierarchy : CString
  controllers : CString
  relPath : CString
deriving DecidableEq, Repr

/-- The cuts at the first two colons of a line. -/
def splitCgroupLine (line : CString) : Option CgroupLine :=
  let first := line.dropWhile (· != colon)
  if first = [] then none
  else
    let second := (first.drop 1).dropWhile (· != colon)
    if second = [] then none
    else
      some
        { hierarchy := line.takeWhile (· != colon)
          controllers := (first.drop 1).takeWhile (· != colon)
          relPath :=
            if second.drop 1 = [] then [slash] else second.drop 1 }

/-- The body of the loop of `rps_cgroup_memory_detect`. -/
def detectLine (world : FileWorld) (mounts : RpsCgroupMounts)
    (detection : Detection) (line : CString) : Detection :=
  match splitCgroupLine line with
  | none => detection
  | some parts =>
      let afterV2 :=
        if parts.hierarchy = cstr "0" ∧ parts.controllers = [] then
          considerCandidate detection
            (mounts.v2.bind fun mount =>
              candidateAt world v2Files mount parts.relPath)
        else detection
      if controllersInclude parts.controllers (cstr "memory") = true then
        considerCandidate afterV2
          (mounts.v1Memory.bind fun mount =>
            candidateAt world v1Files mount parts.relPath)
      else afterV2

/-- `rps_cgroup_memory_detect`: the result and `*out`. -/
def rpsCgroupMemoryDetect (world : FileWorld) : Bool × RpsCgroupMemory :=
  match detectMounts world with
  | none => (false, zeroCgroupMemory)
  | some mounts =>
      match
        (rpsProcPath world cgroupPathSize (cstr "/proc/self/cgroup")).bind
          world.file
      with
      | none => (false, zeroCgroupMemory)
      | some stream =>
          let detection :=
            (fgetsLines stream).foldl (detectLine world mounts)
              ⟨false, zeroCgroupMemory⟩
          if !detection.found then (false, zeroCgroupMemory)
          else (true, detection.best)

/-- `rps_cgroup_memory_refresh`: the record after it; `none` is the result
`false`, with which the record stays as it is. -/
def rpsCgroupMemoryRefresh (world : FileWorld) (mem : RpsCgroupMemory) :
    Option RpsCgroupMemory :=
  if mem.currentPath = [] then none
  else
    (readCounterFile world mem.currentPath).map fun current =>
      { mem with currentBytes := current }

end RunpodShim

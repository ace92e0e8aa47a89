import Mathlib.Data.List.DropRight
import RunpodShim.CString

/-!
# Paths of the proc and cgroup files

`core/paths.c`.  The two environment variables that move the roots are
arguments here, and `none` is the result -1.
-/

namespace RunpodShim

/-- The files that the memory side of the shim reads: what reading a path
delivers up to its end or up to an error, unless it cannot be opened, and
whether there was an error; and the two test roots. -/
structure FileWorld where
  file : CString → Option (List UInt8)
  readError : CString → Bool
  testProcRoot : Option CString
  testCgroupRoot : Option CString

/-- A world of the given files, without test roots. -/
def worldOf (files : List (CString × List UInt8)) : FileWorld where
  file := fun path =>
    (files.find? fun entry => decide (entry.1 = path)).map Prod.snd
  readError := fun _ => false
  testProcRoot := none
  testCgroupRoot := none

/-- `root == NULL || root[0] == '\0'`, and the root otherwise. -/
def testRoot (root : Option CString) : Option CString :=
  root.filter fun path => !path.isEmpty

def cleanRel (path : CString) : CString :=
  path.dropWhile (· == slash)

def procSelf : CString := cstr "/proc/self/"

def cleanProcRel (path : CString) : CString :=
  if procSelf <+: path then path.drop procSelf.length else cleanRel path

/-- `cgroup_root`. -/
def cgroupRoot : CString := cstr "/sys/fs/cgroup"

def cleanCgroupMountRel (mountPoint : CString) : CString :=
  if mountPoint = cgroupRoot then []
  else if cgroupRoot ++ [slash] <+: mountPoint then
    mountPoint.drop (cgroupRoot.length + 1)
  else cleanRel mountPoint

/-- `append_segment`: the buffer after it; `used` is its length. -/
def appendSegment (buflen : Nat) (buf segment : CString) : Option CString :=
  if segment = [] then some buf
  else
    let written :=
      if buf.getLast? = some slash then cleanRel segment
      else slash :: cleanRel segment
    if written.length ≥ buflen - buf.length then none
    else some (buf ++ written)

/-- The root path for NULL or an empty one. -/
def orRootPath (path : Option CString) : CString :=
  if path.getD [] = [] then [slash] else path.getD []

/-- The first `root_len` bytes of the mount root. -/
def withoutTrailingSlashes (root : CString) : CString :=
  root.take 1 ++ (root.drop 1).rdropWhile (· == slash)

/-- `cgroup_path_under_mount_root`: `*inside_mount`; `none` is the result
`false`. -/
def cgroupPathUnderMountRoot (mountRoot relPath : Option CString) :
    Option CString :=
  let root := withoutTrailingSlashes (orRootPath mountRoot)
  let path := orRootPath relPath
  if root = [slash] then some path
  else if ¬ root <+: path then none
  else
    let inside := path.drop root.length
    if inside = [] then some [slash]
    else if inside.head? = some slash then some inside
    else none

/-- `rps_proc_path`: the buffer after it. -/
def rpsProcPath (world : FileWorld) (buflen : Nat) (path : CString) :
    Option CString :=
  let written :=
    ((testRoot world.testProcRoot).map fun root =>
      root ++ slash :: cleanProcRel path).getD path
  if written.length < buflen then some written else none

/-- `root` and `mount_point` once the test root is taken into account. -/
def cgroupStart (world : FileWorld) (mountPoint : CString) :
    CString × CString :=
  ((testRoot world.testCgroupRoot).map fun root =>
    (root, cleanCgroupMountRel mountPoint)).getD (mountPoint, [])

/-- `rps_cgroup_path`: the buffer after it. -/
def rpsCgroupPath (world : FileWorld) (buflen : Nat) (mountPoint : CString)
    (mountRoot relPath : Option CString) (file : CString) :
    Option CString :=
  (cgroupPathUnderMountRoot mountRoot relPath).bind fun insideMount =>
    let start := cgroupStart world mountPoint
    if start.1.length ≥ buflen then none
    else
      (appendSegment buflen start.1 start.2).bind fun mounted =>
        (appendSegment buflen mounted insideMount).bind fun below =>
          appendSegment buflen below file

end RunpodShim

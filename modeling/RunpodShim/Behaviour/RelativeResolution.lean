import Mathlib.Data.List.Induction
import Mathlib.Data.List.Infix
import RunpodShim.Behaviour.NormalForms
import RunpodShim.Preload.RelativePath

/-!
# Relative resolution

The path that the wrappers decide on, for a relative path below a tracked
directory, is the normal form of that path written out behind the directory's
own.
-/

namespace RunpodShim

open LexicalPath

/-- The walk of `path` from the directory at `start` never takes `..` in the
gpus directory, never holds too many segments, and ends at a path shorter than
the buffer. -/
structure WalksWithin (start path : CString) (bufferLen : Nat) : Prop where
  inside : ∀ front, front ++ [cstr ".."] <+: segments slash path →
    resolve unixPath (segments slash start) front ≠ gpusNames
  room : ∀ front, front <+: segments slash path →
    (resolve unixPath (segments slash start) front).length ≤
      rpsGpuSegmentsMax
  short :
    (render slash
      (resolve unixPath (segments slash start)
        (segments slash path))).length < bufferLen

instance (start path : CString) (bufferLen : Nat) :
    Decidable (WalksWithin start path bufferLen) :=
  decidable_of_iff
    ((∀ front, front ∈ (segments slash path).inits →
        front ++ [cstr ".."] <+: segments slash path →
          resolve unixPath (segments slash start) front ≠ gpusNames) ∧
      (∀ front, front ∈ (segments slash path).inits →
        (resolve unixPath (segments slash start) front).length ≤
          rpsGpuSegmentsMax) ∧
      (render slash
        (resolve unixPath (segments slash start)
          (segments slash path))).length < bufferLen)
    ⟨fun walks =>
      { inside := fun front climbs =>
          walks.1 front
            ((List.mem_inits _ _).mpr
              ((List.prefix_append front _).trans climbs))
            climbs
        room := fun front walked =>
          walks.2.1 front ((List.mem_inits _ _).mpr walked)
        short := walks.2.2 },
      fun walks =>
        ⟨fun front _ => walks.inside front,
          fun front walked =>
            walks.room front ((List.mem_inits _ _).mp walked),
          walks.short⟩⟩

/-- At the depth of the gpus directory the rule for `..` blocks. -/
theorem gpusClimb_rule (stack : List CString) :
    gpusClimb stack =
      if stack.length ≤ gpusNames.length then none
      else some stack.dropLast :=
  rfl

section Directory

variable {record : RpsGpuFdRecord} {base names : List CString}
variable {path : CString} {bufferLen : Nat}

/-- A walk that never takes `..` in the gpus directory stays below it. -/
theorem gpusNames_prefix_of_resolve {pieces : List CString}
    (below : gpusNames <+: base)
    (inside : ∀ front, front ++ [unixPath.parent] <+: pieces →
      resolve unixPath base front ≠ gpusNames)
    (front : List CString) (walked : front <+: pieces) :
    gpusNames <+: resolve unixPath base front := by
  induction front using List.reverseRecOn with
  | nil =>
      exact below
  | append_singleton front segment inductionHypothesis =>
      have before :=
        inductionHypothesis ((List.prefix_append front _).trans walked)
      rw [resolve_append, resolve_cons, resolve_nil, enter]
      split
      · exact before
      · split
        · rename_i isParent
          exact
            gpusNames_prefix_dropLast before
              (inside front (isParent ▸ walked))
        · exact before.trans (List.prefix_append _ _)

/-- So it can only be blocked there. -/
theorem keepsWithin_iff_of_below (below : gpusNames <+: base)
    (pieces : List CString) :
    KeepsWithin unixPath rpsGpuSegmentsMax
        (fun stack => stack.length ≤ gpusNames.length) base pieces ↔
      (∀ front, front ++ [unixPath.parent] <+: pieces →
        resolve unixPath base front ≠ gpusNames) ∧
      ∀ front, front <+: pieces →
        (resolve unixPath base front).length ≤ rpsGpuSegmentsMax := by
  constructor
  · intro keeps
    refine ⟨?_, keeps.short⟩
    intro front climbs atGpus
    apply keeps.free front climbs
    exact Nat.le_of_eq (congrArg List.length atGpus)
  · intro given
    rcases given with ⟨inside, room⟩
    refine ⟨room, ?_⟩
    intro front climbs shallow
    have walked : front <+: pieces :=
      (List.prefix_append front _).trans climbs
    have prefixed := gpusNames_prefix_of_resolve below inside front walked
    exact inside front climbs (prefixed.eq_of_length_le shallow).symm

theorem namesBelow_eq_some_iff_walksWithin
    (directory : TrackedDirectory record base) :
    namesBelow bufferLen base path = some names ↔
      WalksWithin record.path path bufferLen ∧
        names = resolve unixPath base (segments slash path) := by
  have start : segments slash record.path = base := by
    rw [directory.written, segments_canonical directory.proper]
  have few : base.length ≤ rpsGpuSegmentsMax := by
    have bound := directory.few
    have limit : gpusNames.length + 1 ≤ rpsGpuSegmentsMax := by
      decide
    omega
  have walked :
      walkWithin unixPath rpsGpuSegmentsMax gpusClimb base
          (segments slash path) = some names ↔
        KeepsWithin unixPath rpsGpuSegmentsMax
            (fun stack => stack.length ≤ gpusNames.length) base
            (segments slash path) ∧
          names = resolve unixPath base (segments slash path) :=
    walkWithin_eq_some_iff gpusClimb_rule here_ne_parent few
  have written
      (inside : ∀ front, front ++ [unixPath.parent] <+: segments slash path →
        resolve unixPath base front ≠ gpusNames) :
      canonical (resolve unixPath base (segments slash path)) =
        render slash (resolve unixPath base (segments slash path)) := by
    apply canonical_of_ne_nil
    intro empty
    have prefixed :=
      gpusNames_prefix_of_resolve directory.below inside
        (segments slash path) (List.prefix_refl _)
    rw [empty] at prefixed
    exact absurd prefixed (by decide)
  rw [namesBelow_eq_some_iff, walked,
    keepsWithin_iff_of_below directory.below]
  constructor
  · intro given
    rcases given with ⟨⟨⟨inside, room⟩, rfl⟩, short⟩
    rw [written inside] at short
    exact
      ⟨⟨by rwa [start], by rwa [start], by rwa [start]⟩, rfl⟩
  · intro given
    rcases given with ⟨walks, rfl⟩
    have inside := walks.inside
    have room := walks.room
    have short := walks.short
    rw [start] at inside room short
    refine ⟨⟨⟨inside, room⟩, rfl⟩, ?_⟩
    rw [written inside]
    exact short

end Directory

/-- A relative path below a tracked directory is resolved to the normal form
of the whole path, or denied; it is never passed on. -/
theorem gpuEffectiveOpenatPath_exact {given : Option CString}
    {record : RpsGpuFdRecord} {nodes : List RpsGpuFdNode} {dirfd : Int}
    {path : CString} {bufferLen : Nat}
    (classified : rpsGpuClassifyPath given = (true, record))
    (kind : record.kind = .procGpusDir ∨ record.kind = .procGpuBusDir)
    (found : rpsGpuFdMapGet dirfd nodes = some record)
    (relative : pathIsRelative (some path) = true)
    (room : 0 < bufferLen) :
    (WalksWithin record.path path bufferLen →
      ∃ out,
        rpsGpuProcNormalizePath (some (record.path ++ slash :: path))
            bufferLen = some out ∧
          gpuEffectiveOpenatPath nodes dirfd (some path) bufferLen =
            (.resolved, some out)) ∧
    (¬ WalksWithin record.path path bufferLen →
      gpuEffectiveOpenatPath nodes dirfd (some path) bufferLen =
        (.deny, none)) := by
  obtain ⟨_, base, _, _, directory⟩ :=
    trackedDirectory_of_classified classified kind
  rw [gpuEffectiveOpenatPath_of_trackedDirectory found directory relative
    room]
  constructor
  · intro walks
    have below :
        namesBelow bufferLen base path =
          some (resolve unixPath base (segments slash path)) :=
      (namesBelow_eq_some_iff_walksWithin directory).mpr ⟨walks, rfl⟩
    have normal := namesWithin_of_namesBelow directory below
    have large : 2 ≤ bufferLen := by
      by_contra small
      rw [namesBelow_eq_none_of_small (Nat.not_le.mp small)] at below
      cases below
    refine ⟨canonical (resolve unixPath base (segments slash path)), ?_, ?_⟩
    · rw [rpsGpuProcNormalizePath_eq _ large, normal]
      rfl
    · rw [below]
  · intro strays
    cases below : namesBelow bufferLen base path with
    | none =>
        rfl
    | some names =>
        exact
          absurd
            ((namesBelow_eq_some_iff_walksWithin directory).mp below).1
            strays

/-- The record of the mounted GPU's directory. -/
def mountedBusRecord : RpsGpuFdRecord :=
  (rpsGpuClassifyPath
    (some (cstr "/proc/driver/nvidia/gpus/0000:04:00.0"))).2

/-- From there, with a detour, to another GPU. -/
theorem gpuEffectiveOpenatPath_exact_detour :
    ∃ out,
      rpsGpuProcNormalizePath
          (some
            (mountedBusRecord.path ++
              slash :: cstr "..//0000:05:00.0/./information"))
          rpsGpuPathMax = some out ∧
        gpuEffectiveOpenatPath [⟨3, mountedBusRecord⟩] 3
            (some (cstr "..//0000:05:00.0/./information"))
            rpsGpuPathMax =
          (.resolved, some out) :=
  (gpuEffectiveOpenatPath_exact
    (Prod.ext (by decide) rfl :
      rpsGpuClassifyPath
          (some (cstr "/proc/driver/nvidia/gpus/0000:04:00.0")) =
        (true, mountedBusRecord))
    (by decide) (by decide) (by decide) rpsGpuPathMax_pos).1
      (by decide)

end RunpodShim

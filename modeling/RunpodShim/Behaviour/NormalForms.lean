import RunpodShim.Gpu.ProcFilter

/-!
# Normal forms

What `rps_gpu_proc_normalize_path` computes: the lexical resolution of the
path, as long as neither the stack of live segments nor the result outgrows
its limit.
-/

namespace RunpodShim

open LexicalPath

/-- The segments that are live after the whole path. -/
def liveSegments (path : CString) : List CString :=
  resolve unixPath [] (segments slash path)

/-- `out` is the normal form of `path`, and both keep within the limits. -/
structure IsNormalForm (path : CString) (outSize : Nat) (out : CString) :
    Prop where
  absolute : path.head? = some slash
  room : ∀ front, front <+: segments slash path →
    (resolve unixPath [] front).length ≤ rpsGpuSegmentsMax
  short : out.length < outSize
  whole :
    out =
      if liveSegments path = [] then [slash]
      else render slash (liveSegments path)

/-- An absolute path without empty, `.` or `..` segments and without a slash
at its end; the root is one. -/
structure IsTidy (out : CString) : Prop where
  absolute : out.head? = some slash
  proper : out = [slash] ∨
    ∀ piece, piece ∈ out.tail.splitOn slash → IsName unixPath piece

theorem rootedClimb_rule (stack : List CString) :
    rootedClimb stack = if False then none else some stack.dropLast := by
  rw [if_neg not_false]
  rfl

theorem here_ne_parent : unixPath.here ≠ unixPath.parent := by
  decide

/-- The names within the limits, in terms of resolution only. -/
theorem namesWithin_eq_some_iff_resolve {outSize : Nat} {path : CString}
    {names : List CString} :
    namesWithin outSize path = some names ↔
      path.head? = some slash ∧
        (∀ front, front <+: segments slash path →
          (resolve unixPath [] front).length ≤ rpsGpuSegmentsMax) ∧
        (canonical names).length < outSize ∧
        names = liveSegments path := by
  have walked :
      walkWithin unixPath rpsGpuSegmentsMax rootedClimb []
          (segments slash path) = some names ↔
        KeepsWithin unixPath rpsGpuSegmentsMax (fun _ => False) []
            (segments slash path) ∧
          names = liveSegments path :=
    walkWithin_eq_some_iff rootedClimb_rule here_ne_parent (Nat.zero_le _)
  have keeps :
      KeepsWithin unixPath rpsGpuSegmentsMax (fun _ => False) []
          (segments slash path) ↔
        ∀ front, front <+: segments slash path →
          (resolve unixPath [] front).length ≤ rpsGpuSegmentsMax :=
    ⟨fun within => within.short, fun short => ⟨short, fun _ _ => id⟩⟩
  rw [namesWithin_eq_some_iff, walked, keeps]
  constructor
  · intro given
    rcases given with ⟨absolute, ⟨room, whole⟩, short⟩
    exact ⟨absolute, room, short, whole⟩
  · intro given
    rcases given with ⟨absolute, room, short, whole⟩
    exact ⟨absolute, ⟨room, whole⟩, short⟩

theorem isTidy_canonical {names : List CString}
    (proper : ∀ name, name ∈ names → IsName unixPath name) :
    IsTidy (canonical names) where
  absolute := head?_canonical names
  proper := by
    cases names with
    | nil =>
        exact Or.inl rfl
    | cons name rest =>
        right
        have cut :
            (name ++ render slash rest).splitOn slash = name :: rest :=
          splitOn_append_render fun other member =>
            (proper other member).toIsSegment
        rw [canonical_of_ne_nil (List.cons_ne_nil name rest), render_cons,
          List.tail_cons, cut]
        exact proper

/-- Normalisation is lexical resolution, gives tidy paths and leaves its own
results alone. -/
theorem rpsGpuProcNormalizePath_exact (path : CString) {outSize : Nat}
    (room : 2 ≤ outSize) :
    (∀ out,
      rpsGpuProcNormalizePath (some path) outSize = some out ↔
        IsNormalForm path outSize out) ∧
    ∀ out,
      rpsGpuProcNormalizePath (some path) outSize = some out →
        IsTidy out ∧
          rpsGpuProcNormalizePath (some out) outSize = some out := by
  constructor
  · intro out
    rw [rpsGpuProcNormalizePath_eq path room, Option.map_eq_some_iff]
    constructor
    · intro given
      rcases given with ⟨names, normal, rfl⟩
      obtain ⟨absolute, deep, short, rfl⟩ :=
        namesWithin_eq_some_iff_resolve.mp normal
      exact ⟨absolute, deep, short, rfl⟩
    · intro normal
      refine ⟨liveSegments path, ?_, normal.whole.symm⟩
      apply namesWithin_eq_some_iff_resolve.mpr
      have short : (canonical (liveSegments path)).length < outSize := by
        rw [canonical, ← normal.whole]
        exact normal.short
      exact ⟨normal.absolute, normal.room, short, rfl⟩
  · intro out normalized
    rw [rpsGpuProcNormalizePath_eq path room,
      Option.map_eq_some_iff] at normalized
    obtain ⟨names, normal, rfl⟩ := normalized
    refine ⟨isTidy_canonical (isName_of_mem_namesWithin normal), ?_⟩
    rw [rpsGpuProcNormalizePath_eq _ room,
      namesWithin_canonical_of_namesWithin normal]
    rfl

/-- A spelling with every kind of segment that cancels. -/
theorem rpsGpuProcNormalizePath_exact_spelling :
    IsNormalForm (cstr "/../proc//./driver/x/../nvidia/") 256
        (cstr "/proc/driver/nvidia") ∧
      rpsGpuProcNormalizePath (some (cstr "/proc/driver/nvidia")) 256 =
        some (cstr "/proc/driver/nvidia") := by
  have exact :=
    rpsGpuProcNormalizePath_exact
      (cstr "/../proc//./driver/x/../nvidia/") (by decide : 2 ≤ 256)
  have normalized :
      rpsGpuProcNormalizePath
          (some (cstr "/../proc//./driver/x/../nvidia/")) 256 =
        some (cstr "/proc/driver/nvidia") := by
    decide
  exact ⟨(exact.1 _).mp normalized, (exact.2 _ normalized).2⟩

end RunpodShim

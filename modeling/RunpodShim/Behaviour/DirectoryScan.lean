import RunpodShim.Preload.OpenEffects

/-!
# Scanning the gpus directory

A caller repeats `getdents64` until it returns 0.  The kernel hands the
listing out in batches, and the wrapper filters each batch by itself.
-/

namespace RunpodShim

universe u

/-- A kernel with one directory open; the world is the batches to come. -/
def batchReal : Real (List (List Dirent)) :=
  { constantReal (List (List Dirent)) 0 with
    sysGetdents64 := fun _ _ batches =>
      match batches with
      | [] => (⟨⟨0, 0⟩, []⟩, [])
      | batch :: rest =>
          (⟨⟨(direntBytes batch).length, 0⟩, direntBytes batch⟩, rest) }

/-- The bytes that a caller receives who repeats `getdents64` until it
returns 0, and the process then; `none` if `calls` calls are not enough or one
fails. -/
def readUntilEnd (shim : Shim) (fd : Int) (count : Nat) :
    Nat → Process (List (List Dirent)) →
      Option (List UInt8 × Process (List (List Dirent)))
  | 0, _ => none
  | calls + 1, process =>
      let called := Preload.getdents64 shim batchReal fd count process
      if called.1.ret.value = 0 then some ([], called.2)
      else if called.1.ret.value < 0 then none
      else
        (readUntilEnd shim fd count calls called.2).map fun later =>
          (called.1.bytes.take called.1.ret.value.toNat ++ later.1, later.2)

/-- The caller receives the visible records of the whole listing, and the
kernel has no further ones. -/
def ScanComplete (shim : Shim) (fd : Int) (count : Nat)
    (state : ShimState) (batches : List (List Dirent)) : Prop :=
  readUntilEnd shim fd count (batches.length + 1) ⟨state, batches⟩ =
    some
      (direntBytes
          (visibleDirents (some shim.allowed) batches.flatten),
        ⟨state, []⟩)

/-- Every batch that another one follows has a record to show. -/
def EveryBatchShows (allowed : RpsGpuAllowedGpus) :
    List (List Dirent) → Prop
  | [] | [_] => True
  | batch :: next :: rest =>
      visibleDirents (some allowed) batch ≠ [] ∧
        EveryBatchShows allowed (next :: rest)

section Scan

variable {shim : Shim} {state : ShimState} {fd : Int}
variable {record : RpsGpuFdRecord}

/-- The records that the kernel has put into the buffer of a tracked gpus
directory, after the wrapper. -/
theorem getdents64_records (video : shim.config.gpuVideo = true)
    (ready : shim.ready = true)
    (tracked : rpsGpuFdMapGet fd state.nodes = some record)
    (kind : record.kind = .procGpusDir)
    {World : Type u} {real : Real World} {world later : World}
    {count : Nat} {batch : List Dirent} {errno : Int}
    (answered :
      real.sysGetdents64 fd count world =
        (⟨⟨(direntBytes batch).length, errno⟩, direntBytes batch⟩,
          later)) :
    ∃ leftover,
      Preload.getdents64 shim real fd count ⟨state, world⟩ =
        (⟨⟨((direntBytes
                (visibleDirents (some shim.allowed) batch)).length : Int),
              errno⟩,
            direntBytes (visibleDirents (some shim.allowed) batch) ++
              leftover⟩,
          ⟨state, later⟩) := by
  have valid := shim.ready_valid ready
  obtain ⟨leftover, filtered⟩ :=
    rpsGpuFilterDirent64Buffer_records valid batch []
  rw [List.append_nil] at filtered
  by_cases empty : batch = []
  · subst empty
    refine ⟨[], ?_⟩
    simp [Preload.getdents64, answered, visibleDirents]
  · refine ⟨leftover ++ [], ?_⟩
    have more : 0 < (direntBytes batch).length := by
      apply List.length_pos_iff.mpr
      intro none
      exact empty (direntBytes_eq_nil_iff.mp none)
    simp [Preload.getdents64, answered, tracked, kind, ready, video,
      rpsGpuVideoEnabled, more, filtered]

/-- One batch through the wrapper on a tracked gpus directory. -/
theorem getdents64_batch (video : shim.config.gpuVideo = true)
    (ready : shim.ready = true)
    (tracked : rpsGpuFdMapGet fd state.nodes = some record)
    (kind : record.kind = .procGpusDir)
    (count : Nat) (batch : List Dirent) (rest : List (List Dirent)) :
    ∃ leftover,
      Preload.getdents64 shim batchReal fd count ⟨state, batch :: rest⟩ =
        (⟨⟨((direntBytes
                (visibleDirents (some shim.allowed) batch)).length : Int),
              0⟩,
            direntBytes (visibleDirents (some shim.allowed) batch) ++
              leftover⟩,
          ⟨state, rest⟩) :=
  getdents64_records video ready tracked kind rfl

/-- The caller stops at the first batch with nothing to show. -/
theorem readUntilEnd_batch (video : shim.config.gpuVideo = true)
    (ready : shim.ready = true)
    (tracked : rpsGpuFdMapGet fd state.nodes = some record)
    (kind : record.kind = .procGpusDir)
    (count calls : Nat) (batch : List Dirent)
    (rest : List (List Dirent)) :
    readUntilEnd shim fd count (calls + 1) ⟨state, batch :: rest⟩ =
      if visibleDirents (some shim.allowed) batch = [] then
        some ([], ⟨state, rest⟩)
      else
        (readUntilEnd shim fd count calls ⟨state, rest⟩).map fun later =>
          (direntBytes (visibleDirents (some shim.allowed) batch) ++
            later.1, later.2) := by
  obtain ⟨leftover, called⟩ :=
    getdents64_batch video ready tracked kind count batch rest
  rw [readUntilEnd]
  simp only [called]
  by_cases hidden : visibleDirents (some shim.allowed) batch = []
  · simp [hidden]
  · have more :
        ¬ ((direntBytes
            (visibleDirents (some shim.allowed) batch)).length : Int) =
          0 := by
      have nonempty :
          direntBytes (visibleDirents (some shim.allowed) batch) ≠ [] := by
        intro none
        exact hidden (direntBytes_eq_nil_iff.mp none)
      have positive := List.length_pos_iff.mpr nonempty
      omega
    have notFailed :
        ¬ ((direntBytes
            (visibleDirents (some shim.allowed) batch)).length : Int) <
          0 := by
      omega
    rw [if_neg more, if_neg notFailed, if_neg hidden, Int.toNat_natCast,
      List.take_left]

end Scan

/-! ## A hidden batch -/

def selfDirent : Dirent where
  bytes := List.replicate 16 0 ++ [24, 0, 4] ++ cstr "." ++ [0, 0, 0, 0]
  sized := by decide
  headed := by decide
  named := by decide

def hiddenDirent : Dirent where
  bytes :=
    List.replicate 16 0 ++ [32, 0, 4] ++ cstr "0000:05:00.0" ++ [0]
  sized := by decide
  headed := by decide
  named := by decide

def mountedDirent : Dirent where
  bytes :=
    List.replicate 16 0 ++ [32, 0, 4] ++ cstr "0000:04:00.0" ++ [0]
  sized := by decide
  headed := by decide
  named := by decide

/-- A process that has the gpus directory open as descriptor 3. -/
def gpusDirState : ShimState :=
  { ShimState.initial with
    nodes := [⟨3, (rpsGpuClassifyPath (some gpusPath)).2⟩] }

end RunpodShim

import RunpodShim.Preload.Call
import RunpodShim.Preload.OpenEffects

/-!
# Refused and transparent calls

A call that takes a path is either refused by the shim before any real call,
or it returns what the same call returns without the shim.  `effectivePath` is
what the decision is made on.
-/

namespace RunpodShim

universe u

/-- The path that a call is decided on, for the calls that take one. -/
def Call.effectivePath (nodes : List RpsGpuFdNode) :
    Call → Option (RpsGpuEffectivePathResult × Option CString)
  | .open_ path _ _ | .open64 path _ _ | .stat path | .opendir path
  | .opendir64 path => some (.passthrough, path)
  | .openat dirfd path _ _ | .openat64 dirfd path _ _
  | .newfstatat dirfd path _ | .fstatat dirfd path _ =>
      some (gpuEffectiveOpenatPath nodes dirfd path rpsGpuPathMax)
  | _ => none

/-- The directory and the path of a call that takes both. -/
def Call.dirfdPath : Call → Option (Int × Option CString)
  | .openat dirfd path _ _ | .openat64 dirfd path _ _
  | .newfstatat dirfd path _ | .fstatat dirfd path _ =>
      some (dirfd, path)
  | _ => none

/-- The shim refuses the call. -/
def Call.Refused (shim : Shim) (state : ShimState) (call : Call) : Prop :=
  ∃ result path,
    call.effectivePath state.nodes = some (result, path) ∧
      (result = .deny ∨ gpuProcDenied shim path = true)

instance (shim : Shim) (state : ShimState) (call : Call) :
    Decidable (call.Refused shim state) :=
  match effective : call.effectivePath state.nodes with
  | none =>
      .isFalse fun ⟨_, _, found, _⟩ => by
        rw [effective] at found
        cases found
  | some (result, path) =>
      decidable_of_iff
        (result = .deny ∨ gpuProcDenied shim path = true)
        ⟨fun denies => ⟨result, path, effective, denies⟩,
          fun ⟨_, _, found, denies⟩ => by
            rw [effective] at found
            cases found
            exact denies⟩

/-- The failure that a refused call returns. -/
def Call.refusal : Call → Reply
  | .opendir _ | .opendir64 _ => .pointer ⟨none, enoent⟩
  | .stat _ | .newfstatat _ _ _ | .fstatat _ _ _ => .filled ⟨denied, []⟩
  | _ => .number denied

/-- Through the shim the call returns what it returns without it, and leaves
the same world: with any real functions in any world. -/
def Call.Transparent (shim : Shim) (state : ShimState) (call : Call) :
    Prop :=
  ∀ (World : Type) (real : Real World) (env : Env) (world : World),
    ∃ after,
      perform shim real env call ⟨state, world⟩ =
        some
          ((direct real call world).1, ⟨after, (direct real call world).2⟩)

section Decision

variable {shim : Shim} {state : ShimState} {call : Call}

/-- A refused call fails with `ENOENT` and touches nothing. -/
theorem perform_of_refused (refused : call.Refused shim state)
    {World : Type u} (real : Real World) (env : Env) (world : World) :
    perform shim real env call ⟨state, world⟩ =
      some (call.refusal, ⟨state, world⟩) := by
  obtain ⟨result, path, effective, either⟩ := refused
  cases call with
  | openat dirfd given flags mode =>
      have found := Option.some.inj effective
      simp only [perform, Preload.openat,
        openatCommon_of_refused real env found either]
      rfl
  | openat64 dirfd given flags mode =>
      have found := Option.some.inj effective
      simp only [perform, Preload.openat64,
        openatCommon_of_refused real env found either]
      rfl
  | newfstatat dirfd given flags =>
      have found := Option.some.inj effective
      simp only [perform, Preload.newfstatat,
        fstatatCommon_of_refused real found either]
      rfl
  | fstatat dirfd given flags =>
      have found := Option.some.inj effective
      simp only [perform, Preload.fstatat,
        fstatatCommon_of_refused real found either]
      rfl
  | open_ given flags mode =>
      cases effective
      have denies : gpuProcDenied shim path = true := by
        simpa using either
      simp only [perform, Preload.open_,
        openCommon_of_refused real env denies]
      rfl
  | open64 given flags mode =>
      cases effective
      have denies : gpuProcDenied shim path = true := by
        simpa using either
      simp only [perform, Preload.open64,
        openCommon_of_refused real env denies]
      rfl
  | stat given =>
      cases effective
      have denies : gpuProcDenied shim path = true := by
        simpa using either
      simp only [perform, Preload.stat, denies, if_true]
      rfl
  | opendir given =>
      cases effective
      have denies : gpuProcDenied shim path = true := by
        simpa using either
      simp only [perform, Preload.opendir,
        opendirCommon_of_refused real env denies]
      rfl
  | opendir64 given =>
      cases effective
      have denies : gpuProcDenied shim path = true := by
        simpa using either
      simp only [perform, Preload.opendir64,
        opendirCommon_of_refused real env denies]
      rfl
  | _ =>
      cases effective

/-- A call on a path that is not refused is transparent. -/
theorem transparent_of_not_refused
    (takesPath : (call.effectivePath state.nodes).isSome)
    (goesOn : ¬ call.Refused shim state) :
    call.Transparent shim state := by
  obtain ⟨⟨result, path⟩, effective⟩ :=
    Option.isSome_iff_exists.mp takesPath
  have resolved : result ≠ .deny := by
    intro deny
    exact goesOn ⟨result, path, effective, Or.inl deny⟩
  have allows : gpuProcDenied shim path = false := by
    cases denies : gpuProcDenied shim path with
    | false =>
        rfl
    | true =>
        exact absurd ⟨result, path, effective, Or.inr denies⟩ goesOn
  intro World real env world
  cases call with
  | openat dirfd given flags mode =>
      have found := Option.some.inj effective
      simp only [perform, Preload.openat,
        openatCommon_of_allowed real env found resolved allows]
      exact ⟨_, rfl⟩
  | openat64 dirfd given flags mode =>
      have found := Option.some.inj effective
      simp only [perform, Preload.openat64,
        openatCommon_of_allowed real env found resolved allows]
      exact ⟨_, rfl⟩
  | newfstatat dirfd given flags =>
      have found := Option.some.inj effective
      simp only [perform, Preload.newfstatat,
        fstatatCommon_of_allowed real found resolved allows]
      exact ⟨_, rfl⟩
  | fstatat dirfd given flags =>
      have found := Option.some.inj effective
      simp only [perform, Preload.fstatat,
        fstatatCommon_of_allowed real found resolved allows]
      exact ⟨_, rfl⟩
  | open_ given flags mode =>
      cases effective
      simp only [perform, Preload.open_, openCommon, allows,
        Bool.false_eq_true, if_false]
      exact ⟨_, rfl⟩
  | open64 given flags mode =>
      cases effective
      simp only [perform, Preload.open64, openCommon, allows,
        Bool.false_eq_true, if_false]
      exact ⟨_, rfl⟩
  | stat given =>
      cases effective
      simp only [perform, Preload.stat, allows, Bool.false_eq_true,
        if_false]
      exact ⟨_, rfl⟩
  | opendir given =>
      cases effective
      simp only [perform, Preload.opendir, Preload.opendirCommon, allows,
        Bool.false_eq_true, if_false]
      exact ⟨_, rfl⟩
  | opendir64 given =>
      cases effective
      simp only [perform, Preload.opendir64, Preload.opendirCommon, allows,
        Bool.false_eq_true, if_false]
      exact ⟨_, rfl⟩
  | _ =>
      cases effective

/-- A refused call is not transparent: real functions that succeed show it. -/
theorem not_transparent_of_refused (refused : call.Refused shim state) :
    ¬ call.Transparent shim state := by
  intro transparent
  obtain ⟨after, same⟩ :=
    transparent Unit (constantReal Unit 0) containerEnv ()
  rw [perform_of_refused refused] at same
  have replies := congrArg Prod.fst (Option.some.inj same)
  obtain ⟨_, _, effective, _⟩ := refused
  cases call with
  | _ =>
      simp only [Call.effectivePath, reduceCtorEq] at effective <;>
        cases replies

/-- Functions that return 1 when they get this argument, and 0 otherwise. -/
def tellingReal (number : Option UInt64) (arg : Option IoctlArg) :
    Real Unit :=
  { constantReal Unit 0 with
    fcntl := fun _ _ given world =>
      (⟨if given = number then 1 else 0, 0⟩, world)
    ioctl := fun _ _ given world =>
      (⟨⟨if given = arg then 1 else 0, 0⟩, given⟩, world) }

/-- A call that loses its argument is not transparent. -/
theorem keepsArgument_of_transparent
    (transparent : call.Transparent shim state) : call.KeepsArgument := by
  cases call with
  | fcntl fd cmd arg =>
      rw [Call.keepsArgument_fcntl_iff]
      by_contra loses
      obtain ⟨after, same⟩ :=
        transparent Unit (tellingReal arg none) containerEnv ()
      have replies := congrArg Prod.fst (Option.some.inj same)
      have values :
          (if Preload.fcntlArgument cmd arg = arg then (1 : Int) else 0) =
            if arg = arg then 1 else 0 :=
        congrArg Ret.value (Reply.number.inj replies)
      rw [if_neg loses, if_pos rfl] at values
      cases values
  | ioctl fd request arg =>
      rw [Call.keepsArgument_ioctl_iff]
      by_contra loses
      obtain ⟨after, same⟩ :=
        transparent Unit (tellingReal none arg) containerEnv ()
      have replies := congrArg Prod.fst (Option.some.inj same)
      have values :
          (Preload.ioctl shim (tellingReal none arg) fd request arg
              ⟨state, ()⟩).1.ret.value =
            if arg = arg then 1 else 0 :=
        congrArg (fun reply => reply.ret.value) (Reply.ioctl.inj replies)
      have passed :
          (Preload.ioctl shim (tellingReal none arg) fd request arg
              ⟨state, ()⟩).1.ret.value =
            if (if ioctlRequestHasNoArg request then none else arg) = arg
              then 1 else 0 := by
        unfold Preload.ioctl
        generalize (if ioctlRequestHasNoArg request then none else arg) =
          given
        simp only
        split <;> rfl
      rw [passed, if_neg loses, if_pos rfl] at values
      cases values
  | _ =>
      rfl

end Decision

end RunpodShim

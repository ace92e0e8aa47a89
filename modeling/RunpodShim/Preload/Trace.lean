import RunpodShim.Preload.Transparency

/-!
# The trace

`gpu_trace_and_track_open` writes a trace line after the real call, and what
fails to be written leaves its error in `errno`.  That is seen after an open
that has failed: there `errno` is the caller's answer.  The other lines come
before a call that sets `errno`, or after one that has succeeded.
-/

namespace RunpodShim

universe u

variable {World : Type u}

/-- What `rps_trace` leaves in `errno`: nothing when tracing is off or stderr
takes the line, and the error of the write otherwise. -/
abbrev TraceError := Option Int

/-- `gpu_trace_and_track_open` gets to its `rps_trace`. -/
def gpuTraces (shim : Shim) (path : Option CString) : Bool :=
  rpsGpuVideoEnabled shim.config && (rpsGpuClassifyPath path).1

/-- The path that an opening call hands to `gpu_trace_and_track_open` also
when the real call has failed; `opendir` hands over only what it opened. -/
def Call.trackedPath (nodes : List RpsGpuFdNode) :
    Call → Option (Option CString)
  | .open_ path _ _ | .open64 path _ _ => some path
  | .openat dirfd path _ _ | .openat64 dirfd path _ _ =>
      let effectivePath :=
        (gpuEffectiveOpenatPath nodes dirfd path rpsGpuPathMax).2
      if pathIsAbsolute effectivePath ∨ dirfd = atFdcwd then
        some effectivePath
      else none
  | _ => none

/-- The call writes a trace line when its real call has failed. -/
def Call.traces (shim : Shim) (state : ShimState) (call : Call) : Bool :=
  (call.trackedPath state.nodes).any (gpuTraces shim)

/-- A failure after a trace line. -/
def Reply.traced (trace : TraceError) : Reply → Reply
  | .number ret =>
      .number
        (if ret.value < 0 then { ret with errno := trace.getD ret.errno }
        else ret)
  | reply => reply

/-- A call through the shim with its trace line.  A refused call sets `errno`
after its own line. -/
def performTraced (shim : Shim) (real : Real World) (env : Env)
    (trace : TraceError) (call : Call) (process : Process World) :
    Option (Reply × Process World) :=
  (perform shim real env call process).map fun done =>
    (if ¬ call.Refused shim process.state ∧
        call.traces shim process.state = true then
      done.1.traced trace
    else done.1, done.2)

/-- Through the shim and with its trace the call returns what it returns
without it, and leaves the same world. -/
def Call.TransparentTraced (shim : Shim) (state : ShimState)
    (trace : TraceError) (call : Call) : Prop :=
  ∀ (World : Type) (real : Real World) (env : Env) (world : World),
    ∃ after,
      performTraced shim real env trace call ⟨state, world⟩ =
        some
          ((direct real call world).1, ⟨after, (direct real call world).2⟩)

section Traced

variable {shim : Shim} {state : ShimState} {call : Call}

theorem Reply.traced_none (reply : Reply) : reply.traced none = reply := by
  cases reply with
  | number ret =>
      simp [Reply.traced]
  | _ =>
      rfl

/-- Where no line is written, or it does no harm, the trace is not seen. -/
theorem performTraced_of_untraced {trace : TraceError}
    (untraced : trace = none ∨ call.traces shim state = false)
    (real : Real World) (env : Env) (world : World) :
    performTraced shim real env trace call ⟨state, world⟩ =
      perform shim real env call ⟨state, world⟩ := by
  have same (reply : Reply) :
      (if ¬ call.Refused shim state ∧ call.traces shim state = true then
        reply.traced trace
      else reply) = reply := by
    rcases untraced with rfl | silent
    · rw [Reply.traced_none, ite_self]
    · simp [silent]
  simp only [performTraced, same]
  rw [Option.map_id']

/-- Opens that fail with this error. -/
def failingReal (errno : Int) : Real Unit :=
  { constantReal Unit (-1) with
    open_ := fun _ _ _ world => (⟨-1, errno⟩, world)
    open64 := fun _ _ _ world => (⟨-1, errno⟩, world)
    openat := fun _ _ _ _ world => (⟨-1, errno⟩, world) }

/-- A call that writes a trace line returns the error of its open. -/
theorem direct_failingReal (traces : call.traces shim state = true)
    (errno : Int) :
    direct (failingReal errno) call () = (.number ⟨-1, errno⟩, ()) := by
  cases call with
  | open_ | open64 | openat | openat64 =>
      rfl
  | _ =>
      cases traces

/-- A line that is not taken hides the error of a failed open. -/
theorem not_transparentTraced_of_traces {written : Int}
    (goesOn : ¬ call.Refused shim state)
    (traces : call.traces shim state = true) :
    ¬ call.TransparentTraced shim state (some written) := by
  intro transparent
  have takesPath : (call.effectivePath state.nodes).isSome := by
    cases call with
    | open_ | open64 | openat | openat64 =>
        rfl
    | _ =>
        cases traces
  obtain ⟨_, passed⟩ :=
    transparent_of_not_refused takesPath goesOn Unit
      (failingReal (written + 1)) containerEnv ()
  obtain ⟨_, same⟩ :=
    transparent Unit (failingReal (written + 1)) containerEnv ()
  rw [direct_failingReal traces] at passed same
  rw [performTraced, passed, Option.map_some,
    if_pos ⟨goesOn, traces⟩] at same
  have replies := congrArg Prod.fst (Option.some.inj same)
  have errors : written = written + 1 :=
    congrArg Ret.errno (Reply.number.inj replies)
  omega

/-- A refused call is not transparent, with whatever trace. -/
theorem not_transparentTraced_of_refused (refused : call.Refused shim state)
    (trace : TraceError) : ¬ call.TransparentTraced shim state trace := by
  intro transparent
  apply not_transparent_of_refused refused
  intro World real env world
  obtain ⟨after, same⟩ := transparent World real env world
  have notTraced :
      ¬ (¬ call.Refused shim state ∧
        call.traces shim state = true) := by
    intro both
    exact both.1 refused
  simp only [performTraced, if_neg notTraced] at same
  rw [Option.map_id'] at same
  exact ⟨after, same⟩

/-- With its trace a call is transparent if it is without, and no line is
written after the real open, or stderr takes it. -/
theorem transparentTraced_iff {trace : TraceError} :
    call.TransparentTraced shim state trace ↔
      call.Transparent shim state ∧
        (trace = none ∨ call.traces shim state = false) := by
  by_cases untraced : trace = none ∨ call.traces shim state = false
  · rw [and_iff_left untraced, Call.TransparentTraced]
    simp only [performTraced_of_untraced untraced]
    exact Iff.rfl
  · obtain ⟨isSome, writes⟩ := not_or.mp untraced
    obtain ⟨written, rfl⟩ := Option.ne_none_iff_exists'.mp isSome
    have traces : call.traces shim state = true :=
      Bool.not_eq_false _ ▸ writes
    apply iff_of_false
    · by_cases refused : call.Refused shim state
      · exact not_transparentTraced_of_refused refused _
      · exact not_transparentTraced_of_traces refused traces
    · intro both
      exact untraced both.2

end Traced

end RunpodShim

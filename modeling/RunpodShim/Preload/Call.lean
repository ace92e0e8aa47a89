import RunpodShim.Preload.Wrappers

/-!
# Calls of the wrappers

One type of calls for all the wrappers that runs are made of.  `perform` is a
call through the shim and `direct` the same call without it.
-/

namespace RunpodShim

universe u

variable {World : Type u}

/-- A call with its arguments; `rounds` bounds how long the loops of `readdir`
and `readdir64` are observed. -/
inductive Call where
  | open_ (path : Option CString) (flags mode : UInt32)
  | open64 (path : Option CString) (flags mode : UInt32)
  | openat (dirfd : Int) (path : Option CString) (flags mode : UInt32)
  | openat64 (dirfd : Int) (path : Option CString) (flags mode : UInt32)
  | read (fd : Int) (buffer : Bool) (count : Nat)
  | close (fd : Int)
  | dup (oldfd : Int)
  | dup2 (oldfd newfd : Int)
  | dup3 (oldfd newfd : Int) (flags : UInt32)
  | fcntl (fd cmd : Int) (arg : Option UInt64)
  | stat (path : Option CString)
  | newfstatat (dirfd : Int) (path : Option CString) (flags : UInt32)
  | fstatat (dirfd : Int) (path : Option CString) (flags : UInt32)
  | opendir (path : Option CString)
  | opendir64 (path : Option CString)
  | fdopendir (fd : Int)
  | closedir (dir : Nat)
  | readdir (rounds dir : Nat)
  | readdir64 (rounds dir : Nat)
  | getdents64 (fd : Int) (count : Nat)
  | ioctl (fd : Int) (request : UInt64) (arg : Option IoctlArg)
deriving DecidableEq, Repr

/-- What a call gives back to its caller. -/
inductive Reply where
  | number (ret : Ret Int)
  | pointer (ret : Ret Pointer)
  | filled (filled : Filled)
  | entry (ret : Ret (Option DirEntry))
  | ioctl (reply : IoctlReply)
deriving DecidableEq, Repr

/-- A call through the shim; `none` is a loop that is still running. -/
def perform (shim : Shim) (real : Real World) (env : Env) :
    Call → Process World → Option (Reply × Process World)
  | .open_ path flags mode, process =>
      some ((Preload.open_ shim real env path flags mode process).map
        .number id)
  | .open64 path flags mode, process =>
      some ((Preload.open64 shim real env path flags mode process).map
        .number id)
  | .openat dirfd path flags mode, process =>
      some ((Preload.openat shim real env dirfd path flags mode process).map
        .number id)
  | .openat64 dirfd path flags mode, process =>
      some ((Preload.openat64 shim real env dirfd path flags mode
        process).map .number id)
  | .read fd buffer count, process =>
      some ((Preload.read real fd buffer count process).map .filled id)
  | .close fd, process =>
      some ((Preload.close real fd process).map .number id)
  | .dup oldfd, process =>
      some ((Preload.dup real env oldfd process).map .number id)
  | .dup2 oldfd newfd, process =>
      some ((Preload.dup2 real env oldfd newfd process).map .number id)
  | .dup3 oldfd newfd flags, process =>
      some ((Preload.dup3 real env oldfd newfd flags process).map
        .number id)
  | .fcntl fd cmd arg, process =>
      some ((Preload.fcntl real env fd cmd arg process).map .number id)
  | .stat path, process =>
      some ((Preload.stat shim real path process).map .filled id)
  | .newfstatat dirfd path flags, process =>
      some ((Preload.newfstatat shim real dirfd path flags process).map
        .filled id)
  | .fstatat dirfd path flags, process =>
      some ((Preload.fstatat shim real dirfd path flags process).map
        .filled id)
  | .opendir path, process =>
      some ((Preload.opendir shim real env path process).map .pointer id)
  | .opendir64 path, process =>
      some ((Preload.opendir64 shim real env path process).map .pointer id)
  | .fdopendir fd, process =>
      some ((Preload.fdopendir real fd process).map .pointer id)
  | .closedir dir, process =>
      some ((Preload.closedir real dir process).map .number id)
  | .readdir rounds dir, process =>
      (Preload.readdir shim real rounds dir process).map
        (Prod.map .entry id)
  | .readdir64 rounds dir, process =>
      (Preload.readdir64 shim real rounds dir process).map
        (Prod.map .entry id)
  | .getdents64 fd count, process =>
      some ((Preload.getdents64 shim real fd count process).map .filled id)
  | .ioctl fd request arg, process =>
      some ((Preload.ioctl shim real fd request arg process).map .ioctl id)

/-- The same call without the shim.  Where the library has no such symbol
there is nothing to call, and the failure is that of the shim. -/
def direct (real : Real World) : Call → World → Reply × World
  | .open_ path flags mode, world =>
      (real.open_ path flags (modeOf flags mode) world).map .number id
  | .open64 path flags mode, world =>
      (real.open64 path flags (modeOf flags mode) world).map .number id
  | .openat dirfd path flags mode, world =>
      (real.openat dirfd path flags (modeOf flags mode) world).map .number id
  | .openat64 dirfd path flags mode, world =>
      (openatReal real true dirfd path flags (modeOf flags mode) world).map
        .number id
  | .read fd buffer count, world =>
      (real.read fd buffer count world).map .filled id
  | .close fd, world => (real.close fd world).map .number id
  | .dup oldfd, world => (real.dup oldfd world).map .number id
  | .dup2 oldfd newfd, world =>
      (real.dup2 oldfd newfd world).map .number id
  | .dup3 oldfd newfd flags, world =>
      (real.dup3 oldfd newfd flags world).map .number id
  | .fcntl fd cmd arg, world =>
      (real.fcntl fd cmd arg world).map .number id
  | .stat path, world => (real.stat path world).map .filled id
  | .newfstatat dirfd path flags, world
  | .fstatat dirfd path flags, world =>
      (real.sysNewfstatat dirfd path flags world).map .filled id
  | .opendir path, world => (real.opendir path world).map .pointer id
  | .opendir64 path, world =>
      (Preload.opendirReal real true path world).map .pointer id
  | .fdopendir fd, world =>
      match real.fdopendir with
      | some fdopendir => (fdopendir fd world).map .pointer id
      | none => (.pointer ⟨none, enosys⟩, world)
  | .closedir dir, world => (real.closedir dir world).map .number id
  | .readdir _ dir, world => (real.readdir dir world).map .entry id
  | .readdir64 _ dir, world =>
      match real.readdir64 with
      | some readdir64 => (readdir64 dir world).map .entry id
      | none => (.entry ⟨none, enosys⟩, world)
  | .getdents64 fd count, world =>
      (real.sysGetdents64 fd count world).map .filled id
  | .ioctl fd request arg, world =>
      (real.ioctl fd request arg world).map .ioctl id

/-- The call as its wrapper passes it on. -/
def Call.passedOn : Call → Call
  | .fcntl fd cmd arg => .fcntl fd cmd (Preload.fcntlArgument cmd arg)
  | .ioctl fd request arg =>
      .ioctl fd request (if ioctlRequestHasNoArg request then none else arg)
  | call => call

/-- The wrapper neither drops nor cuts the argument of the call. -/
def Call.KeepsArgument (call : Call) : Prop :=
  call.passedOn = call

instance (call : Call) : Decidable call.KeepsArgument :=
  inferInstanceAs (Decidable (call.passedOn = call))

theorem Call.keepsArgument_fcntl_iff {fd cmd : Int}
    {arg : Option UInt64} :
    (Call.fcntl fd cmd arg).KeepsArgument ↔
      Preload.fcntlArgument cmd arg = arg := by
  simp [Call.KeepsArgument, Call.passedOn]

theorem Call.keepsArgument_ioctl_iff {fd : Int} {request : UInt64}
    {arg : Option IoctlArg} :
    (Call.ioctl fd request arg).KeepsArgument ↔
      (if ioctlRequestHasNoArg request then none else arg) = arg := by
  simp [Call.KeepsArgument, Call.passedOn]

end RunpodShim

import Mathlib.Logic.Basic

/-!
# Scripts under `set -e`

A piece of a script goes on with a value or exits with a status, and leaves
a world behind either way.  The commands it runs may fail, and how much of its
output a failing command has put out by then is part of the failure.  The
rules say what a piece does to a property that relates the worlds before and
after it.
-/

namespace ShellScript

/-- A piece of a script; an exception is its exit with a status. -/
abbrev Script (World : Type) := EStateM Nat World

/-- A command fails with a status other than 0, after it has put out so many
bytes. -/
structure Failure where
  status : Nat
  written : Nat
  nonzero : status ≠ 0

/-- What is out of an output when the command works, and when it fails. -/
def putOut {α : Type} : Option Failure → List α → List α
  | none, output => output
  | some failure, output => output.take failure.written

theorem putOut_nil {α : Type} (failure : Option Failure) :
    putOut failure ([] : List α) = [] := by
  cases failure with
  | none =>
      rfl
  | some failure =>
      exact List.take_nil

variable {World Value Next : Type}

def exit (status : Nat) : Script World Value :=
  throw status

/-- A command whose status the script looks at. -/
def attempt (failure : Option Failure) (effect : World → World) :
    Script World Nat := do
  modify effect
  pure ((failure.map Failure.status).getD 0)

/-- A command whose failure ends the script. -/
def must (failure : Option Failure) (effect : World → World) :
    Script World Unit := do
  let status ← attempt failure effect
  if status = 0 then pure () else exit status

/-- The exit status of a script that ends after this piece. -/
def exitStatus (script : Script World Value) (world : World) : Nat :=
  match script.run world with
  | .ok _ _ => 0
  | .error status _ => status

/-- The world that a piece leaves behind. -/
def worldAfter (script : Script World Value) (world : World) : World :=
  match script.run world with
  | .ok _ after => after
  | .error _ after => after

/-! ## One piece -/

section Pieces

variable {world after : World} {status : Nat} {value : Value}
variable {script : Script World Value}

theorem run_exit (status : Nat) (world : World) :
    (exit status : Script World Value).run world =
      .error status world :=
  rfl

theorem run_attempt (failure : Option Failure) (effect : World → World)
    (world : World) :
    (attempt failure effect).run world =
      .ok ((failure.map Failure.status).getD 0) (effect world) :=
  rfl

theorem run_must_none (effect : World → World) (world : World) :
    (must none effect).run world = .ok () (effect world) :=
  rfl

theorem run_must_some (failure : Failure) (effect : World → World)
    (world : World) :
    (must (some failure) effect).run world =
      .error failure.status (effect world) := by
  rw [must, EStateM.run_bind, run_attempt]
  simp only [Option.map_some, Option.getD_some]
  rw [if_neg failure.nonzero, run_exit]

theorem exitStatus_of_ok (ran : script.run world = .ok value after) :
    exitStatus script world = 0 := by
  rw [exitStatus, ran]

theorem exitStatus_of_error (ran : script.run world = .error status after) :
    exitStatus script world = status := by
  rw [exitStatus, ran]

theorem worldAfter_of_ok (ran : script.run world = .ok value after) :
    worldAfter script world = after := by
  rw [worldAfter, ran]

theorem worldAfter_of_error (ran : script.run world = .error status after) :
    worldAfter script world = after := by
  rw [worldAfter, ran]

end Pieces

/-! ## Sequences -/

section Sequences

variable {world after : World} {status : Nat} {value : Value}
variable {first : Script World Value} {next : Value → Script World Next}

theorem run_bind_of_ok (ran : first.run world = .ok value after) :
    (first >>= next).run world = (next value).run after := by
  rw [EStateM.run_bind, ran]

theorem run_bind_of_error (ran : first.run world = .error status after) :
    (first >>= next).run world = .error status after := by
  rw [EStateM.run_bind, ran]

theorem worldAfter_bind_of_ok (ran : first.run world = .ok value after) :
    worldAfter (first >>= next) world = worldAfter (next value) after := by
  rw [worldAfter, run_bind_of_ok ran, ← worldAfter]

theorem exitStatus_bind_of_ok (ran : first.run world = .ok value after) :
    exitStatus (first >>= next) world = exitStatus (next value) after := by
  rw [exitStatus, run_bind_of_ok ran, ← exitStatus]

theorem exitStatus_bind_ne_zero (ended : exitStatus first world ≠ 0) :
    exitStatus (first >>= next) world ≠ 0 := by
  cases ran : first.run world with
  | ok value after =>
      exact absurd (exitStatus_of_ok ran) ended
  | error status after =>
      rw [exitStatus_of_error ran] at ended
      rw [exitStatus_of_error (run_bind_of_error ran)]
      exact ended

/-- A sequence that goes on did so after its first piece. -/
theorem exists_of_run_bind_ok {result : Next} {finish : World}
    (ran : (first >>= next).run world = .ok result finish) :
    ∃ value between, first.run world = .ok value between ∧
      (next value).run between = .ok result finish := by
  cases ranFirst : first.run world with
  | ok value between =>
      rw [run_bind_of_ok ranFirst] at ran
      exact ⟨value, between, rfl, ran⟩
  | error status between =>
      rw [run_bind_of_error ranFirst] at ran
      cases ran

end Sequences

/-- A command that must work has worked when the script goes on. -/
theorem eq_none_of_run_must_ok {failure : Option Failure}
    {effect : World → World} {world after : World}
    (ran : (must failure effect).run world = .ok () after) :
    failure = none ∧ after = effect world := by
  cases failure with
  | none =>
      rw [run_must_none] at ran
      cases ran
      exact ⟨rfl, rfl⟩
  | some failure =>
      rw [run_must_some] at ran
      cases ran

/-- It ends the script exactly when it fails. -/
theorem exitStatus_must_eq_zero_iff {failure : Option Failure}
    {effect : World → World} {world : World} :
    exitStatus (must failure effect) world = 0 ↔ failure = none := by
  cases failure with
  | none =>
      rw [exitStatus_of_ok (run_must_none effect world)]
      exact iff_of_true rfl rfl
  | some failure =>
      rw [exitStatus_of_error (run_must_some failure effect world)]
      exact iff_of_false failure.nonzero (Option.some_ne_none failure)

theorem exitStatus_must_bind_eq_zero_iff {failure : Option Failure}
    {effect : World → World} {next : Unit → Script World Next}
    {world : World} :
    exitStatus (must failure effect >>= next) world = 0 ↔
      failure = none ∧ exitStatus (next ()) (effect world) = 0 := by
  cases failure with
  | none =>
      rw [exitStatus_bind_of_ok (run_must_none effect world)]
      exact (and_iff_right rfl).symm
  | some failure =>
      have ended :
          (must (some failure) effect >>= next).run world =
            .error failure.status (effect world) :=
        run_bind_of_error (run_must_some failure effect world)
      rw [exitStatus_of_error ended]
      exact
        iff_of_false failure.nonzero
          fun both => Option.some_ne_none failure both.1

/-! ## Properties kept on every way -/

/-- However the piece ends, the world before it and the one that it leaves
behind are related. -/
def Within (relation : World → World → Prop)
    (script : Script World Value) : Prop :=
  ∀ world, relation world (worldAfter script world)

section Within

variable {relation : World → World → Prop}
variable {first : Script World Value} {next : Value → Script World Next}
variable {effect : World → World}

theorem within_exit (same : ∀ world, relation world world)
    (status : Nat) :
    Within relation (exit status : Script World Value) :=
  same

theorem within_must (does : ∀ world, relation world (effect world))
    (failure : Option Failure) :
    Within relation (must failure effect) := by
  intro world
  cases failure with
  | none =>
      rw [worldAfter_of_ok (run_must_none effect world)]
      exact does world
  | some failure =>
      rw [worldAfter_of_error (run_must_some failure effect world)]
      exact does world

/-- A transitive relation goes through a sequence. -/
theorem Within.bind
    (chains : ∀ before between after, relation before between →
      relation between after → relation before after)
    (firstWithin : Within relation first)
    (nextWithin : ∀ value, Within relation (next value)) :
    Within relation (first >>= next) := by
  intro world
  have here := firstWithin world
  cases ran : first.run world with
  | ok value between =>
      rw [worldAfter_of_ok ran] at here
      rw [worldAfter_bind_of_ok ran]
      exact chains _ _ _ here (nextWithin value between)
  | error status between =>
      rw [worldAfter_of_error ran] at here
      rw [worldAfter, run_bind_of_error ran]
      exact here

end Within

/-! ## Pieces that never exit -/

/-- The piece goes on from every world. -/
def GoesOn (script : Script World Value) : Prop :=
  ∀ world, ∃ value after, script.run world = .ok value after

section GoesOn

variable {first : Script World Value} {next : Value → Script World Next}

theorem goesOn_pure (value : Value) :
    GoesOn (pure value : Script World Value) :=
  fun world => ⟨value, world, rfl⟩

theorem goesOn_get : GoesOn (get : Script World World) :=
  fun world => ⟨world, world, rfl⟩

theorem goesOn_must_none (effect : World → World) :
    GoesOn (must none effect) :=
  fun world => ⟨(), effect world, run_must_none effect world⟩

theorem GoesOn.bind (firstGoesOn : GoesOn first)
    (nextGoesOn : ∀ value, GoesOn (next value)) :
    GoesOn (first >>= next) := by
  intro world
  obtain ⟨value, between, ran⟩ := firstGoesOn world
  rw [run_bind_of_ok ran]
  exact nextGoesOn value between

end GoesOn

end ShellScript

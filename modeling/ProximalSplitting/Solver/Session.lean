import ProximalSplitting.Solver.Debug
import ProximalSplitting.Solver.Record

/-!
A session: the state of a solver together with the memory of everything that watches it. Watching
reads the state, a step changes the state and nothing else.
-/

namespace ProximalSplitting

structure Session (S : Type) where
  workspace : Workspace S
  state : SolverState S

abbrev Step (S α : Type) := Tracked S (SolverState S) α

abbrev Run (S α : Type) := Tracked S (Session S) α

namespace Run

variable {S α : Type}

def watch (computation : Watch S α) : Run S α :=
  Tracked.part Session.workspace (fun workspace session => { session with workspace }) computation

def step (computation : Step S α) : Run S α :=
  Tracked.part Session.state (fun state session => { session with state }) computation

def state : Run S (SolverState S) := do
  return (← Tracked.read).state

def onState (state : SolverState S) (computation : Run S α) : Watch S (SolverState S × α) :=
  ExceptT.mk fun (journal, workspace) =>
    let (outcome, (after, session)) := computation.run (journal, ⟨workspace, state⟩)
    (outcome.map fun result => (session.state, result), (after, session.workspace))

end Run

namespace Decorator

variable {S : Type} [Scalar S]

def observe (problem : Problem S) (state : SolverState S) (iteration : Int) :
    Decorator S → Watch S Unit
  | debug dictionary =>
      match dictionary.lookup (if 0 ≤ iteration then "all" else "stop") with
      | some action => action.run problem state iteration
      | none => pure ()
  | record action =>
      if 0 ≤ iteration then action.run problem state iteration else pure ()
  | observer label => Watch.print s!"<{label} {iteration}>"
  | plain => Tracked.fail (.unsupported .observation)

def observeAll (problem : Problem S) (state : SolverState S) (iteration : Int) :
    List (Decorator S) → Watch S Unit
  | [] => pure ()
  | outer :: inner => do
      observe problem state iteration outer
      observeAll problem state iteration inner

def readRecord (workspace : Workspace S) (requested : Option String) :
    List (Decorator S) → Except (Fault S) (Value S)
  | [] => .error .notRecorded
  | .record action :: _ => action.read workspace requested
  | _ :: inner => readRecord workspace requested inner

end Decorator

end ProximalSplitting

import ProximalSplitting.Solver.CyclicProximalPoint
import ProximalSplitting.Solver.DouglasRachford

/-!
The loop that all solvers share: prepare the state, reset the criterion and the decorators, then
step, show and check until the criterion is met, and show the end to the decorators.
-/

namespace ProximalSplitting

structure Solver (S : Type) [Scalar S] where
  name : String
  prepare : Problem S → Step S Unit
  step : Problem S → Int → Step S Unit
  result : SolverState S → Point S := SolverState.iterate
  visitingOrder : Problem S → Step S (List Nat) := fun _ => Tracked.fail .missingField

namespace Solver

variable {S : Type} [Scalar S]

def cyclicProximalPoint : Solver S where
  name := "CyclicProximalPointSolver"
  prepare := CyclicProximalPoint.prepare
  step := CyclicProximalPoint.step
  visitingOrder := CyclicProximalPoint.visitingOrder

def douglasRachford : Solver S where
  name := "DouglasRachfordSolver"
  prepare := DouglasRachford.prepare
  step := DouglasRachford.step

def counting : Solver S where
  name := "PlainSolver"
  prepare := fun _ => pure ()
  step := fun _ _ => Tracked.update fun state =>
    state.withIterate (state.iterate.map (· + Scalar.one))

abbrev Registry (S : Type) [Scalar S] := SolverState S → Except (Fault S) (Solver S)

def ofState (state : SolverState S) : Except (Fault S) (Solver S) :=
  match state.method with
  | .cyclic _ _ => .ok cyclicProximalPoint
  | .splitting _ => .ok douglasRachford
  | .counting => .ok counting
  | .bare => .error (.noSolver state.method.stateName)

end Solver

section Loop

variable {S : Type} [Scalar S]

def showIteration (problem : Problem S) (decorators : List (Decorator S)) (iteration : Int) :
    Run S Unit := do
  let state ← Run.state
  Run.watch (Decorator.observeAll problem state iteration decorators)

def checkCriterion (problem : Problem S) (criterion : Criterion S) (iteration : Int) :
    Run S Bool := do
  let state ← Run.state
  Run.watch (criterion.check problem state iteration)

def iterateUntil (problem : Problem S) (solver : Solver S) (criterion : Criterion S)
    (decorators : List (Decorator S)) : (remaining done : Nat) → Run S Nat
  | 0, _ => Tracked.fail .stillRunning
  | remaining + 1, done => do
      let iteration := done + 1
      Run.step (solver.step problem iteration)
      showIteration problem decorators iteration
      if ← checkCriterion problem criterion iteration then return iteration
      else iterateUntil problem solver criterion decorators remaining iteration

def startMessage (solver : Solver S) (problem : Problem S) (state : SolverState S) : String :=
  "Starting " ++ solver.name ++ " on " ++ problem.name ++ " with " ++ state.criterionText

def trimmedReason (reason : String) : String :=
  String.ofList ((reason.toList.reverse.dropWhile Char.isWhitespace).reverse.dropWhile
    Char.isWhitespace)

def stopMessage (solver : Solver S) (iterations : Nat) (reason : String) : String :=
  solver.name ++ s!" stopped after {iterations} iterations: " ++ trimmedReason reason

def solveWith (registry : Solver.Registry S) (steps : Nat) (problem : Problem S)
    (decorators : List (Decorator S)) : Run S (Point S) := do
  let before ← Run.state
  let solver ← registry before
  Tracked.report (startMessage solver problem before)
  Run.step (solver.prepare problem)
  match before.criterion with
  | none => Tracked.fail .wrongType
  | some criterion =>
      let _ ← checkCriterion problem criterion 0
      showIteration problem decorators 0
      let iterations ← iterateUntil problem solver criterion decorators steps 0
      Run.step (Tracked.update fun state => state.withIterations iterations)
      showIteration problem decorators (-1)
      let workspace := (← Tracked.read).workspace
      Tracked.report
        (stopMessage solver iterations (workspace.criterion criterion.number).reason)
      return solver.result (← Run.state)

def solveWithin (steps : Nat) (problem : Problem S) (decorators : List (Decorator S)) :
    Run S (Point S) :=
  solveWith Solver.ofState steps problem decorators

/-- More steps than a run can take in practice. -/
def stepBudget : Nat := Nat.pow 2 62

def solve (problem : Problem S) (decorators : List (Decorator S)) : Run S (Point S) :=
  solveWithin stepBudget problem decorators

end Loop

end ProximalSplitting

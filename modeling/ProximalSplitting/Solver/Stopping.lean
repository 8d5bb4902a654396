import ProximalSplitting.Solver.Workspace

/-!
Making and checking stopping criteria. A check with iteration 0 resets a criterion. Every member of
a set is checked every time, so that what members remember stays current; a set that holds takes its
reason from the members that hold.
-/

namespace ProximalSplitting

namespace Criterion

variable {S : Type} [Scalar S]

def ofTest (test : StoppingTest S) : Watch S (Criterion S) := do
  return .single (← Watch.newCriterionMemory) test

def afterIterations (limit : Value S) : Watch S (Criterion S) := do
  match limit.below? 1 with
  | none => Tracked.fail .wrongType
  | some true => Tracked.fail (.iterationLimitNotPositive limit)
  | some false => ofTest (.iterations limit)

def whenChangeBelow (tolerance : S) : Watch S (Criterion S) :=
  if Scalar.atMost tolerance Scalar.zero then Tracked.fail (.toleranceNotPositive tolerance)
  else ofTest (.change tolerance)

def whenGradientBelow (tolerance : S) : Watch S (Criterion S) :=
  if Scalar.atMost tolerance Scalar.zero then Tracked.fail (.toleranceNotPositive tolerance)
  else ofTest (.gradientNorm tolerance)

def whenCostBelow (threshold : S) : Watch S (Criterion S) := ofTest (.cost threshold)

def afterSeconds (seconds : S) : Watch S (Criterion S) :=
  if Scalar.atMost seconds Scalar.zero then Tracked.fail (.budgetNotPositive seconds)
  else do
    let criterion ← ofTest (.elapsed seconds)
    let _ ← Watch.readClock
    return criterion

def ofMembers (connective : Connective) (members : List (Criterion S)) :
    Watch S (Criterion S) := do
  if members.isEmpty then Tracked.fail (.noCriteria connective.name)
  return .set (← Watch.newCriterionMemory) connective members

def join (connective : Connective) : List (Criterion S) → Watch S (Criterion S)
  | [] => Tracked.fail .wrongType
  | first :: rest =>
      rest.foldlM (fun joined next => ofMembers connective [joined, next]) first

def measureChange (problem : Problem S) (state : SolverState S) (last : Option (Point S)) :
    Compute S (Option S) :=
  match last with
  | none => pure none
  | some last => do
      let manifold ← state.manifoldOf problem
      return some (← manifold.geometry.dist last state.iterate)

def measureGradient (problem : Problem S) (state : SolverState S) : Compute S S := do
  let gradient ← match state.gradient? with
    | some gradient => pure gradient
    | none => problem.grad state.iterate
  let manifold ← state.manifoldOf problem
  manifold.geometry.norm state.iterate gradient

def conclude (number : Nat) (holds : Bool) (reason : String) : Watch S Bool := do
  if holds then Watch.setReason number reason
  return holds

def iterationReason (limit : Value S) : String :=
  "The algorithm reached its maximal number of iterations (" ++ limit.shown ++ ").\n"

def changeReason (change tolerance : S) : String :=
  "The algorithm performed a step with a change (" ++ Scalar.text change ++ ") less than " ++
    Scalar.text tolerance ++ ".\n"

def gradientReason (length tolerance : S) : String :=
  "The algorithm reached approximately critical point; the gradient norm (" ++
    Scalar.text length ++ ") is less than " ++ Scalar.text tolerance ++ ".\n"

def costReason (cost threshold : S) : String :=
  "The algorithm reached a cost function value (" ++ Scalar.text cost ++
    ") less than the threshold (" ++ Scalar.text threshold ++ ").\n"

def elapsedReason (elapsed seconds : S) : String :=
  "The algorithm ran for " ++ Scalar.fixed 3 elapsed ++
    " seconds, longer than the budget of " ++ Scalar.text seconds ++ " seconds.\n"

def reset (number : Nat) (state : SolverState S) (test : StoppingTest S) : Watch S Unit := do
  Watch.setReason number ""
  match test with
  | .change _ =>
      Watch.changeCriterion number fun memory =>
        { memory with lastIterate := some state.iterate }
  | .elapsed _ =>
      let started ← Watch.readClock
      Watch.changeCriterion number fun memory => { memory with started }
  | _ => pure ()

def checkTest (problem : Problem S) (state : SolverState S) (number : Nat) (test : StoppingTest S)
    (iteration : Int) : Watch S Bool := do
  if iteration = 0 then
    reset number state test
    return false
  match test with
  | .iterations limit =>
      conclude number (limit.reachedBy? iteration = some true) (iterationReason limit)
  | .change tolerance =>
      let memory ← Watch.criterionMemory number
      let change ← measureChange problem state memory.lastIterate
      Watch.changeCriterion number fun memory =>
        { memory with lastIterate := some state.iterate }
      match change with
      | some change =>
          conclude number (Scalar.less change tolerance) (changeReason change tolerance)
      | none => return false
  | .gradientNorm tolerance =>
      let length ← measureGradient problem state
      conclude number (Scalar.less length tolerance) (gradientReason length tolerance)
  | .cost threshold =>
      let cost ← problem.cost state.iterate
      conclude number (Scalar.less cost threshold) (costReason cost threshold)
  | .elapsed seconds =>
      let memory ← Watch.criterionMemory number
      let elapsed := (← Watch.readClock) - memory.started
      conclude number (Scalar.less seconds elapsed) (elapsedReason elapsed seconds)

def joinedReasons (workspace : Workspace S) (members : List (Criterion S))
    (verdicts : List Bool) : String :=
  String.join ((members.zip verdicts).map fun (member, holds) =>
    if holds then (workspace.criterion member.number).reason else "")

mutual

def check (problem : Problem S) (state : SolverState S) :
    Criterion S → Int → Watch S Bool
  | .single number test, iteration => checkTest problem state number test iteration
  | .set number connective members, iteration => do
      let verdicts ← checkEach problem state members iteration
      let holds := 0 < iteration && connective.holds verdicts
      let workspace ← Tracked.read
      Watch.setReason number (if holds then joinedReasons workspace members verdicts else "")
      return holds

def checkEach (problem : Problem S) (state : SolverState S) :
    List (Criterion S) → Int → Watch S (List Bool)
  | [], _ => return []
  | first :: rest, iteration => do
      let verdict ← check problem state first iteration
      let later ← checkEach problem state rest iteration
      return verdict :: later

end

mutual

def active (workspace : Workspace S) : Criterion S → List (Criterion S)
  | .single number test =>
      if (workspace.criterion number).reason = "" then [] else [.single number test]
  | .set _ _ members => activeEach workspace members

def activeEach (workspace : Workspace S) : List (Criterion S) → List (Criterion S)
  | [] => []
  | first :: rest => active workspace first ++ activeEach workspace rest

end

end Criterion

def SolverState.reason {S : Type} (state : SolverState S) (workspace : Workspace S) :
    Except (Fault S) String :=
  match state.criterion with
  | some criterion => .ok (workspace.criterion criterion.number).reason
  | none => .error .missingField

end ProximalSplitting

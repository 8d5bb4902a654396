import ProximalSplitting.Solver.Stopping

/-!
Making and running debug actions. Iteration 0 is the pass before the first step, a negative
iteration only lets actions update what they remember.
-/

namespace ProximalSplitting

inductive DebugEntry (S : Type) where
  | raw (value : Value S)
  | action (action : DebugAction S)

namespace DebugAction

variable {S : Type} [Scalar S]

def ofChange (label : String) : Watch S (DebugAction S) := do
  return .change (← Watch.newActionMemory) label

def ofText (content : String) : Watch S (DebugAction S) :=
  match content with
  | "change" => ofChange (changeLabel false)
  | "cost" => pure (.cost (costLabel false))
  | "iterate" => pure (.iterate (iterateLabel false))
  | "iteration" => pure .iterationNumber
  | "lambda" => pure (.parameter (parameterLabel false))
  | other => pure (.divider other)

def ofEntry : DebugEntry S → Watch S (DebugAction S)
  | .action action => pure action
  | .raw (.text content) => ofText content
  | .raw value => Tracked.fail (.notADebugAction value)

def everyOf (interval : Int) (alwaysUpdate : Bool) (action : DebugAction S) :
    Watch S (DebugAction S) :=
  if interval < 1 then Tracked.fail (.intervalNotPositive interval)
  else pure (.every interval alwaysUpdate action)

structure Configuration (S : Type) where
  actions : List (DebugAction S) := []
  interval : Int := 1
  stops : Bool := false

def configure (configuration : Configuration S) (entry : DebugEntry S) :
    Watch S (Configuration S) := do
  match entry with
  | .raw (.integer interval) => return { configuration with interval }
  | .raw (.text "stop") => return { configuration with stops := true }
  | other =>
      let action ← ofEntry other
      return { configuration with actions := configuration.actions ++ [action] }

/-- The dictionary of a configuration list: the reason for stopping under "stop", all other actions
under "all", run every so many iterations as the last number in the list says. -/
def dictionaryOf (entries : List (DebugEntry S)) : Watch S (List (String × DebugAction S)) := do
  let configuration ← entries.foldlM configure {}
  let group : DebugAction S := .group configuration.actions
  let perIteration :=
    if 1 < configuration.interval then .every configuration.interval true group else group
  return (if configuration.stops then [("stop", .reason)] else []) ++
    (if configuration.actions.isEmpty then [] else [("all", perIteration)])

mutual

def run (problem : Problem S) (state : SolverState S) : DebugAction S → Int → Watch S Unit
  | divider content, iteration => do
      if 0 ≤ iteration then Watch.print content
  | iterationNumber, iteration => do
      if 0 < iteration then Watch.print s!"# {iteration}"
      else if iteration = 0 then Watch.print "Initial "
  | iterate label, iteration => do
      if 0 ≤ iteration then Watch.print (label ++ state.iterate.layout)
  | cost label, iteration => do
      if 0 ≤ iteration then
        let cost ← problem.cost state.iterate
        Watch.print (label ++ Scalar.text cost)
  | change number label, iteration => do
      let memory ← Watch.actionMemory number
      if 0 < iteration then
        match ← Criterion.measureChange problem state memory.lastIterate with
        | some distance => Watch.print (label ++ Scalar.text distance)
        | none => pure ()
      Watch.changeAction number fun memory => { memory with lastIterate := some state.iterate }
  | entry field label, iteration => do
      if 0 ≤ iteration then
        let value ← state.field field
        Watch.print (label ++ value.shown)
  | parameter label, iteration => do
      if 0 < iteration then
        let parameter ← state.parameterAt iteration
        Watch.print (label ++ Scalar.text parameter)
  | reason, _ => do
      Watch.print (← state.reason (← Tracked.read))
  | group actions, iteration => runAll problem state actions iteration
  | every interval alwaysUpdate action, iteration =>
      if iteration ≤ 0 || iteration % interval = 0 then run problem state action iteration
      else if alwaysUpdate then run problem state action (-1)
      else pure ()

def runAll (problem : Problem S) (state : SolverState S) :
    List (DebugAction S) → Int → Watch S Unit
  | [], _ => pure ()
  | first :: rest, iteration => do
      run problem state first iteration
      runAll problem state rest iteration

end

end DebugAction

end ProximalSplitting

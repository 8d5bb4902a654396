import ProximalSplitting.Solver.Stopping

/-!
Making, running and reading record actions. Positive iterations append a row, iteration 0 clears the
rows, and a negative iteration only lets actions update what they remember.
-/

namespace ProximalSplitting

inductive RecordEntry (S : Type) where
  | raw (value : Value S)
  | action (action : RecordAction S)
  | named (name : String) (action : RecordAction S)

namespace RecordAction

variable {S : Type} [Scalar S]

def ofKind (kind : RecordKind) : Watch S (RecordAction S) := do
  return .column (← Watch.newActionMemory) kind.name kind

def groupOf (members : List (String × RecordAction S)) : RecordAction S := .group "group" members

def everyOf (interval : Int) (alwaysUpdate : Bool) (action : RecordAction S) :
    Watch S (RecordAction S) :=
  if interval < 1 then Tracked.fail (.intervalNotPositive interval)
  else pure (.every action.name interval alwaysUpdate action)

def ofValue (value : Value S) : Watch S (RecordAction S) :=
  match value with
  | .text content =>
      match RecordKind.ofName? content with
      | some kind => ofKind kind
      | none => Tracked.fail (.notARecordAction value)
  | _ => Tracked.fail (.notARecordAction value)

structure Configuration (S : Type) where
  actions : List (String × RecordAction S) := []
  interval : Int := 1

def addNamed (configuration : Configuration S) (action : RecordAction S) :
    Watch S (Configuration S) :=
  if configuration.actions.any fun present => present.1 = action.name then
    Tracked.fail (.duplicateRecord action.name)
  else
    pure { configuration with actions := configuration.actions ++ [(action.name, action)] }

def configure (configuration : Configuration S) (entry : RecordEntry S) :
    Watch S (Configuration S) := do
  match entry with
  | .raw (.flag set) => Tracked.fail (.flagAsRecordAction (.flag set))
  | .raw (.integer interval) => return { configuration with interval }
  | .raw value => addNamed configuration (← ofValue value)
  | .action action => addNamed configuration action
  | .named name action => addNamed configuration (action.rename name)

def ofEntries (entries : List (RecordEntry S)) : Watch S (RecordAction S) := do
  let configuration ← entries.foldlM configure {}
  let action ← match configuration.actions with
    | [] => Tracked.fail .noRecordActions
    | [(_, only)] => pure only
    | several => pure (groupOf several)
  return if 1 < configuration.interval then
    .every action.name configuration.interval true action else action

def recordOrReset (number : Nat) (value : Value S) (iteration : Int) : Watch S Unit := do
  if 0 < iteration then
    Watch.changeAction number fun memory => { memory with rows := memory.rows ++ [value] }
  else if iteration = 0 then
    Watch.changeAction number fun memory => { memory with rows := [] }

def runColumn (problem : Problem S) (state : SolverState S) (number : Nat) (kind : RecordKind)
    (iteration : Int) : Watch S Unit := do
  match kind with
  | .iteration => recordOrReset number (.integer iteration) iteration
  | .iterate => recordOrReset number (.array state.iterate) iteration
  | .cost =>
      if 0 < iteration then
        let cost ← problem.cost state.iterate
        recordOrReset number (.real cost) iteration
      else recordOrReset number .null iteration
  | .change =>
      let memory ← Watch.actionMemory number
      if 0 < iteration then
        match ← Criterion.measureChange problem state memory.lastIterate with
        | some change => recordOrReset number (.real change) iteration
        | none => recordOrReset number .null iteration
      else recordOrReset number .null iteration
      Watch.changeAction number fun memory => { memory with lastIterate := some state.iterate }
  | .entry field =>
      let value ← state.field field
      recordOrReset number value iteration
  | .parameter =>
      if 0 < iteration then
        let parameter ← state.parameterAt iteration
        recordOrReset number (.real parameter) iteration
      else recordOrReset number .null iteration

mutual

def run (problem : Problem S) (state : SolverState S) : RecordAction S → Int → Watch S Unit
  | column number _ kind, iteration => runColumn problem state number kind iteration
  | group _ members, iteration => runAll problem state members iteration
  | every _ interval alwaysUpdate action, iteration =>
      if iteration ≤ 0 || iteration % interval = 0 then run problem state action iteration
      else if alwaysUpdate then run problem state action (-1)
      else pure ()

def runAll (problem : Problem S) (state : SolverState S) :
    List (String × RecordAction S) → Int → Watch S Unit
  | [], _ => pure ()
  | (_, action) :: rest, iteration => do
      run problem state action iteration
      runAll problem state rest iteration

end

mutual

def rows (workspace : Workspace S) : RecordAction S → Value S
  | column number _ _ => .list (workspace.action number).rows
  | group _ members => .table (rowsOfAll workspace members)
  | every _ _ _ action => rows workspace action

def rowsOfAll (workspace : Workspace S) :
    List (String × RecordAction S) → List (String × Value S)
  | [] => []
  | (name, action) :: rest => (name, rows workspace action) :: rowsOfAll workspace rest

end

/-- The action recorded under a name: an action under its own name, a member of a group, or what is
found inside of a thinned action. -/
def select (requested : String) : RecordAction S → Except (Fault S) (RecordAction S)
  | column number name kind =>
      if requested = name then .ok (column number name kind)
      else .error (.recordNotNamed requested name)
  | group _ members =>
      match members.lookup requested with
      | some action => .ok action
      | none => .error .missingKey
  | every name interval alwaysUpdate action =>
      if requested = name then .ok (every name interval alwaysUpdate action)
      else select requested action

def read (workspace : Workspace S) (action : RecordAction S) (requested : Option String) :
    Except (Fault S) (Value S) :=
  match requested with
  | none => .ok (action.rows workspace)
  | some name => (action.select name).map fun selected => selected.rows workspace

end RecordAction

end ProximalSplitting

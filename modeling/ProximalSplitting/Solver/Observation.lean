import ProximalSplitting.Solver.State

/-!
What can be observed while a solver runs. Debug actions print, record actions collect values, and
decorators around a state run them. An action that remembers something has a number under which its
memory is kept.

A thinned action runs at the multiples of its interval. With `alwaysUpdate` it is asked at the other
iterations too, as if they were number -1, so that it remembers without showing anything. The
dictionary of a debug decorator holds one action for the iterations, under `all`, and one for the
end of the run, under `stop`. An observer prints its label and the number of the iteration; a run
with a plain decorator fails, which has no way to watch.
-/

namespace ProximalSplitting

inductive DebugAction (S : Type) where
  | divider (content : String)
  | iterationNumber
  | iterate (label : String)
  | cost (label : String)
  | change (number : Nat) (label : String)
  | entry (field label : String)
  | parameter (label : String)
  | reason
  | group (actions : List (DebugAction S))
  | every (interval : Int) (alwaysUpdate : Bool) (action : DebugAction S)

inductive RecordKind where
  | iteration
  | iterate
  | cost
  | change
  | entry (field : String)
  | parameter
deriving DecidableEq

inductive RecordAction (S : Type) where
  | column (number : Nat) (name : String) (kind : RecordKind)
  | group (name : String) (members : List (String × RecordAction S))
  | every (name : String) (interval : Int) (alwaysUpdate : Bool) (action : RecordAction S)

structure ActionMemory (S : Type) where
  lastIterate : Option (Point S) := none
  rows : List (Value S) := []

inductive Decorator (S : Type) where
  | debug (dictionary : List (String × DebugAction S))
  | record (action : RecordAction S)
  | observer (label : String)
  | plain

namespace RecordKind

def name : RecordKind → String
  | iteration => "iteration"
  | iterate => "iterate"
  | cost => "cost"
  | change => "change"
  | entry field => field
  | parameter => "lambda"

def className : RecordKind → String
  | iteration => "RecordIteration"
  | iterate => "RecordIterate"
  | cost => "RecordCost"
  | change => "RecordChange"
  | entry _ => "RecordEntry"
  | parameter => "RecordProximalParameter"

def ofName? : String → Option RecordKind
  | "change" => some change
  | "cost" => some cost
  | "iterate" => some iterate
  | "iteration" => some iteration
  | "lambda" => some parameter
  | _ => none

end RecordKind

namespace RecordAction

variable {S : Type}

def name : RecordAction S → String
  | column _ name _ => name
  | group name _ => name
  | every name _ _ _ => name

def rename (name : String) : RecordAction S → RecordAction S
  | column number _ kind => column number name kind
  | group _ members => group name members
  | every _ interval alwaysUpdate action => every name interval alwaysUpdate action

mutual

def describe : RecordAction S → Value S
  | column _ name kind => .list [.text kind.className, .text name]
  | group name members =>
      .list [.text "RecordGroup", .text name, .list (describeMembers members)]
  | every name interval alwaysUpdate action =>
      .list [.text "RecordEvery", .text name, .integer interval, .flag alwaysUpdate,
        describe action]

def describeMembers : List (String × RecordAction S) → List (Value S)
  | [] => []
  | (name, action) :: rest => .list [.text name, describe action] :: describeMembers rest

end

end RecordAction

namespace DebugAction

variable {S : Type}

def iterateLabel (long : Bool) : String := if long then "current iterate: " else "x: "

def costLabel (long : Bool) : String := if long then "Cost function value: " else "F(x): "

def changeLabel (long : Bool) : String := if long then "Last Change: " else "Δx: "

def parameterLabel (long : Bool) : String :=
  if long then "Proximal Map Parameter λ(i): " else "λ: "

def entryLabel (field : String) : String := field ++ ": "

def standardDivider : String := " | "

mutual

def describe : DebugAction S → Value S
  | divider content => .list [.text "DebugDivider", .text content]
  | iterationNumber => .list [.text "DebugIteration"]
  | iterate label => .list [.text "DebugIterate", .text label]
  | cost label => .list [.text "DebugCost", .text label]
  | change _ label => .list [.text "DebugChange", .text label]
  | entry _ label => .list [.text "DebugEntry", .text label]
  | parameter label => .list [.text "DebugProximalParameter", .text label]
  | reason => .list [.text "DebugStoppingCriterion"]
  | group actions => .list [.text "DebugGroup", .list (describeAll actions)]
  | every interval alwaysUpdate action =>
      .list [.text "DebugEvery", .integer interval, .flag alwaysUpdate, describe action]

def describeAll : List (DebugAction S) → List (Value S)
  | [] => []
  | first :: rest => describe first :: describeAll rest

end

end DebugAction

namespace Decorator

variable {S : Type}

def className : Decorator S → String
  | debug _ => "DebugOptions"
  | record _ => "RecordOptions"
  | observer _ => "Observer"
  | plain => "OptionsDecorator"

def describe : Decorator S → Except (Fault S) (Value S)
  | debug dictionary =>
      .ok (.table (dictionary.map fun (name, action) => (name, action.describe)))
  | record action => .ok action.describe
  | _ => .error .missingField

end Decorator

def decoratedName {S : Type} [Scalar S] (state : SolverState S) : List (Decorator S) → String
  | [] => state.name
  | outer :: inner => outer.className ++ "(" ++ decoratedName state inner ++ ")"

/-- A field as it is read through decorators, where "options" is what the outermost one wraps. -/
def Decorator.field {S : Type} [Scalar S] (state : SolverState S) (name : String) :
    List (Decorator S) → Compute S (Value S)
  | [] => state.field name
  | _ :: inner =>
      if name = "options" then pure (.named (decoratedName state inner)) else state.field name

end ProximalSplitting

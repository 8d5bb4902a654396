import ProximalSplitting.Manifold
import ProximalSplitting.Problem
import ProximalSplitting.Random.Threefry
import ProximalSplitting.Schedule
import ProximalSplitting.Solver.Criterion

/-!
The state of a solver: the iterate, the stopping criterion, the number of iterations of the last run
and what the method itself needs. The fields can be read and written by name; names that a state
does not know are kept as extra fields.

A random order is drawn anew in every cycle. A fixed random order is drawn by the first cycle of a
run and kept in `order` until the next run. Two methods have no proximal maps: a step of `counting`
adds one to every entry of the iterate, and for `bare` there is no solver.
-/

namespace ProximalSplitting

inductive EvaluationOrder where
  | linear
  | random
  | fixedRandom
deriving DecidableEq

namespace EvaluationOrder

def all : List EvaluationOrder := [linear, random, fixedRandom]

def memberName : EvaluationOrder → String
  | linear => "LINEAR"
  | random => "RANDOM"
  | fixedRandom => "FIXED_RANDOM"

def settingText : EvaluationOrder → String
  | linear => "linear"
  | random => "random"
  | fixedRandom => "fixed_random"

def shown (order : EvaluationOrder) : String := "EvalOrder." ++ order.memberName

def ofMemberName? (name : String) : Option EvaluationOrder :=
  all.find? fun order => order.memberName = name

def ofSetting {S : Type} : EvaluationOrder ⊕ Value S → Except (Fault S) EvaluationOrder
  | .inl order => .ok order
  | .inr (.text content) =>
      match all.find? fun order => order.settingText = content with
      | some order => .ok order
      | none => .error .invalidValue
  | .inr _ => .error .invalidValue

end EvaluationOrder

abbrev Reflection (S : Type) := Point S → Point S → Compute S (Point S)

structure CyclicParameters (S : Type) where
  parameter : Schedule S
  evaluationOrder : EvaluationOrder
  order : Option (List Nat) := none
  key : RandomKey

structure SplittingParameters (S : Type) where
  driver : Point S
  parameter : Schedule S
  relaxation : Schedule S
  reflection : Option (Reflection S)
  parallel : Bool

inductive Method (S : Type) where
  | bare
  | counting
  | cyclic (derived : Bool) (parameters : CyclicParameters S)
  | splitting (parameters : SplittingParameters S)

structure SolverState (S : Type) where
  iterate : Point S
  criterion : Option (Criterion S)
  iterations : Int := 0
  method : Method S
  extras : List (String × Value S) := []

namespace Method

variable {S : Type}

def stateName : Method S → String
  | bare => "OptState"
  | counting => "PlainState"
  | cyclic derived _ => if derived then "DerivedState" else "CyclicProximalPointState"
  | splitting _ => "DouglasRachfordState"

def parameter? : Method S → Option (Schedule S)
  | cyclic _ parameters => some parameters.parameter
  | splitting parameters => some parameters.parameter
  | _ => none

def relaxation? : Method S → Option (Schedule S)
  | splitting parameters => some parameters.relaxation
  | _ => none

end Method

namespace RandomKey

def toValue {S : Type} (key : RandomKey) : Value S :=
  .list [.integer key.high.toNat, .integer key.low.toNat]

end RandomKey

namespace SolverState

variable {S : Type}

def withIterate (state : SolverState S) (iterate : Point S) : SolverState S :=
  { state with iterate }

def withIterations (state : SolverState S) (iterations : Int) : SolverState S :=
  { state with iterations, extras := state.extras.filter fun field => field.1 ≠ "iterations" }

def scheduledAt (schedule : Option (Schedule S)) (iteration : Int) : Compute S S :=
  match schedule with
  | some schedule => schedule iteration
  | none => Compute.fail .missingField

def parameterAt (state : SolverState S) (iteration : Int) : Compute S S :=
  scheduledAt state.method.parameter? iteration

def relaxationAt (state : SolverState S) (iteration : Int) : Compute S S :=
  scheduledAt state.method.relaxation? iteration

def gradient? (state : SolverState S) [Scalar S] : Option (Point S) :=
  match state.extras.lookup "gradient" with
  | some (.array tensor) => some tensor
  | some value => value.number?.map Tensor.scalar
  | none => none

section Fields

variable [Scalar S]

def manifoldOf (state : SolverState S) (problem : Problem S) : Compute S (Manifold S) :=
  match state.method with
  | .splitting parameters =>
      if parameters.parallel then do return (← problem.manifold.asPower).1
      else pure problem.manifold
  | _ => pure problem.manifold

def methodField? : Method S → String → Option (Value S)
  | .cyclic _ _, "lambda_fn" => some (.named "<function>")
  | .cyclic _ parameters, "evaluation_order" => some (.named parameters.evaluationOrder.shown)
  | .cyclic _ parameters, "order" =>
      some (match parameters.order with
        | some order => Value.ofIntegers (order.map fun (position : Nat) => (position : Int))
        | none => .null)
  | .cyclic _ parameters, "key" => some parameters.key.toValue
  | .splitting parameters, "t" => some (.array parameters.driver)
  | .splitting _, "lambda_fn" => some (.named "<function>")
  | .splitting _, "alpha_fn" => some (.named "<function>")
  | .splitting parameters, "reflect_fn" =>
      some (if parameters.reflection.isSome then .named "<function>" else .null)
  | .splitting parameters, "parallel" => some (.flag parameters.parallel)
  | _, _ => none

def field? (state : SolverState S) (name : String) : Option (Value S) :=
  state.extras.lookup name <|>
    match name with
    | "x" => some (.array state.iterate)
    | "iterations" => some (.integer state.iterations)
    | "stopping_criterion" =>
        some (match state.criterion with
          | some criterion => .named criterion.name
          | none => .null)
    | other => methodField? state.method other

def field (state : SolverState S) (name : String) : Compute S (Value S) :=
  Compute.expect .missingField (state.field? name)

def criterionText (state : SolverState S) : String :=
  ((state.field? "stopping_criterion").getD .null).literal

def name (state : SolverState S) : String :=
  state.method.stateName ++ "(iterations=" ++
    ((state.field? "iterations").getD .null).shown ++ ")"

end Fields

inductive FieldSetting (S : Type) where
  | raw (value : Value S)
  | point (point : Point S)
  | criterion (criterion : Criterion S)
  | schedule (schedule : Schedule S)
  | order (order : EvaluationOrder)

def setExtra (state : SolverState S) (name : String) (value : Value S) : SolverState S :=
  { state with extras := state.extras.filter (fun field => field.1 ≠ name) ++ [(name, value)] }

def dropExtra (state : SolverState S) (name : String) : SolverState S :=
  { state with extras := state.extras.filter fun field => field.1 ≠ name }

def changeCyclic (state : SolverState S)
    (change : CyclicParameters S → CyclicParameters S) : SolverState S :=
  match state.method with
  | .cyclic derived parameters => { state with method := .cyclic derived (change parameters) }
  | _ => state

def changeSplitting (state : SolverState S)
    (change : SplittingParameters S → SplittingParameters S) : SolverState S :=
  match state.method with
  | .splitting parameters => { state with method := .splitting (change parameters) }
  | _ => state

section Writing

variable [Scalar S]

def positionsOf (items : List (Value S)) : Option (List Nat) :=
  items.mapM fun item =>
    match item with
    | .integer number => if 0 ≤ number then some number.toNat else none
    | _ => none

def brokenSchedule : Schedule S := fun _ => Compute.fail .wrongType

/-- The effect on a method of a setting that none of its fields can hold: a schedule fails when it
is asked, any unknown order is random, and a flag is what the value counts as. -/
def breakMethodField (state : SolverState S) (name : String) (value : Value S) : SolverState S :=
  match state.method, name with
  | .cyclic _ _, "lambda_fn" =>
      state.changeCyclic fun parameters => { parameters with parameter := brokenSchedule }
  | .cyclic _ _, "evaluation_order" =>
      state.changeCyclic fun parameters => { parameters with evaluationOrder := .random }
  | .splitting _, "lambda_fn" =>
      state.changeSplitting fun parameters => { parameters with parameter := brokenSchedule }
  | .splitting _, "alpha_fn" =>
      state.changeSplitting fun parameters => { parameters with relaxation := brokenSchedule }
  | .splitting _, "parallel" =>
      state.changeSplitting fun parameters => { parameters with parallel := value.isSet }
  | _, _ => state

def setMethodField? (state : SolverState S) (name : String) (setting : FieldSetting S) :
    Option (SolverState S) :=
  match state.method, name, setting with
  | .cyclic _ _, "lambda_fn", .schedule schedule =>
      some (state.changeCyclic fun parameters => { parameters with parameter := schedule })
  | .cyclic _ _, "evaluation_order", .order order =>
      some (state.changeCyclic fun parameters => { parameters with evaluationOrder := order })
  | .cyclic _ _, "order", .raw .null =>
      some (state.changeCyclic fun parameters => { parameters with order := none })
  | .cyclic _ _, "order", .raw (.list items) =>
      (positionsOf items).map fun order =>
        state.changeCyclic fun parameters => { parameters with order := some order }
  | .splitting _, "t", .point point =>
      some (state.changeSplitting fun parameters => { parameters with driver := point })
  | .splitting _, "lambda_fn", .schedule schedule =>
      some (state.changeSplitting fun parameters => { parameters with parameter := schedule })
  | .splitting _, "alpha_fn", .schedule schedule =>
      some (state.changeSplitting fun parameters => { parameters with relaxation := schedule })
  | .splitting _, "reflect_fn", .raw .null =>
      some (state.changeSplitting fun parameters => { parameters with reflection := none })
  | .splitting _, "parallel", .raw (.flag parallel) =>
      some (state.changeSplitting fun parameters => { parameters with parallel })
  | _, _, _ => none

def valueOfSetting : FieldSetting S → Value S
  | .raw value => value
  | .point point => .array point
  | .criterion criterion => .named criterion.name
  | .schedule _ => .named "<function>"
  | .order order => .named order.shown

def setField (state : SolverState S) (name : String) (setting : FieldSetting S) : SolverState S :=
  match name, setting with
  | "x", .point point => { state.dropExtra name with iterate := point }
  | "iterations", .raw (.integer number) => { state.dropExtra name with iterations := number }
  | "stopping_criterion", .criterion criterion =>
      { state.dropExtra name with criterion := some criterion }
  | "stopping_criterion", .raw .null => { state.dropExtra name with criterion := none }
  | "stopping_criterion", .raw value => { state.setExtra name value with criterion := none }
  | _, _ =>
      match (state.dropExtra name).setMethodField? name setting with
      | some changed => changed
      | none =>
          let value := valueOfSetting setting
          (state.breakMethodField name value).setExtra name value

end Writing

end SolverState

end ProximalSplitting

import ProximalSplitting.Value

/-!
Everything that can go wrong, by cause. `Fault.message` holds the wording, `Fault.category` the
broad kind that a caller may react to, `Fault.details` the figures that belong to a fault.
-/

namespace ProximalSplitting

inductive Feature where
  | projection
  | exponential
  | logarithm
  | innerProduct
  | sampling
  | batchSampling
  | validation
  | dimension
  | solverStep
  | call
  | observation
deriving DecidableEq

def Feature.message : Feature → String
  | projection => "Subclasses must implement projection operation"
  | exponential => "Subclasses must implement exponential map"
  | logarithm => "Subclasses must implement logarithmic map"
  | innerProduct => "Subclasses must implement Riemannian inner product"
  | sampling => "Subclasses must implement random point generation"
  | batchSampling => "Batched sampling is not supported on power manifolds"
  | validation => "Point validation not implemented"
  | dimension => "Subclasses must define manifold dimension"
  | solverStep => "Subclasses must implement step"
  | call => "Subclasses must implement __call__"
  | observation => "Subclasses must implement observe"

inductive FaultCategory where
  | general
  | construction
  | proximalMap
  | domain
  | value
  | type
  | index
  | key
  | field
  | unsupported
  | division
  | overflow
  | refused
  | exhausted
deriving DecidableEq

inductive Fault (S : Type) where
  | unsupported (feature : Feature)
  | extentNotPositive (extents : List (Value S))
  | extentNotInteger (extents : List (Value S))
  | dimensionNotPositive (given : Value S)
  | dimensionNotInteger (given : Value S)
  | notAManifold (given : Value S)
  | tooFewCopies (given : Value S)
  | copiesNotInteger (given : Value S)
  | componentCount (expected actual : Nat)
  | emptyMean
  | tooFewControlPoints (count : Nat)
  | outsideDomain (parameter lower upper : Value S)
  | degreeNotPositive (degrees : List Int)
  | controlPointCount (degrees : List Int) (actual : Nat)
  | inconsistent (message expected actual : Value S)
  | missingProximalMap (index available : Value S)
  | distancePower (given : Value S)
  | proximalMapCount (expected : Nat) (manifold : String) (actual : Nat)
  | noSolver (state : String)
  | needsTwoMaps (count : Nat)
  | needsAtLeastTwoMaps (count : Nat)
  | needsPowerManifold (manifold : String)
  | iterationLimitNotPositive (given : Value S)
  | toleranceNotPositive (given : S)
  | budgetNotPositive (given : S)
  | noCriteria (set : String)
  | intervalNotPositive (given : Int)
  | notADebugAction (given : Value S)
  | flagAsRecordAction (given : Value S)
  | notARecordAction (given : Value S)
  | duplicateRecord (name : String)
  | noRecordActions
  | recordNotNamed (requested recorded : String)
  | notRecorded
  | uninitialized (field : String)
  | misuse (arguments : List (Value S))
  | refused (call : Nat)
  | missingField
  | missingKey
  | outsideList
  | divisionByZero
  | numberOverflow
  | wrongType
  | invalidValue
  | extentsDisagree
  | stillRunning

def jointPoints (degrees : List Int) : Int := degrees.foldl (· + ·) 1

namespace Fault

variable {S : Type}

def category : Fault S → FaultCategory
  | unsupported _ => .unsupported
  | inconsistent _ _ _ => .construction
  | missingProximalMap _ _ => .proximalMap
  | outsideDomain _ _ _ => .domain
  | misuse _ => .general
  | extentNotInteger _ | dimensionNotInteger _ | notAManifold _ | copiesNotInteger _ | noSolver _
  | needsPowerManifold _ | notADebugAction _ | flagAsRecordAction _ | wrongType
  | extentsDisagree => .type
  | recordNotNamed _ _ | missingKey => .key
  | uninitialized _ | missingField => .field
  | outsideList => .index
  | divisionByZero => .division
  | numberOverflow => .overflow
  | refused _ => .refused
  | stillRunning => .exhausted
  | _ => .value

section Wording

variable [Scalar S]

def mapsText (requirement : String) (count : Nat) : String :=
  "Douglas-Rachford needs " ++ requirement ++ " two proximal maps, got " ++ toString count

def notPositiveText (what given : String) : String :=
  what ++ " must be positive, got " ++ given

def argumentsText : List (Value S) → String
  | [] => ""
  | [only] => only.shown
  | several => (Value.tuple several).literal

def message? : Fault S → Option String
  | unsupported feature => some feature.message
  | extentNotPositive extents =>
      some ("Euclidean extents must be positive, got " ++ (Value.tuple extents).literal)
  | extentNotInteger extents =>
      some ("Euclidean extents must be integers, got " ++ (Value.tuple extents).literal)
  | dimensionNotPositive given => some (notPositiveText "Sphere dimension" given.shown)
  | dimensionNotInteger given =>
      some ("Sphere dimension must be an integer, got " ++ given.kindName)
  | notAManifold given => some ("Base is not a Manifold instance: " ++ given.kindName)
  | tooFewCopies given =>
      some ("Power manifold requires at least one copy, got " ++ given.shown)
  | copiesNotInteger given =>
      some ("Number of copies must be an integer, got " ++ given.kindName)
  | componentCount expected actual =>
      some s!"Expected {expected} components, got {actual}"
  | emptyMean => some "The mean of an empty set of points is not defined"
  | tooFewControlPoints count =>
      some s!"A Bézier segment needs at least two control points, got {count}"
  | outsideDomain parameter lower upper =>
      some ("Parameter " ++ parameter.shown ++ " outside of the domain [" ++ lower.shown ++ ", " ++
        upper.shown ++ "] of the composite Bézier curve.")
  | degreeNotPositive degrees =>
      some ("Segment degrees have to be positive, got " ++
        (Value.ofIntegers degrees : Value S).literal)
  | controlPointCount degrees actual =>
      some (s!"Expected {jointPoints degrees} control points for degrees " ++
        (Value.ofIntegers degrees : Value S).literal ++ s!", got {actual}")
  | inconsistent message _ _ => some message.shown
  | missingProximalMap index available =>
      some ("The proximal map with index " ++ index.shown ++ " does not exist, only " ++
        available.shown ++ " available.")
  | distancePower given =>
      some ("Proximal map of the distance is only available for power 1 or 2, got " ++ given.shown)
  | proximalMapCount expected manifold actual =>
      some (s!"Expected {expected} proximal maps for " ++ manifold ++ s!", got {actual}")
  | noSolver state => some ("No solver registered for states of type " ++ state)
  | needsTwoMaps count => some (mapsText "exactly" count)
  | needsAtLeastTwoMaps count => some (mapsText "at least" count)
  | needsPowerManifold manifold =>
      some ("Parallel Douglas-Rachford needs a PowerManifold, got " ++ manifold)
  | iterationLimitNotPositive given => some (notPositiveText "max_iterations" given.shown)
  | toleranceNotPositive given => some (notPositiveText "tolerance" (Scalar.text given))
  | budgetNotPositive given => some (notPositiveText "seconds" (Scalar.text given))
  | noCriteria set => some (set ++ " needs at least one criterion")
  | intervalNotPositive given => some (notPositiveText "every" (toString given))
  | notADebugAction given => some ("Cannot create a debug action from " ++ given.literal)
  | flagAsRecordAction given => some ("Cannot create a record action from " ++ given.literal)
  | notARecordAction given =>
      some ("Unknown record action " ++ given.literal ++ ", expected one of " ++
        "['change', 'cost', 'iterate', 'iteration', 'lambda'] or a RecordAction")
  | duplicateRecord name => some ("Duplicate record name " ++ quoted name)
  | noRecordActions => some "At least one record action is required"
  | recordNotNamed requested recorded =>
      some ("No record named " ++ quoted requested ++ ", only " ++ quoted recorded ++
        " is recorded")
  | notRecorded => some "The state is not decorated with RecordOptions"
  | uninitialized field => some field
  | misuse arguments => some (argumentsText arguments)
  | refused call => some s!"call {call}"
  | _ => none

end Wording

def details : Fault S → Option (List (String × Value S))
  | inconsistent _ expected actual => some [("actual", actual), ("expected", expected)]
  | missingProximalMap index available => some [("available", available), ("index", index)]
  | outsideDomain parameter lower upper =>
      some [("lower", lower), ("parameter", parameter), ("upper", upper)]
  | misuse _ => some []
  | _ => none

end Fault

def Scalar.quotient? {S : Type} [Scalar S] (dividend divisor : S) : Except (Fault S) S :=
  if Scalar.same divisor Scalar.zero then .error .divisionByZero else .ok (dividend / divisor)

end ProximalSplitting

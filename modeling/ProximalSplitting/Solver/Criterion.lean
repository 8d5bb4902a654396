import ProximalSplitting.Value

/-!
Stopping criteria: tests joined by "all" and "any". Every criterion has a number under which its
memory is kept, so that one criterion may stand at several places of a tree, and in several trees.
-/

namespace ProximalSplitting

inductive StoppingTest (S : Type) where
  | iterations (limit : Value S)
  | change (tolerance : S)
  | gradientNorm (tolerance : S)
  | cost (threshold : S)
  | elapsed (seconds : S)

inductive Connective where
  | all
  | any
deriving DecidableEq

inductive Criterion (S : Type) where
  | single (number : Nat) (test : StoppingTest S)
  | set (number : Nat) (connective : Connective) (members : List (Criterion S))

structure CriterionMemory (S : Type) where
  reason : String := ""
  lastIterate : Option (Point S) := none
  started : S

namespace Criterion

variable {S : Type}

def number : Criterion S → Nat
  | single number _ => number
  | set number _ _ => number

end Criterion

def Connective.name : Connective → String
  | .all => "StopWhenAll"
  | .any => "StopWhenAny"

def Connective.holds : Connective → List Bool → Bool
  | .all, verdicts => verdicts.all id
  | .any, verdicts => verdicts.any id

section Names

variable {S : Type} [Scalar S]

def StoppingTest.name : StoppingTest S → String
  | .iterations limit => "StopAfterIteration(" ++ limit.shown ++ ")"
  | .change tolerance => "StopWhenChangeLess(" ++ Scalar.text tolerance ++ ")"
  | .gradientNorm tolerance => "StopWhenGradientNormLess(" ++ Scalar.text tolerance ++ ")"
  | .cost threshold => "StopWhenCostLess(" ++ Scalar.text threshold ++ ")"
  | .elapsed seconds => "StopAfter(" ++ Scalar.text seconds ++ ")"

mutual

def Criterion.name : Criterion S → String
  | .single _ test => test.name
  | .set _ connective members =>
      connective.name ++ "(" ++ String.intercalate ", " (Criterion.names members) ++ ")"

def Criterion.names : List (Criterion S) → List String
  | [] => []
  | first :: rest => first.name :: Criterion.names rest

end

end Names

end ProximalSplitting

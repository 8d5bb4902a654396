import ProximalSplitting.Objective
import ProximalSplitting.ProximalMap
import ProximalSplitting.Setting

/-!
Problems: a cost on a manifold, possibly with a gradient and with proximal maps of its summands. A
problem keeps the maps it was built from, whatever happens to the list they came in.
-/

namespace ProximalSplitting

structure MapCollection (S : Type) where
  maps : List (ProximalMap S)
  outputCounts : List Int

structure Problem (S : Type) [Scalar S] where
  manifold : Manifold S
  objective : Objective S
  gradient : Option (VectorField S) := none
  euclideanGradient : Option (VectorField S) := none
  collection : Option (MapCollection S) := none

namespace MapCollection

variable {S : Type} [Scalar S]

def inconsistentText (counts : List Int) (maps : Nat) : String :=
  "The output counts " ++ (Value.ofIntegers counts : Value S).literal ++
    s!" have to be of the same length as the number of proximal maps ({maps})."

def build (maps : List (ProximalMap S)) (counts : Option (List Int)) :
    Except (Fault S) (MapCollection S) :=
  let outputCounts := counts.getD (List.replicate maps.length 1)
  if outputCounts.length = maps.length then .ok ⟨maps, outputCounts⟩
  else .error (.inconsistent (.text (inconsistentText (S := S) outputCounts maps.length))
    (.integer maps.length) (.integer outputCounts.length))

def countsOf (setting : Value S) : Except (Fault S) (Option (List Int)) :=
  match setting with
  | .null => .ok none
  | .list items => (items.mapM Setting.wholeNumber).map some
  | .text content =>
      (content.toList.mapM fun character =>
        Setting.wholeNumber (.text character.toString : Value S)).map some
  | _ => .error .wrongType

end MapCollection

namespace Problem

variable {S : Type} [Scalar S]

def ofMaps (manifold : Manifold S) (objective : Objective S) (maps : List (ProximalMap S))
    (outputCounts : Value S) : Except (Fault S) (Problem S) := do
  let counts ← MapCollection.countsOf outputCounts
  let collection ← MapCollection.build maps counts
  return { manifold, objective, collection := some collection }

def name (problem : Problem S) : String :=
  (if problem.collection.isSome then "ProximalProblem(" else "RiemannianProblem(") ++
    problem.manifold.name ++ ")"

def cost (problem : Problem S) (point : Point S) : Compute S S :=
  problem.objective.cost point

def grad (problem : Problem S) (point : Point S) : Compute S (Point S) :=
  match problem.gradient with
  | some field => field point
  | none => do
      let field := problem.euclideanGradient.getD problem.objective.derivative
      problem.manifold.geometry.proj point (← field point)

def maps (problem : Problem S) : Compute S (List (ProximalMap S)) :=
  Compute.expect .missingField (problem.collection.map MapCollection.maps)

def mapCount (problem : Problem S) : Compute S Nat := do
  return (← problem.maps).length

def outputCounts (problem : Problem S) : Compute S (List Int) :=
  Compute.expect .missingField (problem.collection.map MapCollection.outputCounts)

def prox (problem : Problem S) (parameter : S) (point : Point S) (index : Int) :
    Compute S (Point S) := do
  let maps ← problem.maps
  match (if 0 ≤ index then maps[index.toNat]? else none) with
  | some proximalMap => proximalMap parameter point
  | none => Compute.fail (.missingProximalMap (.integer index) (.integer maps.length))

end Problem

end ProximalSplitting

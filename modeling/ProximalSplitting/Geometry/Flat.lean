import ProximalSplitting.Geometry.Basic

/-!
Flat geometries: spaces of arrays in which geodesics are straight lines.
-/

namespace ProximalSplitting

namespace Flat

variable {S : Type} [Scalar S]

def exp (start direction : Point S) (time : S) : Compute S (Point S) :=
  start.plus (direction.scale time)

def log (start target : Point S) : Compute S (Point S) :=
  target.minus start

def dist (start target : Point S) : Compute S S := do
  return (← target.minus start).length

def midPoint (start target : Point S) : Compute S (Point S) := do
  return (← start.plus target).divide (Scalar.ofInt 2)

def mean (points : List (Point S)) : Compute S (Point S) := do
  if points.isEmpty then Compute.fail .emptyMean
  let stacked ← Tensor.ofSlices points
  return (← Tensor.plusAll stacked.slices).divide (Scalar.ofInt points.length)

end Flat

variable {S : Type} [Scalar S]

def euclidean (shape : List Nat) : Geometry S where
  name := "Euclidean(" ++ String.intercalate ", " (shape.map toString) ++ ")"
  proj := fun _ vector => Compute.compiledAs "Euclidean.proj" (pure vector)
  exp := fun start direction time =>
    Compute.compiledAs "Euclidean.exp" (Flat.exp start direction time)
  log := fun start target => Compute.compiledAs "Euclidean.log" (Flat.log start target)
  inner := fun _ left right => Compute.compiledAs "Euclidean.inner" (left.dot right)
  dist := fun start target => Compute.compiledAs "Euclidean.dist" (Flat.dist start target)
  midPoint := fun start target _ => Flat.midPoint start target
  mean := fun points _ _ => Flat.mean points
  validate := fun point _ => pure (point.shape = shape && point.isFinite)
  dimension := pure (.integer (shape.foldl (fun product extent => product * extent) 1 : Nat))
  sampleShape := fun batch => pure (batch ++ shape)
  facts := [("shape", .tuple (shape.map fun (extent : Nat) => .integer extent))]

def weighted (weight : S) : Geometry S where
  name := "Weighted()"
  proj := fun _ vector => pure vector
  exp := Flat.exp
  log := Flat.log
  inner := fun _ left right => do return weight * (← left.dot right)
  validate := fun _ _ => Compute.fail (.unsupported .validation)
  dimension := Compute.fail (.unsupported .dimension)
  sampleShape := fun _ => Compute.fail (.unsupported .sampling)

end ProximalSplitting

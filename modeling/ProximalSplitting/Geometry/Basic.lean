import ProximalSplitting.Defaults
import ProximalSplitting.Tensor.Arithmetic

/-!
A geometry is given by its projection, exponential map, logarithmic map and inner product. The
distance, mid points and means have generic forms in terms of these, which a geometry with closed
forms replaces. Lengths, geodesics and reflections follow for every geometry.

`exp` follows a direction from a point for a multiple of its length, and `log` finds the direction
from one point to another. The mean of more than two points is approached by following the mean of
the directions to them until a step is short.
-/

namespace ProximalSplitting

structure MeanLimits (S : Type) where
  iterations : Int
  update : S

def MeanLimits.standard {S : Type} [Scalar S] : MeanLimits S :=
  ⟨Tolerance.meanIterations, Tolerance.meanUpdate⟩

namespace Karcher

variable {S : Type} [Scalar S]

def iterate (exp : Point S → Point S → S → Compute S (Point S))
    (log : Point S → Point S → Compute S (Point S)) (norm : Point S → Point S → Compute S S)
    (points : List (Point S)) (tolerance : S) :
    (remaining done : Nat) → Point S → Compute S (Point S)
  | 0, _, mean => pure mean
  | remaining + 1, done, mean => do
      let directions ← points.mapM (log mean)
      let update := (← Tensor.plusAll directions).divide (Scalar.ofInt points.length)
      let step ← norm mean update
      let next ← exp mean update Scalar.one
      if Scalar.less step tolerance then
        Compute.report s!"Karcher mean converged after {done + 1} iterations"
        return next
      else iterate exp log norm points tolerance remaining (done + 1) next

def mean (exp : Point S → Point S → S → Compute S (Point S))
    (log : Point S → Point S → Compute S (Point S)) (norm : Point S → Point S → Compute S S)
    (midPoint : Point S → Point S → Option (Point S) → Compute S (Point S))
    (points : List (Point S)) (reference : Option (Point S)) (limits : MeanLimits S) :
    Compute S (Point S) :=
  match points with
  | [] => Compute.fail .emptyMean
  | [only] => pure only
  | [first, second] => midPoint first second reference
  | first :: rest =>
      iterate exp log norm (first :: rest) limits.update limits.iterations.toNat 0
        (reference.getD first)

end Karcher

structure Geometry (S : Type) [Scalar S] where
  name : String
  proj : Point S → Point S → Compute S (Point S)
  exp : Point S → Point S → S → Compute S (Point S)
  log : Point S → Point S → Compute S (Point S)
  inner : Point S → Point S → Point S → Compute S S
  dist : Point S → Point S → Compute S S := fun start target => do
    let direction ← log start target
    return Scalar.sqrt (← inner start direction direction)
  midPoint : Point S → Point S → Option (Point S) → Compute S (Point S) := fun start target _ => do
    exp start (← log start target) Scalar.half
  mean : List (Point S) → Option (Point S) → MeanLimits S → Compute S (Point S) :=
    Karcher.mean exp log
      (fun base vector => do return Scalar.sqrt (← inner base vector vector)) midPoint
  validate : Point S → S → Compute S Bool
  dimension : Compute S (Value S)
  sampleShape : List Nat → Compute S (List Nat)
  facts : List (String × Value S) := []

namespace Geometry

variable {S : Type} [Scalar S]

def norm (geometry : Geometry S) (base vector : Point S) : Compute S S := do
  return Scalar.sqrt (← geometry.inner base vector vector)

def zeroTangent (base : Point S) : Point S := base.zerosLike

def shortestGeodesic (geometry : Geometry S) (start target : Point S) (time : S) :
    Compute S (Point S) := do
  geometry.exp start (← geometry.log start target) time

def reflect (geometry : Geometry S) (pivot point : Point S) : Compute S (Point S) := do
  let direction ← geometry.log pivot point
  geometry.exp pivot direction.negate Scalar.one

def abstract (name : String) : Geometry S where
  name := name
  proj := fun _ _ => Compute.fail (.unsupported .projection)
  exp := fun _ _ _ => Compute.fail (.unsupported .exponential)
  log := fun _ _ => Compute.fail (.unsupported .logarithm)
  inner := fun _ _ _ => Compute.fail (.unsupported .innerProduct)
  validate := fun _ _ => Compute.fail (.unsupported .validation)
  dimension := Compute.fail (.unsupported .dimension)
  sampleShape := fun _ => Compute.fail (.unsupported .sampling)

end Geometry

end ProximalSplitting

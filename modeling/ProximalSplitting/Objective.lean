import ProximalSplitting.Manifold

/-!
Elementary cost functions with their derivatives, and vector fields that serve as gradients.
-/

namespace ProximalSplitting

abbrev VectorField (S : Type) := Point S → Compute S (Point S)

structure Objective (S : Type) where
  cost : Point S → Compute S S
  derivative : VectorField S

namespace Objective

variable {S : Type} [Scalar S]

def nothing : Objective S where
  cost := fun point => pure (Scalar.zero * point.sum)
  derivative := fun point => pure point.zerosLike

def absolute : Objective S where
  cost := fun point => pure (point.map Scalar.abs).sum
  derivative := fun point => pure (point.map fun entry =>
    if Scalar.atMost Scalar.zero entry then Scalar.one else -Scalar.one)

def total : Objective S where
  cost := fun point => pure point.sum
  derivative := fun point => pure (point.map fun _ => Scalar.one)

def square (center : Point S) : Objective S where
  cost := fun point => do
    return Scalar.half * ((← point.minus center).map Scalar.square).sum
  derivative := fun point => point.minus center

def quartic : Objective S where
  cost := fun point => pure (point.map fun entry => Scalar.square (Scalar.square entry)).sum
  derivative := fun point => pure (point.map fun entry =>
    Scalar.ofInt 4 * (entry * Scalar.square entry))

def linear (coefficients : Point S) : Objective S where
  cost := fun point => do return (← coefficients.times point).sum
  derivative := fun point => point.zerosLike.plus coefficients

def raised (number exponent : S) : S :=
  if Scalar.same exponent Scalar.one then number
  else if Scalar.same exponent (Scalar.ofInt 2) then Scalar.square number
  else if Scalar.same exponent (Scalar.ofInt 3) then number * Scalar.square number
  else Scalar.power number exponent

def distances (geometry : Geometry S) (targets : List (Point S)) (exponent : S) : Objective S where
  cost := fun point =>
    targets.foldlM (fun sum target => do
      let distance ← geometry.dist target point
      return sum + raised distance exponent / exponent) Scalar.zero
  derivative := fun _ => Compute.fail .invalidValue

end Objective

namespace VectorField

variable {S : Type} [Scalar S]

def constant (direction : Point S) : VectorField S := fun _ => pure direction

def scaling (factor : S) : VectorField S := fun point => pure (point.scale factor)

def fromTargets (geometry : Geometry S) (targets : List (Point S)) : VectorField S :=
  fun point => do
    let directions ← targets.mapM (geometry.log point)
    return (← Tensor.plusAll directions).negate

end VectorField

end ProximalSplitting

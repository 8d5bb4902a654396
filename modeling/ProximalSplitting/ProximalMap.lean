import ProximalSplitting.Manifold

/-!
Proximal maps: functions of a parameter and a point. Besides the maps of distances, of separable
sums on a power and of the diagonal of a power, there are some elementary ones.
-/

namespace ProximalSplitting

abbrev ProximalMap (S : Type) := S → Point S → Compute S (Point S)

namespace ProximalMap

variable {S : Type} [Scalar S]

def squaredTime (parameter : S) : Except (Fault S) S :=
  Scalar.quotient? parameter (Scalar.one + parameter)

def plainTime (parameter distance : S) : S :=
  Scalar.minimum (parameter / Scalar.maximum distance Tolerance.smallLength) Scalar.one

def distance (geometry : Geometry S) (target : Point S) (exponent : Value S) : ProximalMap S :=
  fun parameter point => do
    if exponent.equalsInteger 2 then
      let time ← squaredTime parameter
      geometry.shortestGeodesic point target time
    else if exponent.equalsInteger 1 then
      let time := plainTime parameter (← geometry.dist target point)
      geometry.shortestGeodesic point target time
    else Compute.fail (.distancePower exponent)

def componentwise (parameter : S) :
    List (ProximalMap S) → List (Point S) → Compute S (List (Point S))
  | proximalMap :: maps, component :: components => do
      let moved ← proximalMap parameter component
      return moved :: (← componentwise parameter maps components)
  | _, _ => pure []

def parallel (manifold : Manifold S) (maps : List (ProximalMap S)) :
    Compute S (ProximalMap S) := do
  let (_, copies) ← manifold.asPower
  if maps.length ≠ copies then
    Compute.fail (.proximalMapCount copies manifold.name maps.length)
  return fun parameter point => do
    let components ← manifold.components point
    Tensor.ofSlices (← componentwise parameter maps components)

def diagonal (manifold : Manifold S) : ProximalMap S := fun _ point => do
  manifold.diagonal (← manifold.coordinateMean point none)

def identity : ProximalMap S := fun _ point => pure point

def softThreshold : ProximalMap S := fun parameter point =>
  pure (point.map fun entry =>
    Scalar.sign entry * Scalar.maximum (Scalar.abs entry - parameter) Scalar.zero)

def constant (target : Point S) : ProximalMap S := fun _ _ => pure target

def shift (direction : Point S) : ProximalMap S := fun parameter point =>
  point.plus (direction.scale parameter)

def scaling (factor : S) : ProximalMap S := fun _ point => pure (point.scale factor)

def shrink : ProximalMap S := fun parameter point =>
  pure (point.divide (Scalar.one + parameter))

def box (low high : S) : ProximalMap S := fun _ point =>
  pure (point.map fun entry => Scalar.minimum (Scalar.maximum entry low) high)

def refusing (counter allowed : Nat) : ProximalMap S := fun _ point => do
  let call ← Compute.countCall counter
  if call ≤ allowed then return point else Compute.fail (.refused call)

end ProximalMap

end ProximalSplitting

import ProximalSplitting.Geometry.Basic

/-!
The unit sphere with the geometry of its ambient space. Geodesics are great circles and the distance
of two points is the angle between them. Antipodal points are joined by many shortest geodesics; a
reference point decides which of their mid points is meant.
-/

namespace ProximalSplitting

namespace Sphere

variable {S : Type} [Scalar S]

def divisor (length : S) : S := Scalar.maximum length Tolerance.smallLength

def proj (point vector : Point S) : Compute S (Point S) :=
  Compute.compiledAs "Sphere.proj" do
    if point.rank = 0 && vector.rank = 0 then Compute.fail .invalidValue
    let normal := (← point.times vector).rowSums
    vector.minus (← normal.times point)

def exp (start direction : Point S) (time : S) : Compute S (Point S) :=
  Compute.compiledAs "Sphere.exp" do
    let arc := direction.scale time
    let length := arc.length
    let safeLength := divisor length
    let along := (arc.scale (Scalar.sin safeLength)).divide safeLength
    let reached ← (start.scale (Scalar.cos length)).plus along
    return reached.divide reached.length

def log (start target : Point S) : Compute S (Point S) :=
  Compute.compiledAs "Sphere.log" do
    let direction ← proj start target
    let length := direction.length
    let angle := Scalar.arctan2 length (← start.dot target)
    return (direction.scale angle).divide (divisor length)

def dist (start target : Point S) : Compute S S :=
  Compute.compiledAs "Sphere.dist" do
    let direction ← proj start target
    return Scalar.arctan2 direction.length (← start.dot target)

def areAntipodal (start target : Point S) : Compute S Bool := do
  return !Scalar.less (-Scalar.one + Tolerance.antipodal) (← start.dot target)

/-- The component of a basis vector along which the point is smallest; it is never parallel to the
point. -/
def fallbackDirection (point : Point S) : Compute S (Point S) := do
  if point.rank = 0 then Compute.fail .outsideList
  proj point (point.basisAt (Scalar.firstSmallest (point.map Scalar.abs).entries))

def orthogonalDirection (point : Point S) : Option (Point S) → Compute S (Point S)
  | none => fallbackDirection point
  | some reference => do
      let direction ← proj point reference
      if Scalar.less direction.length Tolerance.antipodal then fallbackDirection point
      else return direction

def midPoint (start target : Point S) (reference : Option (Point S)) : Compute S (Point S) := do
  if ← areAntipodal start target then
    let direction ← orthogonalDirection start reference
    return direction.divide direction.length
  else exp start (← log start target) Scalar.half

def hasUnitLength (point : Point S) (tolerance : S) : Bool :=
  Scalar.isFinite point.length &&
    Scalar.atMost (Scalar.abs (point.length - Scalar.one)) (tolerance + Tolerance.relative)

end Sphere

variable {S : Type} [Scalar S]

def sphere (dimension : Nat) : Geometry S where
  name := "Sphere(" ++ toString dimension ++ ")"
  proj := Sphere.proj
  exp := Sphere.exp
  log := Sphere.log
  inner := fun _ left right => Compute.compiledAs "Sphere.inner" (left.dot right)
  dist := Sphere.dist
  midPoint := Sphere.midPoint
  validate := fun point tolerance =>
    pure (point.shape = [dimension + 1] && Sphere.hasUnitLength point tolerance)
  dimension := pure (.integer dimension)
  sampleShape := fun batch => pure (batch ++ [dimension + 1])
  facts := [("ambient_dimension", .integer (dimension + 1))]

end ProximalSplitting

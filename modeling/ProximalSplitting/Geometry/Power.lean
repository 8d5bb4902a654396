import ProximalSplitting.Geometry.Basic

/-!
Powers of a geometry. A point of a power is an array whose slices are points of the base geometry,
and every operation acts on the slices. The mean of the slices brings a point of the power back to
the base, and the constant points form the diagonal.
-/

namespace ProximalSplitting

namespace Power

variable {S : Type} [Scalar S]

def combine (copies : Nat) (components : List (Point S)) : Compute S (Point S) :=
  if components.length = copies then Tensor.ofSlices components
  else Compute.fail (.componentCount copies components.length)

def components (copies : Nat) (point : Point S) : Compute S (List (Point S)) :=
  (List.range copies).mapM point.component

def diagonal (copies : Nat) (point : Point S) : Compute S (Point S) :=
  combine copies (List.replicate copies point)

def each (copies : Nat) (operation : Nat → Compute S (Point S)) : Compute S (Point S) := do
  combine copies (← (List.range copies).mapM operation)

def total (copies : Nat) (figure : Nat → Compute S S) : Compute S S :=
  (List.range copies).foldlM (fun sum position => do return sum + (← figure position)) Scalar.zero

def hasComponents (copies : Nat) : Point S → Bool
  | .scalar _ => false
  | .stack slices => slices.length = copies

def validateEach (base : Geometry S) (tolerance : S) : List (Point S) → Compute S Bool
  | [] => pure true
  | first :: rest => do
      if ← base.validate first tolerance then validateEach base tolerance rest else return false

end Power

variable {S : Type} [Scalar S]

def powerGeometry (base : Geometry S) (copies : Nat) (given : Value S) : Geometry S where
  name := "PowerManifold(" ++ base.name ++ ", " ++ given.shown ++ ")"
  proj := fun point vector => Power.each copies fun position => do
    base.proj (← point.component position) (← vector.component position)
  exp := fun start direction time => Power.each copies fun position => do
    base.exp (← start.component position) (← direction.component position) time
  log := fun start target => Power.each copies fun position => do
    base.log (← start.component position) (← target.component position)
  inner := fun point left right => Power.total copies fun position => do
    base.inner (← point.component position) (← left.component position)
      (← right.component position)
  dist := fun start target => do
    let squares ← Power.total copies fun position => do
      return Scalar.square
        (← base.dist (← start.component position) (← target.component position))
    return Scalar.sqrt squares
  midPoint := fun start target reference => Power.each copies fun position => do
    let startSlice ← start.component position
    let targetSlice ← target.component position
    let referenceSlice ← reference.mapM fun point => point.component position
    base.midPoint startSlice targetSlice referenceSlice
  validate := fun point tolerance =>
    if Power.hasComponents copies point then
      Power.validateEach base tolerance point.slices
    else pure false
  dimension := do
    match ← base.dimension with
    | .real dimension => return .real (Scalar.ofInt copies * dimension)
    | dimension =>
        return .integer (copies * (← Compute.expect .wrongType dimension.integer?))
  sampleShape := fun batch => do
    if batch.isEmpty then return copies :: (← base.sampleShape [])
    else Compute.fail (.unsupported .batchSampling)
  facts := [("k", given), ("base", .named base.name)]

end ProximalSplitting

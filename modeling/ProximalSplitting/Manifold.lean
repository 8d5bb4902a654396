import ProximalSplitting.Geometry.Flat
import ProximalSplitting.Geometry.Power
import ProximalSplitting.Geometry.Sphere

/-!
Manifolds: a geometry by itself, or a power of a manifold. The parallel algorithms need to know
whether a manifold is a power, all else only uses its geometry. Manifolds are built from raw
settings, either directly or by the strict constructors that insist on integers.
-/

namespace ProximalSplitting

inductive Manifold (S : Type) [Scalar S] where
  | ofGeometry (geometry : Geometry S)
  | power (base : Manifold S) (copies : Nat) (given : Value S := .integer copies)

namespace Manifold

variable {S : Type} [Scalar S]

def geometry : Manifold S → Geometry S
  | ofGeometry geometry => geometry
  | power base copies given => powerGeometry base.geometry copies given

def name (manifold : Manifold S) : String := manifold.geometry.name

def fact (manifold : Manifold S) (name : String) : Compute S (Value S) :=
  Compute.expect .missingField (manifold.geometry.facts.lookup name)

def asPower (manifold : Manifold S) : Compute S (Manifold S × Nat) :=
  match manifold with
  | power base copies _ => pure (base, copies)
  | ofGeometry _ => Compute.fail .missingField

def components (manifold : Manifold S) (point : Point S) : Compute S (List (Point S)) := do
  let (_, copies) ← manifold.asPower
  Power.components copies point

def diagonal (manifold : Manifold S) (point : Point S) : Compute S (Point S) := do
  let (_, copies) ← manifold.asPower
  Power.diagonal copies point

def coordinateMean (manifold : Manifold S) (point : Point S) (reference : Option (Point S)) :
    Compute S (Point S) := do
  let (base, copies) ← manifold.asPower
  base.geometry.mean (← Power.components copies point) reference MeanLimits.standard

def combineComponents (manifold : Manifold S) (components : List (Point S)) :
    Compute S (Point S) := do
  let (_, copies) ← manifold.asPower
  Power.combine copies components

end Manifold

inductive Strictness where
  | lenient
  | strict
deriving DecidableEq

namespace Manifold

variable {S : Type} [Scalar S]

def extent? (value : Value S) : Option Nat :=
  match value with
  | .real number =>
      if Scalar.same number (Scalar.ofInt (Scalar.truncate number)) then
        some (Scalar.truncate number).toNat
      else none
  | other => other.integer?.map Int.toNat

def successor (value : Value S) : Value S :=
  match value with
  | .real number => .real (number + Scalar.one)
  | other => .integer ((other.integer?.getD 0) + 1)

def product (values : List (Value S)) : Value S :=
  values.foldl (fun result value =>
    match result.integer?, value.integer? with
    | some left, some right => .integer (left * right)
    | _, _ => .real (result.number?.getD Scalar.zero * value.number?.getD Scalar.zero))
    (.integer 1)

def requirePositive (fault : Fault S) (value : Value S) : Except (Fault S) Unit :=
  match value.below? 1 with
  | none => .error .wrongType
  | some true => .error fault
  | some false => .ok ()

def euclideanOf (strictness : Strictness) (extents : List (Value S)) :
    Except (Fault S) (Manifold S) := do
  if strictness = .strict && extents.any fun extent => extent.integer?.isNone then
    .error (.extentNotInteger extents)
  else
    extents.forM (requirePositive (.extentNotPositive extents))
    let shape := extents.map extent?
    let geometry : Geometry S := euclidean (shape.map fun extent => extent.getD 0)
    return .ofGeometry { geometry with
      name := "Euclidean(" ++ String.intercalate ", " (extents.map Value.shown) ++ ")"
      validate := fun point tolerance =>
        if shape.all Option.isSome then geometry.validate point tolerance else pure false
      dimension := pure (product extents)
      facts := [("shape", .tuple extents)] }

def sphereOf (strictness : Strictness) (dimension : Value S) : Except (Fault S) (Manifold S) := do
  if strictness = .strict && dimension.integer?.isNone then
    .error (.dimensionNotInteger dimension)
  else
    requirePositive (.dimensionNotPositive dimension) dimension
    let geometry : Geometry S := sphere ((extent? dimension).getD 0)
    return .ofGeometry { geometry with
      name := "Sphere(" ++ dimension.shown ++ ")"
      validate := fun point tolerance =>
        if (extent? dimension).isSome then geometry.validate point tolerance else pure false
      dimension := pure dimension
      facts := [("ambient_dimension", successor dimension)] }

def powerOf (strictness : Strictness) (base : Manifold S ⊕ Value S) (copies : Value S) :
    Except (Fault S) (Manifold S) := do
  if strictness = .strict && copies.integer?.isNone then .error (.copiesNotInteger copies)
  else
    match base with
    | .inr given => .error (.notAManifold given)
    | .inl manifold =>
        requirePositive (.tooFewCopies copies) copies
        match copies.integer? with
        | some number => return .power manifold number.toNat copies
        | none => .error .wrongType

end Manifold

end ProximalSplitting

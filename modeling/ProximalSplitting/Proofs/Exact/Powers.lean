import ProximalSplitting.Proofs.Exact.Building
import ProximalSplitting.Proofs.Exact.Linear

/-!
Powers of Euclidean space. A power acts on the slices of its points one by one, and the mean of a
power is found by iteration; nevertheless a power of Euclidean space cannot be told from the
Euclidean space with one more axis.
-/

namespace ProximalSplitting

open Compute Tensor

variable {S : Type} {shape inner : List Nat} {copies : Nat}

namespace Compute

def Concur {found : Type} (left right : Compute S found) : Prop :=
  ∃ value, left.Gives value ∧ right.Gives value

end Compute

namespace Geometry

structure SameOn [Scalar S] (shape : List Nat) (left right : Geometry S) : Prop where
  proj : ∀ {point vector : Point S}, point.hasShape shape = true → vector.hasShape shape = true →
    (left.proj point vector).Concur (right.proj point vector)
  exp : ∀ {start direction : Point S}, start.hasShape shape = true →
    direction.hasShape shape = true → ∀ time,
    (left.exp start direction time).Concur (right.exp start direction time)
  log : ∀ {start target : Point S}, start.hasShape shape = true → target.hasShape shape = true →
    (left.log start target).Concur (right.log start target)
  inner : ∀ {point first second : Point S}, point.hasShape shape = true →
    first.hasShape shape = true → second.hasShape shape = true →
    (left.inner point first second).Concur (right.inner point first second)
  norm : ∀ {point vector : Point S}, point.hasShape shape = true → vector.hasShape shape = true →
    (left.norm point vector).Concur (right.norm point vector)
  dist : ∀ {start target : Point S}, start.hasShape shape = true → target.hasShape shape = true →
    (left.dist start target).Concur (right.dist start target)
  zeroTangent : ∀ {point : Point S}, point.hasShape shape = true →
    (left.log point point).Gives (zeroTangent point) ∧
      (right.log point point).Gives (zeroTangent point)
  shortestGeodesic : ∀ {start target : Point S}, start.hasShape shape = true →
    target.hasShape shape = true → ∀ time,
    (left.shortestGeodesic start target time).Concur (right.shortestGeodesic start target time)
  reflect : ∀ {pivot point : Point S}, pivot.hasShape shape = true → point.hasShape shape = true →
    (left.reflect pivot point).Concur (right.reflect pivot point)
  midPoint : ∀ {start target : Point S}, start.hasShape shape = true →
    target.hasShape shape = true → ∀ {reference : Option (Point S)},
    (∀ point ∈ reference, point.hasShape shape = true) →
    (left.midPoint start target reference).Concur (right.midPoint start target reference)
  mean : ∀ {points : List (Point S)}, points ≠ [] →
    (∀ point ∈ points, point.hasShape shape = true) → ∀ {reference : Option (Point S)},
    (∀ point ∈ reference, point.hasShape shape = true) →
    (left.mean points reference MeanLimits.standard).Concur
      (right.mean points reference MeanLimits.standard)
  emptyMean : ∀ (reference : Option (Point S)) (journal : Journal),
    (left.mean [] reference MeanLimits.standard).run journal = (.error .emptyMean, journal) ∧
      (right.mean [] reference MeanLimits.standard).run journal = (.error .emptyMean, journal)
  validate : ∀ {point : Point S} {any : List Nat}, point.hasShape any = true → ∀ tolerance,
    (left.validate point tolerance).Concur (right.validate point tolerance)
  dimension : left.dimension.Concur right.dimension

variable [RootScalar S] {left right : Geometry S}

theorem LinearOn.gives_zeroTangent {geometry : Geometry S} (linear : geometry.LinearOn shape)
    {point : Point S} (shaped : point.hasShape shape = true) :
    (geometry.log point point).Gives (zeroTangent point) := by
  have zero : zipWith (· - ·) point point = zeroTangent point := by
    refine eq_of_coordinates (hasShape_zipWith shaped shaped _) ?_ ?_
    · rwa [zeroTangent, zerosLike, hasShape_map]
    · rw [coordinates_sub shaped shaped, sub_self, zeroTangent, zerosLike,
        coordinates_map Scalar.zero_eq, Scalar.zero_eq]
      rfl
  rw [← zero]
  exact linear.log shaped shaped

theorem FlatOn.same (leftFlat : left.FlatOn shape) (rightFlat : right.FlatOn shape) :
    left.SameOn shape right where
  proj := fun pointShaped vectorShaped =>
    ⟨_, leftFlat.proj pointShaped vectorShaped, rightFlat.proj pointShaped vectorShaped⟩
  exp := fun startShaped directionShaped time =>
    ⟨_, leftFlat.exp startShaped directionShaped time,
      rightFlat.exp startShaped directionShaped time⟩
  log := fun startShaped targetShaped =>
    ⟨_, leftFlat.log startShaped targetShaped, rightFlat.log startShaped targetShaped⟩
  inner := fun pointShaped firstShaped secondShaped =>
    ⟨_, leftFlat.inner pointShaped firstShaped secondShaped,
      rightFlat.inner pointShaped firstShaped secondShaped⟩
  norm := fun pointShaped vectorShaped =>
    ⟨_, leftFlat.gives_norm pointShaped vectorShaped, rightFlat.gives_norm pointShaped vectorShaped⟩
  dist := fun startShaped targetShaped =>
    ⟨_, leftFlat.dist startShaped targetShaped, rightFlat.dist startShaped targetShaped⟩
  zeroTangent := fun shaped =>
    ⟨leftFlat.gives_zeroTangent shaped, rightFlat.gives_zeroTangent shaped⟩
  shortestGeodesic := by
    intro start target startShaped targetShaped time
    have directionShaped := hasShape_zipWith targetShaped startShaped (· - ·)
    exact ⟨_, (leftFlat.log startShaped targetShaped).bind
        (leftFlat.exp startShaped directionShaped time),
      (rightFlat.log startShaped targetShaped).bind
        (rightFlat.exp startShaped directionShaped time)⟩
  reflect := by
    intro pivot point pivotShaped pointShaped
    have directionShaped : (zipWith (· - ·) point pivot).negate.hasShape shape = true := by
      simpa using hasShape_zipWith pointShaped pivotShaped (· - ·)
    exact ⟨_, (leftFlat.log pivotShaped pointShaped).bind
        (leftFlat.exp pivotShaped directionShaped Scalar.one),
      (rightFlat.log pivotShaped pointShaped).bind
        (rightFlat.exp pivotShaped directionShaped Scalar.one)⟩
  midPoint := fun startShaped targetShaped _ referenceShaped =>
    ⟨_, leftFlat.midPoint startShaped targetShaped referenceShaped,
      rightFlat.midPoint startShaped targetShaped referenceShaped⟩
  mean := by
    intro points present all reference referenceShaped
    have many : 0 < (MeanLimits.standard : MeanLimits S).iterations := by
      simp [MeanLimits.standard, Tolerance.meanIterations]
    obtain ⟨leftMean, leftGives, leftShaped, leftAverage⟩ :=
      leftFlat.mean present all referenceShaped many
    obtain ⟨rightMean, rightGives, rightShaped, rightAverage⟩ :=
      rightFlat.mean present all referenceShaped many
    have same : leftMean = rightMean :=
      eq_of_coordinates leftShaped rightShaped (leftAverage.trans rightAverage.symm)
    exact ⟨leftMean, leftGives, same ▸ rightGives⟩
  emptyMean := fun reference journal =>
    ⟨leftFlat.emptyMean reference _ journal, rightFlat.emptyMean reference _ journal⟩
  validate := fun shaped tolerance =>
    ⟨_, leftFlat.validate shaped tolerance, rightFlat.validate shaped tolerance⟩
  dimension := ⟨_, leftFlat.dimension, rightFlat.dimension⟩

end Geometry

namespace Manifold

variable [RootScalar S] {strictness : Strictness}

theorem euclideanOn_flat (positive : ∀ extent ∈ shape, 0 < extent) :
    ∃ space : Manifold S, euclideanOn strictness shape = .ok space ∧
      space.geometry.FlatOn shape := by
  obtain ⟨name, facts, built⟩ := euclideanOn_eq (S := S) positive
  refine ⟨_, built, ?_⟩
  exact { Geometry.flatOn_euclidean (S := S) positive with dimension := gives_pure _ }

theorem powerOf_flat {base : Manifold S} (positive : ∀ extent ∈ inner, 0 < extent)
    (some : 0 < copies) (flat : base.geometry.FlatOn inner) :
    ∃ power, powerOf strictness (.inl base) (.integer copies) = .ok power ∧
      power.geometry.FlatOn (copies :: inner) := by
  refine ⟨.power base copies (.integer copies), ?_, flat.power positive some⟩
  rw [powerOf_integer, if_neg (by omega)]

theorem powersOf_flat {base : Manifold S} (positive : ∀ extent ∈ shape, 0 < extent)
    (flat : base.geometry.FlatOn shape) {copies : List Nat} (some : ∀ count ∈ copies, 0 < count) :
    ∃ power, powersOf strictness base copies = .ok power ∧
      power.geometry.FlatOn (copies ++ shape) := by
  induction copies with
  | nil => exact ⟨base, rfl, flat⟩
  | cons count rest ih =>
      obtain ⟨countPositive, othersPositive⟩ := List.forall_mem_cons.mp some
      obtain ⟨below, built, flatBelow⟩ := ih othersPositive
      have positiveBelow : ∀ extent ∈ rest ++ shape, 0 < extent :=
        List.forall_mem_append.mpr ⟨othersPositive, positive⟩
      obtain ⟨power, builtToo, flatPower⟩ :=
        powerOf_flat positiveBelow countPositive flatBelow
      refine ⟨power, ?_, flatPower⟩
      rw [powersOf, List.foldrM_cons]
      rw [powersOf] at built
      rw [built]
      exact builtToo

/-- A power of a power and so on of a Euclidean space is, to every computation with its points, the
Euclidean space in which the numbers of copies are further extents. -/
theorem powersOf_euclideanOn_same {copies : List Nat} (strictness : Strictness)
    (positive : ∀ extent ∈ shape, 0 < extent) (some : ∀ count ∈ copies, 0 < count) :
    ∃ base power whole : Manifold S, euclideanOn strictness shape = .ok base ∧
      powersOf strictness base copies = .ok power ∧
      euclideanOn strictness (copies ++ shape) = .ok whole ∧
      power.geometry.SameOn (copies ++ shape) whole.geometry := by
  obtain ⟨base, baseBuilt, baseFlat⟩ := euclideanOn_flat (S := S) positive
  obtain ⟨power, powerBuilt, powerFlat⟩ := powersOf_flat positive baseFlat some
  obtain ⟨whole, wholeBuilt, wholeFlat⟩ :=
    euclideanOn_flat (S := S) (List.forall_mem_append.mpr ⟨some, positive⟩)
  exact ⟨base, power, whole, baseBuilt, powerBuilt, wholeBuilt, powerFlat.same wholeFlat⟩

theorem sample_powersOf_euclideanOn_same :
    ∃ base power whole : Manifold ℝ, euclideanOn .strict [2] = .ok base ∧
      powersOf .strict base [3, 4] = .ok power ∧ euclideanOn .strict [3, 4, 2] = .ok whole ∧
      power.geometry.SameOn [3, 4, 2] whole.geometry :=
  powersOf_euclideanOn_same .strict (by decide) (by decide)

end Manifold

end ProximalSplitting

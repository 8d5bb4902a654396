import ProximalSplitting.Proofs.Exact.Powers

/-!
Lines in Euclidean spaces over exact numbers. A Euclidean space that could be built is flat on the
arrays of its shape, geodesics are straight, and a share of a line has that share of its length. Who
goes a half, then a third, then a quarter and so on of the way that is left approaches a target by
steps of known lengths.
-/

namespace ProximalSplitting

open Compute Tensor

variable {S : Type} {shape : List Nat}

theorem Manifold.flat_of_euclidean [RootScalar S] {strictness : Strictness} {manifold : Manifold S}
    (built : Manifold.euclideanOf strictness (shape.map fun (extent : Nat) => .integer extent) =
      .ok manifold) : manifold.geometry.FlatOn shape := by
  obtain ⟨space, same, flat⟩ : ∃ space : Manifold S, euclideanOn strictness shape = .ok space ∧
      space.geometry.FlatOn shape := euclideanOn_flat (positive_of_euclidean built)
  rw [euclideanOn, built] at same
  cases same
  exact flat

theorem Geometry.LinearOn.gives_along [RootScalar S] {geometry : Geometry S}
    (linear : geometry.LinearOn shape) {start target : Point S}
    (startShaped : start.hasShape shape = true) (targetShaped : target.hasShape shape = true)
    (time : S) :
    (geometry.shortestGeodesic start target time).Gives (Flat.along start target time) :=
  (linear.log startShaped targetShaped).bind
    (linear.exp startShaped (Flat.hasShape_sub startShaped targetShaped) time)

namespace Tensor

variable [RealScalar S]

theorem sum_square_scale (factor : S) (tensor : Tensor S) :
    ((tensor.scale factor).map Scalar.square).sum =
      factor * factor * (tensor.map Scalar.square).sum := by
  have squares : ∀ entry : S,
      Scalar.square (factor * entry) = factor * factor * Scalar.square entry := by
    intro entry
    rw [Scalar.square, Scalar.square]
    ring
  rw [sum_eq_sum_entries, sum_eq_sum_entries, scale, entries_map, entries_map, entries_map,
    List.map_map, ← List.sum_map_mul_left]
  congr 1
  apply List.map_congr_left
  intro entry _
  exact squares entry

theorem length_scale {factor : S} (nonneg : 0 ≤ factor) (tensor : Tensor S) :
    (tensor.scale factor).length = factor * tensor.length := by
  have squared := sum_square_nonneg tensor
  have scaled := sum_square_nonneg (tensor.scale factor)
  -- Both are roots of the same number, and none of them is negative.
  have roots : (tensor.scale factor).length * (tensor.scale factor).length =
      factor * tensor.length * (factor * tensor.length) := by
    calc (tensor.scale factor).length * (tensor.scale factor).length
        = ((tensor.scale factor).map Scalar.square).sum := RealScalar.sqrt_mul_sqrt _ scaled
      _ = factor * factor * (tensor.map Scalar.square).sum := sum_square_scale factor tensor
      _ = factor * factor * (tensor.length * tensor.length) := by
          rw [length, RealScalar.sqrt_mul_sqrt _ squared]
      _ = factor * tensor.length * (factor * tensor.length) := by ring
  refine (mul_self_inj ?_ ?_).mp roots
  · exact RealScalar.sqrt_nonneg _ scaled
  · exact mul_nonneg nonneg (RealScalar.sqrt_nonneg _ squared)

end Tensor

namespace Flat

/-- The target and what is left of the way to it after some steps, which is the whole way divided by
one more than their number. -/
def approach [ExactScalar S] (target start : Point S) (done : Nat) : Point S :=
  along target start (1 / (done + 1))

theorem shares_defined [ExactScalar S] (done : Nat) :
    (done : S) + 1 ≠ 0 ∧ (done : S) + 2 ≠ 0 ∧ ((done + 1 : Nat) : S) + 1 = done + 2 := by
  have two : ((done + 1 : Nat) : S) + 1 = done + 2 := by
    rw [Nat.cast_add_one]
    ring
  refine ⟨Nat.cast_add_one_ne_zero done, ?_, two⟩
  rw [← two]
  exact Nat.cast_add_one_ne_zero (done + 1)

variable {target start : Point S}

section Steps

variable [ExactScalar S] (targetShaped : target.hasShape shape = true)
  (startShaped : start.hasShape shape = true)
include targetShaped startShaped

theorem hasShape_approach (done : Nat) : (approach target start done).hasShape shape = true :=
  hasShape_along targetShaped startShaped _

theorem approach_zero : approach target start 0 = start := by
  refine eq_of_coordinates (hasShape_approach targetShaped startShaped 0) startShaped ?_
  rw [approach, coordinates_along targetShaped startShaped, Nat.cast_zero, zero_add, div_one,
    one_smul, add_sub_cancel]

theorem along_approach (done : Nat) :
    along (approach target start done) target (1 / (done + 2)) =
      approach target start (done + 1) := by
  have shaped := hasShape_approach targetShaped startShaped done
  refine eq_of_coordinates (hasShape_along shaped targetShaped _)
    (hasShape_approach targetShaped startShaped (done + 1)) ?_
  obtain ⟨first, second, two⟩ := shares_defined (S := S) done
  rw [coordinates_along shaped targetShaped, approach, approach,
    coordinates_along targetShaped startShaped, coordinates_along targetShaped startShaped, two]
  funext position
  simp only [Pi.add_apply, Pi.sub_apply, Pi.smul_apply, smul_eq_mul]
  field_simp
  ring

theorem sub_approach (done : Nat) :
    zipWith (· - ·) (approach target start (done + 1)) (approach target start done) =
      (zipWith (· - ·) target start).scale (1 / (((done : S) + 1) * (done + 2))) := by
  have before := hasShape_approach targetShaped startShaped done
  have after := hasShape_approach targetShaped startShaped (done + 1)
  have way := hasShape_zipWith targetShaped startShaped (· - ·)
  obtain ⟨first, second, two⟩ := shares_defined (S := S) done
  refine eq_of_coordinates (hasShape_zipWith after before (· - ·)) (by simpa using way) ?_
  rw [coordinates_sub after before, coordinates_scale, coordinates_sub targetShaped startShaped,
    approach, approach, coordinates_along targetShaped startShaped,
    coordinates_along targetShaped startShaped, two]
  funext position
  simp only [Pi.add_apply, Pi.sub_apply, Pi.smul_apply, smul_eq_mul]
  field_simp
  ring

end Steps

theorem length_sub_approach [RealScalar S] (targetShaped : target.hasShape shape = true)
    (startShaped : start.hasShape shape = true) (done : Nat) :
    (zipWith (· - ·) (approach target start (done + 1)) (approach target start done)).length =
      (zipWith (· - ·) target start).length / ((done + 1) * (done + 2)) := by
  have nonneg : 0 ≤ 1 / (((done : S) + 1) * (done + 2)) := by positivity
  rw [sub_approach targetShaped startShaped, length_scale nonneg, one_div, ← div_eq_inv_mul]

end Flat

end ProximalSplitting

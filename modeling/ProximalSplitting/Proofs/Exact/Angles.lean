import Mathlib.Analysis.SpecialFunctions.Trigonometric.Inverse
import Mathlib.LinearAlgebra.Matrix.DotProduct
import ProximalSplitting.Proofs.Exact.Lines
import ProximalSplitting.Proofs.Exact.Sphere

/-!
Angles between unit vectors over the real numbers. The distance of two points of a sphere is the
angle between them, and a logarithm should be as long as that. It divides the part of the target that
is orthogonal to the start by its length, or by the smallest length where that is larger. In the
latter case the quotient is shorter than one and the logarithm is shorter than the angle. This
happens where the sine of the angle is small: for points that are nearly equal, and for points that
are nearly antipodal.
-/

namespace ProximalSplitting

open Compute Tensor

namespace Sphere

section Quotients

variable {S : Type} [RealScalar S] {dimension : Nat} {direction : Point S}

theorem div_divisor (length : S) :
    length / divisor length = min 1 (length / Tolerance.smallLength) := by
  have positive := Tolerance.smallLength_pos (S := S)
  rcases le_or_gt Tolerance.smallLength length with long | short
  · have whole : 1 ≤ length / Tolerance.smallLength := (one_le_div positive).mpr long
    rw [divisor_eq long, div_self (positive.trans_le long).ne', min_eq_left whole]
  · have part : length / Tolerance.smallLength ≤ 1 := (div_le_one positive).mpr short.le
    rw [divisor, Scalar.maximum_eq, max_eq_right short.le, min_eq_right part]

theorem length_scale_divide (shaped : direction.hasShape [dimension + 1] = true) {angle : S}
    (nonneg : 0 ≤ angle) :
    ((direction.scale angle).divide (divisor direction.length)).length =
      angle * min 1 (direction.length / Tolerance.smallLength) := by
  have quotient : (direction.scale angle).divide (divisor direction.length) =
      direction.scale (angle / divisor direction.length) := by
    have scaled : ∀ factor : S, (direction.scale factor).hasShape [dimension + 1] = true := by
      simpa using shaped
    apply eq_of_vector (by simpa using scaled angle) (scaled _)
    rw [vector_divide, vector_scale, vector_scale, smul_smul, inv_mul_eq_div]
  rw [quotient, length_scale (div_nonneg nonneg (divisor_pos _).le),
    ← div_divisor direction.length, div_mul_eq_mul_div, mul_div_assoc]

end Quotients

theorem arctan2_eq_arccos {ordinate abscissa : ℝ} (nonneg : 0 ≤ ordinate)
    (circle : ordinate * ordinate = 1 - abscissa * abscissa) :
    Scalar.arctan2 ordinate abscissa = Real.arccos abscissa := by
  have bounded : |abscissa| ≤ 1 :=
    abs_le_one_iff_mul_self_le_one.mpr (by linarith [mul_self_nonneg ordinate])
  have sine : Real.sin (Real.arccos abscissa) = ordinate := by
    rw [Real.sin_arccos, sq, ← circle, Real.sqrt_mul_self nonneg]
  have point : (⟨abscissa, ordinate⟩ : ℂ) =
      Complex.cos (Real.arccos abscissa) + Complex.sin (Real.arccos abscissa) * Complex.I := by
    rw [← Complex.ofReal_cos, ← Complex.ofReal_sin,
      Real.cos_arccos (abs_le.mp bounded).1 (abs_le.mp bounded).2, sine]
    exact Complex.mk_eq_add_mul_I _ _
  change Complex.arg ⟨abscissa, ordinate⟩ = _
  rw [point, Complex.arg_cos_add_sin_mul_I]
  exact ⟨(neg_lt_zero.mpr Real.pi_pos).trans_le (Real.arccos_nonneg _), Real.arccos_le_pi _⟩

section Angles

variable {dimension : Nat} {start target : Point ℝ}

noncomputable def angle (dimension : Nat) (start target : Point ℝ) : ℝ :=
  Real.arccos (start.vector (dimension + 1) ⬝ᵥ target.vector (dimension + 1))

noncomputable def logarithm (dimension : Nat) (start target : Point ℝ) : Point ℝ :=
  ((rejection dimension start target).scale (angle dimension start target)).divide
    (divisor (rejection dimension start target).length)

variable (isStart : IsPoint dimension start) (isTarget : IsPoint dimension target)
include isStart isTarget

theorem length_rejection_mul_self :
    (rejection dimension start target).length * (rejection dimension start target).length =
      1 - (start.vector (dimension + 1) ⬝ᵥ target.vector (dimension + 1)) *
        (start.vector (dimension + 1) ⬝ᵥ target.vector (dimension + 1)) := by
  rw [length_mul_length (isTangent_rejection isStart isTarget.shaped).shaped,
    dotProduct_rejection isStart isTarget.shaped, isTarget.dotProduct_self]

/-- The part of a unit vector that is orthogonal to another one is as long as the sine of the angle
between them. -/
theorem sin_angle :
    Real.sin (angle dimension start target) = (rejection dimension start target).length := by
  rw [angle, Real.sin_arccos, sq, ← length_rejection_mul_self isStart isTarget,
    Real.sqrt_mul_self (zero_le_length _)]

theorem angle_eq_zero_iff : angle dimension start target = 0 ↔ start = target := by
  -- Twice what the cosine of the angle lacks to one is the square of the length of the chord.
  have apart : (start.vector (dimension + 1) - target.vector (dimension + 1)) ⬝ᵥ
      (start.vector (dimension + 1) - target.vector (dimension + 1)) =
        2 * (1 - start.vector (dimension + 1) ⬝ᵥ target.vector (dimension + 1)) := by
    rw [sub_dotProduct, dotProduct_sub, dotProduct_sub, isStart.dotProduct_self,
      isTarget.dotProduct_self, dotProduct_comm (target.vector (dimension + 1))]
    ring
  rw [angle, Real.arccos_eq_zero]
  constructor
  · intro along
    have nothing : (start.vector (dimension + 1) - target.vector (dimension + 1)) ⬝ᵥ
        (start.vector (dimension + 1) - target.vector (dimension + 1)) = 0 :=
      le_antisymm (by linarith) (dotProduct_self_nonneg _)
    have same := sub_eq_zero.mp (dotProduct_self_eq_zero.mp nothing)
    exact eq_of_vector isStart.shaped isTarget.shaped same
  · rintro rfl
    exact isStart.dotProduct_self.ge

theorem arctan2_rejection :
    Scalar.arctan2 (rejection dimension start target).length
        (start.vector (dimension + 1) ⬝ᵥ target.vector (dimension + 1)) =
      angle dimension start target :=
  arctan2_eq_arccos (zero_le_length _) (length_rejection_mul_self isStart isTarget)

theorem gives_angle (some : 1 ≤ dimension) :
    (dist start target).Gives (angle dimension start target) := by
  rw [← arctan2_rejection isStart isTarget]
  exact gives_dist some isStart isTarget

theorem gives_logarithm (some : 1 ≤ dimension) :
    (log start target).Gives (logarithm dimension start target) := by
  rw [logarithm, ← arctan2_rejection isStart isTarget]
  exact gives_log some isStart isTarget

theorem isTangent_logarithm : IsTangent dimension start (logarithm dimension start target) :=
  ((isTangent_rejection isStart isTarget.shaped).scale _).divide _

theorem length_logarithm :
    (logarithm dimension start target).length =
      angle dimension start target *
        min 1 (Real.sin (angle dimension start target) / Tolerance.smallLength) := by
  have shaped := (isTangent_rejection isStart isTarget.shaped).shaped
  rw [sin_angle isStart isTarget]
  exact length_scale_divide shaped (Real.arccos_nonneg _)

theorem length_logarithm_eq_iff :
    (logarithm dimension start target).length = angle dimension start target ↔
      start = target ∨ Tolerance.smallLength ≤ Real.sin (angle dimension start target) := by
  rw [length_logarithm isStart isTarget, mul_right_eq_self₀, min_eq_left_iff,
    one_le_div Tolerance.smallLength_pos, angle_eq_zero_iff isStart isTarget, or_comm]

end Angles

end Sphere

open Sphere in
/-- The distance of two points of a sphere is the angle between them. The logarithm is a tangent
vector whose length is the angle times a factor, which is one unless the sine of the angle is below
the smallest length. So the two agree on points that are equal or clearly neither equal nor
antipodal, and nowhere else. -/
theorem length_of_logarithm {strictness : Strictness} {dimension : Nat} {manifold : Manifold ℝ}
    (built : Manifold.sphereOf strictness (.integer dimension) = .ok manifold)
    {start target : Point ℝ} (isStart : IsPoint dimension start)
    (isTarget : IsPoint dimension target) :
    ∃ (direction : Point ℝ) (length distance : ℝ),
      (manifold.geometry.log start target).Gives direction ∧
      IsTangent dimension start direction ∧
      (manifold.geometry.norm start direction).Gives length ∧
      (manifold.geometry.dist start target).Gives distance ∧
      distance = Real.arccos
        (start.vector (dimension + 1) ⬝ᵥ target.vector (dimension + 1)) ∧
      length = distance * min 1 (Real.sin distance / Tolerance.smallLength) ∧
      (length = distance ↔ start = target ∨ Tolerance.smallLength ≤ Real.sin distance) := by
  obtain ⟨some, _, _, _, _, _, rfl⟩ := built_of_sphere built
  have tangent := isTangent_logarithm isStart isTarget
  exact ⟨_, _, _, gives_logarithm isStart isTarget some, tangent, gives_norm tangent.shaped start,
    gives_angle isStart isTarget some, rfl, length_logarithm isStart isTarget,
    length_logarithm_eq_iff isStart isTarget⟩

section Sample

open Sphere

theorem sample_length_of_logarithm : ∃ (ball : Manifold ℝ) (direction : Point ℝ) (length : ℝ),
    Manifold.sphereOf .strict (.integer 2) = .ok ball ∧
      (ball.geometry.log (ofVector ![1, 0, 0]) (ofVector ![0, 1, 0])).Gives direction ∧
      (ball.geometry.norm (ofVector ![1, 0, 0]) direction).Gives length ∧
      (ball.geometry.dist (ofVector ![1, 0, 0]) (ofVector ![0, 1, 0])).Gives length ∧
      length = Real.pi / 2 := by
  obtain ⟨ball, built⟩ : ∃ ball : Manifold ℝ,
      Manifold.sphereOf .strict (.integer (2 : Nat)) = .ok ball := ⟨_, rfl⟩
  have isStart : IsPoint 2 (ofVector ![(1 : ℝ), 0, 0]) :=
    isPoint_ofVector (by simp [dotProduct, Fin.sum_univ_three])
  have isTarget : IsPoint 2 (ofVector ![(0 : ℝ), 1, 0]) :=
    isPoint_ofVector (by simp [dotProduct, Fin.sum_univ_three])
  obtain ⟨direction, length, distance, log, -, norm, dist, angle, -, agree⟩ :=
    length_of_logarithm built isStart isTarget
  have quarter : distance = Real.pi / 2 := by
    rw [angle, vector_ofVector, vector_ofVector]
    simp [dotProduct, Fin.sum_univ_three]
  have same : length = distance := agree.mpr (.inr (by
    rw [quarter, Real.sin_pi_div_two, Tolerance.smallLength, RealScalar.decimal_eq]
    norm_num))
  subst same
  exact ⟨ball, direction, length, built, log, norm, dist, quarter⟩

/-- Between two poles the logarithm is the zero vector, though their distance is half a circle. -/
theorem logarithm_short_of_antipode : ∃ (ball : Manifold ℝ) (direction : Point ℝ),
    Manifold.sphereOf .strict (.integer 2) = .ok ball ∧
      IsPoint 2 (ofVector ![(1 : ℝ), 0, 0]) ∧ IsPoint 2 (ofVector ![(-1 : ℝ), 0, 0]) ∧
      (ball.geometry.log (ofVector ![1, 0, 0]) (ofVector ![-1, 0, 0])).Gives direction ∧
      (ball.geometry.norm (ofVector ![1, 0, 0]) direction).Gives 0 ∧
      (ball.geometry.dist (ofVector ![1, 0, 0]) (ofVector ![-1, 0, 0])).Gives Real.pi ∧
      (0 : ℝ) ≠ Real.pi := by
  have isStart : IsPoint 2 (ofVector ![(1 : ℝ), 0, 0]) :=
    isPoint_ofVector (by simp [dotProduct, Fin.sum_univ_three])
  have isTarget : IsPoint 2 (ofVector ![(-1 : ℝ), 0, 0]) :=
    isPoint_ofVector (by simp [dotProduct, Fin.sum_univ_three])
  have half : angle 2 (ofVector ![1, 0, 0]) (ofVector ![-1, 0, 0]) = Real.pi := by
    rw [angle, vector_ofVector, vector_ofVector]
    simp [dotProduct, Fin.sum_univ_three]
  have nothing : (logarithm 2 (ofVector ![1, 0, 0]) (ofVector ![-1, 0, 0])).length = 0 := by
    rw [length_logarithm isStart isTarget, half]
    simp
  have some : 1 ≤ 2 := by norm_num
  have norm := gives_norm (isTangent_logarithm isStart isTarget).shaped (ofVector ![1, 0, 0])
  have dist := gives_angle isStart isTarget some
  rw [nothing] at norm
  rw [half] at dist
  exact ⟨_, _, rfl, isStart, isTarget, gives_logarithm isStart isTarget some, norm, dist,
    Real.pi_ne_zero.symm⟩

end Sample

end ProximalSplitting

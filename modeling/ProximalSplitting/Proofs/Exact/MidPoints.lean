import ProximalSplitting.Proofs.Exact.Lengths
import ProximalSplitting.Proofs.Exact.Sphere

/-!
Mid points of antipodal points. Every direction orthogonal to a point leads to a mid point; the one
along the part of the reference that is orthogonal to the point is as near to the reference as a
mid point can be. Where that part is too short, a basis vector takes its place, which is never so.
-/

namespace ProximalSplitting

open Compute Tensor

namespace Sphere

variable {S : Type} [RealScalar S] {dimension : Nat} {base guide other : Point S}

section Nearest

variable (isPoint : IsPoint dimension base) (guideShaped : guide.hasShape [dimension + 1] = true)
include isPoint guideShaped

theorem rejection_dotProduct (tangent : IsTangent dimension base other) :
    (rejection dimension base guide).vector (dimension + 1) ⬝ᵥ other.vector (dimension + 1) =
      guide.vector (dimension + 1) ⬝ᵥ other.vector (dimension + 1) := by
  rw [vector_rejection isPoint.shaped guideShaped, sub_dotProduct, smul_dotProduct,
    tangent.orthogonal, smul_zero, sub_zero]

theorem dotProduct_normalized_rejection (long : 0 < (rejection dimension base guide).length) :
    guide.vector (dimension + 1) ⬝ᵥ ((rejection dimension base guide).divide
      (rejection dimension base guide).length).vector (dimension + 1) =
        (rejection dimension base guide).length := by
  have tangent := isTangent_rejection isPoint guideShaped
  rw [vector_divide, dotProduct_smul, ← rejection_dotProduct isPoint guideShaped tangent,
    ← length_mul_length tangent.shaped, smul_eq_mul, inv_mul_cancel_left₀ long.ne']

theorem dotProduct_le_normalized_rejection (long : 0 < (rejection dimension base guide).length)
    (otherPoint : IsPoint dimension other) (tangent : IsTangent dimension base other) :
    guide.vector (dimension + 1) ⬝ᵥ other.vector (dimension + 1) ≤
      guide.vector (dimension + 1) ⬝ᵥ ((rejection dimension base guide).divide
        (rejection dimension base guide).length).vector (dimension + 1) := by
  have rejected := isTangent_rejection isPoint guideShaped
  have bounded := dotProduct_le_length_mul_length (count_of_hasShape rejected.shaped)
    (count_of_hasShape otherPoint.shaped)
  rw [otherPoint.unit, mul_one, rejection_dotProduct isPoint guideShaped tangent] at bounded
  rwa [dotProduct_normalized_rejection isPoint guideShaped long]

omit isPoint in
theorem length_sub_le_of_dotProduct_le {near far : Point S} (isNear : IsPoint dimension near)
    (isFar : IsPoint dimension far)
    (larger : guide.vector (dimension + 1) ⬝ᵥ far.vector (dimension + 1) ≤
      guide.vector (dimension + 1) ⬝ᵥ near.vector (dimension + 1)) :
    (zipWith (· - ·) guide near).length ≤ (zipWith (· - ·) guide far).length := by
  have squared : ∀ {point : Point S}, IsPoint dimension point →
      (zipWith (· - ·) guide point).length * (zipWith (· - ·) guide point).length =
        guide.vector (dimension + 1) ⬝ᵥ guide.vector (dimension + 1) + 1 -
          2 * (guide.vector (dimension + 1) ⬝ᵥ point.vector (dimension + 1)) := by
    intro point isPoint
    rw [length_mul_length (hasShape_zipWith guideShaped isPoint.shaped _),
      vector_sub guideShaped isPoint.shaped, sub_dotProduct, dotProduct_sub, dotProduct_sub,
      isPoint.dotProduct_self, dotProduct_comm (point.vector (dimension + 1))]
    ring
  rw [mul_self_le_mul_self_iff (zero_le_length _) (zero_le_length _), squared isNear, squared isFar]
  linarith

end Nearest

section Directions

variable {reference : Option (Point S)} (some : 1 ≤ dimension) (isPoint : IsPoint dimension base)
include some isPoint

theorem gives_orthogonalDirection_of_short
    (shaped : ∀ guide ∈ reference, guide.hasShape [dimension + 1] = true)
    (short : ∀ guide ∈ reference, (rejection dimension base guide).length < Tolerance.antipodal) :
    ∃ position : Fin (dimension + 1),
      (∀ other, |base.vector (dimension + 1) position| ≤ |base.vector (dimension + 1) other|) ∧
        (orthogonalDirection base reference).Gives
          (rejection dimension base (ofVector (Pi.single position 1))) := by
  obtain ⟨position, least, gives⟩ := gives_fallbackDirection some isPoint
  refine ⟨position, least, ?_⟩
  cases reference with
  | none => exact gives
  | some guide =>
      refine (gives_proj some isPoint.shaped (shaped guide rfl)).bind ?_
      rw [Scalar.less_eq, if_pos (decide_eq_true (short guide rfl))]
      exact gives

theorem gives_orthogonalDirection_of_long (shaped : guide.hasShape [dimension + 1] = true)
    (long : Tolerance.antipodal ≤ (rejection dimension base guide).length) :
    (orthogonalDirection base (Option.some guide)).Gives (rejection dimension base guide) := by
  refine (gives_proj some isPoint.shaped shaped).bind ?_
  rw [Scalar.less_eq, if_neg (by simpa using long)]
  exact gives_pure _

end Directions

theorem gives_midPoint_of_antipodal {start target direction : Point S}
    {reference : Option (Point S)} (isStart : IsPoint dimension start)
    (isTarget : IsPoint dimension target)
    (antipodal : start.vector (dimension + 1) ⬝ᵥ target.vector (dimension + 1) ≤
      -1 + Tolerance.antipodal)
    (gives : (orthogonalDirection start reference).Gives direction) :
    (midPoint start target reference).Gives (direction.divide direction.length) := by
  have decided : (areAntipodal start target).Gives _ :=
    (gives_dot (Nat.succ_pos dimension) isStart.shaped isTarget.shaped).bind (gives_pure _)
  refine decided.bind ?_
  rw [Scalar.less_eq, Scalar.one_eq, decide_eq_false (not_lt.mpr antipodal)]
  exact gives.bind (gives_pure _)

end Sphere

open Sphere in
/-- The mid point of points of a sphere that are antipodal, or nearly so. It is a direction that is
divided by its length, which is positive; a unit vector that is orthogonal to the first point; as
near to a reference as such a vector can be, unless the reference is nearly parallel to the first
point; and otherwise taken along a basis vector that is far from parallel. -/
theorem antipodal_midPoint {S : Type} [RealScalar S] {strictness : Strictness} {dimension : Nat}
    {manifold : Manifold S}
    (built : Manifold.sphereOf strictness (.integer dimension) = .ok manifold)
    {start target : Point S} (isStart : IsPoint dimension start)
    (isTarget : IsPoint dimension target)
    (antipodal : start.vector (dimension + 1) ⬝ᵥ target.vector (dimension + 1) ≤
      -1 + Tolerance.antipodal)
    {reference : Option (Point S)}
    (shaped : ∀ guide ∈ reference, guide.hasShape [dimension + 1] = true) :
    ∃ direction, (orthogonalDirection start reference).Gives direction ∧ 0 < direction.length ∧
      (manifold.geometry.midPoint start target reference).Gives
        (direction.divide direction.length) ∧
      IsPoint dimension (direction.divide direction.length) ∧
      IsTangent dimension start (direction.divide direction.length) ∧
      (∀ guide ∈ reference, Tolerance.antipodal ≤ (rejection dimension start guide).length →
        ∀ other, IsPoint dimension other → IsTangent dimension start other →
          guide.vector (dimension + 1) ⬝ᵥ other.vector (dimension + 1) ≤
              guide.vector (dimension + 1) ⬝ᵥ
                (direction.divide direction.length).vector (dimension + 1) ∧
            (Tensor.zipWith (· - ·) guide (direction.divide direction.length)).length ≤
              (Tensor.zipWith (· - ·) guide other).length) ∧
      ((∀ guide ∈ reference, (rejection dimension start guide).length < Tolerance.antipodal) →
        ∃ position : Fin (dimension + 1),
          (∀ other,
            |start.vector (dimension + 1) position| ≤ |start.vector (dimension + 1) other|) ∧
          direction = rejection dimension start (ofVector (Pi.single position 1)) ∧
          (dimension : S) / (dimension + 1) ≤ direction.length * direction.length) := by
  obtain ⟨some, round⟩ := checked_of_sphere built
  rw [round.midPoint]
  by_cases short : ∀ guide ∈ reference,
      (rejection dimension start guide).length < Tolerance.antipodal
  · obtain ⟨position, least, gives⟩ := gives_orthogonalDirection_of_short some isStart shaped short
    have tangent := isTangent_rejection isStart (hasShape_ofVector (Pi.single position (1 : S)))
    have positive := length_rejection_pos some isStart least
    refine ⟨_, gives, positive, gives_midPoint_of_antipodal isStart isTarget antipodal gives,
      isPoint_normalized tangent positive.ne', tangent.divide _, ?_, fun _ => ?_⟩
    · intro guide member long
      exact absurd (short guide member) (not_lt.mpr long)
    · exact ⟨position, least, rfl, le_rejection_of_smallest isStart least⟩
  · obtain ⟨guide, member, long⟩ : ∃ guide ∈ reference,
        Tolerance.antipodal ≤ (rejection dimension start guide).length := by
      simpa only [not_forall, not_lt, exists_prop] using short
    obtain rfl : reference = Option.some guide := member
    have guideShaped := shaped guide rfl
    have gives := gives_orthogonalDirection_of_long some isStart guideShaped long
    have tangent := isTangent_rejection isStart guideShaped
    have positive := Tolerance.antipodal_pos.trans_le long
    have isMid := isPoint_normalized tangent positive.ne'
    refine ⟨_, gives, positive, gives_midPoint_of_antipodal isStart isTarget antipodal gives,
      isMid, tangent.divide _, ?_, fun absurdity => absurd absurdity short⟩
    rintro _ ⟨⟩ - other isOther otherTangent
    have larger := dotProduct_le_normalized_rejection isStart guideShaped positive isOther
      otherTangent
    exact ⟨larger, length_sub_le_of_dotProduct_le guideShaped isMid isOther larger⟩

section Sample

open Sphere

/-- Between two poles, with a reference beside the equator and without one. -/
theorem sample_antipodal_midPoint : ∃ (ball : Manifold ℝ) (guided free : Point ℝ),
    Manifold.sphereOf .strict (.integer 2) = .ok ball ∧ 0 < guided.length ∧
      (ball.geometry.midPoint (ofVector ![1, 0, 0]) (ofVector ![-1, 0, 0])
        (some (ofVector ![7, 3, 4]))).Gives (guided.divide guided.length) ∧
      (∀ other, IsPoint 2 other → IsTangent 2 (ofVector ![1, 0, 0]) other →
        (ofVector ![7, 3, 4]).vector 3 ⬝ᵥ other.vector 3 ≤
          (ofVector ![7, 3, 4]).vector 3 ⬝ᵥ (guided.divide guided.length).vector 3) ∧
      (ball.geometry.midPoint (ofVector ![1, 0, 0]) (ofVector ![-1, 0, 0]) none).Gives
        (free.divide free.length) ∧
      2 / 3 ≤ free.length * free.length := by
  obtain ⟨ball, built⟩ : ∃ ball : Manifold ℝ,
      Manifold.sphereOf .strict (.integer (2 : Nat)) = .ok ball := ⟨_, rfl⟩
  have isPole : ∀ height : ℝ, height * height = 1 → IsPoint 2 (ofVector ![height, 0, 0]) := by
    intro height unit
    refine ⟨hasShape_ofVector _, (length_eq_one_iff (hasShape_ofVector _)).mpr ?_⟩
    simp [dotProduct, Fin.sum_univ_three, unit]
  have isStart := isPole 1 (by norm_num)
  have isTarget := isPole (-1) (by norm_num)
  have antipodal : (ofVector ![(1 : ℝ), 0, 0]).vector 3 ⬝ᵥ (ofVector ![-1, 0, 0]).vector 3 ≤
      -1 + Tolerance.antipodal := by
    simpa [dotProduct, Fin.sum_univ_three] using Tolerance.antipodal_pos.le
  have guideShaped := hasShape_ofVector ![(7 : ℝ), 3, 4]
  have long : Tolerance.antipodal ≤
      (rejection 2 (ofVector ![(1 : ℝ), 0, 0]) (ofVector ![7, 3, 4])).length := by
    have squared : (rejection 2 (ofVector ![(1 : ℝ), 0, 0]) (ofVector ![7, 3, 4])).length ^ 2 =
        5 ^ 2 := by
      rw [sq, length_mul_length (isTangent_rejection isStart guideShaped).shaped,
        dotProduct_rejection isStart guideShaped, vector_ofVector, vector_ofVector]
      norm_num [Matrix.vec3_dotProduct']
    rw [(pow_left_inj₀ (zero_le_length _) (by norm_num) two_ne_zero).mp squared,
      Tolerance.antipodal, RealScalar.decimal_eq]
    norm_num
  have referenced : ∀ guide ∈ some (ofVector ![(7 : ℝ), 3, 4]), guide.hasShape [3] = true := by
    rintro _ ⟨⟩
    exact guideShaped
  have unreferenced : ∀ guide ∈ (none : Option (Point ℝ)), guide.hasShape [3] = true := by simp
  obtain ⟨guided, -, positive, givesGuided, -, -, nearest, -⟩ :=
    antipodal_midPoint built isStart isTarget antipodal referenced
  obtain ⟨free, -, -, givesFree, -, -, -, far⟩ :=
    antipodal_midPoint built isStart isTarget antipodal unreferenced
  obtain ⟨_, -, -, bounded⟩ := far (by simp)
  refine ⟨ball, guided, free, built, positive, givesGuided, fun other isOther tangent => ?_,
    givesFree, ?_⟩
  · exact (nearest _ rfl long other isOther tangent).1
  · norm_num at bounded
    exact bounded

end Sample

end ProximalSplitting

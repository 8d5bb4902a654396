import Mathlib.Tactic.Linarith
import ProximalSplitting.Proofs.Exact.Sums
import ProximalSplitting.Proofs.Exact.Vectors

/-!
The sphere over exact numbers. Logarithms are tangent vectors, and following a tangent vector for any
time leads to a unit vector: the vector that is normalized is never zero, also where the length of
the way is so small that it is replaced in the quotient of the sine. Hence mid points and means are
unit vectors, too.
-/

namespace ProximalSplitting

open Compute Tensor

namespace Sphere

variable {S : Type} [RealScalar S] {dimension : Nat}

structure IsPoint (dimension : Nat) (point : Point S) : Prop where
  shaped : point.hasShape [dimension + 1] = true
  unit : point.length = 1

structure IsTangent (dimension : Nat) (base direction : Point S) : Prop where
  shaped : direction.hasShape [dimension + 1] = true
  orthogonal : base.vector (dimension + 1) ⬝ᵥ direction.vector (dimension + 1) = 0

theorem IsPoint.dotProduct_self {point : Point S} (isPoint : IsPoint dimension point) :
    point.vector (dimension + 1) ⬝ᵥ point.vector (dimension + 1) = 1 :=
  (length_eq_one_iff isPoint.shaped).mp isPoint.unit

theorem isPoint_ofVector {values : Fin (dimension + 1) → S} (unit : values ⬝ᵥ values = 1) :
    IsPoint dimension (ofVector values) where
  shaped := hasShape_ofVector values
  unit := (length_eq_one_iff (hasShape_ofVector values)).mpr (by rwa [vector_ofVector])

theorem divisor_pos (length : S) : 0 < divisor length := by
  rw [divisor, Scalar.maximum_eq]
  exact lt_of_lt_of_le Tolerance.smallLength_pos (le_max_right _ _)

theorem divisor_eq {length : S} (long : Tolerance.smallLength ≤ length) : divisor length = length := by
  rw [divisor, Scalar.maximum_eq, max_eq_left long]

section Tangents

variable {base direction other : Point S}

theorem IsTangent.scale (tangent : IsTangent dimension base direction) (factor : S) :
    IsTangent dimension base (direction.scale factor) where
  shaped := by simpa using tangent.shaped
  orthogonal := by rw [vector_scale, dotProduct_smul, tangent.orthogonal, smul_zero]

theorem IsTangent.divide (tangent : IsTangent dimension base direction) (factor : S) :
    IsTangent dimension base (direction.divide factor) where
  shaped := by simpa using tangent.shaped
  orthogonal := by rw [vector_divide, dotProduct_smul, tangent.orthogonal, smul_zero]

theorem IsTangent.negate (tangent : IsTangent dimension base direction) :
    IsTangent dimension base direction.negate where
  shaped := by simpa using tangent.shaped
  orthogonal := by rw [vector_negate, dotProduct_neg, tangent.orthogonal, neg_zero]

theorem IsTangent.add (tangent : IsTangent dimension base direction)
    (otherTangent : IsTangent dimension base other) :
    IsTangent dimension base (zipWith (· + ·) direction other) where
  shaped := hasShape_zipWith tangent.shaped otherTangent.shaped _
  orthogonal := by
    rw [vector_add tangent.shaped otherTangent.shaped, dotProduct_add, tangent.orthogonal,
      otherTangent.orthogonal, add_zero]

end Tangents

def rejection (dimension : Nat) (base vector : Point S) : Point S :=
  zipWith (· - ·) vector
    (base.scale (base.vector (dimension + 1) ⬝ᵥ vector.vector (dimension + 1)))

section Projection

variable {base vector : Point S}

theorem vector_rejection (baseShaped : base.hasShape [dimension + 1] = true)
    (shaped : vector.hasShape [dimension + 1] = true) :
    (rejection dimension base vector).vector (dimension + 1) =
      vector.vector (dimension + 1) -
        (base.vector (dimension + 1) ⬝ᵥ vector.vector (dimension + 1)) •
          base.vector (dimension + 1) := by
  have scaled : (base.scale (base.vector (dimension + 1) ⬝ᵥ vector.vector (dimension + 1))).hasShape
      [dimension + 1] = true := by simpa using baseShaped
  rw [rejection, vector_sub shaped scaled, vector_scale]

theorem isTangent_rejection (isPoint : IsPoint dimension base)
    (shaped : vector.hasShape [dimension + 1] = true) :
    IsTangent dimension base (rejection dimension base vector) where
  shaped := hasShape_zipWith shaped (by simpa using isPoint.shaped) _
  orthogonal := by
    rw [vector_rejection isPoint.shaped shaped, dotProduct_sub, dotProduct_smul,
      isPoint.dotProduct_self, smul_eq_mul, mul_one, sub_self]

theorem gives_proj (some : 1 ≤ dimension) (baseShaped : base.hasShape [dimension + 1] = true)
    (shaped : vector.hasShape [dimension + 1] = true) :
    (proj base vector).Gives (rejection dimension base vector) := by
  have several : 0 < dimension + 1 := Nat.succ_pos dimension
  have ranked : base.rank = 1 := rank_of_hasShape (by simp) baseShaped
  have product := gives_combine_vectors several baseShaped shaped (· * ·)
  have productShaped := hasShape_zipWith baseShaped shaped (· * ·)
  have scaled : (base.scale (base.vector (dimension + 1) ⬝ᵥ vector.vector (dimension + 1))).hasShape
      [dimension + 1] = true := by simpa using baseShaped
  refine Gives.compiledAs ?_ _
  have present : ¬ ((base.rank = 0 && vector.rank = 0) = true) := by simp [ranked]
  rw [if_neg present]
  refine product.bind ?_
  rw [rowSums_eq several productShaped, sum_eq productShaped, vector_times baseShaped shaped]
  exact (gives_times_of_row (by omega) _ baseShaped).bind
    (gives_combine_vectors several shaped scaled _)

variable {start target direction : Point S} (some : 1 ≤ dimension)

section Ways

variable (isStart : IsPoint dimension start) (isTarget : IsPoint dimension target)
include some isStart isTarget

theorem gives_log :
    (log start target).Gives (((rejection dimension start target).scale
      (Scalar.arctan2 (rejection dimension start target).length
        (start.vector (dimension + 1) ⬝ᵥ target.vector (dimension + 1)))).divide
      (divisor (rejection dimension start target).length)) := by
  refine Gives.compiledAs ?_ _
  refine (gives_proj some isStart.shaped isTarget.shaped).bind ?_
  refine (gives_dot (Nat.succ_pos dimension) isStart.shaped isTarget.shaped).bind ?_
  exact gives_pure _

theorem always_log : (log start target).Always (IsTangent dimension start) :=
  (gives_log some isStart isTarget).ensures
    (((isTangent_rejection isStart isTarget.shaped).scale _).divide _)

theorem gives_dist :
    (dist start target).Gives (Scalar.arctan2 (rejection dimension start target).length
      (start.vector (dimension + 1) ⬝ᵥ target.vector (dimension + 1))) := by
  refine Gives.compiledAs ?_ _
  refine (gives_proj some isStart.shaped isTarget.shaped).bind ?_
  refine (gives_dot (Nat.succ_pos dimension) isStart.shaped isTarget.shaped).bind ?_
  exact gives_pure _

theorem always_dist : (dist start target).Always fun _ => True :=
  (gives_dist some isStart isTarget).ensures trivial

end Ways

end Projection

def reach (start direction : Point S) (time : S) : Point S :=
  let arc := direction.scale time
  zipWith (· + ·) (start.scale (Scalar.cos arc.length))
    ((arc.scale (Scalar.sin (divisor arc.length))).divide (divisor arc.length))

section Exponential

variable {start direction : Point S} (isStart : IsPoint dimension start)
  (tangent : IsTangent dimension start direction) (time : S)
include isStart tangent

theorem hasShape_reach : (reach start direction time).hasShape [dimension + 1] = true :=
  hasShape_zipWith (by simpa using isStart.shaped) (by simpa using tangent.shaped) _

/-- The two parts of the way are orthogonal, so that the square of the length is a sum of two. -/
theorem dotProduct_reach :
    (reach start direction time).vector (dimension + 1) ⬝ᵥ
        (reach start direction time).vector (dimension + 1) =
      Scalar.cos (direction.scale time).length * Scalar.cos (direction.scale time).length +
        (Scalar.sin (divisor (direction.scale time).length) / divisor (direction.scale time).length *
          (direction.scale time).length) *
        (Scalar.sin (divisor (direction.scale time).length) / divisor (direction.scale time).length *
          (direction.scale time).length) := by
  have arc := tangent.scale time
  have startShaped : (start.scale (Scalar.cos (direction.scale time).length)).hasShape
      [dimension + 1] = true := by simpa using isStart.shaped
  have alongShaped : (((direction.scale time).scale
      (Scalar.sin (divisor (direction.scale time).length))).divide
        (divisor (direction.scale time).length)).hasShape [dimension + 1] = true := by
    simpa using tangent.shaped
  have orthogonal := arc.orthogonal
  have mirrored := orthogonal
  rw [dotProduct_comm] at mirrored
  have squared := length_mul_length arc.shaped
  have unit := isStart.dotProduct_self
  rw [reach, vector_add startShaped alongShaped, vector_scale, vector_divide, vector_scale]
  generalize (direction.scale time).vector (dimension + 1) = arcVector at *
  generalize (direction.scale time).length = length at *
  generalize divisor length = safe
  simp only [add_dotProduct, dotProduct_add, smul_dotProduct, dotProduct_smul, orthogonal, mirrored,
    unit, ← squared, smul_eq_mul]
  ring

theorem length_reach_ne_zero : (reach start direction time).length ≠ 0 := by
  rw [length_ne_zero_iff (hasShape_reach isStart tangent time), dotProduct_reach isStart tangent time]
  have nonneg := zero_le_length (direction.scale time)
  rcases lt_or_ge (direction.scale time).length Tolerance.smallLength with short | long
  · have positive := mul_self_pos.mpr (RealScalar.cos_ne_zero _ nonneg short)
    exact (add_pos_of_pos_of_nonneg positive (mul_self_nonneg _)).ne'
  · have safe := (divisor_pos (direction.scale time).length).ne'
    rw [divisor_eq long] at safe ⊢
    rw [div_mul_cancel₀ _ safe, RealScalar.circle]
    exact one_ne_zero

theorem isPoint_normalized_reach :
    IsPoint dimension ((reach start direction time).divide (reach start direction time).length) where
  shaped := by simpa using hasShape_reach isStart tangent time
  unit := length_normalized (hasShape_reach isStart tangent time)
    (length_reach_ne_zero isStart tangent time)

theorem gives_exp :
    (exp start direction time).Gives
      ((reach start direction time).divide (reach start direction time).length) := by
  refine Gives.compiledAs ?_ _
  refine (gives_combine_vectors (Nat.succ_pos dimension) ?_ ?_ _).bind (gives_pure _)
  · simpa using isStart.shaped
  · simpa using tangent.shaped

theorem always_exp : (exp start direction time).Always (IsPoint dimension) :=
  (gives_exp isStart tangent time).ensures (isPoint_normalized_reach isStart tangent time)

end Exponential

section Directions

variable {base vector reference : Point S} (some : 1 ≤ dimension) (isPoint : IsPoint dimension base)

theorem dotProduct_rejection (isPoint : IsPoint dimension base)
    (shaped : vector.hasShape [dimension + 1] = true) :
    (rejection dimension base vector).vector (dimension + 1) ⬝ᵥ
        (rejection dimension base vector).vector (dimension + 1) =
      vector.vector (dimension + 1) ⬝ᵥ vector.vector (dimension + 1) -
        (base.vector (dimension + 1) ⬝ᵥ vector.vector (dimension + 1)) *
          (base.vector (dimension + 1) ⬝ᵥ vector.vector (dimension + 1)) := by
  have unit := isPoint.dotProduct_self
  have mirrored := dotProduct_comm (vector.vector (dimension + 1)) (base.vector (dimension + 1))
  rw [vector_rejection isPoint.shaped shaped]
  simp only [sub_dotProduct, dotProduct_sub, smul_dotProduct, dotProduct_smul, unit, mirrored,
    smul_eq_mul]
  ring

section Smallest

include isPoint

theorem exists_smallest : ∃ position : Fin (dimension + 1),
    Scalar.firstSmallest (base.map Scalar.abs).entries = position ∧
      ∀ other, |base.vector (dimension + 1) position| ≤ |base.vector (dimension + 1) other| := by
  have entries : (base.map Scalar.abs).entries =
      List.ofFn fun position => |base.vector (dimension + 1) position| := by
    rw [entries_map, entries_eq_ofFn isPoint.shaped, List.map_ofFn]
    exact congrArg List.ofFn (funext fun position => Scalar.abs_eq _)
  have present : (base.map Scalar.abs).entries ≠ [] := by
    rw [entries]
    simp
  obtain ⟨inside, least⟩ := Scalar.firstSmallest_le present
  have bound : Scalar.firstSmallest (base.map Scalar.abs).entries < dimension + 1 := by
    simpa [entries] using inside
  generalize Scalar.firstSmallest (base.map Scalar.abs).entries = first at inside least bound
  refine ⟨⟨first, bound⟩, rfl, fun other => ?_⟩
  have smaller := least |base.vector (dimension + 1) other| (by
    rw [entries]
    exact List.mem_ofFn.mpr ⟨other, rfl⟩)
  simpa only [entries, List.getElem_ofFn] using smaller

variable {position : Fin (dimension + 1)}
  (least : ∀ other, |base.vector (dimension + 1) position| ≤ |base.vector (dimension + 1) other|)
include least

/-- The square of the smallest coordinate of a unit vector is at most the mean of all of them. -/
theorem smallest_mul_smallest_le :
    base.vector (dimension + 1) position * base.vector (dimension + 1) position ≤
      1 / ((dimension : S) + 1) := by
  have each : ∀ other ∈ (Finset.univ : Finset (Fin (dimension + 1))),
      base.vector (dimension + 1) position * base.vector (dimension + 1) position ≤
        base.vector (dimension + 1) other * base.vector (dimension + 1) other :=
    fun other _ => abs_le_iff_mul_self_le.mp (least other)
  have all := Finset.card_nsmul_le_sum Finset.univ _ _ each
  have unit : ∑ other, base.vector (dimension + 1) other * base.vector (dimension + 1) other = 1 :=
    isPoint.dotProduct_self
  rw [unit, Finset.card_univ, Fintype.card_fin, nsmul_eq_mul, Nat.cast_add_one] at all
  rwa [le_div_iff₀ (Nat.cast_add_one_pos dimension), mul_comm]

/-- Hence the vector of the basis at that coordinate is far from parallel to the unit vector. -/
theorem le_rejection_of_smallest :
    (dimension : S) / (dimension + 1) ≤
      (rejection dimension base (ofVector (Pi.single position 1))).length *
        (rejection dimension base (ofVector (Pi.single position 1))).length := by
  have basisShaped := hasShape_ofVector (Pi.single position (1 : S))
  have small := smallest_mul_smallest_le isPoint least
  have share : (dimension : S) / (dimension + 1) = 1 - 1 / (dimension + 1) := by
    rw [eq_sub_iff_add_eq, ← add_div, div_self (Nat.cast_add_one_ne_zero dimension)]
  rw [length_mul_length (isTangent_rejection isPoint basisShaped).shaped,
    dotProduct_rejection isPoint basisShaped, vector_ofVector, dotProduct_single_one,
    dotProduct_single_one, Pi.single_eq_same, share]
  linarith

include some in
theorem length_rejection_pos :
    0 < (rejection dimension base (ofVector (Pi.single position 1))).length := by
  have far := le_rejection_of_smallest isPoint least
  have share : 0 < (dimension : S) / (dimension + 1) :=
    div_pos (Nat.cast_pos.mpr some) (Nat.cast_add_one_pos dimension)
  exact pos_of_mul_pos_left (share.trans_le far) (zero_le_length _)

end Smallest

include some isPoint

theorem gives_fallbackDirection : ∃ position : Fin (dimension + 1),
    (∀ other, |base.vector (dimension + 1) position| ≤ |base.vector (dimension + 1) other|) ∧
      (fallbackDirection base).Gives
        (rejection dimension base (ofVector (Pi.single position 1))) := by
  have ranked : base.rank = 1 := rank_of_hasShape (by simp) isPoint.shaped
  have present : ¬ base.rank = 0 := by simp [ranked]
  obtain ⟨position, first, least⟩ := exists_smallest isPoint
  refine ⟨position, least, ?_⟩
  rw [fallbackDirection, if_neg present, first, basisAt_eq position isPoint.shaped]
  exact gives_proj some isPoint.shaped (hasShape_ofVector _)

theorem always_fallbackDirection : (fallbackDirection base).Always fun direction =>
    IsTangent dimension base direction ∧ direction.length ≠ 0 := by
  obtain ⟨position, least, gives⟩ := gives_fallbackDirection some isPoint
  exact gives.ensures ⟨isTangent_rejection isPoint (hasShape_ofVector _),
    (length_rejection_pos some isPoint least).ne'⟩

theorem always_orthogonalDirection {reference : Option (Point S)}
    (shaped : ∀ point ∈ reference, point.hasShape [dimension + 1] = true) :
    (orthogonalDirection base reference).Always fun direction =>
      IsTangent dimension base direction ∧ direction.length ≠ 0 := by
  cases reference with
  | none => exact always_fallbackDirection some isPoint
  | some reference =>
      have referenceShaped := shaped reference rfl
      refine (gives_proj some isPoint.shaped referenceShaped).bind_ensures ?_
      split
      · exact always_fallbackDirection some isPoint
      · rename_i long
        refine ensures_pure ⟨isTangent_rejection isPoint referenceShaped, ?_⟩
        rw [Scalar.less_eq, decide_eq_true_iff, not_lt] at long
        exact (lt_of_lt_of_le Tolerance.antipodal_pos long).ne'

end Directions

section Means

variable {start target : Point S} (some : 1 ≤ dimension)

theorem isPoint_normalized {base direction : Point S} (tangent : IsTangent dimension base direction)
    (long : direction.length ≠ 0) : IsPoint dimension (direction.divide direction.length) where
  shaped := by simpa using tangent.shaped
  unit := length_normalized tangent.shaped long

include some

theorem always_midPoint (isStart : IsPoint dimension start) (isTarget : IsPoint dimension target)
    {reference : Option (Point S)}
    (shaped : ∀ point ∈ reference, point.hasShape [dimension + 1] = true) :
    (midPoint start target reference).Always (IsPoint dimension) := by
  have antipodal : (areAntipodal start target).Gives _ :=
    (gives_dot (Nat.succ_pos dimension) isStart.shaped isTarget.shaped).bind (gives_pure _)
  refine antipodal.bind_ensures ?_
  split
  · refine (always_orthogonalDirection some isStart shaped).bind fun direction found => ?_
    exact ensures_pure (isPoint_normalized found.1 found.2)
  · refine (always_log some isStart isTarget).bind fun direction tangent => ?_
    exact always_exp isStart tangent _

def norm (_ vector : Point S) : Compute S S := do
  return Scalar.sqrt (← Compute.compiledAs "Sphere.inner" (vector.dot vector))

omit some in
theorem gives_norm {direction : Point S} (shaped : direction.hasShape [dimension + 1] = true)
    (base : Point S) : (norm base direction).Gives direction.length := by
  rw [length_eq_of_count (count_of_hasShape shaped)]
  exact ((gives_dot (Nat.succ_pos dimension) shaped shaped).compiledAs _).bind (gives_pure _)

theorem always_iterate {points : List (Point S)} (present : points ≠ [])
    (all : ∀ point ∈ points, IsPoint dimension point) (tolerance : S) (remaining done : Nat)
    {mean : Point S} (isPoint : IsPoint dimension mean) :
    (Karcher.iterate exp log norm points tolerance remaining done mean).Always
      (IsPoint dimension) := by
  induction remaining generalizing done mean with
  | zero => exact ensures_pure isPoint
  | succ remaining ih =>
      rw [Karcher.iterate]
      have logs : (points.mapM (log mean)).Always fun directions =>
          directions.length = points.length ∧
            ∀ direction ∈ directions, IsTangent dimension mean direction :=
        ensures_mapM_all fun point member => always_log some isPoint (all point member)
      refine logs.bind fun directions found => ?_
      have some : directions ≠ [] := by
        rw [← List.length_pos_iff, found.1, List.length_pos_iff]
        exact present
      have sum : (plusAll directions).Always (IsTangent dimension mean) :=
        always_plusAll (fun _ => IsTangent.shaped) (fun _ _ => IsTangent.add) some found.2
      refine sum.bind fun total tangent => ?_
      have update := tangent.divide (Scalar.ofInt points.length)
      refine (gives_norm update.shaped mean).bind_ensures ?_
      refine (always_exp isPoint update _).bind fun next isNext => ?_
      split
      · exact (gives_report _).bind_ensures (ensures_pure isNext)
      · exact ih (done + 1) isNext

theorem always_mean {points : List (Point S)} (present : points ≠ [])
    (all : ∀ point ∈ points, IsPoint dimension point) {reference : Option (Point S)}
    (referenced : ∀ point ∈ reference, IsPoint dimension point) (limits : MeanLimits S) :
    ((sphere dimension).mean points reference limits).Always (IsPoint dimension) := by
  change (Karcher.mean exp log norm midPoint points reference limits).Always _
  match points, all with
  | [], _ => exact absurd rfl present
  | [only], all => exact ensures_pure (all only List.mem_cons_self)
  | [first, second], all =>
      refine always_midPoint some (all first (by simp)) (all second (by simp)) fun point member => ?_
      exact (referenced point member).shaped
  | first :: second :: third :: rest, all =>
      refine always_iterate some present all _ _ _ ?_
      cases reference with
      | none => exact all first List.mem_cons_self
      | some reference => exact referenced reference rfl

end Means

end Sphere

section Built

variable {S : Type} [RealScalar S]

structure Geometry.Round (geometry : Geometry S) : Prop where
  exp : geometry.exp = Sphere.exp
  log : geometry.log = Sphere.log
  dist : geometry.dist = Sphere.dist
  midPoint : geometry.midPoint = Sphere.midPoint
  mean : geometry.mean = (sphere 0).mean

omit [RealScalar S] in
/-- A sphere that could be built has the operations of a sphere, and its dimension passed the
check. -/
theorem built_of_sphere [Scalar S] {strictness : Strictness} {dimension : Nat}
    {manifold : Manifold S}
    (built : Manifold.sphereOf strictness (.integer dimension) = .ok manifold) :
    1 ≤ dimension ∧ ∃ name known validate shown facts, manifold = .ofGeometry
      { (sphere known : Geometry S) with
        name := name, validate := validate, dimension := shown, facts := facts } := by
  rw [Manifold.sphereOf] at built
  split at built
  · cases built
  · rw [requirePositive_integer] at built
    split at built
    · cases built
    · rename_i large
      cases built
      exact ⟨by omega, _, _, _, _, _, rfl⟩

theorem checked_of_sphere {strictness : Strictness} {dimension : Nat} {manifold : Manifold S}
    (built : Manifold.sphereOf strictness (.integer dimension) = .ok manifold) :
    1 ≤ dimension ∧ manifold.geometry.Round := by
  obtain ⟨large, _, _, _, _, _, rfl⟩ := built_of_sphere built
  exact ⟨large, rfl, rfl, rfl, rfl, rfl⟩

end Built

end ProximalSplitting

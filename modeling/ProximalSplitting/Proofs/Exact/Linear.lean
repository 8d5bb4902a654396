import Mathlib.Algebra.Field.Basic
import ProximalSplitting.Proofs.Effects.Outcomes
import ProximalSplitting.Proofs.Exact.Stacks

/-!
Flat geometries, in which every operation is arithmetic on the entries. Euclidean space is flat, and
so is every power of a flat geometry: it acts on slices, and the search for its mean reaches the
average of the entries in one step.
-/

namespace ProximalSplitting

open Compute Tensor

variable {S : Type} {shape inner : List Nat} {copies : Nat}

namespace Geometry

variable [RootScalar S] {geometry : Geometry S}

structure LinearOn (shape : List Nat) (geometry : Geometry S) : Prop where
  proj : ∀ {point vector : Point S}, point.hasShape shape = true → vector.hasShape shape = true →
    (geometry.proj point vector).Gives vector
  exp : ∀ {start direction : Point S}, start.hasShape shape = true →
    direction.hasShape shape = true → ∀ time,
    (geometry.exp start direction time).Gives (zipWith (· + ·) start (direction.scale time))
  log : ∀ {start target : Point S}, start.hasShape shape = true → target.hasShape shape = true →
    (geometry.log start target).Gives (zipWith (· - ·) target start)
  inner : ∀ {point left right : Point S}, point.hasShape shape = true →
    left.hasShape shape = true → right.hasShape shape = true →
    (geometry.inner point left right).Gives (zipWith (· * ·) left right).sum
  dist : ∀ {start target : Point S}, start.hasShape shape = true → target.hasShape shape = true →
    (geometry.dist start target).Gives (zipWith (· - ·) target start).length
  midPoint : ∀ {start target : Point S}, start.hasShape shape = true →
    target.hasShape shape = true → ∀ {reference : Option (Point S)},
    (∀ point ∈ reference, point.hasShape shape = true) →
    (geometry.midPoint start target reference).Gives
      ((zipWith (· + ·) start target).divide (Scalar.ofInt 2))
  validate : ∀ {point : Point S} {any : List Nat}, point.hasShape any = true → ∀ tolerance,
    (geometry.validate point tolerance).Gives (decide (point.shape = shape) && point.isFinite)
  dimension : geometry.dimension.Gives (.integer shape.prod)

def average (points : List (Point S)) : Nat → S :=
  (points.length : S)⁻¹ • (points.map coordinates).sum

structure FlatOn (shape : List Nat) (geometry : Geometry S) : Prop extends
    geometry.LinearOn shape where
  mean : ∀ {points : List (Point S)}, points ≠ [] →
    (∀ point ∈ points, point.hasShape shape = true) → ∀ {reference : Option (Point S)},
    (∀ point ∈ reference, point.hasShape shape = true) →
    ∀ {limits : MeanLimits S}, 0 < limits.iterations →
    ∃ mean, (geometry.mean points reference limits).Gives mean ∧ mean.hasShape shape = true ∧
      mean.coordinates = average points
  emptyMean : ∀ (reference : Option (Point S)) (limits : MeanLimits S) (journal : Journal),
    (geometry.mean [] reference limits).run journal = (.error .emptyMean, journal)

theorem flatOn_euclidean (positive : ∀ extent ∈ shape, 0 < extent) :
    (euclidean shape : Geometry S).FlatOn shape where
  proj := fun _ _ => (gives_pure _).compiledAs _
  exp := fun startShaped directionShaped time =>
    Straight.gives_exp ⟨rfl, rfl, rfl⟩ positive startShaped directionShaped time
  log := fun startShaped targetShaped =>
    Straight.gives_log ⟨rfl, rfl, rfl⟩ positive startShaped targetShaped
  inner := by
    intro _ left right _ leftShaped rightShaped
    refine Gives.compiledAs ?_ _
    exact (gives_combine positive (· * ·) leftShaped rightShaped).bind (gives_pure _)
  dist := by
    intro start target startShaped targetShaped
    refine Gives.compiledAs ?_ _
    exact (gives_combine positive (· - ·) targetShaped startShaped).bind (gives_pure _)
  midPoint := fun startShaped targetShaped _ _ =>
    (gives_combine positive (· + ·) startShaped targetShaped).bind (gives_pure _)
  validate := fun _ _ => gives_pure _
  dimension := by
    rw [List.prod_eq_foldl]
    exact gives_pure _
  mean := fun some all reference _ limits _ =>
    Straight.gives_mean ⟨rfl, rfl, rfl⟩ positive some all reference limits
  emptyMean := fun _ _ _ => rfl

namespace LinearOn

variable {base : Geometry S} {given : Value S}

theorem gives_norm (linear : geometry.LinearOn shape) {point vector : Point S}
    (pointShaped : point.hasShape shape = true) (vectorShaped : vector.hasShape shape = true) :
    (geometry.norm point vector).Gives (Scalar.sqrt (zipWith (· * ·) vector vector).sum) :=
  (linear.inner pointShaped vectorShaped vectorShaped).bind (gives_pure _)

section Search

variable {points : List (Point S)} {start mean : Point S}
  (all : ∀ point ∈ points, point.hasShape shape = true) (startShaped : start.hasShape shape = true)
include all startShaped

omit [RootScalar S] in
theorem sum_directions [ExactScalar S] :
    ((points.map fun point => zipWith (· - ·) point start).map coordinates).sum =
      (points.map coordinates).sum - (points.length : S) • start.coordinates := by
  induction points with
  | nil => simp
  | cons first rest ih =>
      have others := ih fun point member => all point (List.mem_cons_of_mem first member)
      simp only [List.map_cons, List.sum_cons, others, List.length_cons,
        coordinates_sub (all first List.mem_cons_self) startShaped, Nat.cast_succ, add_smul,
        one_smul]
      abel

variable (linear : geometry.LinearOn shape) (positive : ∀ extent ∈ shape, 0 < extent)
  (some : points ≠ []) (meanShaped : mean.hasShape shape = true)
  (averaged : mean.coordinates = average points)
include linear positive some meanShaped averaged

/-- From everywhere the average direction to some points leads to their average. -/
theorem gives_step :
    ∃ directions total, (points.mapM (geometry.log start)).Gives directions ∧
      (plusAll directions).Gives total ∧ total.hasShape shape = true ∧
      (geometry.exp start (total.divide (Scalar.ofInt points.length)) Scalar.one).Gives mean := by
  have directions : (points.mapM (geometry.log start)).Gives
      (points.map fun point => zipWith (· - ·) point start) :=
    gives_mapM fun point member => linear.log startShaped (all point member)
  obtain ⟨total, added, totalShaped, same⟩ := gives_plusAll positive
    (by simpa using some : (points.map fun point => zipWith (· - ·) point start) ≠ [])
    (by
      intro direction member
      obtain ⟨point, inside, rfl⟩ := List.mem_map.mp member
      exact hasShape_zipWith (all point inside) startShaped _)
  have updateShaped : (total.divide (Scalar.ofInt points.length)).hasShape shape = true := by
    simpa using totalShaped
  have reached : zipWith (· + ·) start
      ((total.divide (Scalar.ofInt points.length)).scale Scalar.one) = mean := by
    have number : (points.length : S) ≠ 0 := by simpa using some
    have scaledShaped : ((total.divide (Scalar.ofInt points.length)).scale
        (Scalar.one : S)).hasShape shape = true := by simpa using totalShaped
    refine eq_of_coordinates (hasShape_zipWith startShaped scaledShaped _) meanShaped ?_
    rw [coordinates_add startShaped scaledShaped, coordinates_scale, coordinates_divide, same,
      sum_directions all startShaped, averaged, average, Scalar.one_eq, ExactScalar.ofInt_eq,
      Int.cast_natCast, one_smul, smul_sub, inv_smul_smul₀ number]
    abel
  refine ⟨_, total, directions, added, totalShaped, ?_⟩
  have followed := linear.exp startShaped updateShaped Scalar.one
  rwa [reached] at followed

theorem gives_iterate_succ {tolerance : S} {remaining done : Nat}
    (onward : (Karcher.iterate geometry.exp geometry.log geometry.norm points tolerance remaining
      (done + 1) mean).Gives mean) :
    (Karcher.iterate geometry.exp geometry.log geometry.norm points tolerance (remaining + 1) done
      start).Gives mean := by
  obtain ⟨directions, total, looked, added, totalShaped, stepped⟩ :=
    gives_step all startShaped linear positive some meanShaped averaged
  have updateShaped : (total.divide (Scalar.ofInt points.length)).hasShape shape = true := by
    simpa using totalShaped
  have measured := linear.gives_norm startShaped updateShaped
  refine looked.bind (added.bind (measured.bind (stepped.bind ?_)))
  split
  · exact (gives_report _).bind (gives_pure mean)
  · exact onward

/-- The first step of the search reaches the average, and every further step stays there. -/
theorem gives_iterate (tolerance : S) (remaining done : Nat) :
    (Karcher.iterate geometry.exp geometry.log geometry.norm points tolerance (remaining + 1) done
      start).Gives mean := by
  refine gives_iterate_succ all startShaped linear positive some meanShaped averaged ?_
  induction remaining generalizing done with
  | zero => exact gives_pure mean
  | succ remaining ih =>
      exact gives_iterate_succ all meanShaped linear positive some meanShaped averaged
        (ih (done + 1))

end Search

theorem gives_mean (linear : geometry.LinearOn shape) (positive : ∀ extent ∈ shape, 0 < extent)
    {points : List (Point S)} (some : points ≠ [])
    (all : ∀ point ∈ points, point.hasShape shape = true) {reference : Option (Point S)}
    (referenceShaped : ∀ point ∈ reference, point.hasShape shape = true) {limits : MeanLimits S}
    (many : 0 < limits.iterations) :
    ∃ mean, (Karcher.mean geometry.exp geometry.log geometry.norm geometry.midPoint points reference
        limits).Gives mean ∧ mean.hasShape shape = true ∧ mean.coordinates = average points := by
  match points with
  | [only] =>
      refine ⟨only, gives_pure only, all only List.mem_cons_self, ?_⟩
      simp [average]
  | [first, second] =>
      have firstShaped := all first (by simp)
      have secondShaped := all second (by simp)
      refine ⟨_, linear.midPoint firstShaped secondShaped referenceShaped, ?_, ?_⟩
      · simpa using hasShape_zipWith firstShaped secondShaped (· + ·)
      · rw [coordinates_divide, coordinates_add firstShaped secondShaped, ExactScalar.ofInt_eq]
        simp [average]
  | first :: second :: third :: rest =>
      -- From three points on the mean is searched for, and the first step of the search finds it.
      obtain ⟨total, -, totalShaped, same⟩ := gives_plusAll positive some all
      obtain ⟨remaining, counted⟩ : ∃ remaining, limits.iterations.toNat = remaining + 1 :=
        ⟨limits.iterations.toNat - 1, by omega⟩
      have startShaped : (reference.getD first).hasShape shape = true := by
        cases reference with
        | none => exact all first List.mem_cons_self
        | some point => exact referenceShaped point rfl
      refine ⟨total.divide (Scalar.ofInt (first :: second :: third :: rest).length), ?_, ?_, ?_⟩
      · rw [Karcher.mean, counted]
        · refine gives_iterate all startShaped linear positive some ?_ ?_ _ _ _
          · simpa using totalShaped
          · rw [coordinates_divide, same, ExactScalar.ofInt_eq, Int.cast_natCast, average]
        · simp
        · simp
      · simpa using totalShaped
      · rw [coordinates_divide, same, ExactScalar.ofInt_eq, Int.cast_natCast, average]

section Powers

variable (positive : ∀ extent ∈ inner, 0 < extent) (some : 0 < copies)
  (linear : base.LinearOn inner)
include positive some linear

omit positive some in
theorem gives_inner_power {point left right : Point S}
    (pointShaped : point.hasShape (copies :: inner) = true)
    (leftShaped : left.hasShape (copies :: inner) = true)
    (rightShaped : right.hasShape (copies :: inner) = true) :
    ((powerGeometry base copies given).inner point left right).Gives
      (zipWith (· * ·) left right).sum := by
  obtain ⟨points, rfl, pointsShaped⟩ := Power.exists_point pointShaped
  obtain ⟨lefts, rfl, leftsShaped⟩ := Power.exists_point leftShaped
  obtain ⟨rights, rfl, rightsShaped⟩ := Power.exists_point rightShaped
  rw [Power.zipWith_point, Power.sum_point]
  refine Power.gives_total fun position inside => ?_
  exact (Power.gives_component inside points).bind ((Power.gives_component inside lefts).bind
    ((Power.gives_component inside rights).bind (linear.inner (pointsShaped position inside)
      (leftsShaped position inside) (rightsShaped position inside))))

omit positive some in
theorem gives_dist_power {start target : Point S}
    (startShaped : start.hasShape (copies :: inner) = true)
    (targetShaped : target.hasShape (copies :: inner) = true) :
    ((powerGeometry base copies given).dist start target).Gives
      (zipWith (· - ·) target start).length := by
  obtain ⟨starts, rfl, startsShaped⟩ := Power.exists_point startShaped
  obtain ⟨targets, rfl, targetsShaped⟩ := Power.exists_point targetShaped
  rw [Power.zipWith_point, length, Power.map_point, Power.sum_point]
  refine Gives.bind (Power.gives_total fun position inside => ?_) (gives_pure _)
  refine (Power.gives_component inside starts).bind ((Power.gives_component inside targets).bind
    ((linear.dist (startsShaped position inside) (targetsShaped position inside)).bind ?_))
  -- The square of the distance of two slices is the sum of squares that it is the root of.
  rw [length, Scalar.square, RootScalar.sqrt_mul_sqrt _ (sum_square_nonneg _)]
  exact gives_pure _

theorem gives_midPoint_power {start target : Point S}
    (startShaped : start.hasShape (copies :: inner) = true)
    (targetShaped : target.hasShape (copies :: inner) = true) {reference : Option (Point S)}
    (referenceShaped : ∀ point ∈ reference, point.hasShape (copies :: inner) = true) :
    ((powerGeometry base copies given).midPoint start target reference).Gives
      ((zipWith (· + ·) start target).divide (Scalar.ofInt 2)) := by
  obtain ⟨starts, rfl, startsShaped⟩ := Power.exists_point startShaped
  obtain ⟨targets, rfl, targetsShaped⟩ := Power.exists_point targetShaped
  rw [Power.zipWith_point, Power.divide_point]
  refine Power.gives_each positive some (fun position inside => ?_) fun position inside => ?_
  · refine (Power.gives_component inside starts).bind
      ((Power.gives_component inside targets).bind ?_)
    cases reference with
    | none =>
        exact linear.midPoint (startsShaped position inside) (targetsShaped position inside)
          fun _ absurdity => nomatch absurdity
    | some point =>
        obtain ⟨points, rfl, pointsShaped⟩ := Power.exists_point (referenceShaped point rfl)
        refine ((Power.gives_component inside points).map Option.some).bind ?_
        refine linear.midPoint (startsShaped position inside) (targetsShaped position inside) ?_
        simpa using pointsShaped position inside
  · simpa using hasShape_zipWith (startsShaped position inside)
      (targetsShaped position inside) (· + ·)

omit positive in
theorem gives_validate_power {point : Point S} {any : List Nat}
    (shaped : point.hasShape any = true) (tolerance : S) :
    ((powerGeometry base copies given).validate point tolerance).Gives
      (decide (point.shape = copies :: inner) && point.isFinite) := by
  change (if Power.hasComponents copies point then
    Power.validateEach base tolerance point.slices else pure false).Gives _
  cases point with
  | scalar _ => exact gives_pure false
  | stack slices =>
      by_cases counted : slices.length = copies
      · rw [if_pos (by simpa [Power.hasComponents] using counted),
          decide_shape_stack counted some shaped]
        refine Power.gives_validateEach fun slice member => ?_
        cases any with
        | nil => simp [hasShape] at shaped
        | cons extent deeper =>
            simp only [hasShape, Bool.and_eq_true, allHaveShape_iff] at shaped
            exact linear.validate (shaped.2 slice member) tolerance
      · rw [if_neg (by simpa [Power.hasComponents] using counted),
          decide_eq_false (mt length_of_shape_stack counted)]
        exact gives_pure false

/-- What is linear on the slices is linear on the whole. -/
theorem power : (powerGeometry base copies given).LinearOn (copies :: inner) where
  proj := by
    intro point vector pointShaped vectorShaped
    obtain ⟨points, rfl, pointsShaped⟩ := Power.exists_point pointShaped
    obtain ⟨vectors, rfl, vectorsShaped⟩ := Power.exists_point vectorShaped
    exact Power.gives_pairwise positive some (fun position inside =>
      linear.proj (pointsShaped position inside) (vectorsShaped position inside)) vectorsShaped
  exp := by
    intro start direction startShaped directionShaped time
    obtain ⟨starts, rfl, startsShaped⟩ := Power.exists_point startShaped
    obtain ⟨directions, rfl, directionsShaped⟩ := Power.exists_point directionShaped
    rw [Power.scale_point, Power.zipWith_point]
    refine Power.gives_pairwise positive some (fun position inside =>
      linear.exp (startsShaped position inside) (directionsShaped position inside) time)
      fun position inside => hasShape_zipWith (startsShaped position inside) ?_ _
    simpa using directionsShaped position inside
  log := by
    intro start target startShaped targetShaped
    obtain ⟨starts, rfl, startsShaped⟩ := Power.exists_point startShaped
    obtain ⟨targets, rfl, targetsShaped⟩ := Power.exists_point targetShaped
    rw [Power.zipWith_point]
    exact Power.gives_pairwise positive some (fun position inside =>
      linear.log (startsShaped position inside) (targetsShaped position inside))
      fun position inside =>
        hasShape_zipWith (targetsShaped position inside) (startsShaped position inside) _
  inner := linear.gives_inner_power
  dist := linear.gives_dist_power
  midPoint := linear.gives_midPoint_power positive some
  validate := linear.gives_validate_power some
  dimension := by
    rw [List.prod_cons, Nat.cast_mul]
    exact linear.dimension.bind (Gives.bind (gives_pure _) (gives_pure _))

end Powers

end LinearOn

theorem FlatOn.power {base : Geometry S} {given : Value S}
    (positive : ∀ extent ∈ inner, 0 < extent) (some : 0 < copies) (flat : base.FlatOn inner) :
    (powerGeometry base copies given).FlatOn (copies :: inner) where
  toLinearOn := flat.toLinearOn.power positive some
  mean := by
    intro points present all reference referenceShaped limits many
    have positiveToo : ∀ extent ∈ copies :: inner, 0 < extent :=
      List.forall_mem_cons.mpr ⟨some, positive⟩
    have linear : (powerGeometry base copies given).LinearOn (copies :: inner) :=
      flat.toLinearOn.power positive some
    exact linear.gives_mean positiveToo present all referenceShaped many
  emptyMean := fun _ _ _ => rfl

end Geometry

end ProximalSplitting

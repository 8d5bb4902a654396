import ProximalSplitting.Proofs.Proximal.Centers

/-!
Points from points. Where logarithms of points are tangent vectors and following a tangent vector
leads to a point, what the search for a mean finds is a point, if it finds anything. This is handed
on from a base to its powers, too. That an operation never fails is not asked for.
-/

namespace ProximalSplitting

open Compute Tensor

variable {S : Type} {shape : List Nat} {copies : Nat} {lies : Point S → Prop}
  {tangent : Point S → Point S → Prop}

abbrev Compute.Finds {α : Type} (computation : Compute S α) (found : α → Prop) : Prop :=
  computation.Ensures (fun _ => True) found

namespace Geometry

structure ClosedOn [Scalar S] (shape : List Nat) (lies : Point S → Prop)
    (tangent : Point S → Point S → Prop) (geometry : Geometry S) : Prop where
  tangentShaped : ∀ {base direction}, tangent base direction → direction.hasShape shape = true
  add : ∀ {base left right}, tangent base left → tangent base right →
    tangent base (zipWith (· + ·) left right)
  divide : ∀ {base direction}, tangent base direction → ∀ divisor,
    tangent base (direction.divide divisor)
  log : ∀ {start target}, lies start → lies target → (geometry.log start target).Finds (tangent start)
  exp : ∀ {start direction}, lies start → tangent start direction → ∀ time,
    (geometry.exp start direction time).Finds lies

structure MeansIn [Scalar S] (lies : Point S → Prop) (geometry : Geometry S) : Prop where
  midPoint : ∀ {start target}, lies start → lies target →
    (geometry.midPoint start target none).Finds lies
  mean : ∀ {points}, points ≠ [] → (∀ point ∈ points, lies point) →
    (geometry.mean points none MeanLimits.standard).Finds lies

section Search

variable [ExactScalar S] {geometry : Geometry S} (closed : geometry.ClosedOn shape lies tangent)
include closed

theorem ClosedOn.finds_iterate {points : List (Point S)} (present : points ≠ [])
    (all : ∀ point ∈ points, lies point) (tolerance : S) (remaining done : Nat) {mean : Point S}
    (isPoint : lies mean) :
    (Karcher.iterate geometry.exp geometry.log geometry.norm points tolerance remaining done
      mean).Finds lies := by
  induction remaining generalizing done mean with
  | zero => exact ensures_pure isPoint
  | succ remaining ih =>
      have logs : (points.mapM (geometry.log mean)).Finds fun directions =>
          directions.length = points.length ∧ ∀ direction ∈ directions, tangent mean direction :=
        ensures_mapM_all fun point member => closed.log isPoint (all point member)
      rw [Karcher.iterate]
      refine logs.bind fun directions found => ?_
      have some : directions ≠ [] := by
        rw [← List.length_pos_iff, found.1, List.length_pos_iff]
        exact present
      have sum : (plusAll directions).Always (tangent mean) :=
        always_plusAll (fun _ => closed.tangentShaped) (fun _ _ => closed.add) some found.2
      refine sum.ensures.bind fun total isTangent => ?_
      have measured : (geometry.norm mean (total.divide (Scalar.ofInt points.length))).Finds
          fun _ => True := (ensures_self _).mono (fun _ _ => trivial) fun _ _ => trivial
      refine measured.bind fun step _ => ?_
      refine (closed.exp isPoint (closed.divide isTangent _) _).bind fun next isNext => ?_
      split
      · exact (gives_report _).bind_ensures (ensures_pure isNext)
      · exact ih (done + 1) isNext

theorem ClosedOn.meansIn
    (midPoint : ∀ {start target}, lies start → lies target →
      (geometry.midPoint start target none).Finds lies)
    (searched :
      geometry.mean = Karcher.mean geometry.exp geometry.log geometry.norm geometry.midPoint) :
    geometry.MeansIn lies where
  midPoint := midPoint
  mean := by
    intro points present all
    rw [searched]
    match points, all with
    | [], _ => exact absurd rfl present
    | [only], all => exact ensures_pure (all only List.mem_cons_self)
    | [first, second], all => exact midPoint (all first (by simp)) (all second (by simp))
    | first :: second :: third :: rest, all =>
        exact closed.finds_iterate present all _ _ _ (all first List.mem_cons_self)

theorem Generic.meansIn (generic : geometry.Generic) : geometry.MeansIn lies := by
  refine closed.meansIn (fun isStart isTarget => ?_) generic.mean
  rw [generic.midPoint]
  exact (closed.log isStart isTarget).bind fun _ isTangent => closed.exp isStart isTangent _

end Search

end Geometry

namespace Power

theorem finds_combine (slices : List (Point S)) :
    (combine copies slices).Finds fun whole => whole = stack slices := by
  rw [combine]
  split
  · cases slices with
    | nil => exact fun _ => trivial
    | cons first rest =>
        rw [ofSlices]
        split
        · exact ensures_pure rfl
        · exact fun _ => trivial
  · exact fun _ => trivial

theorem finds_each {operation : Nat → Compute S (Point S)} {related : Nat → Point S → Prop}
    (each : ∀ position < copies, (operation position).Finds (related position)) :
    (Power.each copies operation).Finds fun whole =>
      ∃ component, whole = point copies component ∧
        ∀ position < copies, related position (component position) := by
  have operations : ((List.range copies).mapM operation).Finds
      (List.Forall₂ related (List.range copies)) :=
    ensures_mapM fun position member => each position (List.mem_range.mp member)
  refine operations.bind fun points pairs => ?_
  obtain ⟨component, rfl, all⟩ := exists_component pairs
  refine (finds_combine _).mono (fun _ => id) ?_
  rintro _ rfl
  exact ⟨component, rfl, all⟩

variable [Scalar S] {base : Geometry S} (closed : base.ClosedOn shape lies tangent)
  (given : Value S)
include closed

theorem closedOn : (powerGeometry base copies given).ClosedOn (copies :: shape) (Each copies lies)
    (EachPair copies tangent) where
  tangentShaped := by
    rintro _ _ ⟨_, directions, rfl, rfl, all⟩
    exact hasShape_point fun position inside => closed.tangentShaped (all position inside)
  add := by
    rintro _ _ _ ⟨bases, lefts, rfl, rfl, allLeft⟩ ⟨others, rights, same, rfl, allRight⟩
    refine ⟨bases, _, rfl, zipWith_point _ lefts rights, fun position inside => ?_⟩
    have isRight := allRight position inside
    rw [← point_inj same position inside] at isRight
    exact closed.add (allLeft position inside) isRight
  divide := by
    rintro _ _ ⟨bases, directions, rfl, rfl, all⟩ divisor
    exact ⟨bases, _, rfl, divide_point divisor directions, fun position inside =>
      closed.divide (all position inside) divisor⟩
  log := by
    rintro _ _ ⟨starts, rfl, areStarts⟩ ⟨targets, rfl, areTargets⟩
    refine (finds_each fun position inside => (gives_component inside starts).bind_ensures
      ((gives_component inside targets).bind_ensures
        (closed.log (areStarts position inside) (areTargets position inside)))).mono
      (fun _ => id) ?_
    rintro _ ⟨directions, rfl, all⟩
    exact ⟨starts, directions, rfl, rfl, all⟩
  exp := by
    rintro _ _ ⟨starts, rfl, areStarts⟩ ⟨bases, directions, same, rfl, all⟩ time
    refine finds_each fun position inside => (gives_component inside starts).bind_ensures
      ((gives_component inside directions).bind_ensures
        (closed.exp (areStarts position inside) ?_ time))
    rw [point_inj same position inside]
    exact all position inside

omit closed in
theorem meansIn {S : Type} [ExactScalar S] {base : Geometry S} {lies : Point S → Prop}
    {tangent : Point S → Point S → Prop} (closed : base.ClosedOn shape lies tangent)
    (means : base.MeansIn lies) (given : Value S) :
    (powerGeometry base copies given).MeansIn (Each copies lies) := by
  refine (closedOn closed given).meansIn ?_ rfl
  rintro _ _ ⟨starts, rfl, areStarts⟩ ⟨targets, rfl, areTargets⟩
  exact finds_each fun position inside => (gives_component inside starts).bind_ensures
    ((gives_component inside targets).bind_ensures
      (means.midPoint (areStarts position inside) (areTargets position inside)))

end Power

section Flat

theorem Geometry.LinesOn.closedOn [ExactScalar S] {geometry : Geometry S}
    (lines : geometry.LinesOn shape) :
    geometry.ClosedOn shape (fun point => point.hasShape shape = true)
      fun _ direction => direction.hasShape shape = true where
  tangentShaped := id
  add := fun leftShaped rightShaped => hasShape_zipWith leftShaped rightShaped _
  divide := fun shaped _ => by simpa using shaped
  log := fun startShaped targetShaped =>
    (lines.log startShaped targetShaped).ensures (hasShape_zipWith targetShaped startShaped _)
  exp := fun startShaped directionShaped time =>
    (lines.exp startShaped directionShaped time).ensures
      (hasShape_zipWith startShaped (by simpa using directionShaped) _)

variable [RootScalar S] {geometry : Geometry S}

theorem Geometry.FlatOn.meansIn (flat : geometry.FlatOn shape) :
    geometry.MeansIn fun point => point.hasShape shape = true where
  midPoint := by
    intro start target startShaped targetShaped
    have found : (geometry.midPoint start target none).Gives _ :=
      flat.midPoint startShaped targetShaped (by simp)
    refine found.ensures ?_
    simpa using hasShape_zipWith startShaped targetShaped (· + ·)
  mean := by
    intro points present all
    obtain ⟨mean, gives, shaped, -⟩ := flat.mean_without_reference present all
    exact gives.ensures shaped

end Flat

namespace Sphere

variable [RealScalar S] {dimension : Nat} (some : 1 ≤ dimension) (known : Nat)
include some

theorem closedOn : (sphere known : Geometry S).ClosedOn [dimension + 1] (IsPoint dimension)
    (IsTangent dimension) where
  tangentShaped := IsTangent.shaped
  add := IsTangent.add
  divide := IsTangent.divide
  log := fun isStart isTarget => (always_log some isStart isTarget).ensures
  exp := fun isStart isTangent time => (always_exp isStart isTangent time).ensures

theorem meansIn : (sphere known : Geometry S).MeansIn (IsPoint dimension) :=
  (closedOn some known).meansIn
    (fun isStart isTarget => (always_midPoint some isStart isTarget (by simp)).ensures) rfl

end Sphere

end ProximalSplitting

import ProximalSplitting.Proofs.Exact.Sphere
import ProximalSplitting.Proofs.Run.Confinement

/-!
Runs on the sphere. The proximal maps of distances lead from unit vectors to unit vectors, so that
no run of either method leaves the sphere, and no step fails unless a schedule does.
-/

namespace ProximalSplitting

open Compute Tensor Sphere

variable {S : Type} [RealScalar S] {dimension : Nat} {geometry : Geometry S}

namespace Sphere

structure KeepsUnits (dimension : Nat) (geometry : Geometry S) : Prop where
  log : ∀ {start target}, IsPoint dimension start → IsPoint dimension target →
    (geometry.log start target).Always (IsTangent dimension start)
  logDivisor : ∀ {start target}, IsPoint dimension start → IsPoint dimension target →
    (∃ angle, (geometry.log start target).Gives
      (((rejection dimension start target).scale angle).divide
        (divisor (rejection dimension start target).length))) ∧
      divisor (rejection dimension start target).length ≠ 0
  exp : ∀ {start direction}, IsPoint dimension start → IsTangent dimension start direction →
    ∀ time, (geometry.exp start direction time).Always (IsPoint dimension)
  expDivisor : ∀ {start direction}, IsPoint dimension start →
    IsTangent dimension start direction → ∀ time,
      (geometry.exp start direction time).Gives
          ((reach start direction time).divide (reach start direction time).length) ∧
        divisor (direction.scale time).length ≠ 0 ∧ (reach start direction time).length ≠ 0
  shortestGeodesic : ∀ {start target}, IsPoint dimension start → IsPoint dimension target →
    ∀ time, (geometry.shortestGeodesic start target time).Always (IsPoint dimension)
  reflect : ∀ {pivot point}, IsPoint dimension pivot → IsPoint dimension point →
    (geometry.reflect pivot point).Always (IsPoint dimension)
  midPoint : ∀ {start target}, IsPoint dimension start → IsPoint dimension target →
    ∀ {reference : Option (Point S)}, (∀ point ∈ reference, IsPoint dimension point) →
      (geometry.midPoint start target reference).Always (IsPoint dimension)
  mean : ∀ {points}, points ≠ [] → (∀ point ∈ points, IsPoint dimension point) →
    ∀ {reference : Option (Point S)}, (∀ point ∈ reference, IsPoint dimension point) → ∀ limits,
      (geometry.mean points reference limits).Always (IsPoint dimension)

def IsDistanceMap (dimension : Nat) (geometry : Geometry S) (proximalMap : ProximalMap S) : Prop :=
  ∃ target exponent, IsPoint dimension target ∧
    (exponent.equalsInteger 1 = true ∨ exponent.equalsInteger 2 = true) ∧
    proximalMap = ProximalMap.distance geometry target exponent

variable (round : geometry.Round) (some : 1 ≤ dimension)
include round some

theorem averages : geometry.Averages [dimension + 1] (IsPoint dimension) (IsTangent dimension) where
  shaped := IsPoint.shaped
  tangentShaped := IsTangent.shaped
  negate := IsTangent.negate
  log := by
    rw [round.log]
    exact always_log some
  exp := by
    rw [round.exp]
    exact always_exp
  dist := by
    rw [round.dist]
    exact always_dist some
  mean := by
    intro points present all reference referenced limits
    rw [round.mean]
    exact always_mean some present all referenced limits

theorem keepsUnits : KeepsUnits dimension geometry where
  log := (averages round some).log
  logDivisor := by
    intro start target isStart isTarget
    rw [round.log]
    exact ⟨⟨_, gives_log some isStart isTarget⟩, (divisor_pos _).ne'⟩
  exp := (averages round some).exp
  expDivisor := by
    intro start direction isStart tangent time
    rw [round.exp]
    exact ⟨gives_exp isStart tangent time, (divisor_pos _).ne',
      length_reach_ne_zero isStart tangent time⟩
  shortestGeodesic := (averages round some).shortestGeodesic
  reflect := (averages round some).reflect
  midPoint := by
    intro start target isStart isTarget reference referenced
    rw [round.midPoint]
    exact always_midPoint some isStart isTarget fun point member => (referenced point member).shaped
  mean := (averages round some).mean

theorem IsDistanceMap.confined {proximalMap : ProximalMap S}
    (distance : IsDistanceMap dimension geometry proximalMap) :
    proximalMap.Confined (IsPoint dimension) := by
  obtain ⟨target, exponent, isTarget, known, rfl⟩ := distance
  exact ProximalMap.confined_distance (averages round some) isTarget known

end Sphere

open DouglasRachford

/-- Points never leave the sphere. Logarithms are tangent vectors; following tangent vectors,
geodesics, reflections, mid points and means lead from unit vectors to unit vectors, without a
division by zero. With proximal maps of distances and positive parameters, all iterates of a run are
unit vectors, as are the driver of a splitting and the components of the driver of a parallel one. -/
theorem unit_vectors_stay_unit {strictness : Strictness} {manifold : Manifold S}
    (built : Manifold.sphereOf strictness (.integer dimension) = .ok manifold) :
    KeepsUnits dimension manifold.geometry ∧
    (∀ (course : Course S) before derived parameters collection,
      course.Fits before.2.state → before.2.state.method = .cyclic derived parameters →
      course.problem.collection = some collection →
      (∀ proximalMap ∈ collection.maps, IsDistanceMap dimension manifold.geometry proximalMap) →
      parameters.parameter.Positive → IsPoint dimension before.2.state.iterate →
      course.Confined before (IsPoint dimension) (· = none) parameters.parameter.Fails) ∧
    (∀ (course : Course S) before parameters first second counts,
      course.Fits before.2.state → before.2.state.method = .splitting parameters →
      parameters.parallel = false → parameters.reflection = none →
      course.problem.manifold = manifold →
      course.problem.collection = some ⟨[first, second], counts⟩ →
      IsDistanceMap dimension manifold.geometry first →
      IsDistanceMap dimension manifold.geometry second →
      parameters.parameter.Positive → IsPoint dimension before.2.state.iterate →
      IsPoint dimension parameters.driver →
      course.Confined before (IsPoint dimension) (fun found => ∃ driver ∈ found,
        IsPoint dimension driver) (ScheduleFails parameters)) ∧
    (∀ (course : Course S) before parameters copies given maps beside counts,
      course.Fits before.2.state → before.2.state.method = .splitting parameters →
      parameters.parallel = true → parameters.reflection = none → 1 ≤ copies →
      course.problem.manifold = .power manifold copies given →
      (ProximalMap.parallel course.problem.manifold maps).Yields beside →
      course.problem.collection =
        some ⟨[beside, ProximalMap.diagonal course.problem.manifold], counts⟩ →
      (∀ proximalMap ∈ maps, IsDistanceMap dimension manifold.geometry proximalMap) →
      parameters.parameter.Positive →
      Power.Each copies (IsPoint dimension) parameters.driver →
      course.Confined before (IsPoint dimension) (fun found => ∃ driver ∈ found,
        Power.Each copies (IsPoint dimension) driver) (ScheduleFails parameters)) := by
  obtain ⟨large, round⟩ := checked_of_sphere built
  have averages := Sphere.averages round large
  have confined : ∀ proximalMap : ProximalMap S,
      IsDistanceMap dimension manifold.geometry proximalMap →
        proximalMap.Confined (IsPoint dimension) :=
    fun proximalMap distance => distance.confined round large
  refine ⟨keepsUnits round large, ?_, ?_, ?_⟩
  · intro course before derived parameters collection fits method collected distances positive start
    exact Course.confined_of_cyclic fits method collected
      (fun proximalMap member => confined proximalMap (distances proximalMap member)) positive start
  · intro course before parameters first second counts fits method alone standard sameManifold
      collected firstDistance secondDistance positive start driven
    rw [← sameManifold] at averages
    exact Course.confined_of_pair fits method standard positive alone averages collected
      (confined first firstDistance) (confined second secondDistance) start driven
  · intro course before parameters copies given maps beside counts fits method parallel standard
      several power yields collected distances positive each
    exact Course.confined_of_parallel fits method standard positive parallel power averages several
      (by simp) yields collected
      (fun proximalMap member => confined proximalMap (distances proximalMap member)) each

section Sample

noncomputable section

def circle : Manifold ℝ :=
  match Manifold.sphereOf .strict (.integer 1) with
  | .ok circle => circle
  | .error _ => .ofGeometry (sphere 1)

def east : Point ℝ := ofVector ![1, 0]

def north : Point ℝ := ofVector ![0, 1]

def toEast : ProximalMap ℝ := .distance circle.geometry east (.integer 1)

def toNorth : ProximalMap ℝ := .distance circle.geometry north (.integer 2)

def besideOnCircle : ProximalMap ℝ := .beside (.power circle 3) [toEast, toNorth, toEast]

def criterionOnCircle : Criterion ℝ := .single 0 (.iterations (.integer 3))

def memoryOnCircle (iterate : Point ℝ) (method : Method ℝ) : Memory ℝ :=
  ({}, ⟨{ clock := 0 }, { iterate, criterion := some criterionOnCircle, method }⟩)

def cyclesOnCircle : CyclicParameters ℝ where
  parameter := Schedule.constant 1
  evaluationOrder := .random
  key := .ofSeed 0

def splittingOnCircle (driver : Point ℝ) (parallel : Bool) : SplittingParameters ℝ where
  driver := driver
  parameter := Schedule.constant 1
  relaxation := Schedule.constant SolverDefaults.relaxation
  reflection := none
  parallel := parallel

def courseOnCircle (manifold : Manifold ℝ) (maps : List (ProximalMap ℝ)) (solver : Solver ℝ) :
    Course ℝ where
  problem := { manifold, objective := .total, collection := some ⟨maps, [1, 1]⟩ }
  solver := solver
  criterion := criterionOnCircle
  decorators := []

end

theorem isPoint_east : IsPoint 1 east where
  shaped := hasShape_ofVector _
  unit := by
    refine (length_eq_one_iff (hasShape_ofVector ![(1 : ℝ), 0])).mpr ?_
    rw [vector_ofVector]
    simp

theorem isPoint_north : IsPoint 1 north where
  shaped := hasShape_ofVector _
  unit := by
    refine (length_eq_one_iff (hasShape_ofVector ![(0 : ℝ), 1])).mpr ?_
    rw [vector_ofVector]
    simp

theorem isDistanceMap_toEast : IsDistanceMap 1 circle.geometry toEast :=
  ⟨east, .integer 1, isPoint_east, .inl rfl, rfl⟩

theorem isDistanceMap_toNorth : IsDistanceMap 1 circle.geometry toNorth :=
  ⟨north, .integer 2, isPoint_north, .inr rfl, rfl⟩

theorem positive_constant : Schedule.Positive (Schedule.constant (1 : ℝ)) := by
  intro iteration value yields
  rw [yields_pure.mp yields]
  exact one_pos

theorem yields_besideOnCircle :
    (ProximalMap.parallel (.power circle 3) [toEast, toNorth, toEast]).Yields besideOnCircle :=
  ⟨{}, {}, rfl⟩

theorem sample_units_stay_unit :
    Manifold.sphereOf .strict (.integer 1) = .ok circle ∧ KeepsUnits 1 circle.geometry ∧
    (courseOnCircle circle [toEast, toNorth] .cyclicProximalPoint).Confined
      (memoryOnCircle east (.cyclic false cyclesOnCircle)) (IsPoint 1) (· = none)
      cyclesOnCircle.parameter.Fails ∧
    (courseOnCircle circle [toEast, toNorth] .douglasRachford).Confined
      (memoryOnCircle north (.splitting (splittingOnCircle north false))) (IsPoint 1)
      (fun found => ∃ driver ∈ found, IsPoint 1 driver)
      (ScheduleFails (splittingOnCircle north false)) ∧
    (courseOnCircle (.power circle 3) [besideOnCircle, .diagonal (.power circle 3)]
        .douglasRachford).Confined
      (memoryOnCircle (Power.point 3 fun _ => north)
        (.splitting (splittingOnCircle (Power.point 3 fun _ => north) true))) (IsPoint 1)
      (fun found => ∃ driver ∈ found, Power.Each 3 (IsPoint 1) driver)
      (ScheduleFails (splittingOnCircle (Power.point 3 fun _ => north) true)) := by
  have built : Manifold.sphereOf .strict (.integer (1 : Nat)) = .ok circle := rfl
  obtain ⟨units, cycles, pair, parallel⟩ := unit_vectors_stay_unit built
  refine ⟨built, units, ?_, ?_, ?_⟩
  · refine cycles _ _ false cyclesOnCircle ⟨[toEast, toNorth], [1, 1]⟩ ⟨rfl, rfl⟩ rfl rfl ?_
      positive_constant isPoint_east
    simp [isDistanceMap_toEast, isDistanceMap_toNorth]
  · exact pair _ _ (splittingOnCircle north false) toEast toNorth [1, 1] ⟨rfl, rfl⟩ rfl rfl rfl rfl
      rfl isDistanceMap_toEast isDistanceMap_toNorth positive_constant isPoint_north isPoint_north
  · refine parallel _ _ (splittingOnCircle (Power.point 3 fun _ => north) true) 3 (.integer 3)
      [toEast, toNorth, toEast] besideOnCircle [1, 1] ⟨rfl, rfl⟩ rfl rfl rfl (by decide) rfl
      yields_besideOnCircle rfl ?_ positive_constant ⟨_, rfl, fun _ _ => isPoint_north⟩
    simp [isDistanceMap_toEast, isDistanceMap_toNorth]

end Sample

end ProximalSplitting

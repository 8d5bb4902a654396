import ProximalSplitting.Proofs.Exact.Flat
import ProximalSplitting.Proofs.Run.Confinement
import ProximalSplitting.Proofs.Run.Rule

/-!
Runs that start at a common fixed point of their proximal maps. They do not leave it, whatever the
parameters, the relaxation and the order of the maps, and a criterion for the change stops them
after the first iteration.
-/

namespace ProximalSplitting

open Compute Tensor

section Resting

variable {S : Type} {point : Point S}

def ProximalMap.Fix (schedule : Schedule S) (maps : List (ProximalMap S)) (point : Point S) : Prop :=
  ∀ number : Nat, 1 ≤ number → ∀ parameter, (schedule number).Yields parameter →
    ∀ proximalMap ∈ maps, (proximalMap parameter point).Gives point

theorem ProximalMap.Fix.stay {schedule : Schedule S} {maps : List (ProximalMap S)}
    (fix : Fix schedule maps point) : Stay schedule maps (· = point) := by
  rintro number counted parameter yields proximalMap member _ rfl
  exact (fix number counted parameter yields proximalMap member).ensures rfl

namespace DouglasRachford

variable [Scalar S]

structure RestsAt (problem : Problem S) (parameters : SplittingParameters S) (point : Point S) :
    Prop where
  reflects : (parameters.reflection.getD problem.manifold.geometry.reflect point point).Gives point
  moves : ∀ time, (problem.manifold.geometry.shortestGeodesic point point time).Gives point

theorem RestsAt.kept {problem : Problem S} {parameters : SplittingParameters S}
    {first second : ProximalMap S} {counts : List Int} (rests : RestsAt problem parameters point)
    (alone : parameters.parallel = false)
    (collected : problem.collection = some ⟨[first, second], counts⟩)
    (fix : ProximalMap.Fix parameters.parameter [first, second] point) :
    Kept problem parameters (· = point) (· = point) where
  maps := ⟨first, second, counts, collected, fix.stay⟩
  reflects := by
    rintro _ _ rfl rfl
    exact rests.reflects.ensures rfl
  moves := by
    rintro _ _ rfl rfl time
    exact (rests.moves time).ensures rfl
  shows := by
    intro next iterate isNext _
    rw [alone]
    exact ensures_pure isNext

end DouglasRachford

end Resting

namespace Course

variable {S : Type} [Scalar S] {course : Course S} {before : Memory S} {point : Point S}
  {driven : Option (Point S) → Prop} {raised : Int → Fault S → Prop}

structure WatchesChange (course : Course S) (before : Memory S) (point : Point S) : Prop where
  criterion : ∃ number tolerance, course.criterion = .single number (.change tolerance) ∧
    number < before.2.workspace.criteria.length ∧ Scalar.less Scalar.zero tolerance = true
  distance : (course.problem.manifold.geometry.dist point point).Gives Scalar.zero

structure StopsAtOnce (course : Course S) (before : Memory S) (point : Point S)
    (raised : Int → Fault S → Prop) : Prop where
  once : ∀ {done middle}, course.Pending (course.begin before) done middle → done = 0
  counts : ∀ {steps result after},
    (solveWithin steps course.problem course.decorators).run before = (.ok result, after) →
      result = point ∧ after.2.state.iterate = point ∧
        after.2.state.field? "iterations" = some (.integer 1)
  returns : course.decorators = [] → (∀ fault, ¬ raised 1 fault) → ∀ {steps}, 1 ≤ steps →
    ∃ after, (solveWithin steps course.problem course.decorators).run before = (.ok point, after)

theorem Confined.obeys (confined : course.Confined before (· = point) driven raised)
    (fits : course.Fits before.2.state)
    (manifold : before.2.state.manifoldOf course.problem = pure course.problem.manifold)
    (watches : course.WatchesChange before point) :
    course.Obeys (course.begin before) fun _ => true := by
  obtain ⟨number, tolerance, criterion, allocated, positive⟩ := watches.criterion
  have separate : course.criterion.Separate (course.begin before).2.workspace := by
    rw [criterion]
    refine ⟨by simp [Criterion.leaves], fun leaf member => ?_⟩
    rw [List.mem_singleton.mp member]
    exact allocated
  refine obeys_of_formula separate ?_
  intro done reached performed
  obtain ⟨earlier, performedEarlier⟩ := performed.earlierStep
  have now := (confined.points performed).1
  have previous := (confined.points performedEarlier).1
  rw [criterion, ← positive]
  refine gives_change performedEarlier performed (performed.manifoldOf fits manifold) ?_ number
    tolerance
  rw [now, previous]
  exact watches.distance

theorem isLeast_met_true : IsLeast (Met fun _ => true) 1 :=
  ⟨⟨Nat.le_refl 1, rfl⟩, fun _ met => met.1⟩

theorem Confined.stopsAtOnce (confined : course.Confined before (· = point) driven raised)
    (fits : course.Fits before.2.state)
    (manifold : before.2.state.manifoldOf course.problem = pure course.problem.manifold)
    (watches : course.WatchesChange before point) : course.StopsAtOnce before point raised := by
  have obeys := confined.obeys fits manifold watches
  refine ⟨?_, ?_, ?_⟩
  · intro done middle pending
    by_contra later
    have unmet := pending.unmet obeys 1 (Nat.le_refl 1) (by omega)
    cases unmet
  · intro steps result after ended
    obtain ⟨isPoint, kept⟩ := confined.result ended
    obtain ⟨iterations, least, counted, _⟩ := isLeast_of_solve fits obeys ended
    cases least.unique isLeast_met_true
    exact ⟨isPoint, kept.trans isPoint, counted⟩
  · intro unwatched total steps enough
    obtain ⟨prepared, prepares⟩ := confined.prepares
    have proceeds : ∀ done middle, done < 1 → course.Pending (course.begin before) done middle →
        ∃ stepped, course.Performs [.step (done + 1)] middle stepped := by
      intro done middle early pending
      cases Nat.lt_one_iff.mp early
      exact confined.steps pending total
    obtain ⟨result, after, ended⟩ :=
      exists_solve_of_rule fits unwatched prepares proceeds obeys isLeast_met_true enough
    have isPoint := (confined.result ended).1
    rw [isPoint] at ended
    exact ⟨after, ended⟩

end Course

open DouglasRachford

/-- Common fixed points are stationary. A splitting keeps iterate and driver at a point that both
maps fix, if reflection and geodesics from the point to itself stay there, and cycles in any order
keep the iterate at a point that all maps fix. With the change as criterion both stop after exactly
one iteration. -/
theorem common_fixed_points_are_stationary {S : Type} [Scalar S] :
    (∀ (course : Course S) before parameters first second counts point,
      course.Fits before.2.state → before.2.state.method = .splitting parameters →
      parameters.parallel = false → course.problem.collection = some ⟨[first, second], counts⟩ →
      RestsAt course.problem parameters point →
      ProximalMap.Fix parameters.parameter [first, second] point →
      before.2.state.iterate = point → parameters.driver = point →
      course.Confined before (· = point) (fun found => ∃ driver ∈ found, driver = point)
          (fun number fault => parameters.parameter.Fails number fault ∨
            parameters.relaxation.Fails number fault) ∧
        (course.WatchesChange before point →
          course.StopsAtOnce before point fun number fault =>
            parameters.parameter.Fails number fault ∨ parameters.relaxation.Fails number fault)) ∧
    (∀ (course : Course S) before derived parameters collection point,
      course.Fits before.2.state → before.2.state.method = .cyclic derived parameters →
      course.problem.collection = some collection →
      ProximalMap.Fix parameters.parameter collection.maps point →
      before.2.state.iterate = point →
      course.Confined before (· = point) (· = none) parameters.parameter.Fails ∧
        (course.WatchesChange before point →
          course.StopsAtOnce before point parameters.parameter.Fails)) := by
  constructor
  · intro course before parameters first second counts point fits method alone collected rests fix
      start driven
    have confined := Course.confined_of_kept_pair fits method (rests.kept alone collected fix) alone
      collected start driven
    have manifold : before.2.state.manifoldOf course.problem = pure course.problem.manifold := by
      rw [SolverState.manifoldOf, method]
      exact if_neg (by simp [alone])
    exact ⟨confined, confined.stopsAtOnce fits manifold⟩
  · intro course before derived parameters collection point fits method collected fix start
    have confined := Course.confined_of_stay fits method collected fix.stay start
    have manifold : before.2.state.manifoldOf course.problem = pure course.problem.manifold := by
      rw [SolverState.manifoldOf, method]
    exact ⟨confined, confined.stopsAtOnce fits manifold⟩

theorem Geometry.Straight.restsAt {S : Type} [ExactScalar S] {shape : List Nat} {problem : Problem S}
    {parameters : SplittingParameters S} {point : Point S}
    (straight : problem.manifold.geometry.Straight) (positive : ∀ extent ∈ shape, 0 < extent)
    (standard : parameters.reflection = none) (shaped : point.hasShape shape = true) :
    RestsAt problem parameters point where
  reflects := by
    have same : Flat.mirrored point point = point := by
      refine eq_of_coordinates (Flat.hasShape_mirrored shaped shaped) shaped ?_
      rw [Flat.coordinates_mirrored shaped shaped, two_smul, add_sub_cancel_right]
    have gives := straight.gives_mirrored positive shaped shaped
    rw [standard, Option.getD_none]
    rwa [same] at gives
  moves := by
    intro time
    have same : Flat.along point point time = point := by
      refine eq_of_coordinates (Flat.hasShape_along shaped shaped time) shaped ?_
      rw [Flat.coordinates_along shaped shaped, sub_self, smul_zero, add_zero]
    have gives := straight.gives_along positive shaped shaped time
    rwa [same] at gives

section Sample

def restingPoint : Point ℚ := .stack [.scalar 5, .scalar (-1)]

def restingCriterion : Criterion ℚ := .single 0 (.change (1 / 10))

def restingSplitting : SplittingParameters ℚ where
  driver := restingPoint
  parameter := Schedule.affine 1 (-3)
  relaxation := Schedule.constant 7
  reflection := none
  parallel := false

def restingCycles : CyclicParameters ℚ where
  parameter := Schedule.affine 1 (-3)
  evaluationOrder := .random
  key := .ofSeed 0

def restingMemory (method : Method ℚ) : Memory ℚ :=
  ({}, ⟨{ clock := 0, criteria := [⟨"", none, 0⟩] },
    { iterate := restingPoint, criterion := some restingCriterion, method }⟩)

def restingCourse (maps : List (ProximalMap ℚ)) (solver : Solver ℚ) : Course ℚ where
  problem :=
    { manifold := .ofGeometry (euclidean [2])
      objective := .total
      collection := some ⟨maps, []⟩ }
  solver := solver
  criterion := restingCriterion
  decorators := []

theorem sample_watchesChange (maps : List (ProximalMap ℚ)) (solver : Solver ℚ)
    (method : Method ℚ) :
    (restingCourse maps solver).WatchesChange (restingMemory method) restingPoint where
  criterion := ⟨0, 1 / 10, rfl, Nat.zero_lt_one, by decide +kernel⟩
  distance := by
    have shaped : restingPoint.hasShape [2] = true := rfl
    have nothing : (zipWith (· - ·) restingPoint restingPoint).length = Scalar.zero := by
      decide +kernel
    rw [← nothing]
    refine Gives.compiledAs ?_ _
    exact (gives_combine (by decide) (· - ·) shaped shaped).bind (gives_pure _)

theorem sample_points_are_stationary :
    (restingCourse [.constant restingPoint, .identity] .douglasRachford).Confined
        (restingMemory (.splitting restingSplitting)) (· = restingPoint)
        (fun found => ∃ driver ∈ found, driver = restingPoint)
        (fun number fault => restingSplitting.parameter.Fails number fault ∨
          restingSplitting.relaxation.Fails number fault) ∧
      (restingCourse [.constant restingPoint, .identity] .douglasRachford).StopsAtOnce
        (restingMemory (.splitting restingSplitting)) restingPoint
        (fun number fault => restingSplitting.parameter.Fails number fault ∨
          restingSplitting.relaxation.Fails number fault) ∧
      (restingCourse [.identity, .constant restingPoint, .identity] .cyclicProximalPoint).Confined
        (restingMemory (.cyclic false restingCycles)) (· = restingPoint) (· = none)
        restingCycles.parameter.Fails ∧
      (restingCourse [.identity, .constant restingPoint, .identity] .cyclicProximalPoint).StopsAtOnce
        (restingMemory (.cyclic false restingCycles)) restingPoint
        restingCycles.parameter.Fails := by
  have straight : (Manifold.ofGeometry (euclidean [2]) : Manifold ℚ).geometry.Straight :=
    ⟨rfl, rfl, rfl⟩
  have extents : ∀ extent ∈ [2], 0 < extent := by decide
  have rests : RestsAt (restingCourse [.constant restingPoint, .identity] .douglasRachford).problem
      restingSplitting restingPoint :=
    straight.restsAt extents rfl rfl
  have pairFixes : ProximalMap.Fix restingSplitting.parameter
      [.constant restingPoint, .identity] restingPoint := by
    intro number _ parameter _ proximalMap member
    simp only [List.mem_cons, List.not_mem_nil, or_false] at member
    rcases member with rfl | rfl
    · exact gives_pure restingPoint
    · exact gives_pure restingPoint
  have cyclesFix : ProximalMap.Fix restingCycles.parameter
      [.identity, .constant restingPoint, .identity] restingPoint := by
    intro number _ parameter _ proximalMap member
    simp only [List.mem_cons, List.not_mem_nil, or_false] at member
    rcases member with rfl | rfl | rfl
    · exact gives_pure restingPoint
    · exact gives_pure restingPoint
    · exact gives_pure restingPoint
  obtain ⟨splittings, cycles⟩ := common_fixed_points_are_stationary (S := ℚ)
  obtain ⟨kept, stops⟩ := splittings
    (restingCourse [.constant restingPoint, .identity] .douglasRachford)
    (restingMemory (.splitting restingSplitting)) restingSplitting (.constant restingPoint) .identity
    [] restingPoint ⟨rfl, rfl⟩ rfl rfl rfl rests pairFixes rfl rfl
  obtain ⟨keptToo, stopsToo⟩ := cycles
    (restingCourse [.identity, .constant restingPoint, .identity] .cyclicProximalPoint)
    (restingMemory (.cyclic false restingCycles)) false restingCycles _ restingPoint ⟨rfl, rfl⟩ rfl
    rfl cyclesFix rfl
  exact ⟨kept, stops (sample_watchesChange _ _ _), keptToo, stopsToo (sample_watchesChange _ _ _)⟩

end Sample

end ProximalSplitting

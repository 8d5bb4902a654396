import Mathlib.Algebra.BigOperators.Pi
import ProximalSplitting.Proofs.Exact.Flat
import ProximalSplitting.Proofs.Method.Failure
import ProximalSplitting.Proofs.Purity.Problem
import ProximalSplitting.Solver.Minimize

/-!
Parallel Douglas-Rachford splitting on flat space as a coupled recursion. A step on the power moves
every component of the driver by itself, towards the mean of the reflections of all of them. The
components of the driver and the iterate stay points of the space.
-/

namespace ProximalSplitting

open Compute Effect Tracked Tensor

variable {S : Type}

namespace DouglasRachford

def FunctionRaises (maps : List (ProximalMap S)) (parameter relaxation : Schedule S) (number : Int)
    (fault : Fault S) : Prop :=
  (∃ journal, (parameter number).Raises journal fault) ∨
    (∃ journal, (relaxation number).Raises journal fault) ∨
    ∃ proximalMap ∈ maps, ∃ value point journal, (proximalMap value point).Raises journal fault

def KeepShape (maps : List (ProximalMap S)) (shape : List Nat) : Prop :=
  ∀ proximalMap ∈ maps, ∀ value point moved, point.hasShape shape = true →
    (proximalMap value point).Yields moved → moved.hasShape shape = true

def MapRaises (maps : List (ProximalMap S)) (value : S) (fault : Fault S) : Prop :=
  ∃ proximalMap ∈ maps, ∃ point journal, (proximalMap value point).Raises journal fault

variable [ExactScalar S]

structure Round (maps : List (ProximalMap S)) (shape : List Nat) (parameter relaxation : Schedule S)
    (number : Int) (before : Nat → Point S) (result : Point S) (after : Nat → Point S) : Prop where
  resultShaped : result.hasShape shape = true
  shaped : ∀ index < maps.length, (after index).hasShape shape = true
  computes : ∃ (value factor : S) (proximal : Nat → Point S),
    (parameter number).Yields value ∧ (relaxation number).Yields factor ∧
    (∀ (index : Nat) (proximalMap : ProximalMap S), maps[index]? = some proximalMap →
      (proximalMap value (before index)).Yields (proximal index)) ∧
    result.coordinates = (maps.length : S)⁻¹ • ∑ index ∈ Finset.range maps.length,
      ((2 : S) • (proximal index).coordinates - (before index).coordinates) ∧
    ∀ index < maps.length, (after index).coordinates = (before index).coordinates +
      (2 * factor) • (result.coordinates - (proximal index).coordinates)

inductive Rounds (maps : List (ProximalMap S)) (shape : List Nat)
    (parameter relaxation : Schedule S) (start : Point S) :
    Nat → Point S → (Nat → Point S) → Prop
  | none : Rounds maps shape parameter relaxation start 0 start fun _ => start
  | more {done earlier before result after} :
      Rounds maps shape parameter relaxation start done earlier before →
      Round maps shape parameter relaxation (done + 1 : Nat) before result after →
      Rounds maps shape parameter relaxation start (done + 1) result after

section Determined

variable {maps : List (ProximalMap S)} {shape : List Nat} {parameter relaxation : Schedule S}

theorem Rounds.shaped {start result : Point S} {component : Nat → Point S} {done : Nat}
    (rounds : Rounds maps shape parameter relaxation start done result component)
    (startShaped : start.hasShape shape = true) :
    result.hasShape shape = true ∧
      ∀ index < maps.length, (component index).hasShape shape = true := by
  cases rounds with
  | none => exact ⟨startShaped, fun _ _ => startShaped⟩
  | more _ round => exact ⟨round.resultShaped, round.shaped⟩

variable (pureMaps : ∀ proximalMap ∈ maps, ProximalMap.Pure proximalMap)
  (pureParameter : Schedule.Pure parameter) (pureRelaxation : Schedule.Pure relaxation)
include pureMaps pureParameter pureRelaxation

theorem Round.unique {number : Int} {before before' after after' : Nat → Point S}
    {result result' : Point S} (same : ∀ index < maps.length, before index = before' index)
    (left : Round maps shape parameter relaxation number before result after)
    (right : Round maps shape parameter relaxation number before' result' after') :
    result = result' ∧ ∀ index < maps.length, after index = after' index := by
  obtain ⟨value, factor, proximal, valueYields, factorYields, yields, mean, moves⟩ := left.computes
  obtain ⟨value', factor', proximal', valueYields', factorYields', yields', mean', moves'⟩ :=
    right.computes
  obtain rfl := (pureParameter number).unique valueYields valueYields'
  obtain rfl := (pureRelaxation number).unique factorYields factorYields'
  have sameProximal : ∀ index < maps.length, proximal index = proximal' index := by
    intro index inside
    have found : maps[index]? = some maps[index] := List.getElem?_eq_getElem inside
    have image := yields' index _ found
    rw [← same index inside] at image
    exact (pureMaps _ (List.getElem_mem inside) value (before index)).unique
      (yields index _ found) image
  have sameResult : result = result' := by
    refine eq_of_coordinates left.resultShaped right.resultShaped ?_
    rw [mean, mean']
    refine congrArg _ (Finset.sum_congr rfl fun index member => ?_)
    have inside := Finset.mem_range.mp member
    rw [sameProximal index inside, same index inside]
  refine ⟨sameResult, fun index inside => ?_⟩
  refine eq_of_coordinates (left.shaped index inside) (right.shaped index inside) ?_
  rw [moves index inside, moves' index inside, same index inside, sameProximal index inside,
    sameResult]

theorem Rounds.unique {start result result' : Point S} {component component' : Nat → Point S}
    {done : Nat} (left : Rounds maps shape parameter relaxation start done result component)
    (right : Rounds maps shape parameter relaxation start done result' component') :
    result = result' ∧ ∀ index < maps.length, component index = component' index := by
  induction left generalizing result' component' with
  | none =>
      cases right
      exact ⟨rfl, fun _ _ => rfl⟩
  | more _ round ih =>
      cases right with
      | more earlier other =>
          exact Round.unique pureMaps pureParameter pureRelaxation (ih earlier).2 round other

end Determined

structure Reflects (maps : List (ProximalMap S)) (shape : List Nat) (value : S)
    (before proximal : Nat → Point S) (result : Point S) : Prop where
  yields : ∀ (index : Nat) (proximalMap : ProximalMap S), maps[index]? = some proximalMap →
    (proximalMap value (before index)).Yields (proximal index)
  shaped : ∀ index < maps.length, (proximal index).hasShape shape = true
  resultShaped : result.hasShape shape = true
  mean : result.coordinates = (maps.length : S)⁻¹ • ∑ index ∈ Finset.range maps.length,
    ((2 : S) • (proximal index).coordinates - (before index).coordinates)

def twiceReflected (before proximal : Nat → Point S) (result : Point S) (index : Nat) : Point S :=
  Flat.mirrored result (Flat.mirrored (proximal index) (before index))

section Reflections

variable {maps : List (ProximalMap S)} {shape : List Nat} {parameter relaxation : Schedule S}
  {number : Int} {value factor : S} {before proximal : Nat → Point S} {result : Point S}
  (reflects : Reflects maps shape value before proximal result)
  (shaped : ∀ index < maps.length, (before index).hasShape shape = true)
include reflects shaped

theorem Reflects.hasShape_mirrored (index : Nat) (inside : index < maps.length) :
    (Flat.mirrored (proximal index) (before index)).hasShape shape = true :=
  Flat.hasShape_mirrored (reflects.shaped index inside) (shaped index inside)

theorem Reflects.hasShape_twice (index : Nat) (inside : index < maps.length) :
    (twiceReflected before proximal result index).hasShape shape = true :=
  Flat.hasShape_mirrored reflects.resultShaped (reflects.hasShape_mirrored shaped index inside)

theorem Reflects.round (valueYields : (parameter number).Yields value)
    (factorYields : (relaxation number).Yields factor) :
    Round maps shape parameter relaxation number before result fun index =>
      Flat.along (before index) (twiceReflected before proximal result index) factor where
  resultShaped := reflects.resultShaped
  shaped := fun index inside =>
    Flat.hasShape_along (shaped index inside) (reflects.hasShape_twice shaped index inside) factor
  computes := by
    refine ⟨value, factor, proximal, valueYields, factorYields, reflects.yields, reflects.mean,
      fun index inside => ?_⟩
    -- The second reflection is twice the result minus the first one, which is twice the proximal
    -- point minus the component.
    rw [Flat.coordinates_along (shaped index inside) (reflects.hasShape_twice shaped index inside),
      twiceReflected,
      Flat.coordinates_mirrored reflects.resultShaped
        (reflects.hasShape_mirrored shaped index inside),
      Flat.coordinates_mirrored (reflects.shaped index inside) (shaped index inside)]
    funext position
    simp only [Pi.add_apply, Pi.smul_apply, Pi.sub_apply, smul_eq_mul]
    ring

end Reflections

def coupledProblem (task : Task S) : Problem S where
  manifold := .power task.manifold task.maps.length
  objective := task.objective
  collection := some ⟨[fun value point => do
      let components ← (Manifold.power task.manifold task.maps.length).components point
      Tensor.ofSlices (← ProximalMap.componentwise value task.maps components),
    ProximalMap.diagonal (.power task.manifold task.maps.length)], [1, 1]⟩

theorem gives_parallelProblem (task : Task S) :
    (parallelProblem task (.power task.manifold task.maps.length)).Gives (coupledProblem task) := by
  intro journal
  have same : ¬ task.maps.length ≠ task.maps.length := fun different => different rfl
  refine ⟨journal, ?_⟩
  rw [parallelProblem, ProximalMap.parallel, Manifold.asPower, pure_bind]
  dsimp only
  rw [if_neg same]
  rfl

theorem first_eq (task : Task S) (value : S) (point : Point S) :
    (coupledProblem task).prox value point 0 = (do
      let components ← (Manifold.power task.manifold task.maps.length).components point
      Tensor.ofSlices (← ProximalMap.componentwise value task.maps components)) :=
  @Problem.prox_eq _ _ (coupledProblem task) _ rfl 0 _ rfl value point

theorem gives_split (task : Task S) (component : Nat → Point S) :
    ((Manifold.power task.manifold task.maps.length).components
      (Power.point task.maps.length component)).Gives
        ((List.range task.maps.length).map component) :=
  (gives_pure (task.manifold, task.maps.length)).bind
    (Power.gives_components task.maps.length component)

def advanced (state : SolverState S) (driver iterate : Point S) : SolverState S :=
  (state.changeSplitting fun parameters => { parameters with driver }).withIterate iterate

omit [ExactScalar S] in
theorem advanced_eq {state : SolverState S} {parameters : SplittingParameters S}
    (method : state.method = .splitting parameters) (driver iterate : Point S) :
    advanced state driver iterate =
      { state with iterate, method := .splitting { parameters with driver } } := by
  rw [advanced, SolverState.changeSplitting, method]
  rfl

section Figures

variable {task : Task S} {shape : List Nat} {before : Nat → Point S}
  (straight : task.manifold.geometry.Straight) (positive : ∀ extent ∈ shape, 0 < extent)
  (several : 0 < task.maps.length)
include straight positive several

theorem gives_coordinateMean {component : Nat → Point S}
    (shaped : ∀ index < task.maps.length, (component index).hasShape shape = true)
    (reference : Option (Point S)) :
    ∃ mean, ((coupledProblem task).manifold.coordinateMean
        (Power.point task.maps.length component) reference).Gives mean ∧
      mean.hasShape shape = true ∧
      mean.coordinates = (task.maps.length : S)⁻¹ •
        ∑ index ∈ Finset.range task.maps.length, (component index).coordinates := by
  obtain ⟨mean, gives, meanShaped, same⟩ := straight.gives_mean positive
    (Power.map_range_ne_nil several component) (Power.forall_mem_map_range shaped) reference
    MeanLimits.standard
  refine ⟨mean, ?_, meanShaped, ?_⟩
  · exact (gives_pure (task.manifold, task.maps.length)).bind
      ((Power.gives_components _ component).bind gives)
  · rw [same, List.length_map, List.length_range, List.map_map]
    rfl

omit straight in
theorem ensures_first (keeps : KeepShape task.maps shape)
    (shaped : ∀ index < task.maps.length, (before index).hasShape shape = true) (value : S) :
    ((coupledProblem task).prox value (Power.point task.maps.length before) 0).Ensures
      (MapRaises task.maps value) fun whole =>
        ∃ proximal : Nat → Point S, whole = Power.point task.maps.length proximal ∧
          (∀ (index : Nat) (proximalMap : ProximalMap S), task.maps[index]? = some proximalMap →
            (proximalMap value (before index)).Yields (proximal index)) ∧
          ∀ index < task.maps.length, (proximal index).hasShape shape = true := by
  rw [first_eq]
  refine (gives_split task before).bind_ensures ?_
  have mapped : (ProximalMap.componentwise value task.maps
      ((List.range task.maps.length).map before)).Ensures (MapRaises task.maps value) _ :=
    ProximalMap.ensures_componentwise (by simp) fun proximalMap member point _ =>
      (ensures_self (proximalMap value point)).mono
        (fun _ raised => ⟨proximalMap, member, point, raised⟩) fun _ => id
  refine mapped.bind fun moved ⟨length, each⟩ => ?_
  have yields : ∀ (index : Nat) (proximalMap : ProximalMap S),
      task.maps[index]? = some proximalMap →
      (proximalMap value (before index)).Yields (moved.getD index (.scalar 0)) := by
    intro index proximalMap found
    have inside : index < task.maps.length := (List.getElem?_eq_some_iff.mp found).1
    obtain ⟨image, present, yields⟩ :=
      each index proximalMap (before index) found (by simp [inside])
    rw [List.getD_eq_getElem?_getD, present]
    exact yields
  have movedShaped : ∀ index < task.maps.length,
      (moved.getD index (.scalar 0)).hasShape shape = true := by
    intro index inside
    have found : task.maps[index]? = some task.maps[index] := List.getElem?_eq_getElem inside
    exact keeps _ (List.getElem_mem inside) value _ _ (shaped index inside)
      (yields index _ found)
  -- Named by position, the results have the form in which a point of the power is stacked.
  have family : moved =
      (List.range task.maps.length).map fun index => moved.getD index (.scalar 0) := by
    rw [← length]
    exact (Power.map_getD_range moved _).symm
  have stacked := Power.gives_combine positive several movedShaped
  rw [← family, Power.combine, if_pos length] at stacked
  exact stacked.ensures ⟨_, rfl, yields, movedShaped⟩

theorem gives_second {component : Nat → Point S}
    (shaped : ∀ index < task.maps.length, (component index).hasShape shape = true) (value : S) :
    ∃ mean, ((coupledProblem task).prox value (Power.point task.maps.length component) 1).Gives
        (Power.point task.maps.length fun _ => mean) ∧
      mean.hasShape shape = true ∧
      mean.coordinates = (task.maps.length : S)⁻¹ •
        ∑ index ∈ Finset.range task.maps.length, (component index).coordinates := by
  obtain ⟨mean, gives, meanShaped, same⟩ :=
    gives_coordinateMean straight positive several shaped none
  have applied : (coupledProblem task).prox value (Power.point task.maps.length component) 1 =
      ProximalMap.diagonal (.power task.manifold task.maps.length) value
        (Power.point task.maps.length component) :=
    @Problem.prox_eq _ _ (coupledProblem task) _ rfl 1 _ rfl value _
  have spread : (Manifold.diagonal (.power task.manifold task.maps.length) mean).Gives
      (Power.point task.maps.length fun _ => mean) :=
    (gives_pure (task.manifold, task.maps.length)).bind
      (Power.gives_diagonal positive several meanShaped)
  refine ⟨mean, ?_, meanShaped, same⟩
  rw [applied]
  exact gives.bind spread

theorem gives_reflections {proximal : Nat → Point S} {value : S}
    (shaped : ∀ index < task.maps.length, (before index).hasShape shape = true)
    (yields : ∀ (index : Nat) (proximalMap : ProximalMap S), task.maps[index]? = some proximalMap →
      (proximalMap value (before index)).Yields (proximal index))
    (proximalShaped : ∀ index < task.maps.length, (proximal index).hasShape shape = true) :
    ∃ result, Reflects task.maps shape value before proximal result ∧
      (do
        let firstReflection ← (coupledProblem task).manifold.geometry.reflect
          (Power.point task.maps.length proximal) (Power.point task.maps.length before)
        let secondPoint ← (coupledProblem task).prox value firstReflection 1
        let secondReflection ← (coupledProblem task).manifold.geometry.reflect secondPoint
          firstReflection
        return (secondPoint, secondReflection) : Compute S (Point S × Point S)).Gives
          (Power.point task.maps.length fun _ => result,
            Power.point task.maps.length (twiceReflected before proximal result)) := by
  have mirroredShaped : ∀ index < task.maps.length,
      (Flat.mirrored (proximal index) (before index)).hasShape shape = true :=
    fun index inside => Flat.hasShape_mirrored (proximalShaped index inside) (shaped index inside)
  obtain ⟨result, second, resultShaped, mean⟩ :=
    gives_second straight positive several mirroredShaped value
  refine ⟨result, ⟨yields, proximalShaped, resultShaped, ?_⟩, ?_⟩
  · rw [mean]
    refine congrArg _ (Finset.sum_congr rfl fun index inside => ?_)
    have bound := Finset.mem_range.mp inside
    exact Flat.coordinates_mirrored (proximalShaped index bound) (shaped index bound)
  · have first : ((coupledProblem task).manifold.geometry.reflect
        (Power.point task.maps.length proximal) (Power.point task.maps.length before)).Gives _ :=
      Power.gives_mirrored positive several straight proximalShaped shaped
    have last : ((coupledProblem task).manifold.geometry.reflect
        (Power.point task.maps.length fun _ => result) (Power.point task.maps.length fun index =>
          Flat.mirrored (proximal index) (before index))).Gives
            (Power.point task.maps.length (twiceReflected before proximal result)) :=
      Power.gives_mirrored positive several straight (fun _ _ => resultShaped) mirroredShaped
    exact first.bind (second.bind (last.bind (gives_pure _)))

/-- The double reflection of a driver fails as a map does. Otherwise it reflects every component at
its proximal point and then at the mean of these reflections. -/
theorem ensures_doubleReflection (keeps : KeepShape task.maps shape)
    (shaped : ∀ index < task.maps.length, (before index).hasShape shape = true) (value : S) :
    (doubleReflection (coupledProblem task) (coupledProblem task).manifold.geometry.reflect value
      (Power.point task.maps.length before)).Ensures (MapRaises task.maps value) fun points =>
        ∃ (proximal : Nat → Point S) (result : Point S),
          Reflects task.maps shape value before proximal result ∧
          points = (Power.point task.maps.length fun _ => result,
            Power.point task.maps.length (twiceReflected before proximal result)) := by
  refine (ensures_first positive several keeps shaped value).bind ?_
  rintro _ ⟨proximal, rfl, yields, proximalShaped⟩
  obtain ⟨result, reflects, rest⟩ :=
    gives_reflections straight positive several shaped yields proximalShaped
  exact rest.ensures ⟨proximal, result, reflects, rfl⟩

variable {parameter relaxation : Schedule S} {number : Int}

def coupled (parameter relaxation : Schedule S) (driver : Point S) : SplittingParameters S where
  driver := driver
  parameter := parameter
  relaxation := relaxation
  reflection := none
  parallel := true

theorem ensures_coupled_figures (keeps : KeepShape task.maps shape)
    (shaped : ∀ index < task.maps.length, (before index).hasShape shape = true) :
    (figures (coupledProblem task)
      (coupled parameter relaxation (Power.point task.maps.length before)) number).Ensures
        (FunctionRaises task.maps parameter relaxation number) fun figures =>
          ∃ (value factor : S) (proximal : Nat → Point S) (result : Point S),
            (parameter number).Yields value ∧ (relaxation number).Yields factor ∧
            Reflects task.maps shape value before proximal result ∧
            figures = (Power.point task.maps.length fun _ => result,
              Power.point task.maps.length (twiceReflected before proximal result), factor) := by
  refine ((ensures_self (parameter number)).mono (fun _ => .inl) fun _ => id).bind
    fun value valueYields => ?_
  refine ((ensures_doubleReflection straight positive several keeps shaped value).mono
    (fun fault ⟨proximalMap, member, point, journal, raised⟩ =>
      .inr (.inr ⟨proximalMap, member, value, point, journal, raised⟩)) fun _ => id).bind ?_
  rintro _ ⟨proximal, result, reflects, rfl⟩
  refine ((ensures_self (relaxation number)).mono (fun _ raised => .inr (.inl raised))
    fun _ => id).bind fun factor factorYields => ?_
  exact ensures_pure ⟨value, factor, proximal, result, valueYields, factorYields, reflects, rfl⟩

theorem gives_mean_of_equal {point : Point S} (shaped : point.hasShape shape = true)
    (reference : Option (Point S)) :
    ((coupledProblem task).manifold.coordinateMean (Power.point task.maps.length fun _ => point)
      reference).Gives point := by
  refine (gives_pure (task.manifold, task.maps.length)).bind
    ((Power.gives_components task.maps.length fun _ => point).bind ?_)
  rw [List.map_const', List.length_range]
  exact straight.gives_mean_replicate positive several shaped reference MeanLimits.standard

theorem run_move (shaped : ∀ index < task.maps.length, (before index).hasShape shape = true)
    {result : Point S} (resultShaped : result.hasShape shape = true) {reflection : Nat → Point S}
    (reflectionShaped : ∀ index < task.maps.length, (reflection index).hasShape shape = true)
    (factor : S) (state : SolverState S) (journal : Journal) :
    ∃ last, (move (coupledProblem task) state
        (coupled parameter relaxation (Power.point task.maps.length before))
        (Power.point task.maps.length fun _ => result, Power.point task.maps.length reflection,
          factor)).run (journal, state) =
      (.ok (), (last, advanced state (Power.point task.maps.length fun index =>
        Flat.along (before index) (reflection index) factor) result)) := by
  have moves : ((coupledProblem task).manifold.geometry.shortestGeodesic
      (Power.point task.maps.length before) (Power.point task.maps.length reflection)
      factor).Gives _ :=
    Power.gives_along positive several straight shaped reflectionShaped factor
  obtain ⟨moved, movedRan⟩ := moves journal
  obtain ⟨last, lastRan⟩ := gives_mean_of_equal straight positive several resultShaped
    (some state.iterate) moved
  refine ⟨last, (run_bind_of_ok (run_liftM_of movedRan state)).trans ?_⟩
  refine (run_bind_of_ok (run_update _ (moved, state))).trans ?_
  exact run_bind_of_ok (run_liftM_of lastRan _)

/-- A step of a parallel run fails as a function of the caller does, or it is a round. -/
theorem run_step_round (keeps : KeepShape task.maps shape)
    (shaped : ∀ index < task.maps.length, (before index).hasShape shape = true)
    {state : SolverState S}
    (method : state.method =
      .splitting (coupled parameter relaxation (Power.point task.maps.length before)))
    {journal : Journal} {outcome : Except (Fault S) Unit} {after : Journal × SolverState S}
    (ran : (step (coupledProblem task) number).run (journal, state) = (outcome, after)) :
    (∃ fault, outcome = .error fault ∧
      FunctionRaises task.maps parameter relaxation number fault) ∨
    ∃ (result : Point S) (next : Nat → Point S), outcome = .ok () ∧
      Round task.maps shape parameter relaxation number before result next ∧
      after.2 = advanced state (Power.point task.maps.length next) result := by
  rw [run_step method] at ran
  rcases figured : (figures (coupledProblem task)
    (coupled parameter relaxation (Power.point task.maps.length before)) number).run journal
    with ⟨figuresOutcome, known⟩
  have lifted := run_liftM_of figured state
  rcases (ensures_coupled_figures straight positive several keeps shaped).cases figured with
    ⟨fault, rfl, raised⟩ |
      ⟨_, rfl, value, factor, proximal, result, parameterYields, factorYields, reflects, rfl⟩
  · rw [run_bind_of_error lifted] at ran
    cases ran
    exact .inl ⟨fault, rfl, raised⟩
  · obtain ⟨last, ended⟩ := run_move straight positive several shaped reflects.resultShaped
      (reflects.hasShape_twice shaped) factor state known
    rw [run_bind_of_ok lifted] at ran
    cases ended.symm.trans ran
    exact .inr ⟨result, _, rfl, reflects.round shaped parameterYields factorYields, rfl⟩

end Figures

end DouglasRachford

end ProximalSplitting

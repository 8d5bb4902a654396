import Mathlib.Algebra.Field.Basic
import ProximalSplitting.Proofs.Method.Cycle
import ProximalSplitting.Proofs.Method.Regions

/-!
Steps that stay in a region. If the proximal maps do not lead out of it for positive parameters, a
step of either method fails only as one of its schedules does, and otherwise its points stay in the
region.
-/

namespace ProximalSplitting

open Compute Effect Tracked

variable {S : Type}

namespace Schedule

def Fails (schedule : Schedule S) (iteration : Int) (fault : Fault S) : Prop :=
  ∃ journal, (schedule iteration).Raises journal fault

def Positive [RealScalar S] (schedule : Schedule S) : Prop :=
  ∀ iteration value, (schedule iteration).Yields value → 0 < value

theorem ensures_yields (schedule : Schedule S) (iteration : Int) :
    (schedule iteration).Ensures (schedule.Fails iteration) (schedule iteration).Yields :=
  ensures_self (schedule iteration)

theorem gives_inverse [RealScalar S] {number : Nat} (counted : 1 ≤ number) :
    (inverse (Scalar.one : S) number).Gives (1 / number) := by
  have divisor : (Scalar.ofInt number : S) = number := by
    rw [ExactScalar.ofInt_eq, Int.cast_natCast]
  have positive : 0 < (Scalar.ofInt number : S) := by
    rw [divisor]
    exact Nat.cast_pos.mpr counted
  rw [← divisor, ← Scalar.one_eq]
  exact Scalar.gives_quotient Scalar.one positive

end Schedule

def ProximalMap.Stay (schedule : Schedule S) (maps : List (ProximalMap S))
    (region : Point S → Prop) : Prop :=
  ∀ number : Nat, 1 ≤ number → ∀ parameter, (schedule number).Yields parameter →
    ∀ proximalMap ∈ maps, ∀ point, region point → (proximalMap parameter point).Always region

theorem CyclicProximalPoint.ensures_cycle {maps : List (ProximalMap S)}
    {parameters : CyclicParameters S} {region : Point S → Prop}
    (stay : ProximalMap.Stay parameters.parameter maps region) {number : Nat}
    (counted : 1 ≤ number) {point : Point S} (inside : region point) :
    (cycle maps parameters number point).Ensures (parameters.parameter.Fails number) region := by
  refine (parameters.parameter.ensures_yields number).bind fun parameter yields => ?_
  refine ensures_foldlM (fun proximalMap member point isPoint => ?_) inside
  have isMap := (arranged_perm maps parameters number).mem_iff.mp member
  exact (stay number counted parameter yields proximalMap isMap point isPoint).ensures

namespace DouglasRachford

def Within (region shown : Point S → Prop) (parameters : SplittingParameters S)
    (state : SolverState S) : Prop :=
  shown state.iterate ∧
    ∃ driver, region driver ∧ state.method = .splitting { parameters with driver }

section Kept

variable [Scalar S] {problem : Problem S} {parameters : SplittingParameters S}
  {region shown : Point S → Prop} {state : SolverState S} {journal : Journal} {number : Nat}

structure Kept (problem : Problem S) (parameters : SplittingParameters S)
    (region shown : Point S → Prop) : Prop where
  maps : ∃ first second counts, problem.collection = some ⟨[first, second], counts⟩ ∧
    ProximalMap.Stay parameters.parameter [first, second] region
  reflects : ∀ {pivot point}, region pivot → region point →
    (parameters.reflection.getD problem.manifold.geometry.reflect pivot point).Always region
  moves : ∀ {start target}, region start → region target → ∀ time,
    (problem.manifold.geometry.shortestGeodesic start target time).Always region
  shows : ∀ {point iterate}, region point → shown iterate →
    (if parameters.parallel then problem.manifold.coordinateMean point (some iterate)
      else pure point).Always shown

variable (kept : Kept problem parameters region shown)
include kept

theorem Kept.ensures_figures (counted : 1 ≤ number) (isDriver : region parameters.driver) :
    (figures problem parameters number).Ensures
      (fun fault => parameters.parameter.Fails number fault ∨
        parameters.relaxation.Fails number fault)
      fun figures => region figures.1 ∧ region figures.2.1 := by
  obtain ⟨first, second, counts, collected, stay⟩ := kept.maps
  have firstProx : ∀ parameter point, problem.prox parameter point 0 = first parameter point :=
    @Problem.prox_eq _ _ problem _ collected 0 _ rfl
  have secondProx : ∀ parameter point, problem.prox parameter point 1 = second parameter point :=
    @Problem.prox_eq _ _ problem _ collected 1 _ rfl
  refine ((parameters.parameter.ensures_yields number).mono (fun _ => .inl) fun _ => id).bind
    fun parameter yields => ?_
  have stays := stay number counted parameter yields
  have reflected : (doubleReflection problem (parameters.reflection.getD
      problem.manifold.geometry.reflect) parameter parameters.driver).Always fun points =>
        region points.1 ∧ region points.2 := by
    rw [doubleReflection, firstProx]
    refine (stays first (by simp) _ isDriver).bind fun point isPoint => ?_
    refine (kept.reflects isPoint isDriver).bind fun turned isTurned => ?_
    rw [secondProx]
    refine (stays second (by simp) turned isTurned).bind fun next isNext => ?_
    exact (kept.reflects isNext isTurned).bind fun last isLast => ensures_pure ⟨isNext, isLast⟩
  refine reflected.ensures.bind fun points inside => ?_
  refine ((parameters.relaxation.ensures_yields number).mono (fun _ => .inr) fun _ => id).bind
    fun factor _ => ?_
  exact ensures_pure inside

theorem Kept.run_move (method : state.method = .splitting parameters)
    (isDriver : region parameters.driver) (isShown : shown state.iterate)
    {point reflection : Point S} (isPoint : region point) (isReflection : region reflection)
    (factor : S) (journal : Journal) :
    ∃ last, (move problem state parameters (point, reflection, factor)).run (journal, state) =
        (.ok (), last) ∧ Within region shown parameters last.2 := by
  obtain ⟨driver, moved, ran, isMoved⟩ := (kept.moves isDriver isReflection factor).run journal
  obtain ⟨iterate, last, shownRan, isIterate⟩ := (kept.shows isPoint isShown).run moved
  let stepped := state.changeSplitting fun parameters => { parameters with driver }
  have steppedMethod : stepped.method = .splitting { parameters with driver } := by
    simp only [stepped, SolverState.changeSplitting, method]
  refine ⟨(last, stepped.withIterate iterate), ?_, isIterate, driver, isMoved, steppedMethod⟩
  rw [move, run_bind_of_ok (run_liftM_of ran state), run_bind_of_ok (run_update _ (moved, state))]
  dsimp only
  split
  · rename_i parallel
    rw [if_pos parallel] at shownRan
    exact run_bind_of_ok (run_liftM_of shownRan stepped)
  · rename_i alone
    rw [if_neg alone] at shownRan
    cases shownRan
    rfl

/-- A step of a splitting fails as a schedule does, or it stays in the region. -/
theorem Kept.run_step (counted : 1 ≤ number) (within : Within region shown parameters state)
    {outcome : Except (Fault S) Unit} {after : Journal × SolverState S}
    (ran : (step problem number).run (journal, state) = (outcome, after)) :
    (∃ fault, outcome = .error fault ∧ (parameters.parameter.Fails number fault ∨
        parameters.relaxation.Fails number fault)) ∨
      outcome = .ok () ∧ Within region shown parameters after.2 := by
  obtain ⟨isShown, driver, isDriver, method⟩ := within
  let current : SplittingParameters S := { parameters with driver }
  have keptNow : Kept problem current region shown :=
    ⟨kept.maps, kept.reflects, kept.moves, kept.shows⟩
  have isDriverNow : region current.driver := isDriver
  rw [DouglasRachford.run_step method] at ran
  rcases figured : (figures problem current number).run journal with ⟨figuresOutcome, known⟩
  have lifted := run_liftM_of figured state
  rcases (keptNow.ensures_figures counted isDriverNow).cases figured with
    ⟨fault, rfl, raised⟩ | ⟨⟨point, reflection, factor⟩, rfl, isPoint, isReflection⟩
  · rw [run_bind_of_error lifted] at ran
    cases ran
    exact .inl ⟨fault, rfl, raised⟩
  · obtain ⟨last, ended, stays⟩ :=
      keptNow.run_move method isDriverNow isShown isPoint isReflection factor known
    rw [run_bind_of_ok lifted] at ran
    cases ended.symm.trans ran
    exact .inr ⟨rfl, stays⟩

end Kept

section Pair

variable [Scalar S] {problem : Problem S} {parameters : SplittingParameters S}
  {state : SolverState S} {first second : ProximalMap S} {counts : List Int}
  (collected : problem.collection = some ⟨[first, second], counts⟩)
include collected

theorem mapCount_of_pair (state : SolverState S) (journal : Journal) :
    (liftM problem.mapCount : Step S Nat).run (journal, state) = (.ok 2, (journal, state)) := by
  rw [Problem.mapCount, Problem.maps, collected]
  rfl

theorem run_prepare_alone (method : state.method = .splitting parameters)
    (alone : parameters.parallel = false) (journal : Journal) :
    (prepare problem).run (journal, state) = (.ok (), (journal, state)) := by
  refine (run_bind_of_ok (mapCount_of_pair collected state journal)).trans ?_
  refine (run_bind_of_ok (run_parameters method)).trans ?_
  rw [alone]
  rfl

end Pair

end DouglasRachford

variable [RealScalar S] {shape : List Nat} {region shown : Point S → Prop}
  {tangent : Point S → Point S → Prop} {problem : Problem S} {state : SolverState S}

namespace DouglasRachford

variable {parameters : SplittingParameters S}

def ScheduleFails (parameters : SplittingParameters S) (number : Int) (fault : Fault S) : Prop :=
  parameters.parameter.Fails number fault ∨ parameters.relaxation.Fails number fault

structure Confined (problem : Problem S) (parallel : Bool) (shape : List Nat)
    (region : Point S → Prop) (tangent : Point S → Point S → Prop) (shown : Point S → Prop) :
    Prop where
  keeps : problem.manifold.geometry.Keeps shape region tangent
  maps : ∃ first second counts, problem.collection = some ⟨[first, second], counts⟩ ∧
    ProximalMap.Confined region first ∧ ProximalMap.Confined region second
  shows : ∀ {point iterate}, region point → shown iterate →
    (if parallel then problem.manifold.coordinateMean point (some iterate)
      else pure point).Always shown

/-- Positive parameters and the reflection of the geometry do not lead out of the region. -/
theorem Confined.kept (confined : Confined problem parameters.parallel shape region tangent shown)
    (positive : parameters.parameter.Positive) (standard : parameters.reflection = none) :
    Kept problem parameters region shown where
  maps := by
    obtain ⟨first, second, counts, collected, firstConfined, secondConfined⟩ := confined.maps
    refine ⟨first, second, counts, collected, ?_⟩
    intro number _ parameter yields proximalMap member point inside
    have above := positive number parameter yields
    simp only [List.mem_cons, List.not_mem_nil, or_false] at member
    rcases member with rfl | rfl
    · exact firstConfined parameter point above inside
    · exact secondConfined parameter point above inside
  reflects := by
    intro pivot point isPivot isPoint
    rw [standard]
    exact confined.keeps.reflect isPivot isPoint
  moves := confined.keeps.shortestGeodesic
  shows := confined.shows

end DouglasRachford

namespace DouglasRachford

variable {parameters : SplittingParameters S} {first second : ProximalMap S} {counts : List Int}

theorem confined_of_pair (averages : problem.manifold.geometry.Averages shape region tangent)
    (collected : problem.collection = some ⟨[first, second], counts⟩)
    (firstConfined : first.Confined region) (secondConfined : second.Confined region) :
    Confined problem false shape region tangent region where
  keeps := averages.toKeeps
  maps := ⟨first, second, counts, collected, firstConfined, secondConfined⟩
  shows := fun isPoint _ => ensures_pure isPoint

section Parallel

variable {base : Manifold S} {copies : Nat} {given : Value S} {maps : List (ProximalMap S)}
  (manifold : problem.manifold = .power base copies given)
  (collected : problem.collection = some ⟨[first, .diagonal problem.manifold], counts⟩)
  (averages : base.geometry.Averages shape region tangent) (some : 0 < copies)
include manifold collected averages some

theorem confined_of_parallel (positive : ∀ extent ∈ shape, 0 < extent)
    (beside : (ProximalMap.parallel problem.manifold maps).Yields first)
    (confined : ∀ proximalMap ∈ maps, proximalMap.Confined region) :
    Confined problem true (copies :: shape) (Power.Each copies region)
      (Power.EachPair copies tangent) region where
  keeps := by
    rw [manifold]
    exact Power.keeps positive some averages.toKeeps given
  maps := by
    rw [manifold] at collected beside
    exact ⟨first, _, counts, collected,
      ProximalMap.confined_parallel positive some (fun _ => averages.shaped) confined beside,
      ProximalMap.confined_diagonal positive some averages⟩
  shows := by
    intro point iterate each isIterate
    rw [if_pos rfl, manifold]
    exact Manifold.always_coordinateMean averages some each (by simpa using isIterate)

theorem run_prepare_parallel (method : state.method = .splitting parameters)
    (parallel : parameters.parallel = true) (each : Power.Each copies region parameters.driver)
    (journal : Journal) :
    ∃ mean last, (prepare problem).run (journal, state) = (.ok (), (last, state.withIterate mean)) ∧
      region mean := by
  have means : (problem.manifold.coordinateMean parameters.driver none).Always region := by
    rw [manifold]
    exact Manifold.always_coordinateMean averages some each (by simp)
  obtain ⟨mean, last, ran, isMean⟩ := means.run journal
  refine ⟨mean, last, ?_, isMean⟩
  refine (run_bind_of_ok (mapCount_of_pair collected state journal)).trans ?_
  refine (run_bind_of_ok (run_parameters method)).trans ?_
  rw [parallel, manifold]
  rw [manifold] at ran
  exact run_bind_of_ok (run_liftM_of ran state)

end Parallel

end DouglasRachford

end ProximalSplitting

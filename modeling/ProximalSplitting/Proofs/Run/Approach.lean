import Mathlib.Tactic.IntervalCases
import ProximalSplitting.Proofs.Run.Box
import ProximalSplitting.Proofs.Run.Rule

/-!
Cycles with one squared distance in Euclidean space and the parameters 1, 1/2, 1/3 and so on. Every
cycle divides the way to the target once more, and from the way at the start it can be said in which
cycle a limit on iterations or changes stops the run.
-/

namespace ProximalSplitting

open Compute Tensor Flat

variable {S : Type} [RealScalar S] {shape : List Nat} {geometry : Geometry S}
  {target start : Point S} {exponent : Value S}

/-- The cycles in which the limit is reached, or in which the change of a run that starts in the
distance from its target is less than the tolerance. -/
def haltingCycles (limit : Int) (tolerance distance : S) : Set Nat :=
  { cycle | 1 ≤ cycle ∧ (limit ≤ cycle ∨ distance / (cycle * (cycle + 1)) < tolerance) }

def halts (limit : Int) (tolerance distance : S) (cycle : Nat) : Bool :=
  decide (limit ≤ cycle) || decide (distance / (cycle * (cycle + 1)) < tolerance)

theorem met_halts (limit : Int) (tolerance distance : S) :
    Course.Met (halts limit tolerance distance) = haltingCycles limit tolerance distance := by
  ext cycle
  change 1 ≤ cycle ∧ halts limit tolerance distance cycle = true ↔ 1 ≤ cycle ∧ _
  rw [halts, Bool.or_eq_true, decide_eq_true_iff, decide_eq_true_iff]

theorem exists_isLeast_haltingCycles (limit : Int) (tolerance distance : S) :
    ∃ cycles, IsLeast (haltingCycles limit tolerance distance) cycles := by
  have some : (haltingCycles limit tolerance distance).Nonempty :=
    ⟨limit.toNat + 1, by omega, .inl (by omega)⟩
  exact ⟨_, Nat.sInf_mem some, fun _ => Nat.sInf_le⟩

namespace CyclicProximalPoint

variable {parameters : CyclicParameters S} (linear : geometry.LinearOn shape)
  (targetShaped : target.hasShape shape = true) (startShaped : start.hasShape shape = true)
  (squared : exponent.equalsInteger 2 = true) (standard : parameters.parameter = standardParameter)
include linear targetShaped startShaped squared

theorem gives_distance_approach (done : Nat) :
    (ProximalMap.distance geometry target exponent (1 / ((done + 1 : Nat) : S))
      (approach target start done)).Gives (approach target start (done + 1)) := by
  have positive : 0 < 1 / ((done + 1 : Nat) : S) := one_div_pos.mpr (Nat.cast_pos.mpr (by omega))
  have time : 1 / ((done + 1 : Nat) : S) / (1 + 1 / ((done + 1 : Nat) : S)) = 1 / (done + 2) := by
    obtain ⟨first, second, _⟩ := shares_defined (S := S) done
    have whole : (done : S) + 1 + 1 ≠ 0 := by
      rwa [add_assoc, one_add_one_eq_two]
    rw [Nat.cast_add_one]
    field_simp
    ring
  rw [← along_approach targetShaped startShaped, ← time]
  exact ProximalMap.gives_distance_squared linear
    (hasShape_approach targetShaped startShaped done) targetShaped positive squared

include standard

theorem gives_cycle_approach (done : Nat) :
    (cycle [ProximalMap.distance geometry target exponent] parameters (done + 1)
      (approach target start done)).Gives (approach target start (done + 1)) := by
  have alone : arranged [ProximalMap.distance geometry target exponent]
      (parameters.orderOf 1 (done + 1)) = [ProximalMap.distance geometry target exponent] :=
    List.perm_singleton.mp (arranged_perm [_] parameters (done + 1))
  rw [cycle, List.length_singleton, alone, standard]
  refine (Schedule.gives_inverse (Nat.le_add_left 1 done)).bind ?_
  rw [List.foldlM_cons]
  refine (gives_distance_approach linear targetShaped startShaped squared done).bind ?_
  exact gives_pure _

theorem gives_cycles_approach (count : Nat) :
    (cycles [ProximalMap.distance geometry target exponent] parameters count start).Gives
      (approach target start count) := by
  induction count with
  | zero =>
      rw [approach_zero targetShaped startShaped]
      exact gives_pure start
  | succ count ih =>
      rw [cycles_succ]
      exact ih.bind
        (gives_cycle_approach linear targetShaped startShaped squared standard count)

end CyclicProximalPoint

namespace Course

variable {course : Course S} {before : Memory S} {derived : Bool} {parameters : CyclicParameters S}
  {counts : List Int}

variable (fits : course.Fits before.2.state)
  (method : before.2.state.method = .cyclic derived parameters)
  (collected : course.problem.collection =
    some ⟨[.distance course.problem.manifold.geometry target exponent], counts⟩)
  (linear : course.problem.manifold.geometry.LinearOn shape)
  (targetShaped : target.hasShape shape = true)
  (startShaped : before.2.state.iterate.hasShape shape = true)
  (squared : exponent.equalsInteger 2 = true)
  (standard : parameters.parameter = CyclicProximalPoint.standardParameter)
include fits method collected linear targetShaped startShaped squared standard

theorem iterate_eq_approach {done : Nat} {reached : Memory S}
    (performed : course.Performs (course.callsUntilStep done) (course.begin before) reached) :
    reached.2.state.iterate = approach target before.2.state.iterate done := by
  have cyclic := fits.cyclicProximalPoint method
  have begun : (course.begin before).2.state.method = .cyclic derived parameters := method
  have follows := performed.followsCycles cyclic collected begun
  have path : ∀ number ≤ done, course.iterateAt (course.begin before) number =
      approach target before.2.state.iterate number := by
    intro number early
    induction number with
    | zero => exact follows.start.trans (approach_zero targetShaped startShaped).symm
    | succ number ih =>
        obtain ⟨journal, after, cycled⟩ := follows.cycle (number + 1) (by omega) early
        rw [Nat.add_sub_cancel, ih (by omega)] at cycled
        exact (CyclicProximalPoint.gives_cycle_approach linear targetShaped startShaped squared
          standard number).unique ⟨journal, after, cycled⟩
  have last := path done (Nat.le_refl done)
  rwa [iterateAt, afterStep, performed.memoryAfter] at last

theorem confined_of_shaped :
    course.Confined before (fun point => point.hasShape shape = true) (· = none)
      parameters.parameter.Fails := by
  refine confined_of_stay fits method collected ?_ startShaped
  intro number counted parameter yields proximalMap member point shaped
  rw [standard] at yields
  have positive : 0 < parameter := by
    rw [(Schedule.gives_inverse counted).unique yields]
    exact one_div_pos.mpr (Nat.cast_pos.mpr counted)
  rw [List.mem_singleton.mp member]
  exact (ProximalMap.gives_distance_squared linear shaped targetShaped positive squared).ensures
    (hasShape_along shaped targetShaped _)

omit fits method collected squared standard in
theorem gives_dist_approach (done : Nat) :
    (course.problem.manifold.geometry.dist (approach target before.2.state.iterate done)
      (approach target before.2.state.iterate (done + 1))).Gives
        ((zipWith (· - ·) target before.2.state.iterate).length /
          (((done + 1 : Nat) : S) * ((done + 1 : Nat) + 1))) := by
  rw [(shares_defined done).2.2, Nat.cast_add_one, ← length_sub_approach targetShaped startShaped]
  exact linear.dist (hasShape_approach targetShaped startShaped done)
    (hasShape_approach targetShaped startShaped (done + 1))

theorem obeys_halts {number first second : Nat} {limit : Int} {tolerance : S}
    (criterion : course.criterion = .set number .any
      [.single first (.iterations (.integer limit)), .single second (.change tolerance)])
    (separate : course.criterion.Separate before.2.workspace) :
    course.Obeys (course.begin before)
      (halts limit tolerance (zipWith (· - ·) target before.2.state.iterate).length) := by
  refine obeys_of_formula separate ?_
  intro done reached performed
  obtain ⟨earlier, performedEarlier⟩ := performed.earlierStep
  have now := iterate_eq_approach fits method collected linear targetShaped startShaped squared
    standard performed
  have previous := iterate_eq_approach fits method collected linear targetShaped startShaped squared
    standard performedEarlier
  have manifold : reached.2.state.manifoldOf course.problem = pure course.problem.manifold := by
    refine performed.manifoldOf fits ?_
    change before.2.state.manifoldOf course.problem = _
    rw [SolverState.manifoldOf, method]
  have gap := gives_dist_approach linear targetShaped startShaped done
  rw [← now, ← previous] at gap
  have change := gives_change performedEarlier performed manifold gap second tolerance
  rw [Scalar.less_eq] at change
  have joined : halts limit tolerance
      (zipWith (· - ·) target before.2.state.iterate).length (done + 1) =
        Connective.any.holds [decide (limit ≤ (done + 1 : Nat)),
          decide ((zipWith (· - ·) target before.2.state.iterate).length /
            (((done + 1 : Nat) : S) * ((done + 1 : Nat) + 1)) < tolerance)] := by
    simp [halts, Connective.holds]
  rw [criterion, Criterion.formula, joined]
  exact (gives_formulas (.cons (gives_limit first limit (done + 1)) (.cons change .nil))).bind
    (gives_pure _)

theorem solve_halts {steps : Nat} {point : Point S} {after : Memory S} {rule : Nat → Bool}
    (obeys : course.Obeys (course.begin before) rule)
    (ended : (solveWithin steps course.problem course.decorators).run before =
      (.ok point, after)) :
    ∃ iterations : Nat, IsLeast (Met rule) iterations ∧
      after.2.state.field? "iterations" = some (.integer iterations) ∧
      point = approach target before.2.state.iterate iterations := by
  have confined := confined_of_shaped fits method collected linear targetShaped startShaped squared
    standard
  obtain ⟨iterations, least, counted, reached, performed, iterate⟩ :=
    isLeast_of_solve fits obeys ended
  refine ⟨iterations, least, counted, ?_⟩
  rw [← (confined.result ended).2, iterate]
  exact iterate_eq_approach fits method collected linear targetShaped startShaped squared standard
    performed

theorem exists_solve_halts {iterations : Nat} {rule : Nat → Bool}
    (obeys : course.Obeys (course.begin before) rule) (unwatched : course.decorators = [])
    (least : IsLeast (Met rule) iterations) {steps : Nat} (enough : iterations ≤ steps) :
    ∃ after, (solveWithin steps course.problem course.decorators).run before =
        (.ok (approach target before.2.state.iterate iterations), after) ∧
      after.2.state.field? "iterations" = some (.integer iterations) := by
  have confined := confined_of_shaped fits method collected linear targetShaped startShaped squared
    standard
  obtain ⟨prepared, prepares⟩ := confined.prepares
  have total : ∀ done middle, done < iterations →
      course.Pending (course.begin before) done middle →
        ∃ stepped, course.Performs [.step (done + 1)] middle stepped := by
    intro done middle _ pending
    refine confined.steps pending fun fault raises => ?_
    obtain ⟨journal, failed⟩ := raises
    rw [standard] at failed
    exact (Schedule.gives_inverse (Nat.le_add_left 1 done)).not_raises failed
  obtain ⟨point, after, ended⟩ :=
    exists_solve_of_rule fits unwatched prepares total obeys least enough
  obtain ⟨found, leastFound, counted, reached⟩ := solve_halts fits method collected linear
    targetShaped startShaped squared standard obeys ended
  cases leastFound.unique least
  rw [reached] at ended
  exact ⟨after, ended, counted⟩

end Course

/-- In Euclidean space, cycles with half the squared distance from a target and the parameters 1,
1/2, 1/3 and so on have divided the way to the target by one more than their number. The change in
each of them is the distance at the start, divided by the number of the cycle and the next one, and
a run with a limit on iterations or changes stops exactly in the first cycle in which one of them is
reached. -/
theorem cycles_approach_target {strictness : Strictness} {manifold : Manifold S}
    (built : Manifold.euclideanOf strictness (shape.map fun (extent : Nat) => .integer extent) =
      .ok manifold) {course : Course S} {before : Memory S} {derived : Bool}
    {parameters : CyclicParameters S} {counts : List Int} (fits : course.Fits before.2.state)
    (method : before.2.state.method = .cyclic derived parameters)
    (lies : course.problem.manifold = manifold)
    (collected : course.problem.collection =
      some ⟨[.distance manifold.geometry target exponent], counts⟩)
    (targetShaped : target.hasShape shape = true)
    (startShaped : before.2.state.iterate.hasShape shape = true)
    (squared : exponent.equalsInteger 2 = true)
    (standard : parameters.parameter = CyclicProximalPoint.standardParameter) :
    ∃ distance : S, (manifold.geometry.dist before.2.state.iterate target).Gives distance ∧
      (∀ count journal, ∃ left after,
        (CyclicProximalPoint.takeCycles course.problem count).run (journal, before.2.state) =
          (.ok (), (after, left)) ∧
        left.iterate = approach target before.2.state.iterate count) ∧
      (∀ done reached, course.Performs (course.callsUntilStep done) (course.begin before) reached →
        reached.2.state.iterate = approach target before.2.state.iterate done) ∧
      (∀ done, (manifold.geometry.dist (approach target before.2.state.iterate done)
          (approach target before.2.state.iterate (done + 1))).Gives
        (distance / (((done + 1 : Nat) : S) * ((done + 1 : Nat) + 1)))) ∧
      ∀ number first second limit tolerance,
        course.criterion = .set number .any
          [.single first (.iterations (.integer limit)), .single second (.change tolerance)] →
        course.criterion.Separate before.2.workspace →
        (∀ steps point after,
          (solveWithin steps course.problem course.decorators).run before = (.ok point, after) →
            ∃ iterations : Nat, IsLeast (haltingCycles limit tolerance distance) iterations ∧
              after.2.state.field? "iterations" = some (.integer iterations) ∧
              point = approach target before.2.state.iterate iterations) ∧
        (course.decorators = [] → ∃ iterations : Nat,
          IsLeast (haltingCycles limit tolerance distance) iterations ∧
          ∀ steps, iterations ≤ steps → ∃ after,
            (solveWithin steps course.problem course.decorators).run before =
              (.ok (approach target before.2.state.iterate iterations), after) ∧
            after.2.state.field? "iterations" = some (.integer iterations)) := by
  subst lies
  have linear := (Manifold.flat_of_euclidean built).toLinearOn
  have path : ∀ done reached,
      course.Performs (course.callsUntilStep done) (course.begin before) reached →
        reached.2.state.iterate = approach target before.2.state.iterate done :=
    fun done reached performed => Course.iterate_eq_approach fits method collected linear
      targetShaped startShaped squared standard performed
  refine ⟨_, linear.dist startShaped targetShaped, ?_, path,
    fun done => Course.gives_dist_approach linear targetShaped startShaped done, ?_⟩
  · intro count journal
    obtain ⟨left, taken, reached⟩ :=
      CyclicProximalPoint.run_takeCycles collected method journal count
    obtain ⟨after, folded⟩ := CyclicProximalPoint.gives_cycles_approach linear targetShaped
      startShaped squared standard count journal
    rw [folded] at taken reached
    exact ⟨left, after, taken, (reached _ rfl).1⟩
  · intro number first second limit tolerance criterion separate
    have obeys := Course.obeys_halts fits method collected linear targetShaped startShaped squared
      standard criterion separate
    rw [← met_halts]
    constructor
    · intro steps point after ended
      exact Course.solve_halts fits method collected linear targetShaped startShaped squared standard
        obeys ended
    · intro unwatched
      obtain ⟨iterations, least⟩ := exists_isLeast_haltingCycles limit tolerance
        (zipWith (· - ·) target before.2.state.iterate).length
      rw [← met_halts] at least
      exact ⟨iterations, least, fun steps enough => Course.exists_solve_halts fits method collected
        linear targetShaped startShaped squared standard obeys unwatched least enough⟩

section Sample

noncomputable section

def approachedPoint : Point ℝ := ofVector ![1, 0]

def distantPoint : Point ℝ := ofVector ![4, 4]

def approachingCriterion : Criterion ℝ :=
  .set 2 .any [.single 0 (.iterations (.integer 7)), .single 1 (.change (1 / 4))]

def approachingParameters : CyclicParameters ℝ where
  parameter := CyclicProximalPoint.standardParameter
  evaluationOrder := .linear
  key := .ofSeed 0

def approachingMemory : Memory ℝ :=
  ({}, ⟨{ clock := 0, criteria := List.replicate 3 ⟨"", none, 0⟩ }, {
    iterate := distantPoint
    criterion := some approachingCriterion
    method := .cyclic true approachingParameters }⟩)

def approachingCourse : Course ℝ where
  problem :=
    { manifold := plane
      objective := .total
      collection := some ⟨[.distance plane.geometry approachedPoint (.integer 2)], [1]⟩ }
  solver := .cyclicProximalPoint
  criterion := approachingCriterion
  decorators := []

end

theorem length_way : (zipWith (· - ·) approachedPoint distantPoint).length = 5 := by
  have way : zipWith (· - ·) approachedPoint distantPoint = ofVector ![-3, -4] := by
    have left : approachedPoint.hasShape [2] = true := hasShape_ofVector _
    have right : distantPoint.hasShape [2] = true := hasShape_ofVector _
    refine eq_of_vector (hasShape_zipWith left right _) (hasShape_ofVector _) ?_
    rw [vector_sub left right, approachedPoint, distantPoint, vector_ofVector, vector_ofVector,
      vector_ofVector]
    funext position
    fin_cases position <;> norm_num
  have square : ((ofVector ![(-3 : ℝ), -4]).map Scalar.square).sum = 5 * 5 := by
    rw [sum_eq_sum_entries, entries_map, entries_ofVector]
    norm_num [Scalar.square]
  rw [way, length, square]
  exact Real.sqrt_mul_self (by norm_num)

/-- The way is 5 long at the start. The fourth change, 5 / (4 * 5), is as large as the tolerance, and
the fifth is the first one that is less. -/
theorem sample_approaches_target :
    ∃ after, (solveWithin 9 approachingCourse.problem []).run approachingMemory =
        (.ok (approach approachedPoint distantPoint 5), after) ∧
      after.2.state.field? "iterations" = some (.integer 5) := by
  have built : Manifold.euclideanOf .strict ([2].map fun (extent : Nat) => .integer extent) =
      .ok plane := rfl
  have fits : approachingCourse.Fits approachingMemory.2.state := ⟨rfl, rfl⟩
  have separate : approachingCourse.criterion.Separate approachingMemory.2.workspace := by
    have leaves : approachingCourse.criterion.leaves =
        [(0, .iterations (.integer 7)), (1, .change (1 / 4))] := rfl
    refine ⟨by simp [leaves], ?_⟩
    rw [leaves]
    simp [approachingMemory]
  obtain ⟨distance, gives, _, _, _, stops⟩ := cycles_approach_target built fits rfl rfl rfl
    (hasShape_ofVector _) (hasShape_ofVector _) rfl rfl
  have long : distance = 5 := by
    have linear := (Manifold.flat_of_euclidean built).toLinearOn
    have known : (plane.geometry.dist distantPoint approachedPoint).Gives _ :=
      linear.dist (hasShape_ofVector _) (hasShape_ofVector _)
    obtain ⟨after, found⟩ := gives {}
    rw [known.unique ⟨_, _, found⟩]
    exact length_way
  obtain ⟨_, returns⟩ := stops 2 0 1 7 (1 / 4) rfl separate
  obtain ⟨iterations, least, solves⟩ := returns rfl
  have five : IsLeast (haltingCycles 7 (1 / 4) (5 : ℝ)) 5 := by
    refine ⟨⟨by norm_num, .inr (by norm_num)⟩, ?_⟩
    rintro cycle ⟨counted, limited | small⟩
    · omega
    · by_contra early
      interval_cases cycle <;> norm_num at small
  rw [long] at least
  cases least.unique five
  exact solves 9 (by norm_num)

end Sample

end ProximalSplitting

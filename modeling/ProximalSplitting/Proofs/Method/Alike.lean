import ProximalSplitting.Proofs.Method.Frames
import ProximalSplitting.Proofs.Purity.Problem
import ProximalSplitting.Solver.Loop

/-!
What a method reads of a state. Two states with one iterate and one method are alike to every
solver: preparing and stepping have the same outcome on both and leave them alike, whatever
criteria and counts they come with. The journals have to be the same too, unless everything that the
caller provides is pure.
-/

namespace ProximalSplitting

open Compute Effect Tracked

variable {S : Type}

structure SolverState.Alike (steady : Prop) (left right : SolverState S) : Prop where
  iterate : left.iterate = right.iterate
  method : left.method = right.method
  extras : left.extras = right.extras
  pure : steady → left.method.Pure

structure SolverState.Paired (criterion : Criterion S) (left right : SolverState S) : Prop where
  alike : left.Alike False right
  leftCriterion : left.criterion = some criterion
  rightCriterion : right.criterion = some criterion

abbrev Step.Steady {α : Type} (steady : Prop) (computation : Step S α) : Prop :=
  Mirrors (Beside steady (SolverState.Alike steady)) computation computation

theorem Method.Pure.changeCyclic {state : SolverState S} (pure : state.method.Pure)
    {change : CyclicParameters S → CyclicParameters S}
    (kept : ∀ parameters, (change parameters).parameter = parameters.parameter) :
    (state.changeCyclic change).method.Pure := by
  rw [SolverState.changeCyclic]
  split
  · rename_i derived parameters found
    constructor
    · intro schedule given
      refine pure.parameter schedule ?_
      rw [found, ← given]
      exact congrArg some (kept parameters).symm
    · intro schedule given
      cases given
    · intro parameters reflection given
      cases given
  · exact pure

theorem Method.Pure.changeSplitting {state : SolverState S} (pure : state.method.Pure)
    (driver : Point S) :
    (state.changeSplitting fun parameters => { parameters with driver }).method.Pure := by
  rw [SolverState.changeSplitting]
  split
  · rename_i parameters found
    constructor
    · intro schedule given
      refine pure.parameter schedule ?_
      rw [found, ← given]
      rfl
    · intro schedule given
      refine pure.relaxation schedule ?_
      rw [found, ← given]
      rfl
    · intro changed reflection given chosen
      cases given
      exact pure.reflection parameters reflection found chosen
  · exact pure

namespace SolverState.Alike

variable {steady : Prop} {left right : SolverState S} (alike : left.Alike steady right)
include alike

theorem withIterate (iterate : Point S) :
    (left.withIterate iterate).Alike steady (right.withIterate iterate) :=
  ⟨rfl, alike.method, alike.extras, alike.pure⟩

theorem dropExtra (name : String) :
    (left.dropExtra name).Alike steady (right.dropExtra name) := by
  refine ⟨alike.iterate, alike.method, ?_, alike.pure⟩
  rw [SolverState.dropExtra, SolverState.dropExtra, alike.extras]

theorem withIterations (iterations : Int) :
    (left.withIterations iterations).Alike steady (right.withIterations iterations) := by
  refine ⟨alike.iterate, alike.method, ?_, alike.pure⟩
  rw [SolverState.withIterations, SolverState.withIterations, alike.extras]

theorem changeCyclic {change : CyclicParameters S → CyclicParameters S}
    (kept : ∀ parameters, (change parameters).parameter = parameters.parameter) :
    (left.changeCyclic change).Alike steady (right.changeCyclic change) := by
  refine ⟨?_, ?_, ?_, fun isSteady => (alike.pure isSteady).changeCyclic kept⟩
  all_goals
    rw [SolverState.changeCyclic, SolverState.changeCyclic, alike.method]
    split
  · exact alike.iterate
  · exact alike.iterate
  · rfl
  · exact alike.method
  · exact alike.extras
  · exact alike.extras

theorem changeDriver (driver : Point S) :
    (left.changeSplitting fun parameters => { parameters with driver }).Alike steady
      (right.changeSplitting fun parameters => { parameters with driver }) := by
  refine ⟨?_, ?_, ?_, fun isSteady => (alike.pure isSteady).changeSplitting driver⟩
  all_goals
    rw [SolverState.changeSplitting, SolverState.changeSplitting, alike.method]
    split
  · exact alike.iterate
  · exact alike.iterate
  · rfl
  · exact alike.method
  · exact alike.extras
  · exact alike.extras

/-- States that are alike differ at most in the criterion and in the count of iterations. -/
theorem eq (criterion : left.criterion = right.criterion)
    (iterations : left.iterations = right.iterations) : left = right := by
  obtain ⟨iterate, method, extras, _⟩ := alike
  cases left
  cases right
  cases iterate
  cases method
  cases extras
  cases criterion
  cases iterations
  rfl

theorem parameterAt (iteration : Int) :
    right.parameterAt iteration = left.parameterAt iteration := by
  rw [SolverState.parameterAt, SolverState.parameterAt, alike.method]

theorem relaxationAt (iteration : Int) :
    right.relaxationAt iteration = left.relaxationAt iteration := by
  rw [SolverState.relaxationAt, SolverState.relaxationAt, alike.method]

end SolverState.Alike

theorem SolverState.pure_parameterAt {state : SolverState S} (pure : state.method.Pure)
    (iteration : Int) : (state.parameterAt iteration).Pure := by
  rw [parameterAt]
  cases given : state.method.parameter? with
  | none => exact pure_fail _
  | some schedule => exact pure.parameter schedule given iteration

theorem SolverState.pure_relaxationAt {state : SolverState S} (pure : state.method.Pure)
    (iteration : Int) : (state.relaxationAt iteration).Pure := by
  rw [relaxationAt]
  cases given : state.method.relaxation? with
  | none => exact pure_fail _
  | some schedule => exact pure.relaxation schedule given iteration

variable {steady : Prop}

theorem steady_withIterate (iterate : Point S) : Step.Steady steady
    (Tracked.update fun state : SolverState S => state.withIterate iterate) :=
  mirrors_update fun _ _ alike => alike.withIterate iterate

section Solvers

variable [Scalar S] {problem : Problem S}

theorem steady_mapCount : Step.Steady steady (liftM problem.mapCount : Step S Nat) :=
  mirrors_liftM fun _ => (pure_expect _ _).bind fun _ => pure_pure _

namespace CyclicProximalPoint

omit [Scalar S] in
theorem steady_parameters : Step.Steady steady (parameters : Step S (CyclicParameters S)) := by
  refine mirrors_read_bind fun before mirrored alike => ?_
  rw [alike.method]
  split
  · exact mirrors_pure _
  · exact mirrors_fail _

omit [Scalar S] in
theorem steady_setOrder (order : Option (List Nat)) :
    Step.Steady steady (setOrder order : Step S Unit) :=
  mirrors_update fun _ _ alike => (alike.dropExtra "order").changeCyclic fun _ => rfl

omit [Scalar S] in
theorem steady_drawOrder (count : Nat) :
    Step.Steady steady (drawOrder count : Step S (List Nat)) := by
  refine mirrors_bind steady_parameters fun parameters => ?_
  refine mirrors_bind (mirrors_update fun _ _ alike => ?_) fun _ => mirrors_pure _
  exact alike.changeCyclic fun _ => rfl

theorem steady_visitingOrder : Step.Steady steady (visitingOrder problem) := by
  refine mirrors_bind steady_mapCount fun count => ?_
  refine mirrors_bind steady_parameters fun parameters => ?_
  split
  · exact mirrors_pure _
  · exact mirrors_pure _
  · exact steady_drawOrder count

theorem pure_sweep (pure : problem.Pure) (parameter : S) (order : List Nat) (point : Point S) :
    (sweep problem parameter order point).Pure :=
  Pure.foldlM (fun point (index : Nat) => pure.prox parameter point index) order point

theorem steady_step (pure : steady → problem.Pure) (iteration : Int) :
    Step.Steady steady (step problem iteration) := by
  refine mirrors_read_bind fun before mirrored alike => ?_
  rw [alike.parameterAt, ← alike.iterate]
  refine mirrors_bind (mirrors_liftM fun isSteady =>
    SolverState.pure_parameterAt (alike.pure isSteady) iteration) fun parameter => ?_
  refine mirrors_bind steady_visitingOrder fun order => ?_
  refine mirrors_bind (steady_setOrder (some order)) fun _ => ?_
  refine mirrors_bind (mirrors_liftM fun isSteady =>
    pure_sweep (pure isSteady) parameter order _) fun point => ?_
  exact steady_withIterate point

end CyclicProximalPoint

namespace DouglasRachford

omit [Scalar S] in
theorem steady_parameters_bind {α : Type} {next : SplittingParameters S → Step S α}
    (rest : ∀ parameters, (steady → (Method.splitting parameters).Pure) →
      Step.Steady steady (next parameters)) :
    Step.Steady steady (parameters >>= next) := by
  rw [parameters, bind_assoc]
  refine mirrors_read_bind fun before mirrored alike => ?_
  have pure := alike.pure
  rw [← alike.method]
  split
  · rename_i parameters found
    rw [found] at pure
    rw [pure_bind]
    exact rest parameters pure
  · exact fun _ _ related => ⟨rfl, related⟩

theorem steady_prepare (pure : steady → problem.Pure) :
    Step.Steady steady (prepare problem) := by
  have averaged : Step.Steady steady (average problem) := by
    refine steady_parameters_bind fun parameters _ => mirrors_ite ?_ (mirrors_pure _)
    split
    · exact mirrors_fail _
    · exact mirrors_bind (mirrors_liftM fun isSteady =>
        (pure isSteady).manifold.coordinateMean _ _) steady_withIterate
  refine mirrors_bind steady_mapCount fun count => ?_
  exact mirrors_ite (mirrors_bind (mirrors_fail _) fun _ => averaged) averaged

theorem pure_doubleReflection (pure : problem.Pure) {reflect : Reflection S}
    (pureReflect : ∀ pivot point, (reflect pivot point).Pure) (parameter : S)
    (driver : Point S) : (doubleReflection problem reflect parameter driver).Pure :=
  (pure.prox parameter driver 0).bind fun firstPoint =>
    (pureReflect firstPoint driver).bind fun firstReflection =>
      (pure.prox parameter firstReflection 1).bind fun secondPoint =>
        (pureReflect secondPoint firstReflection).bind fun _ => pure_pure _

theorem pure_reflection {parameters : SplittingParameters S} (pure : problem.Pure)
    (pureMethod : (Method.splitting parameters).Pure) (pivot point : Point S) :
    (parameters.reflection.getD problem.manifold.geometry.reflect pivot point).Pure := by
  cases chosen : parameters.reflection with
  | none => exact pure.manifold.geometry.reflect pivot point
  | some reflection => exact pureMethod.reflection parameters reflection rfl chosen pivot point

theorem steady_step (pure : steady → problem.Pure) (iteration : Int) :
    Step.Steady steady (step problem iteration) := by
  refine mirrors_read_bind fun before mirrored alike => ?_
  rw [alike.parameterAt, alike.relaxationAt, ← alike.iterate]
  refine steady_parameters_bind fun parameters pureMethod => ?_
  refine mirrors_bind (mirrors_liftM fun isSteady =>
    SolverState.pure_parameterAt (alike.pure isSteady) iteration) fun parameter => ?_
  refine mirrors_bind (mirrors_liftM fun isSteady =>
    pure_doubleReflection (pure isSteady)
      (pure_reflection (pure isSteady) (pureMethod isSteady)) parameter
      parameters.driver) fun (point, reflection) => ?_
  refine mirrors_bind (mirrors_liftM fun isSteady =>
    SolverState.pure_relaxationAt (alike.pure isSteady) iteration) fun relaxation => ?_
  refine mirrors_bind (mirrors_liftM fun isSteady =>
    (pure isSteady).manifold.geometry.shortestGeodesic parameters.driver reflection
      relaxation) fun driver => ?_
  refine mirrors_bind (mirrors_update fun _ _ alike => alike.changeDriver driver) fun _ => ?_
  refine mirrors_ite ?_ ?_
  · exact mirrors_bind (mirrors_liftM fun isSteady =>
      (pure isSteady).manifold.coordinateMean _ _) steady_withIterate
  · exact mirrors_bind (mirrors_pure _) steady_withIterate

end DouglasRachford

theorem Solver.steady_of_state {state : SolverState S} {solver : Solver S}
    (found : Solver.ofState state = .ok solver) (pure : steady → problem.Pure) :
    Step.Steady steady (solver.prepare problem) ∧
      ∀ iteration, Step.Steady steady (solver.step problem iteration) := by
  rw [Solver.ofState] at found
  split at found
  · cases found
    exact ⟨CyclicProximalPoint.steady_setOrder none, CyclicProximalPoint.steady_step pure⟩
  · cases found
    exact ⟨DouglasRachford.steady_prepare pure, DouglasRachford.steady_step pure⟩
  · cases found
    refine ⟨mirrors_pure _, fun iteration => ?_⟩
    refine mirrors_update fun before mirrored alike => ?_
    rw [← alike.iterate]
    exact alike.withIterate _
  · cases found

end Solvers

end ProximalSplitting

import ProximalSplitting.Proofs.Effects.Laws
import ProximalSplitting.Solver.Loop

/-!
What no method touches, such as the criterion and the count of iterations of a state.
-/

namespace ProximalSplitting

open Tracked

variable {S : Type} [Scalar S]

/-- What the loop reads of a state and no method changes: the criterion, the count of iterations and
which solver works on the state. -/
def SolverState.loopFields (state : SolverState S) :
    Option (Criterion S) × Int × Option (Value S) × Except (Fault S) (Solver S) :=
  (state.criterion, state.iterations, state.extras.lookup "iterations", Solver.ofState state)

def SolverState.driver? (state : SolverState S) : Option (Point S) :=
  match state.method with
  | .splitting parameters => some parameters.driver
  | _ => none

namespace SolverState

theorem field_iterations_of_loopFields {left right : SolverState S}
    (same : left.loopFields = right.loopFields) :
    left.field? "iterations" = right.field? "iterations" := by
  have shown : left.iterations = right.iterations := congrArg (fun fields => fields.2.1) same
  have extra : left.extras.lookup "iterations" = right.extras.lookup "iterations" :=
    congrArg (fun fields => fields.2.2.1) same
  rw [SolverState.field?, SolverState.field?, shown, extra]

theorem loopFields_changeCyclic (state : SolverState S)
    (change : CyclicParameters S → CyclicParameters S) :
    (state.changeCyclic change).loopFields = state.loopFields := by
  rw [changeCyclic]
  split
  · rename_i found
    simp only [loopFields, Solver.ofState, found]
  · rfl

theorem loopFields_changeSplitting (state : SolverState S)
    (change : SplittingParameters S → SplittingParameters S) :
    (state.changeSplitting change).loopFields = state.loopFields := by
  rw [changeSplitting]
  split
  · rename_i found
    simp only [loopFields, Solver.ofState, found]
  · rfl

omit [Scalar S] in
theorem lookup_dropExtra (state : SolverState S) {name other : String}
    (different : other ≠ name) :
    (state.dropExtra name).extras.lookup other = state.extras.lookup other := by
  rw [dropExtra]
  induction state.extras with
  | nil => rfl
  | cons field rest ih =>
      by_cases dropped : field.1 = name
      · have absent : (other == field.1) = false := by simpa [dropped] using different
        rw [List.filter_cons_of_neg (by simpa using dropped), ih, List.lookup_cons, absent]
      · rw [List.filter_cons_of_pos (by simpa using dropped), List.lookup_cons, List.lookup_cons, ih]

theorem loopFields_dropOrder (state : SolverState S) :
    (state.dropExtra "order").loopFields = state.loopFields := by
  rw [loopFields, state.lookup_dropExtra (by decide)]
  rfl

end SolverState

structure SolverState.Lasting (invariant : SolverState S → Prop) : Prop where
  iterate : ∀ {state} iterate, invariant state → invariant (state.withIterate iterate)
  order : ∀ {state} order, invariant state →
    invariant ((state.dropExtra "order").changeCyclic fun parameters => { parameters with order })
  key : ∀ {state} key, invariant state →
    invariant (state.changeCyclic fun parameters => { parameters with key })
  driver : ∀ {state} driver, invariant state →
    invariant (state.changeSplitting fun parameters => { parameters with driver })

theorem SolverState.lasting_loopFields
    (fields : Option (Criterion S) × Int × Option (Value S) × Except (Fault S) (Solver S)) :
    SolverState.Lasting fun state => state.loopFields = fields where
  iterate := fun _ same => same
  order := fun _ same => by
    rw [SolverState.loopFields_changeCyclic, SolverState.loopFields_dropOrder, same]
  key := fun _ same => by rw [SolverState.loopFields_changeCyclic, same]
  driver := fun _ same => by rw [SolverState.loopFields_changeSplitting, same]

theorem SolverState.lasting_manifoldOf (problem : Problem S) :
    SolverState.Lasting fun state => state.manifoldOf problem = pure problem.manifold where
  iterate := fun _ same => same
  order := fun order same => by
    rw [SolverState.changeCyclic]
    split
    · rfl
    · exact same
  key := fun key same => by
    rw [SolverState.changeCyclic]
    split
    · rfl
    · exact same
  driver := fun driver same => by
    rw [SolverState.changeSplitting]
    split
    · rename_i method
      rw [SolverState.manifoldOf, method] at same
      exact same
    · exact same

def DouglasRachford.average (problem : Problem S) : Step S Unit := do
  let parameters ← parameters
  if parameters.parallel then
    match problem.manifold with
    | .ofGeometry geometry => Tracked.fail (.needsPowerManifold geometry.name)
    | .power _ _ _ =>
        let mean ← problem.manifold.coordinateMean parameters.driver none
        Tracked.update fun state => state.withIterate mean

section Solvers

variable {invariant : SolverState S → Prop} (lasting : SolverState.Lasting invariant)
  (problem : Problem S)

omit [Scalar S] in
include lasting in
theorem stays_withIterate (iterate : Point S) :
    Stays invariant (Tracked.update fun state => state.withIterate iterate : Step S Unit) :=
  stays_update fun _ => lasting.iterate iterate

namespace CyclicProximalPoint

omit [Scalar S] in
theorem stays_parameters : Stays invariant (parameters : Step S (CyclicParameters S)) := by
  refine stays_bind stays_read fun state => ?_
  split
  · exact stays_pure _
  · exact stays_fail _

theorem stays_visitingOrder (kept : ∀ {state} key, invariant state →
    invariant (state.changeCyclic fun parameters => { parameters with key })) :
    Stays invariant (visitingOrder problem) := by
  refine stays_bind (stays_liftM _) fun count => ?_
  refine stays_bind stays_parameters fun parameters => ?_
  split
  · exact stays_pure _
  · exact stays_pure _
  · refine stays_bind stays_parameters fun _ => ?_
    exact stays_bind (stays_update fun _ => kept _) fun _ => stays_pure _

include lasting in
theorem stays_step (iteration : Int) : Stays invariant (step problem iteration) := by
  refine stays_bind stays_read fun state => ?_
  refine stays_bind (stays_liftM _) fun parameter => ?_
  refine stays_bind (stays_visitingOrder problem lasting.key) fun order => ?_
  refine stays_bind (stays_update fun _ => lasting.order _) fun _ => ?_
  exact stays_bind (stays_liftM _) (stays_withIterate lasting)

end CyclicProximalPoint

namespace DouglasRachford

omit [Scalar S] in
theorem run_parameters {before : Journal × SolverState S} {found : SplittingParameters S}
    (method : before.2.method = .splitting found) :
    (parameters : Step S (SplittingParameters S)).run before = (.ok found, before) := by
  change (match before.2.method with
    | .splitting parameters => (pure parameters : Step S (SplittingParameters S))
    | _ => Tracked.fail .missingField).run before = _
  rw [method]
  rfl

omit [Scalar S] in
theorem stays_parameters : Stays invariant (parameters : Step S (SplittingParameters S)) := by
  refine stays_bind stays_read fun state => ?_
  split
  · exact stays_pure _
  · exact stays_fail _

include lasting

theorem stays_prepare : Stays invariant (prepare problem) := by
  have averaged : Stays invariant (average problem) := by
    refine stays_bind stays_parameters fun parameters => stays_ite ?_ (stays_pure _)
    split
    · exact stays_fail _
    · exact stays_bind (stays_liftM _) (stays_withIterate lasting)
  refine stays_bind (stays_liftM _) fun count => ?_
  exact stays_ite (stays_bind (stays_fail _) fun _ => averaged) averaged

theorem stays_step (iteration : Int) : Stays invariant (step problem iteration) := by
  refine stays_bind stays_read fun state => ?_
  refine stays_bind stays_parameters fun parameters => ?_
  refine stays_bind (stays_liftM _) fun parameter => ?_
  refine stays_bind (stays_liftM _) fun (point, reflection) => ?_
  refine stays_bind (stays_liftM _) fun relaxation => ?_
  refine stays_bind (stays_liftM _) fun driver => ?_
  refine stays_bind (stays_update fun _ => lasting.driver driver) fun _ => ?_
  exact stays_ite (stays_bind (stays_liftM _) (stays_withIterate lasting))
    (stays_bind (stays_pure _) (stays_withIterate lasting))

end DouglasRachford

include lasting in
theorem Solver.stays_of_state {state : SolverState S} {solver : Solver S}
    (found : Solver.ofState state = .ok solver) :
    Stays invariant (solver.prepare problem) ∧
      ∀ iteration, Stays invariant (solver.step problem iteration) := by
  rw [Solver.ofState] at found
  split at found
  · cases found
    exact ⟨stays_update fun _ => lasting.order none, CyclicProximalPoint.stays_step lasting problem⟩
  · cases found
    exact ⟨DouglasRachford.stays_prepare lasting problem, DouglasRachford.stays_step lasting problem⟩
  · cases found
    exact ⟨stays_pure _, fun _ => stays_update fun _ => lasting.iterate _⟩
  · cases found

theorem Solver.keeps_loopFields {state : SolverState S} {solver : Solver S}
    (found : Solver.ofState state = .ok solver) :
    Keeps SolverState.loopFields (solver.prepare problem) ∧
      ∀ iteration, Keeps SolverState.loopFields (solver.step problem iteration) :=
  have stays := fun fields =>
    Solver.stays_of_state (SolverState.lasting_loopFields fields) problem found
  ⟨.of_stays fun fields => (stays fields).1,
    fun iteration => .of_stays fun fields => (stays fields).2 iteration⟩

end Solvers

end ProximalSplitting

import ProximalSplitting.Proofs.Method.Rearrangement
import ProximalSplitting.Proofs.Run.Capped
import ProximalSplitting.Proofs.Run.Coupling

/-!
Minimizing the same functions in another order. Parallel splitting on flat space takes as many
iterations, shows the same iterates and returns the same point, and its driver has the same
components in the other order.
-/

namespace ProximalSplitting

open Compute Effect Tracked DouglasRachford

variable {S : Type} [ExactScalar S]

namespace DouglasRachford

def DriversRearranged (order : List Nat) (left right : SolverState S) : Prop :=
  ∃ component : Nat → Point S,
    left.driver? = some (.stack ((List.range order.length).map component)) ∧
    right.driver? = some (.stack (order.map component))

theorem Rearranged.drivers_rearranged {task : Task S} {order shape : List Nat}
    {parameter relaxation : Schedule S} {left right : SolverState S}
    (related : Rearranged task order shape parameter relaxation left right)
    (perm : order.Perm (List.range task.maps.length)) : DriversRearranged order left right := by
  obtain ⟨component, _, leftMethod, rightMethod⟩ := related.drivers
  refine ⟨component, ?_, ?_⟩
  · rw [SolverState.driver?, leftMethod, length_of_perm perm]
    rfl
  · rw [SolverState.driver?, rightMethod, ← map_place perm]
    rfl

end DouglasRachford

namespace Course

variable {task : Task S} {order shape : List Nat} {parameter relaxation : Schedule S}
  {criterion : Criterion S}

def Beginning (task : Task S) (order : List Nat) (parameter relaxation : Schedule S)
    (criterion : Criterion S) (left right : Memory S) : Prop :=
  left.2.state = coupledState task parameter relaxation criterion ∧
    right.2.state = coupledState (rearranged task order) parameter relaxation criterion ∧
    Workspace.Agree [] [] left.2.workspace right.2.workspace

abbrev Rearranging (task : Task S) (order shape : List Nat) (parameter relaxation : Schedule S)
    (criterion : Criterion S) : Memory S → Memory S → Prop :=
  Beside True (Session.Along (Rearranged task order shape parameter relaxation)
    (Workspace.Agree criterion.numbers criterion.leaves))

variable (plain : StraightTask task shape) (perm : order.Perm (List.range task.maps.length))
include plain perm

omit perm in
theorem performs_prepare_begun {first : Memory S}
    (begins : first.2.state = coupledState task parameter relaxation criterion) :
    ∃ last, (coupledCourse task criterion []).Performs [.prepare] first
      (last, { first.2 with state := first.2.state.withIterate task.start }) :=
  performs_prepare_coupled rfl rfl plain.straight plain.positive plain.several plain.shaped
    (congrArg SolverState.method begins)

theorem carries_rearranged_prepare :
    Carries (Beginning task order parameter relaxation criterion)
      (Beside True (Session.Along (Rearranged task order shape parameter relaxation)
        (Workspace.Agree [] [])))
      ((coupledCourse task criterion []).perform .prepare)
      ((coupledCourse (rearranged task order) criterion []).perform .prepare) := by
  rintro before mirrored _ after ⟨isLeft, isRight, agree⟩ ran
  obtain ⟨journal, prepares⟩ := performs_prepare_begun plain isLeft
  obtain ⟨journal', prepares'⟩ := performs_prepare_begun (plain.rearranged perm) isRight
  obtain ⟨_, performed, ended⟩ := performs_cons.mp prepares
  obtain ⟨_, performed', ended'⟩ := performs_cons.mp prepares'
  cases performs_nil.mp ended
  cases performs_nil.mp ended'
  cases ran.symm.trans performed
  refine ⟨_, performed', .inr trivial, ⟨rfl, ?_, fun _ => task.start, fun _ _ => plain.shaped, ?_, ?_⟩,
    agree⟩
  · rw [isLeft, isRight]
    rfl
  · rw [isLeft]
    rfl
  · rw [isRight, coupledState, length_maps_rearranged perm]
    rfl

omit plain perm in
theorem carries_rearranged_check_zero :
    Carries (Beside True (Session.Along (Rearranged task order shape parameter relaxation)
        (Workspace.Agree [] []))) (Rearranging task order shape parameter relaxation criterion)
      ((coupledCourse task criterion []).perform (.check 0))
      ((coupledCourse (rearranged task order) criterion []).perform (.check 0)) := by
  rintro before mirrored _ after ⟨_, related, agree⟩ ran
  have criteria : (coupledCourse task criterion []).criterion =
      (coupledCourse (rearranged task order) criterion []).criterion := rfl
  cases ran.symm.trans (run_perform_check_zero _ before)
  exact ⟨_, run_perform_check_zero _ mirrored, .inr trivial, related,
    agree_renewed criteria related.iterate agree⟩

variable (pureParameter : parameter.Pure) (pureRelaxation : relaxation.Pure)
include pureParameter pureRelaxation

theorem accompanied_rearranged :
    Accompanied (Beginning task order parameter relaxation criterion)
      (Rearranging task order shape parameter relaxation criterion) (coupledCourse task criterion [])
      (coupledCourse (rearranged task order) criterion []) where
  leftUnwatched := rfl
  rightUnwatched := rfl
  opening := by
    refine carries_bind (carries_rearranged_prepare plain perm) fun _ => ?_
    exact carries_bind carries_rearranged_check_zero fun _ => carries_pure ()
  step := fun done => Run.carries_step
    (carries_rearranged_step plain perm pureParameter pureRelaxation (done + 1 : Nat))
  check := by
    intro done
    have later : ((done + 1 : Nat) : Int) ≠ 0 := by omega
    exact (Run.mirrors_watch fun _ _ related =>
      Criterion.check_mirrors (related.judged plain perm criterion.leaves) later criterion
        (fun _ member => member) fun _ member => member).carries

def BothStopped (task : Task S) (order shape : List Nat) (parameter relaxation : Schedule S)
    (left right : Memory S) : Prop :=
  Rearranged task order shape parameter relaxation left.2.state right.2.state ∧
    ∃ iterations : Nat, left.2.state.field? "iterations" = some (.integer iterations) ∧
      right.2.state.field? "iterations" = some (.integer iterations)

omit plain perm pureParameter pureRelaxation in
theorem carries_rearranged_close (iterations : Nat) :
    Carries (Rearranging task order shape parameter relaxation criterion)
      (BothStopped task order shape parameter relaxation)
      ((coupledCourse task criterion []).close iterations)
      ((coupledCourse (rearranged task order) criterion []).close iterations) := by
  rintro before mirrored _ after ⟨_, related, _⟩ ran
  have closed : ((coupledCourse (rearranged task order) criterion []).close iterations).run mirrored =
      _ := run_close_unwatched rfl iterations mirrored
  have shown : (coupledCourse (rearranged task order) criterion []).solver.result
      (mirrored.2.state.withIterations iterations) = before.2.state.iterate := related.iterate.symm
  rw [run_close_unwatched rfl] at ran
  cases ran
  rw [shown] at closed
  refine ⟨_, closed, ⟨related.iterate, ?_, related.drivers⟩, iterations, ?_, ?_⟩
  · exact congrArg (List.filter fun field => field.1 ≠ "iterations") related.extras
  · exact SolverState.iterations_withIterations _ iterations
  · exact SolverState.iterations_withIterations _ iterations

theorem carries_rearranged_whole (steps : Nat) :
    Carries (Beginning task order parameter relaxation criterion)
      (BothStopped task order shape parameter relaxation)
      ((coupledCourse task criterion []).whole steps)
      ((coupledCourse (rearranged task order) criterion []).whole steps) :=
  (accompanied_rearranged plain perm pureParameter pureRelaxation).carries_whole
    carries_rearranged_close steps

theorem carries_rearranged_callsUntilStep (iteration : Nat) :
    Carries (Beginning task order parameter relaxation criterion)
      (fun left right => Rearranged task order shape parameter relaxation left.2.state right.2.state)
      ((coupledCourse task criterion []).performAll
        ((coupledCourse task criterion []).callsUntilStep iteration))
      ((coupledCourse (rearranged task order) criterion []).performAll
        ((coupledCourse (rearranged task order) criterion []).callsUntilStep iteration)) := by
  cases iteration with
  | zero =>
      rintro before mirrored _ after begins ran
      obtain ⟨after', ran', _, related, _⟩ := carries_bind (carries_rearranged_prepare plain perm)
        (fun _ => carries_pure ()) begins ran
      exact ⟨after', ran', related⟩
  | succ done =>
      rintro before mirrored _ after begins ran
      obtain ⟨after', ran', _, related, _⟩ := (accompanied_rearranged plain perm pureParameter
        pureRelaxation).carries_callsUntilStep done begins ran
      exact ⟨after', ran', related⟩

end Course

namespace DouglasRachford

variable {task : Task S} {order shape : List Nat} {settings : Settings S}
  {before : Journal × Workspace S}

structure Accompanies (task : Task S) (order : List Nat) (settings : Settings S)
    (before : Journal × Workspace S) : Prop where
  returns : ∀ {found}, ((minimize task settings {}).run before).1 = .ok found →
    ∃ other, ((minimize (rearranged task order) settings {}).run before).1 = .ok other ∧
      found.point = other.point ∧ DriversRearranged order found.state other.state ∧
      ∃ iterations : Nat, found.state.field? "iterations" = some (.integer iterations) ∧
        other.state.field? "iterations" = some (.integer iterations) ∧
        ∀ iteration ≤ iterations, ∃ state, Reaches task settings before iteration state
  reaches : ∀ {iteration state}, Reaches task settings before iteration state →
    ∃ other, Reaches (rearranged task order) settings before iteration other ∧
      state.iterate = other.iterate ∧ DriversRearranged order state other

section Accompanying

variable (plain : StraightTask task shape) (several : 3 ≤ task.maps.length)
  (standard : settings.reflection = none)
  (pureParameter : ∀ schedule,
    scheduleOr SolverDefaults.proximalParameter settings.parameter = .ok schedule → schedule.Pure)
  (pureRelaxation : ∀ schedule,
    scheduleOr SolverDefaults.relaxation settings.relaxation = .ok schedule → schedule.Pure)
  (perm : order.Perm (List.range task.maps.length))
include plain several standard pureParameter pureRelaxation perm

/-- Neither call gets to a run, or both begin at the same point. -/
theorem launches_rearranged_cases (before : Journal × Workspace S) :
    (∃ fault, ((launch task settings).run before).1 = .error fault ∧
      ((launch (rearranged task order) settings).run before).1 = .error fault) ∨
    ∃ criterion parameter relaxation first mirrored,
      Launches task settings before (coupledCourse task criterion []) first ∧
      Launches (rearranged task order) settings before
        (coupledCourse (rearranged task order) criterion []) mirrored ∧
      Schedule.Pure parameter ∧ Schedule.Pure relaxation ∧
      Course.Beginning task order parameter relaxation criterion first mirrored := by
  have several' : 3 ≤ (rearranged task order).maps.length := by
    rwa [length_maps_rearranged perm]
  obtain ⟨journal, launched⟩ :=
    run_launch_coupled plain.positive several plain.shaped settings before
  obtain ⟨journal', launched'⟩ :=
    run_launch_coupled plain.positive several' plain.shaped settings before
  have any : ∀ criterion ∈ settings.criterion, True := fun _ _ => trivial
  rcases start_cases (fun _ => True) any (fun _ => trivial) before.2 with
    ⟨fault, after, failed⟩ | ⟨criterion, parameter, relaxation, after, _, chosen, relaxed, started⟩
  · rw [launched, launched', run_bind_of_error (failed _ _ _), run_bind_of_error (failed _ _ _)]
    exact .inl ⟨fault, rfl, rfl⟩
  · rw [run_bind_of_ok (started _ _ _)] at launched launched'
    refine .inr ⟨criterion, parameter, relaxation, _, _,
      ⟨_, _, _, launched, ⟨rfl, rfl⟩, rfl, rfl⟩, ⟨_, _, _, launched', ⟨rfl, rfl⟩, rfl, rfl⟩,
      pureParameter _ chosen, pureRelaxation _ relaxed, ?_, ?_, .of_judging rfl⟩
    · rw [standard]
      rfl
    · rw [standard]
      rfl

theorem accompanies_rearranged (before : Journal × Workspace S) :
    Accompanies task order settings before := by
  rcases launches_rearranged_cases plain several standard pureParameter pureRelaxation perm before
    with ⟨fault, failed, _⟩ | ⟨criterion, parameter, relaxation, first, mirrored, launches, launches',
      isPure, isPureToo, begins⟩
  · obtain ⟨ended, nowhere⟩ := run_minimize_of_error failed
    refine ⟨fun found => ?_, fun reached => absurd reached (nowhere _ _)⟩
    cases ended.symm.trans found
  · constructor
    · intro found ended
      obtain ⟨iterations, isCount, reached⟩ := exists_reached launches ended
      rcases ran : ((coupledCourse task criterion []).whole stepBudget).run first with
        ⟨outcome, last⟩
      rw [launches.run_minimize, ran] at ended
      cases outcome with
      | error fault => cases ended
      | ok point =>
          cases ended
          obtain ⟨last', ran', related, _, counted, counted'⟩ := Course.carries_rearranged_whole
            plain perm isPure isPureToo stepBudget begins ran
          cases isCount.symm.trans counted
          refine ⟨⟨point, last'.2.state, []⟩, ?_, rfl, related.drivers_rearranged perm, iterations,
            isCount, counted', reached⟩
          rw [launches'.run_minimize, ran']
          rfl
    · intro iteration state reached
      obtain ⟨after, performed, rfl⟩ := (reaches_iff launches).mp reached
      obtain ⟨after', performed', related⟩ := Course.carries_rearranged_callsUntilStep plain perm
        isPure isPureToo iteration begins performed
      exact ⟨_, (reaches_iff launches').mpr ⟨after', performed', rfl⟩, related.iterate,
        related.drivers_rearranged perm⟩

/-- The order can be undone, so that the first call also does what the second one does. -/
theorem accompanies_undone (before : Journal × Workspace S) :
    ∃ back, rearranged (rearranged task order) back = task ∧
      Accompanies (rearranged task order) back settings before := by
  obtain ⟨back, backPerm, undoes⟩ := exists_undoing perm
  have length := length_maps_rearranged perm
  refine ⟨back, ?_, ?_⟩
  · rw [rearranged, rearranged, CyclicProximalPoint.arranged_undone perm backPerm undoes]
  · rw [← length] at backPerm
    exact accompanies_rearranged (plain.rearranged perm) (by omega) standard pureParameter
      pureRelaxation backPerm before

end Accompanying

structure IgnoresOrder (task : Task S) (order : List Nat) (settings : Settings S)
    (before : Journal × Workspace S) : Prop where
  succeeds : (∃ found, ((minimize task settings {}).run before).1 = .ok found) ↔
    ∃ other, ((minimize (rearranged task order) settings {}).run before).1 = .ok other
  returns : ∀ {found other}, ((minimize task settings {}).run before).1 = .ok found →
    ((minimize (rearranged task order) settings {}).run before).1 = .ok other →
      found.point = other.point ∧ DriversRearranged order found.state other.state ∧
      ∃ iterations : Nat, found.state.field? "iterations" = some (.integer iterations) ∧
        other.state.field? "iterations" = some (.integer iterations) ∧
        ∀ iteration ≤ iterations, ∃ state, Reaches task settings before iteration state
  reaches : ∀ iteration, (∃ state, Reaches task settings before iteration state) ↔
    ∃ other, Reaches (rearranged task order) settings before iteration other
  shows : ∀ {iteration state other}, Reaches task settings before iteration state →
    Reaches (rearranged task order) settings before iteration other →
      state.iterate = other.iterate ∧ DriversRearranged order state other

/-- Splitting more than two functions on Euclidean space does not care about the order of their
proximal maps, whatever the schedules and the criterion, as long as all functions are pure and the
reflection is the standard one. -/
theorem splitting_ignores_order {strictness : Strictness}
    (built : Manifold.euclideanOf strictness (shape.map fun (extent : Nat) => .integer extent) =
      .ok task.manifold)
    (shaped : task.start.hasShape shape = true) (several : 3 ≤ task.maps.length)
    (keeps : KeepShape task.maps shape) (pure : PureTask task)
    (standard : settings.reflection = none)
    (pureParameter : ∀ schedule,
      scheduleOr SolverDefaults.proximalParameter settings.parameter = .ok schedule → schedule.Pure)
    (pureRelaxation : ∀ schedule,
      scheduleOr SolverDefaults.relaxation settings.relaxation = .ok schedule → schedule.Pure)
    (perm : order.Perm (List.range task.maps.length)) (before : Journal × Workspace S) :
    IgnoresOrder task order settings before := by
  obtain ⟨_, straight⟩ := checked_of_euclidean built
  have plain : StraightTask task shape := ⟨straight, positive_of_euclidean built,
    Manifold.pure_of_euclidean built, by omega, shaped, keeps, pure⟩
  have along := accompanies_rearranged plain several standard pureParameter pureRelaxation perm before
  obtain ⟨back, undone, alongBack⟩ := accompanies_undone plain several standard pureParameter
    pureRelaxation perm before
  refine ⟨⟨?_, ?_⟩, ?_, fun iteration => ⟨?_, ?_⟩, ?_⟩
  · rintro ⟨found, ended⟩
    obtain ⟨other, ended', _⟩ := along.returns ended
    exact ⟨other, ended'⟩
  · rintro ⟨other, ended'⟩
    obtain ⟨found, ended, _⟩ := alongBack.returns ended'
    rw [undone] at ended
    exact ⟨found, ended⟩
  · intro found other ended ended'
    obtain ⟨other', again, same⟩ := along.returns ended
    cases again.symm.trans ended'
    exact same
  · rintro ⟨state, reached⟩
    obtain ⟨other, reached', _⟩ := along.reaches reached
    exact ⟨other, reached'⟩
  · rintro ⟨other, reached'⟩
    obtain ⟨state, reached, _⟩ := alongBack.reaches reached'
    rw [undone] at reached
    exact ⟨state, reached⟩
  · intro iteration state other reached reached'
    obtain ⟨other', again, iterate, drivers⟩ := along.reaches reached
    rw [reached'.unique again]
    exact ⟨iterate, drivers⟩

section Sample

def slopedSettings : Settings ℚ where
  criterion := some
    (.set 2 .any [.single 0 (.iterations (.integer 4)), .single 1 (.gradientNorm (1 / 10))])
  parameter := some (.inl (Schedule.affine 1 2))

def slopedMemory : Journal × Workspace ℚ :=
  ({}, { clock := 0, criteria := List.replicate 3 ⟨"", none, 0⟩ })

theorem sample_pureTask : PureTask sampleTask where
  maps := by
    simp only [sampleTask, List.forall_mem_cons]
    exact ⟨fun _ _ => pure_pure _, fun _ _ => pure_pure _, fun _ _ => pure_pure _, by simp⟩
  cost := fun _ => pure_pure _
  derivative := fun _ => pure_pure _

theorem sample_ignores_order :
    [2, 0, 1].Perm (List.range 3) ∧
      ((minimize sampleTask slopedSettings {}).run slopedMemory).1.isOk = true ∧
      IgnoresOrder sampleTask [2, 0, 1] slopedSettings slopedMemory := by
  have built : Manifold.euclideanOf .strict
      ([1].map fun (extent : Nat) => (.integer extent : Value ℚ)) = .ok sampleTask.manifold := rfl
  have perm : [2, 0, 1].Perm (List.range 3) := by decide
  refine ⟨perm, by decide +kernel, ?_⟩
  refine splitting_ignores_order built rfl (by decide) sample_keepShape sample_pureTask rfl ?_ ?_
    perm slopedMemory
  · intro schedule chosen
    cases chosen
    exact fun _ => pure_pure _
  · intro schedule chosen
    cases chosen
    exact fun _ => pure_pure _

end Sample

end DouglasRachford

end ProximalSplitting

import ProximalSplitting.Proofs.Method.Renewal
import ProximalSplitting.Proofs.Run.Paths
import ProximalSplitting.Solver.Minimize

/-!
Minimizing in one call as launching a run: the problem and the first state are made from a task and
settings, and what the call returns is what a run from there leaves.
-/

namespace ProximalSplitting

open Effect Tracked

variable {S : Type} [Scalar S]

section Alone

variable {α : Type} {state : SolverState S} {computation : Run S α} {journal : Journal}
  {workspace : Workspace S} {left : Memory S}

omit [Scalar S] in
theorem Run.run_onState_of {outcome : Except (Fault S) α}
    (ran : computation.run (journal, ⟨workspace, state⟩) = (outcome, left)) :
    (Run.onState state computation).run (journal, workspace) =
      (outcome.map fun value => (left.2.state, value), (left.1, left.2.workspace)) := by
  have parts : (Run.onState state computation).run (journal, workspace) =
      ((computation.run (journal, ⟨workspace, state⟩)).1.map fun value =>
        ((computation.run (journal, ⟨workspace, state⟩)).2.2.state, value),
        ((computation.run (journal, ⟨workspace, state⟩)).2.1,
          (computation.run (journal, ⟨workspace, state⟩)).2.2.workspace)) := rfl
  rw [parts, ran]

omit [Scalar S] in
theorem Run.exists_of_onState {result : SolverState S × α} {after : Journal × Workspace S}
    (ended : (Run.onState state computation).run (journal, workspace) = (.ok result, after)) :
    ∃ left : Memory S, computation.run (journal, ⟨workspace, state⟩) = (.ok result.2, left) ∧
      result.1 = left.2.state := by
  rcases ran : computation.run (journal, ⟨workspace, state⟩) with ⟨outcome, left⟩
  rw [Run.run_onState_of ran] at ended
  cases outcome with
  | error fault => cases ended
  | ok value =>
      cases ended
      exact ⟨left, rfl, rfl⟩

end Alone

namespace DouglasRachford

section Starting

variable {settings : Settings S}

variable (allowed : Criterion S → Prop) (given : ∀ criterion ∈ settings.criterion, allowed criterion)
  (standard : ∀ number, allowed
    (.single number (.iterations (.integer SolverDefaults.splittingIterations))))
include given standard

theorem exists_criterion (workspace : Workspace S) :
    ∃ criterion after, allowed criterion ∧ ∀ journal,
      (settings.criterion.elim standardCriterion pure : Watch S (Criterion S)).run
        (journal, workspace) = (.ok criterion, (journal, after)) := by
  cases chosen : settings.criterion with
  | some criterion => exact ⟨criterion, workspace, given criterion chosen, fun _ => rfl⟩
  | none => exact ⟨_, _, standard workspace.criteria.length, fun _ => rfl⟩

/-- What a start makes of its settings, or how it fails, does not depend on the point, on the
journal and on whether the run is parallel. -/
theorem start_cases (workspace : Workspace S) :
    (∃ fault after, ∀ point parallel journal,
      (start point { settings with parallel }).run (journal, workspace) =
        (.error fault, (journal, after))) ∨
    ∃ criterion parameter relaxation after, allowed criterion ∧
      scheduleOr SolverDefaults.proximalParameter settings.parameter = .ok parameter ∧
      scheduleOr SolverDefaults.relaxation settings.relaxation = .ok relaxation ∧
      ∀ point parallel journal,
        (start point { settings with parallel }).run (journal, workspace) =
          (.ok {
            iterate := point
            criterion := some criterion
            method := .splitting
              ⟨point, parameter, relaxation, settings.reflection, parallel⟩ },
            (journal, after)) := by
  obtain ⟨criterion, after, isAllowed, made⟩ := exists_criterion allowed given standard workspace
  cases chosen : scheduleOr SolverDefaults.proximalParameter settings.parameter with
  | error fault =>
      refine .inl ⟨fault, after, fun point parallel journal => ?_⟩
      rw [start_eq, run_bind_of_ok (made journal), chosen]
      rfl
  | ok parameter =>
      cases relaxed : scheduleOr SolverDefaults.relaxation settings.relaxation with
      | error fault =>
          refine .inl ⟨fault, after, fun point parallel journal => ?_⟩
          rw [start_eq, run_bind_of_ok (made journal), chosen, relaxed]
          rfl
      | ok relaxation =>
          refine .inr ⟨criterion, parameter, relaxation, after, isAllowed, rfl, rfl,
            fun point parallel journal => ?_⟩
          rw [start_eq, run_bind_of_ok (made journal), chosen, relaxed]
          rfl

end Starting

def launch (task : Task S) (settings : Settings S) : Watch S (Problem S × SolverState S) :=
  if task.maps.length < 2 then Tracked.fail (.needsAtLeastTwoMaps task.maps.length)
  else if task.maps.length = 2 then do
    let problem ← Tracked.compute (Problem.ofMaps task.manifold task.objective task.maps .null)
    let state ← start task.start { settings with parallel := false }
    return (problem, state)
  else do
    let outer := Manifold.power task.manifold task.maps.length
    let problem ← Tracked.compute (parallelProblem task outer)
    let driver ← Tracked.compute (outer.diagonal task.start)
    let state ← start driver { settings with parallel := true }
    return (problem, state)

theorem minimize_eq (task : Task S) (settings : Settings S) (watchers : Decorator.Watchers S) :
    minimize task settings watchers =
      launch task settings >>= fun (problem, state) => solveWatched problem state watchers := by
  rw [minimize, launch]
  split
  · rfl
  · split
    · simp only [minimizePair, bind_assoc, pure_bind]
    · simp only [minimizeParallel, bind_assoc, pure_bind]

def Launches (task : Task S) (settings : Settings S) (before : Journal × Workspace S)
    (course : Course S) (first : Memory S) : Prop :=
  ∃ state journal workspace,
    (launch task settings).run before = (.ok (course.problem, state), (journal, workspace)) ∧
      course.Fits state ∧ course.decorators = [] ∧ first = course.begin (journal, ⟨workspace, state⟩)

def Reaches (task : Task S) (settings : Settings S) (before : Journal × Workspace S)
    (iteration : Nat) (state : SolverState S) : Prop :=
  ∃ course first after, Launches task settings before course first ∧
    course.Performs (course.callsUntilStep iteration) first after ∧ after.2.state = state

variable {task : Task S} {settings : Settings S} {before : Journal × Workspace S}
  {course : Course S} {first : Memory S}

theorem Launches.unique (launches : Launches task settings before course first)
    {course' : Course S} {first' : Memory S}
    (launches' : Launches task settings before course' first') :
    course' = course ∧ first' = first := by
  obtain ⟨state, journal, workspace, ran, fits, unwatched, rfl⟩ := launches
  obtain ⟨state', journal', workspace', ran', fits', unwatched', rfl⟩ := launches'
  obtain ⟨problem, solver, criterion, decorators⟩ := course
  obtain ⟨problem', solver', criterion', decorators'⟩ := course'
  cases ran.symm.trans ran'
  cases fits.solver.symm.trans fits'.solver
  cases fits.criterion.symm.trans fits'.criterion
  cases unwatched
  cases unwatched'
  exact ⟨rfl, rfl⟩

theorem Launches.run_minimize (launches : Launches task settings before course first) :
    (minimize task settings {}).run before =
      (((course.whole stepBudget).run first).1.map fun point =>
          ⟨point, ((course.whole stepBudget).run first).2.2.state, []⟩,
        (((course.whole stepBudget).run first).2.1,
          ((course.whole stepBudget).run first).2.2.workspace)) := by
  obtain ⟨state, journal, workspace, ran, fits, unwatched, rfl⟩ := launches
  have begun : course.Fits ((journal, ⟨workspace, state⟩) : Memory S).2.state := fits
  have solved := Course.run_solveWithin stepBudget begun
  rcases ended : (course.whole stepBudget).run (course.begin (journal, ⟨workspace, state⟩))
    with ⟨outcome, after⟩
  rw [ended, unwatched] at solved
  have unwatchedRan : (Decorator.ofWatchers {}).run (journal, workspace) =
      (.ok ([] : List (Decorator S)), (journal, workspace)) := rfl
  have onState := Run.run_onState_of solved
  rw [minimize_eq]
  refine (run_bind_of_ok ran).trans ?_
  refine (run_bind_of_ok unwatchedRan).trans ?_
  cases outcome with
  | error fault => exact run_bind_of_error onState
  | ok point => exact run_bind_of_ok onState

theorem run_minimize_of_error {fault : Fault S}
    (failed : ((launch task settings).run before).1 = .error fault) :
    ((minimize task settings {}).run before).1 = .error fault ∧
      ∀ iteration state, ¬ Reaches task settings before iteration state := by
  rcases launched : (launch task settings).run before with ⟨outcome, after⟩
  rw [launched] at failed
  cases failed
  constructor
  · rw [minimize_eq, run_bind_of_error launched]
  · rintro iteration state ⟨course, first, reached, ⟨_, _, _, launched', _⟩, _⟩
    cases launched.symm.trans launched'

theorem reaches_iff (launches : Launches task settings before course first) {iteration : Nat}
    {state : SolverState S} :
    Reaches task settings before iteration state ↔
      ∃ after, course.Performs (course.callsUntilStep iteration) first after ∧
        after.2.state = state := by
  constructor
  · rintro ⟨course', first', after, launches', performed, same⟩
    obtain ⟨rfl, rfl⟩ := launches.unique launches'
    exact ⟨after, performed, same⟩
  · rintro ⟨after, performed, same⟩
    exact ⟨course, first, after, launches, performed, same⟩

theorem Reaches.unique {iteration : Nat} {state other : SolverState S}
    (reached : Reaches task settings before iteration state)
    (reached' : Reaches task settings before iteration other) : state = other := by
  obtain ⟨course, first, after, launches, performed, rfl⟩ := reached
  obtain ⟨after', performed', rfl⟩ := (reaches_iff launches).mp reached'
  rw [Course.performs_unique performed performed']

theorem exists_reaches_iff (launches : Launches task settings before course first)
    {iteration : Nat} :
    (∃ state, Reaches task settings before iteration state) ↔
      ((course.performAll (course.callsUntilStep iteration)).run first).1 = .ok () := by
  constructor
  · rintro ⟨state, reached⟩
    obtain ⟨after, performed, _⟩ := (reaches_iff launches).mp reached
    exact congrArg Prod.fst performed
  · intro succeeds
    exact ⟨_, (reaches_iff launches).mpr ⟨_, Prod.ext succeeds rfl, rfl⟩⟩

theorem exists_reached (launches : Launches task settings before course first)
    {minimizer : Minimizer S}
    (ended : ((minimize task settings {}).run before).1 = .ok minimizer) :
    ∃ iterations : Nat, minimizer.state.field? "iterations" = some (.integer iterations) ∧
      ∀ iteration ≤ iterations, ∃ state, Reaches task settings before iteration state := by
  rcases ran : (course.whole stepBudget).run first with ⟨outcome, after⟩
  rw [launches.run_minimize, ran] at ended
  cases outcome with
  | error fault => cases ended
  | ok point =>
      cases ended
      cases Course.whole_ends ran with
      | @closed iterations last _ _ bound stopped closed =>
          refine ⟨iterations, ?_, fun iteration early => ?_⟩
          · rw [(Course.close_ok closed).1]
            exact SolverState.iterations_withIterations _ iterations
          · exact ⟨_, (reaches_iff launches).mpr ⟨_, stopped.performs_step early, rfl⟩⟩

end DouglasRachford

end ProximalSplitting

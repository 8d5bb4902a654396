import ProximalSplitting.Proofs.Run.Paths
import ProximalSplitting.Proofs.Run.Sample

/-!
Watching does not influence a run. Everything that watches a state, its criterion and the decorators
around it with all that they remember, is an audience; the same state can be run before any audience.
-/

namespace ProximalSplitting

open Tracked

structure Audience (S : Type) [Scalar S] where
  criterion : Criterion S
  decorators : List (Decorator S)
  journal : Journal
  workspace : Workspace S

namespace Audience

variable {S : Type} [Scalar S] (audience : Audience S) (problem : Problem S)

def course (solver : Solver S) : Course S :=
  ⟨problem, solver, audience.criterion, audience.decorators⟩

def before (state : SolverState S) : Memory S :=
  (audience.journal, ⟨audience.workspace, { state with criterion := some audience.criterion }⟩)

def run (state : SolverState S) (steps : Nat) : Except (Fault S) (Point S) × Memory S :=
  (solveWithin steps problem audience.decorators).run (audience.before state)

def first (solver : Solver S) (state : SolverState S) : Memory S :=
  (audience.course problem solver).begin (audience.before state)

def stateAfter (solver : Solver S) (state : SolverState S) (iteration : Nat) : SolverState S :=
  ((audience.course problem solver).afterStep (audience.first problem solver state)
    iteration).2.state

def Reaches (solver : Solver S) (state : SolverState S) (iteration : Nat) : Prop :=
  (audience.course problem solver).Performs
    ((audience.course problem solver).callsUntilStep iteration)
    (audience.first problem solver state)
    ((audience.course problem solver).afterStep (audience.first problem solver state) iteration)

def Quiet (solver : Solver S) (state : SolverState S) (steps : Nat) : Prop :=
  (audience.course problem solver).Quiet (audience.first problem solver state) steps

def reasonOf (after : Memory S) : Except (Fault S) String :=
  after.2.state.reason after.2.workspace

variable {audience problem} {solver : Solver S} {state : SolverState S}

theorem fits (found : Solver.ofState state = .ok solver) :
    (audience.course problem solver).Fits (audience.before state).2.state :=
  ⟨found, rfl⟩

theorem reaches_of_ok (found : Solver.ofState state = .ok solver) {steps : Nat} {point : Point S}
    {after : Memory S} (ended : audience.run problem state steps = (.ok point, after)) :
    ∃ iterations : Nat, after.2.state.field? "iterations" = some (.integer iterations) ∧
      ∀ iteration ≤ iterations, audience.Reaches problem solver state iteration := by
  cases Course.solveWithin_ends (fits found) ended with
  | @closed iterations last _ _ _ stopped closed =>
      refine ⟨iterations, ?_, fun iteration early => stopped.performs_step early⟩
      rw [(Course.close_ok closed).1]
      exact SolverState.iterations_withIterations _ iterations

theorem samePath {left right : Audience S} (found : Solver.ofState state = .ok solver)
    (pure : problem.Pure) (pureMethod : state.method.Pure) :
    Course.SamePath (left.course problem solver) (right.course problem solver)
      (left.first problem solver state) (right.first problem solver state) := by
  have steady := Solver.steady_of_state found fun _ : True => pure
  exact ⟨rfl, rfl, pure, ⟨rfl, rfl, rfl, fun _ => pureMethod⟩, steady.1, steady.2⟩

theorem sameRun {left right : Audience S} (found : Solver.ofState state = .ok solver)
    (pure : problem.Pure) (pureMethod : state.method.Pure)
    (criterion : left.criterion = right.criterion)
    (memories : left.workspace.judging = right.workspace.judging) :
    Course.SameRun (left.course problem solver) (right.course problem solver)
      (left.first problem solver state) (right.first problem solver state) := by
  have steady := Solver.steady_of_state found fun _ : True => pure
  have frames := Solver.keeps_loopFields problem found
  refine ⟨⟨rfl, rfl, criterion⟩, pure, ⟨.inr trivial, ⟨?_, ?_⟩, ?_⟩, steady.1, steady.2,
    ⟨frames.1, frames.2⟩⟩
  · exact ⟨rfl, rfl, rfl, fun _ => pureMethod⟩
  · rw [first, first, Course.begin, Course.begin, before, before, criterion]
  · exact Workspace.Agree.of_judging memories

/-- Level runs with the same criterion leave the same state and have the same reason to stop. -/
theorem same_of_level {course : Course S} {left right : Memory S} (level : course.Level left right)
    (criterion : left.2.state.criterion = some course.criterion) :
    left.2.state = right.2.state ∧ reasonOf left = reasonOf right := by
  obtain ⟨_, along⟩ := level
  have sameState : left.2.state = right.2.state := along.state.eq
  refine ⟨sameState, ?_⟩
  rw [reasonOf, reasonOf, SolverState.reason, SolverState.reason, ← sameState, criterion]
  exact congrArg Except.ok (along.workspace.reason _ course.criterion.number_mem_numbers)

/-- Whoever watches a state with pure functions, its runs take one path: after every step that both
perform, the iterate and everything that the method keeps are the same. With the same criterion and
decorators that do not fail, the runs have the same outcome and leave the same state and reason. -/
theorem watching_does_not_influence (found : Solver.ofState state = .ok solver)
    (pure : problem.Pure) (pureMethod : state.method.Pure) (left right : Audience S) :
    (∀ {leftSteps rightSteps : Nat} {leftPoint rightPoint : Point S}
        {leftAfter rightAfter : Memory S},
      left.run problem state leftSteps = (.ok leftPoint, leftAfter) →
      right.run problem state rightSteps = (.ok rightPoint, rightAfter) →
      ∃ leftStop rightStop : Nat,
        leftAfter.2.state.field? "iterations" = some (.integer leftStop) ∧
        rightAfter.2.state.field? "iterations" = some (.integer rightStop) ∧
        ∀ iteration ≤ min leftStop rightStop,
          left.Reaches problem solver state iteration ∧
          right.Reaches problem solver state iteration ∧
          (left.stateAfter problem solver state iteration).iterate =
            (right.stateAfter problem solver state iteration).iterate ∧
          (left.stateAfter problem solver state iteration).method =
            (right.stateAfter problem solver state iteration).method) ∧
    (left.criterion = right.criterion → left.workspace.judging = right.workspace.judging →
      ∀ steps, left.Quiet problem solver state steps → right.Quiet problem solver state steps →
        (left.run problem state steps).1 = (right.run problem state steps).1 ∧
        (left.run problem state steps).2.2.state = (right.run problem state steps).2.2.state ∧
        reasonOf (left.run problem state steps).2 = reasonOf (right.run problem state steps).2) := by
  constructor
  · intro leftSteps rightSteps leftPoint rightPoint leftAfter rightAfter leftEnded rightEnded
    obtain ⟨leftStop, leftCount, leftReaches⟩ := reaches_of_ok found leftEnded
    obtain ⟨rightStop, rightCount, rightReaches⟩ := reaches_of_ok found rightEnded
    refine ⟨leftStop, rightStop, leftCount, rightCount, fun iteration early => ?_⟩
    have leftReached := leftReaches iteration (by omega)
    have rightReached := rightReaches iteration (by omega)
    have alike := (samePath found pure pureMethod).alike_afterStep leftReached rightReached
    exact ⟨leftReached, rightReached, alike.iterate, alike.method⟩
  · intro criterion memories steps leftQuiet rightQuiet
    have same : Course.SameRun (left.course problem solver) (right.course problem solver) _ _ :=
      sameRun found pure pureMethod criterion memories
    rcases leftRan : left.run problem state steps with ⟨outcome, after⟩
    have leftEnds := Course.solveWithin_ends (fits found) leftRan
    obtain ⟨mirrored, rightEnds, level⟩ := same.ends leftQuiet rightQuiet leftEnds
    have rightRan : right.run problem state steps = (outcome, mirrored) :=
      rightEnds.run (fits found)
    have kept : (left.course problem solver).Fits after.2.state := (fits found).of_run leftRan
    rw [rightRan]
    exact ⟨rfl, same_of_level level kept.criterion⟩

section Sample

def sample (criterion : Criterion Int) (decorators : List (Decorator Int)) : Audience Int :=
  ⟨criterion, decorators, {}, Sample.workspace⟩

def crowd : Audience Int := sample Sample.criterion Sample.decorators

def hasty : Audience Int := sample (.single 0 (.iterations (.integer 2))) []

def observed : Audience Int := sample Sample.criterion [.observer "seen"]

def alone : Audience Int := sample Sample.criterion []

theorem quiet_observed (steps : Nat) :
    observed.Quiet Sample.problem .cyclicProximalPoint Sample.state steps where
  opening := fun _ _ => ⟨_, rfl⟩
  iteration := fun _ _ _ => ⟨_, rfl⟩
  closing := fun _ _ => ⟨_, rfl⟩

theorem quiet_alone (steps : Nat) :
    alone.Quiet Sample.problem .cyclicProximalPoint Sample.state steps where
  opening := fun _ _ => ⟨_, rfl⟩
  iteration := fun _ _ _ => ⟨_, rfl⟩
  closing := fun _ _ => ⟨_, rfl⟩

theorem sample_watching_does_not_influence :
    Solver.ofState Sample.state = .ok .cyclicProximalPoint ∧
      Sample.problem.Pure ∧ Sample.state.method.Pure ∧
      (∃ crowdPoint crowdAfter hastyPoint hastyAfter,
        crowd.run Sample.problem Sample.state 5 = (.ok crowdPoint, crowdAfter) ∧
        hasty.run Sample.problem Sample.state 3 = (.ok hastyPoint, hastyAfter) ∧
        ∃ crowdStop hastyStop : Nat,
          crowdAfter.2.state.field? "iterations" = some (.integer crowdStop) ∧
          hastyAfter.2.state.field? "iterations" = some (.integer hastyStop) ∧
          ∀ iteration ≤ min crowdStop hastyStop,
            crowd.Reaches Sample.problem .cyclicProximalPoint Sample.state iteration ∧
            hasty.Reaches Sample.problem .cyclicProximalPoint Sample.state iteration ∧
            (crowd.stateAfter Sample.problem .cyclicProximalPoint Sample.state iteration).iterate =
              (hasty.stateAfter Sample.problem .cyclicProximalPoint Sample.state
                iteration).iterate ∧
            (crowd.stateAfter Sample.problem .cyclicProximalPoint Sample.state iteration).method =
              (hasty.stateAfter Sample.problem .cyclicProximalPoint Sample.state
                iteration).method) ∧
      observed.criterion = alone.criterion ∧
      observed.workspace.judging = alone.workspace.judging ∧
      observed.Quiet Sample.problem .cyclicProximalPoint Sample.state 5 ∧
      alone.Quiet Sample.problem .cyclicProximalPoint Sample.state 5 ∧
      (observed.run Sample.problem Sample.state 5).1 =
        (alone.run Sample.problem Sample.state 5).1 ∧
      (observed.run Sample.problem Sample.state 5).2.2.state =
        (alone.run Sample.problem Sample.state 5).2.2.state ∧
      reasonOf (observed.run Sample.problem Sample.state 5).2 =
        reasonOf (alone.run Sample.problem Sample.state 5).2 := by
  have found : Solver.ofState Sample.state = .ok .cyclicProximalPoint := rfl
  have crowdSucceeds : (crowd.run Sample.problem Sample.state 5).1.isOk = true := by
    decide +kernel
  have hastySucceeds : (hasty.run Sample.problem Sample.state 3).1.isOk = true := by
    decide +kernel
  obtain ⟨crowdPoint, crowdAfter, crowdEnded⟩ := Effect.exists_ok_of_isOk crowdSucceeds
  obtain ⟨hastyPoint, hastyAfter, hastyEnded⟩ := Effect.exists_ok_of_isOk hastySucceeds
  have path := (watching_does_not_influence found Sample.pure_problem Sample.pure_method
    crowd hasty).1 crowdEnded hastyEnded
  have outcome := (watching_does_not_influence found Sample.pure_problem Sample.pure_method
    observed alone).2 rfl rfl 5 (quiet_observed 5) (quiet_alone 5)
  exact ⟨found, Sample.pure_problem, Sample.pure_method,
    ⟨crowdPoint, crowdAfter, hastyPoint, hastyAfter, crowdEnded, hastyEnded, path⟩,
    rfl, rfl, quiet_observed 5, quiet_alone 5, outcome⟩

end Sample

end Audience

end ProximalSplitting

import ProximalSplitting.Proofs.Method.Frames
import ProximalSplitting.Proofs.Run.Along

/-!
The path of a run does not depend on who watches it. Runs of one state with different criteria and
decorators take the same path for as long as both go on, and with the same criterion they also end
in the same way.
-/

namespace ProximalSplitting

open Effect Tracked

namespace Course

variable {S : Type} [Scalar S]

section Prefixes

variable {course : Course S} {first middle : Memory S} {done : Nat}

variable (course) in
def watches : Nat → List (Call S)
  | 0 => .check 0 :: course.looks 0
  | done + 1 => course.looks (done + 1 : Nat) ++ [.check (done + 1)]

theorem callsThrough_eq (iteration : Nat) :
    course.callsThrough iteration = course.callsUntilStep iteration ++ course.watches iteration := by
  cases iteration with
  | zero => rfl
  | succ done => simp [callsThrough, callsUntilStep, watches, advance]

theorem watches_watching (iteration : Nat) :
    ∀ call ∈ course.watches iteration, call.isWatching := by
  intro call member
  cases iteration with
  | zero =>
      rcases List.mem_cons.mp member with rfl | looked
      · rfl
      · exact looks_watching _ call looked
  | succ done =>
      rcases List.mem_append.mp member with looked | checked
      · exact looks_watching _ call looked
      · rw [List.mem_singleton.mp checked]
        rfl

/-- The state after the calls of an iteration is the one that its step left. -/
theorem Performs.through {iteration : Nat}
    (performed : course.Performs (course.callsThrough iteration) first middle) :
    ∃ stepped, course.Performs (course.callsUntilStep iteration) first stepped ∧
      middle.2.state = stepped.2.state := by
  rw [callsThrough_eq] at performed
  obtain ⟨stepped, stepsPerformed, watched⟩ := performs_append.mp performed
  exact ⟨stepped, stepsPerformed,
    (performAll_keeps_state (watches_watching iteration)).of_run watched⟩

theorem Performs.earlierStep
    (performed : course.Performs (course.callsUntilStep (done + 1)) first middle) :
    ∃ earlier, course.Performs (course.callsUntilStep done) first earlier := by
  obtain ⟨shown, through, _⟩ := performs_append.mp performed
  obtain ⟨stepped, untilStep, _⟩ := through.through
  exact ⟨stepped, untilStep⟩

/-- What preparing establishes and every step keeps up holds of the state that a step leaves. -/
theorem Performs.afterSteps {invariant : Nat → SolverState S → Prop}
    (prepared : ∀ after, course.Performs [.prepare] first after → invariant 0 after.2.state)
    (stepped : ∀ done before after, invariant done before.2.state →
      (course.perform (.step (done + 1))).run before = (.ok (), after) →
      invariant (done + 1) after.2.state)
    (performed : course.Performs (course.callsUntilStep done) first middle) :
    invariant done middle.2.state := by
  induction done generalizing middle with
  | zero => exact prepared middle performed
  | succ done ih =>
      obtain ⟨shown, through, last⟩ := performs_append.mp performed
      obtain ⟨reached, untilStep, sameState⟩ := through.through
      obtain ⟨after, ran, ended⟩ := performs_cons.mp last
      cases performs_nil.mp ended
      have holds := ih untilStep
      rw [← sameState] at holds
      exact stepped done shown middle holds ran

theorem Pending.earlier (pending : course.Pending first done middle) {iteration : Nat}
    (early : iteration ≤ done) : ∃ reached, course.Pending first iteration reached := by
  induction pending with
  | @opened after performed =>
      cases Nat.le_zero.mp early
      exact ⟨after, .opened performed⟩
  | @passed done _ _ after pending advanced checked ih =>
      by_cases last : iteration = done + 1
      · subst last
        exact ⟨after, .passed pending advanced checked⟩
      · exact ih (by omega)

theorem Stops.performs_step {last : Memory S} {iterations iteration : Nat}
    (stopped : course.Stops first iterations last) (early : iteration ≤ iterations) :
    course.Performs (course.callsUntilStep iteration) first (course.afterStep first iteration) := by
  cases stopped with
  | @met done _ _ _ pending advanced checked =>
      by_cases final : iteration = done + 1
      · subst final
        obtain ⟨stepped, performed, _⟩ := Performs.advance_iff.mp advanced
        rw [pending.afterStep performed]
        exact performs_append.mpr ⟨_, pending.performs, performed⟩
      · obtain ⟨reached, pendingEarly⟩ := pending.earlier (by omega : iteration ≤ done)
        obtain ⟨stepped, performed, _⟩ := pendingEarly.performs.through
        rw [Course.afterStep, performed.memoryAfter]
        exact performed

end Prefixes

section Path

variable {left right : Course S} {leftFirst rightFirst : Memory S}

structure SamePath (left right : Course S) (leftFirst rightFirst : Memory S) : Prop where
  problem : left.problem = right.problem
  solver : left.solver = right.solver
  pure : left.problem.Pure
  start : leftFirst.2.state.Alike True rightFirst.2.state
  prepare : Step.Steady True (left.solver.prepare left.problem)
  step : ∀ iteration, Step.Steady True (left.solver.step left.problem iteration)

/-- After the same step two runs are at the same place, whoever watched them until then. -/
theorem SamePath.alike_afterStep (same : SamePath left right leftFirst rightFirst)
    {iteration : Nat} {leftMiddle rightMiddle : Memory S}
    (leftPerformed : left.Performs (left.callsUntilStep iteration) leftFirst leftMiddle)
    (rightPerformed : right.Performs (right.callsUntilStep iteration) rightFirst rightMiddle) :
    leftMiddle.2.state.Alike True rightMiddle.2.state := by
  have stepped : ∀ {call : Call S} {before mirrored after mirroredAfter : Memory S},
      Mirrors (Beside True (Session.Along (SolverState.Alike True) fun _ _ => True))
        (left.perform call) (right.perform call) →
      before.2.state.Alike True mirrored.2.state →
      left.Performs [call] before after → right.Performs [call] mirrored mirroredAfter →
      after.2.state.Alike True mirroredAfter.2.state := by
    intro call before mirrored after mirroredAfter mirrors alike performed performed'
    obtain ⟨_, ran, ended⟩ := performs_cons.mp performed
    obtain ⟨_, ran', ended'⟩ := performs_cons.mp performed'
    cases performs_nil.mp ended
    cases performs_nil.mp ended'
    obtain ⟨_, _, along⟩ := mirrors before mirrored ⟨.inr trivial, alike, trivial⟩
    rw [ran, ran'] at along
    exact along.state
  induction iteration generalizing leftMiddle rightMiddle with
  | zero =>
      refine stepped ?_ same.start leftPerformed rightPerformed
      rw [perform, perform, ← same.problem, ← same.solver]
      exact Run.mirrors_step same.prepare
  | succ done ih =>
      obtain ⟨leftDone, leftThrough, leftStep⟩ := performs_append.mp leftPerformed
      obtain ⟨rightDone, rightThrough, rightStep⟩ := performs_append.mp rightPerformed
      obtain ⟨leftStepped, leftUntil, leftKept⟩ := leftThrough.through
      obtain ⟨rightStepped, rightUntil, rightKept⟩ := rightThrough.through
      have alike : leftDone.2.state.Alike True rightDone.2.state := by
        rw [leftKept, rightKept]
        exact ih leftUntil rightUntil
      refine stepped ?_ alike leftStep rightStep
      rw [perform, perform, ← same.problem, ← same.solver]
      exact Run.mirrors_step (same.step _)

end Path

section Quiet

structure Quiet (course : Course S) (first : Memory S) (steps : Nat) : Prop where
  opening : ∀ {prepared checked : Memory S} {met : Bool},
    course.Performs [.prepare] first prepared → (course.check 0).run prepared = (.ok met, checked) →
    ∃ after, course.Performs (course.looks 0) checked after
  iteration : ∀ {done : Nat} {middle stepped : Memory S}, done < steps →
    course.Pending first done middle → course.Performs [.step (done + 1)] middle stepped →
    ∃ after, course.Performs (course.looks (done + 1 : Nat)) stepped after
  closing : ∀ {iterations : Nat} {last : Memory S}, iterations ≤ steps →
    course.Stops first iterations last →
    ∃ after, course.Performs (course.looks (-1)) (counted iterations last) after

def SameState (left right : SolverState S) : Prop :=
  left.Alike True right ∧ left.loopFields = right.loopFields

theorem SameState.withIterations {left right : SolverState S} (same : SameState left right)
    (iterations : Int) :
    SameState (left.withIterations iterations) (right.withIterations iterations) := by
  refine ⟨same.1.withIterations iterations, ?_⟩
  have criterion : left.criterion = right.criterion := congrArg Prod.fst same.2
  simp only [SolverState.loopFields, SolverState.withIterations, Solver.ofState, criterion,
    same.1.extras, same.1.method]

theorem SameState.eq {left right : SolverState S} (same : SameState left right) : left = right :=
  same.1.eq (congrArg Prod.fst same.2) (congrArg (fun fields => fields.2.1) same.2)

theorem mirrors_sameState {computation : Step S Unit} (steady : Step.Steady True computation)
    (kept : Keeps SolverState.loopFields computation) :
    Mirrors (Beside True SameState) computation computation :=
  mirrors_of_keeps steady kept kept And.left fun same alike keptLeft keptRight =>
    ⟨alike, keptLeft.trans (same.2.trans keptRight.symm)⟩

def Level (course : Course S) (left right : Memory S) : Prop :=
  Beside True (Session.Along SameState course.Agree) left right

variable {left right : Course S} {leftFirst rightFirst : Memory S}

theorem Level.looks {before mirrored after mirroredAfter : Memory S} {iteration : Int}
    (level : left.Level before mirrored)
    (looked : left.Performs (left.looks iteration) before after)
    (mirroredLooked : right.Performs (right.looks iteration) mirrored mirroredAfter) :
    left.Level after mirroredAfter := by
  obtain ⟨_, along⟩ := level
  have state : after.2.state = before.2.state :=
    (performAll_keeps_state (looks_watching _)).of_run looked
  have mirroredState : mirroredAfter.2.state = mirrored.2.state :=
    (performAll_keeps_state (looks_watching _)).of_run mirroredLooked
  refine ⟨.inr trivial, ?_, ?_⟩
  · rw [state, mirroredState]
    exact along.state
  · exact along.workspace.congr_judging ((looks_keep_judging _).of_run looked)
      ((looks_keep_judging _).of_run mirroredLooked)

structure SameRun (left right : Course S) (leftFirst rightFirst : Memory S) : Prop where
  twins : Twins left right
  pure : left.problem.Pure
  level : left.Level leftFirst rightFirst
  prepare : Step.Steady True (left.solver.prepare left.problem)
  step : ∀ iteration, Step.Steady True (left.solver.step left.problem iteration)
  frames : left.Frames

variable {steps : Nat} (same : SameRun left right leftFirst rightFirst)
include same

theorem SameRun.mirrors_prepare :
    Mirrors left.Level (left.perform .prepare) (right.perform .prepare) := by
  rw [perform, perform, ← same.twins.problem, ← same.twins.solver]
  exact Run.mirrors_step (mirrors_sameState same.prepare same.frames.prepare)

theorem SameRun.mirrors_step (iteration : Nat) :
    Mirrors left.Level (left.perform (.step iteration)) (right.perform (.step iteration)) := by
  rw [perform, perform, ← same.twins.problem, ← same.twins.solver]
  exact Run.mirrors_step (mirrors_sameState (same.step iteration) (same.frames.step iteration))

theorem SameRun.mirrors_check {iteration : Nat} (later : iteration ≠ 0) :
    Mirrors left.Level (left.check iteration) (right.check iteration) :=
  same.twins.mirrors_check (fun _ => same.pure) (fun _ _ related => related.1) later

theorem SameRun.opening (leftQuiet : Quiet left leftFirst steps)
    (rightQuiet : Quiet right rightFirst steps) :
    ((left.performAll left.opening).run leftFirst).1 =
        ((right.performAll right.opening).run rightFirst).1 ∧
      left.Level ((left.performAll left.opening).run leftFirst).2
        ((right.performAll right.opening).run rightFirst).2 := by
  obtain ⟨sameOutcome, level⟩ := same.mirrors_prepare leftFirst rightFirst same.level
  rcases ran : (left.perform .prepare).run leftFirst with ⟨outcome, prepared⟩
  rcases ran' : (right.perform .prepare).run rightFirst with ⟨outcome', prepared'⟩
  rw [ran, ran'] at sameOutcome level
  cases sameOutcome
  cases outcome with
  | error fault =>
      rw [Course.opening, Course.opening, performAll_of_error ran, performAll_of_error ran']
      exact ⟨rfl, level⟩
  | ok _ =>
      have performed : left.Performs [.prepare] leftFirst prepared :=
        performs_cons.mpr ⟨prepared, ran, performs_nil.mpr rfl⟩
      have performed' : right.Performs [.prepare] rightFirst prepared' :=
        performs_cons.mpr ⟨prepared', ran', performs_nil.mpr rfl⟩
      obtain ⟨after, looked⟩ := leftQuiet.opening performed (left.run_check_zero prepared)
      obtain ⟨after', looked'⟩ := rightQuiet.opening performed' (right.run_check_zero prepared')
      have renewedLevel : left.Level (left.renewed prepared) (right.renewed prepared') := by
        obtain ⟨journals, along⟩ := level
        refine ⟨journals, along.state, ?_⟩
        exact agree_renewed same.twins.criterion along.state.1.iterate
          (along.workspace.mono (fun _ member => absurd member List.not_mem_nil)
            fun _ member => absurd member List.not_mem_nil)
      rw [left.run_opening performed, right.run_opening performed', looked, looked']
      exact ⟨rfl, renewedLevel.looks looked looked'⟩

theorem SameRun.advance (leftQuiet : Quiet left leftFirst steps)
    (rightQuiet : Quiet right rightFirst steps) {done : Nat} {middle mirrored : Memory S}
    (bound : done < steps) (pending : left.Pending leftFirst done middle)
    (pending' : right.Pending rightFirst done mirrored) (level : left.Level middle mirrored) :
    ((left.performAll (left.advance (done + 1))).run middle).1 =
        ((right.performAll (right.advance (done + 1))).run mirrored).1 ∧
      left.Level ((left.performAll (left.advance (done + 1))).run middle).2
        ((right.performAll (right.advance (done + 1))).run mirrored).2 := by
  obtain ⟨sameOutcome, steppedLevel⟩ := same.mirrors_step (done + 1) middle mirrored level
  rcases ran : (left.perform (.step (done + 1))).run middle with ⟨outcome, stepped⟩
  rcases ran' : (right.perform (.step (done + 1))).run mirrored with ⟨outcome', stepped'⟩
  rw [ran, ran'] at sameOutcome steppedLevel
  cases sameOutcome
  rw [Course.advance, Course.advance]
  cases outcome with
  | error fault =>
      rw [performAll_of_error ran, performAll_of_error ran']
      exact ⟨rfl, steppedLevel⟩
  | ok _ =>
      obtain ⟨after, looked⟩ := leftQuiet.iteration bound pending
        (performs_cons.mpr ⟨stepped, ran, performs_nil.mpr rfl⟩)
      obtain ⟨after', looked'⟩ := rightQuiet.iteration bound pending'
        (performs_cons.mpr ⟨stepped', ran', performs_nil.mpr rfl⟩)
      rw [performAll_of_ok ran, performAll_of_ok ran', looked, looked']
      exact ⟨rfl, steppedLevel.looks looked looked'⟩

theorem SameRun.pending (leftQuiet : Quiet left leftFirst steps)
    (rightQuiet : Quiet right rightFirst steps) {done : Nat} {middle : Memory S}
    (bound : done ≤ steps) (pending : left.Pending leftFirst done middle) :
    ∃ mirrored, right.Pending rightFirst done mirrored ∧ left.Level middle mirrored := by
  induction pending with
  | opened performed =>
      obtain ⟨mirrored, performed', level⟩ :=
        mirrored_run (same.opening leftQuiet rightQuiet) performed
      exact ⟨mirrored, .opened performed', level⟩
  | passed pending advanced checked ih =>
      obtain ⟨mirrored, pending', level⟩ := ih (by omega)
      obtain ⟨called', advanced', calledLevel⟩ := mirrored_run
        (same.advance leftQuiet rightQuiet (by omega) pending pending' level) advanced
      obtain ⟨after', checked', afterLevel⟩ := mirrored_run
        (same.mirrors_check (Nat.succ_ne_zero _) _ _ calledLevel) checked
      exact ⟨after', .passed pending' advanced' checked', afterLevel⟩

theorem SameRun.stops (leftQuiet : Quiet left leftFirst steps)
    (rightQuiet : Quiet right rightFirst steps) {iterations : Nat} {last : Memory S}
    (bound : iterations ≤ steps) (stopped : left.Stops leftFirst iterations last) :
    ∃ mirrored, right.Stops rightFirst iterations mirrored ∧ left.Level last mirrored := by
  cases stopped with
  | met pending advanced checked =>
      obtain ⟨mirrored, pending', level⟩ := same.pending leftQuiet rightQuiet (by omega) pending
      obtain ⟨called', advanced', calledLevel⟩ := mirrored_run
        (same.advance leftQuiet rightQuiet (by omega) pending pending' level) advanced
      obtain ⟨after', checked', afterLevel⟩ := mirrored_run
        (same.mirrors_check (Nat.succ_ne_zero _) _ _ calledLevel) checked
      exact ⟨after', .met pending' advanced' checked', afterLevel⟩

theorem SameRun.close (leftQuiet : Quiet left leftFirst steps)
    (rightQuiet : Quiet right rightFirst steps) {iterations : Nat} {last mirrored : Memory S}
    (bound : iterations ≤ steps) (stopped : left.Stops leftFirst iterations last)
    (stopped' : right.Stops rightFirst iterations mirrored) (level : left.Level last mirrored) :
    ((left.close iterations).run last).1 = ((right.close iterations).run mirrored).1 ∧
      left.Level ((left.close iterations).run last).2 ((right.close iterations).run mirrored).2 := by
  obtain ⟨after, looked⟩ := leftQuiet.closing bound stopped
  obtain ⟨after', looked'⟩ := rightQuiet.closing bound stopped'
  have countedLevel : left.Level (counted iterations last) (counted iterations mirrored) := by
    obtain ⟨journals, along⟩ := level
    exact ⟨journals, along.state.withIterations iterations, along.workspace⟩
  have shownLevel := countedLevel.looks looked looked'
  have sameState : after.2.state = after'.2.state := shownLevel.2.state.eq
  rw [run_close left looked, run_close right looked', same.twins.solver, sameState]
  exact ⟨rfl, .inr trivial, shownLevel.2⟩

theorem SameRun.ends (leftQuiet : Quiet left leftFirst steps)
    (rightQuiet : Quiet right rightFirst steps) {outcome : Except (Fault S) (Point S)}
    {after : Memory S} (ends : left.Ends leftFirst steps outcome after) :
    ∃ mirrored, right.Ends rightFirst steps outcome mirrored ∧ left.Level after mirrored := by
  cases ends with
  | inOpening failed =>
      obtain ⟨mirrored, failed', level⟩ :=
        mirrored_run (same.opening leftQuiet rightQuiet) failed
      exact ⟨mirrored, .inOpening failed', level⟩
  | inAdvance bound pending failed =>
      obtain ⟨middle', pending', level⟩ := same.pending leftQuiet rightQuiet (by omega) pending
      obtain ⟨mirrored, failed', afterLevel⟩ := mirrored_run
        (same.advance leftQuiet rightQuiet bound pending pending' level) failed
      exact ⟨mirrored, .inAdvance bound pending' failed', afterLevel⟩
  | inCheck bound pending advanced failed =>
      obtain ⟨middle', pending', level⟩ := same.pending leftQuiet rightQuiet (by omega) pending
      obtain ⟨called', advanced', calledLevel⟩ := mirrored_run
        (same.advance leftQuiet rightQuiet bound pending pending' level) advanced
      obtain ⟨mirrored, failed', afterLevel⟩ := mirrored_run
        (same.mirrors_check (Nat.succ_ne_zero _) _ _ calledLevel) failed
      exact ⟨mirrored, .inCheck bound pending' advanced' failed', afterLevel⟩
  | outOfSteps pending =>
      obtain ⟨mirrored, pending', level⟩ := same.pending leftQuiet rightQuiet (by omega) pending
      exact ⟨mirrored, .outOfSteps pending', level⟩
  | closed bound stopped closed =>
      obtain ⟨last', stopped', level⟩ := same.stops leftQuiet rightQuiet bound stopped
      obtain ⟨mirrored, closed', afterLevel⟩ := mirrored_run
        (same.close leftQuiet rightQuiet bound stopped stopped' level) closed
      exact ⟨mirrored, .closed bound stopped' closed', afterLevel⟩

end Quiet

end Course

end ProximalSplitting

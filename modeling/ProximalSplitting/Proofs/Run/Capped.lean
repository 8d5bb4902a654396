import ProximalSplitting.Proofs.Effects.Meeting
import ProximalSplitting.Proofs.Run.Limit

/-!
Runs with a cap on the iterations that nobody watches. Such a run is what its solver does if it is
left alone for as many iterations: it has the same outcome, and around it there are only messages
and what belongs to the loop.
-/

namespace ProximalSplitting

open Effect Tracked

variable {S : Type} [Scalar S]

def solveCapped (budget : Nat) (problem : Problem S) (limit : Nat) : Run S (Point S) := do
  let criterion ← Run.watch (Criterion.afterIterations (.integer limit))
  Run.step (Tracked.update fun state =>
    state.setField "stopping_criterion" (.criterion criterion))
  solveWithin budget problem []

def solveInParts (budget : Nat) (problem : Problem S) (first second : Nat) : Run S (Point S) := do
  let _ ← solveCapped budget problem first
  solveCapped budget problem second

namespace Solver

variable (solver : Solver S) (problem : Problem S)

def steps (earlier count : Nat) : Step S Unit :=
  (List.range count).foldlM (fun _ index => solver.step problem (earlier + index + 1 : Nat)) ()

def alone (count : Nat) : Step S Unit := do
  solver.prepare problem
  solver.steps problem 0 count

variable {solver problem}

theorem steps_add (earlier first second : Nat) :
    solver.steps problem earlier (first + second) =
      solver.steps problem earlier first >>= fun _ =>
        solver.steps problem (earlier + first) second := by
  rw [steps, List.range_add, List.foldlM_append]
  simp only [List.foldlM_map, steps, Nat.add_assoc]

theorem steps_one (earlier : Nat) :
    solver.steps problem earlier 1 = solver.step problem (earlier + 1 : Nat) := by
  rw [steps, List.range_one, List.foldlM_cons]
  exact bind_pure _

theorem alone_add (first second : Nat) :
    solver.alone problem (first + second) =
      solver.alone problem first >>= fun _ => solver.steps problem first second := by
  rw [alone, alone, steps_add, Nat.zero_add, bind_assoc]

end Solver

structure Bookkept (left right : Journal × SolverState S) : Prop where
  journal : ∃ messages, right.1 = { left.1 with messages }
  iterate : right.2.iterate = left.2.iterate
  method : right.2.method = left.2.method

omit [Scalar S] in
theorem Bookkept.trans {left middle right : Journal × SolverState S} (first : Bookkept left middle)
    (second : Bookkept middle right) : Bookkept left right := by
  obtain ⟨messages, same⟩ := first.journal
  obtain ⟨later, sameToo⟩ := second.journal
  refine ⟨⟨later, ?_⟩, second.iterate.trans first.iterate, second.method.trans first.method⟩
  rw [sameToo, same]

namespace Course

variable {course : Course S} {number done remaining count : Nat} {limit : Int}

theorem run_close_unwatched (unwatched : course.decorators = []) (iterations : Nat)
    (last : Memory S) :
    (course.close iterations).run last =
      (.ok (course.solver.result (last.2.state.withIterations iterations)),
        course.finish iterations (counted iterations last)) := by
  have looked : course.Performs (course.looks (-1)) (counted iterations last)
      (counted iterations last) := by
    rw [looks, unwatched]
    exact performs_nil.mpr rfl
  exact run_close course looked

theorem run_continue_unwatched
    (limited : course.criterion = .single number (.iterations (.integer limit)))
    (unwatched : course.decorators = []) (counted : limit = (done + count : Nat))
    (positive : 1 ≤ count) (enough : count ≤ remaining) (before : Memory S) :
    ∃ workspace, (course.continueRun remaining done).run before =
      match (course.solver.steps course.problem done count).run (before.1, before.2.state) with
      | (.error fault, left) => (.error fault, (left.1, ⟨workspace, left.2⟩))
      | (.ok _, left) => (course.close (done + count)).run (left.1, ⟨workspace, left.2⟩) := by
  -- The induction is on the steps that are left until the limit, which the last check meets.
  induction count generalizing done remaining before with
  | zero => omega
  | succ count ih =>
      obtain ⟨later, rfl⟩ : ∃ later, remaining = later + 1 := ⟨remaining - 1, by omega⟩
      rw [continueRun_succ, advance, looks, unwatched, List.map_nil, Nat.add_comm count 1,
        Solver.steps_add, Solver.steps_one]
      rcases stepped : (course.solver.step course.problem (done + 1 : Nat)).run
        (before.1, before.2.state) with ⟨outcome, left⟩
      have performed : (course.perform (.step (done + 1))).run before =
          (outcome, (left.1, { before.2 with state := left.2 })) := Run.run_step_of stepped
      cases outcome with
      | error fault =>
          have failed : (course.performAll [.step (done + 1)]).run before = (.error fault, _) :=
            performAll_of_error performed []
          rw [run_bind_of_error failed, run_bind_of_error stepped]
          exact ⟨_, rfl⟩
      | ok _ =>
          have advanced : (course.performAll [.step (done + 1)]).run before = (.ok (), _) :=
            performAll_of_ok performed []
          obtain ⟨workspace, checked⟩ := run_check_limit limited (Nat.succ_ne_zero done)
            (left.1, { before.2 with state := left.2 })
          rw [run_bind_of_ok advanced, run_bind_of_ok checked, run_bind_of_ok stepped]
          by_cases last : count = 0
          · subst last
            have met : limit ≤ (done + 1 : Nat) := by omega
            rw [if_pos (decide_eq_true met)]
            exact ⟨workspace, rfl⟩
          · have unmet : ¬ limit ≤ (done + 1 : Nat) := by omega
            rw [if_neg (by simpa using unmet)]
            have ahead : limit = (done + 1 + count : Nat) := by omega
            rw [← Nat.add_assoc]
            exact ih ahead (by omega) (by omega) (left.1, ⟨workspace, left.2⟩)

/-- Nobody watches a run that has a cap: from its opening on, it does what its solver does alone. -/
theorem run_whole_unwatched
    (limited : course.criterion = .single number (.iterations (.integer limit)))
    (unwatched : course.decorators = []) (counted : limit = count) (positive : 1 ≤ count)
    (enough : count ≤ remaining) (first : Memory S) :
    ∃ workspace, (course.whole remaining).run first =
      match (course.solver.alone course.problem count).run (first.1, first.2.state) with
      | (.error fault, left) => (.error fault, (left.1, ⟨workspace, left.2⟩))
      | (.ok _, left) => (course.close count).run (left.1, ⟨workspace, left.2⟩) := by
  rw [whole, Solver.alone]
  rcases prepared : (course.solver.prepare course.problem).run (first.1, first.2.state)
    with ⟨outcome, left⟩
  have performed : (course.perform .prepare).run first =
      (outcome, (left.1, { first.2 with state := left.2 })) := Run.run_step_of prepared
  cases outcome with
  | error fault =>
      have failed : (course.performAll course.opening).run first = (.error fault, _) :=
        performAll_of_error performed _
      rw [run_bind_of_error failed, run_bind_of_error prepared]
      exact ⟨_, rfl⟩
  | ok _ =>
      have prepares : course.Performs [.prepare] first _ := performAll_of_ok performed []
      have opened := run_opening course prepares
      rw [looks, unwatched, List.map_nil] at opened
      have nothing : ∀ memory : Memory S, (course.performAll []).run memory = (.ok (), memory) :=
        fun _ => rfl
      rw [nothing] at opened
      rw [run_bind_of_ok opened, run_bind_of_ok prepared]
      have ahead : limit = (0 + count : Nat) := by omega
      have continued := run_continue_unwatched limited unwatched ahead positive enough
        (course.renewed (left.1, { first.2 with state := left.2 }))
      rwa [Nat.zero_add] at continued

theorem run_solveWithin_unwatched {before : Memory S} (fits : course.Fits before.2.state)
    (limited : course.criterion = .single number (.iterations (.integer limit)))
    (unwatched : course.decorators = []) (counted : limit = count) (positive : 1 ≤ count)
    (enough : count ≤ remaining) :
    ∃ start, Bookkept (before.1, before.2.state) start ∧
      ((∃ fault last after, (course.solver.alone course.problem count).run start =
            (.error fault, last) ∧
          (solveWithin remaining course.problem course.decorators).run before =
            (.error fault, after)) ∨
        ∃ last after, (course.solver.alone course.problem count).run start = (.ok (), last) ∧
          (solveWithin remaining course.problem course.decorators).run before =
            (.ok (course.solver.result after.2.state), after) ∧
          Bookkept last (after.1, after.2.state)) := by
  obtain ⟨workspace, ran⟩ := run_whole_unwatched limited unwatched counted positive enough
    (course.begin before)
  rw [run_solveWithin remaining fits, ran]
  refine ⟨((course.begin before).1, before.2.state), ⟨⟨_, rfl⟩, rfl, rfl⟩, ?_⟩
  have sameState : (course.begin before).2.state = before.2.state := rfl
  rw [sameState]
  rcases (course.solver.alone course.problem count).run ((course.begin before).1, before.2.state)
    with ⟨outcome, last⟩
  cases outcome with
  | error fault => exact .inl ⟨fault, last, _, rfl, rfl⟩
  | ok _ =>
      have closed := run_close_unwatched unwatched count (last.1, ⟨workspace, last.2⟩)
      exact .inr ⟨last, course.finish count (Course.counted count (last.1, ⟨workspace, last.2⟩)),
        rfl, closed, ⟨⟨_, rfl⟩, rfl, rfl⟩⟩

end Course

theorem Solver.ofState_eq {left right : SolverState S} (same : right.method = left.method) :
    Solver.ofState right = Solver.ofState left := by
  rw [Solver.ofState, Solver.ofState, same]

section Capped

variable {solver : Solver S} {problem : Problem S} {budget limit : Nat} {before : Memory S}

theorem run_afterIterations (positive : 1 ≤ limit) (before : Memory S) :
    ∃ number workspace, (Run.watch (Criterion.afterIterations (.integer limit))).run before =
      (.ok (.single number (.iterations (.integer limit))),
        (before.1, { before.2 with workspace })) := by
  have allowed : (Value.integer limit : Value S).below? 1 = some false := by
    change some (decide ((limit : Int) < 1)) = some false
    rw [decide_eq_false (by omega)]
  rw [Criterion.afterIterations, allowed]
  exact ⟨_, _, rfl⟩

def SolverState.stoppingBy (state : SolverState S) (criterion : Criterion S) : SolverState S :=
  { state.dropExtra "stopping_criterion" with criterion := some criterion }

theorem run_replaceCriterion (criterion : Criterion S) (before : Memory S) :
    (Run.step (Tracked.update fun state =>
        state.setField "stopping_criterion" (.criterion criterion)) : Run S Unit).run before =
      (.ok (), (before.1, { before.2 with state := before.2.state.stoppingBy criterion })) := by
  have replaced : before.2.state.setField "stopping_criterion" (.criterion criterion) =
      before.2.state.stoppingBy criterion := by
    simp [SolverState.setField, SolverState.stoppingBy]
  rw [Run.step, run_part, run_update, replaced]

theorem exists_run_solveCapped (positive : 1 ≤ limit) (before : Memory S) :
    ∃ number workspace, (solveCapped budget problem limit).run before =
      (solveWithin budget problem []).run (before.1, ⟨workspace,
        before.2.state.stoppingBy (.single number (.iterations (.integer limit)))⟩) := by
  obtain ⟨number, workspace, made⟩ := run_afterIterations positive before
  refine ⟨number, workspace, ?_⟩
  rw [solveCapped, run_bind_of_ok made, run_bind_of_ok (run_replaceCriterion _ _)]

theorem run_solveCapped (found : Solver.ofState before.2.state = .ok solver) (positive : 1 ≤ limit)
    (enough : limit ≤ budget) :
    ∃ start, Bookkept (before.1, before.2.state) start ∧
      ((∃ fault last after, (solver.alone problem limit).run start = (.error fault, last) ∧
          (solveCapped budget problem limit).run before = (.error fault, after)) ∨
        ∃ last after, (solver.alone problem limit).run start = (.ok (), last) ∧
          (solveCapped budget problem limit).run before =
            (.ok (solver.result after.2.state), after) ∧
          Bookkept last (after.1, after.2.state)) := by
  obtain ⟨number, workspace, ran⟩ := exists_run_solveCapped positive before
  rw [ran]
  let course : Course S := ⟨problem, solver, .single number (.iterations (.integer limit)), []⟩
  have fits : course.Fits (before.2.state.stoppingBy course.criterion) :=
    ⟨(Solver.ofState_eq rfl).trans found, rfl⟩
  have given : Bookkept (before.1, before.2.state)
      (before.1, before.2.state.stoppingBy course.criterion) := ⟨⟨before.1.messages, rfl⟩, rfl, rfl⟩
  have begun : course.Fits (before.1, (⟨workspace, before.2.state.stoppingBy course.criterion⟩ :
      Session S)).2.state := fits
  obtain ⟨start, kept, outcome⟩ :=
    Course.run_solveWithin_unwatched begun rfl rfl rfl positive enough
  exact ⟨start, given.trans kept, outcome⟩

theorem solver_of_solveCapped (found : Solver.ofState before.2.state = .ok solver)
    (positive : 1 ≤ limit) {outcome : Except (Fault S) (Point S)} {after : Memory S}
    (ended : (solveCapped budget problem limit).run before = (outcome, after)) :
    Solver.ofState after.2.state = .ok solver := by
  obtain ⟨number, workspace, ran⟩ := exists_run_solveCapped positive before
  rw [ran] at ended
  let course : Course S := ⟨problem, solver, .single number (.iterations (.integer limit)), []⟩
  have fits : course.Fits (before.1, (⟨workspace, before.2.state.stoppingBy course.criterion⟩ :
      Session S)).2.state := ⟨(Solver.ofState_eq rfl).trans found, rfl⟩
  exact (fits.of_run ended).solver

theorem result_of_solveCapped (found : Solver.ofState before.2.state = .ok solver)
    (positive : 1 ≤ limit) (enough : limit ≤ budget) {point : Point S} {after : Memory S}
    (ended : (solveCapped budget problem limit).run before = (.ok point, after)) :
    point = solver.result after.2.state := by
  obtain ⟨start, _, ⟨fault, last, failedAfter, _, failed⟩ | ⟨last, reached, _, ran, _⟩⟩ :=
    run_solveCapped found positive enough
  · cases failed.symm.trans ended
  · cases ran.symm.trans ended
    rfl

end Capped

/-! ### Runs in parts -/

structure Resumable (solver : Solver S) (problem : Problem S) (strict : Prop)
    (fresh ready : Journal × SolverState S → Journal × SolverState S → Prop) : Prop where
  freshBooks : ∀ {left right left' right'}, fresh left right → Bookkept left left' →
    Bookkept right right' → fresh left' right'
  readyBooks : ∀ {left right left' right'}, ready left right → Bookkept left left' →
    Bookkept right right' → ready left' right'
  freshSolver : ∀ {left right}, fresh left right → Solver.ofState left.2 = .ok solver
  readySolver : ∀ {left right}, ready left right → Solver.ofState left.2 = .ok solver
  prepares : Meets strict fresh ready (solver.prepare problem) (solver.prepare problem)
  again : Meets strict ready ready (solver.prepare problem) (pure ())
  steps : ∀ early late : Nat, Meets strict ready ready (solver.step problem (early + 1 : Nat))
    (solver.step problem (late + 1 : Nat))

section Parts

variable {solver : Solver S} {problem : Problem S} {strict : Prop}
  {fresh ready start : Journal × SolverState S → Journal × SolverState S → Prop}
  {budget first second limit earlier : Nat} {before : Memory S}

omit [Scalar S] in
theorem Bookkept.refl (memory : Journal × SolverState S) : Bookkept memory memory :=
  ⟨⟨memory.1.messages, rfl⟩, rfl, rfl⟩

/-- A capped run meets whatever its preparing and its steps meet. -/
theorem capped_meets {opening : Step S Unit}
    (startBooks : ∀ {left right left' right'}, start left right → Bookkept left left' →
      Bookkept right right' → start left' right')
    (readyBooks : ∀ {left right left' right'}, ready left right → Bookkept left left' →
      Bookkept right right' → ready left' right')
    (works : ∀ {left right}, start left right → Solver.ofState left.2 = .ok solver)
    (prepares : Meets strict start ready (solver.prepare problem) opening)
    (steps : ∀ index : Nat, Meets strict ready ready (solver.step problem (index + 1 : Nat))
      (solver.step problem (earlier + index + 1 : Nat)))
    (positive : 1 ≤ limit) (enough : limit ≤ budget) :
    Meets strict (fun (left : Memory S) right => start (left.1, left.2.state) right)
      (fun left right => ready (left.1, left.2.state) right)
      ((fun _ => ()) <$> solveCapped budget problem limit)
      (opening >>= fun _ => solver.steps problem earlier limit) := by
  have follows : Meets strict start ready (solver.alone problem limit)
      (opening >>= fun _ => solver.steps problem earlier limit) := by
    refine meets_bind prepares fun _ => meets_foldlM (fun _ index => ?_) _ ()
    rw [Nat.zero_add]
    exact steps index
  intro before mirrored related
  obtain ⟨began, kept, outcome⟩ := run_solveCapped (works related) positive enough
  have met := follows began mirrored (startBooks related kept (.refl mirrored))
  rw [run_map]
  rcases outcome with ⟨fault, last, after, alone, failed⟩ | ⟨last, after, alone, ran, left⟩
  · rw [failed]
    rw [alone] at met
    refine ⟨met.1, ?_⟩
    intro value found absurdity
    cases absurdity
  · rw [ran]
    rw [alone] at met
    refine ⟨met.1, ?_⟩
    intro value found _ rightOk
    obtain ⟨same, reached⟩ := met.2 () found rfl rightOk
    exact ⟨same, readyBooks reached left (.refl _)⟩

/-- A resumable solver reaches in two parts what it reaches at once. In the strict case the parts
fail exactly if the whole does. -/
theorem Resumable.parts (resumable : Resumable solver problem strict fresh ready)
    (firstPositive : 1 ≤ first) (secondPositive : 1 ≤ second) (enough : first + second ≤ budget)
    (begins : fresh (before.1, before.2.state) (before.1, before.2.state)) :
    (strict → ((solveInParts budget problem first second).run before).1.map (fun _ => ()) =
        ((solveCapped budget problem (first + second)).run before).1.map fun _ => ()) ∧
      ∀ point found after after',
        (solveInParts budget problem first second).run before = (.ok point, after) →
        (solveCapped budget problem (first + second)).run before = (.ok found, after') →
        point = solver.result after.2.state ∧ found = solver.result after'.2.state ∧
          ready (after.1, after.2.state) (after'.1, after'.2.state) := by
  have found := resumable.freshSolver begins
  have firstPart := capped_meets resumable.freshBooks resumable.readyBooks resumable.freshSolver
    resumable.prepares (fun index => resumable.steps index (0 + index)) firstPositive
    (show first ≤ budget by omega)
  have secondPart := capped_meets resumable.readyBooks resumable.readyBooks resumable.readySolver
    resumable.again (fun index => resumable.steps index (first + index)) secondPositive
    (show second ≤ budget by omega)
  have inParts : (fun _ => ()) <$> solveInParts budget problem first second =
      ((fun _ => ()) <$> solveCapped budget problem first) >>= fun _ =>
        (fun _ => ()) <$> solveCapped budget problem second := by
    rw [solveInParts]
    simp only [map_eq_pure_bind, bind_assoc, pure_bind]
  have atOnce : (solver.prepare problem >>= fun _ => solver.steps problem 0 first) >>=
      (fun _ => (pure () : Step S Unit) >>= fun _ => solver.steps problem first second) =
        solver.alone problem (first + second) := by
    rw [Solver.alone_add, Solver.alone]
    simp only [pure_bind]
  have parts := meets_bind firstPart fun _ => secondPart
  rw [← inParts, atOnce] at parts
  -- The whole run starts its steps from a memory that is not quite the one before it.
  obtain ⟨began, kept, outcome⟩ := run_solveCapped found (show 1 ≤ first + second by omega) enough
  have met := parts before began (resumable.freshBooks begins (.refl _) kept)
  rw [run_map] at met
  rcases outcome with ⟨fault, last, after, alone, failed⟩ | ⟨last, after, alone, ran, left⟩
  · rw [alone] at met
    rw [failed]
    refine ⟨met.1, ?_⟩
    intro point found after after' _ absurdity
    cases absurdity
  · rw [alone] at met
    rw [ran]
    refine ⟨met.1, ?_⟩
    intro point found afterParts afterWhole endedParts endedWhole
    cases endedWhole
    rw [endedParts] at met
    obtain ⟨_, reached⟩ := met.2 () () rfl rfl
    obtain ⟨_, middle, firstEnded, secondEnded⟩ := run_bind_ok_iff.mp endedParts
    have stillFound := solver_of_solveCapped found firstPositive firstEnded
    exact ⟨result_of_solveCapped stillFound secondPositive (by omega) secondEnded, rfl,
      resumable.readyBooks reached (.refl _) left⟩

end Parts

end ProximalSplitting

import ProximalSplitting.Proofs.Method.Rounds
import ProximalSplitting.Proofs.Run.Launch
import ProximalSplitting.Proofs.Run.Limit

/-!
Runs of parallel Douglas-Rachford splitting on flat space. However a run is watched and whatever
ends it, it returns the result of as many rounds from its start as it counted, and its driver has
the components after these rounds.
-/

namespace ProximalSplitting

open Effect Tracked DouglasRachford

variable {S : Type} [ExactScalar S] {task : Task S} {shape : List Nat}
  {parameter relaxation : Schedule S} {point : Point S}

namespace DouglasRachford

theorem run_prepare_coupled (straight : task.manifold.geometry.Straight)
    (positive : ∀ extent ∈ shape, 0 < extent) (several : 0 < task.maps.length)
    (shaped : point.hasShape shape = true) {state : SolverState S}
    (method : state.method =
      .splitting (coupled parameter relaxation (Power.point task.maps.length fun _ => point)))
    (journal : Journal) :
    ∃ last, (prepare (coupledProblem task)).run (journal, state) =
      (.ok (), (last, state.withIterate point)) := by
  obtain ⟨last, ran⟩ := gives_mean_of_equal straight positive several shaped none journal
  refine ⟨last, ?_⟩
  have counted : (liftM (coupledProblem task).mapCount : Step S Nat).run (journal, state) =
      (.ok 2, (journal, state)) := rfl
  refine (run_bind_of_ok counted).trans ?_
  refine (run_bind_of_ok (run_parameters method)).trans ?_
  exact run_bind_of_ok (run_liftM_of ran state)

def HasRounds (task : Task S) (shape : List Nat) (parameter relaxation : Schedule S)
    (point : Point S) (done : Nat) (state : SolverState S) : Prop :=
  ∃ component, Rounds task.maps shape parameter relaxation point done state.iterate component ∧
    state.method =
      .splitting (coupled parameter relaxation (Power.point task.maps.length component))

end DouglasRachford

namespace Course

variable {course : Course S} {first middle reached : Memory S} {done : Nat}

section Steps

variable (problem : course.problem = coupledProblem task)
  (solver : course.solver = .douglasRachford) (straight : task.manifold.geometry.Straight)
  (positive : ∀ extent ∈ shape, 0 < extent) (several : 0 < task.maps.length)
  (shaped : point.hasShape shape = true)
include problem solver straight positive several shaped

theorem performs_prepare_coupled
    (method : first.2.state.method =
      .splitting (coupled parameter relaxation (Power.point task.maps.length fun _ => point))) :
    ∃ last, course.Performs [.prepare] first
      (last, { first.2 with state := first.2.state.withIterate point }) := by
  obtain ⟨last, ran⟩ := run_prepare_coupled straight positive several shaped method first.1
  refine ⟨last, performs_cons.mpr ⟨_, ?_, performs_nil.mpr rfl⟩⟩
  rw [perform, problem, solver]
  exact Run.run_step_of ran

theorem exists_prepared
    (method : first.2.state.method =
      .splitting (coupled parameter relaxation (Power.point task.maps.length fun _ => point))) :
    ∃ prepared, course.Performs [.prepare] first prepared ∧
      HasRounds task shape parameter relaxation point 0 prepared.2.state := by
  obtain ⟨last, prepares⟩ :=
    performs_prepare_coupled problem solver straight positive several shaped method
  exact ⟨_, prepares, fun _ => point, .none, method⟩

variable (keeps : KeepShape task.maps shape)
include keeps

theorem perform_round (rounds : HasRounds task shape parameter relaxation point done middle.2.state)
    {outcome : Except (Fault S) Unit}
    (ran : (course.perform (.step (done + 1))).run middle = (outcome, reached)) :
    (∃ fault, outcome = .error fault ∧
      FunctionRaises task.maps parameter relaxation (done + 1 : Nat) fault) ∨
    outcome = .ok () ∧
      HasRounds task shape parameter relaxation point (done + 1) reached.2.state := by
  obtain ⟨component, earlier, method⟩ := rounds
  have componentShaped := (earlier.shaped shaped).2
  rcases stepped : (step (coupledProblem task) (done + 1 : Nat)).run (middle.1, middle.2.state)
    with ⟨stepOutcome, left⟩
  rw [perform, problem, solver] at ran
  cases (Run.run_step_of stepped).symm.trans ran
  rcases run_step_round straight positive several keeps componentShaped method stepped with
    raised | ⟨result, next, rfl, round, isLeft⟩
  · exact .inl raised
  · have state : left.2 = { middle.2.state with
        iterate := result
        method := .splitting
          (coupled parameter relaxation (Power.point task.maps.length next)) } := by
      rw [isLeft, advanced_eq method]
      rfl
    refine .inr ⟨rfl, next, ?_, ?_⟩
    · rw [state]
      exact .more earlier round
    · rw [state]

theorem Performs.hasRounds
    (method : first.2.state.method =
      .splitting (coupled parameter relaxation (Power.point task.maps.length fun _ => point)))
    (performed : course.Performs (course.callsUntilStep done) first reached) :
    HasRounds task shape parameter relaxation point done reached.2.state := by
  refine performed.afterSteps (fun after prepares => ?_) fun done before after rounds ran => ?_
  · obtain ⟨prepared, preparesToo, rounds⟩ :=
      exists_prepared problem solver straight positive several shaped method
    rwa [performs_unique prepares preparesToo]
  · rcases perform_round problem solver straight positive several shaped keeps rounds ran with
      ⟨_, failed, _⟩ | ⟨_, later⟩
    · cases failed
    · exact later

theorem Pending.hasRounds
    (method : first.2.state.method =
      .splitting (coupled parameter relaxation (Power.point task.maps.length fun _ => point)))
    (pending : course.Pending first done middle) :
    HasRounds task shape parameter relaxation point done middle.2.state := by
  obtain ⟨stepped, untilStep, sameState⟩ := pending.performs.through
  rw [sameState]
  exact untilStep.hasRounds problem solver straight positive several shaped keeps method

end Steps

end Course

theorem SolverState.field_driver {state : SolverState S} {parameters : SplittingParameters S}
    (plain : state.extras = []) (method : state.method = .splitting parameters) :
    state.field? "t" = some (.array parameters.driver) := by
  obtain ⟨iterate, criterion, iterations, _, _⟩ := state
  cases plain
  cases method
  rfl

namespace DouglasRachford

structure Coupled (task : Task S) (shape : List Nat) (parameter relaxation : Schedule S)
    (iterations : Nat) (minimizer : Minimizer S) : Prop where
  count : minimizer.state.field? "iterations" = some (.integer iterations)
  iterate : minimizer.state.field? "x" = some (.array minimizer.point)
  rounds : ∃ component,
    Rounds task.maps shape parameter relaxation task.start iterations minimizer.point component ∧
      minimizer.state.field? "t" = some (.array (Power.point task.maps.length component))

theorem Coupled.count_unique {iterations other : Nat} {minimizer : Minimizer S}
    (coupled : Coupled task shape parameter relaxation iterations minimizer)
    (counts : minimizer.state.field? "iterations" = some (.integer other)) :
    iterations = other := by
  have same := coupled.count.symm.trans counts
  simpa only [Option.some.injEq, Value.integer.injEq, Nat.cast_inj] using same

/-- If the functions of the caller are pure, any computation of the rounds has the same result. -/
theorem Coupled.unique {iterations : Nat} {minimizer : Minimizer S} {result : Point S}
    {component : Nat → Point S} (pureMaps : ∀ proximalMap ∈ task.maps, proximalMap.Pure)
    (pureParameter : parameter.Pure) (pureRelaxation : relaxation.Pure)
    (coupled : Coupled task shape parameter relaxation iterations minimizer)
    (rounds : Rounds task.maps shape parameter relaxation task.start iterations result component) :
    minimizer.point = result ∧
      minimizer.state.field? "t" = some (.array (Power.point task.maps.length component)) := by
  obtain ⟨other, led, driver⟩ := coupled.rounds
  obtain ⟨sameResult, sameComponents⟩ :=
    led.unique pureMaps pureParameter pureRelaxation rounds
  exact ⟨sameResult, Power.point_congr sameComponents ▸ driver⟩

def coupledState (task : Task S) (parameter relaxation : Schedule S) (criterion : Criterion S) :
    SolverState S where
  iterate := Power.point task.maps.length fun _ => task.start
  criterion := some criterion
  method := .splitting
    (coupled parameter relaxation (Power.point task.maps.length fun _ => task.start))

def coupledCourse (task : Task S) (criterion : Criterion S) (decorators : List (Decorator S)) :
    Course S :=
  ⟨coupledProblem task, .douglasRachford, criterion, decorators⟩

omit [ExactScalar S] in
theorem lasting_plain : SolverState.Lasting fun state : SolverState S => state.extras = [] where
  iterate := fun _ plain => plain
  order := fun order plain => by
    rw [SolverState.changeCyclic]
    split <;> simp [SolverState.dropExtra, plain]
  key := fun key plain => by
    rw [SolverState.changeCyclic]
    split <;> exact plain
  driver := fun driver plain => by
    rw [SolverState.changeSplitting]
    split <;> exact plain

section Runs

variable {criterion : Criterion S} {decorators : List (Decorator S)}
  (straight : task.manifold.geometry.Straight)
  (positive : ∀ extent ∈ shape, 0 < extent) (several : 0 < task.maps.length)
  (shaped : task.start.hasShape shape = true)
include straight positive several shaped

/-- A run that returns has made as many rounds as it counted. -/
theorem coupled_of_solve (keeps : KeepShape task.maps shape) {steps : Nat} {before left : Memory S}
    (begins : before.2.state = coupledState task parameter relaxation criterion)
    (ran : (solveWithin steps (coupledProblem task) decorators).run before = (.ok point, left)) :
    ∃ iterations, 1 ≤ iterations ∧
      Coupled task shape parameter relaxation iterations ⟨point, left.2.state, decorators⟩ := by
  have fits : (coupledCourse task criterion decorators).Fits before.2.state := by
    rw [begins]
    exact ⟨rfl, rfl⟩
  -- Without extra fields, what the state shows under a name is its own field.
  have plain : left.2.state.extras = [] := by
    have counts : ∀ {state : SolverState S} iterations, state.extras = [] →
        (state.withIterations iterations).extras = [] := by
      intro state iterations plain
      simp [SolverState.withIterations, plain]
    have stays : Stays _ (solveWithin steps (coupledProblem task) decorators) :=
      stays_solveWithin lasting_plain counts steps
    have kept := stays before (congrArg SolverState.extras begins)
    rwa [ran] at kept
  have begun : ((coupledCourse task criterion decorators).begin before).2.state.method =
      .splitting (coupled parameter relaxation
        (Power.point task.maps.length fun _ => task.start)) :=
    congrArg SolverState.method begins
  have problem : (coupledCourse task criterion decorators).problem = coupledProblem task := rfl
  have solver : (coupledCourse task criterion decorators).solver = .douglasRachford := rfl
  cases Course.solveWithin_ends fits ran with
  | @closed iterations last _ _ bound stopped closed =>
      obtain ⟨component, rounds, method⟩ :=
        (stopped.performs_step (Nat.le_refl iterations)).hasRounds problem solver straight positive
          several shaped keeps begun
      obtain ⟨state, result⟩ := Course.close_ok closed
      rw [stopped.state] at state result
      have count : 1 ≤ iterations := by
        cases stopped with
        | met _ _ _ => omega
      refine ⟨iterations, count, ?_, ?_, component, ?_, ?_⟩
      · rw [state]
        exact SolverState.iterations_withIterations _ iterations
      · rw [SolverState.field?, plain, state, result]
        rfl
      · rw [result]
        exact rounds
      · have sameMethod : left.2.state.method = .splitting
            (coupled parameter relaxation (Power.point task.maps.length component)) := by
          rw [state]
          exact method
        exact SolverState.field_driver plain sameMethod

/-- If no function fails, a run that nobody watches makes as many rounds as its limit allows. -/
theorem solve_reaches_limit (keeps : KeepShape task.maps shape) {number iterations steps : Nat}
    {before : Memory S}
    (begins : before.2.state = coupledState task parameter relaxation
      (.single number (.iterations (.integer iterations))))
    (count : 1 ≤ iterations) (bound : iterations ≤ steps)
    (total : ∀ number fault, ¬ FunctionRaises task.maps parameter relaxation number fault) :
    ∃ point left, (solveWithin steps (coupledProblem task) []).run before = (.ok point, left) ∧
      Coupled task shape parameter relaxation iterations ⟨point, left.2.state, []⟩ := by
  let course := coupledCourse task (.single number (.iterations (.integer iterations))) []
  have fits : course.Fits before.2.state := by
    rw [begins]
    exact ⟨rfl, rfl⟩
  have begun : (course.begin before).2.state.method =
      .splitting (coupled parameter relaxation
        (Power.point task.maps.length fun _ => task.start)) :=
    congrArg SolverState.method begins
  have problem : course.problem = coupledProblem task := rfl
  have solver : course.solver = .douglasRachford := rfl
  obtain ⟨prepared, prepares, _⟩ :=
    course.exists_prepared problem solver straight positive several shaped begun
  -- Every step finds the state of some rounds, so that only a function of the caller could fail.
  have steps : ∀ done middle, course.Pending (course.begin before) done middle →
      ∃ stepped, course.Performs [.step (done + 1)] middle stepped := by
    intro done middle pending
    have rounds := pending.hasRounds problem solver straight positive several shaped keeps begun
    rcases ran : (course.perform (.step (done + 1))).run middle with ⟨outcome, stepped⟩
    rcases Course.perform_round problem solver straight positive several shaped keeps rounds ran
      with ⟨fault, _, raised⟩ | ⟨rfl, _⟩
    · exact absurd raised (total _ fault)
    · exact ⟨stepped, Course.performs_cons.mpr ⟨stepped, ran, Course.performs_nil.mpr rfl⟩⟩
  obtain ⟨last, stopped⟩ := Course.exists_stops rfl rfl prepares steps count rfl
  have closed := course.run_close (Course.performs_nil.mpr rfl :
    course.Performs (course.looks (-1)) (Course.counted iterations last) _)
  have ran := (Course.Ends.closed bound stopped closed).run fits
  obtain ⟨counted, _, led⟩ := coupled_of_solve straight positive several shaped keeps begins ran
  obtain rfl := led.count_unique (SolverState.iterations_withIterations _ iterations)
  exact ⟨_, _, ran, led⟩

end Runs

inductive StandsFor (standard : S) : Option (Schedule S ⊕ Value S) → Schedule S → Prop
  | given (schedule : Schedule S) : StandsFor standard (some (.inl schedule)) schedule
  | number {setting : Value S} {value : S} : Setting.number setting = .ok value →
      StandsFor standard (some (.inr setting)) fun _ => pure value
  | standard : StandsFor standard none fun _ => pure standard

theorem scheduleOr_iff {standard : S} {setting : Option (Schedule S ⊕ Value S)}
    {schedule : Schedule S} :
    scheduleOr standard setting = .ok schedule ↔ StandsFor standard setting schedule := by
  constructor
  · intro chosen
    match setting with
    | none =>
        cases chosen
        exact .standard
    | some (.inl _) =>
        cases chosen
        exact .given schedule
    | some (.inr raw) =>
        rw [scheduleOr, Schedule.ofSetting] at chosen
        cases read : Setting.number raw with
        | error _ =>
            rw [read] at chosen
            cases chosen
        | ok value =>
            rw [read] at chosen
            cases chosen
            exact .number read
  · intro stands
    cases stands with
    | given _ => rfl
    | number read => exact congrArg (Except.map Schedule.constant) read
    | standard => rfl

theorem StandsFor.unique {standard : S} {setting : Option (Schedule S ⊕ Value S)}
    {schedule other : Schedule S} (left : StandsFor standard setting schedule)
    (right : StandsFor standard setting other) : schedule = other := by
  have same := (scheduleOr_iff.mpr left).symm.trans (scheduleOr_iff.mpr right)
  exact Except.ok.inj same

section Setup

variable (straight : task.manifold.geometry.Straight)
  (positive : ∀ extent ∈ shape, 0 < extent) (several : 3 ≤ task.maps.length)
  (shaped : task.start.hasShape shape = true)

include positive several shaped in
theorem run_launch_coupled (settings : Settings S) (before : Journal × Workspace S) :
    ∃ journal, (launch task settings).run before =
      (start (Power.point task.maps.length fun _ => task.start)
        { settings with parallel := true } >>= fun state =>
          pure (coupledProblem task, state)).run (journal, before.2) := by
  have enough : ¬ task.maps.length < 2 := by omega
  have more : ¬ task.maps.length = 2 := by omega
  obtain ⟨middle, posed⟩ := gives_parallelProblem task before.1
  have spread : ((Manifold.power task.manifold task.maps.length).diagonal task.start).Gives
      (Power.point task.maps.length fun _ => task.start) :=
    (Compute.gives_pure (task.manifold, task.maps.length)).bind
      (Power.gives_diagonal positive (by omega) shaped)
  obtain ⟨journal, driven⟩ := spread middle
  refine ⟨journal, ?_⟩
  rw [launch, if_neg enough, if_neg more]
  refine (run_bind_of_ok (run_liftM_of posed before.2)).trans ?_
  exact run_bind_of_ok (run_liftM_of driven before.2)

include positive several shaped in
theorem run_minimize (settings : Settings S) (watchers : Decorator.Watchers S)
    (before : Journal × Workspace S) :
    ∃ journal, (minimize task settings watchers).run before =
      (start (Power.point task.maps.length fun _ => task.start)
        { settings with parallel := true } >>= fun state =>
          solveWatched (coupledProblem task) state watchers).run (journal, before.2) := by
  obtain ⟨journal, launched⟩ := run_launch_coupled positive several shaped settings before
  refine ⟨journal, ?_⟩
  rw [minimize_eq, run_bind_of_run launched, bind_assoc]
  simp only [pure_bind]

variable (keeps : KeepShape task.maps shape) {settings : Settings S}
  (standard : settings.reflection = none)
include straight positive several shaped keeps standard

theorem coupled_of_minimize {watchers : Decorator.Watchers S} {minimizer : Minimizer S}
    {before after : Journal × Workspace S}
    (ended : (minimize task settings watchers).run before = (.ok minimizer, after)) :
    ∃ parameter relaxation iterations,
      StandsFor SolverDefaults.proximalParameter settings.parameter parameter ∧
      StandsFor SolverDefaults.relaxation settings.relaxation relaxation ∧
      1 ≤ iterations ∧ Coupled task shape parameter relaxation iterations minimizer := by
  obtain ⟨journal, whole⟩ := run_minimize positive several shaped settings watchers before
  rw [whole, start_eq, standard] at ended
  obtain ⟨state, ready, started, ended⟩ := run_bind_ok_iff.mp ended
  obtain ⟨criterion, _, _, started⟩ := run_bind_ok_iff.mp started
  obtain ⟨parameter, _, chosen, started⟩ := run_bind_ok_iff.mp started
  obtain ⟨relaxation, _, relaxed, started⟩ := run_bind_ok_iff.mp started
  rw [run_compute_liftM] at chosen relaxed
  cases started
  obtain ⟨decorators, _, _, ended⟩ := run_bind_ok_iff.mp ended
  obtain ⟨⟨state, point⟩, _, solved, ended⟩ := run_bind_ok_iff.mp ended
  cases ended
  obtain ⟨left, ran, rfl⟩ := Run.exists_of_onState solved
  rw [solve] at ran
  have begins : ∀ journal workspace,
      ((journal, ⟨workspace, coupledState task parameter relaxation criterion⟩) :
        Memory S).2.state = coupledState task parameter relaxation criterion := fun _ _ => rfl
  obtain ⟨iterations, count, led⟩ :=
    coupled_of_solve straight positive (by omega) shaped keeps (begins _ _) ran
  exact ⟨parameter, relaxation, iterations, scheduleOr_iff.mp (congrArg Prod.fst chosen),
    scheduleOr_iff.mp (congrArg Prod.fst relaxed), count, led⟩

theorem minimize_reaches_limit {number iterations : Nat}
    (limited : settings.criterion = some (.single number (.iterations (.integer iterations))))
    (count : 1 ≤ iterations) (bound : iterations ≤ stepBudget)
    (chosen : StandsFor SolverDefaults.proximalParameter settings.parameter parameter)
    (relaxed : StandsFor SolverDefaults.relaxation settings.relaxation relaxation)
    (total : ∀ iteration fault,
      ¬ FunctionRaises task.maps parameter relaxation iteration fault)
    (before : Journal × Workspace S) :
    ∃ minimizer after, (minimize task settings {}).run before = (.ok minimizer, after) ∧
      Coupled task shape parameter relaxation iterations minimizer := by
  obtain ⟨journal, whole⟩ := run_minimize positive several shaped settings {} before
  let state := coupledState task parameter relaxation
    (.single number (.iterations (.integer iterations)))
  have given : ({ settings with parallel := true } : Settings S).criterion =
      .some (.single number (.iterations (.integer iterations))) := limited
  have started : (start (Power.point task.maps.length fun _ => task.start)
      { settings with parallel := true }).run (journal, before.2) =
        (.ok state, (journal, before.2)) := by
    refine (run_start given (scheduleOr_iff.mpr chosen) (scheduleOr_iff.mpr relaxed)).trans ?_
    rw [standard]
    rfl
  have unwatched : (Decorator.ofWatchers {}).run (journal, before.2) =
      (.ok ([] : List (Decorator S)), (journal, before.2)) := rfl
  have begins : ((journal, ⟨before.2, state⟩) : Memory S).2.state = state := rfl
  obtain ⟨point, left, ran, led⟩ :=
    solve_reaches_limit straight positive (by omega) shaped keeps begins count bound total
  have solved : (Run.onState state (solve (coupledProblem task) [])).run (journal, before.2) =
      (.ok (left.2.state, point), (left.1, left.2.workspace)) := by
    rw [solve, Run.run_onState_of ran]
    rfl
  refine ⟨⟨point, left.2.state, []⟩, (left.1, left.2.workspace), ?_, led⟩
  rw [whole, run_bind_of_ok started, solveWatched, run_bind_of_ok unwatched]
  exact run_bind_of_ok solved

end Setup

/-- Minimizing more than two functions on flat space is the coupled recursion with the schedules
that the settings stand for. Whatever stops the run and whoever watches it, the result and the
components of the driver are those after as many rounds as the run counted; a run with a limit
returns after just as many, unless a function that the caller gave fails. If these functions are
pure, there is only one result of so many rounds. -/
theorem minimize_couples_rounds {strictness : Strictness}
    (built : Manifold.euclideanOf strictness (shape.map fun (extent : Nat) => .integer extent) =
      .ok task.manifold)
    (shaped : task.start.hasShape shape = true) (keeps : KeepShape task.maps shape)
    (several : 3 ≤ task.maps.length) {settings : Settings S}
    (standard : settings.reflection = none) :
    (∀ watchers before minimizer after,
      (minimize task settings watchers).run before = (.ok minimizer, after) →
      ∃ parameter relaxation iterations,
        StandsFor SolverDefaults.proximalParameter settings.parameter parameter ∧
        StandsFor SolverDefaults.relaxation settings.relaxation relaxation ∧
        1 ≤ iterations ∧ Coupled task shape parameter relaxation iterations minimizer) ∧
    (∀ number (iterations : Nat) parameter relaxation before,
      settings.criterion = some (.single number (.iterations (.integer iterations))) →
      1 ≤ iterations → iterations ≤ stepBudget →
      StandsFor SolverDefaults.proximalParameter settings.parameter parameter →
      StandsFor SolverDefaults.relaxation settings.relaxation relaxation →
      (∀ iteration fault, ¬ FunctionRaises task.maps parameter relaxation iteration fault) →
      ∃ minimizer after, (minimize task settings {}).run before = (.ok minimizer, after) ∧
        Coupled task shape parameter relaxation iterations minimizer) ∧
    (∀ parameter relaxation watchers before minimizer after (iterations : Nat) result component,
      StandsFor SolverDefaults.proximalParameter settings.parameter parameter →
      StandsFor SolverDefaults.relaxation settings.relaxation relaxation →
      (∀ proximalMap ∈ task.maps, proximalMap.Pure) → parameter.Pure → relaxation.Pure →
      (minimize task settings watchers).run before = (.ok minimizer, after) →
      minimizer.state.field? "iterations" = some (.integer iterations) →
      Rounds task.maps shape parameter relaxation task.start iterations result component →
      minimizer.point = result ∧
        minimizer.state.field? "t" = some (.array (Power.point task.maps.length component))) := by
  obtain ⟨_, straight⟩ := checked_of_euclidean built
  have positive := positive_of_euclidean built
  refine ⟨?returned, ?limited, ?unique⟩
  case returned =>
    intro watchers before minimizer after ended
    exact coupled_of_minimize straight positive several shaped keeps standard ended
  case limited =>
    intro number iterations parameter relaxation before limited count bound chosen relaxed total
    exact minimize_reaches_limit straight positive several shaped keeps standard limited count
      bound chosen relaxed total before
  case unique =>
    intro parameter relaxation watchers before minimizer after iterations result component chosen
      relaxed pureMaps pureParameter pureRelaxation ended counts rounds
    obtain ⟨_, _, counted, chosen', relaxed', _, coupled⟩ :=
      coupled_of_minimize straight positive several shaped keeps standard ended
    obtain rfl := chosen.unique chosen'
    obtain rfl := relaxed.unique relaxed'
    obtain rfl := coupled.count_unique counts
    exact coupled.unique pureMaps pureParameter pureRelaxation rounds

section Sample

def sampleLine : Manifold ℚ :=
  match Manifold.euclideanOf .strict [.integer 1] with
  | .ok line => line
  | .error _ => .ofGeometry (euclidean [1])

def sampleTask : Task ℚ where
  manifold := sampleLine
  objective := .total
  maps := [.shrink, .scaling (1 / 2), .constant (.stack [.scalar 5])]
  start := .stack [.scalar 1]

def sampleSettings : Settings ℚ where
  criterion := some (.single 0 (.iterations (.integer 3)))
  parameter := some (.inl (.affine 1 1))

theorem sample_keepShape : KeepShape sampleTask.maps [1] := by
  intro proximalMap member value point moved shaped yields
  simp only [sampleTask, List.mem_cons, List.not_mem_nil, or_false] at member
  rcases member with rfl | rfl | rfl
  · rw [Compute.yields_pure.mp yields]
    simpa using shaped
  · rw [Compute.yields_pure.mp yields]
    simpa using shaped
  · rw [Compute.yields_pure.mp yields]
    rfl

theorem sample_never_raises (iteration : Int) (fault : Fault ℚ) :
    ¬ FunctionRaises sampleTask.maps (Schedule.affine 1 1) (Schedule.constant (9 / 10)) iteration
      fault := by
  rintro (⟨_, raised⟩ | ⟨_, raised⟩ | ⟨proximalMap, member, _, _, _, raised⟩)
  · cases raised
  · cases raised
  · simp only [sampleTask, List.mem_cons, List.not_mem_nil, or_false] at member
    rcases member with rfl | rfl | rfl
    all_goals cases raised

theorem sample_couples_rounds :
    Manifold.euclideanOf .strict [.integer 1] = .ok sampleTask.manifold ∧
      sampleTask.start.hasShape [1] = true ∧ KeepShape sampleTask.maps [1] ∧
      3 ≤ sampleTask.maps.length ∧ sampleSettings.reflection = none ∧
      ∃ minimizer after,
        (minimize sampleTask sampleSettings {}).run ({}, { clock := 0 }) = (.ok minimizer, after) ∧
        Coupled sampleTask [1] (Schedule.affine 1 1) (Schedule.constant (9 / 10)) 3 minimizer := by
  have built : Manifold.euclideanOf .strict
      ([1].map fun (extent : Nat) => (.integer extent : Value ℚ)) = .ok sampleTask.manifold := rfl
  have shaped : sampleTask.start.hasShape [1] = true := rfl
  have several : 3 ≤ sampleTask.maps.length := by decide
  have standard : sampleSettings.reflection = none := rfl
  obtain ⟨_, returns, _⟩ := minimize_couples_rounds built shaped sample_keepShape several standard
  obtain ⟨minimizer, after, ran, led⟩ := returns 0 3 (Schedule.affine 1 1)
    (Schedule.constant (9 / 10)) ({}, { clock := 0 }) rfl (by decide) (by decide) (.given _)
    .standard sample_never_raises
  exact ⟨built, shaped, sample_keepShape, several, standard, minimizer, after, ran, led⟩

end Sample

end DouglasRachford

end ProximalSplitting

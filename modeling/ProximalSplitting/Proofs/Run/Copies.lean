import ProximalSplitting.Proofs.Method.Copies
import ProximalSplitting.Proofs.Run.Capped
import ProximalSplitting.Proofs.Run.Launch

/-!
Douglas-Rachford splitting of copies of one map. The parallel method with the copies and the
classical one with the map and the identity take the same number of iterations and return the same
point, and after every step the driver of the first is the diagonal point of that of the second.
-/

namespace ProximalSplitting

open Compute Effect Tracked DouglasRachford

variable {S : Type} [Scalar S] {base : Manifold S} {copies : Nat} {proximalMap : ProximalMap S}
  {region : Point S → Prop} {parameters : SplittingParameters S}

namespace Course

variable {left right : Course S}

structure Copied (base : Manifold S) (copies : Nat) (proximalMap : ProximalMap S)
    (left right : Course S) : Prop where
  splits : SplitsCopies base copies proximalMap left.problem right.problem
  leftSolver : left.solver = .douglasRachford
  rightSolver : right.solver = .douglasRachford
  criterion : left.criterion = right.criterion
  flat : left.criterion.WithoutGradient
  pureCost : ∀ point, (left.problem.cost point).Pure
  leftUnwatched : left.decorators = []
  rightUnwatched : right.decorators = []

abbrev Fitting (copies : Nat) (region : Point S → Prop) (parameters : SplittingParameters S)
    (course : Course S) : Memory S → Memory S → Prop :=
  Beside True (Session.Along (OnDiagonal copies region parameters) course.Agree)

abbrev Launched (copies : Nat) (region : Point S → Prop) (parameters : SplittingParameters S) :
    Memory S → Memory S → Prop :=
  Beside True (Session.Along (Starting copies region parameters) (Workspace.Agree [] []))

abbrev Arrived (copies : Nat) (region : Point S → Prop) (parameters : SplittingParameters S) :
    Memory S → Memory S → Prop :=
  fun before mirrored => OnDiagonal copies region parameters before.2.state mirrored.2.state ∧
    ∃ iterations : Nat, before.2.state.field? "iterations" = some (.integer iterations) ∧
      mirrored.2.state.field? "iterations" = some (.integer iterations)

variable (copied : Copied base copies proximalMap left right)
  (repeatable : Repeatable base copies proximalMap region) (several : 0 < copies)
  (standard : Standard parameters)
include copied repeatable several standard

theorem mirrors_copied_step (iteration : Nat) :
    Mirrors (Fitting copies region parameters left) (left.perform (.step iteration))
      (right.perform (.step iteration)) := by
  rw [perform, perform, copied.leftSolver, copied.rightSolver]
  exact Run.mirrors_step
    (DouglasRachford.mirrors_copied_step repeatable several copied.splits standard iteration)

omit several standard in
theorem mirrors_copied_check {iteration : Nat} (later : iteration ≠ 0) :
    Mirrors (Fitting copies region parameters left) (left.check iteration)
      (right.check iteration) := by
  rw [check, check, checkCriterion, checkCriterion, ← copied.criterion]
  refine Run.mirrors_watch fun _ _ onDiagonal => ?_
  have judged := judged_of_onDiagonal copied.splits onDiagonal repeatable.pure copied.pureCost
    copied.flat
  exact Criterion.check_mirrors judged (by exact_mod_cast later) left.criterion
    (fun _ member => member) fun _ member => member

omit several standard in
theorem leads_copied_prepare :
    Leads (Launched copies region parameters) (fun _ _ => True)
      (Beside True (Session.Along (OnDiagonal copies region parameters)
        (Workspace.Agree [] [])))
      (left.perform .prepare) (right.perform .prepare) := by
  rw [perform, perform, copied.leftSolver, copied.rightSolver]
  rintro ⟨journal, workspace, state⟩ ⟨journal', workspace', state'⟩ ⟨_, starting, agree⟩
  obtain ⟨after, iterate, ran, ran', onDiagonal⟩ :=
    run_copied_prepare repeatable copied.splits journal journal' starting
  have onPower : (Run.step (prepare left.problem) : Run S Unit).run
      (journal, ⟨workspace, state⟩) = _ := Run.run_step_of ran
  have onBase : (Run.step (prepare right.problem) : Run S Unit).run
      (journal', ⟨workspace', state'⟩) = _ := Run.run_step_of ran'
  have prepares : (Solver.douglasRachford : Solver S).prepare = prepare := rfl
  rw [prepares, onPower, onBase]
  exact ⟨rfl, trivial, fun _ _ => ⟨.inr trivial, onDiagonal, agree⟩⟩

omit repeatable several standard in
theorem leads_copied_check_zero :
    Leads (Beside True (Session.Along (OnDiagonal copies region parameters)
        (Workspace.Agree [] []))) (fun _ _ => True) (Fitting copies region parameters left)
      (left.perform (.check 0)) (right.perform (.check 0)) := by
  rintro before mirrored ⟨journals, onDiagonal, agree⟩
  rw [left.run_perform_check_zero before, right.run_perform_check_zero mirrored]
  exact ⟨rfl, trivial, fun _ _ =>
    ⟨journals, onDiagonal, agree_renewed copied.criterion onDiagonal.1 agree⟩⟩

omit several standard in
theorem leads_copied_opening :
    Leads (Launched copies region parameters) (fun _ _ => True)
      (Fitting copies region parameters left) (left.performAll left.opening)
      (right.performAll right.opening) := by
  rw [opening, opening, looks, looks, copied.leftUnwatched, copied.rightUnwatched]
  refine leads_bind (leads_copied_prepare copied repeatable) fun _ => ?_
  refine leads_bind (leads_copied_check_zero copied) fun _ => ?_
  exact (mirrors_pure ()).leads fun _ _ _ => trivial

theorem mirrors_copied_advance (iteration : Nat) :
    Mirrors (Fitting copies region parameters left) (left.performAll (left.advance iteration))
      (right.performAll (right.advance iteration)) := by
  rw [advance, advance, looks, looks, copied.leftUnwatched, copied.rightUnwatched]
  exact mirrors_bind (mirrors_copied_step copied repeatable several standard iteration) fun _ =>
    mirrors_pure ()

omit repeatable several standard in
theorem leads_copied_close (iterations : Nat) :
    Leads (Fitting copies region parameters left) (fun _ _ => True)
      (Arrived copies region parameters) (left.close iterations) (right.close iterations) := by
  rintro before mirrored ⟨_, ⟨iterate, drivers⟩, _⟩
  rw [run_close_unwatched copied.leftUnwatched, run_close_unwatched copied.rightUnwatched,
    copied.leftSolver, copied.rightSolver]
  refine ⟨congrArg Except.ok iterate, trivial, fun _ _ => ⟨⟨iterate, drivers⟩, iterations, ?_, ?_⟩⟩
  · exact SolverState.iterations_withIterations _ iterations
  · exact SolverState.iterations_withIterations _ iterations

theorem leads_copied_continueRun (remaining done : Nat) :
    Leads (Fitting copies region parameters left) (fun _ _ => True)
      (Arrived copies region parameters) (left.continueRun remaining done)
      (right.continueRun remaining done) := by
  induction remaining generalizing done with
  | zero => exact fun before mirrored _ => ⟨rfl, trivial, fun _ ended => nomatch ended⟩
  | succ remaining ih =>
      rw [continueRun_succ, continueRun_succ]
      refine leads_bind ((mirrors_copied_advance copied repeatable several standard
        (done + 1)).leads fun _ _ _ => trivial) fun _ => ?_
      refine leads_bind ((mirrors_copied_check copied repeatable
        (Nat.succ_ne_zero done)).leads fun _ _ _ => trivial) fun met => ?_
      exact leads_ite (leads_copied_close copied (done + 1)) (ih (done + 1))

theorem leads_copied_whole (steps : Nat) :
    Leads (Launched copies region parameters) (fun _ _ => True)
      (Arrived copies region parameters) (left.whole steps) (right.whole steps) := by
  rw [whole, whole]
  exact leads_bind (leads_copied_opening copied repeatable) fun _ =>
    leads_copied_continueRun copied repeatable several standard steps 0

theorem leads_copied_callsThrough (done : Nat) :
    Leads (Launched copies region parameters) (fun _ _ => True)
      (Fitting copies region parameters left) (left.performAll (left.callsThrough done))
      (right.performAll (right.callsThrough done)) := by
  induction done with
  | zero => exact leads_copied_opening copied repeatable
  | succ done ih =>
      have checked : Mirrors (Fitting copies region parameters left)
          (left.performAll [.check (done + 1)]) (right.performAll [.check (done + 1)]) := by
        refine mirrors_bind (mirrors_bind (mirrors_copied_check copied repeatable
          (Nat.succ_ne_zero done)) fun _ => mirrors_pure ()) fun _ => mirrors_pure ()
      rw [callsThrough, callsThrough, performAll_append, performAll_append, performAll_append,
        performAll_append]
      refine leads_bind (leads_bind ih fun _ => ?_) fun _ => checked.leads fun _ _ _ => trivial
      exact (mirrors_copied_advance copied repeatable several standard (done + 1)).leads
        fun _ _ _ => trivial

theorem leads_copied_callsUntilStep (iteration : Nat) :
    Leads (Launched copies region parameters) (fun _ _ => True)
      (fun before mirrored => OnDiagonal copies region parameters before.2.state mirrored.2.state)
      (left.performAll (left.callsUntilStep iteration))
      (right.performAll (right.callsUntilStep iteration)) := by
  cases iteration with
  | zero =>
      refine (leads_bind (leads_copied_prepare copied repeatable) fun _ =>
        (mirrors_pure ()).leads fun _ _ _ => trivial).weaken (fun _ _ _ => trivial) ?_
      exact fun _ _ related => related.2.state
  | succ done =>
      rw [callsUntilStep, callsUntilStep, performAll_append, performAll_append]
      refine (leads_bind (leads_copied_callsThrough copied repeatable several standard done)
        fun _ => (mirrors_bind (mirrors_copied_step copied repeatable several standard (done + 1))
          fun _ => mirrors_pure ()).leads fun _ _ _ => trivial).weaken (fun _ _ _ => trivial) ?_
      exact fun _ _ related => related.2.state

end Course

namespace DouglasRachford

variable {settings : Settings S}

section Copying

omit [Scalar S] in
theorem withoutGradient_standard (number : Nat) :
    Criterion.WithoutGradient (S := S)
      (.single number (.iterations (.integer SolverDefaults.splittingIterations))) := by
  intro leaf member tolerance
  rw [Criterion.leaves, List.mem_singleton] at member
  rw [member]
  nofun

variable {objective : Objective S} {point : Point S}

def copiesTask (base : Manifold S) (objective : Objective S) (proximalMap : ProximalMap S)
    (copies : Nat) (point : Point S) : Task S :=
  ⟨base, objective, List.replicate copies proximalMap, point⟩

def aloneTask (base : Manifold S) (objective : Objective S) (proximalMap : ProximalMap S)
    (point : Point S) : Task S :=
  ⟨base, objective, [proximalMap, .identity], point⟩

variable (base proximalMap settings objective point) in
theorem run_launch_alone (journal : Journal) (workspace : Workspace S) :
    ∃ problem journal', problem.manifold = base ∧ problem.objective = objective ∧
      (∃ counts, problem.collection = some ⟨[proximalMap, .identity], counts⟩) ∧
      (launch (aloneTask base objective proximalMap point) settings).run (journal, workspace) =
        (start point { settings with parallel := false } >>= fun state =>
          pure (problem, state)).run (journal', workspace) := by
  let problem : Problem S :=
    { manifold := base, objective, collection := some ⟨[proximalMap, .identity], [1, 1]⟩ }
  have posed : (Tracked.compute (liftM (Problem.ofMaps base objective [proximalMap, .identity] .null)) :
      Watch S (Problem S)).run (journal, workspace) = (.ok problem, (journal, workspace)) := rfl
  refine ⟨problem, journal, rfl, rfl, ⟨[1, 1], rfl⟩, ?_⟩
  have count : (aloneTask base objective proximalMap point).maps.length = 2 := rfl
  rw [launch, if_neg (by omega), if_pos count]
  exact run_bind_of_ok posed

variable (base proximalMap settings objective point) in
theorem run_launch_copies (several : 3 ≤ copies) (journal : Journal) (workspace : Workspace S) :
    ∃ problem journal', problem.manifold = .power base copies ∧ problem.objective = objective ∧
      (∃ counts, problem.collection = some ⟨[ProximalMap.beside problem.manifold
        (List.replicate copies proximalMap), ProximalMap.diagonal problem.manifold], counts⟩) ∧
      (launch (copiesTask base objective proximalMap copies point) settings).run
          (journal, workspace) =
        (start (Power.repeated copies point) { settings with parallel := true } >>= fun state =>
          pure (problem, state)).run (journal', workspace) := by
  let outer : Manifold S := .power base copies
  let problem : Problem S := {
    manifold := outer
    objective := objective
    collection := some ⟨[ProximalMap.beside outer (List.replicate copies proximalMap),
      ProximalMap.diagonal outer], [1, 1]⟩ }
  have count : (copiesTask base objective proximalMap copies point).maps.length = copies :=
    List.length_replicate
  have posed : (parallelProblem (copiesTask base objective proximalMap copies point) outer).run
      journal = (.ok problem, journal) := by
    rw [parallelProblem, ProximalMap.parallel, Manifold.asPower, pure_bind]
    dsimp only
    rw [if_neg (not_not_intro count)]
    rfl
  have spread : (outer.diagonal point).Gives (Power.repeated copies point) :=
    (gives_pure (base, copies)).bind (Power.gives_combine_replicate (by omega) point)
  obtain ⟨journal', driven⟩ := spread journal
  refine ⟨problem, journal', rfl, rfl, ⟨[1, 1], rfl⟩, ?_⟩
  rw [launch, count, if_neg (by omega), if_neg (by omega)]
  exact (run_bind_of_ok (run_liftM_of posed workspace)).trans
    (run_bind_of_ok (run_liftM_of driven workspace))

variable (several : 3 ≤ copies) (inside : region point)
  (pureCost : ∀ point, (objective.cost point).Pure) (standard : settings.reflection = none)
  (pureParameter : ∀ schedule,
    scheduleOr SolverDefaults.proximalParameter settings.parameter = .ok schedule → schedule.Pure)
  (pureRelaxation : ∀ schedule,
    scheduleOr SolverDefaults.relaxation settings.relaxation = .ok schedule → schedule.Pure)
  (flat : ∀ criterion ∈ settings.criterion, criterion.WithoutGradient)
include several inside pureCost standard pureParameter pureRelaxation flat

/-- Both calls fail alike, or they begin runs that differ as copies of a map do. -/
theorem launches_cases (before : Journal × Workspace S) :
    (∃ fault,
      ((launch (copiesTask base objective proximalMap copies point) settings).run before).1 =
        .error fault ∧
      ((launch (aloneTask base objective proximalMap point) settings).run before).1 =
        .error fault) ∨
    ∃ left right first mirrored parameters,
      Launches (copiesTask base objective proximalMap copies point) settings before left first ∧
      Launches (aloneTask base objective proximalMap point) settings before right mirrored ∧
      Course.Copied base copies proximalMap left right ∧ Standard parameters ∧
      Course.Launched copies region parameters first mirrored := by
  obtain ⟨journal, workspace⟩ := before
  obtain ⟨problem, journal₁, manifold, isObjective, copied, launched⟩ :=
    run_launch_copies base proximalMap settings objective point several journal workspace
  obtain ⟨other, journal₂, baseManifold, isOther, alone, launched'⟩ :=
    run_launch_alone base proximalMap settings objective point journal workspace
  -- Both starts read the same settings; they differ in the point and in being parallel only.
  rcases start_cases Criterion.WithoutGradient flat withoutGradient_standard workspace with
    ⟨fault, after, failed⟩ |
      ⟨criterion, parameter, relaxation, after, isFlat, chosen, relaxed, started⟩
  · rw [launched, launched', run_bind_of_error (failed _ _ _), run_bind_of_error (failed _ _ _)]
    exact .inl ⟨fault, rfl, rfl⟩
  · rw [run_bind_of_ok (started _ _ _)] at launched launched'
    let left : Course S := ⟨problem, .douglasRachford, criterion, []⟩
    let right : Course S := ⟨other, .douglasRachford, criterion, []⟩
    refine .inr ⟨left, right, _, _, ⟨point, parameter, relaxation, none, false⟩,
      ⟨_, _, _, launched, ⟨rfl, rfl⟩, rfl, rfl⟩, ⟨_, _, _, launched', ⟨rfl, rfl⟩, rfl, rfl⟩, ?_,
      ⟨rfl, pureParameter _ chosen, pureRelaxation _ relaxed⟩, .inr trivial, ?_, ?_⟩
    · exact {
        splits := ⟨⟨_, manifold⟩, baseManifold, isObjective.trans isOther.symm, copied, alone⟩
        leftSolver := rfl
        rightSolver := rfl
        criterion := rfl
        flat := isFlat
        pureCost := fun point => by
          rw [Problem.cost, isObjective]
          exact pureCost point
        leftUnwatched := rfl
        rightUnwatched := rfl }
    · rw [standard]
      exact ⟨⟨point, inside, rfl, rfl⟩, rfl⟩
    · exact .of_judging rfl

end Copying

structure GoesAlong (base : Manifold S) (copies : Nat) (onPower onBase : Task S)
    (settings : Settings S) (before : Journal × Workspace S) : Prop where
  returns : (∃ fault, ((minimize onPower settings {}).run before).1 = .error fault ∧
      ((minimize onBase settings {}).run before).1 = .error fault) ∨
    ∃ found expected, ∃ iterations : Nat,
      ((minimize onPower settings {}).run before).1 = .ok found ∧
      ((minimize onBase settings {}).run before).1 = .ok expected ∧
      found.point = expected.point ∧
      found.state.field? "iterations" = some (.integer iterations) ∧
      expected.state.field? "iterations" = some (.integer iterations) ∧
      ∀ iteration ≤ iterations, ∃ state, Reaches onBase settings before iteration state
  reaches : ∀ iteration, (∃ state, Reaches onPower settings before iteration state) ↔
    ∃ state, Reaches onBase settings before iteration state
  drivers : ∀ {iteration state other}, Reaches onPower settings before iteration state →
    Reaches onBase settings before iteration other →
      ∃ driver diagonal, other.driver? = some driver ∧
        ((Manifold.power base copies).diagonal driver).Gives diagonal ∧
        state.driver? = some diagonal

theorem goesAlong_of_error {onPower onBase : Task S} {settings : Settings S}
    {before : Journal × Workspace S} {fault : Fault S}
    (failed : ((launch onPower settings).run before).1 = .error fault)
    (failed' : ((launch onBase settings).run before).1 = .error fault) :
    GoesAlong base copies onPower onBase settings before := by
  obtain ⟨ended, nowhere⟩ := run_minimize_of_error failed
  obtain ⟨ended', nowhere'⟩ := run_minimize_of_error failed'
  refine ⟨.inl ⟨fault, ended, ended'⟩, fun iteration => ?_, fun reached => ?_⟩
  · exact ⟨fun ⟨state, reached⟩ => absurd reached (nowhere iteration state),
      fun ⟨state, reached⟩ => absurd reached (nowhere' iteration state)⟩
  · exact absurd reached (nowhere _ _)

theorem goesAlong_of_launches {onPower onBase : Task S} {settings : Settings S}
    {before : Journal × Workspace S} {left right : Course S} {first mirrored : Memory S}
    (launches : Launches onPower settings before left first)
    (launches' : Launches onBase settings before right mirrored)
    (copied : Course.Copied base copies proximalMap left right)
    (repeatable : Repeatable base copies proximalMap region) (some : 0 < copies)
    (standard : Standard parameters)
    (launched : Course.Launched copies region parameters first mirrored) :
    GoesAlong base copies onPower onBase settings before := by
  have together : ∀ iteration, _ := fun iteration =>
    Course.leads_copied_callsUntilStep copied repeatable some standard iteration first mirrored
      launched
  refine ⟨?_, fun iteration => ?_, fun reached reached' => ?_⟩
  · obtain ⟨sameOutcome, _, arrived⟩ := Course.leads_copied_whole copied repeatable some standard
      stepBudget first mirrored launched
    have onPowerRan := congrArg Prod.fst launches.run_minimize
    have onBaseRan := congrArg Prod.fst launches'.run_minimize
    rcases outcome : ((left.whole stepBudget).run first).1 with fault | point
    · rw [outcome] at sameOutcome onPowerRan
      rw [← sameOutcome] at onBaseRan
      exact .inl ⟨fault, onPowerRan, onBaseRan⟩
    · rw [outcome] at sameOutcome onPowerRan
      rw [← sameOutcome] at onBaseRan
      obtain ⟨_, iterations, count, count'⟩ := arrived point outcome
      obtain ⟨counted, isCount, reached⟩ := exists_reached launches' onBaseRan
      cases isCount.symm.trans count'
      exact .inr ⟨_, _, iterations, onPowerRan, onBaseRan, rfl, count, count', reached⟩
  · rw [exists_reaches_iff launches, exists_reaches_iff launches', (together iteration).1]
  · obtain ⟨after, performed, rfl⟩ := (reaches_iff launches).mp reached
    obtain ⟨after', performed', rfl⟩ := (reaches_iff launches').mp reached'
    obtain ⟨_, _, onDiagonal⟩ := together _
    rw [performed, performed'] at onDiagonal
    obtain ⟨_, driver, _, leftMethod, rightMethod⟩ := onDiagonal () rfl
    refine ⟨driver, Power.repeated copies driver, ?_, ?_, ?_⟩
    · rw [SolverState.driver?, rightMethod]
    · exact (gives_pure (base, copies)).bind (Power.gives_combine_replicate some driver)
    · rw [SolverState.driver?, leftMethod]

/-- Splitting some copies of a map in parallel goes along with splitting the map and the identity,
wherever the mean of the copies of a point is that point, whatever the schedules are and the
criterion, as long as it does not look at the gradient. -/
theorem copies_split_like_one {objective : Objective S} {point : Point S} {settings : Settings S}
    (several : 3 ≤ copies) (repeatable : Repeatable base copies proximalMap region)
    (inside : region point) (pureCost : ∀ point, (objective.cost point).Pure)
    (standard : settings.reflection = none)
    (pureParameter : ∀ schedule,
      scheduleOr SolverDefaults.proximalParameter settings.parameter = .ok schedule → schedule.Pure)
    (pureRelaxation : ∀ schedule,
      scheduleOr SolverDefaults.relaxation settings.relaxation = .ok schedule → schedule.Pure)
    (flat : ∀ criterion ∈ settings.criterion, criterion.WithoutGradient)
    (before : Journal × Workspace S) :
    GoesAlong base copies (copiesTask base objective proximalMap copies point)
      (aloneTask base objective proximalMap point) settings before := by
  rcases launches_cases several inside pureCost standard pureParameter pureRelaxation flat before
    with ⟨fault, failed, failed'⟩ |
      ⟨left, right, first, mirrored, parameters, launches, launches', copied, isStandard, launched⟩
  · exact goesAlong_of_error failed failed'
  · exact goesAlong_of_launches launches launches' copied repeatable (by omega) isStandard launched

section Sample

def rationalLine : Manifold ℚ := .ofGeometry (euclidean [1])

def repeatedSettings : Settings ℚ where
  criterion := some
    (.set 2 .any [.single 0 (.iterations (.integer 4)), .single 1 (.change (1 / 10))])
  relaxation := some (.inl (Schedule.constant 1))

def copiesMemory : Journal × Workspace ℚ :=
  ({}, { clock := 0, criteria := List.replicate 3 ⟨"", none, 0⟩ })

theorem sample_repeatable :
    Repeatable rationalLine 3 ProximalMap.shrink fun point => point.hasShape [1] = true := by
  have straight : rationalLine.geometry.Straight := ⟨rfl, rfl, rfl⟩
  refine straight.repeatable (euclidean_pure [1]) (by decide) (by decide)
    (fun _ _ => pure_pure _) fun parameter point shaped => ?_
  exact ensures_pure (by simpa using shaped)

theorem sample_copies_split_like_one :
    3 ≤ 3 ∧
      Repeatable rationalLine 3 ProximalMap.shrink (fun point => point.hasShape [1] = true) ∧
      repeatedSettings.reflection = none ∧
      ((minimize (copiesTask rationalLine .total ProximalMap.shrink 3 (.stack [.scalar 8]))
        repeatedSettings {}).run copiesMemory).1.isOk = true ∧
      GoesAlong rationalLine 3
        (copiesTask rationalLine .total ProximalMap.shrink 3 (.stack [.scalar 8]))
        (aloneTask rationalLine .total ProximalMap.shrink (.stack [.scalar 8])) repeatedSettings
        copiesMemory := by
  refine ⟨by decide, sample_repeatable, rfl, by decide +kernel, ?_⟩
  refine copies_split_like_one (by decide) sample_repeatable rfl (fun point => pure_pure _) rfl
    ?_ ?_ ?_ _
  · intro schedule chosen
    cases chosen
    exact fun _ => pure_pure _
  · intro schedule chosen
    cases chosen
    exact fun _ => pure_pure _
  · intro criterion given leaf member tolerance
    cases given
    simp only [Criterion.leaves, Criterion.leavesOfAll, List.append_nil, List.cons_append,
      List.nil_append, List.mem_cons, List.not_mem_nil, or_false] at member
    rcases member with rfl | rfl
    · nofun
    · nofun

end Sample

end DouglasRachford

end ProximalSplitting

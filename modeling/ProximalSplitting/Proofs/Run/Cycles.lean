import ProximalSplitting.Proofs.Method.Cycle
import ProximalSplitting.Proofs.Run.Paths
import ProximalSplitting.Proofs.Run.Sample

/-!
Runs of the cyclic proximal point method. Whoever watches a run, its iterates are those of the fold
of the cycles from the point where it started, and order and key are those of its last cycle. The
order that an earlier run left in the state, for whatever number of maps, does not matter.
-/

namespace ProximalSplitting

open Effect Tracked CyclicProximalPoint

namespace Course

variable {S : Type} [Scalar S] (course : Course S)

structure FollowsCycles (maps : List (ProximalMap S)) (derived : Bool)
    (parameters : CyclicParameters S) (first : Memory S) (done : Nat) : Prop where
  start : course.iterateAt first 0 = first.2.state.iterate
  cycle : ∀ number, 1 ≤ number → number ≤ done → ∃ journal after,
    (cycle maps parameters number (course.iterateAt first (number - 1))).run journal =
      (.ok (course.iterateAt first number), after)
  fold : (∀ proximalMap ∈ maps, ProximalMap.Pure proximalMap) →
    Schedule.Pure parameters.parameter → ∀ journal,
      ((cycles maps parameters done first.2.state.iterate).run journal).1 =
        .ok (course.iterateAt first done)
  method : (course.afterStep first done).2.state.method =
    .cyclic derived (parameters.after maps.length done)

variable {course} {first middle reached : Memory S} {derived : Bool} {done : Nat}
  {parameters : CyclicParameters S} {collection : MapCollection S}

theorem Fits.cyclicProximalPoint {state : SolverState S} (fits : course.Fits state)
    (method : state.method = .cyclic derived parameters) :
    course.solver = .cyclicProximalPoint := by
  have found := fits.solver
  rw [Solver.ofState, method] at found
  exact (Except.ok.inj found).symm

theorem afterStep_prepare_cycle (cyclic : course.solver = .cyclicProximalPoint)
    (method : first.2.state.method = .cyclic derived parameters) (count : Nat) :
    course.iterateAt first 0 = first.2.state.iterate ∧
      (course.afterStep first 0).2.state.method =
        .cyclic derived (parameters.after count 0) := by
  obtain ⟨left, prepared, point, sameMethod⟩ :=
    run_prepare_cycle course.problem method count first.1
  have ran : (course.perform .prepare).run first =
      (.ok (), (first.1, { first.2 with state := left })) := by
    rw [perform, cyclic]
    exact Run.run_step_of prepared
  have after : course.afterStep first 0 = (first.1, { first.2 with state := left }) :=
    (performs_cons.mpr ⟨_, ran, performs_nil.mpr rfl⟩ :
      course.Performs [.prepare] first _).memoryAfter
  rw [iterateAt, after]
  exact ⟨point, sameMethod⟩

section Steps

variable (cyclic : course.solver = .cyclicProximalPoint)
  (collected : course.problem.collection = some collection)
include cyclic collected

theorem run_perform_cycle
    (method : middle.2.state.method =
      .cyclic derived (parameters.after collection.maps.length done)) :
    ∃ left, (course.perform (.step (done + 1))).run middle =
        (((cycle collection.maps parameters (done + 1) middle.2.state.iterate).run middle.1).1.map
            fun _ => (),
          (((cycle collection.maps parameters (done + 1) middle.2.state.iterate).run middle.1).2,
            { middle.2 with state := left })) ∧
      ∀ point, ((cycle collection.maps parameters (done + 1) middle.2.state.iterate).run
          middle.1).1 = .ok point →
        left.iterate = point ∧
          left.method = .cyclic derived (parameters.after collection.maps.length (done + 1)) := by
  obtain ⟨left, ran, reached⟩ := run_step_cycle collected method middle.1
  refine ⟨left, ?_, reached⟩
  rw [perform, cyclic]
  exact Run.run_step_of ran

theorem Performs.takes_cycle
    (method : middle.2.state.method =
      .cyclic derived (parameters.after collection.maps.length done))
    (stepped : course.Performs [.step (done + 1)] middle reached) :
    (∃ after, (cycle collection.maps parameters (done + 1) middle.2.state.iterate).run middle.1 =
        (.ok reached.2.state.iterate, after)) ∧
      reached.2.state.method =
        .cyclic derived (parameters.after collection.maps.length (done + 1)) := by
  obtain ⟨left, ran, taken⟩ := run_perform_cycle cyclic collected method
  obtain ⟨after, performed, ended⟩ := performs_cons.mp stepped
  cases performs_nil.mp ended
  rcases folded : (cycle collection.maps parameters (done + 1) middle.2.state.iterate).run middle.1
    with ⟨outcome, journal⟩
  rw [ran, folded] at performed
  rw [folded] at taken
  cases outcome with
  | error fault => cases performed
  | ok point =>
      cases performed
      obtain ⟨rfl, newMethod⟩ := taken point rfl
      exact ⟨⟨journal, rfl⟩, newMethod⟩

theorem Performs.followsCycles (method : first.2.state.method = .cyclic derived parameters)
    (performed : course.Performs (course.callsUntilStep done) first reached) :
    course.FollowsCycles collection.maps derived parameters first done := by
  obtain ⟨start, prepared⟩ := afterStep_prepare_cycle cyclic method collection.maps.length
  -- The fold of all cycles follows from the single ones, so the induction is on these.
  suffices steps : (∀ number, 1 ≤ number → number ≤ done → ∃ journal after,
        (cycle collection.maps parameters number (course.iterateAt first (number - 1))).run journal =
          (.ok (course.iterateAt first number), after)) ∧
      (course.afterStep first done).2.state.method =
        .cyclic derived (parameters.after collection.maps.length done) by
    obtain ⟨cycle, method⟩ := steps
    refine ⟨start, cycle, fun pureMaps pureSchedule journal => ?_, method⟩
    rw [← start]
    exact cycles_of_path pureMaps pureSchedule (course.iterateAt first) cycle journal
  induction done generalizing reached with
  | zero => exact ⟨fun number lower upper => by omega, prepared⟩
  | succ done ih =>
      obtain ⟨middle, through, stepped⟩ := performs_append.mp performed
      obtain ⟨shown, untilStep, sameState⟩ := through.through
      obtain ⟨cycle, sameMethod⟩ := ih untilStep
      have here : middle.2.state = (course.afterStep first done).2.state := by
        rw [sameState, afterStep, untilStep.memoryAfter]
      have now : course.afterStep first (done + 1) = reached := performed.memoryAfter
      obtain ⟨⟨after, folded⟩, newMethod⟩ :=
        stepped.takes_cycle cyclic collected (here ▸ sameMethod)
      refine ⟨fun number lower upper => ?_, by rw [now]; exact newMethod⟩
      by_cases newest : number = done + 1
      · subst newest
        refine ⟨middle.1, after, ?_⟩
        rw [Nat.add_sub_cancel, iterateAt, iterateAt, now, ← here]
        exact folded
      · exact cycle number lower (by omega)

theorem raises_of_perform_cycle
    (method : middle.2.state.method =
      .cyclic derived (parameters.after collection.maps.length done)) {fault : Fault S}
    {after : Memory S}
    (failed : (course.perform (.step (done + 1))).run middle = (.error fault, after)) :
    (parameters.parameter (done + 1 : Nat)).Raises middle.1 fault ∨
      ∃ proximalMap ∈ collection.maps, ∃ parameter point between,
        (proximalMap parameter point).Raises between fault := by
  obtain ⟨left, ran, _⟩ := run_perform_cycle cyclic collected method
  rcases folded : (cycle collection.maps parameters (done + 1) middle.2.state.iterate).run middle.1
    with ⟨outcome, journal⟩
  rw [ran, folded] at failed
  cases outcome with
  | ok point => cases failed
  | error raised =>
      cases failed
      exact cycle_raises folded

end Steps

/-- The method computes the fold of its cycles. This holds of its steps alone, as long as nothing
fails, and of every run with any criterion and decorators. Every order lists each position once, so
that a cycle applies each map once, and a step fails only if the schedule or a map does. -/
theorem cyclic_solve_folds_cycles {before : Memory S} (fits : course.Fits before.2.state)
    (method : before.2.state.method = .cyclic derived parameters)
    (collected : course.problem.collection = some collection) :
    (∀ count journal, ∃ left, (takeCycles course.problem count).run (journal, before.2.state) =
        (((cycles collection.maps parameters count before.2.state.iterate).run journal).1.map
            fun _ => (),
          (((cycles collection.maps parameters count before.2.state.iterate).run journal).2, left)) ∧
      ∀ point, ((cycles collection.maps parameters count before.2.state.iterate).run journal).1 =
          .ok point →
        left.iterate = point ∧
          left.method = .cyclic derived (parameters.after collection.maps.length count)) ∧
    (∀ done reached, course.Performs (course.callsUntilStep done) (course.begin before) reached →
      course.FollowsCycles collection.maps derived parameters (course.begin before) done) ∧
    (∀ steps point after, (solveWithin steps course.problem course.decorators).run before =
        (.ok point, after) →
      ∃ iterations, 1 ≤ iterations ∧ iterations ≤ steps ∧
        course.FollowsCycles collection.maps derived parameters (course.begin before) iterations ∧
        point = course.iterateAt (course.begin before) iterations ∧
        after.2.state.iterate = point ∧
        after.2.state.method =
          .cyclic derived (parameters.after collection.maps.length iterations)) ∧
    (∀ number, (parameters.orderOf collection.maps.length number).Perm
        (List.range collection.maps.length) ∧
      (arranged collection.maps (parameters.orderOf collection.maps.length number)).map some =
        (parameters.orderOf collection.maps.length number).map (collection.maps[·]?)) ∧
    (∀ done middle fault after, course.Pending (course.begin before) done middle →
      (course.perform (.step (done + 1))).run middle = (.error fault, after) →
      (parameters.parameter (done + 1 : Nat)).Raises middle.1 fault ∨
        ∃ proximalMap ∈ collection.maps, ∃ parameter point between,
          (proximalMap parameter point).Raises between fault) := by
  have cyclic := fits.cyclicProximalPoint method
  have begun : (course.begin before).2.state.method = .cyclic derived parameters := method
  refine ⟨fun count journal => run_takeCycles collected method journal count,
    fun done reached performed => performed.followsCycles cyclic collected begun,
    fun steps point after ended => ?_, fun number => ?_,
    fun done middle fault after pending failed => ?_⟩
  · cases solveWithin_ends fits ended with
    | @closed iterations last _ _ bound stopped closed =>
        have follows := (stopped.performs_step (Nat.le_refl iterations)).followsCycles cyclic
          collected begun
        obtain ⟨state, result⟩ := close_ok closed
        rw [cyclic] at result
        rw [stopped.state] at state result
        have positive : 1 ≤ iterations := by
          cases stopped with
          | met _ _ _ => omega
        refine ⟨iterations, positive, bound, follows, result, ?_, ?_⟩
        · rw [state, result]
          rfl
        · rw [state]
          exact follows.method
  · exact ⟨parameters.orderOf_perm _ number,
      map_some_arranged fun _ => parameters.lt_of_mem_orderOf⟩
  · obtain ⟨shown, untilStep, sameState⟩ := pending.performs.through
    have followed := (untilStep.followsCycles cyclic collected begun).method
    rw [afterStep, untilStep.memoryAfter, ← sameState] at followed
    exact raises_of_perform_cycle cyclic collected followed failed

section Sample

def usedParameters : CyclicParameters Int where
  parameter := fun iteration => pure iteration
  evaluationOrder := .linear
  order := some [2, 0, 1]
  key := ⟨0, 7⟩

def usedMemory : Memory Int :=
  (Sample.memory.1,
    { Sample.memory.2 with state := Sample.state.withMethod (.cyclic false usedParameters) })

theorem sample_folds_cycles :
    Sample.course.Fits usedMemory.2.state ∧
      usedMemory.2.state.method = .cyclic false usedParameters ∧
      Sample.problem.collection = some ⟨[.constant (Sample.mark 5), .shift (Sample.mark 1)], [1, 1]⟩ ∧
      ∃ point after, (solveWithin 5 Sample.course.problem Sample.course.decorators).run usedMemory =
          (.ok point, after) ∧
        ∃ iterations, 1 ≤ iterations ∧
          Sample.course.FollowsCycles [.constant (Sample.mark 5), .shift (Sample.mark 1)] false
            usedParameters (Sample.course.begin usedMemory) iterations ∧
          after.2.state.iterate = point ∧
          after.2.state.method = .cyclic false (usedParameters.after 2 iterations) := by
  have fits : Sample.course.Fits usedMemory.2.state := ⟨rfl, rfl⟩
  have succeeds : ((solveWithin 5 Sample.course.problem Sample.course.decorators).run
      usedMemory).1.isOk = true := by decide +kernel
  obtain ⟨point, after, ended⟩ := exists_ok_of_isOk succeeds
  have method : usedMemory.2.state.method = .cyclic false usedParameters := rfl
  have collected : Sample.course.problem.collection =
      some ⟨[.constant (Sample.mark 5), .shift (Sample.mark 1)], [1, 1]⟩ := rfl
  obtain ⟨_, _, solved, _, _⟩ := cyclic_solve_folds_cycles fits method collected
  obtain ⟨iterations, positive, _, follows, _, iterate, left⟩ := solved 5 point after ended
  exact ⟨fits, rfl, rfl, point, after, ended, iterations, positive, follows, iterate, left⟩

end Sample

end Course

end ProximalSplitting

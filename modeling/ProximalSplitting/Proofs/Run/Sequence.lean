import ProximalSplitting.Proofs.Run.Failure

/-!
A run that ends well, call by call. Whatever solver is registered for a state, the loop prepares,
checks and shows iteration 0, goes through the rounds of the iterations until the criterion is met
for the first time, counts them, and shows the end to every decorator once.
-/

namespace ProximalSplitting

open Effect Tracked

def Call.shown? {S : Type} : Call S → Option (Decorator S × Int)
  | .observe decorator iteration => some (decorator, iteration)
  | _ => none

namespace Course

variable {S : Type} [Scalar S] (course : Course S)

def round (iteration : Nat) : List (Call S) :=
  course.advance iteration ++ [.check iteration]

def calls (iterations : Nat) : List (Call S) :=
  course.opening ++ (List.range' 1 iterations).flatMap course.round

structure Completes (first : Memory S) (iterations : Nat) (last shown : Memory S) : Prop where
  positive : 1 ≤ iterations
  calls : course.Performs (course.calls iterations) first last
  verdicts : ∀ iteration, 1 ≤ iteration → iteration ≤ iterations →
    ((course.check iteration).run (course.atCheck first iteration)).1 =
      .ok (decide (iteration = iterations))
  closing : course.Performs (course.looks (-1)) (counted iterations last) shown

structure KeepsCount : Prop where
  prepare : Keeps (fun state => state.field? "iterations") (course.solver.prepare course.problem)
  step : ∀ iteration,
    Keeps (fun state => state.field? "iterations") (course.solver.step course.problem iteration)

structure Accounts (first : Memory S) (iterations : Nat) (last shown : Memory S) : Prop where
  stepped : last.2.state = (course.afterStep first iterations).2.state
  ended : shown.2.state = last.2.state.withIterations iterations
  count : (counted iterations last).2.state.field? "iterations" = some (.integer iterations)
  observed : (course.calls iterations ++ course.looks (-1)).filterMap Call.shown? =
    ((List.range (iterations + 1)).map Int.ofNat ++ [-1]).flatMap fun iteration =>
      course.decorators.map fun decorator => (decorator, iteration)
  checked : (course.calls iterations ++ course.looks (-1)).filterMap checked? =
    List.range (iterations + 1)

theorem callsThrough_eq_calls (iterations : Nat) :
    course.callsThrough iterations = course.calls iterations := by
  induction iterations with
  | zero => exact (List.append_nil _).symm
  | succ done ih =>
      rw [callsThrough, ih, calls, calls, List.range'_1_concat, List.flatMap_append,
        List.flatMap_singleton, Nat.add_comm 1 done, round, List.append_assoc, List.append_assoc]

theorem shown_looks (iteration : Int) :
    (course.looks iteration).filterMap Call.shown? =
      course.decorators.map fun decorator => (decorator, iteration) := by
  rw [looks, List.filterMap_map]
  exact congrFun List.filterMap_eq_map course.decorators

theorem shown_calls (iterations : Nat) :
    (course.calls iterations).filterMap Call.shown? =
      ((List.range (iterations + 1)).map Int.ofNat).flatMap fun iteration =>
        course.decorators.map fun decorator => (decorator, iteration) := by
  induction iterations with
  | zero =>
      rw [← callsThrough_eq_calls]
      simp [callsThrough, opening, List.filterMap_cons, Call.shown?, shown_looks]
  | succ done ih =>
      rw [← callsThrough_eq_calls, callsThrough, callsThrough_eq_calls, List.filterMap_append,
        List.filterMap_append, ih, List.range_succ (n := done + 1)]
      simp [advance, List.filterMap_cons, Call.shown?, shown_looks]

variable {course} {first middle last : Memory S} {done iterations : Nat}

theorem performs_check {iteration : Nat} {called after : Memory S}
    (performed : course.Performs [.check iteration] called after) :
    ∃ met, (course.check iteration).run called = (.ok met, after) := by
  obtain ⟨_, ran, ended⟩ := performs_cons.mp performed
  cases performs_nil.mp ended
  obtain ⟨met, between, ranAlone, ended⟩ := run_bind_ok_iff.mp ran
  cases ended
  exact ⟨met, ranAlone⟩

theorem Performs.last_round {after : Memory S}
    (performed : course.Performs (course.callsThrough (done + 1)) first after) :
    ∃ middle called met, course.Performs (course.callsThrough done) first middle ∧
      course.Performs (course.advance (done + 1)) middle called ∧
      course.atCheck first (done + 1) = called ∧
      (course.check (done + 1)).run called = (.ok met, after) := by
  obtain ⟨called, advanced, checked⟩ := performs_append.mp performed
  obtain ⟨met, checked⟩ := performs_check checked
  have reached : course.atCheck first (done + 1) = called := advanced.memoryAfter
  obtain ⟨middle, earlier, advanced⟩ := performs_append.mp advanced
  exact ⟨middle, called, met, earlier, advanced, reached, checked⟩

theorem Performs.pending (performed : course.Performs (course.callsThrough done) first middle)
    (verdicts : ∀ iteration, 1 ≤ iteration → iteration ≤ done →
      ((course.check iteration).run (course.atCheck first iteration)).1 = .ok false) :
    course.Pending first done middle := by
  induction done generalizing middle with
  | zero => exact .opened performed
  | succ done ih =>
      obtain ⟨earlier, called, met, before, advanced, reached, checked⟩ := performed.last_round
      have verdict := verdicts (done + 1) (by omega) (by omega)
      rw [reached, checked] at verdict
      cases verdict
      exact .passed (ih before fun iteration lower upper => verdicts iteration lower (by omega))
        advanced checked

theorem Pending.verdicts (pending : course.Pending first done middle) :
    ∀ iteration, 1 ≤ iteration → iteration ≤ done →
      ((course.check iteration).run (course.atCheck first iteration)).1 = .ok false :=
  pending.each fun before advanced checked => by rw [before.atCheck advanced, checked]

/-- A run stops after some iterations if and only if its calls until then succeed and the last of
the checks is the first one that is met. -/
theorem stops_iff : course.Stops first iterations last ↔
    1 ≤ iterations ∧ course.Performs (course.callsThrough iterations) first last ∧
      ∀ iteration, 1 ≤ iteration → iteration ≤ iterations →
        ((course.check iteration).run (course.atCheck first iteration)).1 =
          .ok (decide (iteration = iterations)) := by
  constructor
  · intro stopped
    cases stopped with
    | @met done middle called _ pending advanced checked =>
        refine ⟨by omega, ?_, fun iteration lower upper => ?_⟩
        · refine performs_append.mpr ⟨called, performs_append.mpr ⟨middle, pending.performs,
            advanced⟩, ?_⟩
          exact performs_cons.mpr ⟨last, run_bind_of_ok checked, performs_nil.mpr rfl⟩
        · by_cases newest : iteration = done + 1
          · subst newest
            rw [pending.atCheck advanced, checked, decide_eq_true rfl]
          · rw [pending.verdicts iteration lower (by omega), decide_eq_false newest]
  · rintro ⟨positive, performed, verdicts⟩
    obtain ⟨done, rfl⟩ : ∃ done, iterations = done + 1 := ⟨iterations - 1, by omega⟩
    obtain ⟨middle, called, met, before, advanced, reached, checked⟩ := performed.last_round
    have verdict := verdicts (done + 1) positive (Nat.le_refl _)
    rw [reached, checked, decide_eq_true rfl] at verdict
    cases verdict
    refine .met (before.pending fun iteration lower upper => ?_) advanced checked
    rw [verdicts iteration lower (by omega), decide_eq_false (by omega)]

theorem Completes.stops {shown : Memory S}
    (completes : course.Completes first iterations last shown) :
    course.Stops first iterations last := by
  refine stops_iff.mpr ⟨completes.positive, ?_, completes.verdicts⟩
  rw [callsThrough_eq_calls]
  exact completes.calls

/-- A run returns a result if and only if its calls can be completed within the steps it may take. -/
theorem run_whole_iff {steps : Nat} {point : Point S} {after : Memory S} :
    (course.whole steps).run first = (.ok point, after) ↔
      ∃ iterations last shown, iterations ≤ steps ∧
        course.Completes first iterations last shown ∧
        point = course.solver.result shown.2.state ∧ after = course.finish iterations shown := by
  constructor
  · intro ended
    cases whole_ends ended with
    | @closed iterations last _ _ bound stopped closed =>
        obtain ⟨positive, performed, verdicts⟩ := stops_iff.mp stopped
        rw [callsThrough_eq_calls] at performed
        obtain ⟨shown, looked, result, finished⟩ := looks_of_close closed
        exact ⟨iterations, last, shown, bound, ⟨positive, performed, verdicts, looked⟩, result,
          finished⟩
  · rintro ⟨iterations, last, shown, bound, completes, rfl, rfl⟩
    obtain ⟨remaining, rfl⟩ := Nat.exists_eq_add_of_le bound
    rw [completes.stops.run_whole, run_close course completes.closing]

theorem Completes.accounts {shown : Memory S}
    (completes : course.Completes first iterations last shown) :
    course.Accounts first iterations last shown where
  stepped := completes.stops.state
  ended := (performAll_keeps_state (looks_watching _)).of_run completes.closing
  count := SolverState.iterations_withIterations _ iterations
  observed := by
    rw [List.filterMap_append, shown_calls, shown_looks, List.flatMap_append,
      List.flatMap_singleton]
  checked := by
    rw [List.filterMap_append, checked_looks, ← callsThrough_eq_calls, checked_callsThrough,
      List.append_nil]

theorem KeepsCount.performAll (kept : course.KeepsCount) (calls : List (Call S)) :
    Keeps (fun session => session.state.field? "iterations") (course.performAll calls) := by
  have watched : ∀ call : Call S, call.isWatching →
      Keeps (fun session => session.state.field? "iterations") (course.perform call) :=
    fun _ watching before => congrArg (fun state => state.field? "iterations")
      (perform_keeps_state watching before)
  refine keeps_performAll fun call _ => ?_
  cases call with
  | prepare => exact Run.keeps_step_of kept.prepare
  | step iteration => exact Run.keeps_step_of (kept.step iteration)
  | observe decorator iteration => exact watched _ rfl
  | check iteration => exact watched _ rfl

theorem keepsCount_of_ofState {state : SolverState S}
    (found : Solver.ofState state = .ok course.solver) : course.KeepsCount :=
  have kept := Solver.keeps_loopFields course.problem found
  ⟨fun before => SolverState.field_iterations_of_loopFields (kept.1 before),
    fun iteration before => SolverState.field_iterations_of_loopFields (kept.2 iteration before)⟩

/-- Solving returns a result if and only if the calls of a run succeed in their order, the last
check is the first one that is met, and the looks at the end succeed after the iterations were
counted; the result is that of the state the last step left. All calls of the criterion go to the
one that the state had before it was prepared. Up to the end of the calls the count is the old one,
unless the solver changes it, which no solver of the library does. -/
theorem solve_performs_calls {registry : Solver.Registry S} {before : Memory S}
    (registered : registry before.2.state = .ok course.solver)
    (criterion : before.2.state.criterion = some course.criterion) :
    (∀ steps point after,
      (solveWith registry steps course.problem course.decorators).run before = (.ok point, after) ↔
        ∃ iterations last shown, iterations ≤ steps ∧
          course.Completes (course.begin before) iterations last shown ∧
          point = course.solver.result shown.2.state ∧ after = course.finish iterations shown) ∧
    (∀ iterations last shown, course.Completes (course.begin before) iterations last shown →
      course.Accounts (course.begin before) iterations last shown) ∧
    (course.KeepsCount → ∀ iterations earlier reached, earlier <+: course.calls iterations →
      course.Performs earlier (course.begin before) reached →
      reached.2.state.field? "iterations" = before.2.state.field? "iterations") ∧
    (Solver.ofState before.2.state = .ok course.solver → course.KeepsCount) := by
  refine ⟨fun steps point after => ?_, fun _ _ _ completes => completes.accounts, ?_,
    keepsCount_of_ofState⟩
  · rw [run_solveWith registered criterion]
    exact run_whole_iff
  · intro kept iterations earlier reached _ performed
    have same := (kept.performAll earlier).of_run performed
    exact same

theorem sample_performs_calls :
    Solver.ofState Sample.memory.2.state = .ok Sample.course.solver ∧
      Sample.memory.2.state.criterion = some Sample.course.criterion ∧
      ∃ point after, (solveWith Solver.ofState 5 Sample.course.problem
          Sample.course.decorators).run Sample.memory = (.ok point, after) ∧
        ∃ iterations last shown, iterations ≤ 5 ∧
          Sample.course.Completes (Sample.course.begin Sample.memory) iterations last shown ∧
          point = shown.2.state.iterate ∧ after = Sample.course.finish iterations shown ∧
          Sample.course.Accounts (Sample.course.begin Sample.memory) iterations last shown ∧
          last.2.state.field? "iterations" = some (.integer 0) := by
  obtain ⟨runs, accounts, keeps, ofLibrary⟩ :=
    @solve_performs_calls Int _ Sample.course Solver.ofState Sample.memory Sample.fits.solver
      Sample.fits.criterion
  have succeeds : ((solveWith Solver.ofState 5 Sample.course.problem
      Sample.course.decorators).run Sample.memory).1.isOk = true := by decide +kernel
  obtain ⟨point, after, ended⟩ := exists_ok_of_isOk succeeds
  obtain ⟨iterations, last, shown, bound, completes, result, finished⟩ :=
    (runs 5 point after).mp ended
  have count := keeps (ofLibrary Sample.fits.solver) iterations _ last (List.prefix_refl _)
    completes.calls
  exact ⟨Sample.fits.solver, Sample.fits.criterion, point, after, ended, iterations, last, shown,
    bound, completes, result, finished, accounts _ _ _ completes, count⟩

end Course

end ProximalSplitting

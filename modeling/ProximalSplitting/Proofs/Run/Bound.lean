import ProximalSplitting.Proofs.Run.Progress
import ProximalSplitting.Proofs.Run.Sample
import ProximalSplitting.Proofs.Stopping.Bound

/-!
Runs under a criterion with a bound. If nothing fails, such a run is over after at most as many
iterations as the bound says, and after exactly as many if the criterion consists of limits on the
number of iterations.
-/

namespace ProximalSplitting

namespace Course

variable {S : Type} [Scalar S] {course : Course S} {first middle last : Memory S} {done : Nat}

/-- A verdict that a run is given is one of its criterion at an iteration that has begun. -/
theorem exists_check {called after : Memory S} {iteration : Nat} {met : Bool}
    (checked : (course.check iteration).run called = (.ok met, after)) :
    ∃ before workspace,
      (course.criterion.check course.problem called.2.state (iteration : Int)).run before =
        (.ok met, workspace) := by
  rcases ran : (course.criterion.check course.problem called.2.state (iteration : Int)).run
    (called.1, called.2.workspace) with ⟨outcome, workspace⟩
  rw [run_check, Run.watch, Tracked.run_part, ran] at checked
  cases checked
  exact ⟨_, workspace, ran⟩

variable {limit : Int}

theorem Pending.before_bound (accepted : Criterion.Accepted course.criterion.nodes)
    (bounded : course.criterion.bound? = some limit) (pending : course.Pending first done middle) :
    (done : Int) < limit := by
  have positive := accepted.positive bounded
  cases pending with
  | opened _ => omega
  | @passed done _ _ _ _ _ checked =>
      obtain ⟨before, workspace, called⟩ := exists_check checked
      have holds := Criterion.check_holdsFrom accepted (by omega) called limit bounded
      by_contra reached
      cases holds (Int.not_lt.mp reached)

theorem Stops.after_bound (accepted : Criterion.Accepted course.criterion.nodes)
    (limits : ∀ leaf ∈ course.criterion.leaves, leaf.2.bound?.isSome)
    (bounded : course.criterion.bound? = some limit) {iterations : Nat}
    (stopped : course.Stops first iterations last) : limit ≤ iterations := by
  cases stopped with
  | met _ _ checked =>
      obtain ⟨before, workspace, called⟩ := exists_check checked
      obtain ⟨own, same, decides⟩ := Criterion.check_decidedBy accepted limits (by omega) called
      cases bounded.symm.trans same
      exact of_decide_eq_true decides.symm

/-- A run of any solver under a criterion with a bound, in which nothing fails, ends by itself after
at most as many iterations as the bound says; it takes no less if the criterion consists of limits
on the number of iterations. -/
theorem solve_stops_within_bound {registry : Solver.Registry S} {before : Memory S}
    (registered : registry before.2.state = .ok course.solver)
    (criterion : before.2.state.criterion = some course.criterion)
    (accepted : Criterion.Accepted course.criterion.nodes)
    (bounded : course.criterion.bound? = some limit)
    (untroubled : course.Untroubled (course.begin before)) :
    ∃ (iterations : Nat) (point : Point S) (after : Memory S),
      1 ≤ iterations ∧ (iterations : Int) ≤ limit ∧
      ((∀ leaf ∈ course.criterion.leaves, leaf.2.bound?.isSome) → (iterations : Int) = limit) ∧
      after.2.state.field? "iterations" = some (.integer iterations) ∧
      ∀ steps ≥ iterations,
        (solveWith registry steps course.problem course.decorators).run before =
          (.ok point, after) := by
  have positive := accepted.positive bounded
  obtain ⟨iterations, last, early, stopped⟩ | ⟨middle, pending⟩ :=
    untroubled.stops_or_pending limit.toNat
  · obtain ⟨shown, looked⟩ := untroubled.closing stopped
    have closed := run_close course looked
    refine ⟨iterations, course.solver.result shown.2.state, course.finish iterations shown,
      ?_, by omega, fun limits => ?_, ?_, fun steps enough => ?_⟩
    · cases stopped with
      | met _ _ _ => exact Nat.succ_pos _
    · have late := stopped.after_bound accepted limits bounded
      omega
    · rw [(close_ok closed).1]
      exact SolverState.iterations_withIterations _ iterations
    · obtain ⟨remaining, rfl⟩ := Nat.exists_eq_add_of_le enough
      rw [run_solveWith registered criterion, stopped.run_whole, closed]
  · -- A run that is pending at its bound would have been stopped by the check of that iteration.
    have early := pending.before_bound accepted bounded
    omega

def limits : Criterion Int :=
  .set 5 .all [.single 0 (.iterations (.integer 2)),
    .set 4 .any [.single 1 (.iterations (.integer 3)), .single 2 (.iterations (.integer 4))]]

def limitedCourse : Course Int := { Sample.course with criterion := limits }

def limitedMemory : Memory Int :=
  (Sample.memory.1, { Sample.memory.2 with state := { Sample.state with criterion := some limits } })

theorem accepted_sample : Criterion.Accepted Sample.criterion.nodes where
  limits := by
    intro number limit member
    simp only [Sample.criterion, Criterion.nodes, Criterion.nodesOfAll, List.append_nil,
      List.cons_append, List.nil_append, List.mem_cons, List.not_mem_nil, or_false,
      Criterion.single.injEq, StoppingTest.iterations.injEq, reduceCtorEq, and_false,
      false_or] at member
    rw [member.2]
    rfl
  inhabited := by
    intro number connective member
    simp [Sample.criterion, Criterion.nodes, Criterion.nodesOfAll] at member

theorem accepted_limits : Criterion.Accepted limits.nodes where
  limits := by
    intro number limit member
    simp only [limits, Criterion.nodes, Criterion.nodesOfAll, List.append_nil,
      List.cons_append, List.nil_append, List.mem_cons, List.not_mem_nil, or_false,
      Criterion.single.injEq, StoppingTest.iterations.injEq, reduceCtorEq, false_or] at member
    rcases member with ⟨_, rfl⟩ | ⟨_, rfl⟩ | ⟨_, rfl⟩
    all_goals rfl
  inhabited := by
    intro number connective member
    simp [limits, Criterion.nodes, Criterion.nodesOfAll] at member

theorem sample_stops_within_bound :
    (Sample.criterion.bound? = some 4 ∧ Criterion.Accepted Sample.criterion.nodes ∧
      Sample.course.Untroubled (Sample.course.begin Sample.memory) ∧
      ∃ (iterations : Nat) (point : Point Int) (after : Memory Int),
        1 ≤ iterations ∧ (iterations : Int) ≤ 4 ∧
        after.2.state.field? "iterations" = some (.integer iterations) ∧
        ∀ steps ≥ iterations,
          (solveWithin steps Sample.problem Sample.decorators).run Sample.memory =
            (.ok point, after)) ∧
    (limits.bound? = some 3 ∧ Criterion.Accepted limits.nodes ∧
      limitedCourse.Untroubled (limitedCourse.begin limitedMemory) ∧
      ∃ (point : Point Int) (after : Memory Int),
        after.2.state.field? "iterations" = some (.integer 3) ∧
        ∀ steps ≥ 3,
          (solveWithin steps Sample.problem Sample.decorators).run limitedMemory =
            (.ok point, after)) := by
  constructor
  · have succeeds : ((Sample.course.whole 4).run
        (Sample.course.begin Sample.memory)).1.isOk = true := by decide +kernel
    obtain ⟨_, _, returned⟩ := Effect.exists_ok_of_isOk succeeds
    have untroubled := Untroubled.of_ok returned
    have bounded : Sample.course.criterion.bound? = some 4 := by decide
    obtain ⟨iterations, point, after, positive, early, _, count, ended⟩ :=
      @solve_stops_within_bound Int _ Sample.course 4 Solver.ofState Sample.memory
        Sample.fits.solver Sample.fits.criterion accepted_sample bounded untroubled
    exact ⟨bounded, accepted_sample, untroubled, iterations, point, after, positive, early, count,
      ended⟩
  · have succeeds : ((limitedCourse.whole 4).run
        (limitedCourse.begin limitedMemory)).1.isOk = true := by decide +kernel
    obtain ⟨_, _, returned⟩ := Effect.exists_ok_of_isOk succeeds
    have untroubled := Untroubled.of_ok returned
    have bounded : limitedCourse.criterion.bound? = some 3 := by decide
    obtain ⟨iterations, point, after, _, _, exactly, count, ended⟩ :=
      @solve_stops_within_bound Int _ limitedCourse 3 Solver.ofState limitedMemory rfl rfl
        accepted_limits bounded untroubled
    obtain rfl : iterations = 3 := Int.natCast_inj.mp (exactly (by decide))
    exact ⟨bounded, accepted_limits, untroubled, point, after, count, ended⟩

end Course

end ProximalSplitting

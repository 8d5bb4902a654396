import ProximalSplitting.Proofs.Run.Progress
import ProximalSplitting.Proofs.Run.Sample
import ProximalSplitting.Proofs.Stopping.Formula

/-!
When a run stops. In every iteration the memories of the criteria are current when the tree is
called, so the call computes the formula of the tree. A run stops in the first iteration in which the
formula holds, however many steps it may take, and before that it goes on.
-/

namespace ProximalSplitting

open Stopping

namespace Stopping

variable {S : Type}

theorem Remembers.of_judging {leaves : List (Nat × StoppingTest S)} {previous : Point S}
    {started : Nat → S} {left right : Workspace S}
    (remembers : Remembers leaves previous started left)
    (same : right.judging = left.judging) : Remembers leaves previous started right := by
  constructor
  · intro leaf member watches
    rw [Workspace.criterion_of_judging same]
    exact remembers.lastIterate leaf member watches
  · intro leaf member reads
    rw [Workspace.criterion_of_judging same]
    exact remembers.started leaf member reads

end Stopping

theorem Criterion.Separate.of_length {S : Type} {criterion : Criterion S}
    {left right : Workspace S} (separate : criterion.Separate left)
    (same : right.criteria.length = left.criteria.length) : criterion.Separate right where
  distinct := separate.distinct
  allocated := fun leaf member => by
    rw [same]
    exact separate.allocated leaf member

namespace Course

variable {S : Type} [Scalar S] (course : Course S)

def moment (first : Memory S) (iteration : Nat) : Moment S where
  previous := (course.afterStep first (iteration - 1)).2.state.iterate
  state := (course.afterStep first iteration).2.state
  iteration := iteration
  started := readingOf course.criterion.leaves (course.atCheck first 0).2.workspace
  now := readingOf course.criterion.leaves (course.atCheck first iteration).2.workspace

structure Current (first : Memory S) (done : Nat) (workspace : Workspace S) : Prop where
  separate : course.criterion.Separate workspace
  remembers : Remembers course.criterion.leaves
    (course.afterStep first done).2.state.iterate (course.moment first done).started workspace

variable {course} {first middle called : Memory S} {done : Nat}

theorem Current.of_judging {left right : Workspace S} (current : course.Current first done left)
    (same : right.judging = left.judging) : course.Current first done right where
  separate := current.separate.of_length (Workspace.length_of_judging same)
  remembers := current.remembers.of_judging same

theorem run_check_of {before : Memory S} {iteration : Nat} {figure : Compute S Bool}
    {property : Workspace S → Prop}
    (computes : Computes (course.criterion.check course.problem before.2.state iteration) figure
      before.2.workspace property) :
    ∃ after, (course.check iteration).run before =
        ((figure.run before.1).1, ((figure.run before.1).2, { before.2 with workspace := after })) ∧
      ∀ value, (figure.run before.1).1 = .ok value → property after := by
  obtain ⟨after, ran, passed⟩ := computes before.1
  refine ⟨after, ?_, passed⟩
  rw [run_check, Run.watch, Tracked.run_part, ran]

theorem Current.check_formula (current : course.Current first done middle.2.workspace)
    (pending : course.Pending first done middle)
    (advanced : course.Performs (course.advance (done + 1)) middle called) :
    ∃ after, (course.check (done + 1)).run called =
        (((course.criterion.formula course.problem
            (course.moment first (done + 1))).run called.1).1,
          (((course.criterion.formula course.problem
            (course.moment first (done + 1))).run called.1).2,
            { called.2 with workspace := after })) ∧
      ∀ value, ((course.criterion.formula course.problem
          (course.moment first (done + 1))).run called.1).1 = .ok value →
        course.Current first (done + 1) after := by
  have now := current.of_judging advanced.judging_advance
  have sameState := pending.state_advance advanced
  have shown : Shows course.criterion.leaves (course.moment first (done + 1)).now
      called.2.workspace := by
    rw [moment, pending.atCheck advanced]
    exact shows_readingOf now.separate.distinct called.2.workspace
  have later : 0 < (course.moment first (done + 1)).iteration := Int.natCast_pos.mpr done.succ_pos
  have computes : Computes _ (course.criterion.formula course.problem _) _ _ :=
    Stopping.check_formula later course.criterion called.2.workspace now.separate now.remembers
      shown
  have ofCalled : (course.moment first (done + 1)).state = called.2.state := sameState.symm
  rw [ofCalled] at computes
  obtain ⟨after, ran, passed⟩ := run_check_of computes
  refine ⟨after, ran, fun value found => ?_⟩
  have result := passed value found
  constructor
  · exact now.separate.of_length result.length
  · rw [← sameState]
    exact result.remembers

theorem Pending.current (pending : course.Pending first done middle)
    (separate : course.criterion.Separate first.2.workspace) :
    course.Current first done middle.2.workspace := by
  induction pending with
  | @opened after performed =>
      obtain ⟨prepared, checked, met, ranPrepare, ranCheck, looked⟩ := performed.opening
      have kept : prepared.2.workspace = first.2.workspace := by
        obtain ⟨_, ran, ended⟩ := performs_cons.mp ranPrepare
        cases performs_nil.mp ended
        exact Run.keeps_step_workspace.of_run ran
      have separateNow : course.criterion.Separate prepared.2.workspace := kept ▸ separate
      obtain ⟨left, ran, passed⟩ := run_check_of
        (check_zero course.criterion prepared.2.workspace separateNow
          (shows_readingOf separateNow.distinct prepared.2.workspace))
      rw [ran] at ranCheck
      cases ranCheck
      have result := passed false rfl
      have atOpening : course.Current first 0 left := by
        constructor
        · exact separateNow.of_length result.length
        · rw [moment, Course.afterStep, callsUntilStep, ranPrepare.memoryAfter, Course.atCheck,
            callsUntilCheck, ranPrepare.memoryAfter]
          exact result.remembers
      exact atOpening.of_judging ((looks_keep_judging 0).of_run looked)
  | passed pending advanced ranCheck ih =>
      obtain ⟨left, ran, current⟩ := ih.check_formula pending advanced
      rw [ran] at ranCheck
      obtain ⟨sameOutcome, sameMemory⟩ := Prod.mk.inj ranCheck
      rw [← (Prod.mk.inj sameMemory).2]
      exact current false sameOutcome

theorem Pending.check_eq_formula (pending : course.Pending first done middle)
    (separate : course.criterion.Separate first.2.workspace)
    (advanced : course.Performs (course.advance (done + 1)) middle called) :
    ((course.check (done + 1)).run called).1 =
      ((course.criterion.formula course.problem
        (course.moment first (done + 1))).run called.1).1 := by
  obtain ⟨_, ran, _⟩ := (pending.current separate).check_formula pending advanced
  rw [ran]

variable (course) in
structure Decides (first : Memory S) (iteration : Nat) (verdict : Bool) : Prop where
  reached : course.Performs (course.callsUntilCheck iteration) first
    (course.atCheck first iteration)
  call : ((course.check iteration).run (course.atCheck first iteration)).1 = .ok verdict
  formula : ((course.criterion.formula course.problem (course.moment first iteration)).run
    (course.atCheck first iteration).1).1 = .ok verdict

theorem Pending.decides (pending : course.Pending first done middle)
    (separate : course.criterion.Separate first.2.workspace)
    (advanced : course.Performs (course.advance (done + 1)) middle called) {verdict : Bool}
    {after : Memory S} (checked : (course.check (done + 1)).run called = (.ok verdict, after)) :
    course.Decides first (done + 1) verdict := by
  have verdictNow : ((course.check (done + 1)).run called).1 = .ok verdict := by rw [checked]
  have same := pending.atCheck advanced
  constructor
  · rw [same]
    exact performs_append.mpr ⟨middle, pending.performs, advanced⟩
  · rw [same]
    exact verdictNow
  · rw [same, ← pending.check_eq_formula separate advanced]
    exact verdictNow

theorem Pending.decides_earlier (pending : course.Pending first done middle)
    (separate : course.criterion.Separate first.2.workspace) :
    ∀ iteration, 1 ≤ iteration → iteration ≤ done → course.Decides first iteration false :=
  pending.each fun before advanced checked => before.decides separate advanced checked

variable (course) in
def FirstDecides (first : Memory S) (iterations : Nat) : Prop :=
  1 ≤ iterations ∧ ∀ iteration, 1 ≤ iteration → iteration ≤ iterations →
    course.Decides first iteration (iteration = iterations)

theorem Stops.decides {last : Memory S} {iterations : Nat}
    (stopped : course.Stops first iterations last)
    (separate : course.criterion.Separate first.2.workspace) :
    course.FirstDecides first iterations := by
  cases stopped with
  | @met done _ _ _ pending advanced checked =>
      refine ⟨by omega, fun iteration lower upper => ?_⟩
      by_cases last : iteration = done + 1
      · subst last
        rw [decide_eq_true rfl]
        exact pending.decides separate advanced checked
      · rw [decide_eq_false last]
        exact pending.decides_earlier separate iteration lower (by omega)

theorem Pending.stops_of_formula (pending : course.Pending first done middle)
    (separate : course.criterion.Separate first.2.workspace)
    (advanced : course.Performs (course.advance (done + 1)) middle called)
    (holds : ((course.criterion.formula course.problem (course.moment first (done + 1))).run
      called.1).1 = .ok true) : ∃ last, course.Stops first (done + 1) last := by
  have verdict := pending.check_eq_formula separate advanced
  rcases checked : (course.check (done + 1)).run called with ⟨outcome, last⟩
  rw [checked, holds] at verdict
  cases verdict
  exact ⟨last, .met pending advanced checked⟩

theorem Stops.run {before last : Memory S} {iterations steps : Nat}
    (fits : course.Fits before.2.state) (stopped : course.Stops (course.begin before) iterations last)
    (enough : iterations ≤ steps) :
    (solveWithin steps course.problem course.decorators).run before =
      (course.close iterations).run last := by
  obtain ⟨remaining, rfl⟩ := Nat.exists_eq_add_of_le enough
  rw [run_solveWithin _ fits, stopped.run_whole]

/-- Every call of the criterion that a run comes to computes the formula of its tree, and fails as
the formula does. Once the formula holds, the run is closed there, whatever more steps it may take.
So a run that returns counts the first iteration in which the formula holds. A run in which nothing
fails returns as soon as it may take as many steps; with fewer steps the formula has not held yet,
and the run is still going on. -/
theorem solve_stops_at_formula {before : Memory S} (fits : course.Fits before.2.state)
    (separate : course.criterion.Separate before.2.workspace) :
    (∀ done middle called, course.Pending (course.begin before) done middle →
      course.Performs (course.advance (done + 1)) middle called →
      ((course.check (done + 1)).run called).1 =
        ((course.criterion.formula course.problem
          (course.moment (course.begin before) (done + 1))).run called.1).1) ∧
    (∀ done middle called, course.Pending (course.begin before) done middle →
      course.Performs (course.advance (done + 1)) middle called →
      ((course.criterion.formula course.problem
        (course.moment (course.begin before) (done + 1))).run called.1).1 = .ok true →
      course.FirstDecides (course.begin before) (done + 1) ∧
        ∃ last, last.2.state = (course.afterStep (course.begin before) (done + 1)).2.state ∧
          ∀ steps, done < steps →
            (solveWithin steps course.problem course.decorators).run before =
              (course.close (done + 1)).run last) ∧
    (∀ steps point after,
      (solveWithin steps course.problem course.decorators).run before = (.ok point, after) →
      ∃ iterations ≤ steps, course.FirstDecides (course.begin before) iterations ∧
        after.2.state =
          (course.afterStep (course.begin before) iterations).2.state.withIterations iterations ∧
        after.2.state.field? "iterations" = some (.integer iterations)) ∧
    (course.Untroubled (course.begin before) → ∀ steps,
      (∃ iterations ≤ steps, course.FirstDecides (course.begin before) iterations ∧
        ∃ point after, after.2.state.field? "iterations" = some (.integer iterations) ∧
          ∀ more, iterations ≤ more →
            (solveWithin more course.problem course.decorators).run before = (.ok point, after)) ∨
      (∀ iteration, 1 ≤ iteration → iteration ≤ steps →
          course.Decides (course.begin before) iteration false) ∧
        ∃ after, (solveWithin steps course.problem course.decorators).run before =
          (.error .stillRunning, after)) := by
  refine ⟨?calls, ?stops, ?returns, ?untroubled⟩
  case calls =>
    intro done middle called pending advanced
    exact pending.check_eq_formula separate advanced
  case stops =>
    intro done middle called pending advanced holds
    obtain ⟨last, stopped⟩ := pending.stops_of_formula separate advanced holds
    exact ⟨stopped.decides separate, last, stopped.state, fun steps enough => stopped.run fits enough⟩
  case returns =>
    intro steps point after ended
    cases solveWithin_ends fits ended with
    | @closed iterations last _ _ bound stopped closed =>
        refine ⟨iterations, bound, stopped.decides separate, ?_, ?_⟩
        · rw [(close_ok closed).1, stopped.state]
        · rw [(close_ok closed).1]
          exact SolverState.iterations_withIterations _ iterations
  case untroubled =>
    intro untroubled steps
    rcases untroubled.stops_or_pending steps with ⟨iterations, last, early, stopped⟩ | ⟨_, pending⟩
    · obtain ⟨shown, looked⟩ := untroubled.closing stopped
      have closed := run_close course looked
      refine .inl ⟨iterations, early, stopped.decides separate, _, _, ?_, fun more enough =>
        (stopped.run fits enough).trans closed⟩
      rw [(close_ok closed).1]
      exact SolverState.iterations_withIterations _ iterations
    · exact .inr ⟨pending.decides_earlier separate, _, (Ends.outOfSteps pending).run fits⟩

theorem sample_stops_at_formula :
    Sample.course.Fits Sample.memory.2.state ∧
      Sample.course.criterion.Separate Sample.memory.2.workspace ∧
      Sample.course.Untroubled (Sample.course.begin Sample.memory) ∧
      ∃ iterations ≤ 5,
        Sample.course.FirstDecides (Sample.course.begin Sample.memory) iterations ∧
        ∃ point after, after.2.state.field? "iterations" = some (.integer iterations) ∧
          ∀ steps, iterations ≤ steps →
            (solveWithin steps Sample.problem Sample.decorators).run Sample.memory =
              (.ok point, after) := by
  have succeeds : ((Sample.course.whole 5).run
      (Sample.course.begin Sample.memory)).1.isOk = true := by decide +kernel
  obtain ⟨_, _, returned⟩ := Effect.exists_ok_of_isOk succeeds
  have untroubled := Untroubled.of_ok returned
  rcases (solve_stops_at_formula Sample.fits Sample.separate).2.2.2 untroubled 5 with
    stopped | ⟨_, _, unfinished⟩
  · exact ⟨Sample.fits, Sample.separate, untroubled, stopped⟩
  · rw [run_solveWithin 5 Sample.fits, returned] at unfinished
    cases unfinished

end Course

end ProximalSplitting

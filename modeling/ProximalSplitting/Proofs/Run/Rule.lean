import Mathlib.Data.List.Forall2
import Mathlib.Order.Bounds.Basic
import ProximalSplitting.Proofs.Run.Paths
import ProximalSplitting.Proofs.Run.Verdict

/-!
Runs whose checks obey a rule. If the verdict of every check is known beforehand, a run stops in no
other iteration than the first one in which the rule holds, and it gets there unless preparing, a
step or a decorator fails.
-/

namespace ProximalSplitting

open Effect Tracked

theorem Value.reachedBy_integer {S : Type} [Scalar S] (limit count : Int) :
    (Value.integer limit : Value S).reachedBy? count = some true ↔ limit ≤ count := by
  change some (decide (limit ≤ count)) = some true ↔ limit ≤ count
  simp

namespace Course

variable {S : Type} [Scalar S] {course : Course S} {first middle last : Memory S}
  {rule : Nat → Bool} {done iterations steps : Nat}

variable (course) in
def Obeys (first : Memory S) (rule : Nat → Bool) : Prop :=
  ∀ ⦃done middle called⦄, course.Pending first done middle →
    course.Performs (course.advance (done + 1)) middle called →
      ∃ after, (course.check (done + 1)).run called = (.ok (rule (done + 1)), after)

def Met (rule : Nat → Bool) : Set Nat := { iteration | 1 ≤ iteration ∧ rule iteration = true }

theorem Obeys.verdict {called after : Memory S} {met : Bool} (obeys : course.Obeys first rule)
    (pending : course.Pending first done middle)
    (advanced : course.Performs (course.advance (done + 1)) middle called)
    (checked : (course.check (done + 1)).run called = (.ok met, after)) : rule (done + 1) = met := by
  obtain ⟨_, known⟩ := obeys pending advanced
  rw [known] at checked
  exact Except.ok.inj (congrArg Prod.fst checked)

theorem Pending.unmet (obeys : course.Obeys first rule)
    (pending : course.Pending first done middle) :
    ∀ iteration, 1 ≤ iteration → iteration ≤ done → rule iteration = false :=
  pending.each fun before advanced checked => obeys.verdict before advanced checked

theorem Stops.isLeast (obeys : course.Obeys first rule)
    (stopped : course.Stops first iterations last) : IsLeast (Met rule) iterations := by
  cases stopped with
  | @met done _ _ _ pending advanced checked =>
      constructor
      · exact ⟨by omega, obeys.verdict pending advanced checked⟩
      · intro iteration met
        by_contra early
        have unmet := pending.unmet obeys iteration met.1 (by omega)
        rw [met.2] at unmet
        cases unmet

/-- If nobody watches, a run comes to the first iteration in which its rule holds. -/
theorem exists_stops_of_rule (unwatched : course.decorators = []) {prepared : Memory S}
    (prepares : course.Performs [.prepare] first prepared)
    (steps : ∀ done middle, done < iterations → course.Pending first done middle →
      ∃ stepped, course.Performs [.step (done + 1)] middle stepped)
    (obeys : course.Obeys first rule) (least : IsLeast (Met rule) iterations) :
    ∃ last, course.Stops first iterations last := by
  have looksNothing : ∀ iteration, course.looks iteration = [] := fun iteration => by
    rw [looks, unwatched, List.map_nil]
  have advances : ∀ {done middle}, done < iterations → course.Pending first done middle →
      ∃ called, course.Performs (course.advance (done + 1)) middle called := by
    intro done middle early pending
    obtain ⟨stepped, performed⟩ := steps done middle early pending
    rw [advance, looksNothing]
    exact ⟨stepped, performed⟩
  -- Before that every check is negative, so the run goes on.
  have goesOn : ∀ done, done < iterations → ∃ middle, course.Pending first done middle := by
    intro done early
    induction done with
    | zero =>
        have opened := run_opening course prepares
        rw [looksNothing] at opened
        exact ⟨_, .opened opened⟩
    | succ done ih =>
        obtain ⟨middle, pending⟩ := ih (by omega)
        obtain ⟨called, advanced⟩ := advances (by omega) pending
        obtain ⟨after, checked⟩ := obeys pending advanced
        have unmet : rule (done + 1) = false := by
          by_contra met
          have late : iterations ≤ done + 1 := least.2 ⟨by omega, by simpa using met⟩
          omega
        rw [unmet] at checked
        exact ⟨after, .passed pending advanced checked⟩
  obtain ⟨done, rfl⟩ := Nat.exists_eq_add_of_le' least.1.1
  obtain ⟨middle, pending⟩ := goesOn done (by omega)
  obtain ⟨called, advanced⟩ := advances (by omega) pending
  obtain ⟨after, checked⟩ := obeys pending advanced
  rw [least.1.2] at checked
  exact ⟨after, .met pending advanced checked⟩

theorem obeys_of_formula (separate : course.criterion.Separate first.2.workspace)
    (gives : ∀ {done reached}, course.Performs (course.callsUntilStep (done + 1)) first reached →
      (course.criterion.formula course.problem (course.moment first (done + 1))).Gives
        (rule (done + 1))) : course.Obeys first rule := by
  intro done middle called pending advanced
  obtain ⟨stepped, performed, _⟩ := Performs.advance_iff.mp advanced
  obtain ⟨journal, found⟩ := gives (performs_append.mpr ⟨middle, pending.performs, performed⟩)
    called.1
  have verdict := pending.check_eq_formula separate advanced
  rw [found] at verdict
  exact ⟨_, Prod.ext verdict rfl⟩

theorem gives_formulas {problem : Problem S} {moment : Moment S} {members : List (Criterion S)}
    {values : List Bool} (each : List.Forall₂
      (fun member value => (member.formula problem moment).Gives value) members values) :
    (Criterion.formulas problem moment members).Gives values := by
  induction each with
  | nil =>
      rw [Criterion.formulas]
      exact Compute.gives_pure []
  | cons first _ ih =>
      rw [Criterion.formulas]
      exact first.bind (ih.bind (Compute.gives_pure _))

theorem gives_limit (number : Nat) (limit : Int) (iteration : Nat) :
    ((Criterion.single number (.iterations (.integer limit))).formula course.problem
      (course.moment first iteration)).Gives (limit ≤ iteration) := by
  have verdict : decide (limit ≤ iteration) =
      decide ((Value.integer limit : Value S).reachedBy? iteration = some true) :=
    decide_eq_decide.mpr (Value.reachedBy_integer limit iteration).symm
  rw [verdict, Criterion.formula, StoppingTest.fulfilled]
  exact Compute.gives_pure _

/-- Where the method works on the manifold of its problem, the statement of a change criterion is
about the distance on this manifold between the iterates of the last two steps. -/
theorem gives_change {earlier reached : Memory S} {distance : S}
    (performedEarlier : course.Performs (course.callsUntilStep done) first earlier)
    (performed : course.Performs (course.callsUntilStep (done + 1)) first reached)
    (manifold : reached.2.state.manifoldOf course.problem = pure course.problem.manifold)
    (gives : (course.problem.manifold.geometry.dist earlier.2.state.iterate
      reached.2.state.iterate).Gives distance) (number : Nat) (tolerance : S) :
    ((Criterion.single number (.change tolerance)).formula course.problem
      (course.moment first (done + 1))).Gives (Scalar.less distance tolerance) := by
  have previous : (course.moment first (done + 1)).previous = earlier.2.state.iterate := by
    rw [← performedEarlier.memoryAfter]
    rfl
  have state : (course.moment first (done + 1)).state = reached.2.state := by
    rw [← performed.memoryAfter]
    rfl
  rw [Criterion.formula, StoppingTest.fulfilled, state, previous, manifold, pure_bind]
  exact gives.bind (Compute.gives_pure _)

theorem Performs.manifoldOf {state : SolverState S} {calls : List (Call S)} {reached : Memory S}
    (performed : course.Performs calls first reached) (fits : course.Fits state)
    (manifold : first.2.state.manifoldOf course.problem = pure course.problem.manifold) :
    reached.2.state.manifoldOf course.problem = pure course.problem.manifold := by
  have kept := fits.stays_performAll (SolverState.lasting_manifoldOf course.problem) calls first
    manifold
  rwa [performed] at kept

section Whole

variable {before after : Memory S} {point : Point S}

/-- A run that returns has stopped in the first iteration in which its rule holds, with the iterate
that it had after the step of this iteration. -/
theorem isLeast_of_solve (fits : course.Fits before.2.state)
    (obeys : course.Obeys (course.begin before) rule)
    (ended : (solveWithin steps course.problem course.decorators).run before =
      (.ok point, after)) :
    ∃ iterations : Nat, IsLeast (Met rule) iterations ∧
      after.2.state.field? "iterations" = some (.integer iterations) ∧
      ∃ reached, course.Performs (course.callsUntilStep iterations) (course.begin before) reached ∧
        after.2.state.iterate = reached.2.state.iterate := by
  cases solveWithin_ends fits ended with
  | @closed iterations last _ _ _ stopped closed =>
      rw [(close_ok closed).1, stopped.state]
      exact ⟨iterations, stopped.isLeast obeys, SolverState.iterations_withIterations _ iterations,
        _, stopped.performs_step (Nat.le_refl iterations), rfl⟩

/-- A run that nobody watches and that can fail nowhere returns. -/
theorem exists_solve_of_rule (fits : course.Fits before.2.state)
    (unwatched : course.decorators = []) {prepared : Memory S}
    (prepares : course.Performs [.prepare] (course.begin before) prepared)
    (proceeds : ∀ done middle, done < iterations → course.Pending (course.begin before) done middle →
      ∃ stepped, course.Performs [.step (done + 1)] middle stepped)
    (obeys : course.Obeys (course.begin before) rule) (least : IsLeast (Met rule) iterations)
    (enough : iterations ≤ steps) :
    ∃ point after, (solveWithin steps course.problem course.decorators).run before =
      (.ok point, after) := by
  obtain ⟨last, stopped⟩ := exists_stops_of_rule unwatched prepares proceeds obeys least
  have looked : course.Performs (course.looks (-1)) (counted iterations last)
      (counted iterations last) := by
    rw [looks, unwatched]
    exact performs_nil.mpr rfl
  exact ⟨_, _, (Ends.closed enough stopped (run_close course looked)).run fits⟩

end Whole

end Course

end ProximalSplitting

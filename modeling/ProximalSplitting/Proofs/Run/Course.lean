import ProximalSplitting.Proofs.Effects.Laws
import ProximalSplitting.Solver.Loop

/-!
A run as a sequence of calls. The solver is prepared, the criterion and the decorators are called
for iteration 0, and every later iteration is a step, a look of every decorator and a check. A run
that is still going on after some iterations has performed exactly the calls of these iterations: it
is `Pending` while none of them met the criterion, and it `Stops` in the one that does.
-/

namespace ProximalSplitting

abbrev Memory (S : Type) := Journal × Session S

structure Course (S : Type) [Scalar S] where
  problem : Problem S
  solver : Solver S
  criterion : Criterion S
  decorators : List (Decorator S)

inductive Call (S : Type) where
  | prepare
  | step (iteration : Nat)
  | observe (decorator : Decorator S) (iteration : Int)
  | check (iteration : Nat)

namespace Run

variable {S α β : Type}

theorem run_state_bind (next : SolverState S → Run S α) (before : Memory S) :
    (Run.state >>= next).run before = (next before.2.state).run before := rfl

theorem run_step_of {computation : Step S α} {before : Memory S} {outcome : Except (Fault S) α}
    {left : Journal × SolverState S}
    (ran : computation.run (before.1, before.2.state) = (outcome, left)) :
    (Run.step computation).run before = (outcome, (left.1, { before.2 with state := left.2 })) := by
  rw [Run.step, Tracked.run_part, ran]

theorem keeps_watch_state {computation : Watch S α} :
    Tracked.Keeps Session.state (Run.watch computation) := fun _ => rfl

theorem keeps_step_workspace {computation : Step S α} :
    Tracked.Keeps Session.workspace (Run.step computation) := fun _ => rfl

theorem keeps_step_of {γ : Type} {view : SolverState S → γ} {computation : Step S α}
    (kept : Tracked.Keeps view computation) :
    Tracked.Keeps (fun session => view session.state) (Run.step computation) :=
  fun before => kept (before.1, before.2.state)

theorem watch_bind (first : Watch S α) (next : α → Watch S β) :
    Run.watch (first >>= next) =
      (Run.watch first >>= fun value => Run.watch (next value) : Run S β) := by
  funext before
  change (Run.watch (first >>= next)).run before = _
  rcases found : first.run (before.1, before.2.workspace) with ⟨outcome, middle⟩
  have firstRan : (Run.watch first).run before =
      (outcome, (middle.1, { before.2 with workspace := middle.2 })) := by
    rw [Run.watch, Tracked.run_part, found]
  cases outcome with
  | error _ =>
      refine Eq.trans ?_ (Effect.run_bind_of_error firstRan).symm
      rw [Run.watch, Tracked.run_part, Effect.run_bind_of_error found]
  | ok _ =>
      refine Eq.trans ?_ (Effect.run_bind_of_ok firstRan).symm
      rw [Run.watch, Tracked.run_part, Effect.run_bind_of_ok found]
      rfl

end Run

namespace Course

variable {S : Type} [Scalar S] (course : Course S)

structure Fits (state : SolverState S) : Prop where
  solver : Solver.ofState state = .ok course.solver
  criterion : state.criterion = some course.criterion

def check (iteration : Nat) : Run S Bool :=
  checkCriterion course.problem course.criterion iteration

def perform : Call S → Run S Unit
  | .prepare => Run.step (course.solver.prepare course.problem)
  | .step iteration => Run.step (course.solver.step course.problem iteration)
  | .observe decorator iteration => do
      let state ← Run.state
      Run.watch (decorator.observe course.problem state iteration)
  | .check iteration => do
      let _ ← course.check iteration

def performAll : List (Call S) → Run S Unit
  | [] => pure ()
  | first :: rest => do
      course.perform first
      performAll rest

def looks (iteration : Int) : List (Call S) :=
  course.decorators.map fun decorator => .observe decorator iteration

def opening : List (Call S) := .prepare :: .check 0 :: course.looks 0

def advance (iteration : Nat) : List (Call S) := .step iteration :: course.looks iteration

def callsThrough : Nat → List (Call S)
  | 0 => course.opening
  | done + 1 => callsThrough done ++ course.advance (done + 1) ++ [.check (done + 1)]

def callsUntilCheck : Nat → List (Call S)
  | 0 => [.prepare]
  | done + 1 => course.callsThrough done ++ course.advance (done + 1)

/-- All calls up to the step of an iteration, where preparing counts as step 0. -/
def callsUntilStep : Nat → List (Call S)
  | 0 => [.prepare]
  | done + 1 => course.callsThrough done ++ [.step (done + 1)]

/-- Performing the calls succeeds and leads from one memory to another. -/
def Performs (calls : List (Call S)) (before after : Memory S) : Prop :=
  (course.performAll calls).run before = (.ok (), after)

def begin (before : Memory S) : Memory S :=
  ({ before.1 with
      messages := before.1.messages ++
        [startMessage course.solver course.problem before.2.state] },
    before.2)

def close (iterations : Nat) : Run S (Point S) := do
  Run.step (Tracked.update fun state => state.withIterations iterations)
  showIteration course.problem course.decorators (-1)
  let workspace := (← Tracked.read).workspace
  Tracked.report (stopMessage course.solver iterations
    (workspace.criterion course.criterion.number).reason)
  return course.solver.result (← Run.state)

def continueRun (remaining done : Nat) : Run S (Point S) := do
  let iterations ← iterateUntil course.problem course.solver course.criterion course.decorators
    remaining done
  course.close iterations

def whole (steps : Nat) : Run S (Point S) := do
  course.performAll course.opening
  course.continueRun steps 0

inductive Pending (before : Memory S) : Nat → Memory S → Prop
  | opened {after} : course.Performs course.opening before after → Pending before 0 after
  | passed {done middle called after} : Pending before done middle →
      course.Performs (course.advance (done + 1)) middle called →
      (course.check (done + 1)).run called = (.ok false, after) →
      Pending before (done + 1) after

inductive Stops (before : Memory S) : Nat → Memory S → Prop
  | met {done middle called after} : course.Pending before done middle →
      course.Performs (course.advance (done + 1)) middle called →
      (course.check (done + 1)).run called = (.ok true, after) →
      Stops before (done + 1) after

inductive Ends (before : Memory S) (steps : Nat) :
    Except (Fault S) (Point S) → Memory S → Prop
  | inOpening {fault after} :
      (course.performAll course.opening).run before = (.error fault, after) →
      Ends before steps (.error fault) after
  | inAdvance {done middle fault after} : done < steps → course.Pending before done middle →
      (course.performAll (course.advance (done + 1))).run middle = (.error fault, after) →
      Ends before steps (.error fault) after
  | inCheck {done middle called fault after} : done < steps →
      course.Pending before done middle →
      course.Performs (course.advance (done + 1)) middle called →
      (course.check (done + 1)).run called = (.error fault, after) →
      Ends before steps (.error fault) after
  | outOfSteps {after} : course.Pending before steps after →
      Ends before steps (.error .stillRunning) after
  | closed {iterations last outcome after} : iterations ≤ steps →
      course.Stops before iterations last →
      (course.close iterations).run last = (outcome, after) →
      Ends before steps outcome after

variable {course}

theorem performs_nil {before after : Memory S} :
    course.Performs [] before after ↔ after = before := by
  constructor
  · intro performed
    cases performed
    rfl
  · rintro rfl
    rfl

theorem performs_cons {first : Call S} {rest : List (Call S)} {before after : Memory S} :
    course.Performs (first :: rest) before after ↔
      ∃ middle, (course.perform first).run before = (.ok (), middle) ∧
        course.Performs rest middle after := by
  rw [Performs, performAll, Effect.run_bind_ok_iff]
  constructor
  · rintro ⟨_, middle, performed, rest⟩
    exact ⟨middle, performed, rest⟩
  · rintro ⟨middle, performed, rest⟩
    exact ⟨(), middle, performed, rest⟩

theorem performAll_of_error {call : Call S} {fault : Fault S} {before after : Memory S}
    (failed : (course.perform call).run before = (.error fault, after)) (rest : List (Call S)) :
    (course.performAll (call :: rest)).run before = (.error fault, after) := by
  rw [performAll, Effect.run_bind_of_error failed]

theorem performAll_of_ok {call : Call S} {before middle : Memory S}
    (ran : (course.perform call).run before = (.ok (), middle)) (rest : List (Call S)) :
    (course.performAll (call :: rest)).run before = (course.performAll rest).run middle := by
  rw [performAll, Effect.run_bind_of_ok ran]

theorem performAll_append (first rest : List (Call S)) :
    course.performAll (first ++ rest) =
      (course.performAll first >>= fun _ => course.performAll rest) := by
  induction first with
  | nil => exact (pure_bind _ _).symm
  | cons call others ih => simp only [List.cons_append, performAll, ih, bind_assoc]

theorem performs_append {first rest : List (Call S)} {before after : Memory S} :
    course.Performs (first ++ rest) before after ↔
      ∃ middle, course.Performs first before middle ∧ course.Performs rest middle after := by
  rw [Performs, performAll_append, Effect.run_bind_ok_iff]
  constructor
  · rintro ⟨_, middle, performed, rest⟩
    exact ⟨middle, performed, rest⟩
  · rintro ⟨middle, performed, rest⟩
    exact ⟨(), middle, performed, rest⟩

theorem performs_unique {calls : List (Call S)} {before left right : Memory S}
    (first : course.Performs calls before left) (second : course.Performs calls before right) :
    left = right := by
  have same := first.symm.trans second
  cases same
  rfl

theorem run_show (decorators : List (Decorator S)) (iteration : Int) (before : Memory S) :
    (showIteration course.problem decorators iteration).run before =
      (Run.watch (Decorator.observeAll course.problem before.2.state iteration decorators)).run
        before := by
  rw [showIteration, Run.run_state_bind]

theorem run_observe (decorator : Decorator S) (iteration : Int) (before : Memory S) :
    (course.perform (.observe decorator iteration)).run before =
      (Run.watch (decorator.observe course.problem before.2.state iteration)).run before := by
  rw [perform, Run.run_state_bind]

theorem run_check (iteration : Nat) (before : Memory S) :
    (course.check iteration).run before =
      (Run.watch (course.criterion.check course.problem before.2.state iteration)).run
        before := by
  rw [check, checkCriterion, Run.run_state_bind]

variable (course) in
/-- Looking at an iteration does not change the state that the next decorator is shown. -/
theorem run_showIteration (decorators : List (Decorator S)) (iteration : Int)
    (before : Memory S) :
    (showIteration course.problem decorators iteration).run before =
      (course.performAll
        (decorators.map fun decorator => .observe decorator iteration)).run before := by
  induction decorators generalizing before with
  | nil => rfl
  | cons outer inner ih =>
      rw [run_show, Decorator.observeAll, Run.watch_bind, List.map_cons, performAll]
      rcases looked : (Run.watch (outer.observe course.problem before.2.state iteration)).run
        before with ⟨outcome, middle⟩
      have performed : (course.perform (.observe outer iteration)).run before =
          (outcome, middle) := by rw [run_observe, looked]
      have sameState : middle.2.state = before.2.state := Run.keeps_watch_state.of_run looked
      cases outcome with
      | error _ => rw [Effect.run_bind_of_error looked, Effect.run_bind_of_error performed]
      | ok _ =>
          rw [Effect.run_bind_of_ok looked, Effect.run_bind_of_ok performed, ← ih middle,
            run_show, sameState]

theorem showIteration_eq (iteration : Int) :
    showIteration course.problem course.decorators iteration =
      course.performAll (course.looks iteration) :=
  funext (run_showIteration course course.decorators iteration)

theorem Pending.performs {before after : Memory S} {done : Nat}
    (pending : course.Pending before done after) :
    course.Performs (course.callsThrough done) before after := by
  induction pending with
  | opened performed => exact performed
  | passed _ advanced checked ih =>
      refine performs_append.mpr ⟨_, performs_append.mpr ⟨_, ih, advanced⟩, ?_⟩
      exact performs_cons.mpr ⟨_, Effect.run_bind_of_ok checked, performs_nil.mpr rfl⟩

/-- What every round that goes on establishes holds of all the rounds so far. -/
theorem Pending.each {first middle : Memory S} {done : Nat} {holds : Nat → Prop}
    (pending : course.Pending first done middle)
    (passed : ∀ {done before called after}, course.Pending first done before →
      course.Performs (course.advance (done + 1)) before called →
      (course.check (done + 1)).run called = (.ok false, after) → holds (done + 1)) :
    ∀ iteration, 1 ≤ iteration → iteration ≤ done → holds iteration := by
  induction pending with
  | opened _ =>
      intro iteration lower upper
      omega
  | @passed done _ _ _ pending advanced checked ih =>
      intro iteration lower upper
      by_cases latest : iteration = done + 1
      · subst latest
        exact passed pending advanced checked
      · exact ih iteration lower (by omega)

theorem continueRun_succ (remaining done : Nat) :
    course.continueRun (remaining + 1) done =
      (course.performAll (course.advance (done + 1)) >>= fun _ =>
        course.check (done + 1) >>= fun met =>
          if met then course.close (done + 1)
          else course.continueRun remaining (done + 1)) := by
  rw [continueRun, iterateUntil, showIteration_eq, advance, performAll, perform]
  simp only [bind_assoc]
  refine bind_congr fun _ => bind_congr fun _ => bind_congr fun met => ?_
  cases met with
  | false => rfl
  | true => exact pure_bind _ _

/-- A run is its opening followed by its iterations, whatever solver is registered. -/
theorem run_solveWith {registry : Solver.Registry S} {before : Memory S}
    (registered : registry before.2.state = .ok course.solver)
    (criterion : before.2.state.criterion = some course.criterion) (steps : Nat) :
    (solveWith registry steps course.problem course.decorators).run before =
      (course.whole steps).run (course.begin before) := by
  have begun : (solveWith registry steps course.problem course.decorators).run before =
      (Run.step (course.solver.prepare course.problem) >>= fun _ =>
        course.check 0 >>= fun _ =>
        showIteration course.problem course.decorators 0 >>= fun _ =>
        course.continueRun steps 0).run (course.begin before) := by
    rw [solveWith, Run.run_state_bind, registered, criterion]
    rfl
  rw [begun, showIteration_eq, whole, opening, performAll, performAll, perform, perform]
  simp only [bind_assoc, pure_bind]

theorem run_solveWithin (steps : Nat) {before : Memory S} (fits : course.Fits before.2.state) :
    (solveWithin steps course.problem course.decorators).run before =
      (course.whole steps).run (course.begin before) :=
  run_solveWith fits.solver fits.criterion steps

theorem Pending.run_whole {first middle : Memory S} {done : Nat}
    (pending : course.Pending first done middle) (remaining : Nat) :
    (course.whole (done + remaining)).run first = (course.continueRun remaining done).run middle := by
  induction pending generalizing remaining with
  | opened performed => rw [Nat.zero_add, whole, Effect.run_bind_of_ok performed]
  | @passed done _ _ _ _ advanced checked ih =>
      rw [Nat.add_assoc, Nat.add_comm 1 remaining, ih, continueRun_succ,
        Effect.run_bind_of_ok advanced, Effect.run_bind_of_ok checked]
      rfl

theorem Stops.run_whole {first last : Memory S} {iterations : Nat}
    (stopped : course.Stops first iterations last) (remaining : Nat) :
    (course.whole (iterations + remaining)).run first = (course.close iterations).run last := by
  cases stopped with
  | met pending advanced checked =>
      rw [Nat.add_assoc, Nat.add_comm 1 remaining, pending.run_whole, continueRun_succ,
        Effect.run_bind_of_ok advanced, Effect.run_bind_of_ok checked]
      rfl

theorem continueRun_ends {before middle : Memory S} {done : Nat}
    (pending : course.Pending before done middle) (remaining : Nat)
    {outcome : Except (Fault S) (Point S)} {after : Memory S}
    (ended : (course.continueRun remaining done).run middle = (outcome, after)) :
    course.Ends before (done + remaining) outcome after := by
  induction remaining generalizing done middle with
  | zero =>
      cases ended
      exact .outOfSteps pending
  | succ remaining ih =>
      rw [continueRun_succ] at ended
      rcases advanced : (course.performAll (course.advance (done + 1))).run middle
        with ⟨result, called⟩
      cases result with
      | error fault =>
          rw [Effect.run_bind_of_error advanced] at ended
          cases ended
          exact .inAdvance (by omega) pending advanced
      | ok _ =>
          rw [Effect.run_bind_of_ok advanced] at ended
          rcases checked : (course.check (done + 1)).run called with ⟨result, next⟩
          cases result with
          | error fault =>
              rw [Effect.run_bind_of_error checked] at ended
              cases ended
              exact .inCheck (by omega) pending advanced checked
          | ok met =>
              rw [Effect.run_bind_of_ok checked] at ended
              cases met with
              | true => exact .closed (by omega) (.met pending advanced checked) ended
              | false =>
                  have later := ih (.passed pending advanced checked) ended
                  rwa [Nat.add_assoc, Nat.add_comm 1] at later

theorem whole_ends {first : Memory S} {steps : Nat} {outcome : Except (Fault S) (Point S)}
    {after : Memory S} (ended : (course.whole steps).run first = (outcome, after)) :
    course.Ends first steps outcome after := by
  rcases opened : (course.performAll course.opening).run first with ⟨result, middle⟩
  cases result with
  | error fault =>
      rw [whole, Effect.run_bind_of_error opened] at ended
      cases ended
      exact .inOpening opened
  | ok _ =>
      rw [whole, Effect.run_bind_of_ok opened] at ended
      have ends := continueRun_ends (.opened opened) steps ended
      rwa [Nat.zero_add] at ends

theorem Ends.run_whole {first : Memory S} {steps : Nat} {outcome : Except (Fault S) (Point S)}
    {after : Memory S} (ends : course.Ends first steps outcome after) :
    (course.whole steps).run first = (outcome, after) := by
  cases ends with
  | inOpening failed => rw [whole, Effect.run_bind_of_error failed]
  | @inAdvance done _ _ _ bound pending failed =>
      obtain ⟨remaining, rfl⟩ := Nat.exists_eq_add_of_lt bound
      rw [Nat.add_assoc, pending.run_whole, continueRun_succ, Effect.run_bind_of_error failed]
  | @inCheck done _ _ _ _ bound pending advanced failed =>
      obtain ⟨remaining, rfl⟩ := Nat.exists_eq_add_of_lt bound
      rw [Nat.add_assoc, pending.run_whole, continueRun_succ,
        Effect.run_bind_of_ok advanced, Effect.run_bind_of_error failed]
  | outOfSteps pending => exact pending.run_whole 0
  | closed bound stopped closed =>
      obtain ⟨remaining, rfl⟩ := Nat.exists_eq_add_of_le bound
      rw [stopped.run_whole, closed]

theorem solveWithin_ends {before : Memory S} (fits : course.Fits before.2.state) {steps : Nat}
    {outcome : Except (Fault S) (Point S)} {after : Memory S}
    (ended : (solveWithin steps course.problem course.decorators).run before =
      (outcome, after)) :
    course.Ends (course.begin before) steps outcome after := by
  rw [run_solveWithin steps fits] at ended
  exact whole_ends ended

theorem Ends.run {before : Memory S} (fits : course.Fits before.2.state) {steps : Nat}
    {outcome : Except (Fault S) (Point S)} {after : Memory S}
    (ends : course.Ends (course.begin before) steps outcome after) :
    (solveWithin steps course.problem course.decorators).run before = (outcome, after) := by
  rw [run_solveWithin steps fits]
  exact ends.run_whole

end Course

end ProximalSplitting

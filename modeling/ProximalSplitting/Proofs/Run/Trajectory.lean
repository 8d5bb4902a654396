import ProximalSplitting.Proofs.Method.Frames
import ProximalSplitting.Proofs.Run.Course
import ProximalSplitting.Proofs.Watching.Frames

/-!
The memories that a run passes through. Only preparing and stepping change the state, so the state
that criteria and decorators see at an iteration is the one that its step left.
-/

namespace ProximalSplitting

open Tracked

def Call.isWatching {S : Type} : Call S → Bool
  | .observe _ _ => true
  | .check _ => true
  | _ => false

theorem SolverState.iterations_withIterations {S : Type} [Scalar S] (state : SolverState S)
    (iterations : Int) :
    (state.withIterations iterations).field? "iterations" = some (.integer iterations) := by
  have absent : (state.extras.filter fun field => field.1 ≠ "iterations").lookup "iterations" =
      none := by
    rw [List.lookup_eq_none_iff]
    intro field member
    have different : field.1 ≠ "iterations" := by simpa using (List.mem_filter.mp member).2
    simpa using different.symm
  rw [field?, withIterations, absent]
  rfl

namespace Course

variable {S : Type} [Scalar S] (course : Course S)

omit [Scalar S] in
def counted (iterations : Nat) (last : Memory S) : Memory S :=
  (last.1, { last.2 with state := last.2.state.withIterations iterations })

def finish (iterations : Nat) (shown : Memory S) : Memory S :=
  ({ shown.1 with
      messages := shown.1.messages ++ [stopMessage course.solver iterations
        (shown.2.workspace.criterion course.criterion.number).reason] },
    shown.2)

def memoryAfter (calls : List (Call S)) (first : Memory S) : Memory S :=
  ((course.performAll calls).run first).2

def afterStep (first : Memory S) (iteration : Nat) : Memory S :=
  course.memoryAfter (course.callsUntilStep iteration) first

def iterateAt (first : Memory S) (iteration : Nat) : Point S :=
  (course.afterStep first iteration).2.state.iterate

def atCheck (first : Memory S) (iteration : Nat) : Memory S :=
  course.memoryAfter (course.callsUntilCheck iteration) first

variable {course}

theorem Performs.memoryAfter {calls : List (Call S)} {before after : Memory S}
    (performed : course.Performs calls before after) :
    course.memoryAfter calls before = after := by
  rw [Course.memoryAfter, performed]

theorem keeps_performAll {γ : Type} {view : Session S → γ} {calls : List (Call S)}
    (each : ∀ call ∈ calls, Keeps view (course.perform call)) :
    Keeps view (course.performAll calls) := by
  induction calls with
  | nil => exact keeps_pure ()
  | cons first rest ih =>
      refine keeps_bind (each first List.mem_cons_self) fun _ => ?_
      exact ih fun call member => each call (List.mem_cons_of_mem first member)

theorem check_keeps_state (iteration : Nat) : Keeps Session.state (course.check iteration) := by
  intro before
  rw [run_check]
  exact Run.keeps_watch_state before

theorem perform_keeps_state {call : Call S} (watching : call.isWatching) :
    Keeps Session.state (course.perform call) := by
  cases call with
  | prepare => nomatch watching
  | step _ => nomatch watching
  | observe decorator iteration =>
      intro before
      rw [run_observe]
      exact Run.keeps_watch_state before
  | check iteration => exact keeps_bind (check_keeps_state iteration) fun _ => keeps_pure ()

theorem performAll_keeps_state {calls : List (Call S)}
    (watching : ∀ call ∈ calls, call.isWatching) :
    Keeps Session.state (course.performAll calls) :=
  keeps_performAll fun call member => perform_keeps_state (watching call member)

theorem looks_watching (iteration : Int) : ∀ call ∈ course.looks iteration, call.isWatching := by
  intro call member
  obtain ⟨decorator, _, rfl⟩ := List.mem_map.mp member
  rfl

theorem observe_keeps_judging (decorator : Decorator S) (iteration : Int) :
    Keeps (fun session => session.workspace.judging)
      (course.perform (.observe decorator iteration)) := by
  intro before
  have kept : Keeps (fun session : Session S => session.workspace.judging)
      (Run.watch (decorator.observe course.problem before.2.state iteration)) :=
    keeps_part (decorator.observe_keeps_judging course.problem before.2.state iteration)
      fun _ _ same => same
  rw [run_observe]
  exact kept before

theorem looks_keep_judging (iteration : Int) :
    Keeps (fun session => session.workspace.judging)
      (course.performAll (course.looks iteration)) := by
  refine keeps_performAll fun call member => ?_
  obtain ⟨decorator, _, rfl⟩ := List.mem_map.mp member
  exact observe_keeps_judging decorator iteration

theorem check_keeps_showing (iteration : Nat) :
    Keeps (fun session => session.workspace.showing) (course.check iteration) := by
  intro before
  have kept : Keeps (fun session : Session S => session.workspace.showing)
      (Run.watch (course.criterion.check course.problem before.2.state (iteration : Int))) :=
    keeps_part (Criterion.check_keeps_showing course.problem before.2.state course.criterion _)
      fun _ _ same => same
  rw [run_check]
  exact kept before

variable (course) in
theorem run_close {iterations : Nat} {last after : Memory S}
    (looked : course.Performs (course.looks (-1)) (counted iterations last) after) :
    (course.close iterations).run last =
      (.ok (course.solver.result after.2.state), course.finish iterations after) := by
  have countedRan : (Run.step (Tracked.update fun state => state.withIterations iterations) :
      Run S Unit).run last = (.ok (), counted iterations last) := rfl
  rw [close, showIteration_eq, Effect.run_bind_of_ok countedRan, Effect.run_bind_of_ok looked]
  rfl

/-- A run is closed as soon as it was counted, unless its last looks fail. -/
theorem run_close_of_error {iterations : Nat} {last after : Memory S} {fault : Fault S}
    (failed : (course.performAll (course.looks (-1))).run (counted iterations last) =
      (.error fault, after)) :
    (course.close iterations).run last = (.error fault, after) := by
  have countedRan : (Run.step (Tracked.update fun state => state.withIterations iterations) :
      Run S Unit).run last = (.ok (), counted iterations last) := rfl
  rw [close, showIteration_eq, Effect.run_bind_of_ok countedRan, Effect.run_bind_of_error failed]

theorem looks_of_close {iterations : Nat} {last after : Memory S} {point : Point S}
    (closed : (course.close iterations).run last = (.ok point, after)) :
    ∃ shown, course.Performs (course.looks (-1)) (counted iterations last) shown ∧
      point = course.solver.result shown.2.state ∧ after = course.finish iterations shown := by
  rcases looked : (course.performAll (course.looks (-1))).run (counted iterations last)
    with ⟨outcome, shown⟩
  cases outcome with
  | error fault =>
      rw [run_close_of_error looked] at closed
      cases closed
  | ok _ =>
      rw [run_close course looked] at closed
      cases closed
      exact ⟨shown, looked, rfl, rfl⟩

theorem close_ok {iterations : Nat} {last after : Memory S} {point : Point S}
    (closed : (course.close iterations).run last = (.ok point, after)) :
    after.2.state = last.2.state.withIterations iterations ∧
      point = course.solver.result (last.2.state.withIterations iterations) := by
  obtain ⟨shown, looked, rfl, rfl⟩ := looks_of_close closed
  have kept : shown.2.state = last.2.state.withIterations iterations :=
    (performAll_keeps_state (looks_watching _)).of_run looked
  exact ⟨kept, congrArg course.solver.result kept⟩

section LoopFields

structure Frames (course : Course S) : Prop where
  prepare : Keeps SolverState.loopFields (course.solver.prepare course.problem)
  step : ∀ iteration, Keeps SolverState.loopFields (course.solver.step course.problem iteration)

theorem Fits.frames {state : SolverState S} (fits : course.Fits state) : course.Frames :=
  have kept := Solver.keeps_loopFields course.problem fits.solver
  ⟨kept.1, kept.2⟩

end LoopFields

section Iteration

variable {first middle called : Memory S} {done : Nat}

theorem Performs.advance_iff {before after : Memory S} {iteration : Nat} :
    course.Performs (course.advance iteration) before after ↔
      ∃ stepped, course.Performs [.step iteration] before stepped ∧
        course.Performs (course.looks iteration) stepped after := by
  have parts : course.advance iteration = [.step iteration] ++ course.looks iteration := rfl
  rw [parts]
  exact performs_append

theorem Pending.atCheck (pending : course.Pending first done middle)
    (advanced : course.Performs (course.advance (done + 1)) middle called) :
    course.atCheck first (done + 1) = called :=
  (performs_append.mpr ⟨middle, pending.performs, advanced⟩).memoryAfter

theorem Pending.afterStep (pending : course.Pending first done middle) {stepped : Memory S}
    (performed : course.Performs [.step (done + 1)] middle stepped) :
    course.afterStep first (done + 1) = stepped :=
  (performs_append.mpr ⟨middle, pending.performs, performed⟩).memoryAfter

theorem Pending.state_advance (pending : course.Pending first done middle)
    (advanced : course.Performs (course.advance (done + 1)) middle called) :
    called.2.state = (course.afterStep first (done + 1)).2.state := by
  obtain ⟨stepped, performed, looked⟩ := Performs.advance_iff.mp advanced
  rw [pending.afterStep performed]
  exact (performAll_keeps_state (looks_watching _)).of_run looked

theorem Performs.opening {after : Memory S} (opened : course.Performs course.opening first after) :
    ∃ prepared checked met, course.Performs [.prepare] first prepared ∧
      (course.check 0).run prepared = (.ok met, checked) ∧
      course.Performs (course.looks 0) checked after := by
  obtain ⟨prepared, ran, rest⟩ := performs_cons.mp opened
  obtain ⟨checked, ranCheck, looked⟩ := performs_cons.mp rest
  obtain ⟨met, between, ranAlone, ended⟩ := Effect.run_bind_ok_iff.mp ranCheck
  cases ended
  exact ⟨prepared, checked, met, performs_cons.mpr ⟨prepared, ran, performs_nil.mpr rfl⟩,
    ranAlone, looked⟩

theorem Performs.step_workspace {before stepped : Memory S} {iteration : Nat}
    (performed : course.Performs [.step iteration] before stepped) :
    stepped.2.workspace = before.2.workspace := by
  obtain ⟨_, ran, ended⟩ := performs_cons.mp performed
  cases performs_nil.mp ended
  exact Run.keeps_step_workspace.of_run ran

theorem check_keeps_actions {before after : Memory S} {iteration : Nat}
    {outcome : Except (Fault S) Bool}
    (checked : (course.check iteration).run before = (outcome, after)) :
    after.2.workspace.actions = before.2.workspace.actions :=
  congrArg Prod.snd ((check_keeps_showing iteration).of_run checked)

/-- The looks at iteration 0 see the state that preparing left and untouched actions. -/
theorem Performs.opening_looks {after : Memory S}
    (opened : course.Performs course.opening first after) :
    ∃ shown, course.Performs (course.looks 0) shown after ∧
      shown.2.workspace.actions = first.2.workspace.actions ∧
      shown.2.state = (course.afterStep first 0).2.state := by
  obtain ⟨prepared, checked, met, ranPrepare, ranCheck, looked⟩ := opened.opening
  obtain ⟨_, ran, ended⟩ := performs_cons.mp ranPrepare
  cases performs_nil.mp ended
  have kept : prepared.2.workspace = first.2.workspace := Run.keeps_step_workspace.of_run ran
  refine ⟨checked, looked, ?_, ?_⟩
  · rw [check_keeps_actions ranCheck, kept]
  · rw [Course.afterStep, callsUntilStep, ranPrepare.memoryAfter]
    exact (check_keeps_state 0).of_run ranCheck

theorem Pending.state (pending : course.Pending first done middle) :
    middle.2.state = (course.afterStep first done).2.state := by
  cases pending with
  | opened performed =>
      obtain ⟨prepared, checked, met, ranPrepare, ranCheck, looked⟩ := performed.opening
      rw [Course.afterStep, callsUntilStep, ranPrepare.memoryAfter]
      exact ((performAll_keeps_state (looks_watching _)).of_run looked).trans
        ((check_keeps_state 0).of_run ranCheck)
  | passed pending advanced checked =>
      rw [← pending.state_advance advanced]
      exact (check_keeps_state _).of_run checked

theorem Stops.state {last : Memory S} {iterations : Nat}
    (stopped : course.Stops first iterations last) :
    last.2.state = (course.afterStep first iterations).2.state := by
  cases stopped with
  | met pending advanced checked =>
      rw [← pending.state_advance advanced]
      exact (check_keeps_state _).of_run checked

theorem Performs.judging_advance {before after : Memory S} {iteration : Nat}
    (advanced : course.Performs (course.advance iteration) before after) :
    after.2.workspace.judging = before.2.workspace.judging := by
  obtain ⟨stepped, performed, looked⟩ := Performs.advance_iff.mp advanced
  rw [← performed.step_workspace]
  exact (looks_keep_judging _).of_run looked

end Iteration

end Course

section Lasting

variable {S : Type} [Scalar S] {invariant : SolverState S → Prop}
  {problem : Problem S} {decorators : List (Decorator S)}

theorem stays_showIteration (iteration : Int) :
    Stays (fun session => invariant session.state) (showIteration problem decorators iteration) :=
  fun _ holds => holds

theorem stays_checkCriterion (criterion : Criterion S) (iteration : Int) :
    Stays (fun session => invariant session.state) (checkCriterion problem criterion iteration) :=
  fun _ holds => holds

theorem stays_iterateUntil {solver : Solver S}
    (step : ∀ iteration, Stays invariant (solver.step problem iteration)) (criterion : Criterion S)
    (remaining done : Nat) :
    Stays (fun session => invariant session.state)
      (iterateUntil problem solver criterion decorators remaining done) := by
  induction remaining generalizing done with
  | zero => exact stays_fail _
  | succ remaining ih =>
      refine stays_bind (fun before => step _ (before.1, before.2.state)) fun _ => ?_
      refine stays_bind (stays_showIteration _) fun _ => ?_
      exact stays_bind (stays_checkCriterion criterion _) fun met =>
        stays_ite (stays_pure _) (ih (done + 1))

theorem Course.Fits.stays_performAll {course : Course S} {state : SolverState S}
    (fits : course.Fits state) (lasting : SolverState.Lasting invariant) (calls : List (Call S)) :
    Stays (fun session => invariant session.state) (course.performAll calls) := by
  obtain ⟨prepare, step⟩ := Solver.stays_of_state lasting course.problem fits.solver
  have watched : ∀ call : Call S, call.isWatching →
      Stays (fun session => invariant session.state) (course.perform call) :=
    fun _ watching => (Course.perform_keeps_state watching).stays
  induction calls with
  | nil => exact stays_pure ()
  | cons call rest ih =>
      refine stays_bind ?_ fun _ => ih
      cases call with
      | prepare => exact fun before => prepare (before.1, before.2.state)
      | step iteration => exact fun before => step iteration (before.1, before.2.state)
      | observe decorator iteration => exact watched _ rfl
      | check iteration => exact watched _ rfl

theorem Course.Pending.stays {course : Course S} {first middle : Memory S} {done : Nat}
    (pending : course.Pending first done middle) {state : SolverState S} (fits : course.Fits state)
    (lasting : SolverState.Lasting invariant) (holds : invariant first.2.state) :
    invariant middle.2.state := by
  have kept := fits.stays_performAll lasting (course.callsThrough done) first holds
  rwa [pending.performs] at kept

/-- A run does not break what no method breaks and counting does not break. -/
theorem stays_solveWithin (lasting : SolverState.Lasting invariant)
    (counts : ∀ {state} iterations, invariant state → invariant (state.withIterations iterations))
    (steps : Nat) :
    Stays (fun session => invariant session.state) (solveWithin steps problem decorators) := by
  intro before holds
  rw [solveWithin, solveWith, Run.run_state_bind]
  cases found : Solver.ofState before.2.state with
  | error fault => exact holds
  | ok solver =>
      obtain ⟨prepare, step⟩ := Solver.stays_of_state lasting problem found
      have chosen : (liftM (Except.ok solver : Except (Fault S) (Solver S)) : Run S (Solver S)).run
          before = (.ok solver, before) := rfl
      rw [Effect.run_bind_of_ok chosen]
      refine (?_ : Stays (fun session => invariant session.state) _) before holds
      refine stays_bind (stays_of_same fun _ => rfl) fun _ => ?_
      refine stays_bind (fun memory => prepare (memory.1, memory.2.state)) fun _ => ?_
      cases before.2.state.criterion with
      | none => exact stays_fail _
      | some criterion =>
          refine stays_bind (stays_checkCriterion criterion _) fun _ => ?_
          refine stays_bind (stays_showIteration _) fun _ => ?_
          refine stays_bind (stays_iterateUntil step criterion steps 0) fun iterations => ?_
          refine stays_bind (fun _ held => counts iterations held) fun _ => ?_
          refine stays_bind (stays_showIteration _) fun _ => ?_
          exact stays_of_same fun _ => rfl

theorem Course.Fits.of_loopFields {course : Course S} {left right : SolverState S}
    (fits : course.Fits left) (same : right.loopFields = left.loopFields) : course.Fits right where
  solver := (congrArg (fun fields => fields.2.2.2) same).trans fits.solver
  criterion := (congrArg Prod.fst same).trans fits.criterion

theorem Course.lasting_fits (course : Course S) : SolverState.Lasting course.Fits where
  iterate := fun iterate fits =>
    fits.of_loopFields ((SolverState.lasting_loopFields _).iterate iterate rfl)
  order := fun order fits =>
    fits.of_loopFields ((SolverState.lasting_loopFields _).order order rfl)
  key := fun key fits =>
    fits.of_loopFields ((SolverState.lasting_loopFields _).key key rfl)
  driver := fun driver fits =>
    fits.of_loopFields ((SolverState.lasting_loopFields _).driver driver rfl)

/-- After any run, of any problem, a state still has its solver and its criterion. -/
theorem Course.Fits.of_run {course : Course S} {before after : Memory S}
    {outcome : Except (Fault S) (Point S)} {steps : Nat} (fits : course.Fits before.2.state)
    (ran : (solveWithin steps problem decorators).run before = (outcome, after)) :
    course.Fits after.2.state := by
  have stays : Stays (fun session => course.Fits session.state)
      (solveWithin steps problem decorators) :=
    stays_solveWithin course.lasting_fits
      (fun iterations fits => ⟨fits.solver, fits.criterion⟩) steps
  have kept := stays before fits
  rwa [ran] at kept

end Lasting

end ProximalSplitting

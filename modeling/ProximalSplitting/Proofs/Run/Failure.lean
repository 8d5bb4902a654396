import ProximalSplitting.Proofs.Method.Failure
import ProximalSplitting.Proofs.Run.Along
import ProximalSplitting.Proofs.Run.Sample
import ProximalSplitting.Proofs.Watching.Rows

/-!
What a run leaves behind when a function of the caller raises inside a step: the points of the last
completed step, a criterion that was not met, and the records of the completed iterations.
-/

namespace ProximalSplitting

open Effect Tracked

namespace Criterion

variable {S : Type}

theorem reason_renew (iterate : Point S) (criterion : Criterion S) (workspace : Workspace S) :
    ((criterion.renew iterate workspace).criterion criterion.number).reason = "" :=
  reason_renewed iterate criterion (.inl criterion.number_mem_numbers)

variable [Scalar S] {problem : Problem S} {state : SolverState S}

theorem reason_check_of_not_met {criterion : Criterion S} {iteration : Int} (later : iteration ≠ 0)
    {before after : Journal × Workspace S}
    (checked : (criterion.check problem state iteration).run before = (.ok false, after))
    (empty : (before.2.criterion criterion.number).reason = "") :
    (after.2.criterion criterion.number).reason = "" := by
  cases criterion with
  | single number test =>
      rw [check] at checked
      obtain ⟨verdict, _, unmet, noted⟩ := checkTest_ok later checked
      rw [noted]
      refine reason_changeCriterion _ number ?_
      rw [StoppingTest.note, unmet, reason_tick]
      exact empty
  | set number connective members =>
      obtain ⟨_, _, _, _, wrote⟩ := check_set_ok checked
      rw [wrote]
      exact reason_changeCriterion _ number rfl

end Criterion

namespace Course

variable {S : Type} [Scalar S] {course : Course S} {first middle : Memory S} {done : Nat}

theorem Pending.reason (pending : course.Pending first done middle) :
    (middle.2.workspace.criterion course.criterion.number).reason = "" := by
  induction pending with
  | opened performed =>
      obtain ⟨prepared, checked, met, ranPrepare, ranCheck, looked⟩ := performed.opening
      rw [course.run_check_zero] at ranCheck
      cases ranCheck
      rw [Workspace.criterion_of_judging ((looks_keep_judging 0).of_run looked)]
      exact Criterion.reason_renew _ course.criterion _
  | @passed done middle called after pending advanced checked ih =>
      rw [run_check, Run.watch, run_part] at checked
      rcases ran : (course.criterion.check course.problem called.2.state ((done + 1 : Nat) : Int)).run
        (called.1, called.2.workspace) with ⟨outcome, left⟩
      rw [ran] at checked
      cases checked
      refine Criterion.reason_check_of_not_met (by omega) ran ?_
      rw [Workspace.criterion_of_judging advanced.judging_advance]
      exact ih

def findings (course : Course S) (iteration : Int) (shown : Memory S) :
    List (Glance S × Value S) :=
  Glance.findings course.problem shown.2.state
    (Decorator.glancesOfAll course.decorators iteration) (shown.1, shown.2.workspace)

def rowsAt (course : Course S) (first : Memory S) (number iteration : Nat) : List (Value S) :=
  (course.findings iteration (course.afterStep first iteration)).filterMap (Glance.row? number)

def Records (course : Course S) (number : Nat) : Prop :=
  ∃ kind, .column number kind 0 ∈ Decorator.glancesOfAll course.decorators 0

theorem Performs.looks_runAll {iteration : Int} {shown after : Memory S}
    (looked : course.Performs (course.looks iteration) shown after) :
    (Glance.runAll course.problem shown.2.state
      (Decorator.glancesOfAll course.decorators iteration)).run (shown.1, shown.2.workspace) =
        (.ok (), (after.1, after.2.workspace)) := by
  have ran : (course.performAll (course.looks iteration)).run shown = (.ok (), after) := looked
  rw [← showIteration_eq, run_show, Decorator.observeAll_eq_glances, Run.watch, run_part] at ran
  rcases glanced : (Glance.runAll course.problem shown.2.state
    (Decorator.glancesOfAll course.decorators iteration)).run (shown.1, shown.2.workspace)
    with ⟨outcome, left⟩
  rw [glanced] at ran
  cases ran
  rfl

theorem Performs.rows_looks {iteration : Int} {shown after : Memory S}
    (looked : course.Performs (course.looks iteration) shown after) {number : Nat}
    (allocated : number < shown.2.workspace.actions.length) :
    after.2.workspace.actions.length = shown.2.workspace.actions.length ∧
      (course.findings iteration shown).map Prod.fst =
        Decorator.glancesOfAll course.decorators iteration ∧
      (after.2.workspace.action number).rows =
        (course.findings iteration shown).foldl (Glance.extendRows number)
          (shown.2.workspace.action number).rows := by
  exact ⟨Glance.length_actions_runAll looked.looks_runAll,
    Glance.rows_runAll course.problem shown.2.state looked.looks_runAll allocated⟩

theorem Pending.rows_advance (pending : course.Pending first done middle) {called : Memory S}
    (advanced : course.Performs (course.advance (done + 1)) middle called) {number : Nat}
    (allocated : number < middle.2.workspace.actions.length) :
    called.2.workspace.actions.length = middle.2.workspace.actions.length ∧
      (called.2.workspace.action number).rows =
        (middle.2.workspace.action number).rows ++ course.rowsAt first number (done + 1) := by
  obtain ⟨stepped, performed, looked⟩ := Performs.advance_iff.mp advanced
  have keptStep := performed.step_workspace
  obtain ⟨length, glances, rows⟩ := looked.rows_looks (keptStep ▸ allocated)
  refine ⟨by rw [length, keptStep], ?_⟩
  rw [rows, Glance.foldl_extendRows_of_nonzero ?_ _, keptStep, rowsAt, pending.afterStep performed]
  intro kind seen member
  rw [glances] at member
  rcases (Decorator.mem_glances_column member).1 with same | ⟨_, same⟩
  · omega
  · omega

theorem Pending.rows_iteration (pending : course.Pending first done middle) {number : Nat}
    (allocated : number < first.2.workspace.actions.length)
    (earlier : middle.2.workspace.actions.length = first.2.workspace.actions.length ∧
      (middle.2.workspace.action number).rows =
        (List.range' 1 done).flatMap (course.rowsAt first number))
    {called after : Memory S} {outcome : Except (Fault S) Bool}
    (advanced : course.Performs (course.advance (done + 1)) middle called)
    (ranCheck : (course.check (done + 1)).run called = (outcome, after)) :
    after.2.workspace.actions.length = first.2.workspace.actions.length ∧
      (after.2.workspace.action number).rows =
        (List.range' 1 (done + 1)).flatMap (course.rowsAt first number) := by
  obtain ⟨lengthBefore, rowsBefore⟩ := earlier
  obtain ⟨length, rows⟩ := pending.rows_advance advanced (lengthBefore ▸ allocated)
  have keptCheck := check_keeps_actions ranCheck
  refine ⟨by rw [keptCheck, length, lengthBefore], ?_⟩
  rw [Workspace.action, keptCheck, ← Workspace.action, rows, rowsBefore, List.range'_1_concat,
    List.flatMap_append, List.flatMap_singleton, Nat.add_comm 1]

/-- After the completed iterations of a run, a column holds exactly their rows. -/
theorem Pending.rows (pending : course.Pending first done middle) {number : Nat}
    (records : course.Records number) (allocated : number < first.2.workspace.actions.length) :
    middle.2.workspace.actions.length = first.2.workspace.actions.length ∧
      (middle.2.workspace.action number).rows =
        (List.range' 1 done).flatMap (course.rowsAt first number) := by
  -- The looks at iteration 0 empty the column, and those at a later one add its row.
  induction pending with
  | @opened after performed =>
      obtain ⟨shown, looked, actions, _⟩ := performed.opening_looks
      have sameLength : shown.2.workspace.actions.length = first.2.workspace.actions.length := by
        rw [actions]
      obtain ⟨length, glances, rows⟩ := looked.rows_looks (sameLength ▸ allocated)
      refine ⟨length.trans sameLength, ?_⟩
      rw [rows]
      refine Glance.foldl_extendRows_of_zero (fun member => ?_) _ (.inr ?_)
      · rw [glances] at member
        rcases (Decorator.mem_glances_column member).1 with same | ⟨positive, _⟩
        · exact same
        · omega
      · rw [glances]
        exact records
  | passed pending advanced ranCheck ih =>
      exact pending.rows_iteration allocated ih advanced ranCheck

theorem Stops.rows {last : Memory S} {iterations : Nat}
    (stopped : course.Stops first iterations last) {number : Nat}
    (records : course.Records number) (allocated : number < first.2.workspace.actions.length) :
    last.2.workspace.actions.length = first.2.workspace.actions.length ∧
      (last.2.workspace.action number).rows =
        (List.range' 1 iterations).flatMap (course.rowsAt first number) := by
  cases stopped with
  | met pending advanced ranCheck =>
      exact pending.rows_iteration allocated (pending.rows records allocated) advanced ranCheck

section Calls

omit [Scalar S] in
def checked? : Call S → Option Nat
  | .check iteration => some iteration
  | _ => none

theorem checked_looks (course : Course S) (iteration : Int) :
    (course.looks iteration).filterMap checked? = [] := by
  rw [List.filterMap_eq_nil_iff]
  intro call member
  obtain ⟨decorator, _, rfl⟩ := List.mem_map.mp member
  rfl

theorem checked_callsThrough (course : Course S) (done : Nat) :
    (course.callsThrough done).filterMap checked? = List.range (done + 1) := by
  induction done with
  | zero => simp [callsThrough, opening, List.filterMap_cons, checked?, checked_looks]
  | succ done ih =>
      have longer : List.range (done + 1 + 1) = List.range (done + 1) ++ [done + 1] :=
        List.range_succ
      rw [callsThrough, List.filterMap_append, List.filterMap_append, ih, longer]
      simp [advance, List.filterMap_cons, checked?, checked_looks]

theorem observed_callsThrough {decorator : Decorator S} {iteration : Int}
    (member : .observe decorator iteration ∈ course.callsThrough done) :
    0 ≤ iteration ∧ iteration ≤ done := by
  have ofLooks : ∀ {shown : Int}, .observe decorator iteration ∈ course.looks shown →
      iteration = shown := by
    intro shown looked
    obtain ⟨other, _, same⟩ := List.mem_map.mp looked
    cases same
    rfl
  induction done with
  | zero =>
      simp only [callsThrough, opening, List.mem_cons, reduceCtorEq, false_or] at member
      have same := ofLooks member
      omega
  | succ done ih =>
      simp only [callsThrough, advance, List.mem_append, List.mem_cons, List.not_mem_nil,
        reduceCtorEq, false_or, or_false] at member
      rcases member with earlier | looked
      · have bounds := ih earlier
        omega
      · have same := ofLooks looked
        omega

end Calls

variable (course) in
structure BreaksOff (before : Memory S) (done : Nat) (fault : Fault S) (after : Memory S) :
    Prop where
  calls : (course.performAll (course.callsThrough done ++ [.step (done + 1)])).run
    (course.begin before) = (.error fault, after)
  points : (after.2.state.iterate, after.2.state.driver?) =
    ((course.afterStep (course.begin before) done).2.state.iterate,
      (course.afterStep (course.begin before) done).2.state.driver?)
  iterations : after.2.state.field? "iterations" = before.2.state.field? "iterations"
  workspace : after.2.workspace =
    (course.memoryAfter (course.callsThrough done) (course.begin before)).2.workspace
  reason : after.2.state.reason after.2.workspace = .ok ""
  rows : ∀ number, course.Records number → number < before.2.workspace.actions.length →
    (after.2.workspace.action number).rows =
      (List.range' 1 done).flatMap (course.rowsAt (course.begin before) number)

/-- When a function of the caller raises inside a step, the run raises the same fault and leaves
what the last completed iteration left. -/
theorem run_breaks_off {before : Memory S} (fits : course.Fits before.2.state)
    (pending : course.Pending (course.begin before) done middle) {fault : Fault S}
    (interruption : Interruption course.problem (done + 1 : Nat) fault (middle.1, middle.2.state))
    {steps : Nat} (enough : done < steps) :
    ∃ after, (solveWithin steps course.problem course.decorators).run before =
        (.error fault, after) ∧
      course.BreaksOff before done fault after ∧
      (course.callsThrough done).filterMap checked? = List.range (done + 1) ∧
      ∀ (decorator : Decorator S) (iteration : Int),
        .observe decorator iteration ∈ course.callsThrough done ++ [.step (done + 1)] →
        0 ≤ iteration ∧ iteration ≤ done := by
  have fields : middle.2.state.loopFields = before.2.state.loopFields :=
    pending.stays fits (SolverState.lasting_loopFields _) rfl
  have sameSolver : Solver.ofState middle.2.state = .ok course.solver :=
    (congrArg (fun fields => fields.2.2.2) fields).trans fits.solver
  obtain ⟨left, failed, points⟩ := interruption.step_fails sameSolver
  let after : Memory S := (left.1, { middle.2 with state := left.2 })
  have stepFailed : (course.perform (.step (done + 1))).run middle = (.error fault, after) := by
    exact Run.run_step_of failed
  have advanceFailed :
      (course.performAll (course.advance (done + 1))).run middle = (.error fault, after) :=
    performAll_of_error stepFailed _
  have ends : course.Ends (course.begin before) steps (.error fault) after :=
    .inAdvance enough pending advanceFailed
  have stepFields : after.2.state.loopFields = middle.2.state.loopFields :=
    (Run.keeps_step_of (fits.frames.step _)).of_run stepFailed
  have criterion : after.2.state.criterion = some course.criterion :=
    (congrArg Prod.fst (stepFields.trans fields)).trans fits.criterion
  refine ⟨after, ends.run fits, ⟨?_, ?_, ?_, ?_, ?_, ?_⟩, course.checked_callsThrough done, ?_⟩
  · rw [performAll_append, run_bind_of_ok pending.performs, performAll_of_error stepFailed]
  · rw [← pending.state]
    exact points
  · exact SolverState.field_iterations_of_loopFields (stepFields.trans fields)
  · rw [pending.performs.memoryAfter]
  · rw [SolverState.reason, criterion]
    exact congrArg Except.ok pending.reason
  · intro number records allocated
    exact (pending.rows records allocated).2
  · intro decorator iteration member
    rcases List.mem_append.mp member with completed | failing
    · exact observed_callsThrough completed
    · cases List.mem_singleton.mp failing

section Sample

def worn : Course Int := { Sample.course with problem := Sample.worn 1 }

theorem interruption_worn {middle : Memory Int} (describes : Sample.recipe.Describes middle.2.state)
    (called : middle.1.counters = [1]) :
    Interruption worn.problem (2 : Nat) (.refused 2) (middle.1, middle.2.state) := by
  obtain ⟨⟨messages, compiler, counters⟩, workspace, state⟩ := middle
  cases called
  cases describes with
  | cyclic _ _ chosen ordered isCyclic =>
      cases chosen
      cases ordered
      have visits : (CyclicProximalPoint.visitingOrder worn.problem).run
          (⟨messages, compiler, [1]⟩, state) =
            (.ok ([0] ++ 1 :: []), ⟨messages, compiler, [1]⟩, state) := by
        obtain ⟨iterate, criterion, iterations, method, extras⟩ := state
        cases isCyclic
        rfl
      exact .cyclicMap isCyclic rfl visits rfl ⟨_, .refusing 0 1, rfl, rfl, rfl⟩

theorem pending_worn : ∃ middle, worn.Pending (worn.begin Sample.memory) 1 middle ∧
    middle.1.counters = [1] := by
  have opens : ((worn.performAll worn.opening).run (worn.begin Sample.memory)).1.isOk = true := by
    decide +kernel
  have advances : ((worn.performAll (worn.advance 1)).run
      ((worn.performAll worn.opening).run (worn.begin Sample.memory)).2).1.isOk = true := by
    decide +kernel
  have passes : (((worn.check 1).run ((worn.performAll (worn.advance 1)).run
      ((worn.performAll worn.opening).run (worn.begin Sample.memory)).2).2).1.toOption,
      ((worn.check 1).run ((worn.performAll (worn.advance 1)).run
        ((worn.performAll worn.opening).run (worn.begin Sample.memory)).2).2).2.1.counters) =
      (some false, [1]) := by
    decide +kernel
  obtain ⟨_, opened, performed⟩ := exists_ok_of_isOk opens
  rw [performed] at advances passes
  obtain ⟨_, called, advanced⟩ := exists_ok_of_isOk advances
  rw [advanced] at passes
  rcases checked : (worn.check 1).run called with ⟨outcome, middle⟩
  rw [checked] at passes
  obtain ⟨notMet, counters⟩ := Prod.mk.inj passes
  cases outcome with
  | error _ => cases notMet
  | ok met =>
      cases notMet
      exact ⟨middle, .passed (.opened performed) advanced checked, counters⟩

theorem sample_breaks_off : ∃ middle : Memory Int,
    worn.Fits Sample.memory.2.state ∧ worn.Pending (worn.begin Sample.memory) 1 middle ∧
      Interruption worn.problem (2 : Nat) (.refused 2) (middle.1, middle.2.state) ∧
      ∃ after, (solveWithin 5 worn.problem worn.decorators).run Sample.memory =
          (.error (.refused 2), after) ∧
        worn.BreaksOff Sample.memory 1 (.refused 2) after ∧
        (worn.callsThrough 1).filterMap checked? = [0, 1] ∧
        ∀ (decorator : Decorator Int) (iteration : Int),
          .observe decorator iteration ∈ worn.callsThrough 1 ++ [.step 2] →
          0 ≤ iteration ∧ iteration ≤ 1 := by
  have fits : worn.Fits Sample.memory.2.state := ⟨rfl, rfl⟩
  obtain ⟨middle, pending, called⟩ := pending_worn
  have constructed : (Sample.recipe.make (Sample.mark 0)).run ({}, Sample.workspace) =
      (.ok Sample.state, {}, Sample.workspace) := rfl
  have describes : Sample.recipe.Describes middle.2.state :=
    pending.stays fits (Recipe.Describes.lasting _) (Recipe.describes_of_make constructed)
  have interruption := interruption_worn describes called
  exact ⟨middle, fits, pending, interruption,
    run_breaks_off fits pending interruption (by decide : 1 < 5)⟩

end Sample

end Course

end ProximalSplitting

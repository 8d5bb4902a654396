import ProximalSplitting.Proofs.Effects.Laws
import ProximalSplitting.Proofs.Watching.Workspace
import ProximalSplitting.Solver.Stopping

/-!
What one test does when it is called. Its verdict is computed from what the criterion remembers and
the clock; the call then brings the memory up to date. A call that fails changes nothing but the
journal.
-/

namespace ProximalSplitting

namespace StoppingTest

variable {S : Type} [Scalar S]

def readsClock : StoppingTest S → Bool
  | .elapsed _ => true
  | _ => false

def watchesIterate : StoppingTest S → Bool
  | .change _ => true
  | _ => false

def tick (test : StoppingTest S) (workspace : Workspace S) : Workspace S :=
  if test.readsClock then workspace.moveClock else workspace

def judge (problem : Problem S) (state : SolverState S) (memory : CriterionMemory S) (now : S)
    (iteration : Int) : StoppingTest S → Compute S (Bool × String)
  | .iterations limit =>
      pure (limit.reachedBy? iteration = some true, Criterion.iterationReason limit)
  | .change tolerance => do
      match ← Criterion.measureChange problem state memory.lastIterate with
      | some moved =>
          return (Scalar.less moved tolerance, Criterion.changeReason moved tolerance)
      | none => return (false, "")
  | .gradientNorm tolerance => do
      let length ← Criterion.measureGradient problem state
      return (Scalar.less length tolerance, Criterion.gradientReason length tolerance)
  | .cost threshold => do
      let cost ← problem.cost state.iterate
      return (Scalar.less cost threshold, Criterion.costReason cost threshold)
  | .elapsed seconds =>
      pure (Scalar.less seconds (now - memory.started),
        Criterion.elapsedReason (now - memory.started) seconds)

def note (test : StoppingTest S) (iterate : Point S) (verdict : Bool × String)
    (memory : CriterionMemory S) : CriterionMemory S :=
  { memory with
    reason := if verdict.1 then verdict.2 else memory.reason
    lastIterate := if test.watchesIterate then some iterate else memory.lastIterate }

def renew (test : StoppingTest S) (iterate : Point S) (now : S)
    (memory : CriterionMemory S) : CriterionMemory S :=
  { reason := ""
    lastIterate := if test.watchesIterate then some iterate else memory.lastIterate
    started := if test.readsClock then now else memory.started }

end StoppingTest

namespace Criterion

variable {S α : Type} [Scalar S]

theorem run_checkTest_zero (problem : Problem S) (state : SolverState S) (number : Nat)
    (test : StoppingTest S) (journal : Journal) (workspace : Workspace S) :
    (checkTest problem state number test 0).run (journal, workspace) =
      (.ok false, (journal, (test.tick workspace).changeCriterion number
        (test.renew state.iterate workspace.clock))) := by
  cases test with
  | change tolerance =>
      change (_, (_, (workspace.changeCriterion number _).changeCriterion number _)) = _
      rw [Workspace.changeCriterion_changeCriterion]
      rfl
  | elapsed seconds =>
      change (_, (_, ((workspace.changeCriterion number _).moveClock).changeCriterion number _)) = _
      change (_, (_, (workspace.moveClock.changeCriterion number _).changeCriterion number _)) = _
      rw [Workspace.changeCriterion_changeCriterion]
      rfl
  | iterations limit => rfl
  | gradientNorm tolerance => rfl
  | cost threshold => rfl

omit [Scalar S] in
theorem run_criterionMemory_bind (number : Nat) (next : CriterionMemory S → Watch S α)
    (before : Journal × Workspace S) :
    (Watch.criterionMemory number >>= next).run before =
      (next (before.2.criterion number)).run before := rfl

omit [Scalar S] in
theorem run_conclude (number : Nat) (holds : Bool) (reason : String) (journal : Journal)
    (workspace : Workspace S) :
    (conclude number holds reason).run (journal, workspace) =
      (.ok holds, (journal, workspace.changeCriterion number fun memory =>
        { memory with reason := if holds then reason else memory.reason })) := by
  cases holds with
  | true => rfl
  | false =>
      change (_, (_, workspace)) = (_, (_, workspace.changeCriterion number id))
      rw [Workspace.changeCriterion_id]

omit [Scalar S] in
theorem run_conclude_figure (figure : Compute S α) (holds : α → Bool) (reason : α → String)
    (number : Nat) (journal : Journal) (workspace : Workspace S) :
    ((liftM figure : Watch S α) >>= fun value =>
        conclude number (holds value) (reason value)).run (journal, workspace) =
      match (figure >>= fun value => pure (holds value, reason value)).run journal with
      | (.ok verdict, after) => (.ok verdict.1, (after,
          workspace.changeCriterion number fun memory =>
            { memory with reason := if verdict.1 then verdict.2 else memory.reason }))
      | (.error fault, after) => (.error fault, (after, workspace)) := by
  rcases computed : figure.run journal with ⟨outcome, after⟩
  have lifted := Tracked.run_liftM_of computed workspace
  cases outcome with
  | error _ => rw [Effect.run_bind_of_error lifted, Effect.run_bind_of_error computed]
  | ok value =>
      rw [Effect.run_bind_of_ok lifted, Effect.run_bind_of_ok computed]
      exact run_conclude number _ _ after workspace

theorem run_checkTest (problem : Problem S) (state : SolverState S) (number : Nat)
    (test : StoppingTest S) {iteration : Int} (later : iteration ≠ 0) (journal : Journal)
    (workspace : Workspace S) :
    (checkTest problem state number test iteration).run (journal, workspace) =
      match (test.judge problem state (workspace.criterion number) workspace.clock iteration).run
        journal with
      | (.ok verdict, after) => (.ok verdict.1, (after,
          (test.tick workspace).changeCriterion number (test.note state.iterate verdict)))
      | (.error fault, after) => (.error fault, (after, workspace)) := by
  unfold checkTest
  rw [if_neg later]
  cases test with
  | iterations limit => exact run_conclude number _ _ journal workspace
  | gradientNorm tolerance =>
      exact run_conclude_figure (measureGradient problem state) _ _ number journal workspace
  | cost threshold =>
      exact run_conclude_figure (problem.cost state.iterate) _ _ number journal workspace
  | elapsed seconds => exact run_conclude number _ _ journal workspace.moveClock
  | change tolerance =>
      refine (run_criterionMemory_bind number _ (journal, workspace)).trans ?_
      rw [StoppingTest.judge]
      rcases measured : (measureChange problem state
        (workspace.criterion number).lastIterate).run journal with ⟨outcome, after⟩
      have lifted := Tracked.run_liftM_of measured workspace
      cases outcome with
      | error fault =>
          rw [Effect.run_bind_of_error measured]
          exact Effect.run_bind_of_error lifted
      | ok distance =>
          rw [Effect.run_bind_of_ok measured]
          refine (Effect.run_bind_of_ok lifted).trans ?_
          cases distance with
          | none => rfl
          | some moved =>
              refine (run_conclude number _ _ after (workspace.changeCriterion number _)).trans ?_
              rw [Workspace.changeCriterion_changeCriterion]
              rfl

omit [Scalar S] in
theorem reason_tick (test : StoppingTest S) (workspace : Workspace S) (number : Nat) :
    ((test.tick workspace).criterion number).reason = (workspace.criterion number).reason := by
  rw [StoppingTest.tick]
  split
  · exact Workspace.reason_moveClock workspace number
  · rfl

omit [Scalar S] in
theorem length_tick (test : StoppingTest S) (workspace : Workspace S) :
    (test.tick workspace).criteria.length = workspace.criteria.length := by
  rw [StoppingTest.tick]
  split <;> rfl

theorem checkTest_ok {problem : Problem S} {state : SolverState S} {number : Nat}
    {test : StoppingTest S} {iteration : Int} (later : iteration ≠ 0)
    {before after : Journal × Workspace S} {holds : Bool}
    (ran : (checkTest problem state number test iteration).run before = (.ok holds, after)) :
    ∃ verdict,
      (test.judge problem state (before.2.criterion number) before.2.clock iteration).run before.1 =
        (.ok verdict, after.1) ∧
      verdict.1 = holds ∧
      after.2 =
        (test.tick before.2).changeCriterion number (test.note state.iterate verdict) := by
  rw [run_checkTest problem state number test later before.1 before.2] at ran
  rcases judged : (test.judge problem state (before.2.criterion number) before.2.clock
    iteration).run before.1 with ⟨outcome, journal⟩
  rw [judged] at ran
  cases outcome with
  | error _ => cases ran
  | ok verdict =>
      cases ran
      exact ⟨verdict, rfl, rfl, rfl⟩

/-- What the members of a set have answered if the set answers, and the reason that it writes. -/
theorem check_set_ok {problem : Problem S} {state : SolverState S} {number : Nat}
    {connective : Connective} {members : List (Criterion S)} {iteration : Int}
    {before after : Journal × Workspace S} {holds : Bool}
    (ran : (check problem state (.set number connective members) iteration).run before =
      (.ok holds, after)) :
    ∃ verdicts middle,
      (checkEach problem state members iteration).run before = (.ok verdicts, middle) ∧
      holds = (decide (0 < iteration) && connective.holds verdicts) ∧
      after.2 = middle.2.changeCriterion number fun memory =>
        { memory with
          reason := if holds then joinedReasons middle.2 members verdicts else "" } := by
  rw [check, Effect.run_bind_ok_iff] at ran
  obtain ⟨verdicts, middle, called, concluded⟩ := ran
  cases concluded
  exact ⟨verdicts, middle, called, rfl, rfl⟩

theorem checkEach_cons_ok {problem : Problem S} {state : SolverState S} {first : Criterion S}
    {rest : List (Criterion S)} {iteration : Int} {before after : Journal × Workspace S}
    {verdicts : List Bool}
    (ran : (checkEach problem state (first :: rest) iteration).run before =
      (.ok verdicts, after)) :
    ∃ verdict others middle,
      (first.check problem state iteration).run before = (.ok verdict, middle) ∧
      (checkEach problem state rest iteration).run middle = (.ok others, after) ∧
      verdicts = verdict :: others := by
  rw [checkEach, Effect.run_bind_ok_iff] at ran
  obtain ⟨verdict, middle, called, ranRest⟩ := ran
  obtain ⟨others, ended, calledRest, concluded⟩ := Effect.run_bind_ok_iff.mp ranRest
  cases concluded
  exact ⟨verdict, others, middle, called, calledRest, rfl⟩

end Criterion

end ProximalSplitting

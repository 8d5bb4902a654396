import ProximalSplitting.Proofs.Stopping.Test
import ProximalSplitting.Proofs.Watching.Glance

/-!
Who may change what in a workspace. Criteria share their memories and the clock, decorators share
the printed text and the memories of actions, and neither side touches what the other side uses.
-/

namespace ProximalSplitting

namespace Workspace

variable {S : Type}

def judging (workspace : Workspace S) :
    List (CriterionMemory S) × S × (Nat → S → S) × Nat :=
  (workspace.criteria, workspace.clock, workspace.passage, workspace.readings)

def showing (workspace : Workspace S) : String × List (ActionMemory S) :=
  (workspace.printed, workspace.actions)

variable {left right : Workspace S}

theorem criterion_of_judging (same : left.judging = right.judging) (number : Nat) :
    left.criterion number = right.criterion number := by
  cases left
  cases right
  cases same
  rfl

theorem length_of_judging (same : left.judging = right.judging) :
    left.criteria.length = right.criteria.length := by
  cases left
  cases right
  cases same
  rfl

theorem reading_of_judging (same : left.judging = right.judging) (later : Nat) :
    left.reading later = right.reading later := by
  cases left
  cases right
  cases same
  induction later with
  | zero => rfl
  | succ later ih =>
      rw [reading, reading, ih]

end Workspace

open Tracked

section Decorators

variable {S : Type} [Scalar S] (problem : Problem S) (state : SolverState S)

omit [Scalar S] in
theorem Glance.judging_leave (glance : Glance S) (iterate : Point S)
    (found : String × Value S) (workspace : Workspace S) :
    (glance.leave iterate found workspace).judging = workspace.judging := by
  cases glance with
  | debug action single iteration =>
      cases action with
      | change _ _ => rfl
      | _ => rfl
  | column number kind iteration => rfl
  | label content => rfl
  | refusal => rfl

theorem Glance.keeps_judging (glance : Glance S) :
    Keeps Workspace.judging (glance.run problem state) := by
  intro before
  rw [Glance.run_eq problem state glance before.1 before.2]
  rcases (glance.figure problem state before.2).run before.1 with ⟨outcome, after⟩
  cases outcome with
  | error _ => rfl
  | ok found => exact glance.judging_leave state.iterate found before.2

theorem Glance.runAll_keeps_judging (glances : List (Glance S)) :
    Keeps Workspace.judging (Glance.runAll problem state glances) := by
  induction glances with
  | nil => exact keeps_pure ()
  | cons first rest ih => exact keeps_bind (first.keeps_judging problem state) fun _ => ih

theorem Decorator.observe_keeps_judging (decorator : Decorator S) (iteration : Int) :
    Keeps Workspace.judging (decorator.observe problem state iteration) := by
  rw [Decorator.observe_eq_glances]
  exact Glance.runAll_keeps_judging problem state _

end Decorators

section Criteria

variable {S : Type} [Scalar S] (problem : Problem S) (state : SolverState S)

omit [Scalar S] in
theorem setReason_keeps_showing (number : Nat) (reason : String) :
    Keeps Workspace.showing (Watch.setReason number reason : Watch S Unit) :=
  keeps_update fun _ => rfl

theorem Criterion.checkTest_keeps_showing (number : Nat) (test : StoppingTest S)
    (iteration : Int) :
    Keeps Workspace.showing (Criterion.checkTest problem state number test iteration) := by
  intro before
  by_cases zero : iteration = 0
  · subst zero
    rw [Criterion.run_checkTest_zero problem state number test before.1 before.2]
    cases test with
    | elapsed _ => rfl
    | _ => rfl
  · rw [Criterion.run_checkTest problem state number test zero before.1 before.2]
    rcases (test.judge problem state (before.2.criterion number) before.2.clock iteration).run
      before.1 with ⟨outcome, after⟩
    cases outcome with
    | error _ => rfl
    | ok verdict =>
        cases test with
        | elapsed _ => rfl
        | _ => rfl

mutual

theorem Criterion.check_keeps_showing : ∀ (criterion : Criterion S) (iteration : Int),
    Keeps Workspace.showing (criterion.check problem state iteration)
  | .single number test, iteration => by
      rw [Criterion.check]
      exact Criterion.checkTest_keeps_showing problem state number test iteration
  | .set number connective members, iteration => by
      rw [Criterion.check]
      refine keeps_bind (Criterion.checkEach_keeps_showing members iteration) fun verdicts => ?_
      refine keeps_bind keeps_read fun workspace => ?_
      exact keeps_bind (setReason_keeps_showing number _) fun _ => keeps_pure _

theorem Criterion.checkEach_keeps_showing : ∀ (members : List (Criterion S)) (iteration : Int),
    Keeps Workspace.showing (Criterion.checkEach problem state members iteration)
  | [], iteration => by
      rw [Criterion.checkEach]
      exact keeps_pure _
  | first :: rest, iteration => by
      rw [Criterion.checkEach]
      refine keeps_bind (Criterion.check_keeps_showing first iteration) fun verdict => ?_
      refine keeps_bind (Criterion.checkEach_keeps_showing rest iteration) fun later => ?_
      exact keeps_pure _

end

end Criteria

end ProximalSplitting

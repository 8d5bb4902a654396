import ProximalSplitting.Proofs.Stopping.Tree

/-!
Calls of a tree of criteria, one after another. A call keeps what neither its single criteria nor
the reasons of its sets change, such as the number of criteria in the workspace.
-/

namespace ProximalSplitting

open Effect Tracked

namespace Criterion

variable {S : Type} [Scalar S] {problem : Problem S} {state : SolverState S} {iteration : Int}

theorem checkTest_keeps_length (number : Nat) (test : StoppingTest S) :
    Keeps (fun workspace : Workspace S => workspace.criteria.length)
      (checkTest problem state number test iteration) := by
  rintro ⟨journal, workspace⟩
  by_cases opening : iteration = 0
  · subst opening
    rw [run_checkTest_zero problem state number test journal workspace]
    exact (Workspace.length_changeCriterion _ _ _).trans (length_tick test workspace)
  · rw [run_checkTest problem state number test opening journal workspace]
    rcases (test.judge problem state (workspace.criterion number) workspace.clock iteration).run
      journal with ⟨_ | verdict, after⟩
    · rfl
    · exact (Workspace.length_changeCriterion _ _ _).trans (length_tick test workspace)

section Keeping

variable {γ : Type} {view : Workspace S → γ}

mutual

/-- A call of a tree keeps what its single criteria keep and what its sets do not write. -/
theorem check_keeps : ∀ criterion : Criterion S,
    (∀ number ∈ criterion.numbers, ∀ test,
      Keeps view (checkTest problem state number test iteration)) →
    (∀ number ∈ criterion.numbers, ∀ reason, Keeps view (Watch.setReason number reason)) →
    Keeps view (criterion.check problem state iteration)
  | .single number test, tests, _ => by
      rw [check]
      exact tests number (List.mem_singleton_self number) test
  | .set number connective members, tests, writes => by
      rw [numbers] at tests writes
      rw [Stopping.run_check_set]
      refine keeps_bind (checkEach_keeps members
        (fun other inside => tests other (List.mem_cons_of_mem number inside))
        fun other inside => writes other (List.mem_cons_of_mem number inside)) fun verdicts => ?_
      refine keeps_bind keeps_read fun workspace => ?_
      exact keeps_bind (writes number List.mem_cons_self _) fun _ => keeps_pure _

theorem checkEach_keeps : ∀ members : List (Criterion S),
    (∀ number ∈ numbersOfAll members, ∀ test,
      Keeps view (checkTest problem state number test iteration)) →
    (∀ number ∈ numbersOfAll members, ∀ reason, Keeps view (Watch.setReason number reason)) →
    Keeps view (checkEach problem state members iteration)
  | [], _, _ => by
      rw [checkEach]
      exact keeps_pure []
  | first :: rest, tests, writes => by
      rw [numbersOfAll] at tests writes
      rw [checkEach]
      refine keeps_bind (check_keeps first
        (fun number inside => tests number (List.mem_append_left _ inside))
        fun number inside => writes number (List.mem_append_left _ inside)) fun verdict => ?_
      refine keeps_bind (checkEach_keeps rest
        (fun number inside => tests number (List.mem_append_right _ inside))
        fun number inside => writes number (List.mem_append_right _ inside)) fun later => ?_
      exact keeps_pure _

end

end Keeping

theorem check_keeps_length (criterion : Criterion S) :
    Keeps (fun workspace : Workspace S => workspace.criteria.length)
      (criterion.check problem state iteration) :=
  check_keeps criterion (fun number _ test => checkTest_keeps_length number test)
    fun number _ _ before => Workspace.length_changeCriterion before.2 number _

theorem checkEach_keeps_length (members : List (Criterion S)) :
    Keeps (fun workspace : Workspace S => workspace.criteria.length)
      (checkEach problem state members iteration) :=
  checkEach_keeps members (fun number _ test => checkTest_keeps_length number test)
    fun number _ _ before => Workspace.length_changeCriterion before.2 number _

end Criterion

structure Inquiry (S : Type) [Scalar S] where
  problem : Problem S
  state : SolverState S
  iteration : Int

namespace Criterion

variable {S : Type} [Scalar S]

def call (criterion : Criterion S) (inquiry : Inquiry S) : Watch S Bool :=
  criterion.check inquiry.problem inquiry.state inquiry.iteration

structure Calls (criterion : Criterion S) (inquiry : Nat → Inquiry S)
    (memory : Nat → Journal × Workspace S) : Prop where
  allocated : ∀ number ∈ criterion.numbers, number < (memory 0).2.criteria.length
  kept : ∀ done, (memory (done + 1)).2.criteria =
    ((criterion.call (inquiry done)).run (memory done)).2.2.criteria

variable {criterion : Criterion S} {inquiry : Nat → Inquiry S} {memory : Nat → Journal × Workspace S}

theorem Calls.length (calls : criterion.Calls inquiry memory) (done : Nat) :
    (memory done).2.criteria.length = (memory 0).2.criteria.length := by
  induction done with
  | zero => rfl
  | succ done ih =>
      rw [calls.kept done, ← ih]
      exact check_keeps_length criterion (memory done)

end Criterion

end ProximalSplitting

import ProximalSplitting.Proofs.Stopping.Tree

/-!
Reports on a call of a tree of criteria: what every criterion answered, and what the single ones
wrote. The single criteria that hold together with every set around them justify that a tree holds.
-/

namespace ProximalSplitting

open Effect Tracked

inductive Report where
  | single (number : Nat) (holds : Bool) (written : String)
  | set (number : Nat) (holds : Bool) (members : List Report)

structure Branch where
  verdicts : List Bool
  written : String

namespace Report

def number : Report → Nat
  | single number _ _ => number
  | set number _ _ => number

def holds : Report → Bool
  | single _ holds _ => holds
  | set _ holds _ => holds

mutual

def branches : Report → List Branch
  | .single _ holds written => [⟨[holds], written⟩]
  | .set _ holds members =>
      (branchesOfAll members).map fun branch => ⟨holds :: branch.verdicts, branch.written⟩

def branchesOfAll : List Report → List Branch
  | [] => []
  | first :: rest => branches first ++ branchesOfAll rest

end

mutual

def sets : Report → List Report
  | .single _ _ _ => []
  | .set number holds members => .set number holds members :: setsOfAll members

def setsOfAll : List Report → List Report
  | [] => []
  | first :: rest => sets first ++ setsOfAll rest

end

def told (branches : List Branch) : String :=
  String.join ((branches.filter fun branch => branch.verdicts.all id).map Branch.written)

def justification (report : Report) : String := told report.branches

theorem told_append (first rest : List Branch) : told (first ++ rest) = told first ++ told rest := by
  rw [told, told, told, List.filter_append, List.map_append, String.join_append]

theorem justification_single (number : Nat) (holds : Bool) (written : String) :
    justification (.single number holds written) = if holds then written else "" := by
  cases holds with
  | true => exact String.empty_append
  | false => rfl

theorem justification_set (number : Nat) (holds : Bool) (members : List Report) :
    justification (.set number holds members) =
      if holds then told (branchesOfAll members) else "" := by
  rw [justification, branches, told, List.filter_map]
  cases holds with
  | true =>
      rw [List.map_map]
      rfl
  | false =>
      have none_left : (branchesOfAll members).filter
          ((fun branch : Branch => branch.verdicts.all id) ∘
            fun branch : Branch => (⟨false :: branch.verdicts, branch.written⟩ : Branch)) = [] :=
        List.filter_eq_nil_iff.mpr fun branch _ => by simp
      rw [none_left]
      rfl

theorem justification_of_not_holds {report : Report} (fails : report.holds = false) :
    report.justification = "" := by
  cases report with
  | single number holds written =>
      cases fails
      rfl
  | set number holds members =>
      cases fails
      rw [justification_set]
      rfl

structure Stands {S : Type} (workspace : Workspace S) (report : Report) : Prop where
  nonempty : (workspace.criterion report.number).reason ≠ "" ↔ report.holds = true
  reason : report.holds = true →
    (workspace.criterion report.number).reason = report.justification

end Report

namespace Criterion

variable {S : Type}

def answer : Except (Fault S) Bool → Bool
  | .ok verdict => verdict
  | .error _ => false

section Reporting

variable [Scalar S] (problem : Problem S) (state : SolverState S) (iteration : Int)

def written (number : Nat) (test : StoppingTest S) (before : Journal × Workspace S) : String :=
  let forgotten := before.2.changeCriterion number fun memory => { memory with reason := "" }
  let after := ((checkTest problem state number test iteration).run (before.1, forgotten)).2
  (after.2.criterion number).reason

mutual

/-- What every criterion of a tree answers when it is called in the course of one call of the tree,
each one with the memory that the criteria before it have left. -/
def report (before : Journal × Workspace S) : Criterion S → Report
  | .single number test =>
      .single number
        (answer ((check problem state (.single number test) iteration).run before).1)
        (written problem state iteration number test before)
  | .set number connective members =>
      .set number
        (answer ((check problem state (.set number connective members) iteration).run before).1)
        (reports before members)

def reports (before : Journal × Workspace S) : List (Criterion S) → List Report
  | [] => []
  | first :: rest =>
      report before first :: reports ((check problem state first iteration).run before).2 rest

end

theorem holds_report {criterion : Criterion S} {before after : Journal × Workspace S}
    {verdict : Bool}
    (ran : (criterion.check problem state iteration).run before = (.ok verdict, after)) :
    (report problem state iteration before criterion).holds = verdict := by
  cases criterion with
  | single number test =>
      rw [report, ran]
      rfl
  | set number connective members =>
      rw [report, ran]
      rfl

mutual

theorem number_mem_of_mem_sets : ∀ {criterion : Criterion S} {before : Journal × Workspace S}
    {node : Report}, node ∈ (report problem state iteration before criterion).sets →
    node.number ∈ criterion.numbers
  | .single number test, before, node, member => by
      rw [report, Report.sets] at member
      cases member
  | .set number connective members, before, node, member => by
      rw [report, Report.sets] at member
      rw [numbers]
      rcases List.mem_cons.mp member with rfl | inside
      · exact List.mem_cons_self
      · exact List.mem_cons_of_mem _ (number_mem_of_mem_setsOfAll inside)

theorem number_mem_of_mem_setsOfAll : ∀ {members : List (Criterion S)}
    {before : Journal × Workspace S} {node : Report},
    node ∈ Report.setsOfAll (reports problem state iteration before members) →
    node.number ∈ numbersOfAll members
  | [], _, _, member => by
      rw [reports, Report.setsOfAll] at member
      cases member
  | first :: rest, before, node, member => by
      rw [reports, Report.setsOfAll] at member
      rw [numbersOfAll]
      rcases List.mem_append.mp member with inside | later
      · exact List.mem_append_left _ (number_mem_of_mem_sets inside)
      · exact List.mem_append_right _ (number_mem_of_mem_setsOfAll later)

end

end Reporting

end Criterion

end ProximalSplitting

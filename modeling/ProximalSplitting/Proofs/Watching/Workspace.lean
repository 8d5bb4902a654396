import ProximalSplitting.Solver.Workspace

/-!
How the memories and the clock of a workspace answer after a change. Two workspaces that agree on a
field of a memory still do after a change in which the field depends on nothing else.
-/

namespace ProximalSplitting

section Memories

variable {μ γ : Type} (field : μ → γ) {left right : List μ} (length : left.length = right.length)
  {number : Nat} {change : μ → μ} {spare mirroredSpare : μ}
include length

theorem field_modify {other : Nat}
    (fieldwise : ∀ memory mirrored, field memory = field mirrored →
      field (change memory) = field (change mirrored))
    (same : field (left[other]?.getD spare) = field (right[other]?.getD mirroredSpare)) :
    field ((left.modify number change)[other]?.getD spare) =
      field ((right.modify number change)[other]?.getD mirroredSpare) := by
  by_cases isOther : number = other
  · subst isOther
    by_cases reserved : number < left.length
    · have mirroredReserved : number < right.length := length ▸ reserved
      simp only [List.getElem?_modify_eq, List.getElem?_eq_getElem reserved,
        List.getElem?_eq_getElem mirroredReserved, Option.getD_some] at same ⊢
      exact fieldwise _ _ same
    · have missing := Nat.le_of_not_lt reserved
      rw [List.modify_eq_self missing, List.modify_eq_self (length ▸ missing)]
      exact same
  · rw [List.getElem?_modify_ne _ _ isOther, List.getElem?_modify_ne _ _ isOther]
    exact same

theorem field_modify_of_set
    (set : ∀ memory mirrored, field (change memory) = field (change mirrored))
    (spares : field spare = field mirroredSpare) :
    field ((left.modify number change)[number]?.getD spare) =
      field ((right.modify number change)[number]?.getD mirroredSpare) := by
  by_cases reserved : number < left.length
  · have mirroredReserved : number < right.length := length ▸ reserved
    simp only [List.getElem?_modify_eq, List.getElem?_eq_getElem reserved,
      List.getElem?_eq_getElem mirroredReserved]
    exact set _ _
  · have missing := Nat.le_of_not_lt reserved
    rw [List.modify_eq_self missing, List.modify_eq_self (length ▸ missing),
      List.getElem?_eq_none missing, List.getElem?_eq_none (length ▸ missing)]
    exact spares

end Memories

namespace Workspace

variable {S : Type}

def reading (workspace : Workspace S) : Nat → S
  | 0 => workspace.clock
  | later + 1 => workspace.passage (workspace.readings + later) (workspace.reading later)

theorem reading_moveClock (workspace : Workspace S) (later : Nat) :
    workspace.moveClock.reading later = workspace.reading (later + 1) := by
  induction later with
  | zero => rfl
  | succ later ih =>
      rw [reading, ih]
      simp only [moveClock, Nat.add_assoc, Nat.add_comm 1 later]
      rfl

section Criteria

variable (workspace : Workspace S) (number : Nat)
  (change : CriterionMemory S → CriterionMemory S)

@[simp]
theorem criterion_moveClock_of_lt (allocated : number < workspace.criteria.length) :
    workspace.moveClock.criterion number = workspace.criterion number := by
  simp [criterion, moveClock, allocated]

@[simp]
theorem reason_moveClock :
    (workspace.moveClock.criterion number).reason = (workspace.criterion number).reason := by
  by_cases allocated : number < workspace.criteria.length
  · rw [criterion_moveClock_of_lt _ _ allocated]
  · simp [criterion, moveClock, allocated]

@[simp]
theorem lastIterate_moveClock :
    (workspace.moveClock.criterion number).lastIterate =
      (workspace.criterion number).lastIterate := by
  by_cases allocated : number < workspace.criteria.length
  · rw [criterion_moveClock_of_lt _ _ allocated]
  · simp [criterion, moveClock, allocated]

@[simp]
theorem length_changeCriterion :
    (workspace.changeCriterion number change).criteria.length = workspace.criteria.length := by
  simp [changeCriterion]

theorem criterion_changeCriterion_self (allocated : number < workspace.criteria.length) :
    (workspace.changeCriterion number change).criterion number =
      change (workspace.criterion number) := by
  simp [criterion, changeCriterion, allocated]

theorem criterion_of_ge (missing : workspace.criteria.length ≤ number) :
    workspace.criterion number = ⟨"", none, workspace.clock⟩ := by
  simp [criterion, missing]

theorem criterion_changeCriterion_of_ne {other : Nat} (different : number ≠ other) :
    (workspace.changeCriterion number change).criterion other = workspace.criterion other := by
  simp [criterion, changeCriterion, different]

theorem changeCriterion_of_ge (missing : workspace.criteria.length ≤ number) :
    workspace.changeCriterion number change = workspace := by
  rw [changeCriterion, List.modify_eq_self missing]

@[simp]
theorem reading_changeCriterion (later : Nat) :
    (workspace.changeCriterion number change).reading later = workspace.reading later := by
  induction later with
  | zero => rfl
  | succ later ih =>
      rw [reading, ih]
      rfl

theorem changeCriterion_changeCriterion (next : CriterionMemory S → CriterionMemory S) :
    (workspace.changeCriterion number change).changeCriterion number next =
      workspace.changeCriterion number (next ∘ change) := by
  simp [changeCriterion, List.modify_modify_eq]

theorem changeCriterion_id : workspace.changeCriterion number id = workspace := by
  simp [changeCriterion]

end Criteria

section Actions

variable (workspace : Workspace S) (number : Nat) (change : ActionMemory S → ActionMemory S)

@[simp]
theorem length_changeAction :
    (workspace.changeAction number change).actions.length = workspace.actions.length := by
  simp [changeAction]

theorem action_changeAction_self (allocated : number < workspace.actions.length) :
    (workspace.changeAction number change).action number = change (workspace.action number) := by
  simp [action, changeAction, allocated]

theorem action_changeAction_of_ne {other : Nat} (different : number ≠ other) :
    (workspace.changeAction number change).action other = workspace.action other := by
  simp [action, changeAction, different]

theorem changeAction_of_ge (missing : workspace.actions.length ≤ number) :
    workspace.changeAction number change = workspace := by
  rw [changeAction, List.modify_eq_self missing]

theorem field_changeAction {γ : Type} (field : ActionMemory S → γ)
    (kept : ∀ memory, field (change memory) = field memory) (other : Nat) :
    field ((workspace.changeAction number change).action other) =
      field (workspace.action other) := by
  by_cases isOther : number = other
  · subst isOther
    by_cases allocated : number < workspace.actions.length
    · rw [action_changeAction_self _ _ _ allocated, kept]
    · rw [changeAction_of_ge _ _ _ (Nat.le_of_not_lt allocated)]
  · rw [action_changeAction_of_ne _ _ _ isOther]

theorem changeAction_changeAction (next : ActionMemory S → ActionMemory S) :
    (workspace.changeAction number change).changeAction number next =
      workspace.changeAction number (next ∘ change) := by
  simp [changeAction, List.modify_modify_eq]

theorem changeAction_id : workspace.changeAction number id = workspace := by
  simp [changeAction]

end Actions

end Workspace

end ProximalSplitting

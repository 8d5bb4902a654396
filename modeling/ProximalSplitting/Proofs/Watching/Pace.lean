import ProximalSplitting.Proofs.Watching.Finds
import ProximalSplitting.Proofs.Watching.Silence

/-!
Two workspaces that keep pace: all actions remember the same iterates in both, and hold the same
rows unless the actions are owned by a decorator that is thinned in one of them. The same glances
find the same in both; a silenced glance finds nothing and keeps them in pace.
-/

namespace ProximalSplitting

open Compute Effect

variable {S : Type} [Scalar S]

section Purity

variable {problem : Problem S} {state : SolverState S} (pure : problem.Pure)
  (pureMethod : state.method.Pure)
include pure pureMethod

theorem DebugAction.pure_output (workspace : Workspace S) (iteration : Int)
    (action : DebugAction S) : (action.output problem state workspace iteration).Pure := by
  cases action with
  | cost label =>
      exact Pure.ite ((pure.cost state.iterate).bind fun _ => pure_pure _) (pure_pure _)
  | change number label =>
      refine Pure.ite ((pure.measureChange state _).bind fun distance => ?_) (pure_pure _)
      cases distance with
      | none => exact pure_pure _
      | some moved => exact pure_pure _
  | entry field label =>
      exact Pure.ite ((pure_expect _ _).bind fun _ => pure_pure _) (pure_pure _)
  | parameter label =>
      exact Pure.ite ((SolverState.pure_parameterAt pureMethod iteration).bind fun _ =>
        pure_pure _) (pure_pure _)
  | reason => exact pure_liftM _
  | _ => exact pure_pure _

theorem RecordKind.pure_row (last : Option (Point S)) (iteration : Int) (kind : RecordKind) :
    (kind.row problem state last iteration).Pure := by
  cases kind with
  | cost => exact Pure.ite ((pure.cost state.iterate).bind fun _ => pure_pure _) (pure_pure _)
  | change =>
      refine Pure.ite ((pure.measureChange state last).bind fun distance => ?_) (pure_pure _)
      cases distance with
      | none => exact pure_pure _
      | some moved => exact pure_pure _
  | entry field => exact pure_expect _ _
  | parameter =>
      exact Pure.ite ((SolverState.pure_parameterAt pureMethod iteration).bind fun _ =>
        pure_pure _) (pure_pure _)
  | iteration => exact pure_pure _
  | iterate => exact pure_pure _

theorem Glance.pure_figure (workspace : Workspace S) (glance : Glance S) :
    (glance.figure problem state workspace).Pure := by
  cases glance with
  | debug action single iteration =>
      exact (action.pure_output pure pureMethod workspace iteration).bind fun _ => pure_pure _
  | column number kind iteration =>
      exact (kind.pure_row pure pureMethod _ iteration).bind fun _ => pure_pure _
  | label content => exact pure_pure _
  | refusal => exact pure_fail _

end Purity

structure Workspace.Paced (criterion : Criterion S) (owned : Nat → Prop)
    (left right : Workspace S) : Prop where
  agree : Workspace.Agree criterion.numbers criterion.leaves left right
  length : left.actions.length = right.actions.length
  lastIterate : ∀ number, (left.action number).lastIterate = (right.action number).lastIterate
  rows : ∀ number, ¬ owned number → (left.action number).rows = (right.action number).rows

namespace Workspace.Paced

variable {criterion : Criterion S} {owned : Nat → Prop} {left right : Workspace S}

omit [Scalar S] in
theorem changeAction (paced : Paced criterion owned left right) (number : Nat)
    {leftChange rightChange : ActionMemory S → ActionMemory S}
    (iterates : ∀ memory mirrored, memory.lastIterate = mirrored.lastIterate →
      (leftChange memory).lastIterate = (rightChange mirrored).lastIterate)
    (rows : ¬ owned number → ∀ memory mirrored, memory.rows = mirrored.rows →
      (leftChange memory).rows = (rightChange mirrored).rows) :
    Paced criterion owned (left.changeAction number leftChange)
      (right.changeAction number rightChange) := by
  have views : ∀ {γ : Type} (view : ActionMemory S → γ),
      (∀ memory mirrored, view memory = view mirrored →
        view (leftChange memory) = view (rightChange mirrored)) → ∀ other,
      view (left.action other) = view (right.action other) →
      view ((left.changeAction number leftChange).action other) =
        view ((right.changeAction number rightChange).action other) := by
    intro γ view fieldwise other same
    by_cases isOther : number = other
    · subst isOther
      by_cases allocated : number < left.actions.length
      · rw [action_changeAction_self _ _ _ allocated,
          action_changeAction_self _ _ _ (paced.length ▸ allocated)]
        exact fieldwise _ _ same
      · have missing := Nat.le_of_not_lt allocated
        rw [changeAction_of_ge _ _ _ missing, changeAction_of_ge _ _ _ (paced.length ▸ missing)]
        exact same
    · rw [action_changeAction_of_ne _ _ _ isOther, action_changeAction_of_ne _ _ _ isOther]
      exact same
  refine ⟨paced.agree.congr_judging rfl rfl, ?_, fun other => ?_, fun other free => ?_⟩
  · rw [length_changeAction, length_changeAction, paced.length]
  · exact views ActionMemory.lastIterate iterates other (paced.lastIterate other)
  · by_cases isOther : number = other
    · subst isOther
      exact views ActionMemory.rows (rows free) number (paced.rows number free)
    · rw [action_changeAction_of_ne _ _ _ isOther, action_changeAction_of_ne _ _ _ isOther]
      exact paced.rows other free

omit [Scalar S] in
theorem congr {left' right' : Workspace S} (paced : Paced criterion owned left right)
    (agree : Workspace.Agree criterion.numbers criterion.leaves left' right')
    (sameLeft : left'.actions = left.actions) (sameRight : right'.actions = right.actions) :
    Paced criterion owned left' right' where
  agree := agree
  length := by rw [sameLeft, sameRight, paced.length]
  lastIterate := fun number => by
    rw [action, action, sameLeft, sameRight]
    exact paced.lastIterate number
  rows := fun number free => by
    rw [action, action, sameLeft, sameRight]
    exact paced.rows number free

omit [Scalar S] in
theorem write (paced : Paced criterion owned left right) (leftText rightText : String) :
    Paced criterion owned (left.write leftText) (right.write rightText) :=
  paced.congr (paced.agree.congr_judging rfl rfl) rfl rfl

omit [Scalar S] in
theorem leave (paced : Paced criterion owned left right) (glance : Glance S) (iterate : Point S)
    (found : String × Value S) :
    Paced criterion owned (glance.leave iterate found left) (glance.leave iterate found right) := by
  cases glance with
  | debug action single iteration =>
      have written := paced.write found.1 found.1
      cases action with
      | change number label =>
          exact written.changeAction number (fun _ _ _ => rfl) fun _ _ _ same => same
      | _ => exact written
  | column number kind iteration =>
      refine paced.changeAction number (fun _ _ same => ?_) fun _ _ _ same => ?_
      · simp only [RecordKind.note, same]
      · simp only [RecordKind.note, same]
  | label content => exact paced.write found.1 found.1
  | refusal => exact paced

omit [Scalar S] in
/-- A silenced glance keeps pace with the glance, if the column that it may call is owned. -/
theorem leave_silenced (paced : Paced criterion owned left right) {glance : Glance S}
    (iterate : Point S) (quiet found : String × Value S)
    (own : ∀ number, glance.memory? = some number → owned number) :
    Paced criterion owned (glance.silenced.leave iterate quiet left)
      (glance.leave iterate found right) := by
  cases glance with
  | debug action single iteration =>
      have written := paced.write quiet.1 found.1
      cases action with
      | change number label =>
          exact written.changeAction number (fun _ _ _ => rfl) fun _ _ _ same => same
      | _ => exact written
  | column number kind iteration =>
      refine paced.changeAction number (fun _ _ same => ?_) fun free => absurd (own number rfl) free
      simp only [RecordKind.note, same]
  | label content => exact paced.write quiet.1 found.1
  | refusal => exact paced

theorem figure_eq (paced : Paced criterion owned left right) (problem : Problem S)
    {state : SolverState S} (reason : state.reason left = state.reason right) (glance : Glance S) :
    glance.figure problem state left = glance.figure problem state right := by
  cases glance with
  | debug action single iteration =>
      have sameOutput : action.output problem state left iteration =
          action.output problem state right iteration := by
        cases action with
        | change number label =>
            rw [DebugAction.output, DebugAction.output, paced.lastIterate number]
        | reason => rw [DebugAction.output, DebugAction.output, reason]
        | _ => rfl
      rw [Glance.figure, Glance.figure, sameOutput]
  | column number kind iteration =>
      rw [Glance.figure, Glance.figure, paced.lastIterate number]
  | label content => rfl
  | refusal => rfl

end Workspace.Paced

section Following

open Workspace

variable {criterion : Criterion S} {owned : Nat → Prop} {problem : Problem S}
  {state : SolverState S} (pure : problem.Pure) (pureMethod : state.method.Pure)

omit [Scalar S] in
theorem SolverState.reason_of_judging {left right : Workspace S}
    (same : left.judging = right.judging) : state.reason left = state.reason right := by
  rw [SolverState.reason, SolverState.reason]
  split
  · rw [criterion_of_judging same]
  · rfl

omit [Scalar S] in
theorem SolverState.reason_leave (glance : Glance S) (found : String × Value S)
    (workspace : Workspace S) :
    state.reason (glance.leave state.iterate found workspace) = state.reason workspace :=
  SolverState.reason_of_judging (glance.judging_leave _ _ _)

include pure pureMethod in
/-- Where two workspaces are in pace, the glances that succeed in one succeed in the other, and find
the same. -/
theorem Glance.Finds.follow {found : List (Glance S × String × Value S)}
    {mirrored mirroredAfter : Journal × Workspace S}
    (finds : Finds problem state found mirrored mirroredAfter) (before : Journal × Workspace S)
    (paced : Paced criterion owned before.2 mirrored.2)
    (reason : state.reason before.2 = state.reason mirrored.2) :
    ∃ after, Finds problem state found before after ∧
      Paced criterion owned after.2 mirroredAfter.2 := by
  induction finds generalizing before with
  | nil => exact ⟨before, .nil, paced⟩
  | @cons glance found rest mirrored mirroredJournal _ sought _ ih =>
      have same := paced.figure_eq problem reason glance
      have outcome := (glance.pure_figure pure pureMethod before.2).outcome before.1 mirrored.1
      rcases figured : (glance.figure problem state before.2).run before.1 with ⟨result, journal⟩
      rw [figured, same, sought] at outcome
      cases outcome
      obtain ⟨after, later, stillPaced⟩ := ih
        (journal, glance.leave state.iterate found before.2)
        (paced.leave glance state.iterate found)
        (by rw [SolverState.reason_leave, SolverState.reason_leave, reason])
      exact ⟨after, .cons figured later, stillPaced⟩

end Following

section Silence

open Workspace

variable {criterion : Criterion S} {owned : Nat → Prop} {problem : Problem S}
  {state : SolverState S}

theorem DebugAction.output_minus {workspace : Workspace S}
    (reason : state.reason workspace = .ok "") (action : DebugAction S) :
    action.output problem state workspace (-1) = pure "" := by
  cases action with
  | reason =>
      rw [output, reason]
      rfl
  | _ => rfl

namespace Glance

theorem said_silenced {glance : Glance S} (hushes : glance.hushes) {workspace : Workspace S}
    (reason : state.reason workspace = .ok "") {quiet : String × Value S}
    {journal journalAfter : Journal}
    (sought : (glance.silenced.figure problem state workspace).run journal =
      (.ok quiet, journalAfter)) :
    said (glance.silenced, quiet) = "" := by
  cases glance with
  | debug action single iteration =>
      rw [silenced, figure, DebugAction.output_minus reason] at sought
      cases sought
      rfl
  | column number kind iteration => rfl
  | label content => cases hushes
  | refusal => cases hushes

/-- In silence a glance succeeds whenever it does otherwise. -/
theorem exists_silenced_figure {glance : Glance S} (hushes : glance.hushes)
    {workspace mirrored : Workspace S} (reason : state.reason workspace = .ok "")
    {found : String × Value S} {mirroredJournal mirroredAfter : Journal}
    (sought : (glance.figure problem state mirrored).run mirroredJournal =
      (.ok found, mirroredAfter)) (journal : Journal) :
    ∃ quiet, (glance.silenced.figure problem state workspace).run journal =
      (.ok quiet, journal) := by
  cases glance with
  | debug action single iteration =>
      rw [silenced, figure, DebugAction.output_minus reason]
      exact ⟨_, rfl⟩
  | column number kind iteration =>
      cases kind with
      | entry field =>
          obtain ⟨value, _, written, _⟩ := run_bind_ok_iff.mp sought
          rw [RecordKind.row, SolverState.field] at written
          cases held : state.field? field with
          | none =>
              rw [held] at written
              cases written
          | some value =>
              refine ⟨("", value), ?_⟩
              rw [silenced, figure, RecordKind.row, SolverState.field, held]
              rfl
      | _ => exact ⟨_, rfl⟩
  | label content => cases hushes
  | refusal => cases hushes

variable {glances : List (Glance S)} (hushes : ∀ glance ∈ glances, glance.hushes)
include hushes

theorem Finds.text_silenced {quiet : List (Glance S × String × Value S)}
    {before after : Journal × Workspace S} (finds : Finds problem state quiet before after)
    (made : quiet.map Prod.fst = glances.map silenced)
    (reason : state.reason before.2 = .ok "") : text quiet = "" := by
  induction finds generalizing glances with
  | nil => rfl
  | @cons glance found rest before journal after sought _ ih =>
      cases glances with
      | nil => cases made
      | cons first others =>
          obtain ⟨rfl, rest⟩ := List.cons.inj made
          have silent := said_silenced (hushes first List.mem_cons_self) reason sought
          have later := ih (fun glance member => hushes glance (List.mem_cons_of_mem first member))
            rest (by rw [SolverState.reason_leave, reason])
          rw [text, List.map_cons, String.join_cons, silent, String.empty_append]
          exact later

/-- Where one workspace is shown what the other one is spared, they stay in pace. -/
theorem Finds.hush {found : List (Glance S × String × Value S)}
    {mirrored mirroredAfter : Journal × Workspace S}
    (finds : Finds problem state found mirrored mirroredAfter)
    (made : found.map Prod.fst = glances)
    (own : ∀ glance ∈ glances, ∀ number, glance.memory? = some number → owned number)
    (before : Journal × Workspace S) (paced : Paced criterion owned before.2 mirrored.2)
    (reason : state.reason before.2 = .ok "") :
    ∃ quiet after, quiet.map Prod.fst = glances.map silenced ∧
      Finds problem state quiet before after ∧ Paced criterion owned after.2 mirroredAfter.2 := by
  induction finds generalizing before glances with
  | nil =>
      subst made
      exact ⟨[], before, rfl, .nil, paced⟩
  | @cons glance found rest mirrored mirroredJournal mirroredAfter sought _ ih =>
      subst made
      obtain ⟨silent, figured⟩ :=
        exists_silenced_figure (hushes glance List.mem_cons_self) reason sought before.1
      obtain ⟨quiet, after, same, later, stillPaced⟩ := ih
        (fun glance member => hushes glance (List.mem_cons_of_mem _ member)) rfl
        (fun glance member => own glance (List.mem_cons_of_mem _ member))
        (before.1, glance.silenced.leave state.iterate silent before.2)
        (paced.leave_silenced state.iterate silent found (own glance List.mem_cons_self))
        (by rw [SolverState.reason_leave, reason])
      exact ⟨(glance.silenced, silent) :: quiet, after, congrArg _ same, .cons figured later,
        stillPaced⟩

end Glance

end Silence

end ProximalSplitting

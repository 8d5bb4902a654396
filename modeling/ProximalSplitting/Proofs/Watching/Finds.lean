import ProximalSplitting.Proofs.Method.Alike
import ProximalSplitting.Proofs.Watching.Agreement
import ProximalSplitting.Proofs.Watching.Rows

/-!
What a list of glances finds: the text that is printed, the rows that are written down, and the
changes. A change is measured from the iterate that its action remembers, which is the one of the
latest glance that watched it.
-/

namespace ProximalSplitting

open Compute Effect

variable {S : Type} [Scalar S]

namespace Glance

variable {problem : Problem S} {state : SolverState S}

omit [Scalar S] in
def said (found : Glance S × String × Value S) : String :=
  match found.1 with
  | debug _ _ _ => found.2.1
  | label _ => found.2.1
  | _ => ""

omit [Scalar S] in
def text (found : List (Glance S × String × Value S)) : String := String.join (found.map said)

omit [Scalar S] in
def values (found : List (Glance S × String × Value S)) : List (Glance S × Value S) :=
  found.map fun entry => (entry.1, entry.2.2)

inductive Finds (problem : Problem S) (state : SolverState S) :
    List (Glance S × String × Value S) → Journal × Workspace S → Journal × Workspace S → Prop
  | nil {before} : Finds problem state [] before before
  | cons {glance found rest before journal after} :
      (glance.figure problem state before.2).run before.1 = (.ok found, journal) →
      Finds problem state rest (journal, glance.leave state.iterate found before.2) after →
      Finds problem state ((glance, found) :: rest) before after

theorem finds_of_runAll {glances : List (Glance S)} {before after : Journal × Workspace S}
    (ran : (runAll problem state glances).run before = (.ok (), after)) :
    ∃ found, found.map Prod.fst = glances ∧ Finds problem state found before after := by
  induction glances generalizing before with
  | nil =>
      cases ran
      exact ⟨[], rfl, .nil⟩
  | cons first rest ih =>
      obtain ⟨found, journal, sought, ran⟩ := runAll_cons_ok ran
      obtain ⟨others, same, finds⟩ := ih ran
      exact ⟨(first, found) :: others, congrArg (first :: ·) same, .cons sought finds⟩

theorem Finds.runAll {found : List (Glance S × String × Value S)}
    {before after : Journal × Workspace S} (finds : Finds problem state found before after) :
    (Glance.runAll problem state (found.map Prod.fst)).run before = (.ok (), after) := by
  induction finds with
  | nil => rfl
  | @cons glance found rest before journal after sought _ ih =>
      have glanced : (glance.run problem state).run before =
          (.ok (), (journal, glance.leave state.iterate found before.2)) := by
        rw [run_eq problem state glance before.1 before.2, sought]
      rw [List.map_cons, Glance.runAll, run_bind_of_ok glanced]
      exact ih

theorem Finds.append {first rest : List (Glance S × String × Value S)}
    {before middle after : Journal × Workspace S} (finds : Finds problem state first before middle)
    (later : Finds problem state rest middle after) :
    Finds problem state (first ++ rest) before after := by
  induction finds with
  | nil => exact later
  | cons sought _ ih => exact .cons sought (ih later)

theorem Finds.values_eq {found : List (Glance S × String × Value S)}
    {before after : Journal × Workspace S} (finds : Finds problem state found before after) :
    values found = findings problem state (found.map Prod.fst) before := by
  induction finds with
  | nil => rfl
  | cons sought _ ih =>
      rw [List.map_cons, findings, sought]
      exact congrArg _ ih

omit [Scalar S] in
theorem printed_leave (glance : Glance S) (iterate : Point S) (found : String × Value S)
    (workspace : Workspace S) :
    (glance.leave iterate found workspace).printed =
      workspace.printed ++ said (glance, found) := by
  cases glance with
  | debug action single iteration =>
      cases action with
      | change number label => rfl
      | _ => rfl
  | column number kind iteration => exact (String.append_empty).symm
  | label content => rfl
  | refusal => exact (String.append_empty).symm

theorem Finds.printed {found : List (Glance S × String × Value S)}
    {before after : Journal × Workspace S} (finds : Finds problem state found before after) :
    after.2.printed = before.2.printed ++ text found := by
  induction finds with
  | nil => exact (String.append_empty).symm
  | @cons glance found rest before journal after _ _ ih =>
      rw [ih, printed_leave, text, text, List.map_cons, String.join_cons, String.append_assoc]

theorem Finds.judging {found : List (Glance S × String × Value S)}
    {before after : Journal × Workspace S} (finds : Finds problem state found before after) :
    after.2.judging = before.2.judging := by
  induction finds with
  | nil => rfl
  | @cons glance found rest before journal after _ _ ih => exact ih.trans (judging_leave _ _ _ _)

theorem Finds.length {found : List (Glance S × String × Value S)}
    {before after : Journal × Workspace S} (finds : Finds problem state found before after) :
    after.2.actions.length = before.2.actions.length := length_actions_runAll finds.runAll

structure Explains (found : List (Glance S × String × Value S)) (before after : Workspace S) :
    Prop where
  printed : after.printed = before.printed ++ text found
  rows : ∀ number < before.actions.length, (after.action number).rows =
    (values found).foldl (extendRows number) (before.action number).rows

theorem Finds.explains {found : List (Glance S × String × Value S)}
    {before after : Journal × Workspace S} (finds : Finds problem state found before after) :
    Explains found before.2 after.2 where
  printed := finds.printed
  rows := fun number allocated => by
    rw [finds.values_eq]
    exact (rows_runAll problem state finds.runAll allocated).2

omit [Scalar S] in
theorem lastIterate_leave_of_ne {glance : Glance S} {number : Nat}
    (other : glance.watches ≠ some number) (iterate : Point S) (found : String × Value S)
    (workspace : Workspace S) :
    ((glance.leave iterate found workspace).action number).lastIterate =
      (workspace.action number).lastIterate := by
  cases glance with
  | debug action single iteration =>
      cases action with
      | change used label =>
          have different : used ≠ number := fun same => other (congrArg some same)
          rw [leave, DebugAction.note, Workspace.action_changeAction_of_ne _ _ _ different]
          rfl
      | _ => rfl
  | column used kind iteration =>
      by_cases same : used = number
      · subst same
        refine Workspace.field_changeAction _ _ _ ActionMemory.lastIterate (fun memory => ?_) used
        have notChange : kind ≠ .change := fun isChange => other (by rw [isChange]; rfl)
        rw [RecordKind.note, if_neg notChange]
      · exact congrArg _ (Workspace.action_changeAction_of_ne _ _ _ same)
  | label content => rfl
  | refusal => rfl

omit [Scalar S] in
theorem lastIterate_leave_of_eq {glance : Glance S} {number : Nat}
    (own : glance.watches = some number) (iterate : Point S) (found : String × Value S)
    {workspace : Workspace S} (allocated : number < workspace.actions.length) :
    ((glance.leave iterate found workspace).action number).lastIterate = some iterate := by
  cases glance with
  | debug action single iteration =>
      cases action with
      | change used label =>
          cases own
          rw [leave, DebugAction.note]
          have kept : number < (workspace.write found.1).actions.length := allocated
          rw [Workspace.action_changeAction_self _ _ _ kept]
      | _ => cases own
  | column used kind iteration =>
      cases kind with
      | change =>
          cases own
          rw [leave, Workspace.action_changeAction_self _ _ _ allocated]
          rfl
      | _ => cases own
  | label content => cases own
  | refusal => cases own

theorem Finds.lastIterate {found : List (Glance S × String × Value S)}
    {before after : Journal × Workspace S} (finds : Finds problem state found before after)
    {number : Nat} (allocated : number < before.2.actions.length)
    (watched : (∃ glance ∈ found.map Prod.fst, glance.watches = some number) ∨
      (before.2.action number).lastIterate = some state.iterate) :
    (after.2.action number).lastIterate = some state.iterate := by
  induction finds with
  | nil =>
      rcases watched with ⟨_, member, _⟩ | remembered
      · cases member
      · exact remembered
  | @cons glance found rest before journal after _ _ ih =>
      refine ih ((length_actions_leave _ _ _ _).symm ▸ allocated) ?_
      by_cases own : glance.watches = some number
      · exact .inr (lastIterate_leave_of_eq own _ _ allocated)
      · rcases watched with ⟨watcher, member, watches⟩ | remembered
        · rcases List.mem_cons.mp member with rfl | later
          · exact absurd watches own
          · exact .inl ⟨watcher, later, watches⟩
        · exact .inr ((lastIterate_leave_of_ne own _ _ _).trans remembered)

theorem Finds.lastIterate_of_unwatched {found : List (Glance S × String × Value S)}
    {before after : Journal × Workspace S} (finds : Finds problem state found before after)
    {number : Nat}
    (unwatched : ∀ glance ∈ found.map Prod.fst, glance.watches ≠ some number) :
    (after.2.action number).lastIterate = (before.2.action number).lastIterate := by
  induction finds with
  | nil => rfl
  | @cons glance found rest before journal after _ _ ih =>
      rw [ih fun other member => unwatched other (List.mem_cons_of_mem _ member)]
      exact lastIterate_leave_of_ne (unwatched glance List.mem_cons_self) _ _ _

def ShowsChange (found : Glance S × String × Value S) (moved : S) : Prop :=
  match found.1 with
  | debug (.change _ heading) _ _ => found.2.1 = heading ++ Scalar.text moved
  | column _ .change _ => found.2.2 = .real moved
  | _ => False

theorem yields_measureChange {last : Point S} {measured : Option S}
    (yields : (Criterion.measureChange problem state (some last)).Yields measured) :
    ∃ manifold moved, (state.manifoldOf problem).Yields manifold ∧
      (manifold.geometry.dist last state.iterate).Yields moved ∧ measured = some moved := by
  obtain ⟨manifold, lives, found⟩ := yields.of_bind
  obtain ⟨moved, distance, ended⟩ := found.of_bind
  exact ⟨manifold, moved, lives, distance, yields_pure.mp ended⟩

theorem figure_change {glance : Glance S} {number : Nat} (compares : glance.looksBack = some number)
    {workspace : Workspace S} {last : Point S}
    (remembers : (workspace.action number).lastIterate = some last) {found : String × Value S}
    {journal journalAfter : Journal}
    (sought : (glance.figure problem state workspace).run journal = (.ok found, journalAfter)) :
    ∃ manifold moved, (state.manifoldOf problem).Yields manifold ∧
      (manifold.geometry.dist last state.iterate).Yields moved ∧
      ShowsChange (glance, found) moved := by
  have yields : (glance.figure problem state workspace).Yields found := ⟨_, _, sought⟩
  cases glance with
  | debug action single iteration =>
      cases action with
      | change used label =>
          rw [looksBack] at compares
          split at compares
          · rename_i positive
            cases compares
            rw [figure, DebugAction.output, if_pos positive, remembers] at yields
            obtain ⟨text, output, ended⟩ := yields.of_bind
            obtain ⟨measured, measure, shown⟩ := output.of_bind
            obtain ⟨manifold, moved, lives, distance, rfl⟩ := yields_measureChange measure
            cases yields_pure.mp shown
            cases yields_pure.mp ended
            exact ⟨manifold, moved, lives, distance, rfl⟩
          · cases compares
      | _ => cases compares
  | column used kind iteration =>
      cases kind with
      | change =>
          rw [looksBack] at compares
          split at compares
          · rename_i positive
            cases compares
            rw [figure, RecordKind.row, if_pos positive, remembers] at yields
            obtain ⟨value, row, ended⟩ := yields.of_bind
            obtain ⟨measured, measure, shown⟩ := row.of_bind
            obtain ⟨manifold, moved, lives, distance, rfl⟩ := yields_measureChange measure
            cases yields_pure.mp shown
            cases yields_pure.mp ended
            exact ⟨manifold, moved, lives, distance, rfl⟩
          · cases compares
      | _ => cases compares
  | label content => cases compares
  | refusal => cases compares

theorem Finds.change {found : List (Glance S × String × Value S)}
    {before after : Journal × Workspace S} (finds : Finds problem state found before after)
    {earlier later : List (Glance S × String × Value S)} {entry : Glance S × String × Value S}
    (place : found = earlier ++ entry :: later) {number : Nat}
    (compares : entry.1.looksBack = some number)
    (unwatched : ∀ glance ∈ earlier.map Prod.fst, glance.watches ≠ some number) {last : Point S}
    (remembers : (before.2.action number).lastIterate = some last) :
    ∃ manifold moved, (state.manifoldOf problem).Yields manifold ∧
      (manifold.geometry.dist last state.iterate).Yields moved ∧ ShowsChange entry moved := by
  induction finds generalizing earlier with
  | nil => cases List.append_ne_nil_of_right_ne_nil earlier (List.cons_ne_nil _ _) place.symm
  | @cons glance found rest before journal after sought _ ih =>
      cases earlier with
      | nil =>
          cases place
          exact figure_change compares remembers sought
      | cons first others =>
          obtain ⟨rfl, here⟩ := List.cons.inj place
          refine ih here (fun other member => unwatched other (List.mem_cons_of_mem _ member)) ?_
          rw [lastIterate_leave_of_ne (unwatched glance List.mem_cons_self)]
          exact remembers

end Glance

end ProximalSplitting

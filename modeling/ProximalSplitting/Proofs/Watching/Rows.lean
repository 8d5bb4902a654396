import ProximalSplitting.Proofs.Watching.Iterations

/-!
What columns record. The glances at one iteration find one value after the other; a column appends
what its own glances find at a positive iteration, and starts anew at iteration 0.
-/

namespace ProximalSplitting

namespace Glance

variable {S : Type} [Scalar S] (problem : Problem S) (state : SolverState S)

def findings : List (Glance S) → Journal × Workspace S → List (Glance S × Value S)
  | [], _ => []
  | first :: rest, before =>
      match (first.figure problem state before.2).run before.1 with
      | (.ok found, after) =>
          (first, found.2) :: findings rest (after, first.leave state.iterate found before.2)
      | (.error _, _) => []

omit [Scalar S] in
def extendRows (number : Nat) (rows : List (Value S)) (found : Glance S × Value S) :
    List (Value S) :=
  match found.1 with
  | column other _ iteration =>
      if other = number then RecordKind.extend rows found.2 iteration else rows
  | _ => rows

omit [Scalar S] in
def row? (number : Nat) (found : Glance S × Value S) : Option (Value S) :=
  match found.1 with
  | column other _ iteration => if other = number ∧ 0 < iteration then some found.2 else none
  | _ => none

omit [Scalar S] in
theorem length_actions_leave (glance : Glance S) (iterate : Point S) (found : String × Value S)
    (workspace : Workspace S) :
    (glance.leave iterate found workspace).actions.length = workspace.actions.length := by
  cases glance with
  | debug action single iteration =>
      cases action with
      | change number label => exact Workspace.length_changeAction _ number _
      | _ => rfl
  | column number kind iteration => exact Workspace.length_changeAction workspace number _
  | label content => rfl
  | refusal => rfl

omit [Scalar S] in
theorem rows_leave (glance : Glance S) (iterate : Point S) (found : String × Value S)
    (workspace : Workspace S) {number : Nat} (allocated : number < workspace.actions.length) :
    ((glance.leave iterate found workspace).action number).rows =
      extendRows number (workspace.action number).rows (glance, found.2) := by
  cases glance with
  | debug action single iteration =>
      cases action with
      | change other label =>
          by_cases same : other = number
          · subst same
            have noted : (workspace.write found.1).actions.length = workspace.actions.length := rfl
            rw [leave, DebugAction.note,
              Workspace.action_changeAction_self _ _ _ (noted ▸ allocated)]
            rfl
          · rw [leave, DebugAction.note, Workspace.action_changeAction_of_ne _ _ _ same]
            rfl
      | _ => rfl
  | column other kind iteration =>
      rw [leave]
      by_cases same : other = number
      · subst same
        rw [Workspace.action_changeAction_self _ _ _ allocated]
        exact (if_pos rfl).symm
      · rw [Workspace.action_changeAction_of_ne _ _ _ same]
        exact (if_neg same).symm
  | label content => rfl
  | refusal => rfl

variable {problem state} in
theorem runAll_cons_ok {first : Glance S} {rest : List (Glance S)}
    {before after : Journal × Workspace S}
    (ran : (runAll problem state (first :: rest)).run before = (.ok (), after)) :
    ∃ found journal,
      (first.figure problem state before.2).run before.1 = (.ok found, journal) ∧
        (runAll problem state rest).run (journal, first.leave state.iterate found before.2) =
          (.ok (), after) := by
  obtain ⟨_, middle, glanced, ran⟩ := Effect.run_bind_ok_iff.mp ran
  rw [run_eq problem state first before.1 before.2] at glanced
  rcases sought : (first.figure problem state before.2).run before.1 with ⟨outcome, journal⟩
  rw [sought] at glanced
  cases outcome with
  | error fault => cases glanced
  | ok found =>
      cases glanced
      exact ⟨found, journal, rfl, ran⟩

variable {problem state} in
theorem length_actions_runAll {glances : List (Glance S)} {before after : Journal × Workspace S}
    (ran : (runAll problem state glances).run before = (.ok (), after)) :
    after.2.actions.length = before.2.actions.length := by
  induction glances generalizing before with
  | nil =>
      cases ran
      rfl
  | cons first rest ih =>
      obtain ⟨found, journal, _, ran⟩ := runAll_cons_ok ran
      exact (ih ran).trans (length_actions_leave _ _ _ _)

theorem rows_runAll {glances : List (Glance S)} {before after : Journal × Workspace S}
    (ran : (runAll problem state glances).run before = (.ok (), after)) {number : Nat}
    (allocated : number < before.2.actions.length) :
    (findings problem state glances before).map Prod.fst = glances ∧
      (after.2.action number).rows =
        (findings problem state glances before).foldl (extendRows number)
          (before.2.action number).rows := by
  induction glances generalizing before with
  | nil =>
      cases ran
      exact ⟨rfl, rfl⟩
  | cons first rest ih =>
      obtain ⟨found, journal, sought, ran⟩ := runAll_cons_ok ran
      have length := first.length_actions_leave state.iterate found before.2
      obtain ⟨sameGlances, rows⟩ := ih ran (length ▸ allocated)
      rw [findings, sought]
      refine ⟨?_, ?_⟩
      · rw [List.map_cons, sameGlances]
      · rw [rows, rows_leave first state.iterate found before.2 allocated, List.foldl_cons]

end Glance

namespace Glance

variable {S : Type} {number : Nat}

theorem extendRows_of_nonzero {glance : Glance S} (value : Value S)
    (nonzero : ∀ {kind : RecordKind} {seen : Int}, glance = .column number kind seen → seen ≠ 0)
    (rows : List (Value S)) :
    extendRows number rows (glance, value) = rows ++ (row? number (glance, value)).toList := by
  cases glance with
  | column other kind seen =>
      by_cases same : other = number
      · subst same
        have notReset : seen ≠ 0 := nonzero rfl
        by_cases appended : 0 < seen
        · simp [extendRows, row?, RecordKind.extend, appended]
        · simp [extendRows, row?, RecordKind.extend, appended, notReset]
      · simp [extendRows, row?, same]
  | debug action single seen => simp [extendRows, row?]
  | label content => simp [extendRows, row?]
  | refusal => simp [extendRows, row?]

theorem extendRows_column_zero (kind : RecordKind) (value : Value S) (rows : List (Value S)) :
    extendRows number rows (.column number kind 0, value) = [] := by
  simp [extendRows, RecordKind.extend]

theorem extendRows_nil_of_zero {glance : Glance S} (value : Value S)
    (zero : ∀ {kind : RecordKind} {seen : Int}, glance = .column number kind seen → seen = 0) :
    extendRows number [] (glance, value) = [] := by
  cases glance with
  | column other kind seen =>
      by_cases same : other = number
      · subst same
        rw [zero rfl]
        exact extendRows_column_zero kind value []
      · simp [extendRows, same]
  | _ => rfl

variable {found : List (Glance S × Value S)}

theorem foldl_extendRows_of_nonzero
    (nonzero : ∀ {kind : RecordKind} {seen : Int},
      .column number kind seen ∈ found.map Prod.fst → seen ≠ 0) (rows : List (Value S)) :
    found.foldl (extendRows number) rows = rows ++ found.filterMap (row? number) := by
  induction found generalizing rows with
  | nil => simp
  | cons first rest ih =>
      have later : ∀ {kind : RecordKind} {seen : Int},
          .column number kind seen ∈ rest.map Prod.fst → seen ≠ 0 :=
        fun member => nonzero (List.mem_cons_of_mem _ member)
      have now := extendRows_of_nonzero first.2
        (fun isColumn => nonzero (List.mem_cons.mpr (.inl isColumn.symm))) rows
      rw [List.foldl_cons, ih later, now, List.append_assoc]
      cases added : row? number first with
      | none => simp [added]
      | some row => simp [added]

theorem foldl_extendRows_of_zero
    (zero : ∀ {kind : RecordKind} {seen : Int},
      .column number kind seen ∈ found.map Prod.fst → seen = 0) (rows : List (Value S))
    (shown : rows = [] ∨ ∃ kind, .column number kind 0 ∈ found.map Prod.fst) :
    found.foldl (extendRows number) rows = [] := by
  induction found generalizing rows with
  | nil =>
      rcases shown with empty | ⟨kind, member⟩
      · exact empty
      · cases member
  | cons first rest ih =>
      have later : ∀ {kind : RecordKind} {seen : Int},
          .column number kind seen ∈ rest.map Prod.fst → seen = 0 :=
        fun member => zero (List.mem_cons_of_mem _ member)
      rw [List.foldl_cons]
      refine ih later _ ?_
      obtain ⟨glance, value⟩ := first
      rcases shown with rfl | ⟨kind, member⟩
      · exact .inl (extendRows_nil_of_zero value fun isColumn =>
          zero (List.mem_cons.mpr (.inl isColumn.symm)))
      · rcases List.mem_cons.mp member with now | inRest
        · cases now
          exact .inl (extendRows_column_zero kind value rows)
        · exact .inr ⟨kind, inRest⟩

end Glance

section Reading

variable {S : Type} {left right : Workspace S}

mutual

theorem RecordAction.rows_eq : ∀ (action : RecordAction S),
    (∀ number kind, .column number kind 0 ∈ action.glances 0 →
      (left.action number).rows = (right.action number).rows) →
    action.rows left = action.rows right
  | .column number name kind, same => by
      rw [RecordAction.glances] at same
      rw [RecordAction.rows, RecordAction.rows, same number kind (List.mem_singleton_self _)]
  | .group name members, same => by
      rw [RecordAction.glances] at same
      rw [RecordAction.rows, RecordAction.rows, RecordAction.rowsOfAll_eq members same]
  | .every name interval alwaysUpdate action, same => by
      rw [RecordAction.glances] at same
      rw [RecordAction.rows, RecordAction.rows]
      exact RecordAction.rows_eq action same

theorem RecordAction.rowsOfAll_eq : ∀ (members : List (String × RecordAction S)),
    (∀ number kind, .column number kind 0 ∈ RecordAction.glancesOfAll members 0 →
      (left.action number).rows = (right.action number).rows) →
    RecordAction.rowsOfAll left members = RecordAction.rowsOfAll right members
  | [], _ => by rw [RecordAction.rowsOfAll, RecordAction.rowsOfAll]
  | (name, action) :: rest, same => by
      rw [RecordAction.glancesOfAll] at same
      have first := RecordAction.rows_eq action fun number kind member =>
        same number kind (List.mem_append_left _ member)
      have later := RecordAction.rowsOfAll_eq rest fun number kind member =>
        same number kind (List.mem_append_right _ member)
      rw [RecordAction.rowsOfAll, RecordAction.rowsOfAll, first, later]

end

theorem RecordAction.mem_glancesOfAll_of_lookup {requested : String} {action : RecordAction S}
    {glance : Glance S} {members : List (String × RecordAction S)}
    (found : members.lookup requested = some action) (member : glance ∈ action.glances 0) :
    glance ∈ RecordAction.glancesOfAll members 0 := by
  induction members with
  | nil => cases found
  | cons first rest ih =>
      obtain ⟨name, other⟩ := first
      rw [RecordAction.glancesOfAll]
      rw [List.lookup_cons] at found
      split at found
      · cases found
        exact List.mem_append_left _ member
      · exact List.mem_append_right _ (ih found)

theorem RecordAction.glances_of_select {requested : String} {glance : Glance S} :
    ∀ {action selected : RecordAction S}, action.select requested = .ok selected →
      glance ∈ selected.glances 0 → glance ∈ action.glances 0
  | .column number name kind, selected, found, member => by
      rw [RecordAction.select] at found
      split at found
      · cases found
        exact member
      · cases found
  | .group name members, selected, found, member => by
      rw [RecordAction.select] at found
      rw [RecordAction.glances]
      split at found
      · rename_i action looked
        cases found
        exact RecordAction.mem_glancesOfAll_of_lookup looked member
      · cases found
  | .every name interval alwaysUpdate action, selected, found, member => by
      rw [RecordAction.select] at found
      split at found
      · cases found
        exact member
      · rw [RecordAction.glances]
        exact RecordAction.glances_of_select found member

theorem Decorator.readRecord_eq {decorators : List (Decorator S)}
    (same : ∀ number kind, .column number kind 0 ∈ Decorator.glancesOfAll decorators 0 →
      (left.action number).rows = (right.action number).rows) (requested : Option String) :
    readRecord left requested decorators = readRecord right requested decorators := by
  induction decorators with
  | nil => rfl
  | cons outer inner ih =>
      have inside := ih fun number kind member =>
        same number kind (List.mem_append_right _ member)
      cases outer with
      | record action =>
          have ofAction : ∀ number kind, .column number kind 0 ∈ action.glances 0 →
              (left.action number).rows = (right.action number).rows :=
            fun number kind member => same number kind (List.mem_append_left _ member)
          rw [readRecord, readRecord]
          cases requested with
          | none => rw [RecordAction.read, RecordAction.read, action.rows_eq ofAction]
          | some name =>
              rw [RecordAction.read, RecordAction.read]
              cases selected : action.select name with
              | error _ => rfl
              | ok part =>
                  have ofPart := part.rows_eq fun number kind member =>
                    ofAction number kind (RecordAction.glances_of_select selected member)
                  exact congrArg Except.ok ofPart
      | debug _ => exact inside
      | observer _ => exact inside
      | plain => exact inside

end Reading

end ProximalSplitting

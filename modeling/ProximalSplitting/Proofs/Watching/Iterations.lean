import ProximalSplitting.Proofs.Watching.Glance

/-!
With which iterations single actions are called. Whatever is called at some iteration is called at
iteration 0 too; it is called with the iteration itself or, instead of a positive one, with -1.
-/

namespace ProximalSplitting

/-- An action that is shown an iteration can be called with it, or with -1 instead of a positive
one. -/
def Glance.Sees (iteration seen : Int) : Prop :=
  seen = iteration ∨ (0 < iteration ∧ seen = -1)

variable {S : Type}

theorem Glance.Sees.of_minus {iteration seen : Int} (positive : 0 < iteration)
    (sees : Sees (-1) seen) : Sees iteration seen := by
  rcases sees with same | ⟨absurdity, _⟩
  · exact .inr ⟨positive, same⟩
  · omega

theorem DebugAction.mem_glances_of_single {action : DebugAction S}
    (single : action.isSingle = true) (iteration : Int) {glance : Glance S}
    (member : glance ∈ action.glances iteration) :
    ∃ called single seen, glance = .debug called single seen ∧ Glance.Sees iteration seen ∧
      .debug called single 0 ∈ action.glances 0 := by
  rw [glances_of_single single, List.mem_singleton] at member
  refine ⟨action, single, iteration, member, .inl rfl, ?_⟩
  rw [glances_of_single single]
  exact List.mem_singleton_self _

mutual

theorem DebugAction.mem_glances : ∀ (action : DebugAction S) (iteration : Int) {glance : Glance S},
    glance ∈ action.glances iteration → ∃ called single seen,
      glance = .debug called single seen ∧ Glance.Sees iteration seen ∧
        .debug called single 0 ∈ action.glances 0
  | .group actions, iteration, _, member => by
      rw [DebugAction.glances] at member ⊢
      exact DebugAction.mem_glancesOfAll actions iteration member
  | .every interval alwaysUpdate action, iteration, _, member => by
      have always : DebugAction.glances (.every interval alwaysUpdate action) 0 =
          action.glances 0 := by rw [DebugAction.glances]; rfl
      rw [always]
      rw [DebugAction.glances] at member
      split at member
      · exact DebugAction.mem_glances action iteration member
      · rename_i passed
        split at member
        · obtain ⟨called, single, seen, same, sees, shown⟩ :=
            DebugAction.mem_glances action (-1) member
          simp only [Bool.or_eq_true, decide_eq_true_eq, not_or] at passed
          exact ⟨called, single, seen, same, sees.of_minus (by omega), shown⟩
        · cases member
  | .divider content, iteration, _, member => mem_glances_of_single rfl iteration member
  | .iterationNumber, iteration, _, member => mem_glances_of_single rfl iteration member
  | .iterate label, iteration, _, member => mem_glances_of_single rfl iteration member
  | .cost label, iteration, _, member => mem_glances_of_single rfl iteration member
  | .change number label, iteration, _, member => mem_glances_of_single rfl iteration member
  | .entry field label, iteration, _, member => mem_glances_of_single rfl iteration member
  | .parameter label, iteration, _, member => mem_glances_of_single rfl iteration member
  | .reason, iteration, _, member => mem_glances_of_single rfl iteration member

theorem DebugAction.mem_glancesOfAll : ∀ (actions : List (DebugAction S)) (iteration : Int)
    {glance : Glance S}, glance ∈ DebugAction.glancesOfAll actions iteration →
      ∃ called single seen, glance = .debug called single seen ∧ Glance.Sees iteration seen ∧
        .debug called single 0 ∈ DebugAction.glancesOfAll actions 0
  | [], iteration, _, member => by
      rw [DebugAction.glancesOfAll] at member
      cases member
  | first :: rest, iteration, _, member => by
      rw [DebugAction.glancesOfAll] at member ⊢
      rcases List.mem_append.mp member with ofFirst | ofRest
      · obtain ⟨called, single, seen, same, sees, shown⟩ :=
          DebugAction.mem_glances first iteration ofFirst
        exact ⟨called, single, seen, same, sees, List.mem_append_left _ shown⟩
      · obtain ⟨called, single, seen, same, sees, shown⟩ :=
          DebugAction.mem_glancesOfAll rest iteration ofRest
        exact ⟨called, single, seen, same, sees, List.mem_append_right _ shown⟩

end

mutual

theorem RecordAction.mem_glances : ∀ (action : RecordAction S) (iteration : Int)
    {glance : Glance S}, glance ∈ action.glances iteration → ∃ number kind seen,
      glance = .column number kind seen ∧ Glance.Sees iteration seen ∧
        .column number kind 0 ∈ action.glances 0
  | .column number name kind, iteration, _, member => by
      rw [RecordAction.glances, List.mem_singleton] at member
      refine ⟨number, kind, iteration, member, .inl rfl, ?_⟩
      rw [RecordAction.glances]
      exact List.mem_singleton_self _
  | .group name members, iteration, _, member => by
      rw [RecordAction.glances] at member ⊢
      exact RecordAction.mem_glancesOfAll members iteration member
  | .every name interval alwaysUpdate action, iteration, _, member => by
      have always : RecordAction.glances (.every name interval alwaysUpdate action) 0 =
          action.glances 0 := by rw [RecordAction.glances]; rfl
      rw [always]
      rw [RecordAction.glances] at member
      split at member
      · exact RecordAction.mem_glances action iteration member
      · rename_i passed
        split at member
        · obtain ⟨number, kind, seen, same, sees, shown⟩ :=
            RecordAction.mem_glances action (-1) member
          simp only [Bool.or_eq_true, decide_eq_true_eq, not_or] at passed
          exact ⟨number, kind, seen, same, sees.of_minus (by omega), shown⟩
        · cases member

theorem RecordAction.mem_glancesOfAll :
    ∀ (members : List (String × RecordAction S)) (iteration : Int) {glance : Glance S},
    glance ∈ RecordAction.glancesOfAll members iteration → ∃ number kind seen,
      glance = .column number kind seen ∧ Glance.Sees iteration seen ∧
        .column number kind 0 ∈ RecordAction.glancesOfAll members 0
  | [], iteration, _, member => by
      rw [RecordAction.glancesOfAll] at member
      cases member
  | (name, action) :: rest, iteration, _, member => by
      rw [RecordAction.glancesOfAll] at member ⊢
      rcases List.mem_append.mp member with ofFirst | ofRest
      · obtain ⟨number, kind, seen, same, sees, shown⟩ :=
          RecordAction.mem_glances action iteration ofFirst
        exact ⟨number, kind, seen, same, sees, List.mem_append_left _ shown⟩
      · obtain ⟨number, kind, seen, same, sees, shown⟩ :=
          RecordAction.mem_glancesOfAll rest iteration ofRest
        exact ⟨number, kind, seen, same, sees, List.mem_append_right _ shown⟩

end

namespace Decorator

variable {decorators : List (Decorator S)} {iteration seen : Int}

theorem mem_glances_debug {called : DebugAction S} {single : called.isSingle = true}
    (member : .debug called single seen ∈ glancesOfAll decorators iteration) :
    Glance.Sees iteration seen ∧
      (0 ≤ iteration → .debug called single 0 ∈ glancesOfAll decorators 0) := by
  obtain ⟨decorator, around, shown⟩ := List.mem_flatMap.mp member
  cases decorator with
  | debug dictionary =>
      rw [glances] at shown
      split at shown
      · rename_i action found
        obtain ⟨_, _, _, same, sees, atZero⟩ := action.mem_glances iteration shown
        cases same
        refine ⟨sees, fun positive => List.mem_flatMap.mpr ⟨_, around, ?_⟩⟩
        rw [if_pos positive] at found
        simp only [glances, Int.le_refl, if_true, found]
        exact atZero
      · cases shown
  | record action =>
      rw [glances] at shown
      split at shown
      · obtain ⟨_, _, _, same, _⟩ := action.mem_glances iteration shown
        cases same
      · cases shown
  | observer label => cases List.mem_singleton.mp shown
  | plain => cases List.mem_singleton.mp shown

theorem mem_glances_column {number : Nat} {kind : RecordKind}
    (member : .column number kind seen ∈ glancesOfAll decorators iteration) :
    Glance.Sees iteration seen ∧ .column number kind 0 ∈ glancesOfAll decorators 0 := by
  obtain ⟨decorator, around, shown⟩ := List.mem_flatMap.mp member
  cases decorator with
  | debug dictionary =>
      rw [glances] at shown
      split at shown
      · rename_i action found
        obtain ⟨_, _, _, same, _⟩ := action.mem_glances iteration shown
        cases same
      · cases shown
  | record action =>
      rw [glances] at shown
      split at shown
      · obtain ⟨_, _, _, same, sees, atZero⟩ := action.mem_glances iteration shown
        cases same
        exact ⟨sees, List.mem_flatMap.mpr ⟨_, around, atZero⟩⟩
      · cases shown
  | observer label => cases List.mem_singleton.mp shown
  | plain => cases List.mem_singleton.mp shown

end Decorator

end ProximalSplitting

import ProximalSplitting.Proofs.Watching.Agreement
import ProximalSplitting.Proofs.Watching.Thinning

/-!
What thinned actions do in between. An iteration that is skipped is passed on as -1, which makes
every single action update what it remembers without printing or recording anything. So two
workspaces stay in pace of which one is shown every iteration and the other only some of them.
-/

namespace ProximalSplitting

open Compute Effect

variable {S : Type}

def Glance.silenced : Glance S → Glance S
  | debug action single _ => debug action single (-1)
  | column number kind _ => column number kind (-1)
  | label content => label content
  | refusal => refusal

theorem Glance.watches_of_looksBack {glance : Glance S} {number : Nat}
    (compares : glance.looksBack = some number) : glance.watches = some number := by
  cases glance with
  | debug action single iteration =>
      cases action with
      | change used label => exact (Option.ite_none_right_eq_some.mp compares).2
      | _ => cases compares
  | column used kind iteration =>
      cases kind with
      | change => exact (Option.ite_none_right_eq_some.mp compares).2
      | _ => cases compares
  | label content => cases compares
  | refusal => cases compares

theorem Glance.memory_of_watches {glance : Glance S} {number : Nat}
    (watches : glance.watches = some number) : glance.memory? = some number := by
  cases glance with
  | debug action single iteration =>
      cases action with
      | change used label => exact watches
      | _ => cases watches
  | column used kind iteration =>
      cases kind with
      | change => exact watches
      | _ => cases watches
  | label content => cases watches
  | refusal => cases watches

theorem Glance.watches_silenced (glance : Glance S) : glance.silenced.watches = glance.watches := by
  cases glance with
  | debug action single iteration => cases action <;> rfl
  | column number kind iteration => cases kind <;> rfl
  | label content => rfl
  | refusal => rfl

def Glance.hushes : Glance S → Bool
  | debug _ _ _ => true
  | column _ _ _ => true
  | _ => false

section Trees

mutual

def DebugAction.updates : DebugAction S → Bool
  | .group actions => DebugAction.updatesAll actions
  | .every _ alwaysUpdate action => alwaysUpdate && DebugAction.updates action
  | _ => true

def DebugAction.updatesAll : List (DebugAction S) → Bool
  | [] => true
  | first :: rest => DebugAction.updates first && DebugAction.updatesAll rest

end

mutual

def RecordAction.updates : RecordAction S → Bool
  | .column _ _ _ => true
  | .group _ members => RecordAction.updatesAll members
  | .every _ _ alwaysUpdate action => alwaysUpdate && RecordAction.updates action

def RecordAction.updatesAll : List (String × RecordAction S) → Bool
  | [] => true
  | (_, action) :: rest => RecordAction.updates action && RecordAction.updatesAll rest

end

theorem DebugAction.glances_minus_of_single {action : DebugAction S}
    (single : action.isSingle = true) (iteration : Int) :
    action.glances (-1) = (action.glances iteration).map Glance.silenced := by
  rw [glances_of_single single, glances_of_single single]
  rfl

mutual

/-- A tree that always updates makes all its glances at every iteration, if only in silence. -/
theorem DebugAction.glances_minus : ∀ {action : DebugAction S}, action.updates →
    ∀ iteration, action.glances (-1) = (action.glances iteration).map Glance.silenced
  | .group actions, updates, iteration => by
      rw [DebugAction.updates] at updates
      rw [DebugAction.glances, DebugAction.glances]
      exact DebugAction.glancesOfAll_minus updates iteration
  | .every interval alwaysUpdate action, updates, iteration => by
      rw [DebugAction.updates, Bool.and_eq_true] at updates
      have passedOn : (DebugAction.every interval alwaysUpdate action).glances (-1) =
          action.glances (-1) := by rw [DebugAction.glances]; rfl
      rw [passedOn, DebugAction.glances]
      split
      · exact DebugAction.glances_minus updates.2 iteration
      · rw [if_pos updates.1]
        exact DebugAction.glances_minus updates.2 (-1)
  | .divider _, _, iteration => glances_minus_of_single rfl iteration
  | .iterationNumber, _, iteration => glances_minus_of_single rfl iteration
  | .iterate _, _, iteration => glances_minus_of_single rfl iteration
  | .cost _, _, iteration => glances_minus_of_single rfl iteration
  | .change _ _, _, iteration => glances_minus_of_single rfl iteration
  | .entry _ _, _, iteration => glances_minus_of_single rfl iteration
  | .parameter _, _, iteration => glances_minus_of_single rfl iteration
  | .reason, _, iteration => glances_minus_of_single rfl iteration

theorem DebugAction.glancesOfAll_minus : ∀ {actions : List (DebugAction S)},
    DebugAction.updatesAll actions → ∀ iteration,
      DebugAction.glancesOfAll actions (-1) =
        (DebugAction.glancesOfAll actions iteration).map Glance.silenced
  | [], _, iteration => by rw [DebugAction.glancesOfAll, DebugAction.glancesOfAll]; rfl
  | first :: rest, updates, iteration => by
      rw [DebugAction.updatesAll, Bool.and_eq_true] at updates
      rw [DebugAction.glancesOfAll, DebugAction.glancesOfAll, List.map_append,
        DebugAction.glances_minus updates.1 iteration,
        DebugAction.glancesOfAll_minus updates.2 iteration]

end

mutual

theorem RecordAction.glances_minus : ∀ {action : RecordAction S}, action.updates →
    ∀ iteration, action.glances (-1) = (action.glances iteration).map Glance.silenced
  | .column number name kind, _, iteration => by
      rw [RecordAction.glances, RecordAction.glances]
      rfl
  | .group name members, updates, iteration => by
      rw [RecordAction.updates] at updates
      rw [RecordAction.glances, RecordAction.glances]
      exact RecordAction.glancesOfAll_minus updates iteration
  | .every name interval alwaysUpdate action, updates, iteration => by
      rw [RecordAction.updates, Bool.and_eq_true] at updates
      have passedOn : (RecordAction.every name interval alwaysUpdate action).glances (-1) =
          action.glances (-1) := by rw [RecordAction.glances]; rfl
      rw [passedOn, RecordAction.glances]
      split
      · exact RecordAction.glances_minus updates.2 iteration
      · rw [if_pos updates.1]
        exact RecordAction.glances_minus updates.2 (-1)

theorem RecordAction.glancesOfAll_minus : ∀ {members : List (String × RecordAction S)},
    RecordAction.updatesAll members → ∀ iteration,
      RecordAction.glancesOfAll members (-1) =
        (RecordAction.glancesOfAll members iteration).map Glance.silenced
  | [], _, iteration => by rw [RecordAction.glancesOfAll, RecordAction.glancesOfAll]; rfl
  | (_, action) :: rest, updates, iteration => by
      rw [RecordAction.updatesAll, Bool.and_eq_true] at updates
      rw [RecordAction.glancesOfAll, RecordAction.glancesOfAll, List.map_append,
        RecordAction.glances_minus updates.1 iteration,
        RecordAction.glancesOfAll_minus updates.2 iteration]

end

theorem map_watches_silenced (glances : List (Glance S)) :
    (glances.map Glance.silenced).map Glance.watches = glances.map Glance.watches := by
  rw [List.map_map]
  exact List.map_congr_left fun glance _ => glance.watches_silenced

theorem DebugAction.map_watches_eq {action : DebugAction S} (updates : action.updates)
    (left right : Int) :
    (action.glances left).map Glance.watches = (action.glances right).map Glance.watches := by
  rw [← map_watches_silenced, ← map_watches_silenced (action.glances right),
    ← glances_minus updates, ← glances_minus updates]

theorem RecordAction.map_watches_eq {action : RecordAction S} (updates : action.updates)
    (left right : Int) :
    (action.glances left).map Glance.watches = (action.glances right).map Glance.watches := by
  rw [← map_watches_silenced, ← map_watches_silenced (action.glances right),
    ← glances_minus updates, ← glances_minus updates]

end Trees

structure Decorator.InPace (interval : Nat) (thinned alone : Decorator S) : Prop where
  look : ∀ iteration : Nat, thinned.glances iteration =
    if interval ∣ iteration then alone.glances iteration
    else (alone.glances iteration).map Glance.silenced
  closing : thinned.glances (-1) = alone.glances (-1)
  hushes : ∀ iteration : Nat, ∀ glance ∈ alone.glances iteration, glance.hushes
  steady : ∀ left right : Nat,
    (alone.glances left).map Glance.watches = (alone.glances right).map Glance.watches

inductive Decorator.Thinning (interval : Nat) : Decorator S → Decorator S → Prop
  | debug {front back : List (String × DebugAction S)} {action : DebugAction S} :
      front.lookup "all" = none → action.updates →
      Thinning interval (.debug (front ++ ("all", .every interval true action) :: back))
        (.debug (front ++ ("all", action) :: back))
  | record {name : String} {action : RecordAction S} : action.updates →
      Thinning interval (.record (.every name interval true action)) (.record action)

namespace Decorator

theorem lookup_of_front {front back : List (String × DebugAction S)} {action : DebugAction S}
    (absent : front.lookup "all" = none) :
    (front ++ ("all", action) :: back).lookup "all" = some action := by
  rw [List.lookup_append, absent]
  rfl

theorem glances_all {front back : List (String × DebugAction S)} {action : DebugAction S}
    (absent : front.lookup "all" = none) (iteration : Nat) :
    (Decorator.debug (front ++ ("all", action) :: back)).glances iteration =
      action.glances iteration := by
  have shown : (0 : Int) ≤ iteration := Int.natCast_nonneg iteration
  simp only [glances, if_pos shown, lookup_of_front absent]

theorem glances_stop (front back : List (String × DebugAction S)) (left right : DebugAction S) :
    (Decorator.debug (front ++ ("all", left) :: back)).glances (-1) =
      (Decorator.debug (front ++ ("all", right) :: back)).glances (-1) := by
  have closing : ¬ (0 : Int) ≤ -1 := by omega
  have same : (front ++ ("all", left) :: back).lookup "stop" =
      (front ++ ("all", right) :: back).lookup "stop" := by
    rw [List.lookup_append, List.lookup_append]
    rfl
  simp only [glances, if_neg closing, same]

theorem glances_record (action : RecordAction S) (iteration : Nat) :
    (Decorator.record action).glances iteration = action.glances iteration := by
  rw [glances, if_pos (Int.natCast_nonneg iteration)]

theorem Thinning.inPace {interval : Nat} {thinned alone : Decorator S}
    (thinning : Thinning interval thinned alone) : InPace interval thinned alone := by
  cases thinning with
  | @debug front back action absent updates =>
      refine ⟨fun iteration => ?_, glances_stop _ _ _ _, fun iteration glance member => ?_,
        fun left right => ?_⟩
      · rw [glances_all absent, glances_all absent, DebugAction.glances, dvd_iff_passed]
        by_cases due : interval ∣ iteration
        · rw [if_pos (decide_eq_true due), if_pos due]
        · rw [if_neg (by simpa using due), if_neg due, if_pos rfl]
          exact DebugAction.glances_minus updates iteration
      · rw [glances_all absent] at member
        obtain ⟨called, single, seen, rfl, _⟩ := action.mem_glances iteration member
        rfl
      · rw [glances_all absent, glances_all absent]
        exact DebugAction.map_watches_eq updates left right
  | @record name action updates =>
      refine ⟨fun iteration => ?_, rfl, fun iteration glance member => ?_, fun left right => ?_⟩
      · rw [glances_record, glances_record, RecordAction.glances_every, if_pos rfl]
        split
        · rfl
        · exact RecordAction.glances_minus updates iteration
      · rw [glances_record] at member
        obtain ⟨number, kind, seen, rfl, _⟩ := action.mem_glances iteration member
        rfl
      · rw [glances_record, glances_record]
        exact RecordAction.map_watches_eq updates left right

variable {interval : Nat} {thinned alone : Decorator S}

/-- The thinned decorator watches at every iteration what it watches at another one. -/
theorem InPace.exists_watching (inPace : InPace interval thinned alone) {left right : Nat}
    {watched : Option Nat} (member : ∃ glance ∈ thinned.glances left, glance.watches = watched) :
    ∃ glance ∈ thinned.glances right, glance.watches = watched := by
  have watches : ∀ iteration : Nat, (thinned.glances iteration).map Glance.watches =
      (alone.glances iteration).map Glance.watches := by
    intro iteration
    rw [inPace.look]
    split
    · rfl
    · exact map_watches_silenced _
  have same : (thinned.glances left).map Glance.watches =
      (thinned.glances right).map Glance.watches := by
    rw [watches, watches, inPace.steady left right]
  rw [← List.mem_map] at member ⊢
  rwa [← same]

theorem uses_of_memory {decorator : Decorator S} {iteration : Nat} {glance : Glance S}
    (member : glance ∈ decorator.glances iteration) {number : Nat}
    (own : glance.memory? = some number) : decorator.Uses number :=
  Classical.byContradiction fun unused => Glance.touching_eq_nil_iff.mp
    (touching_glances_of_not_uses unused iteration) glance member own

end Decorator

end ProximalSplitting

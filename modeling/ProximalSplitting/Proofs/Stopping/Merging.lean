import ProximalSplitting.Proofs.Stopping.Explanations
import ProximalSplitting.Proofs.Stopping.Sharing

/-!
Sets of criteria whose members belong to them or to a set of the same kind among them. One call of
either tree gives the same verdict and leaves the same reason, and the same memories of the single
criteria.
-/

namespace ProximalSplitting

open Effect Tracked

namespace Workspace.Agree

variable {S : Type} {numbers : List Nat} {leaves : List (Nat × StoppingTest S)}
  {left middle right : Workspace S}

theorem refl (workspace : Workspace S) : Agree numbers leaves workspace workspace :=
  ⟨rfl, fun _ => rfl, fun _ _ => rfl, fun _ _ _ => rfl, fun _ _ _ => rfl⟩

theorem symm (agree : Agree numbers leaves left right) : Agree numbers leaves right left where
  length := agree.length.symm
  reading := fun later => (agree.reading later).symm
  reason := fun number member => (agree.reason number member).symm
  lastIterate := fun leaf member watches => (agree.lastIterate leaf member watches).symm
  started := fun leaf member reads => (agree.started leaf member reads).symm

theorem trans (first : Agree numbers leaves left middle)
    (second : Agree numbers leaves middle right) : Agree numbers leaves left right where
  length := first.length.trans second.length
  reading := fun later => (first.reading later).trans (second.reading later)
  reason := fun number member => (first.reason number member).trans (second.reason number member)
  lastIterate := fun leaf member watches =>
    (first.lastIterate leaf member watches).trans (second.lastIterate leaf member watches)
  started := fun leaf member reads =>
    (first.started leaf member reads).trans (second.started leaf member reads)

end Workspace.Agree

namespace Criterion

variable {S : Type}

inductive Merges : Criterion S → Criterion S → Prop where
  | here (number other inner : Nat) (connective : Connective)
      (before members after : List (Criterion S)) :
      Merges (.set number connective (before ++ .set inner connective members :: after))
        (.set other connective (before ++ members ++ after))
  | inside {old new : Criterion S} (number other : Nat) (connective : Connective)
      (before after : List (Criterion S)) (merges : Merges old new) :
      Merges (.set number connective (before ++ old :: after))
        (.set other connective (before ++ new :: after))

theorem leavesOfAll_append (first rest : List (Criterion S)) :
    leavesOfAll (first ++ rest) = leavesOfAll first ++ leavesOfAll rest := by
  induction first with
  | nil => rfl
  | cons criterion first ih => simp only [List.cons_append, leavesOfAll, ih, List.append_assoc]

mutual

theorem active_eq (workspace : Workspace S) : ∀ criterion : Criterion S,
    active workspace criterion =
      (criterion.leaves.filter fun leaf => (workspace.criterion leaf.1).reason ≠ "").map
        fun leaf => .single leaf.1 leaf.2
  | .single number test => by
      rw [active, leaves]
      by_cases empty : (workspace.criterion number).reason = ""
      · simp [empty]
      · simp [empty]
  | .set number connective members => by
      rw [active, leaves, activeEach_eq workspace members]

theorem activeEach_eq (workspace : Workspace S) : ∀ members : List (Criterion S),
    activeEach workspace members =
      ((leavesOfAll members).filter fun leaf => (workspace.criterion leaf.1).reason ≠ "").map
        fun leaf => .single leaf.1 leaf.2
  | [] => rfl
  | first :: rest => by
      rw [activeEach, leavesOfAll, List.filter_append, List.map_append, active_eq workspace first,
        activeEach_eq workspace rest]

end

variable [Scalar S]

def IsSet : Criterion S → Prop
  | single _ _ => False
  | set _ _ _ => True

structure Rearranges (old new : Criterion S) : Prop where
  oldSet : old.IsSet
  newSet : new.IsSet
  leaves : old.leaves = new.leaves
  explain : ∀ problem state iteration,
    old.explain problem state iteration = new.explain problem state iteration

theorem Merges.rearranges {old new : Criterion S} (merges : Merges old new) :
    Rearranges old new := by
  induction merges with
  | here number other inner connective before members after =>
      refine ⟨trivial, trivial, ?_, ?_⟩
      · simp only [Criterion.leaves, leavesOfAll_append, leavesOfAll, List.append_assoc]
      · intro problem state iteration
        exact explain_nested problem state iteration number other inner connective before members
          after
  | inside number other connective before after merges ih =>
      refine ⟨trivial, trivial, ?_, ?_⟩
      · simp only [Criterion.leaves, leavesOfAll_append, leavesOfAll, ih.leaves]
      · intro problem state iteration
        exact explain_inside problem state iteration (ih.explain problem state iteration) number
          other connective before after

omit [Scalar S] in
theorem active_of_agree {old new : Criterion S} {left right : Workspace S}
    (same : old.leaves = new.leaves)
    (agree : left.Agree (old.leaves.map Prod.fst) old.leaves right) :
    active left old = active right new := by
  rw [active_eq, active_eq, ← same]
  congr 1
  refine List.filter_congr fun leaf member => ?_
  rw [agree.reason leaf.1 (List.mem_map_of_mem member)]

omit [Scalar S] in
theorem belongsTo_of_proper {criterion : Criterion S} {workspace : Workspace S}
    (distinct : (criterion.leaves.map Prod.fst).Nodup) (proper : Proper criterion.nodes)
    (allocated : ∀ number ∈ criterion.numbers, number < workspace.criteria.length) :
    BelongsTo criterion.nodes criterion.leaves workspace where
  distinct := by
    rw [map_number_nodes]
    exact nodup_numbers proper distinct
  among := fun number test member => mem_leaves_iff.mpr member
  apart := by
    intro number connective members member again
    obtain ⟨⟨_, test⟩, inside, rfl⟩ := List.mem_map.mp again
    cases proper.identified _ (mem_leaves_iff.mp inside) _ member rfl
  allocated := by
    intro node member
    apply allocated
    rw [← map_number_nodes]
    exact List.mem_map_of_mem member

variable {problem : Problem S} {state : SolverState S} {iteration : Int}

theorem Rearranges.swap {old new other : Criterion S} (first : Rearranges old other)
    (second : Rearranges new other) : Rearranges old new where
  oldSet := first.oldSet
  newSet := second.oldSet
  leaves := first.leaves.trans second.leaves.symm
  explain := fun problem state iteration =>
    (first.explain problem state iteration).trans (second.explain problem state iteration).symm

/-- How a set comes out of a call: it has no reason if it does not hold, and the reason that it had
if the call fails. -/
theorem run_check_set_reason {criterion : Criterion S} {leaves : List (Nat × StoppingTest S)}
    {before after : Journal × Workspace S} {outcome : Except (Fault S) Bool}
    (isSet : criterion.IsSet) (belongs : BelongsTo criterion.nodes leaves before.2)
    (ran : (criterion.check problem state iteration).run before = (outcome, after)) :
    (outcome = .ok false → (after.2.criterion criterion.number).reason = "") ∧
      ∀ fault, outcome = .error fault → (after.2.criterion criterion.number).reason =
        (before.2.criterion criterion.number).reason := by
  cases criterion with
  | single number test => exact isSet.elim
  | set number connective members =>
      rw [nodes] at belongs
      constructor
      · rintro rfl
        obtain ⟨verdicts, middle, called, _, wrote⟩ := check_set_ok ran
        have allocated : number < middle.2.criteria.length := by
          rw [(checkEach_keeps_length members).of_run called]
          exact belongs.allocated _ List.mem_cons_self
        rw [wrote, Criterion.number, Workspace.criterion_changeCriterion_self _ _ _ allocated]
        rfl
      · rintro fault rfl
        have outside : number ∉ numbersOfAll members := by
          have distinct := belongs.distinct
          rw [List.map_cons, map_number_nodesOfAll] at distinct
          exact (List.nodup_cons.mp distinct).1
        rw [Stopping.run_check_set, run_bind_error_iff] at ran
        rcases ran with failed | ⟨_, _, _, concluded⟩
        · exact (checkEach_keeps_reason outside).of_run failed
        · cases concluded

section Levels

variable {leaves : List (Nat × StoppingTest S)} {left middle right : Journal × Workspace S}

omit [Scalar S] in
theorem Level.symm (level : Level leaves left right) : Level leaves right left :=
  ⟨level.1.imp_left Eq.symm, level.2.symm⟩

omit [Scalar S] in
theorem Level.trans (first : Level leaves left middle) (second : Level leaves middle right) :
    Level leaves left right := by
  obtain ⟨sameFirst | absurdity, firstAgree⟩ := first
  case inr => exact absurdity.elim
  exact ⟨second.1.imp_left sameFirst.trans, firstAgree.trans second.2⟩

end Levels

structure Even (old new : Criterion S) (left right : Journal × Workspace S) : Prop where
  level : Level old.leaves left right
  reason : (left.2.criterion old.number).reason = (right.2.criterion new.number).reason

/-- What a caller of a tree gets to know: the outcome of the call, and afterwards the reason of the
tree and the criteria that were met. -/
def told (criterion : Criterion S)
    (ended : Except (Fault S) Bool × (Journal × Workspace S)) :
    Except (Fault S) Bool × String × List (Criterion S) :=
  (ended.1, (ended.2.2.criterion criterion.number).reason, active ended.2.2 criterion)

variable (problem state iteration) in
theorem Rearranges.check {old new : Criterion S} (rearranges : Rearranges old new)
    {left right : Journal × Workspace S} (oldBelongs : BelongsTo old.nodes old.leaves left.2)
    (newBelongs : BelongsTo new.nodes old.leaves right.2) (level : Level old.leaves left right)
    (reason : ∀ fault, ((old.check problem state iteration).run left).1 = .error fault →
      (left.2.criterion old.number).reason = (right.2.criterion new.number).reason) :
    ((old.check problem state iteration).run left).1 =
        ((new.check problem state iteration).run right).1 ∧
      Even old new ((old.check problem state iteration).run left).2
        ((new.check problem state iteration).run right).2 := by
  -- The call in which no set writes stands between the two checks.
  have oldEchoes := check_echoes problem state iteration oldBelongs level
  have newEchoes := check_echoes problem state iteration newBelongs ⟨.inl rfl, .refl right.2⟩
  rw [rearranges.explain problem state iteration] at oldEchoes
  rcases ran : (old.check problem state iteration).run left with ⟨outcome, after⟩
  rcases ran' : (new.check problem state iteration).run right with ⟨outcome', after'⟩
  rcases said : (new.explain problem state iteration).run right with ⟨answer, ended⟩
  rw [ran] at reason
  rw [ran, said] at oldEchoes
  rw [ran', said] at newEchoes
  have oldReason := run_check_set_reason rearranges.oldSet oldBelongs ran
  have newReason := run_check_set_reason rearranges.newSet newBelongs ran'
  obtain ⟨oldLevel, oldOutcome⟩ := oldEchoes
  obtain ⟨newLevel, newOutcome⟩ := newEchoes
  have stillLevel : Level old.leaves after after' := oldLevel.trans newLevel.symm
  rcases oldOutcome with ⟨fault, rfl, rfl⟩ | ⟨verdict, found, rfl, rfl, oldTells⟩
  · rcases newOutcome with ⟨_, rfl, same⟩ | ⟨_, _, _, ended, _⟩
    case inr => cases ended
    cases same
    refine ⟨rfl, stillLevel, ?_⟩
    rw [oldReason.2 fault rfl, newReason.2 fault rfl]
    exact reason fault rfl
  · rcases newOutcome with ⟨_, _, failed⟩ | ⟨verdict', _, rfl, same, newTells⟩
    case inl => cases failed
    cases same
    have sameVerdict : verdict = verdict' := oldTells.verdict.trans newTells.verdict.symm
    subst sameVerdict
    refine ⟨rfl, stillLevel, ?_⟩
    cases found with
    | none =>
        have fails : verdict = false := oldTells.verdict
        subst fails
        exact (oldReason.1 rfl).trans (newReason.1 rfl).symm
    | some reason => exact (oldTells.reason reason rfl).trans (newTells.reason reason rfl).symm

omit [Scalar S] in
theorem Even.told {old new : Criterion S}
    {left right : Except (Fault S) Bool × (Journal × Workspace S)}
    (even : Even old new left.2 right.2) (outcome : left.1 = right.1)
    (same : old.leaves = new.leaves) : old.told left = new.told right := by
  rw [Criterion.told, Criterion.told, outcome, even.reason, active_of_agree same even.level.2]

end Criterion

end ProximalSplitting

import Mathlib.Data.List.Forall2
import ProximalSplitting.Proofs.Stopping.Tree

/-!
How long a tree of criteria can hold out. A limit on the number of iterations bounds itself, any of
some criteria is bounded by the least bound among them, and all of them by the greatest if each has
one. From its bound on a tree holds at every call, and if it consists of such limits only, it does
not hold before.
-/

namespace ProximalSplitting

open Effect Tracked

def Connective.bound? : Connective → List (Option Int) → Option Int
  | .any, bounds => (bounds.filterMap id).min?
  | .all, bounds => if bounds.all Option.isSome then (bounds.filterMap id).max? else none

def StoppingTest.bound? {S : Type} : StoppingTest S → Option Int
  | .iterations limit => limit.integer?
  | _ => none

namespace Criterion

variable {S : Type}

mutual

/-- The iteration from which on the criterion holds whatever happens, if there is one. -/
def bound? : Criterion S → Option Int
  | .single _ test => test.bound?
  | .set _ connective members => connective.bound? (bounds members)

def bounds : List (Criterion S) → List (Option Int)
  | [] => []
  | first :: rest => bound? first :: bounds rest

end

structure Accepted [Scalar S] (criteria : List (Criterion S)) : Prop where
  limits : ∀ number limit, .single number (.iterations limit) ∈ criteria →
    limit.below? 1 = some false
  inhabited : ∀ number connective, .set number connective [] ∉ criteria

theorem Accepted.mono [Scalar S] {fewer criteria : List (Criterion S)}
    (accepted : Accepted criteria) (among : ∀ criterion ∈ fewer, criterion ∈ criteria) :
    Accepted fewer where
  limits := fun number limit member => accepted.limits number limit (among _ member)
  inhabited := fun number connective member =>
    accepted.inhabited number connective (among _ member)

end Criterion

def HoldsFrom (iteration : Int) (bound : Option Int) (verdict : Bool) : Prop :=
  ∀ limit, bound = some limit → limit ≤ iteration → verdict = true

def DecidedBy (iteration : Int) (bound : Option Int) (verdict : Bool) : Prop :=
  ∃ limit, bound = some limit ∧ verdict = decide (limit ≤ iteration)

theorem DecidedBy.holdsFrom {iteration : Int} {bound : Option Int} {verdict : Bool}
    (decided : DecidedBy iteration bound verdict) : HoldsFrom iteration bound verdict := by
  obtain ⟨limit, rfl, rfl⟩ := decided
  rintro _ ⟨⟩ reached
  exact decide_eq_true reached

section Pairs

variable {α β : Type} {related : α → β → Prop} {left : List α} {right : List β}

theorem exists_right (pairs : List.Forall₂ related left right) {item : α} (member : item ∈ left) :
    ∃ mirrored ∈ right, related item mirrored := by
  induction pairs with
  | nil => cases member
  | @cons first mirrored _ _ firstRelated _ ih =>
      rcases List.mem_cons.mp member with rfl | later
      · exact ⟨mirrored, List.mem_cons_self, firstRelated⟩
      · obtain ⟨found, inside, isRelated⟩ := ih later
        exact ⟨found, List.mem_cons_of_mem _ inside, isRelated⟩

theorem exists_left (pairs : List.Forall₂ related left right) {mirrored : β}
    (member : mirrored ∈ right) : ∃ item ∈ left, related item mirrored := by
  obtain ⟨item, inside, isRelated⟩ := exists_right pairs.flip member
  exact ⟨item, inside, isRelated⟩

end Pairs

namespace Connective

variable {iteration : Int} {bounds : List (Option Int)}

theorem mem_filterMap_id {limit : Int} : limit ∈ bounds.filterMap id ↔ some limit ∈ bounds := by
  simp

def Passes (related : Option Int → Bool → Prop) : Prop :=
  ∀ bounds verdicts, List.Forall₂ related bounds verdicts → bounds ≠ [] →
    ∀ connective : Connective, related (connective.bound? bounds) (connective.holds verdicts)

theorem passes_holdsFrom : Passes (HoldsFrom iteration) := by
  intro bounds verdicts members _ connective limit bounded reached
  cases connective with
  | any =>
      -- The member with the least bound holds.
      have least := mem_filterMap_id.mp (List.min?_mem bounded)
      obtain ⟨verdict, member, holds⟩ := exists_right members least
      exact List.any_eq_true.mpr ⟨verdict, member, holds limit rfl reached⟩
  | all =>
      rw [Connective.bound?] at bounded
      split at bounded
      next allBounded =>
        have greatest := (List.max?_eq_some_iff.mp bounded).2
        refine List.all_eq_true.mpr fun verdict member => ?_
        obtain ⟨bound, inside, holds⟩ := exists_left members member
        obtain ⟨own, rfl⟩ := Option.isSome_iff_exists.mp (List.all_eq_true.mp allBounded bound inside)
        have below := greatest own (mem_filterMap_id.mpr inside)
        exact holds own rfl (by omega)
      next => cases bounded

theorem passes_decidedBy : Passes (DecidedBy iteration) := by
  intro bounds verdicts members inhabited connective
  have allBounded : ∀ bound ∈ bounds, ∃ limit, bound = some limit := by
    intro bound member
    obtain ⟨verdict, _, limit, same, _⟩ := exists_right members member
    exact ⟨limit, same⟩
  have found : bounds.filterMap id ≠ [] := by
    obtain ⟨bound, member⟩ := List.exists_mem_of_ne_nil bounds inhabited
    obtain ⟨limit, rfl⟩ := allBounded bound member
    exact List.ne_nil_of_mem (mem_filterMap_id.mpr member)
  -- From the bound on the set holds; before it, the member that gives the bound decides.
  have upward := passes_holdsFrom bounds verdicts (members.imp fun _ _ => DecidedBy.holdsFrom)
    inhabited connective
  cases connective with
  | any =>
      obtain ⟨limit, least⟩ := Option.isSome_iff_exists.mp (List.isSome_min?_of_ne_nil found)
      refine ⟨limit, least, Bool.eq_iff_iff.mpr ⟨fun holds => decide_eq_true ?_, fun reached => ?_⟩⟩
      · obtain ⟨verdict, member, positive⟩ := List.any_eq_true.mp holds
        obtain ⟨bound, inside, own, rfl, rfl⟩ := exists_left members member
        have below := (List.min?_eq_some_iff.mp least).2 own (mem_filterMap_id.mpr inside)
        exact Int.le_trans below (of_decide_eq_true positive)
      · exact upward limit least (of_decide_eq_true reached)
  | all =>
      obtain ⟨limit, greatest⟩ := Option.isSome_iff_exists.mp (List.isSome_max?_of_ne_nil found)
      have bounded : Connective.all.bound? bounds = some limit := by
        refine (if_pos ?_).trans greatest
        exact List.all_eq_true.mpr fun bound member =>
          Option.isSome_iff_exists.mpr (allBounded bound member)
      refine ⟨limit, bounded, Bool.eq_iff_iff.mpr ⟨fun holds => decide_eq_true ?_, fun reached => ?_⟩⟩
      · obtain ⟨verdict, member, own, same, rfl⟩ :=
          exists_right members (mem_filterMap_id.mp (List.max?_mem greatest))
        cases same
        exact of_decide_eq_true (List.all_eq_true.mp holds _ member)
      · exact upward limit bounded (of_decide_eq_true reached)

end Connective

theorem Connective.mem_of_bound {connective : Connective} {bounds : List (Option Int)} {limit : Int}
    (bounded : connective.bound? bounds = some limit) : some limit ∈ bounds := by
  cases connective with
  | any => exact mem_filterMap_id.mp (List.min?_mem bounded)
  | all =>
      rw [Connective.bound?] at bounded
      split at bounded
      next => exact mem_filterMap_id.mp (List.max?_mem bounded)
      next => cases bounded

namespace Criterion

variable {S : Type} {limit : Int}

mutual

theorem exists_limit : ∀ {criterion : Criterion S}, criterion.bound? = some limit →
    ∃ leaf ∈ criterion.leaves, leaf.2.bound? = some limit
  | .single number test, bounded => by
      rw [bound?] at bounded
      exact ⟨(number, test), List.mem_singleton_self _, bounded⟩
  | .set number connective members, bounded => by
      rw [bound?] at bounded
      exact exists_limit_of_mem (Connective.mem_of_bound bounded)

theorem exists_limit_of_mem : ∀ {members : List (Criterion S)}, some limit ∈ bounds members →
    ∃ leaf ∈ leavesOfAll members, leaf.2.bound? = some limit
  | [], member => by cases member
  | first :: rest, member => by
      rw [bounds] at member
      rw [leavesOfAll]
      rcases List.mem_cons.mp member with same | later
      · obtain ⟨leaf, inside, bounded⟩ := exists_limit same.symm
        exact ⟨leaf, List.mem_append_left _ inside, bounded⟩
      · obtain ⟨leaf, inside, bounded⟩ := exists_limit_of_mem later
        exact ⟨leaf, List.mem_append_right _ inside, bounded⟩

end

variable [Scalar S]

theorem Accepted.positive {criterion : Criterion S} (accepted : Accepted criterion.nodes)
    (bounded : criterion.bound? = some limit) : 1 ≤ limit := by
  obtain ⟨⟨number, test⟩, member, own⟩ := exists_limit bounded
  cases test with
  | iterations value =>
      have refused := accepted.limits number value (mem_leaves_iff.mp member)
      have integer : value.integer? = some limit := own
      have below : value.below? 1 = some (decide (limit < 1)) := by
        cases value <;> cases integer <;> rfl
      rw [below, Option.some_inj] at refused
      exact Int.not_lt.mp (of_decide_eq_false refused)
  | change _ => cases own
  | gradientNorm _ => cases own
  | cost _ => cases own
  | elapsed _ => cases own

variable {problem : Problem S} {state : SolverState S} {iteration : Int}

theorem checkTest_decidedBy {number : Nat} {test : StoppingTest S} (later : iteration ≠ 0)
    (limited : test.bound? = some limit) {before after : Journal × Workspace S} {verdict : Bool}
    (ran : (checkTest problem state number test iteration).run before = (.ok verdict, after)) :
    DecidedBy iteration test.bound? verdict := by
  refine ⟨limit, limited, ?_⟩
  cases test with
  | iterations value =>
      have integer : value.integer? = some limit := limited
      have reached : value.reachedBy? iteration = some (decide (limit ≤ iteration)) := by
        cases value <;> cases integer <;> rfl
      rw [run_checkTest problem state number (.iterations value) later before.1 before.2,
        StoppingTest.judge, reached] at ran
      cases ran
      simp
  | change _ => cases limited
  | gradientNorm _ => cases limited
  | cost _ => cases limited
  | elapsed _ => cases limited

variable {related : Option Int → Bool → Prop}

mutual

/-- What relates the bound and the verdict of every single criterion, and is passed on from the
members of a set to the set, relates the bound and the verdict of the tree. -/
theorem check_related (sets : Connective.Passes related) (later : 0 < iteration) :
    ∀ {criterion : Criterion S}, Accepted criterion.nodes →
    (∀ leaf ∈ criterion.leaves, ∀ {before after : Journal × Workspace S} {verdict : Bool},
      (checkTest problem state leaf.1 leaf.2 iteration).run before = (.ok verdict, after) →
        related leaf.2.bound? verdict) →
    ∀ {before after : Journal × Workspace S} {verdict : Bool},
      (criterion.check problem state iteration).run before = (.ok verdict, after) →
        related criterion.bound? verdict
  | .single number test, _, singles, before, after, verdict, ran => by
      rw [check] at ran
      rw [bound?]
      exact singles (number, test) (List.mem_singleton_self _) ran
  | .set number connective members, accepted, singles, before, after, verdict, ran => by
      obtain ⟨verdicts, middle, called, rfl, _⟩ := check_set_ok ran
      rw [decide_eq_true later, Bool.true_and, bound?]
      rw [nodes] at accepted
      refine sets _ _ (checkEach_related sets later
        (accepted.mono fun _ member => List.mem_cons_of_mem _ member) singles called) ?_ connective
      intro none_inside
      cases members with
      | nil => exact accepted.inhabited number connective List.mem_cons_self
      | cons first rest =>
          rw [bounds] at none_inside
          cases none_inside

theorem checkEach_related (sets : Connective.Passes related) (later : 0 < iteration) :
    ∀ {members : List (Criterion S)}, Accepted (nodesOfAll members) →
    (∀ leaf ∈ leavesOfAll members, ∀ {before after : Journal × Workspace S} {verdict : Bool},
      (checkTest problem state leaf.1 leaf.2 iteration).run before = (.ok verdict, after) →
        related leaf.2.bound? verdict) →
    ∀ {before after : Journal × Workspace S} {verdicts : List Bool},
      (checkEach problem state members iteration).run before = (.ok verdicts, after) →
        List.Forall₂ related (bounds members) verdicts
  | [], _, _, before, after, verdicts, ran => by
      rw [checkEach] at ran
      cases ran
      exact .nil
  | first :: rest, accepted, singles, before, after, verdicts, ran => by
      obtain ⟨verdict, others, middle, calledFirst, calledRest, rfl⟩ := checkEach_cons_ok ran
      rw [nodesOfAll] at accepted
      rw [leavesOfAll] at singles
      rw [bounds]
      refine .cons ?_ ?_
      · exact check_related sets later (accepted.mono fun _ member => List.mem_append_left _ member)
          (fun leaf member => singles leaf (List.mem_append_left _ member)) calledFirst
      · exact checkEach_related sets later
          (accepted.mono fun _ member => List.mem_append_right _ member)
          (fun leaf member => singles leaf (List.mem_append_right _ member)) calledRest

end

theorem check_holdsFrom {criterion : Criterion S} (accepted : Accepted criterion.nodes)
    (later : 0 < iteration) {before after : Journal × Workspace S} {verdict : Bool}
    (ran : (criterion.check problem state iteration).run before = (.ok verdict, after)) :
    HoldsFrom iteration criterion.bound? verdict := by
  refine check_related Connective.passes_holdsFrom later accepted ?_ ran
  intro leaf _ before after verdict called limit limited
  exact (checkTest_decidedBy (Int.ne_of_gt later) limited called).holdsFrom limit limited

theorem check_decidedBy {criterion : Criterion S} (accepted : Accepted criterion.nodes)
    (limits : ∀ leaf ∈ criterion.leaves, leaf.2.bound?.isSome) (later : 0 < iteration)
    {before after : Journal × Workspace S} {verdict : Bool}
    (ran : (criterion.check problem state iteration).run before = (.ok verdict, after)) :
    DecidedBy iteration criterion.bound? verdict := by
  refine check_related Connective.passes_decidedBy later accepted ?_ ran
  intro leaf member before after verdict called
  obtain ⟨limit, limited⟩ := Option.isSome_iff_exists.mp (limits leaf member)
  exact checkTest_decidedBy (Int.ne_of_gt later) limited called

end Criterion

end ProximalSplitting

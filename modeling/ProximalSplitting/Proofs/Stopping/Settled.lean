import Mathlib.Data.List.Forall2
import ProximalSplitting.Proofs.Stopping.Reasons

/-!
Which trees have a reason when they hold. A set rewrites its reason at every call. Where it stands
at several places of a tree it is called several times, and a later call that is not met takes the
reason away that an earlier one has given. The answers of a set can differ in the course of one call
of the tree only if a test inside compares iterates or looks at the clock.
-/

namespace ProximalSplitting

open Effect Tracked

def StoppingTest.isSteady {S : Type} : StoppingTest S → Bool
  | .change _ => false
  | .elapsed _ => false
  | _ => true

namespace Criterion

variable {S : Type}

def isSet : Criterion S → Bool
  | .single _ _ => false
  | .set _ _ _ => true

/-- Whether a set can give two answers in the course of one call of a tree. -/
def wavers : Criterion S → Bool
  | .single _ _ => false
  | .set _ _ members => (leavesOfAll members).any fun leaf => !leaf.2.isSteady

def Once (picked : Criterion S → Bool) (nodes : List (Criterion S)) : Prop :=
  ((nodes.filter picked).map number).Nodup

/-- No set stands at two places of a tree, or only sets that do not waver do, and the functions of
the problem are pure. -/
def Settled [Scalar S] (problem : Problem S) (criterion : Criterion S) : Prop :=
  Once isSet criterion.nodes ∨ problem.Pure ∧ Once wavers criterion.nodes

theorem Once.sublist {picked : Criterion S → Bool} {nodes fewer : List (Criterion S)}
    (once : Once picked nodes) (among : fewer.Sublist nodes) : Once picked fewer :=
  List.Nodup.sublist ((among.filter picked).map number) once

theorem Once.perm {picked : Criterion S → Bool} {nodes others : List (Criterion S)}
    (once : Once picked nodes) (permuted : nodes.Perm others) : Once picked others :=
  ((permuted.filter picked).map number).nodup_iff.mp once

theorem Once.not_mem {picked : Criterion S → Bool} {called rest : List (Criterion S)}
    {node : Criterion S} (once : Once picked (called ++ node :: rest))
    (isPicked : picked node = true) : node ∉ called := by
  intro member
  have apart := once.perm List.perm_middle
  rw [Once, List.filter_cons_of_pos isPicked, List.map_cons, List.nodup_cons] at apart
  exact apart.1 (List.mem_map_of_mem
    (List.mem_filter.mpr ⟨List.mem_append_left rest member, isPicked⟩))

theorem Once.step {picked : Criterion S → Bool} {called rest : List (Criterion S)}
    {first : Criterion S} (once : Once picked (called ++ (first.nodes ++ rest))) :
    Once picked (first :: called ++ rest) := by
  have head : [first].Sublist first.nodes := List.singleton_sublist.mpr first.mem_nodes_self
  exact (once.sublist ((List.Sublist.refl called).append (head.append (.refl rest)))).perm
    List.perm_middle

section Steadiness

variable [Scalar S] {problem : Problem S} {state : SolverState S} {iteration : Int}

variable (state iteration) in
theorem judge_of_isSteady (pure : problem.Pure) {test : StoppingTest S}
    (steady : test.isSteady = true) (memory other : CriterionMemory S) (now later : S)
    (left right : Journal) :
    ((test.judge problem state memory now iteration).run left).1 =
      ((test.judge problem state other later iteration).run right).1 := by
  have outcome := (pure.judge state memory now iteration test).outcome left right
  cases test with
  | change tolerance => cases steady
  | elapsed seconds => cases steady
  | iterations limit => exact outcome
  | gradientNorm tolerance => exact outcome
  | cost threshold => exact outcome

variable (problem state iteration) in
def Steady (criterion : Criterion S) : Prop :=
  ∀ ⦃before other after left : Journal × Workspace S⦄ ⦃verdict answer : Bool⦄,
    (criterion.check problem state iteration).run before = (.ok verdict, after) →
    (criterion.check problem state iteration).run other = (.ok answer, left) → verdict = answer

theorem steady_single (pure : problem.Pure) (later : iteration ≠ 0) {number : Nat}
    {test : StoppingTest S} (steady : test.isSteady = true) :
    Steady problem state iteration (.single number test) := by
  intro before other after left verdict answer ran ranToo
  rw [check] at ran ranToo
  obtain ⟨found, judged, rfl, _⟩ := checkTest_ok later ran
  obtain ⟨foundToo, judgedToo, rfl, _⟩ := checkTest_ok later ranToo
  have same := judge_of_isSteady state iteration pure steady (before.2.criterion number)
    (other.2.criterion number) before.2.clock other.2.clock before.1 other.1
  rw [judged, judgedToo] at same
  cases same
  rfl

mutual

theorem steady_of_leaves (pure : problem.Pure) (later : iteration ≠ 0) :
    ∀ criterion : Criterion S, (∀ leaf ∈ criterion.leaves, leaf.2.isSteady = true) →
      Steady problem state iteration criterion
  | .single number test, steady =>
      steady_single pure later (steady _ (List.mem_singleton_self _))
  | .set number connective members, steady => by
      intro before other after left verdict answer ran ranToo
      obtain ⟨verdicts, middle, called, rfl, _⟩ := check_set_ok ran
      obtain ⟨answers, middleToo, calledToo, rfl, _⟩ := check_set_ok ranToo
      rw [verdicts_of_leaves pure later members steady called calledToo]

theorem verdicts_of_leaves (pure : problem.Pure) (later : iteration ≠ 0) :
    ∀ (members : List (Criterion S)) {before other after left : Journal × Workspace S}
      {verdicts answers : List Bool},
      (∀ leaf ∈ leavesOfAll members, leaf.2.isSteady = true) →
      (checkEach problem state members iteration).run before = (.ok verdicts, after) →
      (checkEach problem state members iteration).run other = (.ok answers, left) →
      verdicts = answers
  | [], _, _, _, _, _, _, _, ran, ranToo => by
      rw [checkEach] at ran ranToo
      cases ran
      cases ranToo
      rfl
  | first :: rest, _, _, _, _, _, _, steady, ran, ranToo => by
      rw [leavesOfAll, List.forall_mem_append] at steady
      obtain ⟨verdict, verdicts, middle, called, calledRest, rfl⟩ := checkEach_cons_ok ran
      obtain ⟨answer, answers, middleToo, calledToo, calledRestToo, rfl⟩ := checkEach_cons_ok ranToo
      rw [steady_of_leaves pure later first steady.1 called calledToo,
        verdicts_of_leaves pure later rest steady.2 calledRest calledRestToo]

end

theorem steady_of_not_wavers (pure : problem.Pure) (later : iteration ≠ 0)
    {criterion : Criterion S} (isSet : criterion.isSet = true) (steady : criterion.wavers = false) :
    Steady problem state iteration criterion := by
  cases criterion with
  | single number test => cases isSet
  | set number connective members =>
      refine steady_of_leaves pure later _ fun leaf member => ?_
      have unshaken := List.any_eq_false.mp steady leaf member
      simpa using unshaken

end Steadiness

section Holding

variable [Scalar S] {problem : Problem S} {state : SolverState S} {iteration : Int}
  {picked : Criterion S → Bool} {called : List (Criterion S)}

theorem checkTest_reason (later : iteration ≠ 0) {number : Nat} {test : StoppingTest S}
    {before after : Journal × Workspace S} {verdict : Bool}
    (allocated : number < before.2.criteria.length)
    (ran : (checkTest problem state number test iteration).run before = (.ok verdict, after)) :
    (verdict = true → (after.2.criterion number).reason ≠ "") ∧
      ∀ other, (before.2.criterion other).reason ≠ "" → (after.2.criterion other).reason ≠ "" := by
  obtain ⟨found, judged, rfl, noted⟩ := checkTest_ok later ran
  have stillAllocated : number < (test.tick before.2).criteria.length := by
    rw [length_tick]
    exact allocated
  have told := StoppingTest.judge_reason_ne_empty judged
  rw [noted]
  constructor
  · intro holds
    rw [Workspace.criterion_changeCriterion_self _ _ _ stillAllocated, StoppingTest.note,
      if_pos holds]
    exact told holds
  · intro other given
    by_cases same : number = other
    · subst same
      rw [Workspace.criterion_changeCriterion_self _ _ _ stillAllocated, StoppingTest.note,
        reason_tick]
      split
      · rename_i holds
        exact told holds
      · exact given
    · rw [Workspace.criterion_changeCriterion_of_ne _ _ _ same, reason_tick]
      exact given

variable (problem state iteration picked) in
structure Held (called : List (Criterion S)) (workspace : Workspace S) : Prop where
  reason : ∀ node ∈ called, (workspace.criterion node.number).reason ≠ ""
  again : ∀ node ∈ called, node.isSet = true → picked node = false →
    ∀ ⦃before after : Journal × Workspace S⦄ ⦃verdict : Bool⦄,
      (node.check problem state iteration).run before = (.ok verdict, after) → verdict = true

theorem Held.kept {before after : Workspace S}
    (held : Held problem state iteration picked called before)
    (kept : ∀ node ∈ called, (before.criterion node.number).reason ≠ "" →
      (after.criterion node.number).reason ≠ "") :
    Held problem state iteration picked called after :=
  ⟨fun node member => kept node member (held.reason node member), held.again⟩

theorem Held.cons {node : Criterion S} {workspace : Workspace S}
    (steady : node.isSet = true → picked node = false → Steady problem state iteration node)
    (held : Held problem state iteration picked called workspace)
    (reason : (workspace.criterion node.number).reason ≠ "")
    {before after : Journal × Workspace S}
    (ran : (node.check problem state iteration).run before = (.ok true, after)) :
    Held problem state iteration picked (node :: called) workspace := by
  constructor
  · exact List.forall_mem_cons.mpr ⟨reason, held.reason⟩
  · refine List.forall_mem_cons.mpr ⟨fun isSet free _ _ _ ranAgain => ?_, held.again⟩
    exact (steady isSet free ran ranAgain).symm

omit [Scalar S] in
theorem joinedReasons_ne_empty {workspace : Workspace S} {members : List (Criterion S)}
    {verdicts : List Bool}
    (given : List.Forall₂ (fun member verdict => verdict = true →
      (workspace.criterion (number member)).reason ≠ "") members verdicts)
    (met : verdicts.any id = true) : joinedReasons workspace members verdicts ≠ "" := by
  induction given with
  | nil => cases met
  | @cons first verdict rest later firstGiven _ ih =>
      rw [joinedReasons_cons, ne_eq, String.append_eq_empty_iff]
      rintro ⟨firstEmpty, restEmpty⟩
      rw [List.any_cons, Bool.or_eq_true] at met
      rcases met with met | met
      · have holds : verdict = true := met
        rw [if_pos holds] at firstEmpty
        exact firstGiven holds firstEmpty
      · exact ih met restEmpty

variable (problem state iteration picked) in
structure Firm (all : List (Criterion S)) : Prop where
  proper : Proper all
  later : iteration ≠ 0
  steady : ∀ node ∈ all, node.isSet = true → picked node = false →
    Steady problem state iteration node

variable {all : List (Criterion S)}

mutual

/-- Whatever held before in the course of a call of a tree keeps its reason, and a criterion that
holds has one. -/
theorem check_held (firm : Firm problem state iteration picked all) : ∀ {criterion : Criterion S}
    {called : List (Criterion S)} {before after : Journal × Workspace S} {verdict : Bool},
    (∀ node ∈ called ++ criterion.nodes, node ∈ all) →
    Once picked (called ++ criterion.nodes) →
    (∀ node ∈ criterion.nodes, node.number < before.2.criteria.length) →
    Held problem state iteration picked called before.2 →
    (criterion.check problem state iteration).run before = (.ok verdict, after) →
    Held problem state iteration picked called after.2 ∧
      (verdict = true → (after.2.criterion criterion.number).reason ≠ "")
  | .single number test, called, before, after, verdict, _, _, allocated, held, ran => by
      rw [check] at ran
      obtain ⟨given, kept⟩ := checkTest_reason firm.later (allocated _ (mem_nodes_self _)) ran
      exact ⟨held.kept fun node _ => kept node.number, given⟩
  | .set number connective members, called, before, after, verdict, among, once, allocated, held,
      ran => by
      have ranSet := ran
      rw [nodes, List.forall_mem_append] at among
      rw [nodes] at once allocated
      obtain ⟨verdicts, middle, calledInside, verdict_eq, wrote⟩ := check_set_ok ran
      have inside : (called ++ nodesOfAll members).Sublist
          (called ++ .set number connective members :: nodesOfAll members) :=
        (List.Sublist.refl called).append (List.sublist_cons_self _ _)
      obtain ⟨stillHeld, length, given⟩ := checkEach_held firm
        (List.forall_mem_append.mpr
          ⟨among.1, fun node member => among.2 node (List.mem_cons_of_mem _ member)⟩)
        (once.sublist inside) (fun node member => allocated node (List.mem_cons_of_mem _ member))
        held calledInside
      have here := among.2 _ List.mem_cons_self
      have reason : verdict = true → (after.2.criterion number).reason ≠ "" := by
        intro met
        have inhabited : verdicts ≠ [] := by
          rintro rfl
          cases given
          exact firm.proper.inhabited number connective here
        rw [wrote, Workspace.criterion_changeCriterion_self _ _ _
          (length ▸ allocated _ List.mem_cons_self), if_pos met]
        rw [met] at verdict_eq
        exact joinedReasons_ne_empty given
          (any_of_holds inhabited (Bool.and_eq_true _ _ ▸ verdict_eq.symm).2)
      refine ⟨stillHeld.kept fun node member nonempty => ?_, reason⟩
      by_cases same : number = node.number
      · -- A set that held already is called again, so that it is not picked out and holds.
        have again : node = .set number connective members :=
          firm.proper.identified node (among.1 node member) _ here same.symm
        subst again
        have free : picked (.set number connective members) = false :=
          Bool.eq_false_iff.mpr fun isPicked => once.not_mem isPicked member
        exact reason (held.again _ member rfl free ranSet)
      · rw [wrote, Workspace.criterion_changeCriterion_of_ne _ _ _ same]
        exact nonempty

theorem checkEach_held (firm : Firm problem state iteration picked all) :
    ∀ {members called : List (Criterion S)} {before after : Journal × Workspace S}
      {verdicts : List Bool},
    (∀ node ∈ called ++ nodesOfAll members, node ∈ all) →
    Once picked (called ++ nodesOfAll members) →
    (∀ node ∈ nodesOfAll members, node.number < before.2.criteria.length) →
    Held problem state iteration picked called before.2 →
    (checkEach problem state members iteration).run before = (.ok verdicts, after) →
    Held problem state iteration picked called after.2 ∧
      after.2.criteria.length = before.2.criteria.length ∧
      List.Forall₂ (fun member verdict => verdict = true →
        (after.2.criterion (number member)).reason ≠ "") members verdicts
  | [], _, _, _, _, _, _, _, held, ran => by
      rw [checkEach] at ran
      cases ran
      exact ⟨held, rfl, .nil⟩
  | first :: rest, called, before, after, verdicts, among, once, allocated, held, ran => by
      rw [nodesOfAll] at among once allocated
      rw [List.forall_mem_append, List.forall_mem_append] at among
      rw [List.forall_mem_append] at allocated
      obtain ⟨verdict, others, middle, calledFirst, calledRest, rfl⟩ := checkEach_cons_ok ran
      obtain ⟨heldFirst, given⟩ := check_held firm
        (List.forall_mem_append.mpr ⟨among.1, among.2.1⟩)
        (once.sublist (by simp)) allocated.1 held calledFirst
      have length : middle.2.criteria.length = before.2.criteria.length :=
        (check_keeps_length first).of_run calledFirst
      have restAllocated : ∀ node ∈ nodesOfAll rest, node.number < middle.2.criteria.length :=
        fun node member => length ▸ allocated.2 node member
      cases verdict with
      | false =>
          obtain ⟨heldRest, restLength, restGiven⟩ := checkEach_held firm
            (List.forall_mem_append.mpr ⟨among.1, among.2.2⟩)
            (once.sublist (by simp)) restAllocated heldFirst calledRest
          exact ⟨heldRest, restLength.trans length, .cons nofun restGiven⟩
      | true =>
          -- The first member holds from now on, and keeps its reason while the rest is called.
          have firstAmong := among.2.1 first first.mem_nodes_self
          obtain ⟨heldRest, restLength, restGiven⟩ := checkEach_held firm
            (List.forall_mem_append.mpr
              ⟨List.forall_mem_cons.mpr ⟨firstAmong, among.1⟩, among.2.2⟩)
            once.step restAllocated
            (heldFirst.cons (firm.steady first firstAmong) (given rfl) calledFirst) calledRest
          refine ⟨⟨fun node member => heldRest.reason node (List.mem_cons_of_mem _ member),
            held.again⟩, restLength.trans length, .cons (fun _ => ?_) restGiven⟩
          exact heldRest.reason first List.mem_cons_self

end

end Holding

variable [Scalar S] {problem : Problem S} {state : SolverState S} {iteration : Int}

theorem reason_check_of_met {criterion : Criterion S} (proper : Proper criterion.nodes)
    (settled : criterion.Settled problem) (later : iteration ≠ 0)
    {before after : Journal × Workspace S}
    (allocated : ∀ number ∈ criterion.numbers, number < before.2.criteria.length)
    (checked : (criterion.check problem state iteration).run before = (.ok true, after)) :
    (after.2.criterion criterion.number).reason ≠ "" := by
  have stored : ∀ node ∈ criterion.nodes, node.number < before.2.criteria.length := by
    intro node member
    refine allocated _ ?_
    rw [← map_number_nodes]
    exact List.mem_map_of_mem member
  have lasts : ∀ {picked : Criterion S → Bool}, Once picked criterion.nodes →
      (∀ node ∈ criterion.nodes, node.isSet = true → picked node = false →
        Steady problem state iteration node) →
      (after.2.criterion criterion.number).reason ≠ "" := by
    intro picked once steady
    have held : Held problem state iteration picked [] before.2 := ⟨nofun, nofun⟩
    have firm : Firm problem state iteration picked criterion.nodes := ⟨proper, later, steady⟩
    exact (check_held firm (fun _ member => member) once stored held checked).2 rfl
  rcases settled with once | ⟨pure, once⟩
  · refine lasts once fun _ _ isSet isSingle => ?_
    rw [isSet] at isSingle
    cases isSingle
  · exact lasts once fun _ _ => steady_of_not_wavers pure later

end Criterion

end ProximalSplitting

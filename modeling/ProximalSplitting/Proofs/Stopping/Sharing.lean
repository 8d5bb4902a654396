import ProximalSplitting.Proofs.Stopping.Opening

/-!
Trees in which one criterion stands at several places. Each place calls the criterion anew, with the
memory that the places before it have left. A test of the change then knows the iterate of this call
already, so that from its second place on it compares the iterate with itself; all other tests say
the same at every place, as long as the clock stands still.
-/

namespace ProximalSplitting

open Effect Tracked

namespace Stopping

variable {S : Type} [Scalar S]

omit [Scalar S] in
theorem criterion_of_criteria {left right : Workspace S} {number : Nat}
    (same : left.criteria = right.criteria) (allocated : number < right.criteria.length) :
    left.criterion number = right.criterion number := by
  rw [Workspace.criterion, Workspace.criterion, same, List.getElem?_eq_getElem allocated]
  rfl

end Stopping

namespace Criterion

open Stopping

variable {S : Type} [Scalar S] {criterion : Criterion S} {inquiry : Nat → Inquiry S}
  {memory : Nat → Journal × Workspace S} {done : Nat}

omit [Scalar S] in
theorem Proper.identified_leaves (proper : Proper criterion.nodes) :
    Identified criterion.leaves := by
  intro left member right memberToo same
  have whole := proper.identified _ (mem_leaves_iff.mp member) _ (mem_leaves_iff.mp memberToo) same
  rw [Criterion.single.injEq] at whole
  exact Prod.ext whole.1 whole.2

omit [Scalar S] in
theorem number_mem_of_leaf {leaf : Nat × StoppingTest S} (inside : leaf ∈ criterion.leaves) :
    leaf.1 ∈ criterion.numbers := by
  rw [← map_number_nodes]
  exact List.mem_map.mpr ⟨_, mem_leaves_iff.mp inside, rfl⟩

theorem Calls.leaf_allocated (calls : criterion.Calls inquiry memory) (done : Nat) :
    ∀ leaf ∈ criterion.leaves, leaf.1 < (memory done).2.criteria.length := by
  intro leaf member
  rw [calls.length done]
  exact calls.allocated _ (number_mem_of_leaf member)

structure Counted (criterion : Criterion S) (inquiry : Nat → Inquiry S)
    (memory : Nat → Journal × Workspace S) (done : Nat) : Prop extends
    criterion.Calls inquiry memory where
  iteration : ∀ done, (inquiry done).iteration = done
  returned : ∀ earlier < done, ∃ verdict after,
    (criterion.call (inquiry earlier)).run (memory earlier) = (.ok verdict, after)

def sceneAt (inquiry : Nat → Inquiry S) (memory : Nat → Journal × Workspace S) (done : Nat) :
    Scene S where
  inquiry := inquiry done
  previous := (inquiry (done - 1)).state.iterate
  started := fun number => ((memory 1).2.criterion number).started
  reading := (memory done).2.reading

theorem Counted.mono (counted : criterion.Counted inquiry memory done) {fewer : Nat}
    (earlier : fewer ≤ done) : criterion.Counted inquiry memory fewer where
  toCalls := counted.toCalls
  iteration := counted.iteration
  returned := fun number below => counted.returned number (Nat.lt_of_lt_of_le below earlier)

theorem Calls.midway_of_after (calls : criterion.Calls inquiry memory) {after : Workspace S}
    (kept : (memory (done + 1)).2.criteria = after.criteria)
    (watched : ∀ leaf ∈ criterion.leaves, leaf.2.watchesIterate →
      (after.criterion leaf.1).lastIterate = some (inquiry done).state.iterate)
    (started : ∀ leaf ∈ criterion.leaves, leaf.2.readsClock →
      (after.criterion leaf.1).started = ((memory 1).2.criterion leaf.1).started) :
    Midway criterion.leaves (sceneAt inquiry memory (done + 1)) {} (memory (done + 1)).2 := by
  have allocated := calls.leaf_allocated (done + 1)
  have same : ∀ leaf ∈ criterion.leaves,
      (memory (done + 1)).2.criterion leaf.1 = after.criterion leaf.1 := by
    intro leaf member
    exact criterion_of_criteria kept (kept ▸ allocated leaf member)
  constructor
  · exact allocated
  · intro leaf member watches
    rw [same leaf member, watched leaf member watches]
    rfl
  · intro leaf member reads
    rw [same leaf member, started leaf member reads]
    rfl
  · intro later
    rw [Nat.zero_add]
    rfl

/-- After the reset every test remembers the iterate of the reset, or what the clock showed then. -/
theorem Counted.opened (proper : Proper criterion.nodes)
    (counted : criterion.Counted inquiry memory (done + 1)) {shown : S → Prop}
    (readings : ∀ later, shown ((memory 0).2.reading later)) :
    ∃ after, (memory 1).2.criteria = after.criteria ∧
      Opened criterion.leaves criterion.leaves (inquiry 0).state.iterate shown after := by
  obtain ⟨verdict, after, returned⟩ := counted.returned 0 (Nat.succ_pos done)
  have kept : (memory 1).2.criteria = after.2.criteria := by
    rw [counted.kept 0, returned]
  have opened : Opened criterion.leaves [] (inquiry 0).state.iterate shown (memory 0).2 :=
    ⟨counted.leaf_allocated 0, by simp, by simp, readings⟩
  rw [call, counted.iteration 0] at returned
  exact ⟨after.2, kept, (check_opening proper.identified_leaves criterion [] _ (by simp)
    (fun _ => id) opened).of_returned returned⟩

/-- At the beginning of every call but the first the tree knows what it has to know. -/
theorem Counted.midway (proper : Proper criterion.nodes)
    (counted : criterion.Counted inquiry memory (done + 1)) :
    Midway criterion.leaves (sceneAt inquiry memory (done + 1)) {} (memory (done + 1)).2 := by
  induction done with
  | zero =>
      obtain ⟨after, kept, opened⟩ : ∃ after : Workspace S, (memory 1).2.criteria = after.criteria ∧
          Opened criterion.leaves criterion.leaves (inquiry 0).state.iterate (fun _ => True) after :=
        counted.opened proper fun _ => trivial
      refine counted.midway_of_after kept opened.lastIterate fun leaf member _ => ?_
      rw [criterion_of_criteria kept (kept ▸ counted.leaf_allocated 1 leaf member)]
  | succ done ih =>
      have current := ih (counted.mono (Nat.le_succ _))
      obtain ⟨verdict, after, returned⟩ := counted.returned (done + 1) (Nat.lt_succ_self _)
      have later : 0 < (sceneAt inquiry memory (done + 1)).inquiry.iteration := by
        rw [sceneAt, counted.iteration]
        omega
      have called := (check_midway later proper.identified_leaves criterion {} _
        (fun _ => id) current).of_returned returned
      refine counted.midway_of_after ?_ ?_ called.started
      · rw [counted.kept (done + 1), returned]
      · intro leaf member watches
        have renewed : leaf.1 ∈ ((({} : Progress)).past criterion.leaves).renewed :=
          List.mem_append_right _ (mem_watchers.mpr ⟨leaf.2, member, watches⟩)
        rw [called.lastIterate leaf member watches, Scene.moment, if_pos renewed]
        rfl

theorem Counted.outcome_of_midway (proper : Proper criterion.nodes)
    (counted : criterion.Counted inquiry memory done) (later : 1 ≤ done) {scene : Scene S}
    (same : scene.inquiry = inquiry done)
    (midway : Midway criterion.leaves scene {} (memory done).2) :
    ((criterion.call (inquiry done)).run (memory done)).1 =
      ((criterion.verdict scene {}).run (memory done).1).1 := by
  have positive : 0 < scene.inquiry.iteration := by
    rw [same, counted.iteration]
    omega
  obtain ⟨after, ran, _⟩ := check_midway positive proper.identified_leaves criterion {} _
    (fun _ => id) midway (memory done).1
  rw [call, ← same]
  exact congrArg Prod.fst ran

def stillScene (inquiry : Nat → Inquiry S) (opening now : S) (done : Nat) : Scene S where
  inquiry := inquiry done
  previous := (inquiry (done - 1)).state.iterate
  started := fun _ => opening
  reading := fun _ => now

structure Still (memory : Nat → Journal × Workspace S) (opening now : S) (done : Nat) : Prop where
  opened : ∀ later, (memory 0).2.reading later = opening
  called : ∀ later, (memory done).2.reading later = now

theorem Counted.midway_still {opening now : S} (proper : Proper criterion.nodes)
    (counted : criterion.Counted inquiry memory (done + 1))
    (still : Still memory opening now (done + 1)) :
    Midway criterion.leaves (stillScene inquiry opening now (done + 1)) {}
      (memory (done + 1)).2 := by
  have current := counted.midway proper
  refine ⟨current.allocated, current.lastIterate, fun leaf member reads => ?_, still.called⟩
  obtain ⟨after, kept, reached⟩ : ∃ after : Workspace S, (memory 1).2.criteria = after.criteria ∧
      Opened criterion.leaves criterion.leaves (inquiry 0).state.iterate (· = opening) after :=
    counted.opened proper still.opened
  refine (current.started leaf member reads).trans ?_
  change ((memory 1).2.criterion leaf.1).started = opening
  rw [criterion_of_criteria kept (kept ▸ counted.leaf_allocated 1 leaf member)]
  exact reached.started leaf member reads

theorem Counted.outcome_still {opening now : S} (proper : Proper criterion.nodes)
    (counted : criterion.Counted inquiry memory (done + 1))
    (still : Still memory opening now (done + 1)) :
    ((criterion.call (inquiry (done + 1))).run (memory (done + 1))).1 =
      ((criterion.verdict (stillScene inquiry opening now (done + 1)) {}).run
        (memory (done + 1)).1).1 :=
  counted.outcome_of_midway proper (Nat.succ_pos done) rfl (counted.midway_still proper still)

end Criterion

namespace Scene

variable {S : Type} [Scalar S]

def standstill (scene : Scene S) : Moment S where
  previous := scene.inquiry.state.iterate
  state := scene.inquiry.state
  iteration := scene.inquiry.iteration
  started := scene.started
  now := fun _ => scene.reading 0

end Scene

namespace Criterion

variable {S : Type} [Scalar S] {scene : Scene S} {progress : Progress}

omit [Scalar S] in
theorem renewed_past {called : List (Nat × StoppingTest S)}
    (renewed : ∀ leaf ∈ called, leaf.2.watchesIterate → leaf.1 ∈ progress.renewed)
    (earlier : List (Nat × StoppingTest S)) :
    ∀ leaf ∈ called, leaf.2.watchesIterate → leaf.1 ∈ (progress.past earlier).renewed :=
  fun leaf member watches => List.mem_append_left _ (renewed leaf member watches)

mutual

/-- Where all tests of the change in a tree were called before, the tree says what it says of an
iterate that does not move. A tree without such tests says this everywhere. -/
theorem verdict_of_renewed (still : ∀ later, scene.reading later = scene.reading 0) :
    ∀ (criterion : Criterion S) (progress : Progress),
      (∀ leaf ∈ criterion.leaves, leaf.2.watchesIterate → leaf.1 ∈ progress.renewed) →
      criterion.verdict scene progress = criterion.formula scene.inquiry.problem scene.standstill
  | .single number test, progress, renewed => by
      rw [verdict, formula]
      have known := renewed (number, test) (List.mem_singleton_self _)
      cases test with
      | change tolerance =>
          have again : number ∈ progress.renewed := known rfl
          simp only [StoppingTest.fulfilled, Scene.moment, Scene.standstill, if_pos again]
      | elapsed seconds =>
          simp only [StoppingTest.fulfilled, Scene.moment, Scene.standstill, still progress.readings]
      | iterations limit => rfl
      | gradientNorm tolerance => rfl
      | cost threshold => rfl
  | .set number connective members, progress, renewed => by
      rw [verdict, formula, verdicts_of_renewed still members progress renewed]

theorem verdicts_of_renewed (still : ∀ later, scene.reading later = scene.reading 0) :
    ∀ (members : List (Criterion S)) (progress : Progress),
      (∀ leaf ∈ leavesOfAll members, leaf.2.watchesIterate → leaf.1 ∈ progress.renewed) →
      verdicts scene progress members = formulas scene.inquiry.problem scene.standstill members
  | [], _, _ => by rw [verdicts, formulas]
  | first :: rest, progress, renewed => by
      rw [leavesOfAll] at renewed
      have firstRenewed : ∀ leaf ∈ first.leaves, leaf.2.watchesIterate →
          leaf.1 ∈ progress.renewed := fun leaf member =>
        renewed leaf (List.mem_append_left _ member)
      have restRenewed : ∀ leaf ∈ leavesOfAll rest, leaf.2.watchesIterate →
          leaf.1 ∈ (progress.past first.leaves).renewed :=
        renewed_past (fun leaf member => renewed leaf (List.mem_append_right _ member)) first.leaves
      rw [verdicts, formulas, verdict_of_renewed still first progress firstRenewed,
        verdicts_of_renewed still rest _ restRenewed]

end

theorem verdict_pair (criterion : Criterion S) (number : Nat) (connective : Connective) :
    (Criterion.set number connective [criterion, criterion]).verdict scene progress = do
      let first ← criterion.verdict scene progress
      let again ← criterion.verdict scene (progress.past criterion.leaves)
      return connective.holds [first, again] := by
  simp only [verdict, verdicts, bind_assoc, pure_bind]

/-- From its second place on, a criterion says what it says of an iterate that does not move. -/
theorem verdict_again (still : ∀ later, scene.reading later = scene.reading 0)
    (criterion : Criterion S) (earlier : List (Nat × StoppingTest S)) :
    criterion.verdict scene ((progress.past criterion.leaves).past earlier) =
      criterion.formula scene.inquiry.problem scene.standstill := by
  refine verdict_of_renewed still criterion _ (renewed_past ?_ earlier)
  intro leaf member watches
  exact List.mem_append_right _ (Stopping.mem_watchers.mpr ⟨leaf.2, member, watches⟩)

theorem verdict_of_unmoved (still : ∀ later, scene.reading later = scene.reading 0)
    {criterion : Criterion S}
    (unmoved : ∀ leaf ∈ criterion.leaves, leaf.2.watchesIterate = false) :
    criterion.verdict scene progress =
      criterion.formula scene.inquiry.problem scene.standstill := by
  refine verdict_of_renewed still criterion progress fun leaf member watches => ?_
  rw [unmoved leaf member] at watches
  cases watches

def verdictTwice (scene : Scene S) (connective : Connective) (criterion : Criterion S) :
    Compute S Bool := do
  let first ← criterion.verdict scene {}
  let again ← criterion.formula scene.inquiry.problem scene.standstill
  return connective.holds [first, again]

section Pairs

variable {criterion : Criterion S} {number : Nat} {connective : Connective}
  {inquiry : Nat → Inquiry S} {alone pair : Nat → Journal × Workspace S} {done : Nat}
  {opening now : S}
  (proper : Proper (Criterion.set number connective [criterion, criterion]).nodes)
  (aloneCounted : criterion.Counted inquiry alone (done + 1))
  (pairCounted :
    (Criterion.set number connective [criterion, criterion]).Counted inquiry pair (done + 1))
  (aloneStill : Still alone opening now (done + 1)) (pairStill : Still pair opening now (done + 1))
include proper aloneCounted pairCounted aloneStill pairStill

omit pairCounted pairStill in
theorem outcome_alone :
    ((criterion.call (inquiry (done + 1))).run (alone (done + 1))).1 =
      ((criterion.verdict (stillScene inquiry opening now (done + 1)) {}).run
        (alone (done + 1)).1).1 := by
  have aloneProper : Proper criterion.nodes := proper.mono fun node member => by
    rw [nodes, nodesOfAll]
    exact List.mem_cons_of_mem _ (List.mem_append_left _ member)
  exact aloneCounted.outcome_still aloneProper aloneStill

omit aloneCounted aloneStill in
theorem outcome_joined :
    (((Criterion.set number connective [criterion, criterion]).call (inquiry (done + 1))).run
        (pair (done + 1))).1 =
      ((verdictTwice (stillScene inquiry opening now (done + 1)) connective criterion).run
        (pair (done + 1)).1).1 := by
  have again : criterion.verdict (stillScene inquiry opening now (done + 1))
        (({} : Progress).past criterion.leaves) =
      criterion.formula (inquiry (done + 1)).problem
        (stillScene inquiry opening now (done + 1)).standstill := by
    rw [← Progress.past_nil (S := S) (({} : Progress).past criterion.leaves)]
    exact verdict_again (fun _ => rfl) criterion []
  rw [pairCounted.outcome_still proper pairStill, verdict_pair, again]
  rfl

/-- One criterion alone, joined with itself, and at any place of a tree. Places after the first one
do not repeat its verdict: there every change is measured from the iterate itself. Without a test of
the change in it the criterion says the same at all places. -/
theorem outcome_of_pair :
    ((criterion.call (inquiry (done + 1))).run (alone (done + 1))).1 =
      ((criterion.verdict (stillScene inquiry opening now (done + 1)) {}).run
        (alone (done + 1)).1).1 ∧
    (((Criterion.set number connective [criterion, criterion]).call (inquiry (done + 1))).run
        (pair (done + 1))).1 =
      ((verdictTwice (stillScene inquiry opening now (done + 1)) connective criterion).run
        (pair (done + 1)).1).1 ∧
    (∀ (progress : Progress) (earlier : List (Nat × StoppingTest S)),
      criterion.verdict (stillScene inquiry opening now (done + 1))
          ((progress.past criterion.leaves).past earlier) =
        criterion.formula (inquiry (done + 1)).problem
          (stillScene inquiry opening now (done + 1)).standstill) ∧
    ((∀ leaf ∈ criterion.leaves, leaf.2.watchesIterate = false) → ∀ progress,
      criterion.verdict (stillScene inquiry opening now (done + 1)) progress =
        criterion.formula (inquiry (done + 1)).problem
          (stillScene inquiry opening now (done + 1)).standstill) := by
  refine ⟨outcome_alone proper aloneCounted aloneStill, outcome_joined proper pairCounted pairStill,
    ?later, ?unmoved⟩
  case later =>
    intro progress earlier
    exact verdict_again (fun _ => rfl) criterion earlier
  case unmoved =>
    intro unmoved progress
    exact verdict_of_unmoved (fun _ => rfl) unmoved

end Pairs

def memoryOf (criterion : Criterion Int) : Nat → Journal × Workspace Int
  | 0 => ({}, { Sample.workspace with passage := fun _ shown => shown })
  | done + 1 => ((criterion.call (sampleInquiry done)).run (memoryOf criterion done)).2

def sampleChange : Criterion Int := .single 0 (.change 2)

def samplePair : Criterion Int := .set 1 .any [sampleChange, sampleChange]

theorem proper_samplePair : Proper samplePair.nodes := by
  constructor
  · intro left member right memberToo same
    simp only [samplePair, sampleChange, nodes, nodesOfAll, List.append_nil, List.cons_append,
      List.nil_append, List.mem_cons, List.not_mem_nil, or_false, or_self] at member memberToo
    rcases member with rfl | rfl <;> rcases memberToo with rfl | rfl <;> first | rfl | cases same
  · intro number connective member
    simp [samplePair, sampleChange, nodes, nodesOfAll] at member

theorem counted_memoryOf {criterion : Criterion Int}
    (allocated : ∀ number ∈ criterion.numbers, number < 6)
    (returned : ∀ earlier < 2,
      ((criterion.call (sampleInquiry earlier)).run (memoryOf criterion earlier)).1.isOk = true) :
    criterion.Counted sampleInquiry (memoryOf criterion) 2 where
  allocated := allocated
  kept := fun _ => rfl
  iteration := fun _ => rfl
  returned := fun earlier early => exists_ok_of_isOk (returned earlier early)

theorem still_of_passage {workspace : Workspace Int}
    (still : workspace.passage = fun _ shown => shown) (later : Nat) :
    workspace.reading later = workspace.clock := by
  induction later with
  | zero => rfl
  | succ later ih => rw [Workspace.reading, still, ih]

/-- The iterate moves from 0 to 9. The test whether it moves by less than 2 does not hold, and it
does hold when it is joined with itself. -/
theorem pair_of_sampleChange_differs :
    Proper samplePair.nodes ∧
    sampleChange.Counted sampleInquiry (memoryOf sampleChange) 2 ∧
    samplePair.Counted sampleInquiry (memoryOf samplePair) 2 ∧
    ((sampleChange.call (sampleInquiry 2)).run (memoryOf sampleChange 2)).1 = .ok false ∧
    ((samplePair.call (sampleInquiry 2)).run (memoryOf samplePair 2)).1 = .ok true :=
  ⟨proper_samplePair, counted_memoryOf (by decide) (by decide +kernel),
    counted_memoryOf (by decide) (by decide +kernel), rfl, rfl⟩

theorem still_memoryOf {criterion : Criterion Int}
    (passage : (memoryOf criterion 2).2.passage = fun _ shown => shown)
    (clock : (memoryOf criterion 2).2.clock = 0) : Still (memoryOf criterion) 0 0 2 where
  opened := fun later => still_of_passage rfl later
  called := fun later => (still_of_passage passage later).trans clock

theorem sampleChange_outcome_of_pair :
    Proper samplePair.nodes ∧
    sampleChange.Counted sampleInquiry (memoryOf sampleChange) 2 ∧
    samplePair.Counted sampleInquiry (memoryOf samplePair) 2 ∧
    Still (memoryOf sampleChange) 0 0 2 ∧ Still (memoryOf samplePair) 0 0 2 ∧
    ((samplePair.call (sampleInquiry 2)).run (memoryOf samplePair 2)).1 =
      ((verdictTwice (stillScene sampleInquiry 0 0 2) .any sampleChange).run
        (memoryOf samplePair 2).1).1 := by
  have aloneCounted : sampleChange.Counted sampleInquiry (memoryOf sampleChange) 2 :=
    counted_memoryOf (by decide) (by decide +kernel)
  have pairCounted : samplePair.Counted sampleInquiry (memoryOf samplePair) 2 :=
    counted_memoryOf (by decide) (by decide +kernel)
  have aloneStill : Still (memoryOf sampleChange) 0 0 2 := still_memoryOf rfl rfl
  have pairStill : Still (memoryOf samplePair) 0 0 2 := still_memoryOf rfl rfl
  exact ⟨proper_samplePair, aloneCounted, pairCounted, aloneStill, pairStill,
    (outcome_of_pair proper_samplePair aloneCounted pairCounted aloneStill pairStill).2.1⟩

end Criterion

end ProximalSplitting

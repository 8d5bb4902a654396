import ProximalSplitting.Proofs.Stopping.Merging

/-!
Sets of criteria of the same kind. Whether a set belongs to a set of its kind or its members do
makes no difference to who calls the tree: over all calls, the verdicts, the reasons of the tree and
the single criteria that were met are the same.
-/

namespace ProximalSplitting

open Effect Tracked

namespace Criterion

variable {S : Type} [Scalar S]

structure CalledAlike (old new : Criterion S) (inquiry : Nat → Inquiry S)
    (left right : Nat → Journal × Workspace S) : Prop where
  old : old.Calls inquiry left
  new : new.Calls inquiry right
  opened : (inquiry 0).iteration = 0
  length : (left 0).2.criteria.length = (right 0).2.criteria.length
  journal : ∀ done, (left done).1 = (right done).1
  reading : ∀ done later, (left done).2.reading later = (right done).2.reading later

def Interchangeable (old new : Criterion S) : Prop :=
  ∀ ⦃inquiry left right⦄, CalledAlike old new inquiry left right → ∀ done,
    old.told ((old.call (inquiry done)).run (left done)) =
      new.told ((new.call (inquiry done)).run (right done))

variable {old new : Criterion S} {inquiry : Nat → Inquiry S}
  {left right : Nat → Journal × Workspace S}

theorem Calls.belongs {criterion : Criterion S} {memory : Nat → Journal × Workspace S}
    (calls : criterion.Calls inquiry memory) (distinct : (criterion.leaves.map Prod.fst).Nodup)
    (proper : Proper criterion.nodes) (done : Nat) :
    BelongsTo criterion.nodes criterion.leaves (memory done).2 := by
  refine belongsTo_of_proper distinct proper fun number member => ?_
  rw [calls.length done]
  exact calls.allocated number member

/-- Whatever the criteria remember, a call with the iteration 0 makes them agree. -/
theorem Rearranges.opening (rearranges : Rearranges old new)
    (called : CalledAlike old new inquiry left right)
    (oldBelongs : BelongsTo old.nodes old.leaves (left 0).2)
    (newBelongs : BelongsTo new.nodes old.leaves (right 0).2) :
    ((old.call (inquiry 0)).run (left 0)).1 = ((new.call (inquiry 0)).run (right 0)).1 ∧
      Even old new ((old.call (inquiry 0)).run (left 0)).2
        ((new.call (inquiry 0)).run (right 0)).2 := by
  have start : Level old.leaves (right 0) (right 0) := ⟨.inl rfl, .refl _⟩
  have oldThere := oldBelongs.part (List.Sublist.refl _) called.length.symm
  have turned := rearranges.check (inquiry 0).problem (inquiry 0).state 0 oldThere newBelongs start
    fun fault failed => by rw [run_check_zero] at failed; cases failed
  have nothing : (left 0).2.Agree [] [] (right 0).2 :=
    ⟨called.length, called.reading 0, nofun, nofun, nofun⟩
  have renewed := agree_renew (inquiry 0).state.iterate old nothing
  rw [List.append_nil, List.append_nil] at renewed
  rw [call, call, called.opened]
  rw [run_check_zero _ _ old] at turned ⊢
  obtain ⟨sameOutcome, level, sameReason⟩ := turned
  have among : ∀ number ∈ old.leaves.map Prod.fst, number ∈ old.numbers := by
    intro number member
    obtain ⟨leaf, inside, rfl⟩ := List.mem_map.mp member
    exact number_mem_of_leaf inside
  have renewedLevel : Level old.leaves ((left 0).1, renew (inquiry 0).state.iterate old (left 0).2)
      ((right 0).1, renew (inquiry 0).state.iterate old (right 0).2) :=
    ⟨.inl (called.journal 0), renewed.mono among fun _ => id⟩
  refine ⟨sameOutcome, renewedLevel.trans level, ?_⟩
  exact (renewed.reason old.number old.number_mem_numbers).trans sameReason

theorem Calls.criterion_next {criterion : Criterion S} {memory : Nat → Journal × Workspace S}
    (calls : criterion.Calls inquiry memory) (done : Nat) {number : Nat}
    (inside : number ∈ criterion.numbers) :
    (memory (done + 1)).2.criterion number =
      ((criterion.call (inquiry done)).run (memory done)).2.2.criterion number := by
  apply Stopping.criterion_of_criteria (calls.kept done)
  rw [← calls.kept done, calls.length]
  exact calls.allocated number inside

/-- Between two calls only the clock moves, and it moves for both trees. -/
theorem CalledAlike.next (called : CalledAlike old new inquiry left right)
    (same : old.leaves = new.leaves) {done : Nat}
    (even : Even old new ((old.call (inquiry done)).run (left done)).2
      ((new.call (inquiry done)).run (right done)).2) :
    Even old new (left (done + 1)) (right (done + 1)) := by
  have oldLeaf : ∀ leaf ∈ old.leaves, (left (done + 1)).2.criterion leaf.1 =
      ((old.call (inquiry done)).run (left done)).2.2.criterion leaf.1 :=
    fun leaf member => called.old.criterion_next done (number_mem_of_leaf member)
  have newLeaf : ∀ leaf ∈ old.leaves, (right (done + 1)).2.criterion leaf.1 =
      ((new.call (inquiry done)).run (right done)).2.2.criterion leaf.1 :=
    fun leaf member => called.new.criterion_next done (number_mem_of_leaf (same ▸ member))
  have agree := even.level.2
  refine ⟨⟨.inl (called.journal _), ?_⟩, ?_⟩
  · constructor
    · rw [called.old.length, called.new.length, called.length]
    · exact called.reading (done + 1)
    · intro number member
      obtain ⟨leaf, inside, rfl⟩ := List.mem_map.mp member
      rw [oldLeaf leaf inside, newLeaf leaf inside, agree.reason leaf.1 member]
    · intro leaf inside watches
      rw [oldLeaf leaf inside, newLeaf leaf inside, agree.lastIterate leaf inside watches]
    · intro leaf inside reads
      rw [oldLeaf leaf inside, newLeaf leaf inside, agree.started leaf inside reads]
  · rw [called.old.criterion_next done old.number_mem_numbers,
      called.new.criterion_next done new.number_mem_numbers, even.reason]

theorem Rearranges.interchangeable (rearranges : Rearranges old new)
    (distinct : (old.leaves.map Prod.fst).Nodup) (oldProper : Proper old.nodes)
    (newProper : Proper new.nodes) : Interchangeable old new := by
  intro inquiry left right called done
  have oldBelongs := called.old.belongs distinct oldProper
  have newBelongs := called.new.belongs (rearranges.leaves ▸ distinct) newProper
  rw [← rearranges.leaves] at newBelongs
  have alike : ((old.call (inquiry done)).run (left done)).1 =
        ((new.call (inquiry done)).run (right done)).1 ∧
      Even old new ((old.call (inquiry done)).run (left done)).2
        ((new.call (inquiry done)).run (right done)).2 := by
    induction done with
    | zero => exact rearranges.opening called (oldBelongs 0) (newBelongs 0)
    | succ done ih =>
        have before := called.next rearranges.leaves ih.2
        exact rearranges.check _ _ _ (oldBelongs _) (newBelongs _) before.level
          fun _ _ => before.reason
  exact alike.2.told alike.1 rearranges.leaves

def joinings (connective : Connective) (first second third : Criterion S) :
    Watch S (Criterion S × Criterion S × Criterion S) := do
  let fromLeft ← join connective [first, second, third]
  let pair ← ofMembers connective [second, third]
  let fromRight ← ofMembers connective [first, pair]
  let together ← ofMembers connective [first, second, third]
  return (fromLeft, fromRight, together)

omit [Scalar S] in
theorem run_ofMembers (connective : Connective) (first : Criterion S) (rest : List (Criterion S))
    {before : Journal × Workspace S} {number : Nat} (reserved : before.2.criteria.length = number) :
    ∃ after, (ofMembers connective (first :: rest)).run before =
        (.ok (.set number connective (first :: rest)), after) ∧
      after.2.criteria.length = number + 1 := by
  subst reserved
  exact ⟨_, rfl, List.length_append⟩

omit [Scalar S] in
theorem run_joinings (connective : Connective) (first second third : Criterion S)
    (before : Journal × Workspace S) {number : Nat} (reserved : before.2.criteria.length = number) :
    ∃ after, (joinings connective first second third).run before =
      (.ok (.set (number + 1) connective [.set number connective [first, second], third],
        .set (number + 3) connective [first, .set (number + 2) connective [second, third]],
        .set (number + 4) connective [first, second, third]), after) := by
  obtain ⟨_, inner, reserved⟩ := run_ofMembers connective first [second] reserved
  obtain ⟨_, fromLeft, reserved⟩ :=
    run_ofMembers connective (.set number connective [first, second]) [third] reserved
  obtain ⟨_, pair, reserved⟩ := run_ofMembers connective second [third] reserved
  obtain ⟨_, fromRight, reserved⟩ :=
    run_ofMembers connective first [.set (number + 2) connective [second, third]] reserved
  obtain ⟨after, together, _⟩ := run_ofMembers connective first [second, third] reserved
  refine ⟨after, ?_⟩
  simp only [joinings, join, List.foldlM_cons, List.foldlM_nil, bind_pure, bind_assoc]
  rw [run_bind_of_ok inner, run_bind_of_ok fromLeft, run_bind_of_ok pair, run_bind_of_ok fromRight,
    run_bind_of_ok together]
  rfl

omit [Scalar S] in
theorem Proper.cons {nodes : List (Criterion S)} (proper : Proper nodes) {number : Nat}
    (fresh : ∀ node ∈ nodes, node.number ≠ number) (connective : Connective)
    {members : List (Criterion S)} (inhabited : members ≠ []) :
    Proper (.set number connective members :: nodes) where
  identified := by
    intro left member right memberToo same
    rcases List.mem_cons.mp member with rfl | inside
    · rcases List.mem_cons.mp memberToo with rfl | insideToo
      · rfl
      · exact absurd same.symm (fresh right insideToo)
    · rcases List.mem_cons.mp memberToo with rfl | insideToo
      · exact absurd same (fresh left inside)
      · exact proper.identified left inside right insideToo same
  inhabited := by
    intro other otherConnective member
    rcases List.mem_cons.mp member with same | inside
    · cases same
      exact inhabited rfl
    · exact proper.inhabited other otherConnective inside

section Joinings

variable (connective : Connective) {first second third : Criterion S} {reserved : Nat}
  (proper : Proper (nodesOfAll [first, second, third]))
  (allocated : ∀ node ∈ nodesOfAll [first, second, third], node.number < reserved)
include proper allocated

omit [Scalar S] in
theorem proper_joined {root : Nat} (fresh : reserved ≤ root) {members : List (Criterion S)}
    (inhabited : members ≠ []) :
    Proper (.set root connective members :: nodesOfAll [first, second, third]) := by
  refine proper.cons (fun node member => ?_) connective inhabited
  have below := allocated node member
  omega

omit [Scalar S] in
theorem proper_nested {root inner : Nat} (innerFresh : reserved ≤ inner) (rootFresh : inner < root)
    {members pair : List (Criterion S)} (inhabited : members ≠ []) (inhabitedPair : pair ≠ []) :
    Proper (.set root connective members :: .set inner connective pair ::
      nodesOfAll [first, second, third]) := by
  refine (proper_joined connective proper allocated innerFresh inhabitedPair).cons
    (fun node member => ?_) connective inhabited
  rcases List.mem_cons.mp member with rfl | inside
  · exact Nat.ne_of_lt rootFresh
  · have below := allocated node inside
    omega

omit [Scalar S] in
theorem proper_fromLeft {root inner : Nat} (innerFresh : reserved ≤ inner)
    (rootFresh : inner < root) :
    Proper (Criterion.set root connective
      [.set inner connective [first, second], third]).nodes := by
  have nested : Proper (.set root connective [.set inner connective [first, second], third] ::
      .set inner connective [first, second] :: nodesOfAll [first, second, third]) :=
    proper_nested connective proper allocated innerFresh rootFresh (List.cons_ne_nil _ _)
      (List.cons_ne_nil _ _)
  refine nested.mono fun criterion member => ?_
  simpa [nodes, nodesOfAll, or_assoc] using member

omit [Scalar S] in
theorem proper_fromRight {root inner : Nat} (innerFresh : reserved ≤ inner)
    (rootFresh : inner < root) :
    Proper (Criterion.set root connective
      [first, .set inner connective [second, third]]).nodes := by
  have nested : Proper (.set root connective [first, .set inner connective [second, third]] ::
      .set inner connective [second, third] :: nodesOfAll [first, second, third]) :=
    proper_nested connective proper allocated innerFresh rootFresh (List.cons_ne_nil _ _)
      (List.cons_ne_nil _ _)
  refine nested.mono fun criterion member => ?_
  simpa [nodes, nodesOfAll, or_left_comm] using member

end Joinings

/-- A set that belongs to a set of its kind may as well give way to its members: whoever calls the
tree gets to know the same. So three criteria may be joined from the left, from the right or at
once. -/
theorem nesting_is_immaterial :
    (∀ {old new : Criterion S}, Merges old new → (old.leaves.map Prod.fst).Nodup →
      Proper old.nodes → Proper new.nodes → Interchangeable old new) ∧
    ∀ (connective : Connective) (first second third : Criterion S) (before : Journal × Workspace S),
      ((leavesOfAll [first, second, third]).map Prod.fst).Nodup →
      Proper (nodesOfAll [first, second, third]) →
      (∀ number ∈ numbersOfAll [first, second, third], number < before.2.criteria.length) →
      ∃ fromLeft fromRight together after,
        (joinings connective first second third).run before =
          (.ok (fromLeft, fromRight, together), after) ∧
        Interchangeable fromLeft fromRight ∧ Interchangeable fromLeft together ∧
        Interchangeable fromRight together := by
  constructor
  · intro old new merges distinct oldProper newProper
    exact merges.rearranges.interchangeable distinct oldProper newProper
  · intro connective first second third before distinct proper allocated
    have below : ∀ node ∈ nodesOfAll [first, second, third],
        node.number < before.2.criteria.length := by
      intro node member
      apply allocated
      rw [← map_number_nodesOfAll]
      exact List.mem_map_of_mem member
    obtain ⟨number, reserved⟩ : ∃ number, before.2.criteria.length = number := ⟨_, rfl⟩
    rw [reserved] at below
    obtain ⟨after, joined⟩ := run_joinings connective first second third before reserved
    have fromLeft := (Merges.here (number + 1) (number + 4) number connective []
      [first, second] [third]).rearranges
    have fromRight := (Merges.here (number + 3) (number + 4) (number + 2) connective [first]
      [second, third] []).rearranges
    have distinctLeft : ((Criterion.set (number + 1) connective
        [.set number connective [first, second], third]).leaves.map Prod.fst).Nodup := by
      simpa [leaves, leavesOfAll] using distinct
    have distinctRight : ((Criterion.set (number + 3) connective
        [first, .set (number + 2) connective [second, third]]).leaves.map Prod.fst).Nodup := by
      simpa [leaves, leavesOfAll] using distinct
    have properLeft := proper_fromLeft connective proper below (Nat.le_refl _) (Nat.lt_succ_self _)
    have properRight := proper_fromRight connective proper below (Nat.le_add_right number 2)
      (Nat.lt_succ_self _)
    have properTogether : Proper (Criterion.set (number + 4) connective
        [first, second, third]).nodes := by
      rw [nodes]
      exact proper_joined connective proper below (Nat.le_add_right number 4) (List.cons_ne_nil _ _)
    refine ⟨_, _, _, after, joined, ?_, ?_, ?_⟩
    · exact (fromLeft.swap fromRight).interchangeable distinctLeft properLeft properRight
    · exact fromLeft.interchangeable distinctLeft properLeft properTogether
    · exact fromRight.interchangeable distinctRight properRight properTogether

section Sample

def sampleNested : Criterion Int :=
  .set 5 .any [.single 0 (.iterations (.integer 4)),
    .set 4 .any [.single 1 (.change 2), .single 3 (.elapsed 0)], .single 2 (.cost 8)]

def sampleFlat : Criterion Int :=
  .set 5 .any [.single 0 (.iterations (.integer 4)), .single 1 (.change 2), .single 3 (.elapsed 0),
    .single 2 (.cost 8)]

def sampleCalls (criterion : Criterion Int) : Nat → Journal × Workspace Int
  | 0 => ({}, Sample.workspace)
  | done + 1 =>
      ({}, { Sample.workspace with
        criteria :=
          ((criterion.call (sampleInquiry done)).run (sampleCalls criterion done)).2.2.criteria })

theorem reading_of_seconds {workspace : Workspace Int} (clock : workspace.clock = 0)
    (passage : workspace.passage = fun _ shown => shown + 1) (later : Nat) :
    workspace.reading later = later := by
  induction later with
  | zero => exact clock
  | succ later ih =>
      rw [Workspace.reading, ih, passage]
      rfl

theorem reading_sampleCalls (criterion : Criterion Int) (done later : Nat) :
    (sampleCalls criterion done).2.reading later = later := by
  cases done with
  | zero => exact reading_of_seconds rfl rfl later
  | succ done => exact reading_of_seconds rfl rfl later

theorem calls_sampleCalls {criterion : Criterion Int}
    (allocated : ∀ number ∈ criterion.numbers, number < 6) :
    criterion.Calls sampleInquiry (sampleCalls criterion) where
  allocated := allocated
  kept := fun _ => rfl

theorem journal_sampleCalls (criterion : Criterion Int) (done : Nat) :
    (sampleCalls criterion done).1 = {} := by
  cases done with
  | zero => rfl
  | succ done => rfl

theorem calledAlike_sample : CalledAlike sampleNested sampleFlat sampleInquiry
    (sampleCalls sampleNested) (sampleCalls sampleFlat) where
  old := calls_sampleCalls (by decide)
  new := calls_sampleCalls (by decide)
  opened := rfl
  length := rfl
  journal := fun done => by rw [journal_sampleCalls, journal_sampleCalls]
  reading := fun done later => by rw [reading_sampleCalls, reading_sampleCalls]

theorem proper_sampleNested : Proper sampleNested.nodes :=
  .of_distinct (by decide) fun number connective member => by
    simp [sampleNested, nodes, nodesOfAll] at member

theorem proper_sampleFlat : Proper sampleFlat.nodes :=
  .of_distinct (by decide) fun number connective member => by
    simp [sampleFlat, nodes, nodesOfAll] at member

def sampleMembers : List (Criterion Int) :=
  [.single 0 (.iterations (.integer 4)), .single 2 (.cost 8),
    .set 4 .all [.single 1 (.change 2), .single 3 (.elapsed 0)]]

theorem proper_sampleMembers : Proper (nodesOfAll sampleMembers) :=
  .of_distinct (by decide) fun number connective member => by
    simp [sampleMembers, nodes, nodesOfAll] at member

theorem sample_nesting_is_immaterial :
    (Merges sampleNested sampleFlat ∧ (sampleNested.leaves.map Prod.fst).Nodup ∧
      Proper sampleNested.nodes ∧ Proper sampleFlat.nodes ∧
      CalledAlike sampleNested sampleFlat sampleInquiry (sampleCalls sampleNested)
        (sampleCalls sampleFlat) ∧
      ∀ done, sampleNested.told ((sampleNested.call (sampleInquiry done)).run
          (sampleCalls sampleNested done)) =
        sampleFlat.told ((sampleFlat.call (sampleInquiry done)).run
          (sampleCalls sampleFlat done))) ∧
    ((leavesOfAll sampleMembers).map Prod.fst).Nodup ∧ Proper (nodesOfAll sampleMembers) ∧
      (∀ number ∈ numbersOfAll sampleMembers, number < Sample.workspace.criteria.length) ∧
      ∃ fromLeft fromRight together after,
        (joinings .all (.single 0 (.iterations (.integer 4))) (.single 2 (.cost 8))
            (.set 4 .all [.single 1 (.change 2), .single 3 (.elapsed 0)])).run
              ({}, Sample.workspace) =
          (.ok (fromLeft, fromRight, together), after) ∧
        Interchangeable fromLeft fromRight ∧ Interchangeable fromLeft together ∧
        Interchangeable fromRight together := by
  have merges : Merges sampleNested sampleFlat :=
    .here 5 5 4 .any [.single 0 (.iterations (.integer 4))]
      [.single 1 (.change 2), .single 3 (.elapsed 0)] [.single 2 (.cost 8)]
  have distinct : (sampleNested.leaves.map Prod.fst).Nodup := by decide
  have distinctMembers : ((leavesOfAll sampleMembers).map Prod.fst).Nodup := by decide
  have allocated : ∀ number ∈ numbersOfAll sampleMembers,
      number < Sample.workspace.criteria.length := by decide
  exact ⟨⟨merges, distinct, proper_sampleNested, proper_sampleFlat, calledAlike_sample,
      nesting_is_immaterial.1 merges distinct proper_sampleNested proper_sampleFlat
        calledAlike_sample⟩,
    distinctMembers, proper_sampleMembers, allocated,
    nesting_is_immaterial.2 .all _ _ _ _ distinctMembers proper_sampleMembers allocated⟩

end Sample

end Criterion

end ProximalSplitting

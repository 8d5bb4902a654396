import ProximalSplitting.Proofs.Stopping.Midway

/-!
A tree of criteria in the course of a reset. What has been reached remembers the iterate of the
reset or a reading of the clock, also if it is reached again.
-/

namespace ProximalSplitting

open Effect Tracked

namespace Stopping

variable {S : Type} [Scalar S] {leaves : List (Nat × StoppingTest S)} {before after : Workspace S}

structure Opened (leaves reached : List (Nat × StoppingTest S)) (iterate : Point S)
    (shown : S → Prop) (workspace : Workspace S) : Prop where
  allocated : ∀ leaf ∈ leaves, leaf.1 < workspace.criteria.length
  lastIterate : ∀ leaf ∈ reached, leaf.2.watchesIterate →
    (workspace.criterion leaf.1).lastIterate = some iterate
  started : ∀ leaf ∈ reached, leaf.2.readsClock → shown (workspace.criterion leaf.1).started
  reading : ∀ later, shown (workspace.reading later)

section Opening

variable {reached : List (Nat × StoppingTest S)} {iterate : Point S} {shown : S → Prop}
  {problem : Problem S} {state : SolverState S}

omit [Scalar S] in
theorem Opened.passed {called : List (Nat × StoppingTest S)} {started : Nat → S}
    (identified : Identified leaves) (reachedAmong : ∀ leaf ∈ reached, leaf ∈ leaves)
    (among : ∀ leaf ∈ called, leaf ∈ leaves)
    (opened : Opened leaves reached iterate shown before)
    (starts : ∀ number, shown (started number))
    (passed : Passed called iterate started before after) :
    Opened leaves (reached ++ called) iterate shown after where
  allocated := fun leaf member => by
    rw [passed.length]
    exact opened.allocated leaf member
  lastIterate := by
    intro leaf member watches
    rcases List.mem_append.mp member with earlier | inside
    · have inTree := reachedAmong leaf earlier
      rcases passed.reached_or_kept identified among inTree (opened.allocated leaf inTree) with
        inside | ⟨_, kept, _⟩
      · exact passed.remembers.lastIterate leaf inside watches
      · rw [kept]
        exact opened.lastIterate leaf earlier watches
    · exact passed.remembers.lastIterate leaf inside watches
  started := by
    have now : ∀ leaf ∈ called, leaf.2.readsClock → shown (after.criterion leaf.1).started := by
      intro leaf inside reads
      rw [passed.remembers.started leaf inside reads]
      exact starts leaf.1
    intro leaf member reads
    rcases List.mem_append.mp member with earlier | inside
    · have inTree := reachedAmong leaf earlier
      rcases passed.reached_or_kept identified among inTree (opened.allocated leaf inTree) with
        inside | ⟨_, _, kept⟩
      · exact now leaf inside reads
      · rw [kept]
        exact opened.started leaf earlier reads
    · exact now leaf inside reads
  reading := fun later => by
    rw [passed.reading]
    exact opened.reading _

theorem check_single_opening {number : Nat} {test : StoppingTest S}
    (identified : Identified leaves) (reachedAmong : ∀ leaf ∈ reached, leaf ∈ leaves)
    (among : (number, test) ∈ leaves)
    (opened : Opened leaves reached state.iterate shown before) :
    Computes (Criterion.checkTest problem state number test 0) (pure false) before
      (Opened leaves (reached ++ [(number, test)]) state.iterate shown) := by
  have displays : Shows [(number, test)] (fun _ => before.clock) before := by
    by_cases reads : test.readsClock
    · simp [Shows, clocks, reads, Workspace.reading]
    · simp [Shows, clocks, reads]
  have called : Computes (Criterion.checkTest problem state number test 0) (pure false) before
      (Passed [(number, test)] state.iterate (fun _ => before.clock) before) :=
    check_single_zero (opened.allocated _ among) displays
  exact called.mono fun after passed => opened.passed identified reachedAmong
    (by simpa using among) (fun _ => opened.reading 0) passed

mutual

theorem check_opening (identified : Identified leaves) :
    ∀ (criterion : Criterion S) (reached : List (Nat × StoppingTest S)) (before : Workspace S),
      (∀ leaf ∈ reached, leaf ∈ leaves) → (∀ leaf ∈ criterion.leaves, leaf ∈ leaves) →
      Opened leaves reached state.iterate shown before →
      Computes (criterion.check problem state 0) (pure false) before
        (Opened leaves (reached ++ criterion.leaves) state.iterate shown)
  | .single number test, reached, before, reachedAmong, among, opened => by
      rw [Criterion.check]
      exact check_single_opening identified reachedAmong (among _ (List.mem_singleton_self _)) opened
  | .set number connective members, reached, before, reachedAmong, among, opened => by
      rw [run_check_set]
      refine Computes.bind (fun _ => pure false) (checkEach_opening identified members reached
        before reachedAmong among opened) ?_
      intro values middle called journal
      refine ⟨middle.changeCriterion number fun memory => { memory with reason := "" }, rfl,
        fun _ _ => ?_⟩
      have unchanged := (Passed.nil state.iterate (fun _ => middle.clock) middle).setReason number ""
      rw [Criterion.leaves, ← List.append_nil (reached ++ _)]
      exact called.passed identified (List.forall_mem_append.mpr ⟨reachedAmong, among⟩) (by simp)
        (fun _ => called.reading 0) unchanged

theorem checkEach_opening (identified : Identified leaves) :
    ∀ (members : List (Criterion S)) (reached : List (Nat × StoppingTest S))
      (before : Workspace S), (∀ leaf ∈ reached, leaf ∈ leaves) →
      (∀ leaf ∈ Criterion.leavesOfAll members, leaf ∈ leaves) →
      Opened leaves reached state.iterate shown before →
      Computes (Criterion.checkEach problem state members 0)
        (pure (members.map fun _ => false)) before
        (Opened leaves (reached ++ Criterion.leavesOfAll members) state.iterate shown)
  | [], reached, before, _, _, opened => by
      rw [Criterion.checkEach, Criterion.leavesOfAll, List.append_nil]
      exact fun journal => ⟨before, rfl, fun _ _ => opened⟩
  | first :: rest, reached, before, reachedAmong, among, opened => by
      rw [Criterion.checkEach, Criterion.leavesOfAll, ← List.append_assoc]
      rw [Criterion.leavesOfAll] at among
      have firstAmong : ∀ leaf ∈ first.leaves, leaf ∈ leaves := fun leaf member =>
        among leaf (List.mem_append_left _ member)
      have bothAmong : ∀ leaf ∈ reached ++ first.leaves, leaf ∈ leaves :=
        List.forall_mem_append.mpr ⟨reachedAmong, firstAmong⟩
      refine Computes.bind (fun value => pure (value :: rest.map fun _ => false))
        (check_opening identified first reached before reachedAmong firstAmong opened) ?_
      intro value middle called
      refine Computes.bind (fun values => pure (value :: values))
        (checkEach_opening identified rest _ middle bothAmong
          (fun leaf member => among leaf (List.mem_append_right _ member)) called) ?_
      exact fun values after calledToo journal => ⟨after, rfl, fun _ _ => calledToo⟩

end

end Opening

end Stopping

end ProximalSplitting

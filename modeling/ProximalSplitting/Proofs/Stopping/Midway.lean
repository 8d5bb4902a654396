import ProximalSplitting.Proofs.Stopping.Reasons

/-!
A tree of criteria in the course of a call. A place is called with the memory that the places before
it have left, whether or not they hold the same criterion. There a test of the change knows the
iterate of this call already, and a test of the time reads the clock later.
-/

namespace ProximalSplitting

open Effect Tracked

namespace Stopping

variable {S : Type}

def watchers (leaves : List (Nat × StoppingTest S)) : List Nat :=
  (leaves.filter fun leaf => leaf.2.watchesIterate).map Prod.fst

def Identified (leaves : List (Nat × StoppingTest S)) : Prop :=
  ∀ left ∈ leaves, ∀ right ∈ leaves, left.1 = right.1 → left = right

theorem mem_watchers {leaves : List (Nat × StoppingTest S)} {number : Nat} :
    number ∈ watchers leaves ↔ ∃ test, (number, test) ∈ leaves ∧ test.watchesIterate = true := by
  simp [watchers]

theorem watchers_append (first rest : List (Nat × StoppingTest S)) :
    watchers (first ++ rest) = watchers first ++ watchers rest := by
  simp [watchers]

end Stopping

structure Progress where
  renewed : List Nat := []
  readings : Nat := 0

namespace Progress

variable {S : Type}

def past (progress : Progress) (leaves : List (Nat × StoppingTest S)) : Progress where
  renewed := progress.renewed ++ Stopping.watchers leaves
  readings := progress.readings + (Stopping.clocks leaves).length

theorem past_nil (progress : Progress) :
    progress.past ([] : List (Nat × StoppingTest S)) = progress := by
  simp [past, Stopping.watchers, Stopping.clocks]

theorem past_append (progress : Progress) (first rest : List (Nat × StoppingTest S)) :
    progress.past (first ++ rest) = (progress.past first).past rest := by
  simp [past, Stopping.watchers_append, Stopping.clocks_append, Nat.add_assoc]

end Progress

structure Scene (S : Type) [Scalar S] where
  inquiry : Inquiry S
  previous : Point S
  started : Nat → S
  reading : Nat → S

namespace Scene

variable {S : Type} [Scalar S]

def moment (scene : Scene S) (progress : Progress) (number : Nat) : Moment S where
  previous :=
    if number ∈ progress.renewed then scene.inquiry.state.iterate else scene.previous
  state := scene.inquiry.state
  iteration := scene.inquiry.iteration
  started := scene.started
  now := fun _ => scene.reading progress.readings

end Scene

namespace Criterion

variable {S : Type} [Scalar S]

mutual

def verdict (scene : Scene S) (progress : Progress) : Criterion S → Compute S Bool
  | .single number test =>
      test.fulfilled scene.inquiry.problem (scene.moment progress number) number
  | .set _ connective members => do
      let values ← verdicts scene progress members
      return connective.holds values

def verdicts (scene : Scene S) (progress : Progress) :
    List (Criterion S) → Compute S (List Bool)
  | [] => return []
  | first :: rest => do
      let value ← verdict scene progress first
      let later ← verdicts scene (progress.past first.leaves) rest
      return value :: later

end

end Criterion

namespace Stopping

variable {S : Type} [Scalar S]

structure Midway (leaves : List (Nat × StoppingTest S)) (scene : Scene S) (progress : Progress)
    (workspace : Workspace S) : Prop where
  allocated : ∀ leaf ∈ leaves, leaf.1 < workspace.criteria.length
  lastIterate : ∀ leaf ∈ leaves, leaf.2.watchesIterate →
    (workspace.criterion leaf.1).lastIterate = some (scene.moment progress leaf.1).previous
  started : ∀ leaf ∈ leaves, leaf.2.readsClock →
    (workspace.criterion leaf.1).started = scene.started leaf.1
  reading : ∀ later, workspace.reading later = scene.reading (progress.readings + later)

variable {leaves : List (Nat × StoppingTest S)} {scene : Scene S} {progress : Progress}
  {before after : Workspace S}

omit [Scalar S] in
theorem Passed.reached_or_kept {called : List (Nat × StoppingTest S)} {iterate : Point S}
    {started : Nat → S} (identified : Identified leaves)
    (among : ∀ leaf ∈ called, leaf ∈ leaves) (passed : Passed called iterate started before after)
    {leaf : Nat × StoppingTest S} (member : leaf ∈ leaves)
    (allocated : leaf.1 < before.criteria.length) :
    leaf ∈ called ∨ leaf.1 ∉ called.map Prod.fst ∧
      (after.criterion leaf.1).lastIterate = (before.criterion leaf.1).lastIterate ∧
      (after.criterion leaf.1).started = (before.criterion leaf.1).started := by
  by_cases again : leaf.1 ∈ called.map Prod.fst
  · obtain ⟨same, inside, number⟩ := List.mem_map.mp again
    obtain rfl := identified same (among same inside) leaf member number
    exact .inl inside
  · exact .inr ⟨again, passed.others leaf.1 again allocated⟩

/-- What has been called since knows the iterate of the call, and the others what they knew. -/
theorem Midway.passed {called : List (Nat × StoppingTest S)}
    (identified : Identified leaves) (among : ∀ leaf ∈ called, leaf ∈ leaves)
    (midway : Midway leaves scene progress before)
    (passed : Passed called scene.inquiry.state.iterate scene.started before after) :
    Midway leaves scene (progress.past called) after where
  allocated := fun leaf member => by
    rw [passed.length]
    exact midway.allocated leaf member
  lastIterate := by
    intro leaf member watches
    rcases passed.reached_or_kept identified among member (midway.allocated leaf member) with
      inside | ⟨outside, kept, _⟩
    · have renewed : leaf.1 ∈ (progress.past called).renewed :=
        List.mem_append_right _ (mem_watchers.mpr ⟨leaf.2, inside, watches⟩)
      rw [Scene.moment, if_pos renewed]
      exact passed.remembers.lastIterate leaf inside watches
    · have notRenewed : leaf.1 ∉ watchers called := by
        intro inside
        obtain ⟨test, found, _⟩ := mem_watchers.mp inside
        exact outside (List.mem_map.mpr ⟨_, found, rfl⟩)
      rw [kept, midway.lastIterate leaf member watches]
      simp [Scene.moment, Progress.past, notRenewed]
  started := by
    intro leaf member reads
    rcases passed.reached_or_kept identified among member (midway.allocated leaf member) with
      inside | ⟨_, _, kept⟩
    · exact passed.remembers.started leaf inside reads
    · rw [kept]
      exact midway.started leaf member reads
  reading := by
    intro later
    rw [passed.reading, midway.reading, Progress.past, Nat.add_assoc]

omit [Scalar S] in
theorem Computes.mono {α : Type} {computation : Watch S α} {figure : Compute S α}
    {property weaker : Workspace S → Prop} (computes : Computes computation figure before property)
    (implied : ∀ workspace, property workspace → weaker workspace) :
    Computes computation figure before weaker := by
  intro journal
  obtain ⟨workspace, ran, holds⟩ := computes journal
  exact ⟨workspace, ran, fun value found => implied workspace (holds value found)⟩

omit [Scalar S] in
theorem Computes.of_returned {α : Type} {computation : Watch S α} {figure : Compute S α}
    {property : Workspace S → Prop} {journal : Journal} {value : α}
    {after : Journal × Workspace S} (computes : Computes computation figure before property)
    (returned : computation.run (journal, before) = (.ok value, after)) : property after.2 := by
  obtain ⟨workspace, ran, holds⟩ := computes journal
  rw [returned, Prod.mk.injEq] at ran
  obtain ⟨found, rfl⟩ := ran
  exact holds value found.symm

theorem check_single_midway {number : Nat} {test : StoppingTest S}
    (later : 0 < scene.inquiry.iteration) (identified : Identified leaves)
    (among : (number, test) ∈ leaves) (midway : Midway leaves scene progress before) :
    Computes (Criterion.checkTest scene.inquiry.problem scene.inquiry.state number test
        scene.inquiry.iteration)
      (test.fulfilled scene.inquiry.problem (scene.moment progress number) number) before
      (Midway leaves scene (progress.past [(number, test)])) := by
  have remembers : Remembers [(number, test)] (scene.moment progress number).previous
      scene.started before := by
    constructor
    · intro leaf member
      cases List.mem_singleton.mp member
      exact midway.lastIterate _ among
    · intro leaf member
      cases List.mem_singleton.mp member
      exact midway.started _ among
  have shown : Shows [(number, test)] (scene.moment progress number).now before := by
    by_cases reads : test.readsClock
    · simp [Shows, clocks, reads, Scene.moment, midway.reading 0]
    · simp [Shows, clocks, reads]
  have called : Computes (Criterion.checkTest scene.inquiry.problem scene.inquiry.state number test
        scene.inquiry.iteration)
      (test.fulfilled scene.inquiry.problem (scene.moment progress number) number) before
      (Passed [(number, test)] scene.inquiry.state.iterate scene.started before) :=
    check_single (by omega : scene.inquiry.iteration ≠ 0) (midway.allocated _ among) remembers shown
  exact called.mono fun after passed =>
    midway.passed identified (by simpa using among) passed

mutual

/-- Each place of a tree answers with its verdict at the progress that the call has made there. -/
theorem check_midway (later : 0 < scene.inquiry.iteration) (identified : Identified leaves) :
    ∀ (criterion : Criterion S) (progress : Progress) (before : Workspace S),
      (∀ leaf ∈ criterion.leaves, leaf ∈ leaves) → Midway leaves scene progress before →
      Computes (criterion.check scene.inquiry.problem scene.inquiry.state scene.inquiry.iteration)
        (criterion.verdict scene progress) before
        (Midway leaves scene (progress.past criterion.leaves))
  | .single number test, progress, before, among, midway => by
      rw [Criterion.check, Criterion.verdict]
      exact check_single_midway later identified (among _ (List.mem_singleton_self _)) midway
  | .set number connective members, progress, before, among, midway => by
      rw [run_check_set, Criterion.verdict]
      refine Computes.bind _ (checkEach_midway later identified members progress before among
        midway) ?_
      intro values middle called journal
      -- The set writes its reason, which no test looks at.
      rw [decide_eq_true later, Bool.true_and]
      let reason := if connective.holds values then
        Criterion.joinedReasons middle members values else ""
      refine ⟨middle.changeCriterion number fun memory => { memory with reason }, rfl,
        fun _ _ => ?_⟩
      have unchanged := (Passed.nil scene.inquiry.state.iterate scene.started middle).setReason
        number reason
      rw [Criterion.leaves, ← Progress.past_nil (S := S) (progress.past _)]
      exact called.passed identified (by simp) unchanged

theorem checkEach_midway (later : 0 < scene.inquiry.iteration) (identified : Identified leaves) :
    ∀ (members : List (Criterion S)) (progress : Progress) (before : Workspace S),
      (∀ leaf ∈ Criterion.leavesOfAll members, leaf ∈ leaves) →
      Midway leaves scene progress before →
      Computes (Criterion.checkEach scene.inquiry.problem scene.inquiry.state members
          scene.inquiry.iteration)
        (Criterion.verdicts scene progress members) before
        (Midway leaves scene (progress.past (Criterion.leavesOfAll members)))
  | [], progress, before, _, midway => by
      rw [Criterion.checkEach, Criterion.verdicts, Criterion.leavesOfAll, Progress.past_nil]
      exact fun journal => ⟨before, rfl, fun _ _ => midway⟩
  | first :: rest, progress, before, among, midway => by
      -- The rest starts where the first member has come to, whether or not it calls it again.
      rw [Criterion.checkEach, Criterion.verdicts, Criterion.leavesOfAll, Progress.past_append]
      rw [Criterion.leavesOfAll] at among
      refine Computes.bind _ (check_midway later identified first progress before
        (fun leaf member => among leaf (List.mem_append_left _ member)) midway) ?_
      intro value middle called
      refine Computes.bind _ (checkEach_midway later identified rest _ middle
        (fun leaf member => among leaf (List.mem_append_right _ member)) called) ?_
      exact fun values after calledToo journal => ⟨after, rfl, fun _ _ => calledToo⟩

end

end Stopping

end ProximalSplitting

import ProximalSplitting.Proofs.Stopping.Test

/-!
A tree of criteria as a formula. Read at one moment of a run, every single criterion is a statement
about the iterate, the one before it and two readings of the clock, and a tree joins the statements
by "all" and "any". A check computes this formula if the memories of the tree are current, and it
leaves them current for the next check.
-/

namespace ProximalSplitting

structure Moment (S : Type) where
  previous : Point S
  state : SolverState S
  iteration : Int
  started : Nat → S
  now : Nat → S

namespace StoppingTest

variable {S : Type} [Scalar S]

def fulfilled (problem : Problem S) (moment : Moment S) (number : Nat) :
    StoppingTest S → Compute S Bool
  | .iterations limit => pure (limit.reachedBy? moment.iteration = some true)
  | .change tolerance => do
      let manifold ← moment.state.manifoldOf problem
      let distance ← manifold.geometry.dist moment.previous moment.state.iterate
      return Scalar.less distance tolerance
  | .gradientNorm tolerance => do
      let gradient ← match moment.state.gradient? with
        | some gradient => pure gradient
        | none => problem.grad moment.state.iterate
      let manifold ← moment.state.manifoldOf problem
      let length ← manifold.geometry.norm moment.state.iterate gradient
      return Scalar.less length tolerance
  | .cost threshold => do
      let cost ← problem.cost moment.state.iterate
      return Scalar.less cost threshold
  | .elapsed seconds => pure (Scalar.less seconds (moment.now number - moment.started number))

end StoppingTest

namespace Criterion

variable {S : Type} [Scalar S]

mutual

def formula (problem : Problem S) (moment : Moment S) : Criterion S → Compute S Bool
  | .single number test => test.fulfilled problem moment number
  | .set _ connective members => do
      let values ← formulas problem moment members
      return connective.holds values

def formulas (problem : Problem S) (moment : Moment S) :
    List (Criterion S) → Compute S (List Bool)
  | [] => return []
  | first :: rest => do
      let value ← formula problem moment first
      let later ← formulas problem moment rest
      return value :: later

end

end Criterion

namespace Criterion

variable {S : Type}

mutual

def leaves : Criterion S → List (Nat × StoppingTest S)
  | .single number test => [(number, test)]
  | .set _ _ members => leavesOfAll members

def leavesOfAll : List (Criterion S) → List (Nat × StoppingTest S)
  | [] => []
  | first :: rest => leaves first ++ leavesOfAll rest

end

structure Separate (criterion : Criterion S) (workspace : Workspace S) : Prop where
  distinct : (criterion.leaves.map Prod.fst).Nodup
  allocated : ∀ leaf ∈ criterion.leaves, leaf.1 < workspace.criteria.length

end Criterion

namespace Stopping

variable {S : Type}

def clocks (leaves : List (Nat × StoppingTest S)) : List Nat :=
  (leaves.filter fun leaf => leaf.2.readsClock).map Prod.fst

def readingOf (leaves : List (Nat × StoppingTest S)) (workspace : Workspace S)
    (number : Nat) : S :=
  workspace.reading ((clocks leaves).idxOf number)

structure Remembers (leaves : List (Nat × StoppingTest S)) (previous : Point S)
    (started : Nat → S) (workspace : Workspace S) : Prop where
  lastIterate : ∀ leaf ∈ leaves, leaf.2.watchesIterate →
    (workspace.criterion leaf.1).lastIterate = some previous
  started : ∀ leaf ∈ leaves, leaf.2.readsClock →
    (workspace.criterion leaf.1).started = started leaf.1

def Shows (leaves : List (Nat × StoppingTest S)) (now : Nat → S)
    (workspace : Workspace S) : Prop :=
  (clocks leaves).map now = (List.range (clocks leaves).length).map workspace.reading

structure Passed (leaves : List (Nat × StoppingTest S)) (iterate : Point S) (started : Nat → S)
    (before after : Workspace S) : Prop where
  length : after.criteria.length = before.criteria.length
  reading : ∀ later, after.reading later = before.reading ((clocks leaves).length + later)
  remembers : Remembers leaves iterate started after
  others : ∀ number, number ∉ leaves.map Prod.fst → number < before.criteria.length →
    (after.criterion number).lastIterate = (before.criterion number).lastIterate ∧
      (after.criterion number).started = (before.criterion number).started

theorem clocks_append (first rest : List (Nat × StoppingTest S)) :
    clocks (first ++ rest) = clocks first ++ clocks rest := by
  simp [clocks]

theorem clocks_nodup {leaves : List (Nat × StoppingTest S)}
    (distinct : (leaves.map Prod.fst).Nodup) : (clocks leaves).Nodup :=
  distinct.sublist (List.filter_sublist.map Prod.fst)

theorem shows_readingOf {leaves : List (Nat × StoppingTest S)}
    (distinct : (leaves.map Prod.fst).Nodup) (workspace : Workspace S) :
    Shows leaves (readingOf leaves workspace) workspace := by
  apply List.ext_getElem
  · simp
  · intro position bound _
    have inside : position < (clocks leaves).length := by simpa using bound
    simp [readingOf, (clocks_nodup distinct).idxOf_getElem position inside]

theorem Shows.of_append {first rest : List (Nat × StoppingTest S)} {now : Nat → S}
    {workspace : Workspace S} (shows_ : Shows (first ++ rest) now workspace) :
    Shows first now workspace ∧
      (clocks rest).map now = (List.range (clocks rest).length).map fun later =>
        workspace.reading ((clocks first).length + later) := by
  rw [Shows, clocks_append, List.map_append, List.length_append, List.range_add,
    List.map_append, List.map_map] at shows_
  exact List.append_inj shows_ (by simp)

theorem Remembers.of_append {first rest : List (Nat × StoppingTest S)} {previous : Point S}
    {started : Nat → S} {workspace : Workspace S}
    (remembers : Remembers (first ++ rest) previous started workspace) :
    Remembers first previous started workspace ∧ Remembers rest previous started workspace := by
  constructor
  · exact ⟨fun leaf member => remembers.lastIterate leaf (List.mem_append_left _ member),
      fun leaf member => remembers.started leaf (List.mem_append_left _ member)⟩
  · exact ⟨fun leaf member => remembers.lastIterate leaf (List.mem_append_right _ member),
      fun leaf member => remembers.started leaf (List.mem_append_right _ member)⟩

theorem Passed.nil (iterate : Point S) (started : Nat → S) (workspace : Workspace S) :
    Passed [] iterate started workspace workspace where
  length := rfl
  reading := fun later => congrArg workspace.reading (Nat.zero_add later).symm
  remembers := ⟨by simp, by simp⟩
  others := fun _ _ _ => ⟨rfl, rfl⟩

theorem Passed.append {first rest : List (Nat × StoppingTest S)} {iterate : Point S}
    {started : Nat → S} {before middle after : Workspace S}
    (distinct : ((first ++ rest).map Prod.fst).Nodup)
    (allocated : ∀ leaf ∈ first ++ rest, leaf.1 < before.criteria.length)
    (firstPassed : Passed first iterate started before middle)
    (restPassed : Passed rest iterate started middle after) :
    Passed (first ++ rest) iterate started before after := by
  rw [List.map_append] at distinct
  have apart := (List.nodup_append.mp distinct).2.2
  -- No number of the first part stands in the rest, so its memories are not touched any more.
  have kept : ∀ leaf ∈ first,
      (after.criterion leaf.1).lastIterate = (middle.criterion leaf.1).lastIterate ∧
        (after.criterion leaf.1).started = (middle.criterion leaf.1).started := by
    intro leaf member
    apply restPassed.others
    · intro again
      exact apart leaf.1 (List.mem_map_of_mem member) leaf.1 again rfl
    · rw [firstPassed.length]
      exact allocated leaf (List.mem_append_left _ member)
  constructor
  · rw [restPassed.length, firstPassed.length]
  · intro later
    rw [restPassed.reading, firstPassed.reading, clocks_append, List.length_append,
      Nat.add_assoc]
  · constructor
    · intro leaf member watches
      rcases List.mem_append.mp member with member | member
      · rw [(kept leaf member).1]
        exact firstPassed.remembers.lastIterate leaf member watches
      · exact restPassed.remembers.lastIterate leaf member watches
    · intro leaf member reads
      rcases List.mem_append.mp member with member | member
      · rw [(kept leaf member).2]
        exact firstPassed.remembers.started leaf member reads
      · exact restPassed.remembers.started leaf member reads
  · intro number outside bound
    rw [List.map_append, List.mem_append, not_or] at outside
    have early := firstPassed.others number outside.1 bound
    have late := restPassed.others number outside.2 (by rw [firstPassed.length]; exact bound)
    exact ⟨late.1.trans early.1, late.2.trans early.2⟩

theorem Passed.rest_remembers {first rest : List (Nat × StoppingTest S)}
    {previous iterate : Point S} {started : Nat → S} {before after : Workspace S}
    (distinct : ((first ++ rest).map Prod.fst).Nodup)
    (allocated : ∀ leaf ∈ first ++ rest, leaf.1 < before.criteria.length)
    (passed : Passed first iterate started before after)
    (remembers : Remembers (first ++ rest) previous started before) :
    Remembers rest previous started after := by
  rw [List.map_append] at distinct
  have apart := (List.nodup_append.mp distinct).2.2
  have kept : ∀ leaf ∈ rest,
      (after.criterion leaf.1).lastIterate = (before.criterion leaf.1).lastIterate ∧
        (after.criterion leaf.1).started = (before.criterion leaf.1).started := by
    intro leaf member
    apply passed.others
    · intro again
      exact apart leaf.1 again leaf.1 (List.mem_map_of_mem member) rfl
    · exact allocated leaf (List.mem_append_right _ member)
  constructor
  · intro leaf member watches
    rw [(kept leaf member).1]
    exact remembers.of_append.2.lastIterate leaf member watches
  · intro leaf member reads
    rw [(kept leaf member).2]
    exact remembers.of_append.2.started leaf member reads

theorem Passed.rest_shows {first rest : List (Nat × StoppingTest S)} {iterate : Point S}
    {started now : Nat → S} {before after : Workspace S}
    (passed : Passed first iterate started before after)
    (shows_ : Shows (first ++ rest) now before) : Shows rest now after := by
  rw [Shows, shows_.of_append.2]
  exact List.map_congr_left fun later _ => (passed.reading later).symm

theorem Passed.setReason {leaves : List (Nat × StoppingTest S)} {iterate : Point S}
    {started : Nat → S} {before after : Workspace S}
    (passed : Passed leaves iterate started before after) (number : Nat) (reason : String) :
    Passed leaves iterate started before
      (after.changeCriterion number fun memory => { memory with reason }) := by
  have kept : ∀ other,
      ((after.changeCriterion number fun memory => { memory with reason }).criterion
          other).lastIterate = (after.criterion other).lastIterate ∧
        ((after.changeCriterion number fun memory => { memory with reason }).criterion
          other).started = (after.criterion other).started := by
    intro other
    by_cases same : number = other
    · subst same
      by_cases bound : number < after.criteria.length
      · rw [Workspace.criterion_changeCriterion_self _ _ _ bound]
        exact ⟨rfl, rfl⟩
      · rw [Workspace.changeCriterion_of_ge _ _ _ (by omega)]
        exact ⟨rfl, rfl⟩
    · rw [Workspace.criterion_changeCriterion_of_ne _ _ _ same]
      exact ⟨rfl, rfl⟩
  constructor
  · rw [Workspace.length_changeCriterion, passed.length]
  · intro later
    rw [Workspace.reading_changeCriterion, passed.reading]
  · constructor
    · intro leaf member watches
      rw [(kept leaf.1).1]
      exact passed.remembers.lastIterate leaf member watches
    · intro leaf member reads
      rw [(kept leaf.1).2]
      exact passed.remembers.started leaf member reads
  · intro other outside bound
    rw [(kept other).1, (kept other).2]
    exact passed.others other outside bound

theorem passed_single {number : Nat} {test : StoppingTest S} {iterate : Point S}
    {started : Nat → S} {workspace : Workspace S}
    {change : CriterionMemory S → CriterionMemory S}
    (allocated : number < workspace.criteria.length)
    (watches : test.watchesIterate →
      (change (workspace.criterion number)).lastIterate = some iterate)
    (reads : test.readsClock → (change (workspace.criterion number)).started = started number) :
    Passed [(number, test)] iterate started workspace
      ((test.tick workspace).changeCriterion number change) := by
  have ticked : (test.tick workspace).criteria.length = workspace.criteria.length := by
    rw [StoppingTest.tick]
    split <;> rfl
  -- Reading the clock takes no memory away.
  have sameMemory : ∀ other, other < workspace.criteria.length →
      (test.tick workspace).criterion other = workspace.criterion other := by
    intro other bound
    rw [StoppingTest.tick]
    split
    · exact Workspace.criterion_moveClock_of_lt workspace other bound
    · rfl
  have changed : ((test.tick workspace).changeCriterion number change).criterion number =
      change (workspace.criterion number) := by
    rw [Workspace.criterion_changeCriterion_self _ _ _ (by omega), sameMemory number allocated]
  constructor
  · rw [Workspace.length_changeCriterion, ticked]
  · intro later
    rw [Workspace.reading_changeCriterion, StoppingTest.tick]
    by_cases reading : test.readsClock
    · simp [clocks, reading, Workspace.reading_moveClock, Nat.add_comm]
    · simp [clocks, reading]
  · constructor
    · intro leaf member
      cases List.mem_singleton.mp member
      rw [changed]
      exact watches
    · intro leaf member
      cases List.mem_singleton.mp member
      rw [changed]
      exact reads
  · intro other outside bound
    have different : number ≠ other := by
      rintro rfl
      exact outside (by simp)
    rw [Workspace.criterion_changeCriterion_of_ne _ _ _ different, sameMemory other bound]
    exact ⟨rfl, rfl⟩

section Checking

variable [Scalar S]

/-- A computation of a watcher that finds what a computation without memory would find, and leaves a
workspace with a property if it does not fail. -/
def Computes {α : Type} (computation : Watch S α) (figure : Compute S α) (before : Workspace S)
    (property : Workspace S → Prop) : Prop :=
  ∀ journal, ∃ after,
    computation.run (journal, before) =
      ((figure.run journal).1, ((figure.run journal).2, after)) ∧
    ∀ value, (figure.run journal).1 = .ok value → property after

omit [Scalar S] in
theorem Computes.bind {α β : Type} {computation : Watch S α} {figure : Compute S α}
    {next : α → Watch S β} (nextFigure : α → Compute S β) {before : Workspace S}
    {middle final : Workspace S → Prop} (first : Computes computation figure before middle)
    (rest : ∀ value workspace, middle workspace →
      Computes (next value) (nextFigure value) workspace final) :
    Computes (computation >>= next) (figure >>= nextFigure) before final := by
  intro journal
  obtain ⟨between, ran, property⟩ := first journal
  rcases found : figure.run journal with ⟨outcome, after⟩
  rw [found] at ran property
  cases outcome with
  | error fault =>
      rw [Effect.run_bind_of_error found, Effect.run_bind_of_error ran]
      exact ⟨between, rfl, fun _ impossible => nomatch impossible⟩
  | ok value =>
      rw [Effect.run_bind_of_ok found, Effect.run_bind_of_ok ran]
      exact rest value between (property value rfl) after

theorem fulfilled_eq_judge {problem : Problem S} {moment : Moment S} {number : Nat}
    {test : StoppingTest S} {workspace : Workspace S}
    (remembers : Remembers [(number, test)] moment.previous moment.started workspace)
    (shows_ : Shows [(number, test)] moment.now workspace) :
    test.fulfilled problem moment number =
      Prod.fst <$> test.judge problem moment.state (workspace.criterion number) workspace.clock
        moment.iteration := by
  cases test with
  | iterations limit => rfl
  | change tolerance =>
      have last := remembers.lastIterate _ (List.mem_singleton_self _) rfl
      simp only [StoppingTest.fulfilled, StoppingTest.judge, Criterion.measureChange, last,
        bind_assoc, pure_bind, map_bind, map_pure]
  | gradientNorm tolerance =>
      simp only [StoppingTest.fulfilled, StoppingTest.judge, Criterion.measureGradient]
      cases moment.state.gradient? with
      | none => simp only [bind_assoc, map_bind, map_pure]
      | some gradient => simp only [bind_assoc, map_bind, map_pure]
  | cost threshold =>
      simp only [StoppingTest.fulfilled, StoppingTest.judge, map_bind, map_pure]
  | elapsed seconds =>
      have started := remembers.started _ (List.mem_singleton_self _) rfl
      have now : moment.now number = workspace.clock := List.head_eq_of_cons_eq shows_
      simp only [StoppingTest.fulfilled, StoppingTest.judge, started, now, map_pure]

theorem check_single {problem : Problem S} {moment : Moment S} {number : Nat}
    {test : StoppingTest S} {workspace : Workspace S} (later : moment.iteration ≠ 0)
    (allocated : number < workspace.criteria.length)
    (remembers : Remembers [(number, test)] moment.previous moment.started workspace)
    (shows_ : Shows [(number, test)] moment.now workspace) :
    Computes (Criterion.checkTest problem moment.state number test moment.iteration)
      (test.fulfilled problem moment number) workspace
      (Passed [(number, test)] moment.state.iterate moment.started workspace) := by
  intro journal
  rw [Criterion.run_checkTest problem moment.state number test later,
    fulfilled_eq_judge remembers shows_, Effect.run_map]
  rcases (test.judge problem moment.state (workspace.criterion number) workspace.clock
    moment.iteration).run journal with ⟨outcome, after⟩
  cases outcome with
  | error fault => exact ⟨workspace, rfl, fun _ impossible => nomatch impossible⟩
  | ok verdict =>
      refine ⟨_, rfl, fun _ _ => passed_single allocated ?_ ?_⟩
      · intro watches
        simp [StoppingTest.note, watches]
      · intro reads
        exact remembers.started _ (List.mem_singleton_self _) reads

theorem run_check_set (problem : Problem S) (state : SolverState S) (number : Nat)
    (connective : Connective) (members : List (Criterion S)) (iteration : Int) :
    Criterion.check problem state (.set number connective members) iteration =
      (Criterion.checkEach problem state members iteration >>= fun verdicts => do
        let workspace ← Tracked.read
        Watch.setReason number
          (if 0 < iteration && connective.holds verdicts then
            Criterion.joinedReasons workspace members verdicts else "")
        return 0 < iteration && connective.holds verdicts) := by
  rw [Criterion.check]

mutual

/-- A check of a tree computes the formula of the tree and leaves all memories current. -/
theorem check_formula {problem : Problem S} {moment : Moment S} (later : 0 < moment.iteration) :
    ∀ (criterion : Criterion S) (workspace : Workspace S), criterion.Separate workspace →
      Remembers criterion.leaves moment.previous moment.started workspace →
      Shows criterion.leaves moment.now workspace →
      Computes (criterion.check problem moment.state moment.iteration)
        (criterion.formula problem moment) workspace
        (Passed criterion.leaves moment.state.iterate moment.started workspace)
  | .single number test, workspace, separate, remembers, shows_ => by
      rw [Criterion.check, Criterion.formula]
      exact check_single (by omega) (separate.allocated _ (List.mem_singleton_self _))
        remembers shows_
  | .set number connective members, workspace, separate, remembers, shows_ => by
      rw [run_check_set, Criterion.formula]
      refine Computes.bind _ (check_formulas later members workspace separate.distinct
        separate.allocated remembers shows_) ?_
      intro values middle passed journal
      rw [decide_eq_true later, Bool.true_and]
      let reason := if connective.holds values then
        Criterion.joinedReasons middle members values else ""
      exact ⟨middle.changeCriterion number fun memory => { memory with reason }, rfl,
        fun _ _ => passed.setReason number reason⟩

theorem check_formulas {problem : Problem S} {moment : Moment S} (later : 0 < moment.iteration) :
    ∀ (members : List (Criterion S)) (workspace : Workspace S),
      ((Criterion.leavesOfAll members).map Prod.fst).Nodup →
      (∀ leaf ∈ Criterion.leavesOfAll members, leaf.1 < workspace.criteria.length) →
      Remembers (Criterion.leavesOfAll members) moment.previous moment.started workspace →
      Shows (Criterion.leavesOfAll members) moment.now workspace →
      Computes (Criterion.checkEach problem moment.state members moment.iteration)
        (Criterion.formulas problem moment members) workspace
        (Passed (Criterion.leavesOfAll members) moment.state.iterate moment.started workspace)
  | [], workspace, _, _, _, _ => by
      rw [Criterion.checkEach, Criterion.formulas]
      intro journal
      exact ⟨workspace, rfl, fun _ _ => Passed.nil _ _ workspace⟩
  | first :: rest, workspace, distinct, allocated, remembers, shows_ => by
      -- The first member leaves the memories of the rest as they were, and takes from the clock
      -- the readings that are its own.
      rw [Criterion.checkEach, Criterion.formulas]
      rw [Criterion.leavesOfAll] at distinct allocated remembers shows_ ⊢
      have parts := List.nodup_append.mp (by rwa [List.map_append] at distinct)
      refine Computes.bind _ (check_formula later first workspace
        ⟨parts.1, fun leaf member => allocated leaf (List.mem_append_left _ member)⟩
        remembers.of_append.1 shows_.of_append.1) ?_
      intro value middle passed
      have restAllocated : ∀ leaf ∈ Criterion.leavesOfAll rest,
          leaf.1 < middle.criteria.length := by
        intro leaf member
        rw [passed.length]
        exact allocated leaf (List.mem_append_right _ member)
      refine Computes.bind _ (check_formulas later rest middle parts.2.1 restAllocated
        (passed.rest_remembers distinct allocated remembers) (passed.rest_shows shows_)) ?_
      intro values after restPassed journal
      exact ⟨after, rfl, fun _ _ => Passed.append distinct allocated passed restPassed⟩

end

theorem check_single_zero {problem : Problem S} {state : SolverState S} {number : Nat}
    {test : StoppingTest S} {started : Nat → S} {workspace : Workspace S}
    (allocated : number < workspace.criteria.length)
    (shows_ : Shows [(number, test)] started workspace) :
    Computes (Criterion.checkTest problem state number test 0) (pure false) workspace
      (Passed [(number, test)] state.iterate started workspace) := by
  intro journal
  refine ⟨_, Criterion.run_checkTest_zero problem state number test journal workspace,
    fun _ _ => passed_single allocated ?_ ?_⟩
  · intro watches
    simp [StoppingTest.renew, watches]
  · intro reads
    have now : started number = workspace.clock := by
      simp only [Shows, clocks, List.filter_cons, reads, if_true] at shows_
      exact List.head_eq_of_cons_eq shows_
    simp [StoppingTest.renew, reads, now]

mutual

/-- A check with iteration 0 makes all memories of a tree current, whatever they held before. -/
theorem check_zero {problem : Problem S} {state : SolverState S} {started : Nat → S} :
    ∀ (criterion : Criterion S) (workspace : Workspace S), criterion.Separate workspace →
      Shows criterion.leaves started workspace →
      Computes (criterion.check problem state 0) (pure false) workspace
        (Passed criterion.leaves state.iterate started workspace)
  | .single number test, workspace, separate, shows_ => by
      rw [Criterion.check]
      exact check_single_zero (separate.allocated _ (List.mem_singleton_self _)) shows_
  | .set number connective members, workspace, separate, shows_ => by
      rw [run_check_set]
      refine Computes.bind (fun _ => pure false) (check_zeros members workspace
        separate.distinct separate.allocated shows_) ?_
      intro values middle passed journal
      exact ⟨middle.changeCriterion number fun memory => { memory with reason := "" }, rfl,
        fun _ _ => passed.setReason number ""⟩

theorem check_zeros {problem : Problem S} {state : SolverState S} {started : Nat → S} :
    ∀ (members : List (Criterion S)) (workspace : Workspace S),
      ((Criterion.leavesOfAll members).map Prod.fst).Nodup →
      (∀ leaf ∈ Criterion.leavesOfAll members, leaf.1 < workspace.criteria.length) →
      Shows (Criterion.leavesOfAll members) started workspace →
      Computes (Criterion.checkEach problem state members 0)
        (pure (members.map fun _ => false)) workspace
        (Passed (Criterion.leavesOfAll members) state.iterate started workspace)
  | [], workspace, _, _, _ => by
      rw [Criterion.checkEach]
      intro journal
      exact ⟨workspace, rfl, fun _ _ => Passed.nil _ _ workspace⟩
  | first :: rest, workspace, distinct, allocated, shows_ => by
      rw [Criterion.checkEach]
      rw [Criterion.leavesOfAll] at distinct allocated shows_ ⊢
      have parts := List.nodup_append.mp (by rwa [List.map_append] at distinct)
      refine Computes.bind (fun value => pure (value :: rest.map fun _ => false))
        (check_zero first workspace
          ⟨parts.1, fun leaf member => allocated leaf (List.mem_append_left _ member)⟩
          shows_.of_append.1) ?_
      intro value middle passed
      have restAllocated : ∀ leaf ∈ Criterion.leavesOfAll rest,
          leaf.1 < middle.criteria.length := by
        intro leaf member
        rw [passed.length]
        exact allocated leaf (List.mem_append_right _ member)
      refine Computes.bind (fun values => pure (value :: values))
        (check_zeros rest middle parts.2.1 restAllocated (passed.rest_shows shows_)) ?_
      intro values after restPassed journal
      exact ⟨after, rfl, fun _ _ => Passed.append distinct allocated passed restPassed⟩

end

end Checking

end Stopping

end ProximalSplitting

import ProximalSplitting.Proofs.Method.Alike
import ProximalSplitting.Proofs.Stopping.Formula
import ProximalSplitting.Proofs.Watching.Frames

/-!
Two workspaces in which the criteria of a tree remember the same. A check on both has the same
verdict and they agree afterwards. A check with iteration 0 makes them agree whatever the criteria
remembered before.
-/

namespace ProximalSplitting

open Effect Tracked

variable {S : Type}

structure Workspace.Agree (numbers : List Nat) (leaves : List (Nat × StoppingTest S))
    (left right : Workspace S) : Prop where
  length : left.criteria.length = right.criteria.length
  reading : ∀ later, left.reading later = right.reading later
  reason : ∀ number ∈ numbers,
    (left.criterion number).reason = (right.criterion number).reason
  lastIterate : ∀ leaf ∈ leaves, leaf.2.watchesIterate →
    (left.criterion leaf.1).lastIterate = (right.criterion leaf.1).lastIterate
  started : ∀ leaf ∈ leaves, leaf.2.readsClock →
    (left.criterion leaf.1).started = (right.criterion leaf.1).started

structure CriterionMemory.Fieldwise
    (change : CriterionMemory S → CriterionMemory S) : Prop where
  reason : ∀ left right, left.reason = right.reason → (change left).reason = (change right).reason
  lastIterate : ∀ left right, left.lastIterate = right.lastIterate →
    (change left).lastIterate = (change right).lastIterate
  started : ∀ left right, left.started = right.started →
    (change left).started = (change right).started

namespace CriterionMemory

theorem fieldwise_reason (reason : String) :
    Fieldwise (S := S) fun memory => { memory with reason } :=
  ⟨fun _ _ _ => rfl, fun _ _ same => same, fun _ _ same => same⟩

theorem fieldwise_note (test : StoppingTest S) (iterate : Point S) (verdict : Bool × String) :
    Fieldwise (test.note iterate verdict) where
  reason := fun left right same => by simp only [StoppingTest.note, same]
  lastIterate := fun left right same => by simp only [StoppingTest.note, same]
  started := fun _ _ same => same

theorem fieldwise_renew (test : StoppingTest S) (iterate : Point S) (now : S) :
    Fieldwise (test.renew iterate now) where
  reason := fun _ _ _ => rfl
  lastIterate := fun left right same => by simp only [StoppingTest.renew, same]
  started := fun left right same => by simp only [StoppingTest.renew, same]

end CriterionMemory

namespace Workspace

namespace Agree

variable {numbers : List Nat} {leaves : List (Nat × StoppingTest S)} {left right : Workspace S}

theorem of_judging (same : left.judging = right.judging) : Agree numbers leaves left right where
  length := length_of_judging same
  reading := reading_of_judging same
  reason := fun number _ => by rw [criterion_of_judging same]
  lastIterate := fun leaf _ _ => by rw [criterion_of_judging same]
  started := fun leaf _ _ => by rw [criterion_of_judging same]

theorem congr_judging {left' right' : Workspace S} (agree : Agree numbers leaves left right)
    (sameLeft : left'.judging = left.judging) (sameRight : right'.judging = right.judging) :
    Agree numbers leaves left' right' where
  length := by rw [length_of_judging sameLeft, length_of_judging sameRight, agree.length]
  reading := fun later => by
    rw [reading_of_judging sameLeft, reading_of_judging sameRight, agree.reading]
  reason := fun number member => by
    rw [criterion_of_judging sameLeft, criterion_of_judging sameRight, agree.reason number member]
  lastIterate := fun leaf member watches => by
    rw [criterion_of_judging sameLeft, criterion_of_judging sameRight,
      agree.lastIterate leaf member watches]
  started := fun leaf member reads => by
    rw [criterion_of_judging sameLeft, criterion_of_judging sameRight,
      agree.started leaf member reads]

theorem changeCriterion (agree : Agree numbers leaves left right) (number : Nat)
    {change : CriterionMemory S → CriterionMemory S} (fieldwise : CriterionMemory.Fieldwise change) :
    Agree numbers leaves (left.changeCriterion number change)
      (right.changeCriterion number change) where
  length := by rw [length_changeCriterion, length_changeCriterion, agree.length]
  reading := fun later => by rw [reading_changeCriterion, reading_changeCriterion, agree.reading]
  reason := fun other member => field_modify CriterionMemory.reason agree.length
    fieldwise.reason (agree.reason other member)
  lastIterate := fun leaf member watches => field_modify CriterionMemory.lastIterate agree.length
    fieldwise.lastIterate (agree.lastIterate leaf member watches)
  started := fun leaf member reads => field_modify CriterionMemory.started agree.length
    fieldwise.started (agree.started leaf member reads)

theorem moveClock (agree : Agree numbers leaves left right) :
    Agree numbers leaves left.moveClock right.moveClock := by
  have reading : ∀ later, left.moveClock.reading later = right.moveClock.reading later := by
    intro later
    rw [reading_moveClock, reading_moveClock, agree.reading]
  refine ⟨agree.length, reading, ?_, ?_, ?_⟩
  · intro number member
    rw [reason_moveClock, reason_moveClock, agree.reason number member]
  · intro leaf member watches
    rw [lastIterate_moveClock, lastIterate_moveClock, agree.lastIterate leaf member watches]
  · intro leaf member reads
    by_cases allocated : leaf.1 < left.criteria.length
    · rw [criterion_moveClock_of_lt _ _ allocated,
        criterion_moveClock_of_lt _ _ (agree.length ▸ allocated)]
      exact agree.started leaf member reads
    · rw [criterion_of_ge left.moveClock _ (Nat.le_of_not_lt allocated),
        criterion_of_ge right.moveClock _ (agree.length ▸ Nat.le_of_not_lt allocated)]
      exact reading 0

theorem tick (agree : Agree numbers leaves left right) (test : StoppingTest S) :
    Agree numbers leaves (test.tick left) (test.tick right) := by
  rw [StoppingTest.tick, StoppingTest.tick]
  split
  · exact agree.moveClock
  · exact agree

theorem field_set {γ : Type} (field : CriterionMemory S → γ)
    (agree : Agree numbers leaves left right) (number : Nat)
    {change : CriterionMemory S → CriterionMemory S}
    (set : ∀ memory mirrored, field (change memory) = field (change mirrored)) :
    field ((left.changeCriterion number change).criterion number) =
      field ((right.changeCriterion number change).criterion number) := by
  have now : left.clock = right.clock := agree.reading 0
  refine field_modify_of_set field agree.length set ?_
  exact congrArg (fun clock => field ⟨"", none, clock⟩) now

theorem renew (agree : Agree numbers leaves left right) (number : Nat) (test : StoppingTest S)
    (iterate : Point S) :
    Agree (number :: numbers) ((number, test) :: leaves)
      ((test.tick left).changeCriterion number (test.renew iterate left.clock))
      ((test.tick right).changeCriterion number (test.renew iterate right.clock)) := by
  have now : left.clock = right.clock := agree.reading 0
  have ticked := agree.tick test
  rw [← now]
  have kept := ticked.changeCriterion number
    (CriterionMemory.fieldwise_renew test iterate left.clock)
  refine ⟨kept.length, kept.reading, ?_, ?_, ?_⟩
  · intro other member
    rcases List.mem_cons.mp member with rfl | member
    · exact ticked.field_set CriterionMemory.reason other fun _ _ => rfl
    · exact kept.reason other member
  · intro leaf member watches
    rcases List.mem_cons.mp member with rfl | member
    · refine ticked.field_set CriterionMemory.lastIterate number fun _ _ => ?_
      simp only [StoppingTest.renew, watches, if_true]
    · exact kept.lastIterate leaf member watches
  · intro leaf member reads
    rcases List.mem_cons.mp member with rfl | member
    · refine ticked.field_set CriterionMemory.started number fun _ _ => ?_
      simp only [StoppingTest.renew, reads, if_true]
    · exact kept.started leaf member reads

theorem clearReason (agree : Agree numbers leaves left right) (number : Nat) (reason : String) :
    Agree (number :: numbers) leaves
      (left.changeCriterion number fun memory => { memory with reason })
      (right.changeCriterion number fun memory => { memory with reason }) := by
  have kept := agree.changeCriterion number (CriterionMemory.fieldwise_reason reason)
  refine ⟨kept.length, kept.reading, ?_, kept.lastIterate, kept.started⟩
  intro other member
  rcases List.mem_cons.mp member with rfl | member
  · exact agree.field_set CriterionMemory.reason other fun _ _ => rfl
  · exact kept.reason other member

theorem mono {fewer : List Nat} {fewerLeaves : List (Nat × StoppingTest S)}
    (agree : Agree numbers leaves left right) (among : ∀ number ∈ fewer, number ∈ numbers)
    (leavesAmong : ∀ leaf ∈ fewerLeaves, leaf ∈ leaves) : Agree fewer fewerLeaves left right where
  length := agree.length
  reading := agree.reading
  reason := fun number member => agree.reason number (among number member)
  lastIterate := fun leaf member => agree.lastIterate leaf (leavesAmong leaf member)
  started := fun leaf member => agree.started leaf (leavesAmong leaf member)

end Agree

end Workspace

/-- What a test finds depends on the figures that it measures and on what its criterion remembers of
them. -/
theorem StoppingTest.judge_congr [Scalar S] {problem other : Problem S} {left right : SolverState S}
    {test : StoppingTest S}
    (change : ∀ last, Criterion.measureChange other right last =
      Criterion.measureChange problem left last)
    (gradient : ∀ tolerance, test = .gradientNorm tolerance →
      Criterion.measureGradient other right = Criterion.measureGradient problem left)
    (cost : other.cost right.iterate = problem.cost left.iterate)
    {memory mirrored : CriterionMemory S} {now later : S}
    (lastIterate : test.watchesIterate → memory.lastIterate = mirrored.lastIterate)
    (started : test.readsClock → memory.started = mirrored.started) (clock : now = later)
    (iteration : Int) :
    test.judge other right mirrored later iteration =
      test.judge problem left memory now iteration := by
  cases test with
  | iterations limit => rfl
  | change tolerance => rw [judge, judge, change, lastIterate rfl]
  | gradientNorm tolerance => rw [judge, judge, gradient tolerance rfl]
  | cost threshold => rw [judge, judge, cost]
  | elapsed seconds => rw [judge, judge, started rfl, clock]

namespace SolverState.Alike

variable [Scalar S] {steady : Prop} {left right : SolverState S}
  (alike : left.Alike steady right)
include alike

theorem manifoldOf (problem : Problem S) : right.manifoldOf problem = left.manifoldOf problem := by
  rw [SolverState.manifoldOf, SolverState.manifoldOf, alike.method]

theorem measureChange (problem : Problem S) (last : Option (Point S)) :
    Criterion.measureChange problem right last = Criterion.measureChange problem left last := by
  cases last with
  | none => rfl
  | some last =>
      rw [Criterion.measureChange, Criterion.measureChange, alike.manifoldOf, alike.iterate]

theorem measureGradient (problem : Problem S) :
    Criterion.measureGradient problem right = Criterion.measureGradient problem left := by
  have sameGradient : right.gradient? = left.gradient? := by
    rw [SolverState.gradient?, SolverState.gradient?, alike.extras]
  rw [Criterion.measureGradient, Criterion.measureGradient, sameGradient, alike.manifoldOf,
    alike.iterate]

end SolverState.Alike

structure JudgedAlike [Scalar S] (steady : Prop) (leaves : List (Nat × StoppingTest S))
    (problem other : Problem S) (left right : SolverState S) : Prop where
  iterate : left.iterate = right.iterate
  judge : ∀ leaf ∈ leaves, ∀ {memory mirrored : CriterionMemory S} {now later : S},
    (leaf.2.watchesIterate → memory.lastIterate = mirrored.lastIterate) →
    (leaf.2.readsClock → memory.started = mirrored.started) → now = later → ∀ iteration,
      leaf.2.judge other right mirrored later iteration =
        leaf.2.judge problem left memory now iteration
  pure : steady → ∀ leaf ∈ leaves, ∀ memory now iteration,
    (leaf.2.judge problem left memory now iteration).Pure

theorem SolverState.Alike.judged [Scalar S] {steady : Prop} {problem : Problem S}
    {left right : SolverState S} {leaves : List (Nat × StoppingTest S)}
    (alike : left.Alike steady right) (pure : steady → problem.Pure) :
    JudgedAlike steady leaves problem problem left right where
  iterate := alike.iterate
  judge := fun _ _ => StoppingTest.judge_congr (alike.measureChange problem)
    (fun _ _ => alike.measureGradient problem) (by rw [alike.iterate])
  pure := fun isSteady leaf _ memory now iteration =>
    (pure isSteady).judge left memory now iteration leaf.2

namespace Criterion

mutual

def numbers : Criterion S → List Nat
  | .single number _ => [number]
  | .set number _ members => number :: numbersOfAll members

def numbersOfAll : List (Criterion S) → List Nat
  | [] => []
  | first :: rest => numbers first ++ numbersOfAll rest

end

theorem number_mem_numbers (criterion : Criterion S) : criterion.number ∈ criterion.numbers := by
  cases criterion with
  | single number test => rw [numbers]; exact List.mem_cons_self
  | set number connective members => rw [numbers]; exact List.mem_cons_self

theorem number_mem_numbersOfAll {members : List (Criterion S)} {criterion : Criterion S}
    (member : criterion ∈ members) : criterion.number ∈ numbersOfAll members := by
  induction members with
  | nil => cases member
  | cons first rest ih =>
      rw [numbersOfAll]
      rcases List.mem_cons.mp member with rfl | later
      · exact List.mem_append_left _ criterion.number_mem_numbers
      · exact List.mem_append_right _ (ih later)

mutual

def renew (iterate : Point S) : Criterion S → Workspace S → Workspace S
  | .single number test, workspace =>
      (test.tick workspace).changeCriterion number (test.renew iterate workspace.clock)
  | .set number _ members, workspace =>
      (renewAll iterate members workspace).changeCriterion number fun memory =>
        { memory with reason := "" }

def renewAll (iterate : Point S) : List (Criterion S) → Workspace S → Workspace S
  | [], workspace => workspace
  | first :: rest, workspace => renewAll iterate rest (renew iterate first workspace)

end

theorem reason_changeCriterion (workspace : Workspace S) (number : Nat)
    {change : CriterionMemory S → CriterionMemory S}
    (clears : (change (workspace.criterion number)).reason = "") :
    ((workspace.changeCriterion number change).criterion number).reason = "" := by
  by_cases allocated : number < workspace.criteria.length
  · rw [Workspace.criterion_changeCriterion_self _ _ _ allocated, clears]
  · rw [Workspace.changeCriterion_of_ge _ _ _ (Nat.le_of_not_lt allocated),
      Workspace.criterion_of_ge _ _ (Nat.le_of_not_lt allocated)]

mutual

theorem reason_renewed (iterate : Point S) {number : Nat} : ∀ (criterion : Criterion S)
    {workspace : Workspace S},
    number ∈ criterion.numbers ∨ (workspace.criterion number).reason = "" →
    ((criterion.renew iterate workspace).criterion number).reason = ""
  | .single other test, workspace, known => by
      rw [renew]
      by_cases own : other = number
      · subst own
        exact reason_changeCriterion _ other rfl
      · rw [Workspace.criterion_changeCriterion_of_ne _ _ _ own, reason_tick]
        refine known.resolve_left fun member => own ?_
        exact (List.mem_singleton.mp member).symm
  | .set other connective members, workspace, known => by
      rw [renew]
      by_cases own : other = number
      · subst own
        exact reason_changeCriterion _ other rfl
      · rw [Workspace.criterion_changeCriterion_of_ne _ _ _ own]
        refine reason_renewedAll iterate members (known.imp_left fun member => ?_)
        exact (List.mem_cons.mp member).resolve_left (Ne.symm own)

theorem reason_renewedAll (iterate : Point S) {number : Nat} : ∀ (members : List (Criterion S))
    {workspace : Workspace S},
    number ∈ numbersOfAll members ∨ (workspace.criterion number).reason = "" →
    ((renewAll iterate members workspace).criterion number).reason = ""
  | [], workspace, known => known.resolve_left List.not_mem_nil
  | first :: rest, workspace, known => by
      rw [renewAll]
      apply reason_renewedAll iterate rest
      by_cases later : number ∈ numbersOfAll rest
      · exact .inl later
      · refine .inr (reason_renewed iterate first (known.imp_left fun member => ?_))
        exact (List.mem_append.mp member).resolve_right later

end

section Checking

variable [Scalar S] (problem : Problem S) (state : SolverState S)

mutual

theorem run_check_zero : ∀ (criterion : Criterion S) (journal : Journal)
    (workspace : Workspace S),
    (criterion.check problem state 0).run (journal, workspace) =
      (.ok false, (journal, criterion.renew state.iterate workspace))
  | .single number test, journal, workspace => by
      rw [check, renew]
      exact run_checkTest_zero problem state number test journal workspace
  | .set number connective members, journal, workspace => by
      obtain ⟨verdicts, ran⟩ := run_checkEach_zero members journal workspace
      rw [check, renew, run_bind_of_ok ran]
      rfl

theorem run_checkEach_zero : ∀ (members : List (Criterion S)) (journal : Journal)
    (workspace : Workspace S), ∃ verdicts,
    (checkEach problem state members 0).run (journal, workspace) =
      (.ok verdicts, (journal, renewAll state.iterate members workspace))
  | [], journal, workspace => ⟨[], by rw [checkEach, renewAll]; rfl⟩
  | first :: rest, journal, workspace => by
      obtain ⟨verdicts, ran⟩ := run_checkEach_zero rest journal (renew state.iterate first workspace)
      refine ⟨false :: verdicts, ?_⟩
      rw [checkEach, renewAll, run_bind_of_ok (run_check_zero first journal workspace),
        run_bind_of_ok ran]
      rfl

end

end Checking

open Workspace

variable {allNumbers : List Nat} {allLeaves : List (Nat × StoppingTest S)}

mutual

theorem agree_renew (iterate : Point S) : ∀ (criterion : Criterion S)
    {numbers : List Nat} {leaves : List (Nat × StoppingTest S)} {left right : Workspace S},
    Agree numbers leaves left right →
    Agree (criterion.numbers ++ numbers) (criterion.leaves ++ leaves)
      (criterion.renew iterate left) (criterion.renew iterate right)
  | .single number test, _, _, _, _, agree => by
      rw [renew, renew]
      exact agree.renew number test iterate
  | .set number connective members, _, _, _, _, agree => by
      rw [renew, renew]
      exact (agree_renewAll iterate members agree).clearReason number ""

theorem agree_renewAll (iterate : Point S) : ∀ (members : List (Criterion S))
    {numbers : List Nat} {leaves : List (Nat × StoppingTest S)} {left right : Workspace S},
    Agree numbers leaves left right →
    Agree (numbersOfAll members ++ numbers) (leavesOfAll members ++ leaves)
      (renewAll iterate members left) (renewAll iterate members right)
  | [], _, _, _, _, agree => agree
  | first :: rest, _, _, _, _, agree => by
      rw [renewAll, renewAll]
      have firstAgree := agree_renew iterate first agree
      refine (agree_renewAll iterate rest firstAgree).mono ?_ ?_
      · intro number member
        rw [numbersOfAll] at member
        simpa only [List.mem_append, or_assoc, or_left_comm] using member
      · intro leaf member
        rw [leavesOfAll] at member
        simpa only [List.mem_append, or_assoc, or_left_comm] using member

end

section Mirroring

variable [Scalar S] {steady : Prop} {problem other : Problem S} {left right : SolverState S}

omit [Scalar S] in
theorem joinedReasons_eq {before mirrored : Workspace S}
    (agree : Agree allNumbers allLeaves before mirrored) {members : List (Criterion S)}
    (among : ∀ number ∈ numbersOfAll members, number ∈ allNumbers) (verdicts : List Bool) :
    joinedReasons before members verdicts = joinedReasons mirrored members verdicts := by
  -- The reason of a set is made of those of its members, which need not be leaves.
  rw [joinedReasons, joinedReasons]
  refine congrArg String.join (List.map_congr_left fun (member, holds) paired => ?_)
  have inside := among _ (number_mem_numbersOfAll (List.of_mem_zip paired).1)
  simp only [agree.reason _ inside]

theorem checkTest_mirrors (judged : JudgedAlike steady allLeaves problem other left right)
    {iteration : Int} (later : iteration ≠ 0) {number : Nat} {test : StoppingTest S}
    (leafAmong : (number, test) ∈ allLeaves) :
    Mirrors (Beside steady (Agree allNumbers allLeaves))
      (checkTest problem left number test iteration)
      (checkTest other right number test iteration) := by
  rintro ⟨journal, workspace⟩ ⟨journal', workspace'⟩ ⟨journals, agree⟩
  have sameJudge : test.judge other right (workspace'.criterion number) workspace'.clock
      iteration = test.judge problem left (workspace.criterion number) workspace.clock iteration :=
    judged.judge _ leafAmong (agree.lastIterate _ leafAmong) (agree.started _ leafAmong)
      (agree.reading 0) iteration
  rw [run_checkTest problem left number test later, run_checkTest other right number test later,
    sameJudge]
  obtain ⟨sameOutcome, sameJournals⟩ := outcome_of_journals (fun isSteady =>
    judged.pure isSteady _ leafAmong (workspace.criterion number) workspace.clock iteration) journals
  rcases found : (test.judge problem left (workspace.criterion number) workspace.clock
    iteration).run journal with ⟨outcome, after⟩
  rcases found' : (test.judge problem left (workspace.criterion number) workspace.clock
    iteration).run journal' with ⟨outcome', after'⟩
  rw [found, found'] at sameOutcome sameJournals
  cases sameOutcome
  cases outcome with
  | error fault => exact ⟨rfl, sameJournals, agree⟩
  | ok verdict =>
      refine ⟨rfl, sameJournals, ?_⟩
      rw [judged.iterate]
      exact (agree.tick test).changeCriterion number
        (CriterionMemory.fieldwise_note test right.iterate verdict)

mutual

/-- Where two workspaces agree on a tree, its checks have one verdict and keep the agreement. -/
theorem check_mirrors (judged : JudgedAlike steady allLeaves problem other left right)
    {iteration : Int} (later : iteration ≠ 0) : ∀ criterion : Criterion S,
    (∀ number ∈ criterion.numbers, number ∈ allNumbers) →
    (∀ leaf ∈ criterion.leaves, leaf ∈ allLeaves) →
    Mirrors (Beside steady (Agree allNumbers allLeaves))
      (criterion.check problem left iteration) (criterion.check other right iteration)
  | .single number test, among, leafAmong => by
      rw [check, check]
      exact checkTest_mirrors judged later (leafAmong _ (List.mem_singleton_self _))
  | .set number connective members, among, leafAmong => by
      rw [check, check]
      have inside : ∀ other ∈ numbersOfAll members, other ∈ allNumbers := by
        intro other member
        refine among other ?_
        rw [numbers]
        exact List.mem_cons_of_mem number member
      refine mirrors_bind (checkEach_mirrors judged later members inside leafAmong)
        fun verdicts => ?_
      refine mirrors_read_bind fun before mirrored agree => ?_
      rw [joinedReasons_eq agree inside verdicts]
      refine mirrors_bind (mirrors_update fun _ _ stillAgree => ?_) fun _ => mirrors_pure _
      exact stillAgree.changeCriterion number (CriterionMemory.fieldwise_reason _)

theorem checkEach_mirrors (judged : JudgedAlike steady allLeaves problem other left right)
    {iteration : Int} (later : iteration ≠ 0) : ∀ members : List (Criterion S),
    (∀ number ∈ numbersOfAll members, number ∈ allNumbers) →
    (∀ leaf ∈ leavesOfAll members, leaf ∈ allLeaves) →
    Mirrors (Beside steady (Agree allNumbers allLeaves))
      (checkEach problem left members iteration) (checkEach other right members iteration)
  | [], _, _ => by
      rw [checkEach, checkEach]
      exact mirrors_pure []
  | first :: rest, among, leafAmong => by
      rw [numbersOfAll] at among
      rw [leavesOfAll] at leafAmong
      rw [checkEach, checkEach]
      refine mirrors_bind (check_mirrors judged later first
        (fun number member => among number (List.mem_append_left _ member))
        fun leaf member => leafAmong leaf (List.mem_append_left _ member)) fun verdict => ?_
      refine mirrors_bind (checkEach_mirrors judged later rest
        (fun number member => among number (List.mem_append_right _ member))
        fun leaf member => leafAmong leaf (List.mem_append_right _ member)) fun others => ?_
      exact mirrors_pure _

end

end Mirroring

end Criterion

end ProximalSplitting

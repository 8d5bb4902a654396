import ProximalSplitting.Proofs.Run.Sample
import ProximalSplitting.Proofs.Stopping.Calls
import ProximalSplitting.Proofs.Stopping.Report

/-!
Why a tree of criteria holds. The reasons of single criteria stay until the next reset, those of
sets are rewritten at every call, from the reasons of the members that hold. So the reason of a set
is made of what was written at the same call by the single criteria that hold together with every
set between them and that set.
-/

namespace ProximalSplitting

open Effect Tracked

namespace StoppingTest

variable {S : Type} [Scalar S] {problem : Problem S} {state : SolverState S} {iteration : Int}

theorem judge_of_reason (test : StoppingTest S) (memory : CriterionMemory S) (reason : String)
    (now : S) :
    test.judge problem state { memory with reason } now iteration =
      test.judge problem state memory now iteration := by
  cases test <;> rfl

omit [Scalar S] in
theorem append_ne_empty (start : String) {ending : String} (nonempty : ending ≠ "") :
    start ++ ending ≠ "" :=
  fun empty => nonempty (String.append_eq_empty_iff.mp empty).2

theorem judge_reason_ne_empty {test : StoppingTest S} {memory : CriterionMemory S} {now : S}
    {journal after : Journal} {verdict : Bool × String}
    (judged : (test.judge problem state memory now iteration).run journal = (.ok verdict, after))
    (holds : verdict.1 = true) : verdict.2 ≠ "" := by
  cases test with
  | iterations limit =>
      cases judged
      exact append_ne_empty _ (by decide)
  | change tolerance =>
      rw [judge, run_bind_ok_iff] at judged
      obtain ⟨moved, middle, _, concluded⟩ := judged
      cases moved with
      | none =>
          cases concluded
          cases holds
      | some moved =>
          cases concluded
          exact append_ne_empty _ (by decide)
  | gradientNorm tolerance =>
      rw [judge, run_bind_ok_iff] at judged
      obtain ⟨length, middle, _, concluded⟩ := judged
      cases concluded
      exact append_ne_empty _ (by decide)
  | cost threshold =>
      rw [judge, run_bind_ok_iff] at judged
      obtain ⟨cost, middle, _, concluded⟩ := judged
      cases concluded
      exact append_ne_empty _ (by decide)
  | elapsed seconds =>
      cases judged
      exact append_ne_empty _ (by decide)

end StoppingTest

namespace Criterion

variable {S : Type} [Scalar S] {problem : Problem S} {state : SolverState S} {iteration : Int}

structure Answers (criterion : Criterion S) (report : Report) (verdict : Bool)
    (before after : Workspace S) : Prop where
  holds : report.holds = verdict
  length : after.criteria.length = before.criteria.length
  others : ∀ number ∉ criterion.numbers,
    (after.criterion number).reason = (before.criterion number).reason
  told : verdict = true →
    (after.criterion criterion.number).reason = report.justification ∧ report.justification ≠ ""
  sets : ∀ node ∈ report.sets, node.Stands after

structure AnswersAll (members : List (Criterion S)) (reports : List Report)
    (verdicts : List Bool) (before after : Workspace S) : Prop where
  length : after.criteria.length = before.criteria.length
  others : ∀ number ∉ numbersOfAll members,
    (after.criterion number).reason = (before.criterion number).reason
  told : joinedReasons after members verdicts = Report.told (Report.branchesOfAll reports)
  nonempty : verdicts.any id = true → Report.told (Report.branchesOfAll reports) ≠ ""
  count : verdicts.length = members.length
  sets : ∀ node ∈ Report.setsOfAll reports, node.Stands after

theorem written_of_judge {number : Nat} {test : StoppingTest S} {before : Journal × Workspace S}
    {verdict : Bool × String} {journal : Journal} (later : iteration ≠ 0)
    (allocated : number < before.2.criteria.length)
    (judged : (test.judge problem state (before.2.criterion number) before.2.clock iteration).run
      before.1 = (.ok verdict, journal)) (holds : verdict.1 = true) :
    written problem state iteration number test before = verdict.2 := by
  let forgotten := before.2.changeCriterion number fun memory => { memory with reason := "" }
  have memory : forgotten.criterion number = { before.2.criterion number with reason := "" } :=
    Workspace.criterion_changeCriterion_self _ _ _ allocated
  have sameJudge : (test.judge problem state (forgotten.criterion number) forgotten.clock
      iteration).run before.1 = (.ok verdict, journal) := by
    rw [memory, test.judge_of_reason]
    exact judged
  have stillAllocated : number < (test.tick forgotten).criteria.length := by
    rw [length_tick, Workspace.length_changeCriterion]
    exact allocated
  change (((checkTest problem state number test iteration).run (before.1, forgotten)).2.2.criterion
    number).reason = _
  rw [run_checkTest problem state number test later, sameJudge]
  change (((test.tick forgotten).changeCriterion number _).criterion number).reason = _
  rw [Workspace.criterion_changeCriterion_self _ _ _ stillAllocated]
  exact if_pos holds

theorem checkTest_changes {number : Nat} {test : StoppingTest S}
    {before after : Journal × Workspace S} {verdict : Bool}
    (allocated : number < before.2.criteria.length)
    (ran : (checkTest problem state number test iteration).run before = (.ok verdict, after)) :
    ∃ change, after.2 = (test.tick before.2).changeCriterion number change ∧
      (verdict = true → (change ((test.tick before.2).criterion number)).reason =
        written problem state iteration number test before ∧
          written problem state iteration number test before ≠ "") := by
  by_cases opening : iteration = 0
  · subst opening
    rw [run_checkTest_zero problem state number test before.1 before.2] at ran
    cases ran
    exact ⟨_, rfl, nofun⟩
  · obtain ⟨found, judged, rfl, noted⟩ := checkTest_ok opening ran
    refine ⟨_, noted, fun holds => ?_⟩
    rw [written_of_judge opening allocated judged holds]
    exact ⟨if_pos holds, StoppingTest.judge_reason_ne_empty judged holds⟩

theorem checkTest_answers {number : Nat} {test : StoppingTest S}
    {before after : Journal × Workspace S} {verdict : Bool}
    (allocated : number < before.2.criteria.length)
    (ran : (checkTest problem state number test iteration).run before = (.ok verdict, after)) :
    Answers (.single number test) (report problem state iteration before (.single number test))
      verdict before.2 after.2 := by
  have holds : (report problem state iteration before (.single number test)).holds = verdict :=
    holds_report problem state iteration (by rw [check]; exact ran)
  obtain ⟨change, changed, wrote⟩ := checkTest_changes allocated ran
  have stillAllocated : number < (test.tick before.2).criteria.length := by
    rw [length_tick]
    exact allocated
  refine ⟨holds, ?_, ?_, ?_, ?_⟩
  · rw [changed, Workspace.length_changeCriterion, length_tick]
  · intro other outside
    rw [numbers, List.mem_singleton] at outside
    rw [changed, Workspace.criterion_changeCriterion_of_ne _ _ _ (Ne.symm outside), reason_tick]
  · rintro rfl
    rw [report, Report.justification_single]
    rw [report] at holds
    have answered : answer
        ((check problem state (.single number test) iteration).run before).1 = true := holds
    rw [if_pos answered, changed]
    change (((test.tick before.2).changeCriterion number change).criterion number).reason = _ ∧ _
    rw [Workspace.criterion_changeCriterion_self _ _ _ stillAllocated]
    exact wrote rfl
  · intro node member
    rw [report, Report.sets] at member
    cases member

omit [Scalar S] in
theorem stands_of_reason {left right : Workspace S} {node : Report} (stands : node.Stands left)
    (same : (right.criterion node.number).reason = (left.criterion node.number).reason) :
    node.Stands right where
  nonempty := by
    rw [same]
    exact stands.nonempty
  reason := by
    rw [same]
    exact stands.reason

omit [Scalar S] in
theorem joinedReasons_cons (workspace : Workspace S) (first : Criterion S)
    (rest : List (Criterion S)) (verdict : Bool) (later : List Bool) :
    joinedReasons workspace (first :: rest) (verdict :: later) =
      (if verdict then (workspace.criterion first.number).reason else "") ++
        joinedReasons workspace rest later := by
  rw [joinedReasons, List.zip_cons_cons, List.map_cons, String.join_cons]
  rfl

omit [Scalar S] in
theorem any_of_holds {connective : Connective} {verdicts : List Bool} (inhabited : verdicts ≠ [])
    (holds : connective.holds verdicts = true) : verdicts.any id = true := by
  cases connective with
  | any => exact holds
  | all =>
      obtain ⟨verdict, member⟩ := List.exists_mem_of_ne_nil verdicts inhabited
      exact List.any_eq_true.mpr ⟨verdict, member, List.all_eq_true.mp holds verdict member⟩

omit [Scalar S] in
/-- After the members were called, the set writes its reason, and leaves alone what the members and
the sets among them have written. -/
theorem AnswersAll.conclude {number : Nat} {connective : Connective} {members : List (Criterion S)}
    {reports : List Report} {verdicts : List Bool} {before middle : Workspace S} {holds : Bool}
    (inside : AnswersAll members reports verdicts before middle)
    (allocated : number < before.criteria.length) (apart : number ∉ numbersOfAll members)
    (among : ∀ node ∈ Report.setsOfAll reports, node.number ∈ numbersOfAll members)
    (told : holds = true → verdicts.any id = true) :
    Answers (.set number connective members) (.set number holds reports) holds before
      (middle.changeCriterion number fun memory =>
        { memory with reason := if holds then joinedReasons middle members verdicts else "" }) := by
  have stillAllocated : number < middle.criteria.length := by
    rw [inside.length]
    exact allocated
  have written := Workspace.criterion_changeCriterion_self middle number (fun memory =>
    { memory with reason := if holds then joinedReasons middle members verdicts else "" })
    stillAllocated
  have justified : holds = true → Report.justification (.set number holds reports) =
      joinedReasons middle members verdicts := by
    intro met
    rw [Report.justification_set, if_pos met, inside.told]
  have nonempty : holds = true → joinedReasons middle members verdicts ≠ "" := by
    intro met
    rw [inside.told]
    exact inside.nonempty (told met)
  refine ⟨rfl, ?_, ?_, ?_, ?_⟩
  · rw [Workspace.length_changeCriterion, inside.length]
  · intro other outside
    rw [numbers, List.mem_cons, not_or] at outside
    rw [Workspace.criterion_changeCriterion_of_ne _ _ _ (Ne.symm outside.1),
      inside.others other outside.2]
  · intro met
    rw [justified met, Criterion.number, written]
    exact ⟨if_pos met, nonempty met⟩
  · intro node member
    rw [Report.sets] at member
    rcases List.mem_cons.mp member with rfl | deeper
    · refine ⟨?_, fun met => ?_⟩
      · rw [Report.number, written]
        cases holds with
        | true => simp [nonempty rfl, Report.holds]
        | false => simp [Report.holds]
      · rw [justified met, Report.number, written]
        exact if_pos met
    · -- A set deeper inside is a member of a member, and no member has the number that is written.
      have different : number ≠ node.number := by
        rintro rfl
        exact apart (among node deeper)
      refine stands_of_reason (inside.sets node deeper) ?_
      rw [Workspace.criterion_changeCriterion_of_ne _ _ _ different]

omit [Scalar S] in
theorem Answers.append {first : Criterion S} {rest : List (Criterion S)} {report : Report}
    {reports : List Report} {verdict : Bool} {later : List Bool} {before middle after : Workspace S}
    (firstAnswers : Answers first report verdict before middle)
    (restAnswers : AnswersAll rest reports later middle after)
    (among : ∀ node ∈ report.sets, node.number ∈ first.numbers)
    (apart : ∀ number ∈ first.numbers, number ∉ numbersOfAll rest) :
    AnswersAll (first :: rest) (report :: reports) (verdict :: later) before after where
  length := by rw [restAnswers.length, firstAnswers.length]
  others := fun number outside => by
    rw [numbersOfAll, List.mem_append, not_or] at outside
    rw [restAnswers.others number outside.2, firstAnswers.others number outside.1]
  told := by
    rw [joinedReasons_cons, Report.branchesOfAll, Report.told_append, restAnswers.told,
      restAnswers.others _ (apart _ first.number_mem_numbers)]
    congr 1
    cases verdict with
    | true => exact (firstAnswers.told rfl).1
    | false => exact (Report.justification_of_not_holds firstAnswers.holds).symm
  nonempty := by
    rw [List.any_cons, Report.branchesOfAll, Report.told_append, Bool.or_eq_true, ne_eq,
      String.append_eq_empty_iff]
    rintro (met | met) ⟨firstEmpty, restEmpty⟩
    · exact (firstAnswers.told met).2 firstEmpty
    · exact restAnswers.nonempty met restEmpty
  count := congrArg Nat.succ restAnswers.count
  sets := by
    intro node member
    rw [Report.setsOfAll] at member
    rcases List.mem_append.mp member with inside | inRest
    · exact stands_of_reason (firstAnswers.sets node inside)
        (restAnswers.others _ (apart _ (among node inside)))
    · exact restAnswers.sets node inRest

mutual

theorem check_answers : ∀ {criterion : Criterion S} {before after : Journal × Workspace S}
    {verdict : Bool}, criterion.numbers.Nodup → Proper criterion.nodes →
    (∀ number ∈ criterion.numbers, number < before.2.criteria.length) →
    (criterion.check problem state iteration).run before = (.ok verdict, after) →
    Answers criterion (report problem state iteration before criterion) verdict before.2 after.2
  | .single number test, before, after, verdict, _, _, allocated, ran => by
      rw [check] at ran
      exact checkTest_answers (allocated number (List.mem_singleton_self number)) ran
  | .set number connective members, before, after, verdict, distinct, proper, allocated, ran => by
      have holds := holds_report problem state iteration ran
      rw [report] at holds ⊢
      obtain ⟨verdicts, middle, called, verdict_eq, wrote⟩ := check_set_ok ran
      rw [numbers, List.nodup_cons] at distinct
      rw [nodes] at proper
      rw [numbers] at allocated
      have inside := checkEach_answers distinct.2
        (proper.mono fun _ member => List.mem_cons_of_mem _ member)
        (fun other member => allocated other (List.mem_cons_of_mem number member)) called
      have inhabited : verdicts ≠ [] := by
        rintro rfl
        obtain rfl := List.eq_nil_of_length_eq_zero inside.count.symm
        exact proper.inhabited number connective List.mem_cons_self
      rw [show answer _ = _ from holds, wrote]
      refine inside.conclude (allocated number List.mem_cons_self) distinct.1
        (fun node => number_mem_of_mem_setsOfAll problem state iteration) fun met => ?_
      rw [met] at verdict_eq
      exact any_of_holds inhabited (Bool.and_eq_true _ _ ▸ verdict_eq.symm).2

theorem checkEach_answers : ∀ {members : List (Criterion S)} {before after : Journal × Workspace S}
    {verdicts : List Bool}, (numbersOfAll members).Nodup → Proper (nodesOfAll members) →
    (∀ number ∈ numbersOfAll members, number < before.2.criteria.length) →
    (checkEach problem state members iteration).run before = (.ok verdicts, after) →
    AnswersAll members (reports problem state iteration before members) verdicts before.2 after.2
  | [], before, after, verdicts, _, _, _, ran => by
      rw [checkEach] at ran
      cases ran
      rw [reports]
      exact ⟨rfl, fun _ _ => rfl, rfl, nofun, rfl, fun _ member => nomatch member⟩
  | first :: rest, before, after, verdicts, distinct, proper, allocated, ran => by
      obtain ⟨verdict, later, middle, calledFirst, calledRest, rfl⟩ := checkEach_cons_ok ran
      rw [nodesOfAll] at proper
      rw [numbersOfAll, List.nodup_append] at distinct
      rw [numbersOfAll] at allocated
      obtain ⟨firstDistinct, restDistinct, apart⟩ := distinct
      have firstAnswers := check_answers firstDistinct
        (proper.mono fun _ member => List.mem_append_left _ member)
        (fun number member => allocated number (List.mem_append_left _ member)) calledFirst
      have restAnswers := checkEach_answers restDistinct
        (proper.mono fun _ member => List.mem_append_right _ member)
        (fun number member => by
          rw [firstAnswers.length]
          exact allocated number (List.mem_append_right _ member)) calledRest
      rw [reports, calledFirst]
      refine firstAnswers.append restAnswers
        (fun node => number_mem_of_mem_sets problem state iteration) fun number member again => ?_
      exact apart number member number again rfl

end

def reportOn (criterion : Criterion S) (inquiry : Inquiry S) (before : Journal × Workspace S) :
    Report :=
  criterion.report inquiry.problem inquiry.state inquiry.iteration before

variable {criterion : Criterion S} {inquiry : Nat → Inquiry S} {memory : Nat → Journal × Workspace S}

/-- Whatever a tree of different single criteria was called with before, and whatever the outcomes:
a call that returns leaves each set with a reason exactly if the set holds at this call, and the
reason is what the single criteria write at this call that are joined to the set by criteria that
hold at this call. -/
theorem reason_justifies_verdict (distinct : (criterion.leaves.map Prod.fst).Nodup)
    (proper : Proper criterion.nodes) (calls : criterion.Calls inquiry memory) {done : Nat}
    {verdict : Bool} {after : Journal × Workspace S}
    (returned : (criterion.call (inquiry done)).run (memory done) = (.ok verdict, after)) :
    (criterion.reportOn (inquiry done) (memory done)).holds = verdict ∧
      ∀ node ∈ (criterion.reportOn (inquiry done) (memory done)).sets, node.Stands after.2 := by
  have allocated : ∀ number ∈ criterion.numbers, number < (memory done).2.criteria.length := by
    intro number member
    rw [calls.length done]
    exact calls.allocated number member
  have answers := check_answers (nodup_numbers proper distinct) proper allocated returned
  exact ⟨answers.holds, answers.sets⟩

/-- Calls of the sample with the iterates 0, 0, 9 and then 9 for ever: the members of the inner set
hold together at iteration 1 only, and keep their reasons. -/
def sampleInquiry (done : Nat) : Inquiry Int where
  problem := Sample.problem
  state := { Sample.state with iterate := Sample.mark (if done < 2 then 0 else 9) }
  iteration := done

def sampleMemory : Nat → Journal × Workspace Int
  | 0 => ({}, Sample.workspace)
  | done + 1 => ((Sample.criterion.call (sampleInquiry done)).run (sampleMemory done)).2

theorem proper_sample : Proper Sample.criterion.nodes :=
  .of_distinct (by decide) fun number connective member => by
    simp [Sample.criterion, nodes, nodesOfAll] at member

theorem calls_sample : Sample.criterion.Calls sampleInquiry sampleMemory where
  allocated := by decide
  kept := fun _ => rfl

theorem sample_reason_justifies_verdict :
    (Sample.criterion.leaves.map Prod.fst).Nodup ∧ Proper Sample.criterion.nodes ∧
      Sample.criterion.Calls sampleInquiry sampleMemory ∧
      ∀ done ≤ 5, ∃ verdict after,
        (Sample.criterion.call (sampleInquiry done)).run (sampleMemory done) =
          (.ok verdict, after) ∧
        (Sample.criterion.reportOn (sampleInquiry done) (sampleMemory done)).holds = verdict ∧
        ∀ node ∈ (Sample.criterion.reportOn (sampleInquiry done) (sampleMemory done)).sets,
          node.Stands after.2 := by
  refine ⟨by decide, proper_sample, calls_sample, fun done early => ?_⟩
  have succeeds : ∀ done ≤ 5, ((Sample.criterion.call (sampleInquiry done)).run
      (sampleMemory done)).1.isOk = true := by decide +kernel
  obtain ⟨verdict, after, returned⟩ := exists_ok_of_isOk (succeeds done early)
  exact ⟨verdict, after, returned,
    reason_justifies_verdict (by decide) proper_sample calls_sample returned⟩

end Criterion

end ProximalSplitting

import ProximalSplitting.Proofs.Stopping.Reasons

/-!
A call of a tree in which no set writes. Where the tree holds, the call returns the reason for it,
put together from what the single criteria have written; a check has the same verdict, and leaves
this reason at the tree. A set that is joined to a set of its kind adds nothing to such a call.
-/

namespace ProximalSplitting

open Effect Tracked

def joinedAnswers (answers : List (Option String)) : String :=
  String.join (answers.map fun answer => answer.getD "")

theorem joinedAnswers_append (first rest : List (Option String)) :
    joinedAnswers (first ++ rest) = joinedAnswers first ++ joinedAnswers rest := by
  rw [joinedAnswers, List.map_append, String.join_append]
  rfl

theorem joinedAnswers_cons (answer : Option String) (rest : List (Option String)) :
    joinedAnswers (answer :: rest) = answer.getD "" ++ joinedAnswers rest := by
  rw [joinedAnswers, List.map_cons, String.join_cons]
  rfl

theorem joinedAnswers_of_none {answers : List (Option String)}
    (silent : ∀ answer ∈ answers, answer = none) : joinedAnswers answers = "" := by
  induction answers with
  | nil => rfl
  | cons answer rest ih =>
      obtain ⟨isNone, others⟩ := List.forall_mem_cons.mp silent
      rw [joinedAnswers_cons, isNone, ih others]
      rfl

namespace Connective

def explained (connective : Connective) (iteration : Int) (answers : List (Option String)) :
    Option String :=
  if 0 < iteration && connective.holds (answers.map Option.isSome) then
    some (joinedAnswers answers)
  else none

theorem isSome_explained (connective : Connective) (iteration : Int)
    (answers : List (Option String)) :
    (connective.explained iteration answers).isSome =
      (decide (0 < iteration) && connective.holds (answers.map Option.isSome)) := by
  rw [explained]
  split
  next holds => rw [holds]; rfl
  next fails => exact (eq_false_of_ne_true fails).symm

/-- Where the outer one of two sets of a kind holds, the inner one contributes what its own members
contribute. -/
theorem getD_explained {connective : Connective} {iteration : Int} (later : 0 < iteration)
    {before members after : List (Option String)}
    (met : connective.holds ((before ++ members ++ after).map Option.isSome) = true) :
    (connective.explained iteration members).getD "" = joinedAnswers members := by
  rw [explained]
  split
  next => rfl
  next fails =>
    symm
    apply joinedAnswers_of_none
    simp only [later, decide_true, Bool.true_and] at fails
    cases connective with
    | all =>
        refine absurd (List.all_eq_true.mpr ?_) fails
        intro verdict member
        refine List.all_eq_true.mp met verdict ?_
        simp only [List.map_append, List.mem_append]
        exact .inl (.inr member)
    | any =>
        intro answer member
        cases answer with
        | none => rfl
        | some reason =>
            exact absurd (List.any_eq_true.mpr ⟨true, List.mem_map_of_mem member, rfl⟩) fails

theorem explained_nested (connective : Connective) (iteration : Int)
    (before members after : List (Option String)) :
    connective.explained iteration
        (before ++ connective.explained iteration members :: after) =
      connective.explained iteration (before ++ members ++ after) := by
  by_cases later : 0 < iteration
  case neg => simp [explained, later]
  have sameVerdict : connective.holds
        ((before ++ connective.explained iteration members :: after).map Option.isSome) =
      connective.holds ((before ++ members ++ after).map Option.isSome) := by
    rw [List.map_append, List.map_cons, isSome_explained]
    cases connective with
    | all => simp [later, holds]
    | any => simp [later, holds]
  rw [explained, explained.eq_def _ _ (before ++ members ++ after), sameVerdict]
  split
  next met =>
    rw [joinedAnswers_append, joinedAnswers_cons,
      getD_explained later (Bool.and_eq_true _ _ ▸ met).2, joinedAnswers_append,
      joinedAnswers_append, String.append_assoc]
  next => rfl

end Connective

namespace Criterion

variable {S : Type} [Scalar S]

mutual

def explain (problem : Problem S) (state : SolverState S) :
    Criterion S → Int → Watch S (Option String)
  | .single number test, iteration => do
      let holds ← checkTest problem state number test iteration
      let memory ← Watch.criterionMemory number
      return if holds then some memory.reason else none
  | .set _ connective members, iteration => do
      let answers ← explainEach problem state members iteration
      return connective.explained iteration answers

def explainEach (problem : Problem S) (state : SolverState S) :
    List (Criterion S) → Int → Watch S (List (Option String))
  | [], _ => return []
  | first :: rest, iteration => do
      let answer ← explain problem state first iteration
      let later ← explainEach problem state rest iteration
      return answer :: later

end

variable (problem : Problem S) (state : SolverState S) (iteration : Int)

theorem explainEach_append (first rest : List (Criterion S)) :
    explainEach problem state (first ++ rest) iteration = do
      let answers ← explainEach problem state first iteration
      let others ← explainEach problem state rest iteration
      return answers ++ others := by
  induction first with
  | nil => simp [explainEach]
  | cons criterion first ih => simp [explainEach, ih]

theorem explain_nested (number other inner : Nat) (connective : Connective)
    (before members after : List (Criterion S)) :
    explain problem state (.set number connective (before ++ .set inner connective members :: after))
        iteration =
      explain problem state (.set other connective (before ++ members ++ after)) iteration := by
  simp only [explain, explainEach, explainEach_append, bind_assoc, pure_bind]
  simp only [Connective.explained_nested, List.append_assoc]

theorem explain_inside {old new : Criterion S}
    (same : explain problem state old iteration = explain problem state new iteration)
    (number other : Nat) (connective : Connective) (before after : List (Criterion S)) :
    explain problem state (.set number connective (before ++ old :: after)) iteration =
      explain problem state (.set other connective (before ++ new :: after)) iteration := by
  simp only [explain, explainEach, explainEach_append, same]

end Criterion

/-! Two calls side by side. -/

section Echoes

variable {S α β γ δ : Type} {relation : Journal × Workspace S → Journal × Workspace S → Prop}

def Echoes (relation : Journal × Workspace S → Journal × Workspace S → Prop)
    (told : α → Workspace S → β → Prop) (left : Except (Fault S) α × (Journal × Workspace S))
    (right : Except (Fault S) β × (Journal × Workspace S)) : Prop :=
  relation left.2 right.2 ∧
    ((∃ fault, left.1 = .error fault ∧ right.1 = .error fault) ∨
      ∃ value answer, left.1 = .ok value ∧ right.1 = .ok answer ∧ told value left.2.2 answer)

theorem Echoes.bind {told : α → Workspace S → β → Prop} {later : γ → Workspace S → δ → Prop}
    {left : Watch S α} {right : Watch S β} {leftNext : α → Watch S γ} {rightNext : β → Watch S δ}
    {before mirrored : Journal × Workspace S}
    (first : Echoes relation told (left.run before) (right.run mirrored))
    (next : ∀ value answer middle middle', left.run before = (.ok value, middle) →
      relation middle middle' → told value middle.2 answer →
      Echoes relation later ((leftNext value).run middle) ((rightNext answer).run middle')) :
    Echoes relation later ((left >>= leftNext).run before) ((right >>= rightNext).run mirrored) := by
  rcases ran : left.run before with ⟨outcome, middle⟩
  rcases ran' : right.run mirrored with ⟨outcome', middle'⟩
  rw [ran, ran'] at first
  obtain ⟨related, ⟨fault, rfl, rfl⟩ | ⟨value, answer, rfl, rfl, holds⟩⟩ := first
  · rw [run_bind_of_error ran, run_bind_of_error ran']
    exact ⟨related, .inl ⟨fault, rfl, rfl⟩⟩
  · rw [run_bind_of_ok ran, run_bind_of_ok ran']
    exact next value answer middle middle' ran related holds

end Echoes

namespace Criterion

variable {S : Type} [Scalar S] {problem : Problem S} {state : SolverState S} {iteration : Int}

theorem checkTest_keeps_reason {number other : Nat} (different : number ≠ other)
    (test : StoppingTest S) :
    Keeps (fun workspace : Workspace S => (workspace.criterion other).reason)
      (checkTest problem state number test iteration) := by
  rintro ⟨journal, workspace⟩
  by_cases opening : iteration = 0
  · subst opening
    rw [run_checkTest_zero problem state number test journal workspace]
    simp only [Workspace.criterion_changeCriterion_of_ne _ _ _ different, reason_tick]
  · rw [run_checkTest problem state number test opening journal workspace]
    rcases (test.judge problem state (workspace.criterion number) workspace.clock iteration).run
      journal with ⟨_ | verdict, after⟩
    · rfl
    · simp only [Workspace.criterion_changeCriterion_of_ne _ _ _ different, reason_tick]

omit [Scalar S] in
theorem setReason_keeps_reason {number other : Nat} (different : number ≠ other) (reason : String) :
    Keeps (fun workspace : Workspace S => (workspace.criterion other).reason)
      (Watch.setReason number reason) :=
  fun before => congrArg CriterionMemory.reason
    (Workspace.criterion_changeCriterion_of_ne before.2 number _ different)

theorem checkEach_keeps_reason {members : List (Criterion S)} {other : Nat}
    (outside : other ∉ numbersOfAll members) :
    Keeps (fun workspace : Workspace S => (workspace.criterion other).reason)
      (checkEach problem state members iteration) :=
  checkEach_keeps members
    (fun _ inside test => checkTest_keeps_reason (ne_of_mem_of_not_mem inside outside) test)
    fun _ inside reason => setReason_keeps_reason (ne_of_mem_of_not_mem inside outside) reason

variable (problem state iteration) {leaves : List (Nat × StoppingTest S)}

abbrev Level (leaves : List (Nat × StoppingTest S)) :
    Journal × Workspace S → Journal × Workspace S → Prop :=
  Beside False (Workspace.Agree (leaves.map Prod.fst) leaves)

theorem checkTest_level {number : Nat} {test : StoppingTest S} (inside : (number, test) ∈ leaves) :
    Mirrors (Level leaves) (checkTest problem state number test iteration)
      (checkTest problem state number test iteration) := by
  by_cases opening : iteration = 0
  · subst opening
    rintro ⟨journal, workspace⟩ ⟨journal', workspace'⟩ ⟨sameJournal, agree⟩
    rw [run_checkTest_zero problem state number test journal workspace,
      run_checkTest_zero problem state number test journal' workspace']
    refine ⟨rfl, sameJournal, (agree.renew number test state.iterate).mono ?_ ?_⟩
    · intro other member
      exact List.mem_cons_of_mem number member
    · intro leaf member
      exact List.mem_cons_of_mem _ member
  · have alike : state.Alike False state := ⟨rfl, rfl, rfl, False.elim⟩
    exact checkTest_mirrors (alike.judged False.elim) opening inside

omit [Scalar S] in
theorem changeCriterion_level {left right : Workspace S} {number : Nat}
    (agree : left.Agree (leaves.map Prod.fst) leaves right) (outside : number ∉ leaves.map Prod.fst)
    (change : CriterionMemory S → CriterionMemory S) :
    (left.changeCriterion number change).Agree (leaves.map Prod.fst) leaves right := by
  have kept : ∀ other ∈ leaves.map Prod.fst,
      (left.changeCriterion number change).criterion other = left.criterion other := by
    intro other inside
    apply Workspace.criterion_changeCriterion_of_ne
    exact (ne_of_mem_of_not_mem inside outside).symm
  constructor
  · rw [Workspace.length_changeCriterion, agree.length]
  · intro later
    rw [Workspace.reading_changeCriterion, agree.reading]
  · intro other inside
    rw [kept other inside, agree.reason other inside]
  · intro leaf inside watches
    rw [kept leaf.1 (List.mem_map_of_mem inside), agree.lastIterate leaf inside watches]
  · intro leaf inside reads
    rw [kept leaf.1 (List.mem_map_of_mem inside), agree.started leaf inside reads]

structure BelongsTo (nodes : List (Criterion S)) (leaves : List (Nat × StoppingTest S))
    (workspace : Workspace S) : Prop where
  distinct : (nodes.map number).Nodup
  among : ∀ number test, .single number test ∈ nodes → (number, test) ∈ leaves
  apart : ∀ number connective members, .set number connective members ∈ nodes →
    number ∉ leaves.map Prod.fst
  allocated : ∀ node ∈ nodes, node.number < workspace.criteria.length

omit [Scalar S] in
theorem BelongsTo.part {nodes part : List (Criterion S)} {before after : Workspace S}
    (belongs : BelongsTo nodes leaves before) (sublist : part.Sublist nodes)
    (length : after.criteria.length = before.criteria.length) : BelongsTo part leaves after where
  distinct := belongs.distinct.sublist (sublist.map number)
  among := fun number test member => belongs.among number test (sublist.subset member)
  apart := fun number connective members member =>
    belongs.apart number connective members (sublist.subset member)
  allocated := fun node member => length ▸ belongs.allocated node (sublist.subset member)

structure Tells (criterion : Criterion S) (verdict : Bool) (after : Workspace S)
    (answer : Option String) : Prop where
  verdict : verdict = answer.isSome
  reason : ∀ reason, answer = some reason → (after.criterion criterion.number).reason = reason

structure TellAll (members : List (Criterion S)) (verdicts : List Bool) (after : Workspace S)
    (answers : List (Option String)) : Prop where
  each : verdicts = answers.map Option.isSome
  reasons : joinedReasons after members verdicts = joinedAnswers answers

omit [Scalar S] in
theorem Tells.cons {first : Criterion S} {rest : List (Criterion S)} {verdict : Bool}
    {verdicts : List Bool} {answer : Option String} {answers : List (Option String)}
    {middle after : Workspace S} (tells : first.Tells verdict middle answer)
    (others : TellAll rest verdicts after answers)
    (kept : (after.criterion first.number).reason = (middle.criterion first.number).reason) :
    TellAll (first :: rest) (verdict :: verdicts) after (answer :: answers) where
  each := by rw [List.map_cons, tells.verdict, others.each]
  reasons := by
    rw [joinedReasons_cons, joinedAnswers_cons, others.reasons, kept, tells.verdict]
    congr 1
    cases answer with
    | none => rfl
    | some reason => exact tells.reason reason rfl

theorem checkTest_echoes {number : Nat} {test : StoppingTest S}
    {before mirrored : Journal × Workspace S} (inside : (number, test) ∈ leaves)
    (level : Level leaves before mirrored) :
    Echoes (Level leaves) (Criterion.single number test).Tells
      ((check problem state (.single number test) iteration).run before)
      ((explain problem state (.single number test) iteration).run mirrored) := by
  rw [check, explain]
  obtain ⟨sameOutcome, related⟩ := checkTest_level problem state iteration inside before mirrored
    level
  rcases ran : (checkTest problem state number test iteration).run before with ⟨outcome, after⟩
  rcases ran' : (checkTest problem state number test iteration).run mirrored with
    ⟨outcome', after'⟩
  rw [ran, ran'] at sameOutcome related
  cases sameOutcome
  cases outcome with
  | error fault =>
      rw [run_bind_of_error ran']
      exact ⟨related, .inl ⟨fault, rfl, rfl⟩⟩
  | ok holds =>
      rw [run_bind_of_ok ran']
      have sameReason := related.2.reason number (List.mem_map_of_mem inside)
      refine ⟨related, .inr ⟨holds, _, rfl, rfl, ?_, ?_⟩⟩
      · cases holds <;> rfl
      · intro reason answered
        cases holds with
        | false => cases answered
        | true =>
            cases answered
            exact sameReason

mutual

theorem check_echoes : ∀ {criterion : Criterion S} {before mirrored : Journal × Workspace S},
    BelongsTo criterion.nodes leaves before.2 → Level leaves before mirrored →
    Echoes (Level leaves) criterion.Tells
      ((criterion.check problem state iteration).run before)
      ((criterion.explain problem state iteration).run mirrored)
  | .single number test, before, mirrored, belongs, level => by
      rw [nodes] at belongs
      have among := belongs.among number test (List.mem_singleton_self _)
      exact checkTest_echoes problem state iteration among level
  | .set number connective members, before, mirrored, belongs, level => by
      rw [nodes] at belongs
      have inside : BelongsTo (nodesOfAll members) leaves before.2 :=
        belongs.part (List.sublist_cons_self _ _) rfl
      rw [check, explain]
      refine (checkEach_echoes inside level).bind ?_
      intro verdicts answers middle middle' called related tell
      have length := (checkEach_keeps_length members).of_run called
      have allocated : number < middle.2.criteria.length :=
        length ▸ belongs.allocated _ List.mem_cons_self
      have outside : number ∉ leaves.map Prod.fst :=
        belongs.apart number connective members List.mem_cons_self
      let met := decide (0 < iteration) && connective.holds verdicts
      let written := if met then joinedReasons middle.2 members verdicts else ""
      change Echoes _ _ (.ok met, middle.1, middle.2.changeCriterion number
        fun memory => { memory with reason := written })
        (.ok (connective.explained iteration answers), middle')
      refine ⟨⟨related.1, changeCriterion_level related.2 outside _⟩, .inr ⟨_, _, rfl, rfl, ?_, ?_⟩⟩
      · rw [Connective.isSome_explained, ← tell.each]
      · intro reason answered
        rw [Connective.explained] at answered
        split at answered
        next holds =>
          rw [← tell.each] at holds
          rw [Criterion.number, Workspace.criterion_changeCriterion_self _ _ _ allocated]
          calc written = joinedReasons middle.2 members verdicts := if_pos holds
            _ = joinedAnswers answers := tell.reasons
            _ = reason := Option.some.inj answered
        next => cases answered

theorem checkEach_echoes : ∀ {members : List (Criterion S)}
    {before mirrored : Journal × Workspace S},
    BelongsTo (nodesOfAll members) leaves before.2 → Level leaves before mirrored →
    Echoes (Level leaves) (TellAll members)
      ((checkEach problem state members iteration).run before)
      ((explainEach problem state members iteration).run mirrored)
  | [], before, mirrored, _, level => by
      rw [checkEach, explainEach]
      exact ⟨level, .inr ⟨[], [], rfl, rfl, rfl, rfl⟩⟩
  | first :: rest, before, mirrored, belongs, level => by
      rw [nodesOfAll] at belongs
      rw [checkEach, explainEach]
      have inFirst := belongs.part (List.sublist_append_left _ _) rfl
      refine (check_echoes inFirst level).bind ?_
      intro verdict answer middle middle' called related tells
      have length := (check_keeps_length first).of_run called
      have inRest := belongs.part (List.sublist_append_right _ _) length
      refine (checkEach_echoes inRest related).bind ?_
      intro verdicts answers after after' calledRest stillRelated tell
      have outside : first.number ∉ numbersOfAll rest := by
        have distinct := belongs.distinct
        rw [List.map_append, map_number_nodes, map_number_nodesOfAll, List.nodup_append] at distinct
        intro again
        exact distinct.2.2 _ first.number_mem_numbers _ again rfl
      have kept := (checkEach_keeps_reason outside).of_run calledRest
      exact ⟨stillRelated, .inr ⟨_, _, rfl, rfl, tells.cons tell kept⟩⟩

end

end Criterion

end ProximalSplitting

import ProximalSplitting.Proofs.Stopping.Nesting

/-!
Which criteria were met since the last reset. A single criterion that holds writes its reason, one
that does not leaves it alone, and a call with iteration 0 takes all reasons away; the sets of a tree
write elsewhere. So whatever the sets make of the answers, the reasons of the single criteria tell
which of them have held since the last call with iteration 0, and why each of them did at last.
-/

namespace ProximalSplitting

namespace Criterion

open Effect Tracked

variable {S : Type}

variable [Scalar S]

section Definition

variable (problem : Problem S) (state : SolverState S) (iteration : Int)

mutual

/-- The single criteria that hold in the course of one call of a tree, with what they write. A call
that fails does not reach the criteria that are left. -/
def firings (before : Journal × Workspace S) : Criterion S → List (Nat × String)
  | .single number test =>
      if answer ((checkTest problem state number test iteration).run before).1 then
        [(number, written problem state iteration number test before)]
      else []
  | .set _ _ members => firingsOfAll before members

def firingsOfAll (before : Journal × Workspace S) : List (Criterion S) → List (Nat × String)
  | [] => []
  | first :: rest =>
      firings before first ++
        match (first.check problem state iteration).run before with
        | (.ok _, middle) => firingsOfAll middle rest
        | (.error _, _) => []

end

end Definition

variable {problem : Problem S} {state : SolverState S} {iteration : Int}

mutual

theorem number_mem_of_firing : ∀ {criterion : Criterion S} {before : Journal × Workspace S}
    {firing : Nat × String}, firing ∈ firings problem state iteration before criterion →
    firing.1 ∈ criterion.numbers
  | .single number test, before, firing, fired => by
      rw [firings] at fired
      split at fired
      · rw [List.mem_singleton.mp fired]
        exact List.mem_singleton_self number
      · cases fired
  | .set number connective members, before, firing, fired => by
      rw [firings] at fired
      exact List.mem_cons_of_mem number (number_mem_of_firingOfAll fired)

theorem number_mem_of_firingOfAll : ∀ {members : List (Criterion S)}
    {before : Journal × Workspace S} {firing : Nat × String},
    firing ∈ firingsOfAll problem state iteration before members →
    firing.1 ∈ numbersOfAll members
  | [], _, _, fired => by
      rw [firingsOfAll] at fired
      cases fired
  | first :: rest, before, firing, fired => by
      rw [firingsOfAll] at fired
      rw [numbersOfAll]
      rcases List.mem_append.mp fired with inFirst | later
      · exact List.mem_append_left _ (number_mem_of_firing inFirst)
      · split at later
        · exact List.mem_append_right _ (number_mem_of_firingOfAll later)
        · cases later

end

mutual

theorem firings_zero : ∀ (criterion : Criterion S) (before : Journal × Workspace S),
    firings problem state 0 before criterion = []
  | .single number test, (journal, workspace) => by
      rw [firings, run_checkTest_zero]
      rfl
  | .set number connective members, before => by
      rw [firings, firingsOfAll_zero members before]

theorem firingsOfAll_zero : ∀ (members : List (Criterion S)) (before : Journal × Workspace S),
    firingsOfAll problem state 0 before members = []
  | [], _ => by rw [firingsOfAll]
  | first :: rest, (journal, workspace) => by
      rw [firingsOfAll, firings_zero first, run_check_zero]
      exact firingsOfAll_zero rest _

end

section Writing

structure Writes (fired : List (Nat × String)) (number : Nat) (before after : Workspace S) : Prop where
  written : ∀ text, (number, text) ∈ fired → (after.criterion number).reason = text ∧ text ≠ ""
  kept : number ∉ fired.map Prod.fst →
    (after.criterion number).reason = (before.criterion number).reason

omit [Scalar S] in
theorem Writes.nil {number : Nat} {before after : Workspace S}
    (same : (after.criterion number).reason = (before.criterion number).reason) :
    Writes [] number before after :=
  ⟨fun _ fired => absurd fired List.not_mem_nil, fun _ => same⟩

theorem checkTest_writes {number : Nat} {test : StoppingTest S} {before : Journal × Workspace S}
    (later : iteration ≠ 0) (allocated : number < before.2.criteria.length) :
    Writes (firings problem state iteration before (.single number test)) number before.2
      ((checkTest problem state number test iteration).run before).2.2 := by
  have stillAllocated : number < (test.tick before.2).criteria.length := by
    rw [length_tick]
    exact allocated
  rw [firings]
  rcases ran : (checkTest problem state number test iteration).run before with ⟨outcome, after⟩
  match outcome, ran with
  | .error fault, ran =>
      refine .nil ?_
      rw [run_checkTest problem state number test later before.1 before.2] at ran
      split at ran
      · cases ran
      · cases ran
        rfl
  | .ok false, ran =>
      refine .nil ?_
      obtain ⟨verdict, _, fails, noted⟩ := checkTest_ok later ran
      rw [noted, Workspace.criterion_changeCriterion_self _ _ _ stillAllocated,
        ← reason_tick test before.2 number]
      simp [StoppingTest.note, fails]
  | .ok true, ran =>
      obtain ⟨change, changed, wrote⟩ := checkTest_changes allocated ran
      refine ⟨fun text fired => ?_, fun absent => absurd (List.mem_singleton_self number) absent⟩
      cases List.mem_singleton.mp fired
      rw [changed, Workspace.criterion_changeCriterion_self _ _ _ stillAllocated]
      exact wrote rfl

omit [Scalar S] in
theorem number_mem_of_leafOfAll {members : List (Criterion S)} {leaf : Nat × StoppingTest S}
    (inside : leaf ∈ leavesOfAll members) : leaf.1 ∈ numbersOfAll members := by
  rw [← map_number_nodesOfAll]
  exact List.mem_map.mpr ⟨_, mem_leavesOfAll_iff.mp inside, rfl⟩

theorem check_keeps_reason {criterion : Criterion S} {other : Nat}
    (outside : other ∉ criterion.numbers) :
    Keeps (fun workspace : Workspace S => (workspace.criterion other).reason)
      (criterion.check problem state iteration) :=
  check_keeps criterion
    (fun _ inside test => checkTest_keeps_reason (ne_of_mem_of_not_mem inside outside) test)
    fun _ inside reason => setReason_keeps_reason (ne_of_mem_of_not_mem inside outside) reason

theorem check_set_reason {number other : Nat} {connective : Connective}
    {members : List (Criterion S)} {before : Journal × Workspace S} (different : number ≠ other) :
    ((((Criterion.set number connective members).check problem state iteration).run
        before).2.2.criterion other).reason =
      (((checkEach problem state members iteration).run before).2.2.criterion other).reason := by
  rw [Stopping.run_check_set]
  rcases ran : (checkEach problem state members iteration).run before with ⟨outcome, middle⟩
  cases outcome with
  | error fault => rw [run_bind_of_error ran]
  | ok verdicts =>
      rw [run_bind_of_ok ran]
      exact setReason_keeps_reason different _ middle

omit [Scalar S] in
/-- The members after the first one leave its single criteria alone. -/
theorem Writes.before {fired later : List (Nat × String)} {number : Nat}
    {before middle after : Workspace S} (writes : Writes fired number before middle)
    (absent : number ∉ later.map Prod.fst)
    (kept : (after.criterion number).reason = (middle.criterion number).reason) :
    Writes (fired ++ later) number before after where
  written := fun text member => by
    rw [kept]
    refine writes.written text ((List.mem_append.mp member).resolve_right fun inLater => ?_)
    exact absent (List.mem_map_of_mem inLater)
  kept := fun nowhere => by
    rw [List.map_append, List.mem_append, not_or] at nowhere
    rw [kept, writes.kept nowhere.1]

omit [Scalar S] in
theorem Writes.after {earlier fired : List (Nat × String)} {number : Nat}
    {before middle after : Workspace S} (absent : number ∉ earlier.map Prod.fst)
    (kept : (middle.criterion number).reason = (before.criterion number).reason)
    (writes : Writes fired number middle after) : Writes (earlier ++ fired) number before after where
  written := fun text member => by
    refine writes.written text ((List.mem_append.mp member).resolve_left fun inEarlier => ?_)
    exact absent (List.mem_map_of_mem inEarlier)
  kept := fun nowhere => by
    rw [List.map_append, List.mem_append, not_or] at nowhere
    rw [writes.kept nowhere.2, kept]

theorem not_mem_firings {criterion : Criterion S} {before : Journal × Workspace S} {number : Nat}
    (outside : number ∉ criterion.numbers) :
    number ∉ (firings problem state iteration before criterion).map Prod.fst := by
  intro member
  obtain ⟨firing, fired, rfl⟩ := List.mem_map.mp member
  exact outside (number_mem_of_firing fired)

theorem not_mem_firingsOfAll {members : List (Criterion S)} {before : Journal × Workspace S}
    {number : Nat} (outside : number ∉ numbersOfAll members) :
    number ∉ (firingsOfAll problem state iteration before members).map Prod.fst := by
  intro member
  obtain ⟨firing, fired, rfl⟩ := List.mem_map.mp member
  exact outside (number_mem_of_firingOfAll fired)

mutual

theorem check_writes (later : iteration ≠ 0) : ∀ (criterion : Criterion S)
    {before : Journal × Workspace S}, criterion.numbers.Nodup →
    (∀ number ∈ criterion.numbers, number < before.2.criteria.length) →
    ∀ leaf ∈ criterion.leaves,
      Writes (firings problem state iteration before criterion) leaf.1 before.2
        ((criterion.check problem state iteration).run before).2.2
  | .single number test, before, _, allocated, leaf, member => by
      rw [List.mem_singleton.mp member, check]
      exact checkTest_writes later (allocated number (List.mem_singleton_self number))
  | .set number connective members, before, distinct, allocated, leaf, member => by
      rw [numbers, List.nodup_cons] at distinct
      rw [numbers] at allocated
      have inside := checkEach_writes later members distinct.2
        (fun other among => allocated other (List.mem_cons_of_mem number among)) leaf member
      have different : number ≠ leaf.1 := by
        rintro rfl
        exact distinct.1 (number_mem_of_leafOfAll member)
      rw [firings]
      refine ⟨fun text fired => ?_, fun absent => ?_⟩
      · rw [check_set_reason different]
        exact inside.written text fired
      · rw [check_set_reason different]
        exact inside.kept absent

theorem checkEach_writes (later : iteration ≠ 0) : ∀ (members : List (Criterion S))
    {before : Journal × Workspace S}, (numbersOfAll members).Nodup →
    (∀ number ∈ numbersOfAll members, number < before.2.criteria.length) →
    ∀ leaf ∈ leavesOfAll members,
      Writes (firingsOfAll problem state iteration before members) leaf.1 before.2
        ((checkEach problem state members iteration).run before).2.2
  | [], before, _, _, leaf, member => by cases member
  | first :: rest, before, distinct, allocated, leaf, member => by
      rw [numbersOfAll, List.nodup_append] at distinct
      rw [numbersOfAll] at allocated
      obtain ⟨firstDistinct, restDistinct, apart⟩ := distinct
      have firstAllocated := fun number among => allocated number (List.mem_append_left _ among)
      rw [firingsOfAll, checkEach]
      rcases ran : (first.check problem state iteration).run before with ⟨outcome, middle⟩
      -- The numbers are distinct, so that a leaf is either called with the first member or with the
      -- rest, and the other call leaves its reason alone.
      rcases List.mem_append.mp member with inFirst | inRest
      · have outside : leaf.1 ∉ numbersOfAll rest := fun again =>
          apart _ (number_mem_of_leaf inFirst) _ again rfl
        have writes := check_writes later first firstDistinct firstAllocated leaf inFirst
        rw [ran] at writes
        cases outcome with
        | error fault =>
            rw [run_bind_of_error ran]
            exact writes.before List.not_mem_nil rfl
        | ok verdict =>
            rw [run_bind_of_ok ran, ← map_eq_pure_bind, run_map]
            refine writes.before (not_mem_firingsOfAll outside) ?_
            exact checkEach_keeps_reason outside middle
      · have outside : leaf.1 ∉ first.numbers := fun again =>
          apart _ again _ (number_mem_of_leafOfAll inRest) rfl
        have kept := (check_keeps_reason outside).of_run ran
        cases outcome with
        | error fault =>
            rw [run_bind_of_error ran]
            exact .after (not_mem_firings outside) kept (.nil rfl)
        | ok verdict =>
            have restAllocated : ∀ number ∈ numbersOfAll rest, number < middle.2.criteria.length := by
              intro number among
              rw [(check_keeps_length first).of_run ran]
              exact allocated number (List.mem_append_right _ among)
            have writes := checkEach_writes later rest restDistinct restAllocated leaf inRest
            rw [run_bind_of_ok ran, ← map_eq_pure_bind, run_map]
            exact .after (not_mem_firings outside) kept writes

end

end Writing

section Calling

def firingsOn (criterion : Criterion S) (inquiry : Inquiry S) (before : Journal × Workspace S) :
    List (Nat × String) :=
  firings inquiry.problem inquiry.state inquiry.iteration before criterion

variable (criterion : Criterion S) (inquiry : Nat → Inquiry S)
  (memory : Nat → Journal × Workspace S) (done number : Nat)

/-- Among the first calls there is one at which the criterion with the number has held, and none
after it had iteration 0. -/
def FiredSinceReset : Prop :=
  ∃ call < done, number ∈ (criterion.firingsOn (inquiry call) (memory call)).map Prod.fst ∧
    ∀ later < done, call < later → (inquiry later).iteration ≠ 0

instance : Decidable (FiredSinceReset criterion inquiry memory done number) :=
  inferInstanceAs (Decidable (∃ call < done,
    number ∈ (criterion.firingsOn (inquiry call) (memory call)).map Prod.fst ∧
      ∀ later < done, call < later → (inquiry later).iteration ≠ 0))

def WrittenLast (text : String) : Prop :=
  ∃ call < done, (number, text) ∈ criterion.firingsOn (inquiry call) (memory call) ∧
    ∀ later < done, call < later →
      number ∉ (criterion.firingsOn (inquiry later) (memory later)).map Prod.fst

variable {criterion inquiry memory done number}

/-- Of the calls with a property that nothing has spoiled since, one more call is the latest, or it
spoils nothing and the latest one stays. -/
theorem exists_since_succ {holds spares : Nat → Prop} :
    (∃ call < done + 1, holds call ∧ ∀ later < done + 1, call < later → spares later) ↔
      holds done ∨
        spares done ∧ ∃ call < done, holds call ∧ ∀ later < done, call < later → spares later := by
  constructor
  · rintro ⟨call, bound, held, since⟩
    rcases Nat.lt_succ_iff_lt_or_eq.mp bound with earlier | rfl
    · refine .inr ⟨since done (Nat.lt_succ_self done) earlier, call, earlier, held, ?_⟩
      exact fun later below => since later (Nat.lt_succ_of_lt below)
    · exact .inl held
  · rintro (held | ⟨spared, call, earlier, held, since⟩)
    · exact ⟨done, Nat.lt_succ_self done, held, fun later below after => by omega⟩
    · refine ⟨call, Nat.lt_succ_of_lt earlier, held, fun later below after => ?_⟩
      rcases Nat.lt_succ_iff_lt_or_eq.mp below with before | rfl
      · exact since later before after
      · exact spared

theorem firedSinceReset_succ :
    FiredSinceReset criterion inquiry memory (done + 1) number ↔
      (inquiry done).iteration ≠ 0 ∧
        (number ∈ (criterion.firingsOn (inquiry done) (memory done)).map Prod.fst ∨
          FiredSinceReset criterion inquiry memory done number) := by
  have opens : number ∈ (criterion.firingsOn (inquiry done) (memory done)).map Prod.fst →
      (inquiry done).iteration ≠ 0 := by
    intro fired opening
    rw [firingsOn, opening, firings_zero] at fired
    cases fired
  rw [FiredSinceReset, exists_since_succ, and_or_left, and_iff_right_of_imp opens]
  rfl

theorem writtenLast_succ {text : String} :
    WrittenLast criterion inquiry memory (done + 1) number text ↔
      (number, text) ∈ criterion.firingsOn (inquiry done) (memory done) ∨
        number ∉ (criterion.firingsOn (inquiry done) (memory done)).map Prod.fst ∧
          WrittenLast criterion inquiry memory done number text :=
  exists_since_succ

variable (criterion inquiry memory done number)

structure Remembered (reason : String) : Prop where
  fired : reason ≠ "" ↔ FiredSinceReset criterion inquiry memory done number
  last : reason ≠ "" → (∃ text, WrittenLast criterion inquiry memory done number text) ∧
    ∀ text, WrittenLast criterion inquiry memory done number text → reason = text

variable {criterion inquiry memory done number}

theorem Calls.writes (calls : criterion.Calls inquiry memory) (distinct : criterion.numbers.Nodup)
    (later : (inquiry done).iteration ≠ 0) {leaf : Nat × StoppingTest S}
    (member : leaf ∈ criterion.leaves) :
    Writes (criterion.firingsOn (inquiry done) (memory done)) leaf.1 (memory done).2
      ((criterion.call (inquiry done)).run (memory done)).2.2 := by
  refine check_writes later criterion distinct (fun number among => ?_) leaf member
  rw [calls.length done]
  exact calls.allocated number among

theorem Remembered.next (calls : criterion.Calls inquiry memory)
    (distinct : criterion.numbers.Nodup) {leaf : Nat × StoppingTest S}
    (member : leaf ∈ criterion.leaves)
    (remembered : Remembered criterion inquiry memory done leaf.1
      ((memory done).2.criterion leaf.1).reason) :
    Remembered criterion inquiry memory (done + 1) leaf.1
      (((criterion.call (inquiry done)).run (memory done)).2.2.criterion leaf.1).reason := by
  -- A call with iteration 0 takes the reason away, and with it everything that has fired before.
  by_cases opening : (inquiry done).iteration = 0
  · have cleared : (((criterion.call (inquiry done)).run (memory done)).2.2.criterion
        leaf.1).reason = "" := by
      rw [call, opening, show memory done = ((memory done).1, (memory done).2) from rfl,
        run_check_zero]
      exact reason_renewed _ criterion (.inl (number_mem_of_leaf member))
    rw [cleared]
    refine ⟨⟨fun told => absurd rfl told, fun fired => ?_⟩, fun told => absurd rfl told⟩
    exact absurd opening (firedSinceReset_succ.mp fired).1
  · have writes := calls.writes distinct opening member
    by_cases fires : leaf.1 ∈ (criterion.firingsOn (inquiry done) (memory done)).map Prod.fst
    · obtain ⟨text, fired⟩ : ∃ text, (leaf.1, text) ∈
          criterion.firingsOn (inquiry done) (memory done) := by
        simpa using fires
      obtain ⟨wrote, nonempty⟩ := writes.written text fired
      rw [← wrote] at nonempty
      constructor
      · exact ⟨fun _ => firedSinceReset_succ.mpr ⟨opening, .inl fires⟩, fun _ => nonempty⟩
      · refine fun _ => ⟨⟨text, writtenLast_succ.mpr (.inl fired)⟩, fun other written => ?_⟩
        rcases writtenLast_succ.mp written with firedToo | ⟨absent, _⟩
        · exact (writes.written other firedToo).1
        · exact absurd fires absent
    · rw [writes.kept fires]
      constructor
      · rw [firedSinceReset_succ, remembered.fired]
        exact ⟨fun since => ⟨opening, .inr since⟩, fun since => since.2.resolve_left fires⟩
      · intro told
        obtain ⟨⟨text, last⟩, unique⟩ := remembered.last told
        refine ⟨⟨text, writtenLast_succ.mpr (.inr ⟨fires, last⟩)⟩, fun other written => ?_⟩
        refine unique other ((writtenLast_succ.mp written).resolve_left fun fired => ?_).2
        exact fires (List.mem_map_of_mem fired)

theorem Calls.remembered (calls : criterion.Calls inquiry memory)
    (distinct : criterion.numbers.Nodup)
    (fresh : ∀ leaf ∈ criterion.leaves, ((memory 0).2.criterion leaf.1).reason = "")
    {leaf : Nat × StoppingTest S} (member : leaf ∈ criterion.leaves) (done : Nat) :
    Remembered criterion inquiry memory done leaf.1 ((memory done).2.criterion leaf.1).reason := by
  induction done with
  | zero =>
      rw [fresh leaf member]
      refine ⟨⟨fun told => absurd rfl told, ?_⟩, fun told => absurd rfl told⟩
      rintro ⟨call, bound, _⟩
      exact absurd bound (Nat.not_lt_zero call)
  | succ done ih =>
      rw [calls.criterion_next done (number_mem_of_leaf member)]
      exact ih.next calls distinct member

/-- After each call of a tree of different single criteria, the active criteria are those that have
held in at least one call since the last one with iteration 0, from left to right, and each of them
gives as its reason what it wrote when it held for the last time. The answers of the sets above them
are of no importance, and a call may fail anywhere. -/
theorem active_iff_fired_since_reset (distinct : (criterion.leaves.map Prod.fst).Nodup)
    (proper : Proper criterion.nodes) (calls : criterion.Calls inquiry memory)
    (fresh : ∀ leaf ∈ criterion.leaves, ((memory 0).2.criterion leaf.1).reason = "") (done : Nat) :
    active ((criterion.call (inquiry done)).run (memory done)).2.2 criterion =
      (criterion.leaves.filter fun leaf =>
        FiredSinceReset criterion inquiry memory (done + 1) leaf.1).map
          (fun leaf => .single leaf.1 leaf.2) ∧
    ∀ leaf ∈ criterion.leaves, FiredSinceReset criterion inquiry memory (done + 1) leaf.1 →
      (∃ text, WrittenLast criterion inquiry memory (done + 1) leaf.1 text) ∧
      ∀ text, WrittenLast criterion inquiry memory (done + 1) leaf.1 text →
        (((criterion.call (inquiry done)).run (memory done)).2.2.criterion leaf.1).reason = text := by
  have numbers := nodup_numbers proper distinct
  have remembered : ∀ leaf ∈ criterion.leaves,
      Remembered criterion inquiry memory (done + 1) leaf.1
        (((criterion.call (inquiry done)).run (memory done)).2.2.criterion leaf.1).reason :=
    fun leaf member => (calls.remembered numbers fresh member done).next calls numbers member
  constructor
  · rw [active_eq]
    congr 1
    refine List.filter_congr fun leaf member => ?_
    exact decide_eq_decide.mpr (remembered leaf member).fired
  · intro leaf member since
    exact (remembered leaf member).last ((remembered leaf member).fired.mpr since)

/-- At the fourth call neither set holds, and the cost was below its threshold at the second only. -/
theorem sample_active_since_reset :
    (Sample.criterion.leaves.map Prod.fst).Nodup ∧ Proper Sample.criterion.nodes ∧
      Sample.criterion.Calls sampleInquiry sampleMemory ∧
      (∀ leaf ∈ Sample.criterion.leaves, ((sampleMemory 0).2.criterion leaf.1).reason = "") ∧
      answer ((Sample.criterion.call (sampleInquiry 3)).run (sampleMemory 3)).1 = false ∧
      active ((Sample.criterion.call (sampleInquiry 3)).run (sampleMemory 3)).2.2 Sample.criterion =
        [.single 1 (.change 2), .single 2 (.cost 8), .single 3 (.elapsed 0)] ∧
      (((Sample.criterion.call (sampleInquiry 3)).run (sampleMemory 3)).2.2.criterion 2).reason =
        "The algorithm reached a cost function value (0) less than the threshold (8).\n" := by
  have distinct : (Sample.criterion.leaves.map Prod.fst).Nodup := by decide
  have inOrder : Sample.criterion.leaves = [(0, .iterations (.integer 4)), (1, .change 2),
      (2, .cost 8), (3, .elapsed 0)] := rfl
  have fresh : ∀ leaf ∈ Sample.criterion.leaves,
      ((sampleMemory 0).2.criterion leaf.1).reason = "" := by decide
  have silent : ¬ FiredSinceReset Sample.criterion sampleInquiry sampleMemory 4 0 := by
    decide +kernel
  have fired : ∀ number ∈ [1, 2, 3],
      FiredSinceReset Sample.criterion sampleInquiry sampleMemory 4 number := by decide +kernel
  have last : WrittenLast Sample.criterion sampleInquiry sampleMemory 4 2
      "The algorithm reached a cost function value (0) less than the threshold (8).\n" :=
    ⟨1, by decide, by decide +kernel, by decide +kernel⟩
  obtain ⟨listed, reasons⟩ :=
    active_iff_fired_since_reset distinct proper_sample calls_sample fresh 3
  refine ⟨distinct, proper_sample, calls_sample, fresh, by decide +kernel, ?_, ?_⟩
  · rw [listed, inOrder]
    simp [silent, fired]
  · exact (reasons (2, .cost 8) (by simp [inOrder]) (fired 2 (by simp))).2 _ last

end Calling

end Criterion

end ProximalSplitting

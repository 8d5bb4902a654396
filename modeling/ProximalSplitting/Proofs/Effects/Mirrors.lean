import ProximalSplitting.Proofs.Effects.Laws

/-!
Two computations side by side. One mirrors the other under a relation of memories if, started from
related memories, both have the same outcome and leave related memories; more generally a relation
leads to others. A computation is pure if its outcome does not depend on the journal.
-/

namespace ProximalSplitting

namespace Effect

variable {ε σ τ α β : Type} {relation : σ → τ → Prop}

/-- From related memories both computations have the same outcome and lead to related memories. -/
def Mirrors (relation : σ → τ → Prop) (left : ExceptT ε (StateM σ) α)
    (right : ExceptT ε (StateM τ) α) : Prop :=
  ∀ before mirrored, relation before mirrored →
    (left.run before).1 = (right.run mirrored).1 ∧
      relation (left.run before).2 (right.run mirrored).2

theorem mirrored_run {left : ExceptT ε (StateM σ) α} {right : ExceptT ε (StateM τ) α} {before : σ}
    {mirrored : τ} {outcome : Except ε α} {after : σ}
    (same : (left.run before).1 = (right.run mirrored).1 ∧
      relation (left.run before).2 (right.run mirrored).2)
    (ran : left.run before = (outcome, after)) :
    ∃ mirroredAfter, right.run mirrored = (outcome, mirroredAfter) ∧
      relation after mirroredAfter := by
  rcases ran' : right.run mirrored with ⟨outcome', after'⟩
  rw [ran, ran'] at same
  obtain ⟨sameOutcome, related⟩ := same
  cases sameOutcome
  exact ⟨after', rfl, related⟩

theorem mirrors_pure (value : α) :
    Mirrors relation (pure value : ExceptT ε (StateM σ) α) (pure value) :=
  fun _ _ related => ⟨rfl, related⟩

theorem mirrors_bind {left : ExceptT ε (StateM σ) α} {right : ExceptT ε (StateM τ) α}
    {leftNext : α → ExceptT ε (StateM σ) β} {rightNext : α → ExceptT ε (StateM τ) β}
    (first : Mirrors relation left right)
    (next : ∀ value, Mirrors relation (leftNext value) (rightNext value)) :
    Mirrors relation (left >>= leftNext) (right >>= rightNext) := by
  intro before mirrored related
  obtain ⟨sameOutcome, stillRelated⟩ := first before mirrored related
  rcases ranLeft : left.run before with ⟨outcome, middle⟩
  rcases ranRight : right.run mirrored with ⟨outcome', middle'⟩
  rw [ranLeft, ranRight] at sameOutcome stillRelated
  cases sameOutcome
  cases outcome with
  | error _ =>
      rw [run_bind_of_error ranLeft, run_bind_of_error ranRight]
      exact ⟨rfl, stillRelated⟩
  | ok value =>
      rw [run_bind_of_ok ranLeft, run_bind_of_ok ranRight]
      exact next value middle middle' stillRelated

theorem mirrors_ite {condition : Prop} [Decidable condition]
    {left leftElse : ExceptT ε (StateM σ) α} {right rightElse : ExceptT ε (StateM τ) α}
    (holds : Mirrors relation left right) (fails : Mirrors relation leftElse rightElse) :
    Mirrors relation (if condition then left else leftElse)
      (if condition then right else rightElse) := by
  split
  · exact holds
  · exact fails

/-- From memories that are related at the start, both computations have the same outcome; the
memories that they leave always are in one relation, and in another one if nothing failed. -/
def Leads (start always passed : σ → τ → Prop) (left : ExceptT ε (StateM σ) α)
    (right : ExceptT ε (StateM τ) α) : Prop :=
  ∀ before mirrored, start before mirrored →
    (left.run before).1 = (right.run mirrored).1 ∧
      always (left.run before).2 (right.run mirrored).2 ∧
      ∀ value, (left.run before).1 = .ok value →
        passed (left.run before).2 (right.run mirrored).2

variable {start always middle passed : σ → τ → Prop}

theorem Mirrors.leads {left : ExceptT ε (StateM σ) α} {right : ExceptT ε (StateM τ) α}
    (mirrors : Mirrors relation left right)
    (weaken : ∀ before mirrored, relation before mirrored → always before mirrored) :
    Leads relation always relation left right := by
  intro before mirrored related
  obtain ⟨sameOutcome, stillRelated⟩ := mirrors before mirrored related
  exact ⟨sameOutcome, weaken _ _ stillRelated, fun _ _ => stillRelated⟩

theorem Leads.weaken {always' passed' : σ → τ → Prop} {left : ExceptT ε (StateM σ) α}
    {right : ExceptT ε (StateM τ) α} (leads : Leads start always passed left right)
    (weakenAlways : ∀ before mirrored, always before mirrored → always' before mirrored)
    (weakenPassed : ∀ before mirrored, passed before mirrored → passed' before mirrored) :
    Leads start always' passed' left right := by
  intro before mirrored related
  obtain ⟨sameOutcome, reached, ended⟩ := leads before mirrored related
  exact ⟨sameOutcome, weakenAlways _ _ reached, fun value ok => weakenPassed _ _ (ended value ok)⟩

theorem led_run {left : ExceptT ε (StateM σ) α} {right : ExceptT ε (StateM τ) α} {before : σ}
    {mirrored : τ} {value : α} {after : σ} (leads : Leads start always passed left right)
    (related : start before mirrored) (ran : left.run before = (.ok value, after)) :
    ∃ mirroredAfter, right.run mirrored = (.ok value, mirroredAfter) ∧
      passed after mirroredAfter := by
  obtain ⟨sameOutcome, _, reached⟩ := leads before mirrored related
  rcases ran' : right.run mirrored with ⟨outcome', after'⟩
  rw [ran, ran'] at sameOutcome reached
  cases sameOutcome
  exact ⟨after', rfl, reached value rfl⟩

theorem leads_bind {left : ExceptT ε (StateM σ) α} {right : ExceptT ε (StateM τ) α}
    {leftNext : α → ExceptT ε (StateM σ) β} {rightNext : α → ExceptT ε (StateM τ) β}
    (first : Leads start always middle left right)
    (next : ∀ value, Leads middle always passed (leftNext value) (rightNext value)) :
    Leads start always passed (left >>= leftNext) (right >>= rightNext) := by
  intro before mirrored related
  obtain ⟨sameOutcome, failed, reached⟩ := first before mirrored related
  rcases ranLeft : left.run before with ⟨outcome, between⟩
  rcases ranRight : right.run mirrored with ⟨outcome', between'⟩
  rw [ranLeft, ranRight] at sameOutcome failed reached
  cases sameOutcome
  cases outcome with
  | error _ =>
      rw [run_bind_of_error ranLeft, run_bind_of_error ranRight]
      exact ⟨rfl, failed, fun _ ended => nomatch ended⟩
  | ok value =>
      rw [run_bind_of_ok ranLeft, run_bind_of_ok ranRight]
      exact next value between between' (reached value rfl)

theorem leads_ite {condition : Prop} [Decidable condition]
    {left leftElse : ExceptT ε (StateM σ) α} {right rightElse : ExceptT ε (StateM τ) α}
    (holds : Leads start always passed left right)
    (fails : Leads start always passed leftElse rightElse) :
    Leads start always passed (if condition then left else leftElse)
      (if condition then right else rightElse) := by
  split
  · exact holds
  · exact fails

/-- From memories that are related at the start, the right computation succeeds wherever the left
one does, with the same value and with memories in another relation. How they fail is left open. -/
def Carries (start passed : σ → τ → Prop) (left : ExceptT ε (StateM σ) α)
    (right : ExceptT ε (StateM τ) α) : Prop :=
  ∀ ⦃before mirrored value after⦄, start before mirrored → left.run before = (.ok value, after) →
    ∃ mirroredAfter, right.run mirrored = (.ok value, mirroredAfter) ∧ passed after mirroredAfter

theorem Mirrors.carries {left : ExceptT ε (StateM σ) α} {right : ExceptT ε (StateM τ) α}
    (mirrors : Mirrors relation left right) : Carries relation relation left right :=
  fun before mirrored _ _ related ran => mirrored_run (mirrors before mirrored related) ran

theorem carries_pure (value : α) :
    Carries start start (pure value : ExceptT ε (StateM σ) α) (pure value) :=
  (mirrors_pure value).carries

theorem carries_bind {left : ExceptT ε (StateM σ) α} {right : ExceptT ε (StateM τ) α}
    {leftNext : α → ExceptT ε (StateM σ) β} {rightNext : α → ExceptT ε (StateM τ) β}
    (first : Carries start middle left right)
    (next : ∀ value, Carries middle passed (leftNext value) (rightNext value)) :
    Carries start passed (left >>= leftNext) (right >>= rightNext) := by
  intro before mirrored value after related ran
  obtain ⟨found, between, ranFirst, ranNext⟩ := run_bind_ok_iff.mp ran
  obtain ⟨between', ranFirst', stillRelated⟩ := first related ranFirst
  obtain ⟨after', ranNext', reached⟩ := next found stillRelated ranNext
  exact ⟨after', run_bind_ok_iff.mpr ⟨found, between', ranFirst', ranNext'⟩, reached⟩

theorem carries_ite {condition : Prop} [Decidable condition]
    {left leftElse : ExceptT ε (StateM σ) α} {right rightElse : ExceptT ε (StateM τ) α}
    (holds : Carries start passed left right) (fails : Carries start passed leftElse rightElse) :
    Carries start passed (if condition then left else leftElse)
      (if condition then right else rightElse) := by
  split
  · exact holds
  · exact fails

variable {item : Type}

theorem mirrors_foldlM {left : α → item → ExceptT ε (StateM σ) α}
    {right : α → item → ExceptT ε (StateM τ) α}
    (each : ∀ value next, Mirrors relation (left value next) (right value next))
    (items : List item) (start : α) :
    Mirrors relation (items.foldlM left start) (items.foldlM right start) := by
  induction items generalizing start with
  | nil => exact mirrors_pure start
  | cons first rest ih =>
      rw [List.foldlM_cons, List.foldlM_cons]
      exact mirrors_bind (each start first) ih

theorem mirrors_mapM {left : item → ExceptT ε (StateM σ) α}
    {right : item → ExceptT ε (StateM τ) α}
    (each : ∀ next, Mirrors relation (left next) (right next)) (items : List item) :
    Mirrors relation (items.mapM left) (items.mapM right) := by
  induction items with
  | nil =>
      rw [List.mapM_nil, List.mapM_nil]
      exact mirrors_pure []
  | cons first rest ih =>
      rw [List.mapM_cons, List.mapM_cons]
      exact mirrors_bind (each first) fun value => mirrors_bind ih fun later => mirrors_pure _

end Effect

namespace Compute

open Effect

variable {S α β item : Type}

/-- The outcome is the same whatever the journal holds. -/
def Pure (computation : Compute S α) : Prop :=
  Mirrors (fun _ _ : Journal => True) computation computation

theorem Pure.outcome {computation : Compute S α} (pure : computation.Pure)
    (left right : Journal) : (computation.run left).1 = (computation.run right).1 :=
  (pure left right trivial).1

theorem Pure.unique {computation : Compute S α} (pure : computation.Pure) {left right : α}
    (yields : computation.Yields left) (yieldsToo : computation.Yields right) : left = right := by
  obtain ⟨journal, _, ran⟩ := yields
  obtain ⟨elsewhere, _, ranToo⟩ := yieldsToo
  have same := pure.outcome journal elsewhere
  rw [ran, ranToo] at same
  exact Except.ok.inj same

theorem Pure.gives {computation : Compute S α} (pure : computation.Pure) {value : α}
    (yields : computation.Yields value) : computation.Gives value := by
  intro journal
  obtain ⟨elsewhere, _, ran⟩ := yields
  have same := pure.outcome journal elsewhere
  rw [ran] at same
  exact ⟨(computation.run journal).2, Prod.ext same rfl⟩

theorem Pure.of_outcome {computation : Compute S α}
    (same : ∀ left right, (computation.run left).1 = (computation.run right).1) :
    computation.Pure := fun left right _ => ⟨same left right, trivial⟩

theorem pure_pure (value : α) : (pure value : Compute S α).Pure := mirrors_pure value

theorem pure_attempt (outcome : Except (Fault S) α) : (attempt outcome).Pure :=
  fun _ _ _ => ⟨rfl, trivial⟩

theorem pure_liftM (outcome : Except (Fault S) α) :
    (liftM outcome : Compute S α).Pure := pure_attempt outcome

theorem pure_fail (fault : Fault S) : (fail fault : Compute S α).Pure :=
  pure_attempt (.error fault)

theorem pure_expect (fault : Fault S) (value : Option α) : (expect fault value).Pure := by
  cases value with
  | none => exact pure_fail fault
  | some found => exact pure_pure found

theorem pure_report (message : String) : (report message : Compute S Unit).Pure :=
  fun _ _ _ => ⟨rfl, trivial⟩

theorem Pure.bind {computation : Compute S α} {next : α → Compute S β}
    (first : computation.Pure) (rest : ∀ value, (next value).Pure) :
    (computation >>= next).Pure := mirrors_bind first rest

theorem Pure.ite {condition : Prop} [Decidable condition] {left right : Compute S α}
    (holds : left.Pure) (fails : right.Pure) : (if condition then left else right).Pure :=
  mirrors_ite holds fails

theorem Pure.foldlM {step : α → item → Compute S α} (each : ∀ value next, (step value next).Pure)
    (items : List item) (start : α) : (items.foldlM step start).Pure :=
  mirrors_foldlM each items start

theorem Pure.mapM {step : item → Compute S α} (each : ∀ next, (step next).Pure)
    (items : List item) : (items.mapM step).Pure := mirrors_mapM each items

theorem Pure.compiledAs {computation : Compute S α} (pure : computation.Pure) (name : String) :
    (compiledAs name computation).Pure :=
  Pure.bind (fun _ _ _ => ⟨rfl, trivial⟩) fun _ => pure

end Compute

namespace Tracked

open Effect

variable {S M N α : Type}

def Beside (steady : Prop) (relation : M → N → Prop) (left : Journal × M)
    (right : Journal × N) : Prop :=
  (left.1 = right.1 ∨ steady) ∧ relation left.2 right.2

variable {steady : Prop} {relation : M → N → Prop}

theorem outcome_of_journals {computation : Compute S α} (pure : steady → computation.Pure)
    {left right : Journal} (journals : left = right ∨ steady) :
    (computation.run left).1 = (computation.run right).1 ∧
      ((computation.run left).2 = (computation.run right).2 ∨ steady) := by
  rcases journals with same | isSteady
  · rw [same]
    exact ⟨rfl, .inl rfl⟩
  · exact ⟨(pure isSteady).outcome left right, .inr isSteady⟩

theorem mirrors_liftM {computation : Compute S α} (pure : steady → computation.Pure) :
    Mirrors (Beside steady relation) (liftM computation : Tracked S M α)
      (liftM computation : Tracked S N α) := by
  intro before mirrored related
  obtain ⟨sameOutcome, journals⟩ := outcome_of_journals pure related.1
  rw [run_liftM, run_liftM]
  exact ⟨sameOutcome, journals, related.2⟩

theorem mirrors_fail (fault : Fault S) :
    Mirrors (Beside steady relation) (fail fault : Tracked S M α) (fail fault : Tracked S N α) :=
  fun _ _ related => ⟨rfl, related⟩

theorem mirrors_update {left : M → M} {right : N → N}
    (keeps : ∀ before mirrored, relation before mirrored → relation (left before) (right mirrored)) :
    Mirrors (Beside steady relation) (update left : Tracked S M Unit)
      (update right : Tracked S N Unit) :=
  fun before mirrored related => ⟨rfl, related.1, keeps before.2 mirrored.2 related.2⟩

theorem mirrors_read_bind {left : M → Tracked S M α} {right : N → Tracked S N α}
    (next : ∀ before mirrored, relation before mirrored →
      Mirrors (Beside steady relation) (left before) (right mirrored)) :
    Mirrors (Beside steady relation) (read >>= left) (read >>= right) :=
  fun before mirrored related =>
    next before.2 mirrored.2 related.2 before mirrored related

theorem leads_fail {start always passed : Journal × M → Journal × N → Prop} (fault : Fault S)
    (weaken : ∀ before mirrored, start before mirrored → always before mirrored) :
    Leads start always passed (fail fault : Tracked S M α) (fail fault : Tracked S N α) :=
  fun before mirrored related => ⟨rfl, weaken before mirrored related, fun _ ended => nomatch ended⟩

theorem mirrors_part {L R : Type} {getLeft : L → M} {setLeft : M → L → L} {getRight : R → N}
    {setRight : N → R → R} {whole : L → R → Prop} {left : Tracked S M α} {right : Tracked S N α}
    (mirrors : Mirrors (Beside steady relation) left right)
    (inside : ∀ before mirrored, whole before mirrored →
      relation (getLeft before) (getRight mirrored))
    (outside : ∀ before mirrored partLeft partRight, whole before mirrored →
      relation partLeft partRight → whole (setLeft partLeft before) (setRight partRight mirrored)) :
    Mirrors (Beside steady whole) (part getLeft setLeft left) (part getRight setRight right) := by
  intro before mirrored related
  obtain ⟨sameOutcome, journals, parts⟩ := mirrors (before.1, getLeft before.2)
    (mirrored.1, getRight mirrored.2) ⟨related.1, inside _ _ related.2⟩
  rw [run_part, run_part]
  exact ⟨sameOutcome, journals, outside _ _ _ _ related.2 parts⟩

theorem carries_part {L R : Type} {getLeft : L → M} {setLeft : M → L → L} {getRight : R → N}
    {setRight : N → R → R} {whole : L → R → Prop} {left : Tracked S M α} {right : Tracked S N α}
    (carries : Carries (Beside steady relation) (Beside steady relation) left right)
    (inside : ∀ before mirrored, whole before mirrored →
      relation (getLeft before) (getRight mirrored))
    (outside : ∀ before mirrored partLeft partRight, whole before mirrored →
      relation partLeft partRight → whole (setLeft partLeft before) (setRight partRight mirrored)) :
    Carries (Beside steady whole) (Beside steady whole) (part getLeft setLeft left)
      (part getRight setRight right) := by
  rintro before mirrored value after related ran
  rcases onPart : left.run (before.1, getLeft before.2) with ⟨outcome, left'⟩
  rw [run_part, onPart] at ran
  cases ran
  have beside : Beside steady relation (before.1, getLeft before.2)
      (mirrored.1, getRight mirrored.2) := ⟨related.1, inside _ _ related.2⟩
  obtain ⟨right', onPart', journals, parts⟩ := carries beside onPart
  refine ⟨(right'.1, setRight right'.2 mirrored.2), ?_, journals,
    outside _ _ _ _ related.2 parts⟩
  rw [run_part, onPart']

end Tracked

end ProximalSplitting

import ProximalSplitting.Proofs.Effects.Mirrors

/-!
Computations that meet: started from memories in one relation, they lead to memories in another one
if both succeed. In the strict case they also fail together, with one fault.
-/

namespace ProximalSplitting

namespace Effect

variable {ε σ τ α β : Type} {strict : Prop} {start middle passed relation : σ → τ → Prop}

def Meets (strict : Prop) (start passed : σ → τ → Prop) (left : ExceptT ε (StateM σ) α)
    (right : ExceptT ε (StateM τ) α) : Prop :=
  ∀ before mirrored, start before mirrored →
    (strict → (left.run before).1 = (right.run mirrored).1) ∧
      ∀ value found, (left.run before).1 = .ok value → (right.run mirrored).1 = .ok found →
        value = found ∧ passed (left.run before).2 (right.run mirrored).2

theorem Mirrors.meets {left : ExceptT ε (StateM σ) α} {right : ExceptT ε (StateM τ) α}
    (mirrors : Mirrors relation left right) : Meets strict relation relation left right := by
  intro before mirrored related
  obtain ⟨sameOutcome, stillRelated⟩ := mirrors before mirrored related
  refine ⟨fun _ => sameOutcome, ?_⟩
  intro value found leftOk rightOk
  rw [leftOk, rightOk] at sameOutcome
  exact ⟨Except.ok.inj sameOutcome, stillRelated⟩

theorem meets_bind {left : ExceptT ε (StateM σ) α} {right : ExceptT ε (StateM τ) α}
    {leftNext : α → ExceptT ε (StateM σ) β} {rightNext : α → ExceptT ε (StateM τ) β}
    (first : Meets strict start middle left right)
    (next : ∀ value, Meets strict middle passed (leftNext value) (rightNext value)) :
    Meets strict start passed (left >>= leftNext) (right >>= rightNext) := by
  intro before mirrored related
  obtain ⟨sameOutcome, reached⟩ := first before mirrored related
  rcases ranLeft : left.run before with ⟨outcome, between⟩
  rcases ranRight : right.run mirrored with ⟨outcome', between'⟩
  rw [ranLeft, ranRight] at sameOutcome reached
  cases outcome with
  | error fault =>
      rw [run_bind_of_error ranLeft]
      constructor
      · intro isStrict
        cases sameOutcome isStrict
        rw [run_bind_of_error ranRight]
      · intro value found leftOk
        cases leftOk
  | ok value =>
      rw [run_bind_of_ok ranLeft]
      cases outcome' with
      | error fault =>
          rw [run_bind_of_error ranRight]
          constructor
          · intro isStrict
            cases sameOutcome isStrict
          · intro value found _ rightOk
            cases rightOk
      | ok found =>
          rw [run_bind_of_ok ranRight]
          obtain ⟨rfl, stillRelated⟩ := reached value found rfl rfl
          exact next value between between' stillRelated

theorem meets_foldlM {item : Type} {left : α → item → ExceptT ε (StateM σ) α}
    {right : α → item → ExceptT ε (StateM τ) α}
    (each : ∀ value next, Meets strict relation relation (left value next) (right value next))
    (items : List item) (value : α) :
    Meets strict relation relation (items.foldlM left value) (items.foldlM right value) := by
  induction items generalizing value with
  | nil => exact (mirrors_pure value).meets
  | cons first rest ih =>
      rw [List.foldlM_cons, List.foldlM_cons]
      exact meets_bind (each value first) ih

theorem Meets.keeping {fact : Prop} {left : ExceptT ε (StateM σ) α} {right : ExceptT ε (StateM τ) α}
    (meets : Meets strict start passed left right) :
    Meets strict (fun before mirrored => start before mirrored ∧ fact)
      (fun after reached => passed after reached ∧ fact) left right := by
  intro before mirrored related
  obtain ⟨sameOutcome, reached⟩ := meets before mirrored related.1
  refine ⟨sameOutcome, ?_⟩
  intro value found leftOk rightOk
  obtain ⟨same, ended⟩ := reached value found leftOk rightOk
  exact ⟨same, ended, related.2⟩

end Effect

def Journal.SameButMessages (left right : Journal) : Prop :=
  left.compiler = right.compiler ∧ left.counters = right.counters

namespace Compute

variable {S α β : Type}

structure Unnoticed (alike : Journal → Journal → Prop) : Prop where
  refl : ∀ journal, alike journal journal
  symm : ∀ {left right}, alike left right → alike right left
  trans : ∀ {left middle right}, alike left middle → alike middle right → alike left right
  messages : ∀ journal messages, alike journal { journal with messages }

def Respects (alike : Journal → Journal → Prop) (computation : Compute S α) : Prop :=
  Effect.Mirrors alike computation computation

theorem unnoticed_all : Unnoticed fun _ _ => True :=
  ⟨fun _ => trivial, fun _ => trivial, fun _ _ => trivial, fun _ _ => trivial⟩

/-- Functions that notice everything but messages may count their calls. -/
theorem unnoticed_messages : Unnoticed Journal.SameButMessages where
  refl _ := ⟨rfl, rfl⟩
  symm same := ⟨same.1.symm, same.2.symm⟩
  trans first second := ⟨first.1.trans second.1, first.2.trans second.2⟩
  messages _ _ := ⟨rfl, rfl⟩

variable {alike : Journal → Journal → Prop}

theorem respects_attempt (outcome : Except (Fault S) α) : (attempt outcome).Respects alike :=
  fun _ _ related => ⟨rfl, related⟩

theorem respects_pure (value : α) : (pure value : Compute S α).Respects alike :=
  respects_attempt (.ok value)

theorem Respects.bind {computation : Compute S α} {next : α → Compute S β}
    (first : computation.Respects alike) (rest : ∀ value, (next value).Respects alike) :
    (computation >>= next).Respects alike := Effect.mirrors_bind first rest

end Compute

namespace Tracked

open Effect

variable {S M N α : Type} {alike : Journal → Journal → Prop} {relation : M → N → Prop}

def Abreast (alike : Journal → Journal → Prop) (relation : M → N → Prop) (left : Journal × M)
    (right : Journal × N) : Prop :=
  alike left.1 right.1 ∧ relation left.2 right.2

theorem abreast_liftM {computation : Compute S α} (respects : computation.Respects alike) :
    Mirrors (Abreast alike relation) (liftM computation : Tracked S M α)
      (liftM computation : Tracked S N α) := by
  intro before mirrored related
  obtain ⟨sameOutcome, journals⟩ := respects before.1 mirrored.1 related.1
  rw [run_liftM, run_liftM]
  exact ⟨sameOutcome, journals, related.2⟩

theorem abreast_fail (fault : Fault S) :
    Mirrors (Abreast alike relation) (fail fault : Tracked S M α) (fail fault : Tracked S N α) :=
  fun _ _ related => ⟨rfl, related⟩

theorem abreast_update {left : M → M} {right : N → N}
    (keeps : ∀ before mirrored, relation before mirrored → relation (left before) (right mirrored)) :
    Mirrors (Abreast alike relation) (update left : Tracked S M Unit)
      (update right : Tracked S N Unit) :=
  fun before mirrored related => ⟨rfl, related.1, keeps before.2 mirrored.2 related.2⟩

theorem abreast_read_bind {left : M → Tracked S M α} {right : N → Tracked S N α}
    (next : ∀ before mirrored, relation before mirrored →
      Mirrors (Abreast alike relation) (left before) (right mirrored)) :
    Mirrors (Abreast alike relation) (read >>= left) (read >>= right) :=
  fun before mirrored related => next before.2 mirrored.2 related.2 before mirrored related

end Tracked

end ProximalSplitting

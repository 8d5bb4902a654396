import ProximalSplitting.Proofs.Effects.Mirrors
import ProximalSplitting.Proofs.Effects.Outcomes

/-!
Computations that find different things of which one tells the other. The outcomes of two of them
match if, whatever the journals hold, both fail with one fault or both find values that are related.
-/

namespace ProximalSplitting

open Effect

namespace Compute

variable {S α β γ δ item : Type} {related : α → β → Prop}

def Matches (related : α → β → Prop) (left : Compute S α) (right : Compute S β) : Prop :=
  ∀ before mirrored,
    (∃ fault, (left.run before).1 = .error fault ∧ (right.run mirrored).1 = .error fault) ∨
      ∃ found value, (left.run before).1 = .ok found ∧ (right.run mirrored).1 = .ok value ∧
        related found value

theorem Pure.matches_self {computation : Compute S α} (pure : computation.Pure) :
    Matches Eq computation computation := by
  intro before mirrored
  rw [pure.outcome before mirrored]
  rcases (computation.run mirrored).1 with fault | value
  · exact .inl ⟨fault, rfl, rfl⟩
  · exact .inr ⟨value, value, rfl, rfl, rfl⟩

theorem Gives.matches_gives {left : Compute S α} {right : Compute S β} {found : α} {value : β}
    (leftGives : left.Gives found) (rightGives : right.Gives value) (holds : related found value) :
    Matches related left right := by
  intro before mirrored
  obtain ⟨_, ran⟩ := leftGives before
  obtain ⟨_, ran'⟩ := rightGives mirrored
  exact .inr ⟨found, value, congrArg Prod.fst ran, congrArg Prod.fst ran', holds⟩

theorem Matches.mono {left : Compute S α} {right : Compute S β} {wider : α → β → Prop}
    (same : Matches related left right)
    (weaken : ∀ found value, related found value → wider found value) :
    Matches wider left right := by
  intro before mirrored
  rcases same before mirrored with failed | ⟨found, value, ran, ran', holds⟩
  · exact .inl failed
  · exact .inr ⟨found, value, ran, ran', weaken found value holds⟩

theorem Matches.ensured {left : Compute S α} {right : Compute S β} {raised : Fault S → Prop}
    {found : β → Prop} (same : Matches related left right) (ensured : right.Ensures raised found) :
    Matches (fun value other => related value other ∧ found other) left right := by
  intro before mirrored
  rcases same before mirrored with failed | ⟨value, other, ran, ran', holds⟩
  · exact .inl failed
  · have held := ensured mirrored
    rw [ran'] at held
    exact .inr ⟨value, other, ran, ran', holds, held⟩

theorem Matches.bind {left : Compute S α} {right : Compute S β} {leftNext : α → Compute S γ}
    {rightNext : β → Compute S δ} {later : γ → δ → Prop} (first : Matches related left right)
    (next : ∀ found value, related found value →
      Matches later (leftNext found) (rightNext value)) :
    Matches later (left >>= leftNext) (right >>= rightNext) := by
  intro before mirrored
  rcases ran : left.run before with ⟨outcome, middle⟩
  rcases ran' : right.run mirrored with ⟨outcome', middle'⟩
  have outcomes := first before mirrored
  rw [ran, ran'] at outcomes
  rcases outcomes with ⟨fault, rfl, rfl⟩ | ⟨found, value, rfl, rfl, holds⟩
  · exact .inl ⟨fault, by rw [run_bind_of_error ran], by rw [run_bind_of_error ran']⟩
  · rw [run_bind_of_ok ran, run_bind_of_ok ran']
    exact next found value holds middle middle'

theorem Gives.bind_matches {first : Compute S α} {next : α → Compute S γ} {right : Compute S β}
    {value : α} {later : γ → β → Prop} (gives : first.Gives value)
    (rest : Matches later (next value) right) : Matches later (first >>= next) right := by
  intro before mirrored
  obtain ⟨middle, ran⟩ := gives before
  rw [run_bind_of_ok ran]
  exact rest middle mirrored

/-- Doing over and over what always has one outcome fails like doing it once, or finds its value as
often. -/
theorem Matches.repeat {step : item → Compute S α} {single : Compute S α} {items : List item}
    (some : items ≠ []) (each : ∀ next ∈ items, Matches Eq (step next) single) :
    Matches (fun found value => found = items.map fun _ => value) (items.mapM step) single := by
  intro before mirrored
  obtain ⟨first, rest, rfl⟩ := List.exists_cons_of_ne_nil some
  rcases ran : (single.run mirrored).1 with fault | value
  · rcases each first List.mem_cons_self before mirrored with ⟨_, failed, failed'⟩ | ⟨_, _, _, ran', _⟩
    · cases ran.symm.trans failed'
      refine .inl ⟨fault, ?_, rfl⟩
      rcases stepped : (step first).run before with ⟨outcome, middle⟩
      rw [stepped] at failed
      cases failed
      rw [List.mapM_cons, run_bind_of_error stepped]
    · cases ran.symm.trans ran'
  · have gives : ∀ next ∈ first :: rest, (step next).Gives value := by
      intro next member journal
      rcases each next member journal mirrored with ⟨_, _, failed⟩ | ⟨found, _, stepped, ran', rfl⟩
      · cases ran.symm.trans failed
      · cases ran.symm.trans ran'
        exact ⟨_, Prod.ext stepped rfl⟩
    obtain ⟨_, repeated⟩ := gives_mapM gives before
    exact .inr ⟨_, value, congrArg Prod.fst repeated, rfl, rfl⟩

end Compute

namespace Tracked

variable {S M N α β γ : Type} {relation : M → N → Prop} {related : α → β → Prop}

theorem mirrors_matched_bind {left : Compute S α} {right : Compute S β} {leftNext : α → Tracked S M γ}
    {rightNext : β → Tracked S N γ} (first : Compute.Matches related left right)
    (next : ∀ found value, related found value →
      Mirrors (Beside True relation) (leftNext found) (rightNext value)) :
    Mirrors (Beside True relation) (liftM left >>= leftNext) (liftM right >>= rightNext) := by
  intro before mirrored beside
  rcases ran : left.run before.1 with ⟨outcome, middle⟩
  rcases ran' : right.run mirrored.1 with ⟨outcome', middle'⟩
  have outcomes := first before.1 mirrored.1
  rw [ran, ran'] at outcomes
  rcases outcomes with ⟨fault, rfl, rfl⟩ | ⟨found, value, rfl, rfl, holds⟩
  · rw [run_bind_of_error (run_liftM_of ran before.2),
      run_bind_of_error (run_liftM_of ran' mirrored.2)]
    exact ⟨rfl, .inr trivial, beside.2⟩
  · rw [run_bind_of_ok (run_liftM_of ran before.2), run_bind_of_ok (run_liftM_of ran' mirrored.2)]
    exact next found value holds _ _ ⟨.inr trivial, beside.2⟩

end Tracked

end ProximalSplitting

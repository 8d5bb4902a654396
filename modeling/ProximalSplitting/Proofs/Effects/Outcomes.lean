import Mathlib.Data.List.Forall2
import ProximalSplitting.Proofs.Effects.Laws

/-!
What computations come to. Whatever the journal holds, a computation fails with a fault of one kind
or finds a value of another; the rules follow the way in which the computation is put together.
-/

namespace ProximalSplitting

namespace Compute

open Effect

variable {S α β item : Type} {raised : Fault S → Prop} {found : α → Prop} {later : β → Prop}

/-- Every fault of the computation is one of the given ones and every value has the property. -/
def Ensures (computation : Compute S α) (raised : Fault S → Prop) (found : α → Prop) : Prop :=
  ∀ journal, match (computation.run journal).1 with
    | .ok value => found value
    | .error fault => raised fault

abbrev Always (computation : Compute S α) (found : α → Prop) : Prop :=
  computation.Ensures (fun _ => False) found

theorem ensures_pure {value : α} (holds : found value) :
    (pure value : Compute S α).Ensures raised found := fun _ => holds

theorem Gives.ensures {computation : Compute S α} {value : α} (gives : computation.Gives value)
    (holds : found value) : computation.Ensures raised found := by
  intro journal
  obtain ⟨after, ran⟩ := gives journal
  rw [ran]
  exact holds

theorem Ensures.bind {first : Compute S α} {next : α → Compute S β}
    (ensured : first.Ensures raised found)
    (rest : ∀ value, found value → (next value).Ensures raised later) :
    (first >>= next).Ensures raised later := by
  intro journal
  have outcome := ensured journal
  rcases ran : first.run journal with ⟨fault | value, middle⟩
  · rw [run_bind_of_error ran]
    rwa [ran] at outcome
  · rw [run_bind_of_ok ran]
    rw [ran] at outcome
    exact rest value outcome middle

theorem Gives.bind_ensures {first : Compute S α} {next : α → Compute S β} {value : α}
    (gives : first.Gives value) (rest : (next value).Ensures raised later) :
    (first >>= next).Ensures raised later := by
  intro journal
  obtain ⟨middle, ran⟩ := gives journal
  rw [run_bind_of_ok ran]
  exact rest middle

theorem Ensures.compiledAs {computation : Compute S α} (ensured : computation.Ensures raised found)
    (name : String) : (compiledAs name computation).Ensures raised found :=
  fun _ => ensured _

theorem Ensures.mono {computation : Compute S α} {more : Fault S → Prop} {wider : α → Prop}
    (ensured : computation.Ensures raised found) (faults : ∀ fault, raised fault → more fault)
    (values : ∀ value, found value → wider value) : computation.Ensures more wider := by
  intro journal
  have outcome := ensured journal
  split at outcome
  · exact values _ outcome
  · exact faults _ outcome

theorem Ensures.cases {computation : Compute S α} (ensured : computation.Ensures raised found)
    {journal after : Journal} {outcome : Except (Fault S) α}
    (ran : computation.run journal = (outcome, after)) :
    (∃ fault, outcome = .error fault ∧ raised fault) ∨ ∃ value, outcome = .ok value ∧ found value := by
  have ended := ensured journal
  rw [ran] at ended
  cases outcome with
  | error fault => exact .inl ⟨fault, rfl, ended⟩
  | ok value => exact .inr ⟨value, rfl, ended⟩

theorem Always.ensures {computation : Compute S α} (always : computation.Always found) :
    computation.Ensures raised found := always.mono (fun _ => False.elim) fun _ holds => holds

theorem Always.run {computation : Compute S α} (always : computation.Always found)
    (journal : Journal) :
    ∃ value after, computation.run journal = (.ok value, after) ∧ found value := by
  rcases ran : computation.run journal with ⟨outcome, after⟩
  rcases always.cases ran with ⟨_, _, absurdity⟩ | ⟨value, rfl, holds⟩
  · exact absurdity.elim
  · exact ⟨value, after, rfl, holds⟩

theorem gives_report (message : String) : (report message : Compute S Unit).Gives () :=
  fun _ => ⟨_, rfl⟩

theorem ensures_mapM {step : item → Compute S α} {related : item → α → Prop} {items : List item}
    (each : ∀ next ∈ items, (step next).Ensures raised (related next)) :
    (items.mapM step).Ensures raised (List.Forall₂ related items) := by
  induction items with
  | nil => exact ensures_pure .nil
  | cons first rest ih =>
      rw [List.mapM_cons]
      refine (each first List.mem_cons_self).bind fun value holds => ?_
      refine (ih fun next member => each next (List.mem_cons_of_mem first member)).bind ?_
      exact fun values others => ensures_pure (.cons holds others)

theorem ensures_mapM_all {step : item → Compute S α} {items : List item}
    (each : ∀ next ∈ items, (step next).Ensures raised found) :
    (items.mapM step).Ensures raised fun values =>
      values.length = items.length ∧ ∀ value ∈ values, found value := by
  refine (ensures_mapM each).mono (fun _ => id) fun values pairs => ⟨pairs.length_eq.symm, ?_⟩
  induction pairs with
  | nil => exact fun _ absurdity => absurd absurdity List.not_mem_nil
  | cons holds _ ih =>
      exact List.forall_mem_cons.mpr
        ⟨holds, ih fun next member => each next (List.mem_cons_of_mem _ member)⟩

theorem ensures_foldlM {step : α → item → Compute S α} {items : List item}
    (each : ∀ next ∈ items, ∀ value, found value → (step value next).Ensures raised found)
    {start : α} (holds : found start) : (items.foldlM step start).Ensures raised found := by
  induction items generalizing start with
  | nil => exact ensures_pure holds
  | cons first rest ih =>
      rw [List.foldlM_cons]
      refine (each first List.mem_cons_self start holds).bind fun value kept => ?_
      exact ih (fun next member => each next (List.mem_cons_of_mem first member)) kept

end Compute

end ProximalSplitting

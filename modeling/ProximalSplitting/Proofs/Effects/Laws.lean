import ProximalSplitting.Tracked

/-!
How computations over a memory are taken apart: which part of a sequence failed or succeeded, and
which views of the memory a computation keeps. A view is kept whether the computation fails or not.
-/

namespace ProximalSplitting

/-! Computations that may fail and change a memory of any kind. -/

namespace Effect

variable {ε σ α β : Type}

theorem run_bind_of_ok {first : ExceptT ε (StateM σ) α} {next : α → ExceptT ε (StateM σ) β}
    {value : α} {before middle : σ} (succeeded : first.run before = (.ok value, middle)) :
    (first >>= next).run before = (next value).run middle := by
  simp only [bind, ExceptT.bind, ExceptT.run, ExceptT.mk, StateT.bind, ExceptT.bindCont] at succeeded ⊢
  rw [succeeded]

theorem run_bind_of_error {first : ExceptT ε (StateM σ) α} {next : α → ExceptT ε (StateM σ) β}
    {fault : ε} {before middle : σ} (failed : first.run before = (.error fault, middle)) :
    (first >>= next).run before = (.error fault, middle) := by
  simp only [bind, ExceptT.bind, ExceptT.run, ExceptT.mk, StateT.bind, ExceptT.bindCont] at failed ⊢
  rw [failed]
  rfl

theorem run_bind_of_run {first second : ExceptT ε (StateM σ) α} {next : α → ExceptT ε (StateM σ) β}
    {before elsewhere : σ} (same : first.run before = second.run elsewhere) :
    (first >>= next).run before = (second >>= next).run elsewhere := by
  rcases ran : second.run elsewhere with ⟨outcome, middle⟩
  rw [ran] at same
  cases outcome with
  | error fault => rw [run_bind_of_error same, run_bind_of_error ran]
  | ok value => rw [run_bind_of_ok same, run_bind_of_ok ran]

theorem run_bind_ok_iff {first : ExceptT ε (StateM σ) α} {next : α → ExceptT ε (StateM σ) β}
    {value : β} {before after : σ} :
    (first >>= next).run before = (.ok value, after) ↔
      ∃ between middle, first.run before = (.ok between, middle) ∧
        (next between).run middle = (.ok value, after) := by
  constructor
  · intro ended
    rcases found : first.run before with ⟨outcome, middle⟩
    cases outcome with
    | error fault =>
        rw [run_bind_of_error found] at ended
        cases ended
    | ok between =>
        rw [run_bind_of_ok found] at ended
        exact ⟨between, middle, rfl, ended⟩
  · rintro ⟨between, middle, found, ended⟩
    rw [run_bind_of_ok found, ended]

theorem run_bind_error_iff {first : ExceptT ε (StateM σ) α} {next : α → ExceptT ε (StateM σ) β}
    {fault : ε} {before after : σ} :
    (first >>= next).run before = (.error fault, after) ↔
      first.run before = (.error fault, after) ∨
        ∃ between middle, first.run before = (.ok between, middle) ∧
          (next between).run middle = (.error fault, after) := by
  constructor
  · intro ended
    rcases found : first.run before with ⟨outcome, middle⟩
    cases outcome with
    | error _ =>
        rw [run_bind_of_error found] at ended
        cases ended
        exact .inl rfl
    | ok between =>
        rw [run_bind_of_ok found] at ended
        exact .inr ⟨between, middle, rfl, ended⟩
  · rintro (failed | ⟨between, middle, found, ended⟩)
    · exact run_bind_of_error failed
    · rw [run_bind_of_ok found, ended]

theorem exists_ok_of_isOk {computation : ExceptT ε (StateM σ) α} {before : σ}
    (succeeds : (computation.run before).1.isOk = true) :
    ∃ value after, computation.run before = (.ok value, after) := by
  rcases ran : computation.run before with ⟨outcome, after⟩
  rw [ran] at succeeds
  cases outcome with
  | error _ => cases succeeds
  | ok value => exact ⟨value, after, rfl⟩

theorem exists_error_of_isOk {computation : ExceptT ε (StateM σ) α} {before : σ}
    (fails : (computation.run before).1.isOk = false) :
    ∃ fault after, computation.run before = (.error fault, after) := by
  rcases ran : computation.run before with ⟨outcome, after⟩
  rw [ran] at fails
  cases outcome with
  | error fault => exact ⟨fault, after, rfl⟩
  | ok _ => cases fails

theorem run_map (change : α → β) (computation : ExceptT ε (StateM σ) α) (before : σ) :
    (change <$> computation).run before =
      ((computation.run before).1.map change, (computation.run before).2) := by
  rcases found : computation.run before with ⟨outcome, after⟩
  rw [map_eq_pure_bind]
  cases outcome with
  | error _ => rw [run_bind_of_error found]; rfl
  | ok _ => rw [run_bind_of_ok found]; rfl

end Effect

namespace Tracked

open Effect

variable {S M N α β γ : Type}

theorem run_liftM (computation : Compute S α) (before : Journal × M) :
    (liftM computation : Tracked S M α).run before =
      ((computation.run before.1).1, ((computation.run before.1).2, before.2)) := rfl

theorem run_liftM_of {computation : Compute S α} {journal after : Journal}
    {outcome : Except (Fault S) α} (ran : computation.run journal = (outcome, after)) (memory : M) :
    (liftM computation : Tracked S M α).run (journal, memory) = (outcome, (after, memory)) := by
  rw [run_liftM, ran]

theorem liftM_bind (first : Compute S α) (next : α → Compute S β) :
    (liftM (first >>= next) : Tracked S M β) =
      liftM first >>= fun value => liftM (next value) := by
  funext before
  change (liftM (first >>= next) : Tracked S M β).run before = _
  rcases ran : first.run before.1 with ⟨outcome, after⟩
  have lifted : (liftM first : Tracked S M α).run before = (outcome, (after, before.2)) :=
    run_liftM_of ran before.2
  rw [run_liftM]
  cases outcome with
  | error _ =>
      refine Eq.trans ?_ (run_bind_of_error lifted).symm
      rw [run_bind_of_error ran]
  | ok value =>
      refine Eq.trans ?_ (run_bind_of_ok lifted).symm
      rw [run_bind_of_ok ran]
      rfl

theorem run_part (get : N → M) (set : M → N → N) (computation : Tracked S M α)
    (before : Journal × N) :
    (part get set computation).run before =
      ((computation.run (before.1, get before.2)).1,
        ((computation.run (before.1, get before.2)).2.1,
          set (computation.run (before.1, get before.2)).2.2 before.2)) := rfl

def Keeps (view : M → γ) (computation : Tracked S M α) : Prop :=
  ∀ before, view (computation.run before).2.2 = view before.2

variable {view : M → γ}

theorem Keeps.of_run {computation : Tracked S M α} (kept : Keeps view computation)
    {before after : Journal × M} {outcome : Except (Fault S) α}
    (ran : computation.run before = (outcome, after)) : view after.2 = view before.2 := by
  have same := kept before
  rwa [ran] at same

theorem keeps_pure (value : α) : Keeps view (pure value : Tracked S M α) := fun _ => rfl

theorem keeps_read : Keeps view (read : Tracked S M M) := fun _ => rfl

theorem keeps_update {change : M → M} (same : ∀ memory, view (change memory) = view memory) :
    Keeps view (update change : Tracked S M Unit) := fun before => same before.2

theorem keeps_bind {first : Tracked S M α} {next : α → Tracked S M β}
    (firstKeeps : Keeps view first) (nextKeeps : ∀ value, Keeps view (next value)) :
    Keeps view (first >>= next) := by
  intro before
  have kept := firstKeeps before
  rw [run_bind]
  rcases found : first.run before with ⟨outcome, middle⟩
  rw [found] at kept
  cases outcome with
  | error _ => exact kept
  | ok value => exact (nextKeeps value middle).trans kept

/-- What is kept by a computation over a part is kept by it as one over the whole, if the view of
the whole only depends on the view of the part. -/
theorem keeps_part {get : N → M} {set : M → N → N} {whole : N → β}
    {computation : Tracked S M α} (kept : Keeps view computation)
    (inside : ∀ memory part, view part = view (get memory) → whole (set part memory) = whole memory) :
    Keeps whole (part get set computation) := fun before =>
  inside before.2 _ (kept (before.1, get before.2))

def Stays (invariant : M → Prop) (computation : Tracked S M α) : Prop :=
  ∀ before, invariant before.2 → invariant (computation.run before).2.2

variable {invariant : M → Prop}

theorem Keeps.of_stays {computation : Tracked S M α}
    (stays : ∀ value, Stays (fun memory => view memory = value) computation) :
    Keeps view computation := fun before => stays (view before.2) before rfl

theorem Keeps.stays {computation : Tracked S M α} (kept : Keeps view computation)
    {invariant : γ → Prop} : Stays (fun memory => invariant (view memory)) computation := by
  intro before holds
  rw [kept before]
  exact holds

theorem stays_update {change : M → M}
    (holds : ∀ memory, invariant memory → invariant (change memory)) :
    Stays invariant (update change : Tracked S M Unit) := fun before => holds before.2

theorem stays_bind {first : Tracked S M α} {next : α → Tracked S M β}
    (firstStays : Stays invariant first) (nextStays : ∀ value, Stays invariant (next value)) :
    Stays invariant (first >>= next) := by
  intro before holds
  have held := firstStays before holds
  rw [run_bind]
  rcases found : first.run before with ⟨outcome, middle⟩
  rw [found] at held
  cases outcome with
  | error _ => exact held
  | ok value => exact nextStays value middle held

theorem stays_ite {condition : Prop} [Decidable condition] {left right : Tracked S M α}
    (leftStays : Stays invariant left) (rightStays : Stays invariant right) :
    Stays invariant (if condition then left else right) := by
  split
  · exact leftStays
  · exact rightStays

theorem stays_of_same {computation : Tracked S M α}
    (same : ∀ before, (computation.run before).2.2 = before.2) : Stays invariant computation := by
  intro before holds
  rw [same before]
  exact holds

theorem stays_pure (value : α) : Stays invariant (pure value : Tracked S M α) :=
  stays_of_same fun _ => rfl

theorem stays_fail (fault : Fault S) : Stays invariant (fail fault : Tracked S M α) :=
  stays_of_same fun _ => rfl

theorem stays_read : Stays invariant (read : Tracked S M M) := stays_of_same fun _ => rfl

theorem stays_liftM (computation : Compute S α) :
    Stays invariant (liftM computation : Tracked S M α) := stays_of_same fun _ => rfl

end Tracked

namespace Compute

open Effect

variable {S α β : Type}

/-- Some journal lets the computation find the value. -/
def Yields (computation : Compute S α) (value : α) : Prop :=
  ∃ journal after, computation.run journal = (.ok value, after)

theorem yields_pure {value found : α} : (pure value : Compute S α).Yields found ↔ found = value := by
  constructor
  · rintro ⟨journal, after, ran⟩
    cases ran
    rfl
  · rintro rfl
    exact ⟨{}, {}, rfl⟩

theorem Yields.of_bind {first : Compute S α} {next : α → Compute S β} {found : β}
    (yields : (first >>= next).Yields found) :
    ∃ value, first.Yields value ∧ (next value).Yields found := by
  obtain ⟨journal, after, ran⟩ := yields
  obtain ⟨value, middle, ranFirst, ranNext⟩ := run_bind_ok_iff.mp ran
  exact ⟨value, ⟨journal, middle, ranFirst⟩, middle, after, ranNext⟩

/-- The computation finds the value whatever the journal holds. -/
def Gives (computation : Compute S α) (value : α) : Prop :=
  ∀ journal, ∃ after, computation.run journal = (.ok value, after)

theorem Gives.unique {computation : Compute S α} {value found : α} (gives : computation.Gives value)
    (yields : computation.Yields found) : found = value := by
  obtain ⟨journal, after, ran⟩ := yields
  obtain ⟨_, same⟩ := gives journal
  rw [ran] at same
  cases same
  rfl

theorem gives_pure (value : α) : (pure value : Compute S α).Gives value :=
  fun journal => ⟨journal, rfl⟩

theorem Gives.bind {first : Compute S α} {next : α → Compute S β} {value : α} {found : β}
    (gives : first.Gives value) (rest : (next value).Gives found) : (first >>= next).Gives found := by
  intro journal
  obtain ⟨middle, ran⟩ := gives journal
  rw [run_bind_of_ok ran]
  exact rest middle

theorem Gives.map {computation : Compute S α} {value : α} (gives : computation.Gives value)
    (change : α → β) : (change <$> computation).Gives (change value) := by
  rw [map_eq_pure_bind]
  exact gives.bind (gives_pure _)

theorem Gives.compiledAs {computation : Compute S α} {value : α} (gives : computation.Gives value)
    (name : String) : (compiledAs name computation).Gives value :=
  fun _ => gives _

theorem gives_mapM {item : Type} {step : item → Compute S α} {value : item → α} {items : List item}
    (each : ∀ next ∈ items, (step next).Gives (value next)) :
    (items.mapM step).Gives (items.map value) := by
  induction items with
  | nil => exact gives_pure []
  | cons first rest ih =>
      rw [List.mapM_cons, List.map_cons]
      refine (each first List.mem_cons_self).bind ?_
      refine (ih fun next member => each next (List.mem_cons_of_mem first member)).bind ?_
      exact gives_pure _

theorem gives_foldlM {item : Type} {step : α → item → Compute S α} {value : α → item → α}
    {items : List item} (each : ∀ start, ∀ next ∈ items, (step start next).Gives (value start next))
    (start : α) : (items.foldlM step start).Gives (items.foldl value start) := by
  induction items generalizing start with
  | nil => exact gives_pure start
  | cons first rest ih =>
      rw [List.foldlM_cons, List.foldl_cons]
      refine (each start first List.mem_cons_self).bind ?_
      exact ih (fun start next member => each start next (List.mem_cons_of_mem first member)) _

end Compute

end ProximalSplitting

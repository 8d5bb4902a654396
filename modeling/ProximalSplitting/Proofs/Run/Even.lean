import ProximalSplitting.Proofs.Method.Renewal
import ProximalSplitting.Proofs.Run.Along
import ProximalSplitting.Proofs.Watching.Agreement

/-!
How two runs become even. A used state and the one that is constructed in its place differ in what
earlier runs left behind. Preparing makes the states alike, the first check makes the criteria agree,
the first looks make the decorators agree, and from then on the two runs stay even.
-/

namespace ProximalSplitting

open Effect Tracked

variable {S : Type}

abbrev Workspace.Level (leftText rightText : String) (left right : Workspace S) : Prop :=
  Workspace.Agree [] [] left right ∧ Workspace.Shown leftText rightText [] left right

section Parts

variable {α : Type} {start passed : SolverState S → SolverState S → Prop}
  {within : Workspace S → Workspace S → Prop}

theorem Run.leads_step {left right : Step S α}
    (leads : Leads (Beside False start) (Beside False fun _ _ => True) (Beside False passed)
      left right) :
    Leads (Beside False (Session.Along start within))
      (Beside False (Session.Along (fun _ _ => True) within))
      (Beside False (Session.Along passed within)) (Run.step left) (Run.step right) := by
  intro before mirrored related
  obtain ⟨sameOutcome, always, reached⟩ := leads (before.1, before.2.state)
    (mirrored.1, mirrored.2.state) ⟨related.1, related.2.state⟩
  rw [Run.step, Run.step, run_part, run_part]
  refine ⟨sameOutcome, ⟨always.1, trivial, related.2.workspace⟩, fun value ended => ?_⟩
  obtain ⟨journals, states⟩ := reached value ended
  exact ⟨journals, states, related.2.workspace⟩

theorem Run.leads_watch {states : SolverState S → SolverState S → Prop}
    {always after : Workspace S → Workspace S → Prop} {left right : SolverState S → Watch S α}
    (watched : ∀ shown mirrored : SolverState S, states shown mirrored →
      Leads (Beside False within) (Beside False always) (Beside False after)
        (left shown) (right mirrored)) :
    Leads (Beside False (Session.Along states within)) (Beside False (Session.Along states always))
      (Beside False (Session.Along states after))
      (Run.state >>= fun state => Run.watch (left state))
      (Run.state >>= fun state => Run.watch (right state)) := by
  intro before mirrored related
  rw [Run.run_state_bind, Run.run_state_bind, Run.watch, Run.watch, run_part, run_part]
  obtain ⟨sameOutcome, kept, reached⟩ := watched _ _ related.2.state
    (before.1, before.2.workspace) (mirrored.1, mirrored.2.workspace)
    ⟨related.1, related.2.workspace⟩
  refine ⟨sameOutcome, ⟨kept.1, related.2.state, kept.2⟩, fun value ended => ?_⟩
  obtain ⟨journals, workspaces⟩ := reached value ended
  exact ⟨journals, related.2.state, workspaces⟩

end Parts

namespace Course

variable [Scalar S] (course : Course S) (leftText rightText : String)

abbrev Prepared : Memory S → Memory S → Prop :=
  Beside False (Session.Along (SolverState.Paired course.criterion)
    (Workspace.Level leftText rightText))

abbrev Even (known : List (Glance S)) : Memory S → Memory S → Prop :=
  Beside False (Session.Along (SolverState.Paired course.criterion)
    (Workspace.Matched course.criterion leftText rightText known))

abbrev Told : Memory S → Memory S → Prop :=
  Beside False (Session.Along (fun _ _ => True) (Workspace.Shown leftText rightText []))

abbrev glances : List (Glance S) := Decorator.glancesOfAll course.decorators 0

abbrev Ended : Memory S → Memory S → Prop :=
  Beside False (Session.Along Eq
    (Workspace.Matched course.criterion leftText rightText course.glances))

variable {course leftText rightText} {known : List (Glance S)}

omit [Scalar S] in
theorem Told.of_even [Scalar S] {course : Course S} {before mirrored : Memory S}
    (even : course.Even leftText rightText known before mirrored) :
    Told leftText rightText before mirrored :=
  ⟨even.1, trivial, even.2.workspace.2.mono fun _ member => nomatch member⟩

theorem showing_renewed (before : Memory S) :
    (course.renewed before).2.workspace.showing = before.2.workspace.showing :=
  (check_keeps_showing 0).of_run (course.run_check_zero before)

theorem leads_check_zero :
    Leads (course.Prepared leftText rightText) (Told leftText rightText)
      (course.Even leftText rightText [])
      (course.perform (.check 0)) (course.perform (.check 0)) := by
  intro before mirrored related
  obtain ⟨journals, paired, agree, shown⟩ := related
  have even : course.Even leftText rightText [] (course.renewed before)
      (course.renewed mirrored) := by
    -- Renewing overwrites what the criteria remembered, so it may have differed.
    refine ⟨journals, paired, ?_, ?_⟩
    · exact agree_renewed rfl paired.alike.iterate agree
    · exact shown.congr_showing (showing_renewed before) (showing_renewed mirrored)
  rw [course.run_perform_check_zero before, course.run_perform_check_zero mirrored]
  exact ⟨rfl, .of_even even, fun _ _ => even⟩

variable (uncounted : ∀ glance ∈ course.glances, ¬ glance.ReadsCount)
include uncounted

theorem leads_looks {iteration : Int}
    (opened : 0 < iteration → ∀ glance ∈ course.glances, glance ∈ known) :
    Leads (course.Even leftText rightText known) (course.Even leftText rightText known)
      (course.Even leftText rightText
        (Decorator.glancesOfAll course.decorators iteration ++ known))
      (course.performAll (course.looks iteration)) (course.performAll (course.looks iteration)) := by
  rw [← showIteration_eq]
  refine Run.leads_watch fun left right paired => ?_
  rw [Decorator.observeAll_eq_glances, Decorator.observeAll_eq_glances]
  exact Glance.runAll_leads paired fun glance member =>
    Decorator.ready_of_mem_glances uncounted opened member

theorem mirrors_looks (iteration : Int) :
    Mirrors (course.Even leftText rightText course.glances)
      (course.performAll (course.looks iteration)) (course.performAll (course.looks iteration)) := by
  intro before mirrored even
  obtain ⟨sameOutcome, kept, _⟩ :=
    leads_looks uncounted (fun _ _ member => member) before mirrored even
  exact ⟨sameOutcome, kept⟩

omit uncounted

theorem mirrors_check {iteration : Nat} (later : iteration ≠ 0) :
    Mirrors (course.Even leftText rightText known) (course.check iteration)
      (course.check iteration) := by
  rw [check, checkCriterion]
  refine Run.mirrors_watch fun left right paired => ?_
  refine mirrors_of_keeps
    (Criterion.check_mirrors (paired.alike.judged False.elim) (by exact_mod_cast later)
      course.criterion (fun _ member => member) fun _ member => member)
    (Criterion.check_keeps_showing course.problem left course.criterion iteration)
    (Criterion.check_keeps_showing course.problem right course.criterion iteration) And.left ?_
  exact fun both agree keptLeft keptRight => ⟨agree, both.2.congr_showing keptLeft keptRight⟩

theorem mirrors_perform_step {state : SolverState S} (fits : course.Fits state) (iteration : Nat) :
    Mirrors (course.Even leftText rightText known) (course.perform (.step iteration))
      (course.perform (.step iteration)) := by
  have steady : Step.Steady False (course.solver.step course.problem (iteration : Int)) :=
    (Solver.steady_of_state fits.solver nofun).2 iteration
  refine Run.mirrors_step (mirrors_of_keeps steady (fits.frames.step _) (fits.frames.step _)
    SolverState.Paired.alike fun paired alike keptLeft keptRight => ?_)
  exact ⟨alike, (congrArg Prod.fst keptLeft).trans paired.leftCriterion,
    (congrArg Prod.fst keptRight).trans paired.rightCriterion⟩

theorem reason_eq {before mirrored : Memory S}
    (even : course.Even leftText rightText known before mirrored) :
    (before.2.workspace.criterion course.criterion.number).reason =
      (mirrored.2.workspace.criterion course.criterion.number).reason :=
  even.2.workspace.1.reason _ course.criterion.number_mem_numbers

theorem Even.counted {before mirrored : Memory S}
    (even : course.Even leftText rightText known before mirrored) (iterations : Nat) :
    course.Even leftText rightText known (counted iterations before)
      (Course.counted iterations mirrored) :=
  ⟨even.1, ⟨even.2.state.alike.withIterations iterations, even.2.state.leftCriterion,
    even.2.state.rightCriterion⟩, even.2.workspace⟩

theorem Even.finish {before mirrored : Memory S}
    (even : course.Even leftText rightText known before mirrored) (iterations : Nat) :
    course.Even leftText rightText known (course.finish iterations before)
      (course.finish iterations mirrored) := by
  obtain ⟨journals, along⟩ := even
  have sameJournal : before.1 = mirrored.1 := journals.resolve_right id
  refine ⟨.inl ?_, along⟩
  rw [Course.finish, Course.finish, sameJournal, reason_eq ⟨journals, along⟩]

theorem Even.sameCriterion {before mirrored : Memory S}
    (even : course.Even leftText rightText known before mirrored) :
    before.2.state.criterion = mirrored.2.state.criterion :=
  even.2.state.leftCriterion.trans even.2.state.rightCriterion.symm

include uncounted in
theorem leads_close (iterations : Nat) :
    Leads (course.Even leftText rightText course.glances)
      (course.Even leftText rightText course.glances) (course.Ended leftText rightText)
      (course.close iterations) (course.close iterations) := by
  intro before mirrored even
  obtain ⟨sameOutcome, kept⟩ := mirrors_looks uncounted (-1) _ _ (even.counted iterations)
  rcases looked : (course.performAll (course.looks (-1))).run (counted iterations before)
    with ⟨outcome, after⟩
  rcases looked' : (course.performAll (course.looks (-1))).run (counted iterations mirrored)
    with ⟨outcome', after'⟩
  rw [looked, looked'] at sameOutcome kept
  cases sameOutcome
  cases outcome with
  | error fault =>
      rw [run_close_of_error looked, run_close_of_error looked']
      exact ⟨rfl, kept, fun _ ended => nomatch ended⟩
  | ok _ =>
      have closed := run_close course looked
      have closed' := run_close course looked'
      have finished := kept.finish iterations
      have state : after.2.state = before.2.state.withIterations iterations := (close_ok closed).1
      have state' : after'.2.state = mirrored.2.state.withIterations iterations :=
        (close_ok closed').1
      -- The counts were all in which the states could still differ.
      have counts : after.2.state.iterations = after'.2.state.iterations := by
        rw [state, state']
        rfl
      have sameState : after.2.state = after'.2.state :=
        kept.2.state.alike.eq kept.sameCriterion counts
      rw [closed, closed', sameState]
      exact ⟨rfl, finished, fun _ _ => ⟨finished.1,
        finished.2.state.alike.eq finished.sameCriterion counts, finished.2.workspace⟩⟩

variable {state : SolverState S} (fits : course.Fits state)
include fits uncounted

theorem mirrors_advance (iteration : Nat) :
    Mirrors (course.Even leftText rightText course.glances)
      (course.performAll (course.advance iteration))
      (course.performAll (course.advance iteration)) :=
  mirrors_bind (mirrors_perform_step fits iteration) fun _ => mirrors_looks uncounted iteration

/-- Even runs stay even in every later iteration, and they end in the same way. -/
theorem leads_continueRun (remaining done : Nat) :
    Leads (course.Even leftText rightText course.glances)
      (course.Even leftText rightText course.glances) (course.Ended leftText rightText)
      (course.continueRun remaining done) (course.continueRun remaining done) := by
  have keeps : ∀ before mirrored, course.Even leftText rightText course.glances before mirrored →
      course.Even leftText rightText course.glances before mirrored := fun _ _ even => even
  induction remaining generalizing done with
  | zero => exact fun before mirrored even => ⟨rfl, even, fun _ ended => nomatch ended⟩
  | succ remaining ih =>
      rw [continueRun_succ]
      refine leads_bind ((mirrors_advance uncounted fits (done + 1)).leads keeps) fun _ => ?_
      refine leads_bind ((mirrors_check (Nat.succ_ne_zero done)).leads keeps) fun met => ?_
      exact leads_ite (leads_close uncounted (done + 1)) (ih (done + 1))

omit fits uncounted

abbrev Begun (course : Course S) (recipe : Recipe S) (leftText rightText : String) :
    Memory S → Memory S → Prop :=
  Beside False (Session.Along (SolverState.Anew recipe course.criterion)
    (Workspace.Level leftText rightText))

variable {recipe : Recipe S} (describes : recipe.Describes state)

include describes fits in
theorem leads_prepare :
    Leads (course.Begun recipe leftText rightText) (Told leftText rightText)
      (course.Prepared leftText rightText) (course.perform .prepare) (course.perform .prepare) :=
  (Run.leads_step (Solver.prepare_leads course.problem describes fits.solver)).weaken
    (fun _ _ related => ⟨related.1, trivial, related.2.workspace.2⟩) fun _ _ related => related

include describes fits uncounted in
/-- The opening makes the runs even, unless it breaks off in both. -/
theorem leads_opening :
    Leads (course.Begun recipe leftText rightText) (Told leftText rightText)
      (course.Even leftText rightText course.glances) (course.performAll course.opening)
      (course.performAll course.opening) := by
  refine leads_bind (leads_prepare fits describes) fun _ => leads_bind leads_check_zero fun _ => ?_
  have opened : (0 : Int) < 0 → ∀ glance ∈ course.glances, glance ∈ ([] : List (Glance S)) :=
    fun absurdity => absurd absurdity (by decide)
  refine (leads_looks uncounted opened).weaken (fun _ _ even => .of_even even) fun _ _ even => ?_
  rwa [List.append_nil] at even

omit recipe in
theorem leads_append {start always middle passed : Memory S → Memory S → Prop}
    {first rest : List (Call S)}
    (ledFirst : Leads start always middle (course.performAll first) (course.performAll first))
    (ledRest : Leads middle always passed (course.performAll rest) (course.performAll rest)) :
    Leads start always passed (course.performAll (first ++ rest))
      (course.performAll (first ++ rest)) := by
  rw [performAll_append]
  exact leads_bind ledFirst fun _ => ledRest

theorem mirrors_single {relation : Memory S → Memory S → Prop} {call : Call S}
    (mirrors : Mirrors relation (course.perform call) (course.perform call)) :
    Mirrors relation (course.performAll [call]) (course.performAll [call]) :=
  mirrors_bind mirrors fun _ => mirrors_pure ()

theorem leads_of_mirrors {computation : Run S Unit}
    (mirrors : Mirrors (course.Even leftText rightText known) computation computation) :
    Leads (course.Even leftText rightText known) (Told leftText rightText)
      (course.Even leftText rightText known) computation computation :=
  mirrors.leads fun _ _ => .of_even

include describes fits uncounted in
theorem leads_callsThrough (done : Nat) :
    Leads (course.Begun recipe leftText rightText) (Told leftText rightText)
      (course.Even leftText rightText course.glances)
      (course.performAll (course.callsThrough done))
      (course.performAll (course.callsThrough done)) := by
  induction done with
  | zero => exact leads_opening uncounted fits describes
  | succ done ih =>
      have checked : Mirrors (course.Even leftText rightText course.glances)
          (course.perform (.check (done + 1))) (course.perform (.check (done + 1))) :=
        mirrors_bind (mirrors_check (Nat.succ_ne_zero done)) fun _ => mirrors_pure ()
      have advanced := leads_append ih (leads_of_mirrors (mirrors_advance uncounted fits (done + 1)))
      exact leads_append advanced (leads_of_mirrors (mirrors_single checked))

abbrev Alike (course : Course S) : Memory S → Memory S → Prop :=
  Beside False (Session.Along (SolverState.Paired course.criterion) fun _ _ => True)

include describes fits uncounted in
theorem leads_callsUntilStep (iteration : Nat) :
    Leads (course.Begun recipe leftText rightText) (Told leftText rightText) course.Alike
      (course.performAll (course.callsUntilStep iteration))
      (course.performAll (course.callsUntilStep iteration)) := by
  cases iteration with
  | zero =>
      have kept : ∀ before mirrored, course.Prepared leftText rightText before mirrored →
          Told leftText rightText before mirrored :=
        fun _ _ prepared => ⟨prepared.1, trivial, prepared.2.workspace.2⟩
      refine (leads_bind (leads_prepare fits describes) fun _ =>
        (mirrors_pure ()).leads kept).weaken (fun _ _ told => told) ?_
      exact fun _ _ prepared => ⟨prepared.1, prepared.2.state, trivial⟩
  | succ done =>
      refine (leads_append (leads_callsThrough uncounted fits describes done) (leads_of_mirrors
        (mirrors_single (mirrors_perform_step fits (done + 1))))).weaken (fun _ _ told => told) ?_
      exact fun _ _ even => ⟨even.1, even.2.state, trivial⟩

end Course

end ProximalSplitting

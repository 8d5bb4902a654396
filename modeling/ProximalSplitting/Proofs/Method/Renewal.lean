import ProximalSplitting.Proofs.Method.Alike
import ProximalSplitting.Proofs.Method.Frames

/-!
States that are constructed anew. A run changes neither the settings that a state was constructed
with nor its criterion, so the constructor can be given them once more, together with the current
point and key. Preparing makes the used state and the new one alike.
-/

namespace ProximalSplitting

open Effect Tracked

variable {S : Type}

inductive Recipe (S : Type) where
  | cyclic (settings : CyclicProximalPoint.Settings S)
  | splitting (settings : DouglasRachford.Settings S)

def SolverState.key? (state : SolverState S) : Option RandomKey :=
  match state.method with
  | .cyclic _ parameters => some parameters.key
  | _ => none

def SolverState.renewed (state : SolverState S) : SolverState S :=
  match state.method with
  | .cyclic derived parameters =>
      { iterate := state.iterate
        criterion := state.criterion
        method := .cyclic derived { parameters with order := none } }
  | .splitting parameters =>
      { iterate := parameters.driver
        criterion := state.criterion
        method := .splitting parameters }
  | method => { iterate := state.iterate, criterion := state.criterion, method }

variable [Scalar S]

def CyclicProximalPoint.Settings.schedule (settings : CyclicProximalPoint.Settings S) :
    Except (Fault S) (Schedule S) :=
  match settings.parameter with
  | some setting => Schedule.ofSetting setting
  | none => .ok CyclicProximalPoint.standardParameter

namespace Recipe

def make (point : Point S) : Recipe S → Watch S (SolverState S)
  | cyclic settings => CyclicProximalPoint.start point settings
  | splitting settings => DouglasRachford.start point { settings with parallel := true }

/-- Constructs a state with the criterion of a used one that starts at the current point, and with
the current key. -/
def remake (used : SolverState S) : Recipe S → Watch S (SolverState S)
  | cyclic settings =>
      CyclicProximalPoint.start used.iterate { settings with
        criterion := used.criterion
        key := used.key?.getD settings.key }
  | splitting settings =>
      DouglasRachford.start (used.driver?.getD used.iterate) { settings with
        criterion := used.criterion
        parallel := true }

inductive Describes : Recipe S → SolverState S → Prop
  | cyclic {settings state criterion parameter evaluationOrder order key} :
      state.extras = [] → state.criterion = some criterion →
      settings.schedule = .ok parameter →
      EvaluationOrder.ofSetting settings.order = .ok evaluationOrder →
      state.method = .cyclic settings.derived { parameter, evaluationOrder, order, key } →
      Describes (.cyclic settings) state
  | splitting {settings state criterion parameter relaxation driver} :
      state.extras = [] → state.criterion = some criterion →
      DouglasRachford.scheduleOr SolverDefaults.proximalParameter settings.parameter =
        .ok parameter →
      DouglasRachford.scheduleOr SolverDefaults.relaxation settings.relaxation = .ok relaxation →
      state.method = .splitting
        { driver, parameter, relaxation, reflection := settings.reflection, parallel := true } →
      Describes (.splitting settings) state

end Recipe

section Starting

variable {point : Point S} {before : Journal × Workspace S}

omit [Scalar S] in
theorem run_compute_liftM {α : Type} (outcome : Except (Fault S) α) :
    (Tracked.compute (liftM outcome) : Watch S α).run before = (outcome, before) := rfl

theorem CyclicProximalPoint.start_eq (settings : CyclicProximalPoint.Settings S) :
    CyclicProximalPoint.start point settings = do
      let criterion ← settings.criterion.elim standardCriterion pure
      let parameter ← Tracked.compute (liftM settings.schedule)
      let evaluationOrder ← Tracked.compute (liftM (EvaluationOrder.ofSetting settings.order))
      return {
        iterate := point
        criterion := some criterion
        method := .cyclic settings.derived { parameter, evaluationOrder, key := settings.key } } := by
  obtain ⟨criterion, parameter, order, key, derived⟩ := settings
  cases criterion with
  | none =>
      cases parameter with
      | none => rfl
      | some setting => rfl
  | some criterion =>
      cases parameter with
      | none => rfl
      | some setting => rfl

theorem DouglasRachford.start_eq (settings : DouglasRachford.Settings S) :
    DouglasRachford.start point settings = do
      let criterion ← settings.criterion.elim standardCriterion pure
      let parameter ← Tracked.compute
        (liftM (scheduleOr SolverDefaults.proximalParameter settings.parameter))
      let relaxation ← Tracked.compute
        (liftM (scheduleOr SolverDefaults.relaxation settings.relaxation))
      return {
        iterate := point
        criterion := some criterion
        method := .splitting {
          driver := point
          parameter
          relaxation
          reflection := settings.reflection
          parallel := settings.parallel } } := by
  rw [DouglasRachford.start]
  cases settings.criterion with
  | none => rfl
  | some criterion => rfl

theorem Recipe.describes_of_make {recipe : Recipe S} {state : SolverState S}
    {after : Journal × Workspace S} (made : (recipe.make point).run before = (.ok state, after)) :
    recipe.Describes state := by
  cases recipe with
  | cyclic settings =>
      rw [make, CyclicProximalPoint.start_eq] at made
      obtain ⟨criterion, middle, _, made⟩ := run_bind_ok_iff.mp made
      obtain ⟨parameter, _, chosen, made⟩ := run_bind_ok_iff.mp made
      obtain ⟨evaluationOrder, _, ordered, made⟩ := run_bind_ok_iff.mp made
      rw [run_compute_liftM] at chosen ordered
      cases made
      exact .cyclic rfl rfl (congrArg Prod.fst chosen) (congrArg Prod.fst ordered) rfl
  | splitting settings =>
      rw [make, DouglasRachford.start_eq] at made
      obtain ⟨criterion, middle, _, made⟩ := run_bind_ok_iff.mp made
      obtain ⟨parameter, _, chosen, made⟩ := run_bind_ok_iff.mp made
      obtain ⟨relaxation, _, relaxed, made⟩ := run_bind_ok_iff.mp made
      rw [run_compute_liftM] at chosen relaxed
      cases made
      exact .splitting rfl rfl (congrArg Prod.fst chosen) (congrArg Prod.fst relaxed) rfl

theorem CyclicProximalPoint.run_start {settings : CyclicProximalPoint.Settings S}
    {criterion : Criterion S} {parameter : Schedule S} {evaluationOrder : EvaluationOrder}
    (given : settings.criterion = some criterion) (chosen : settings.schedule = .ok parameter)
    (ordered : EvaluationOrder.ofSetting settings.order = .ok evaluationOrder) :
    (CyclicProximalPoint.start point settings).run before = (.ok {
      iterate := point
      criterion := some criterion
      method := .cyclic settings.derived { parameter, evaluationOrder, key := settings.key } },
      before) := by
  rw [start_eq, given, chosen, ordered]
  rfl

theorem DouglasRachford.run_start {settings : DouglasRachford.Settings S}
    {criterion : Criterion S} {parameter relaxation : Schedule S}
    (given : settings.criterion = some criterion)
    (chosen : scheduleOr SolverDefaults.proximalParameter settings.parameter = .ok parameter)
    (relaxed : scheduleOr SolverDefaults.relaxation settings.relaxation = .ok relaxation) :
    (DouglasRachford.start point settings).run before = (.ok {
      iterate := point
      criterion := some criterion
      method := .splitting {
        driver := point
        parameter
        relaxation
        reflection := settings.reflection
        parallel := settings.parallel } }, before) := by
  rw [start_eq, given, chosen, relaxed]
  rfl

namespace Recipe.Describes

variable {recipe : Recipe S} {state : SolverState S} (describes : recipe.Describes state)

include describes in
/-- A used state is constructed anew without a failure and without using any memory. -/
theorem run_remake (before : Journal × Workspace S) :
    (recipe.remake state).run before = (.ok state.renewed, before) := by
  obtain ⟨iterate, criterion, iterations, method, extras⟩ := state
  cases describes with
  | cyclic noExtras hasCriterion chosen ordered isCyclic =>
      cases hasCriterion
      cases isCyclic
      rw [remake]
      refine CyclicProximalPoint.run_start rfl ?_ ordered
      exact chosen
  | splitting noExtras hasCriterion chosen relaxed isSplitting =>
      cases hasCriterion
      cases isSplitting
      rw [remake]
      refine DouglasRachford.run_start rfl ?_ ?_
      · exact chosen
      · exact relaxed

include describes in
theorem criterionText_renewed : state.renewed.criterionText = state.criterionText := by
  obtain ⟨iterate, criterion, iterations, method, extras⟩ := state
  cases describes with
  | cyclic noExtras _ _ _ isCyclic =>
      cases noExtras
      cases isCyclic
      rfl
  | splitting noExtras _ _ _ isSplitting =>
      cases noExtras
      cases isSplitting
      rfl

theorem lasting (recipe : Recipe S) : SolverState.Lasting recipe.Describes where
  iterate := fun iterate describes => by
    cases describes with
    | cyclic noExtras hasCriterion chosen ordered isCyclic =>
        exact .cyclic noExtras hasCriterion chosen ordered isCyclic
    | splitting noExtras hasCriterion chosen relaxed isSplitting =>
        exact .splitting noExtras hasCriterion chosen relaxed isSplitting
  order := @fun state order describes => by
    obtain ⟨iterate, criterion, iterations, method, extras⟩ := state
    cases describes with
    | cyclic noExtras hasCriterion chosen ordered isCyclic =>
        cases noExtras
        cases isCyclic
        exact .cyclic rfl hasCriterion chosen ordered rfl
    | splitting noExtras hasCriterion chosen relaxed isSplitting =>
        cases noExtras
        cases isSplitting
        exact .splitting rfl hasCriterion chosen relaxed rfl
  key := @fun state key describes => by
    obtain ⟨iterate, criterion, iterations, method, extras⟩ := state
    cases describes with
    | cyclic noExtras hasCriterion chosen ordered isCyclic =>
        cases isCyclic
        exact .cyclic noExtras hasCriterion chosen ordered rfl
    | splitting noExtras hasCriterion chosen relaxed isSplitting =>
        cases isSplitting
        exact .splitting noExtras hasCriterion chosen relaxed rfl
  driver := @fun state driver describes => by
    obtain ⟨iterate, criterion, iterations, method, extras⟩ := state
    cases describes with
    | cyclic noExtras hasCriterion chosen ordered isCyclic =>
        cases isCyclic
        exact .cyclic noExtras hasCriterion chosen ordered rfl
    | splitting noExtras hasCriterion chosen relaxed isSplitting =>
        cases isSplitting
        exact .splitting noExtras hasCriterion chosen relaxed rfl

include describes in
theorem withIterations (iterations : Int) : recipe.Describes (state.withIterations iterations) := by
  cases describes with
  | cyclic noExtras hasCriterion chosen ordered isCyclic =>
      refine .cyclic ?_ hasCriterion chosen ordered isCyclic
      rw [SolverState.withIterations, noExtras]
      rfl
  | splitting noExtras hasCriterion chosen relaxed isSplitting =>
      refine .splitting ?_ hasCriterion chosen relaxed isSplitting
      rw [SolverState.withIterations, noExtras]
      rfl

end Recipe.Describes

end Starting

structure SolverState.Anew (recipe : Recipe S) (criterion : Criterion S) (used new : SolverState S) :
    Prop where
  describes : recipe.Describes used
  criterion : used.criterion = some criterion
  renewed : new = used.renewed

abbrev Step.Evens {α : Type} (recipe : Recipe S) (criterion : Criterion S)
    (computation : Step S α) : Prop :=
  Leads (Beside False (SolverState.Anew recipe criterion)) (Beside False fun _ _ => True)
    (Beside False (SolverState.Paired criterion)) computation computation

section Preparing

variable {recipe : Recipe S} {criterion : Criterion S} (problem : Problem S)

namespace SolverState.Anew

variable {settings : DouglasRachford.Settings S} {used new : SolverState S}

theorem splitting (anew : SolverState.Anew (.splitting settings) criterion used new) :
    ∃ parameters, parameters.parallel = true ∧ used.method = .splitting parameters ∧
      new.method = .splitting parameters := by
  obtain ⟨describes, _, rfl⟩ := anew
  cases describes with
  | splitting _ _ _ _ isSplitting =>
      refine ⟨_, rfl, isSplitting, ?_⟩
      rw [SolverState.renewed, isSplitting]

theorem paired_withIterate (anew : SolverState.Anew (.splitting settings) criterion used new)
    (iterate : Point S) : (used.withIterate iterate).Paired criterion (new.withIterate iterate) := by
  obtain ⟨describes, hasCriterion, rfl⟩ := anew
  obtain ⟨start, _, iterations, method, extras⟩ := used
  cases describes with
  | splitting noExtras _ _ _ isSplitting =>
      cases noExtras
      cases isSplitting
      cases hasCriterion
      exact ⟨⟨rfl, rfl, rfl, nofun⟩, rfl, rfl⟩

end SolverState.Anew

theorem CyclicProximalPoint.prepare_leads {settings : CyclicProximalPoint.Settings S} :
    Step.Evens (.cyclic settings) criterion (prepare problem) := by
  rintro ⟨journal, used⟩ ⟨journal', new⟩ ⟨journals, describes, hasCriterion, renewed⟩
  refine ⟨rfl, ⟨journals, trivial⟩, fun _ _ => ⟨journals, ?_⟩⟩
  obtain ⟨iterate, _, iterations, method, extras⟩ := used
  cases describes with
  | cyclic noExtras _ _ _ isCyclic =>
      cases renewed
      cases noExtras
      cases isCyclic
      cases hasCriterion
      exact ⟨⟨rfl, rfl, rfl, nofun⟩, rfl, rfl⟩

theorem DouglasRachford.prepare_leads {settings : DouglasRachford.Settings S} :
    Step.Evens (.splitting settings) criterion (prepare problem) := by
  -- The mean is taken without a reference, so the iterate that a run left does not matter.
  have averaged : Step.Evens (.splitting settings) criterion (average problem) := by
    rintro ⟨journal, used⟩ ⟨journal', new⟩ ⟨journals, anew⟩
    obtain ⟨parameters, parallel, isUsed, isNew⟩ := anew.splitting
    rw [average, run_bind_of_ok (run_parameters isUsed), run_bind_of_ok (run_parameters isNew),
      if_pos parallel]
    have moved : Step.Evens (.splitting settings) criterion (do
        let mean ← problem.manifold.coordinateMean parameters.driver none
        Tracked.update fun state => state.withIterate mean) := by
      refine leads_bind ((mirrors_liftM nofun).leads fun _ _ related => ⟨related.1, trivial⟩)
        fun mean => ?_
      exact fun _ _ related => ⟨rfl, ⟨related.1, trivial⟩,
        fun _ _ => ⟨related.1, related.2.paired_withIterate mean⟩⟩
    split
    · exact ⟨rfl, ⟨journals, trivial⟩, fun _ ended => nomatch ended⟩
    · exact moved _ _ ⟨journals, anew⟩
  refine leads_bind ((mirrors_liftM nofun).leads fun _ _ related => ⟨related.1, trivial⟩)
    fun count => ?_
  exact leads_ite (leads_bind (leads_fail _ fun _ _ related => ⟨related.1, trivial⟩)
    fun _ => averaged) averaged

theorem Solver.prepare_leads {solver : Solver S} {state : SolverState S}
    (describes : recipe.Describes state) (found : Solver.ofState state = .ok solver) :
    Step.Evens recipe criterion (solver.prepare problem) := by
  cases describes with
  | cyclic _ _ _ _ isCyclic =>
      rw [Solver.ofState, isCyclic] at found
      cases found
      exact CyclicProximalPoint.prepare_leads problem
  | splitting _ _ _ _ isSplitting =>
      rw [Solver.ofState, isSplitting] at found
      cases found
      exact DouglasRachford.prepare_leads problem

end Preparing

end ProximalSplitting

import ProximalSplitting.Proofs.Effects.Outcomes
import ProximalSplitting.Proofs.Method.Frames

/-!
Steps in which a function of the caller raises. A step can be interrupted by its schedules, by a
proximal map at any place of the visiting order or of the double reflection, by a map at one
component of a power, and by a reflection; what the step computes before that place succeeds. The
step then fails with the same fault, and the iterate and the driver stay what they were.
-/

namespace ProximalSplitting

open Tracked

namespace Compute

variable {S α : Type}

def Raises (computation : Compute S α) (journal : Journal) (fault : Fault S) : Prop :=
  (computation.run journal).1 = .error fault

theorem Gives.not_raises {computation : Compute S α} {value : α} (gives : computation.Gives value)
    {journal : Journal} {fault : Fault S} : ¬ computation.Raises journal fault := by
  intro raised
  obtain ⟨after, ran⟩ := gives journal
  rw [Raises, ran] at raised
  cases raised

def Returns (computation : Compute S α) (journal : Journal) (value : α) (after : Journal) : Prop :=
  computation.run journal = (.ok value, after)

/-- Nothing is known of a function of the caller but that it raises its faults and yields its
values. -/
theorem ensures_self (computation : Compute S α) :
    computation.Ensures (fun fault => ∃ journal, computation.Raises journal fault)
      computation.Yields := by
  intro journal
  rcases ran : computation.run journal with ⟨fault | value, after⟩
  · exact ⟨journal, congrArg Prod.fst ran⟩
  · exact ⟨journal, after, ran⟩

end Compute

open Compute

variable {S : Type} [Scalar S]

def Problem.MapRaises (problem : Problem S) (parameter : S) (point : Point S) (index : Nat)
    (journal : Journal) (fault : Fault S) : Prop :=
  ∃ collection proximalMap, problem.collection = some collection ∧
    collection.maps[index]? = some proximalMap ∧ (proximalMap parameter point).Raises journal fault

inductive ProximalMap.ComponentRaises (parameter : S) (point : Point S) (journal : Journal)
    (fault : Fault S) : ProximalMap S → Prop
  | inProduct {base copies given visited proximalMap rest product before made earlier component
        later known moved reached} :
      (parallel (.power base copies given) (visited ++ proximalMap :: rest)).Returns before product
        made →
      (Manifold.components (.power base copies given) point).Returns journal
        (earlier ++ component :: later) known →
      visited.length = earlier.length →
      (componentwise parameter visited earlier).Returns known moved reached →
      (proximalMap parameter component).Raises reached fault →
      ComponentRaises parameter point journal fault product

theorem SolverState.points_changeCyclic {S : Type} (state : SolverState S)
    (change : CyclicParameters S → CyclicParameters S) :
    ((state.changeCyclic change).iterate, (state.changeCyclic change).driver?) =
      (state.iterate, state.driver?) := by
  rw [changeCyclic]
  split
  · rename_i found
    rw [driver?, driver?, found]
  · rfl

inductive Interruption (problem : Problem S) (iteration : Int) (fault : Fault S) :
    Journal × SolverState S → Prop
  | cyclicParameter {journal state derived parameters} :
      state.method = .cyclic derived parameters →
      (parameters.parameter iteration).Raises journal fault →
      Interruption problem iteration fault (journal, state)
  | cyclicMap {journal state derived parameters parameter known drawn ordered visited index rest
        point reached} :
      state.method = .cyclic derived parameters →
      (parameters.parameter iteration).Returns journal parameter known →
      (CyclicProximalPoint.visitingOrder problem).run (known, state) =
        (.ok (visited ++ index :: rest), (drawn, ordered)) →
      (CyclicProximalPoint.sweep problem parameter visited state.iterate).Returns drawn point
        reached →
      problem.MapRaises parameter point index reached fault →
      Interruption problem iteration fault (journal, state)
  | splittingParameter {journal state parameters} : state.method = .splitting parameters →
      (parameters.parameter iteration).Raises journal fault →
      Interruption problem iteration fault (journal, state)
  | firstMap {journal state parameters parameter known} : state.method = .splitting parameters →
      (parameters.parameter iteration).Returns journal parameter known →
      problem.MapRaises parameter parameters.driver 0 known fault →
      Interruption problem iteration fault (journal, state)
  | component {journal state parameters parameter known collection product} :
      state.method = .splitting parameters →
      (parameters.parameter iteration).Returns journal parameter known →
      problem.collection = some collection → collection.maps[0]? = some product →
      product.ComponentRaises parameter parameters.driver known fault →
      Interruption problem iteration fault (journal, state)
  | firstReflection {journal state parameters reflect parameter known point reached} :
      state.method = .splitting parameters → parameters.reflection = some reflect →
      (parameters.parameter iteration).Returns journal parameter known →
      (problem.prox parameter parameters.driver 0).Returns known point reached →
      (reflect point parameters.driver).Raises reached fault →
      Interruption problem iteration fault (journal, state)
  | secondMap {journal state parameters parameter known point reached reflected turned} :
      state.method = .splitting parameters →
      (parameters.parameter iteration).Returns journal parameter known →
      (problem.prox parameter parameters.driver 0).Returns known point reached →
      (parameters.reflection.getD problem.manifold.geometry.reflect point
        parameters.driver).Returns reached reflected turned →
      problem.MapRaises parameter reflected 1 turned fault →
      Interruption problem iteration fault (journal, state)
  | secondReflection {journal state parameters reflect parameter known point reached reflected
        turned second moved} :
      state.method = .splitting parameters → parameters.reflection = some reflect →
      (parameters.parameter iteration).Returns journal parameter known →
      (problem.prox parameter parameters.driver 0).Returns known point reached →
      (reflect point parameters.driver).Returns reached reflected turned →
      (problem.prox parameter reflected 1).Returns turned second moved →
      (reflect second reflected).Raises moved fault →
      Interruption problem iteration fault (journal, state)
  | relaxation {journal state parameters parameter known result moved} :
      state.method = .splitting parameters →
      (parameters.parameter iteration).Returns journal parameter known →
      (DouglasRachford.doubleReflection problem
        (parameters.reflection.getD problem.manifold.geometry.reflect) parameter
        parameters.driver).Returns known result moved →
      (parameters.relaxation iteration).Raises moved fault →
      Interruption problem iteration fault (journal, state)

section Raising

variable {α β : Type} {fault : Fault S} {journal after : Journal}

omit [Scalar S] in
theorem Compute.Raises.bind {computation : Compute S α} (raises : computation.Raises journal fault)
    (next : α → Compute S β) : (computation >>= next).Raises journal fault := by
  rcases ran : computation.run journal with ⟨outcome, reached⟩
  rw [Raises, ran] at raises
  cases raises
  rw [Raises, Effect.run_bind_of_error ran]

omit [Scalar S] in
theorem Compute.Returns.bind_raises {computation : Compute S α} {value : α}
    {next : α → Compute S β} (returns : computation.Returns journal value after)
    (raises : (next value).Raises after fault) : (computation >>= next).Raises journal fault := by
  rw [Raises, Effect.run_bind_of_ok returns]
  exact raises

omit [Scalar S] in
theorem Compute.Raises.run_liftM {M : Type} {computation : Compute S α}
    (raises : computation.Raises journal fault) (memory : M) :
    ∃ reached, (liftM computation : Tracked S M α).run (journal, memory) =
      (.error fault, (reached, memory)) := by
  rcases ran : computation.run journal with ⟨outcome, reached⟩
  rw [Raises, ran] at raises
  cases raises
  exact ⟨reached, run_liftM_of ran memory⟩

theorem Problem.prox_eq {problem : Problem S} {collection : MapCollection S}
    (collected : problem.collection = some collection) {index : Nat} {proximalMap : ProximalMap S}
    (found : collection.maps[index]? = some proximalMap) (parameter : S) (point : Point S) :
    problem.prox parameter point index = proximalMap parameter point := by
  have known : problem.maps = pure collection.maps := by
    rw [Problem.maps, collected]
    rfl
  have chosen : (if 0 ≤ (index : Int) then collection.maps[(index : Int).toNat]? else none) =
      some proximalMap := by
    rw [if_pos (Int.natCast_nonneg index), Int.toNat_natCast, found]
  rw [Problem.prox, known, pure_bind, chosen]

theorem Problem.MapRaises.prox {problem : Problem S} {parameter : S} {point : Point S} {index : Nat}
    (raises : problem.MapRaises parameter point index journal fault) :
    (problem.prox parameter point index).Raises journal fault := by
  obtain ⟨collection, proximalMap, collected, found, raised⟩ := raises
  rw [Problem.prox_eq collected found]
  exact raised

omit [Scalar S] in
theorem ProximalMap.componentwise_raises {parameter : S} {proximalMap : ProximalMap S}
    {visited rest : List (ProximalMap S)} {earlier later moved : List (Point S)}
    {component : Point S} (paired : visited.length = earlier.length)
    (returns : (componentwise parameter visited earlier).Returns journal moved after)
    (raises : (proximalMap parameter component).Raises after fault) :
    (componentwise parameter (visited ++ proximalMap :: rest)
      (earlier ++ component :: later)).Raises journal fault := by
  induction visited generalizing earlier moved journal with
  | nil =>
      cases List.length_eq_zero_iff.mp paired.symm
      cases returns
      exact raises.bind _
  | cons first others ih =>
      cases earlier with
      | nil => cases paired
      | cons point points =>
          obtain ⟨value, middle, applied, returns⟩ := Effect.run_bind_ok_iff.mp returns
          obtain ⟨values, _, returns, ended⟩ := Effect.run_bind_ok_iff.mp returns
          cases ended
          have restRaises := ih (Nat.succ.inj paired) returns
          exact Returns.bind_raises applied (restRaises.bind _)

omit [Scalar S] in
theorem ProximalMap.ensures_componentwise {parameter : S} {raised : Fault S → Prop}
    {related : ProximalMap S → Point S → Point S → Prop} {maps : List (ProximalMap S)}
    {points : List (Point S)} (paired : maps.length = points.length)
    (each : ∀ proximalMap ∈ maps, ∀ point ∈ points,
      (proximalMap parameter point).Ensures raised (related proximalMap point)) :
    (componentwise parameter maps points).Ensures raised fun moved =>
      moved.length = maps.length ∧
        ∀ (index : Nat) (proximalMap : ProximalMap S) (point : Point S),
          maps[index]? = some proximalMap → points[index]? = some point →
          ∃ image, moved[index]? = some image ∧ related proximalMap point image := by
  induction maps generalizing points with
  | nil =>
      cases points with
      | nil => exact ensures_pure ⟨rfl, fun _ _ _ absurdity => by cases absurdity⟩
      | cons _ _ => cases paired
  | cons first rest ih =>
      cases points with
      | nil => cases paired
      | cons point others =>
          rw [componentwise]
          refine (each first List.mem_cons_self point List.mem_cons_self).bind fun image isImage => ?_
          refine (ih (Nat.succ.inj paired) fun proximalMap member other among => each proximalMap
            (List.mem_cons_of_mem first member) other (List.mem_cons_of_mem point among)).bind
              fun images found => ?_
          refine ensures_pure
            ⟨congrArg (· + 1) found.1, fun index proximalMap other isMap isOther => ?_⟩
          cases index with
          | zero =>
              cases isMap
              cases isOther
              exact ⟨image, rfl, isImage⟩
          | succ index => exact found.2 index proximalMap other isMap isOther

def ProximalMap.beside (manifold : Manifold S) (maps : List (ProximalMap S)) : ProximalMap S :=
  fun parameter point => do
    let components ← manifold.components point
    Tensor.ofSlices (← componentwise parameter maps components)

theorem ProximalMap.parallel_of_yields {base : Manifold S} {copies : Nat} {given : Value S}
    {maps : List (ProximalMap S)} {product : ProximalMap S}
    (yields : (parallel (.power base copies given) maps).Yields product) :
    maps.length = copies ∧ product = beside (.power base copies given) maps := by
  rw [parallel, Manifold.asPower, pure_bind] at yields
  dsimp only at yields
  split at yields
  · obtain ⟨_, _, failed⟩ := yields
    cases failed
  · rename_i same
    exact ⟨Decidable.not_not.mp same, yields_pure.mp yields⟩

theorem ProximalMap.ComponentRaises.raises {product : ProximalMap S} {parameter : S}
    {point : Point S} (raises : product.ComponentRaises parameter point journal fault) :
    (product parameter point).Raises journal fault := by
  cases raises with
  | inProduct built components paired returns raises =>
      obtain ⟨_, rfl⟩ := parallel_of_yields ⟨_, _, built⟩
      exact components.bind_raises ((componentwise_raises paired returns raises).bind _)

end Raising

namespace CyclicProximalPoint

variable {problem : Problem S} {fault : Fault S} {journal : Journal} {state : SolverState S}
  {iteration : Int}

theorem keeps_points_visitingOrder :
    Keeps (fun state => (state.iterate, state.driver?)) (visitingOrder problem) :=
  .of_stays fun _ => stays_visitingOrder problem fun _ same =>
    (SolverState.points_changeCyclic _ _).trans same

omit [Scalar S] in
theorem keeps_points_setOrder (order : Option (List Nat)) :
    Keeps (fun state => (state.iterate, state.driver?)) (setOrder order : Step S Unit) :=
  keeps_update fun state => (state.dropExtra "order").points_changeCyclic _

theorem step_fails_of_parameter (raises : (state.parameterAt iteration).Raises journal fault) :
    ∃ after, (step problem iteration).run (journal, state) = (.error fault, (after, state)) := by
  obtain ⟨after, failed⟩ := raises.run_liftM state
  refine ⟨after, ?_⟩
  change (liftM (state.parameterAt iteration) >>= _ : Step S Unit).run (journal, state) = _
  exact Effect.run_bind_of_error failed

theorem sweep_raises {parameter : S} {visited rest : List Nat} {index : Nat}
    {start point : Point S} {reached : Journal}
    (returns : (sweep problem parameter visited start).Returns journal point reached)
    (raises : problem.MapRaises parameter point index reached fault) :
    (sweep problem parameter (visited ++ index :: rest) start).Raises journal fault := by
  rw [sweep, List.foldlM_append]
  refine returns.bind_raises ?_
  rw [List.foldlM_cons]
  exact raises.prox.bind _

theorem step_fails_of_map {parameter : S} {known drawn reached : Journal}
    {ordered : SolverState S} {visited rest : List Nat} {index : Nat} {point : Point S}
    (scheduled : (state.parameterAt iteration).Returns journal parameter known)
    (order : (visitingOrder problem).run (known, state) =
      (.ok (visited ++ index :: rest), (drawn, ordered)))
    (returns : (sweep problem parameter visited state.iterate).Returns drawn point reached)
    (raises : problem.MapRaises parameter point index reached fault) :
    ∃ after, (step problem iteration).run (journal, state) = (.error fault, after) ∧
      (after.2.iterate, after.2.driver?) = (state.iterate, state.driver?) := by
  have keptOrder : (ordered.iterate, ordered.driver?) = (state.iterate, state.driver?) :=
    keeps_points_visitingOrder.of_run order
  let kept : SolverState S := (ordered.dropExtra "order").changeCyclic fun parameters =>
    { parameters with order := some (visited ++ index :: rest) }
  have set : (setOrder (some (visited ++ index :: rest))).run (drawn, ordered) =
      (.ok (), (drawn, kept)) := rfl
  have keptState : (kept.iterate, kept.driver?) = (ordered.iterate, ordered.driver?) :=
    (keeps_points_setOrder _).of_run set
  have swept : (sweep problem parameter (visited ++ index :: rest) state.iterate).Raises drawn
      fault := sweep_raises returns raises
  obtain ⟨after, failed⟩ := swept.run_liftM kept
  refine ⟨(after, kept), ?_, keptState.trans keptOrder⟩
  change (liftM (state.parameterAt iteration) >>= _ : Step S Unit).run (journal, state) = _
  rw [Effect.run_bind_of_ok (run_liftM_of scheduled state), Effect.run_bind_of_ok order,
    Effect.run_bind_of_ok set, Effect.run_bind_of_error failed]

end CyclicProximalPoint

namespace DouglasRachford

variable {problem : Problem S} {fault : Fault S} {journal : Journal} {state : SolverState S}
  {iteration : Int}

def figures (problem : Problem S) (parameters : SplittingParameters S) (iteration : Int) :
    Compute S (Point S × Point S × S) := do
  let parameter ← parameters.parameter iteration
  let (point, reflection) ← doubleReflection problem
    (parameters.reflection.getD problem.manifold.geometry.reflect) parameter parameters.driver
  let relaxation ← parameters.relaxation iteration
  return (point, reflection, relaxation)

def move (problem : Problem S) (state : SolverState S) (parameters : SplittingParameters S) :
    Point S × Point S × S → Step S Unit
  | (point, reflection, relaxation) => do
      let driver ← problem.manifold.geometry.shortestGeodesic parameters.driver reflection relaxation
      Tracked.update fun state =>
        state.changeSplitting fun parameters => { parameters with driver }
      let iterate ←
        if parameters.parallel then problem.manifold.coordinateMean point (some state.iterate)
        else pure point
      Tracked.update fun state => state.withIterate iterate

theorem run_step {parameters : SplittingParameters S}
    (method : state.method = .splitting parameters) :
    (step problem iteration).run (journal, state) =
      (liftM (figures problem parameters iteration) >>= move problem state parameters).run
        (journal, state) := by
  have parameterAt : parameters.parameter iteration = state.parameterAt iteration := by
    rw [SolverState.parameterAt, method]
    rfl
  have relaxationAt : parameters.relaxation iteration = state.relaxationAt iteration := by
    rw [SolverState.relaxationAt, method]
    rfl
  rw [step, Effect.run_bind_of_ok (run_read (journal, state)),
    Effect.run_bind_of_ok (run_parameters method)]
  simp only [figures, parameterAt, relaxationAt, liftM_bind, bind_assoc]
  rfl

theorem step_fails {parameters : SplittingParameters S}
    (method : state.method = .splitting parameters)
    (raises : (figures problem parameters iteration).Raises journal fault) :
    ∃ after, (step problem iteration).run (journal, state) = (.error fault, (after, state)) := by
  obtain ⟨after, failed⟩ := raises.run_liftM state
  exact ⟨after, (run_step method).trans (Effect.run_bind_of_error failed)⟩

end DouglasRachford

section Places

variable {problem : Problem S} {fault : Fault S} {iteration : Int}
  {before : Journal × SolverState S} {solver : Solver S}

theorem Solver.step_fails_of_splitting {parameters : SplittingParameters S}
    (found : Solver.ofState before.2 = .ok solver) (method : before.2.method = .splitting parameters)
    (raises : (DouglasRachford.figures problem parameters iteration).Raises before.1 fault) :
    ∃ after, (solver.step problem iteration).run before = (.error fault, after) ∧
      (after.2.iterate, after.2.driver?) = (before.2.iterate, before.2.driver?) := by
  rw [Solver.ofState, method] at found
  cases found
  obtain ⟨after, failed⟩ := DouglasRachford.step_fails method raises
  exact ⟨(after, before.2), failed, rfl⟩

theorem Solver.ofState_cyclic {state : SolverState S} {derived : Bool}
    {parameters : CyclicParameters S} (found : Solver.ofState state = .ok solver)
    (method : state.method = .cyclic derived parameters) :
    solver = Solver.cyclicProximalPoint ∧
      state.parameterAt iteration = parameters.parameter iteration := by
  rw [Solver.ofState, method] at found
  cases found
  rw [SolverState.parameterAt, method]
  exact ⟨rfl, rfl⟩

/-- Wherever a step is interrupted, it fails with the fault that was raised, and the iterate and the
driver are those from before the step. -/
theorem Interruption.step_fails (interruption : Interruption problem iteration fault before)
    (found : Solver.ofState before.2 = .ok solver) :
    ∃ after, (solver.step problem iteration).run before = (.error fault, after) ∧
      (after.2.iterate, after.2.driver?) = (before.2.iterate, before.2.driver?) := by
  -- One case for each place at which a step calls a function of the caller.
  cases interruption with
  | cyclicParameter method raises =>
      obtain ⟨rfl, parameterAt⟩ := Solver.ofState_cyclic found method
      rw [← parameterAt] at raises
      obtain ⟨after, failed⟩ := CyclicProximalPoint.step_fails_of_parameter raises
      exact ⟨_, failed, rfl⟩
  | cyclicMap method scheduled order returns raises =>
      obtain ⟨rfl, parameterAt⟩ := Solver.ofState_cyclic found method
      rw [← parameterAt] at scheduled
      exact CyclicProximalPoint.step_fails_of_map scheduled order returns raises
  | splittingParameter method raises =>
      exact Solver.step_fails_of_splitting found method (raises.bind _)
  | firstMap method scheduled raises =>
      exact Solver.step_fails_of_splitting found method
        (scheduled.bind_raises ((raises.prox.bind _).bind _))
  | component method scheduled collected first raises =>
      have ofProduct : problem.MapRaises _ _ 0 _ fault := ⟨_, _, collected, first, raises.raises⟩
      exact Solver.step_fails_of_splitting found method
        (scheduled.bind_raises ((ofProduct.prox.bind _).bind _))
  | firstReflection method chosen scheduled first raises =>
      refine Solver.step_fails_of_splitting found method (scheduled.bind_raises ?_)
      rw [chosen]
      exact Raises.bind (first.bind_raises (raises.bind _)) _
  | secondMap method scheduled first reflected raises =>
      refine Solver.step_fails_of_splitting found method (scheduled.bind_raises ?_)
      exact Raises.bind (first.bind_raises (reflected.bind_raises (raises.prox.bind _))) _
  | secondReflection method chosen scheduled first reflected second raises =>
      refine Solver.step_fails_of_splitting found method (scheduled.bind_raises ?_)
      rw [chosen]
      exact Raises.bind (first.bind_raises (reflected.bind_raises
        (second.bind_raises (raises.bind _)))) _
  | relaxation method scheduled doubled raises =>
      refine Solver.step_fails_of_splitting found method (scheduled.bind_raises ?_)
      exact doubled.bind_raises (raises.bind _)

end Places

end ProximalSplitting

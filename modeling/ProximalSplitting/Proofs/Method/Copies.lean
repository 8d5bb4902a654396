import ProximalSplitting.Proofs.Effects.Matching
import ProximalSplitting.Proofs.Exact.Flat
import ProximalSplitting.Proofs.Method.Resumption
import ProximalSplitting.Proofs.Purity.Problem
import ProximalSplitting.Proofs.Stopping.Agreement

/-!
Splitting copies of one map. On the diagonal of a power every operation acts on equal components, so
that a step of the parallel method with copies of a map moves along the diagonal as a step with that
map and the identity moves on the base.
-/

namespace ProximalSplitting

open Compute Effect Tracked

variable {S : Type} {copies : Nat} {region : Point S → Prop}

namespace Power

def repeated (copies : Nat) (value : Point S) : Point S := point copies fun _ => value

def Repeats (copies : Nat) (region : Point S → Prop) (whole value : Point S) : Prop :=
  whole = repeated copies value ∧ region value

theorem map_range_const (value : Point S) :
    (List.range copies).map (fun _ => value) = List.replicate copies value := by
  rw [List.map_const', List.length_range]

theorem gives_components_repeated (value : Point S) :
    (components copies (repeated copies value)).Gives (List.replicate copies value) := by
  rw [← map_range_const]
  exact gives_components copies fun _ => value

theorem gives_component_repeated {position : Nat} (inside : position < copies) (value : Point S) :
    ((repeated copies value).component position).Gives value := gives_component inside fun _ => value

theorem negate_repeated [Scalar S] (value : Point S) :
    (repeated copies value).negate = repeated copies value.negate := negate_point copies fun _ => value

variable (some : 0 < copies)
include some

theorem gives_ofSlices_replicate (value : Point S) :
    (Tensor.ofSlices (List.replicate copies value)).Gives (repeated copies value) := by
  rw [repeated, point, map_range_const]
  obtain ⟨fewer, rfl⟩ := Nat.exists_eq_add_one.mpr some
  rw [List.replicate_succ, Tensor.ofSlices, if_pos (by simp)]
  exact gives_pure _

theorem gives_combine_replicate (value : Point S) :
    (combine copies (List.replicate copies value)).Gives (repeated copies value) := by
  rw [combine, if_pos List.length_replicate]
  exact gives_ofSlices_replicate some value

theorem matches_each {operation : Nat → Compute S (Point S)} {single : Compute S (Point S)}
    (each : ∀ position < copies, Matches Eq (operation position) single) :
    Matches (fun whole value => whole = repeated copies value) (Power.each copies operation)
      single := by
  have present : List.range copies ≠ [] := by
    simp only [ne_eq, List.range_eq_nil]
    omega
  have all := Matches.repeat present fun position member =>
    each position (List.mem_range.mp member)
  rw [← bind_pure single]
  refine all.bind fun found value same => ?_
  rw [same, map_range_const]
  exact (gives_combine_replicate some value).matches_gives (gives_pure value) rfl

section Operations

variable [Scalar S] {base : Geometry S} {given : Value S} (pure : base.Pure)
include pure

theorem matches_log (start target : Point S) :
    Matches (fun whole value => whole = repeated copies value)
      ((powerGeometry base copies given).log (repeated copies start) (repeated copies target))
      (base.log start target) := by
  refine matches_each some fun position inside => ?_
  refine (gives_component_repeated inside start).bind_matches ?_
  exact (gives_component_repeated inside target).bind_matches (pure.log start target).matches_self

theorem matches_exp (start direction : Point S) (time : S) :
    Matches (fun whole value => whole = repeated copies value)
      ((powerGeometry base copies given).exp (repeated copies start) (repeated copies direction)
        time)
      (base.exp start direction time) := by
  refine matches_each some fun position inside => ?_
  refine (gives_component_repeated inside start).bind_matches ?_
  refine (gives_component_repeated inside direction).bind_matches ?_
  exact (pure.exp start direction time).matches_self

theorem matches_shortestGeodesic (start target : Point S) (time : S) :
    Matches (fun whole value => whole = repeated copies value)
      ((powerGeometry base copies given).shortestGeodesic (repeated copies start)
        (repeated copies target) time)
      (base.shortestGeodesic start target time) := by
  refine (matches_log some pure start target).bind fun _ direction same => ?_
  rw [same]
  exact matches_exp some pure start direction time

theorem matches_reflect (pivot point : Point S) :
    Matches (fun whole value => whole = repeated copies value)
      ((powerGeometry base copies given).reflect (repeated copies pivot) (repeated copies point))
      (base.reflect pivot point) := by
  refine (matches_log some pure pivot point).bind fun _ direction same => ?_
  rw [same, negate_repeated]
  exact matches_exp some pure pivot direction.negate Scalar.one

end Operations

end Power

open Power

section Maps

variable {proximalMap : ProximalMap S} {parameter : S}

theorem ProximalMap.componentwise_replicate (point : Point S) :
    componentwise parameter (List.replicate copies proximalMap) (List.replicate copies point) =
      (List.replicate copies point).mapM (proximalMap parameter) := by
  induction copies with
  | zero => rfl
  | succ copies ih =>
      rw [List.replicate_succ, List.replicate_succ, componentwise, ih, List.mapM_cons]

theorem ProximalMap.matches_componentwise (pure : ProximalMap.Pure proximalMap)
    (some : 0 < copies) (point : Point S) :
    Matches (fun found value => found = List.replicate copies value)
      (componentwise parameter (List.replicate copies proximalMap) (List.replicate copies point))
      (proximalMap parameter point) := by
  have present : List.replicate copies point ≠ [] := by
    simp only [ne_eq, List.replicate_eq_nil_iff]
    omega
  rw [componentwise_replicate]
  refine (Matches.repeat present fun next member => ?_).mono fun found value same => ?_
  · rw [List.eq_of_mem_replicate member]
    exact (pure parameter point).matches_self
  · rw [same, List.map_replicate]

variable [Scalar S] {base : Manifold S} {given : Value S}

theorem ProximalMap.matches_beside (pure : ProximalMap.Pure proximalMap) (some : 0 < copies)
    (point : Point S) :
    Matches (fun whole value => whole = repeated copies value)
      (beside (.power base copies given) (List.replicate copies proximalMap) parameter
        (repeated copies point))
      (proximalMap parameter point) := by
  have components : ((Manifold.power base copies given).components (repeated copies point)).Gives
      (List.replicate copies point) :=
    (gives_pure (base, copies)).bind (gives_components_repeated point)
  refine components.bind_matches ?_
  rw [← bind_pure (proximalMap parameter point)]
  refine (matches_componentwise pure some point).bind fun found value same => ?_
  rw [same]
  exact (gives_ofSlices_replicate some value).matches_gives (gives_pure value) rfl

structure Repeatable (base : Manifold S) (copies : Nat) (proximalMap : ProximalMap S)
    (region : Point S → Prop) : Prop where
  pure : base.Pure
  pureMap : ProximalMap.Pure proximalMap
  mean : ∀ {point}, region point → ∀ reference,
    (base.geometry.mean (List.replicate copies point) reference MeanLimits.standard).Gives point
  map : ∀ parameter {point}, region point →
    (proximalMap parameter point).Ensures (fun _ => True) region
  reflect : ∀ {pivot point}, region pivot → region point →
    (base.geometry.reflect pivot point).Ensures (fun _ => True) region
  geodesic : ∀ {start target}, region start → region target → ∀ time,
    (base.geometry.shortestGeodesic start target time).Ensures (fun _ => True) region

theorem Repeatable.coordinateMean (repeatable : Repeatable base copies proximalMap region)
    (given : Value S) {point : Point S} (inside : region point) (reference : Option (Point S)) :
    ((Manifold.power base copies given).coordinateMean (repeated copies point) reference).Gives
      point :=
  (gives_pure (base, copies)).bind
    ((gives_components_repeated point).bind (repeatable.mean inside reference))

end Maps

/-- In flat space any copies of a point have it as their mean, so that every pure map can be
repeated that keeps the shape of points. -/
theorem Geometry.Straight.repeatable [ExactScalar S] {base : Manifold S} {shape : List Nat}
    (straight : base.geometry.Straight) (pureBase : base.Pure)
    (positive : ∀ extent ∈ shape, 0 < extent) (some : 0 < copies) {proximalMap : ProximalMap S}
    (pureMap : ProximalMap.Pure proximalMap)
    (keeps : ∀ parameter point, point.hasShape shape = true →
      (proximalMap parameter point).Ensures (fun _ => True) fun moved =>
        moved.hasShape shape = true) :
    Repeatable base copies proximalMap fun point => point.hasShape shape = true where
  pure := pureBase
  pureMap := pureMap
  mean := fun shaped reference =>
    straight.gives_mean_replicate positive some shaped reference MeanLimits.standard
  map := fun parameter _ shaped => keeps parameter _ shaped
  reflect := by
    intro pivot point pivotShaped pointShaped
    have direction := Flat.hasShape_sub pivotShaped pointShaped
    refine (straight.gives_log positive pivotShaped pointShaped).bind_ensures ?_
    refine (straight.gives_exp positive pivotShaped (by simpa using direction) _).ensures ?_
    exact Tensor.hasShape_zipWith pivotShaped (by simpa using direction) _
  geodesic := by
    intro start target startShaped targetShaped time
    have direction := Flat.hasShape_sub startShaped targetShaped
    refine (straight.gives_log positive startShaped targetShaped).bind_ensures ?_
    refine (straight.gives_exp positive startShaped direction time).ensures ?_
    exact Tensor.hasShape_zipWith startShaped (by simpa using direction) _

namespace DouglasRachford

variable [Scalar S] {problem other : Problem S} {base : Manifold S} {proximalMap : ProximalMap S}
  {parameters : SplittingParameters S} {left right : SolverState S}

structure SplitsCopies (base : Manifold S) (copies : Nat) (proximalMap : ProximalMap S)
    (problem other : Problem S) : Prop where
  manifold : ∃ given, problem.manifold = .power base copies given
  baseManifold : other.manifold = base
  objective : problem.objective = other.objective
  copied : ∃ counts, problem.collection =
    some ⟨[ProximalMap.beside problem.manifold (List.replicate copies proximalMap),
      ProximalMap.diagonal problem.manifold], counts⟩
  alone : ∃ counts, other.collection = some ⟨[proximalMap, ProximalMap.identity], counts⟩

def DriversRepeat (copies : Nat) (region : Point S → Prop) (parameters : SplittingParameters S)
    (left right : SolverState S) : Prop :=
  ∃ driver, region driver ∧
    left.method = .splitting
      { parameters with driver := repeated copies driver, parallel := true } ∧
    right.method = .splitting { parameters with driver, parallel := false }

def OnDiagonal (copies : Nat) (region : Point S → Prop) (parameters : SplittingParameters S)
    (left right : SolverState S) : Prop :=
  left.iterate = right.iterate ∧ DriversRepeat copies region parameters left right

variable (repeatable : Repeatable base copies proximalMap region) (some : 0 < copies)
  (splits : SplitsCopies base copies proximalMap problem other)
include repeatable some splits

theorem matches_doubleReflection {driver : Point S} (inside : region driver) (parameter : S) :
    Matches (fun whole points => Repeats copies region whole.1 points.1 ∧
        Repeats copies region whole.2 points.2)
      (doubleReflection problem problem.manifold.geometry.reflect parameter
        (repeated copies driver))
      (doubleReflection other other.manifold.geometry.reflect parameter driver) := by
  obtain ⟨given, manifold⟩ := splits.manifold
  obtain ⟨_, copied⟩ := splits.copied
  obtain ⟨_, alone⟩ := splits.alone
  rw [manifold] at copied
  have geometry := repeatable.pure.geometry
  have copiedProx : ∀ point, problem.prox parameter point 0 = _ :=
    @Problem.prox_eq _ _ problem _ copied 0 _ rfl parameter
  have diagonalProx : ∀ point, problem.prox parameter point 1 = _ :=
    @Problem.prox_eq _ _ problem _ copied 1 _ rfl parameter
  have aloneProx : ∀ point, other.prox parameter point 0 = _ :=
    @Problem.prox_eq _ _ other _ alone 0 _ rfl parameter
  have identityProx : ∀ point, other.prox parameter point 1 = _ :=
    @Problem.prox_eq _ _ other _ alone 1 _ rfl parameter
  rw [doubleReflection, doubleReflection, manifold, splits.baseManifold, copiedProx, aloneProx]
  refine ((ProximalMap.matches_beside repeatable.pureMap some driver).ensured
    (repeatable.map parameter inside)).bind fun _ point ⟨same, isPoint⟩ => ?_
  rw [same]
  refine ((matches_reflect some geometry point driver).ensured
    (repeatable.reflect isPoint inside)).bind fun _ turned ⟨same, isTurned⟩ => ?_
  rw [same, diagonalProx, identityProx]
  have projected : (ProximalMap.diagonal (.power base copies given) parameter
      (repeated copies turned)).Gives (repeated copies turned) :=
    (repeatable.coordinateMean given isTurned none).bind
      ((gives_pure (base, copies)).bind (gives_combine_replicate some turned))
  refine projected.bind_matches ?_
  rw [ProximalMap.identity, pure_bind]
  refine ((matches_reflect some geometry turned turned).ensured
    (repeatable.reflect isTurned isTurned)).bind fun _ last ⟨same, isLast⟩ => ?_
  exact (gives_pure _).matches_gives (gives_pure _) ⟨⟨rfl, isTurned⟩, same, isLast⟩

structure Standard (parameters : SplittingParameters S) : Prop where
  reflection : parameters.reflection = none
  parameter : parameters.parameter.Pure
  relaxation : parameters.relaxation.Pure

variable (standard : Standard parameters)
include standard

theorem matches_figures {driver : Point S} (inside : region driver) (iteration : Int) :
    Matches (fun whole found => Repeats copies region whole.1 found.1 ∧
        Repeats copies region whole.2.1 found.2.1 ∧ whole.2.2 = found.2.2)
      (figures problem
        { parameters with driver := repeated copies driver, parallel := true } iteration)
      (figures other { parameters with driver, parallel := false } iteration) := by
  rw [figures, figures, standard.reflection]
  refine (standard.parameter iteration).matches_self.bind fun _ parameter same => ?_
  rw [same]
  refine (matches_doubleReflection repeatable some splits inside parameter).bind
    fun whole points both => ?_
  obtain ⟨points₁, points₂⟩ := both
  refine (standard.relaxation iteration).matches_self.bind fun _ relaxation same => ?_
  rw [same]
  exact (gives_pure _).matches_gives (gives_pure _) ⟨points₁, points₂, rfl⟩

omit standard in
theorem mirrors_move {driver point reflection : Point S} (inside : region driver)
    (isPoint : region point) (isReflection : region reflection) (relaxation : S) :
    Mirrors (Beside True (OnDiagonal copies region parameters))
      (move problem left { parameters with driver := repeated copies driver, parallel := true }
        (repeated copies point, repeated copies reflection, relaxation))
      (move other right { parameters with driver, parallel := false }
        (point, reflection, relaxation)) := by
  obtain ⟨given, manifold⟩ := splits.manifold
  rw [move, move, manifold, splits.baseManifold, if_pos rfl, if_neg Bool.false_ne_true]
  refine mirrors_matched_bind ((matches_shortestGeodesic some repeatable.pure.geometry driver
    reflection relaxation).ensured (repeatable.geodesic inside isReflection relaxation))
      fun whole moved ⟨same, isMoved⟩ => ?_
  rw [same]
  refine mirrors_bind (mirrors_update fun before mirrored onDiagonal => ?_) fun _ => ?_
  · obtain ⟨iterate, _, _, isLeft, isRight⟩ := onDiagonal
    rw [SolverState.changeSplitting, SolverState.changeSplitting, isLeft, isRight]
    exact ⟨iterate, moved, isMoved, rfl, rfl⟩
  · have shown := (repeatable.coordinateMean given isPoint (.some left.iterate)).matches_gives
      (gives_pure point) rfl
    refine mirrors_matched_bind shown fun found value same => ?_
    rw [same]
    exact mirrors_update fun before mirrored onDiagonal => ⟨rfl, onDiagonal.2⟩

/-- A parallel step with copies of a map moves along the diagonal. -/
theorem mirrors_copied_step (iteration : Int) :
    Mirrors (Beside True (OnDiagonal copies region parameters)) (step problem iteration)
      (step other iteration) := by
  rintro ⟨journal, left⟩ ⟨journal', right⟩ related
  have ⟨_, _, driver, inside, leftMethod, rightMethod⟩ := related
  rw [run_step leftMethod, run_step rightMethod]
  refine mirrors_matched_bind (matches_figures repeatable some splits standard inside iteration)
    (fun (_, _, relaxation) (point, reflection, _) ⟨points, reflections, relaxations⟩ => ?_)
      (journal, left) (journal', right) related
  obtain ⟨rfl, isPoint⟩ := points
  obtain ⟨rfl, isReflection⟩ := reflections
  cases relaxations
  exact mirrors_move repeatable some splits inside isPoint isReflection relaxation

omit standard some

def Starting (copies : Nat) (region : Point S → Prop) (parameters : SplittingParameters S)
    (left right : SolverState S) : Prop :=
  DriversRepeat copies region parameters left right ∧ right.driver? = .some right.iterate

theorem run_copied_prepare (journal journal' : Journal)
    (starting : Starting copies region parameters left right) :
    ∃ after iterate, (prepare problem).run (journal, left) =
        (.ok (), (after, left.withIterate iterate)) ∧
      (prepare other).run (journal', right) = (.ok (), (journal', right)) ∧
      OnDiagonal copies region parameters (left.withIterate iterate) right := by
  obtain ⟨given, manifold⟩ := splits.manifold
  obtain ⟨_, copied⟩ := splits.copied
  obtain ⟨_, alone⟩ := splits.alone
  obtain ⟨⟨driver, inside, leftMethod, rightMethod⟩, begins⟩ := starting
  have isDriver : driver = right.iterate := by
    rw [SolverState.driver?, rightMethod] at begins
    exact Option.some.inj begins
  let onPower : SplittingParameters S := { parameters with parallel := true }
  let onBase : SplittingParameters S := { parameters with parallel := false }
  have leftReady : Ready problem onPower.parallel :=
    ⟨⟨_, copied, rfl⟩, fun _ => ⟨_, _, _, manifold⟩⟩
  have rightReady : Ready other onBase.parallel := by
    refine ⟨⟨_, alone, rfl⟩, ?_⟩
    intro parallel
    cases parallel
  obtain ⟨after, ran⟩ := repeatable.coordinateMean given inside none journal
  refine ⟨after, driver, ?_, ?_, isDriver, driver, inside, leftMethod, rightMethod⟩
  · rw [run_prepare_of_ready leftReady]
    refine (run_average leftReady leftMethod).trans ?_
    rw [if_pos rfl, manifold, run_bind_of_ok (run_liftM_of ran left)]
    rfl
  · rw [run_prepare_of_ready rightReady]
    exact run_average rightReady rightMethod

end DouglasRachford

def Criterion.WithoutGradient (criterion : Criterion S) : Prop :=
  ∀ leaf ∈ criterion.leaves, ∀ tolerance, leaf.2 ≠ .gradientNorm tolerance

section Judging

open DouglasRachford

variable [Scalar S] {problem other : Problem S} {base : Manifold S} {proximalMap : ProximalMap S}
  {parameters : SplittingParameters S} {left right : SolverState S}
  (splits : SplitsCopies base copies proximalMap problem other)
  (onDiagonal : OnDiagonal copies region parameters left right)
include splits onDiagonal

theorem manifoldOf_of_onDiagonal :
    left.manifoldOf problem = pure base ∧ right.manifoldOf other = pure base := by
  obtain ⟨_, driver, _, leftMethod, rightMethod⟩ := onDiagonal
  obtain ⟨given, manifold⟩ := splits.manifold
  rw [SolverState.manifoldOf, SolverState.manifoldOf, leftMethod, rightMethod, manifold,
    splits.baseManifold]
  exact ⟨rfl, rfl⟩

theorem measureChange_of_onDiagonal (last : Option (Point S)) :
    Criterion.measureChange other right last = Criterion.measureChange problem left last := by
  obtain ⟨onPower, onBase⟩ := manifoldOf_of_onDiagonal splits onDiagonal
  cases last with
  | none => rfl
  | some last =>
      rw [Criterion.measureChange, Criterion.measureChange, onPower, onBase, onDiagonal.1]

theorem pure_measureChange_of_onDiagonal (pureBase : base.Pure) (last : Option (Point S)) :
    (Criterion.measureChange problem left last).Pure := by
  cases last with
  | none => exact pure_pure none
  | some last =>
      rw [Criterion.measureChange, (manifoldOf_of_onDiagonal splits onDiagonal).1, pure_bind]
      exact (pureBase.geometry.dist last left.iterate).bind fun _ => pure_pure _

/-- On the diagonal a criterion sees the same in both runs: the iterates, and changes that are
measured on the base. -/
theorem judged_of_onDiagonal (pureBase : base.Pure) (pureCost : ∀ point, (problem.cost point).Pure)
    {criterion : Criterion S} (flat : criterion.WithoutGradient) :
    JudgedAlike True criterion.leaves problem other left right where
  iterate := onDiagonal.1
  judge := by
    intro leaf member
    refine StoppingTest.judge_congr (measureChange_of_onDiagonal splits onDiagonal)
      (fun tolerance isGradient => absurd isGradient (flat leaf member tolerance)) ?_
    rw [Problem.cost, Problem.cost, splits.objective, onDiagonal.1]
  pure := by
    intro _ leaf member memory now iteration
    cases found : leaf.2 with
    | iterations limit => exact pure_pure _
    | change tolerance =>
        refine (pure_measureChange_of_onDiagonal splits onDiagonal pureBase
          memory.lastIterate).bind fun change => ?_
        cases change with
        | none => exact pure_pure _
        | some moved => exact pure_pure _
    | gradientNorm tolerance => exact absurd found (flat leaf member tolerance)
    | cost threshold => exact (pureCost left.iterate).bind fun _ => pure_pure _
    | elapsed seconds => exact pure_pure _

end Judging

end ProximalSplitting

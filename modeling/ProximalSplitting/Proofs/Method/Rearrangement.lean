import ProximalSplitting.Proofs.Method.Cycle
import ProximalSplitting.Proofs.Method.Rounds
import ProximalSplitting.Proofs.Stopping.Agreement

/-!
Parallel splitting with the maps in another order. A round does not care about the order: the mean
of the reflections is the same, and every component moves with its map. As the functions are pure, a
step that could be made with one order can be made with any other, even though another map may be
the first one to fail.
-/

namespace ProximalSplitting

open Compute Effect Tracked CyclicProximalPoint

section Places

variable {order : List Nat} {count : Nat}

def place (order : List Nat) (position : Nat) : Nat := order.getD position 0

theorem place_of_lt {position : Nat} (inside : position < order.length) :
    place order position = order[position] := by
  simp [place, inside]

variable (perm : order.Perm (List.range count))
include perm

theorem length_of_perm : order.length = count := by
  rw [perm.length_eq, List.length_range]

theorem lt_of_mem {position : Nat} (member : position ∈ order) : position < count :=
  List.mem_range.mp (perm.mem_iff.mp member)

theorem place_lt {position : Nat} (inside : position < count) : place order position < count := by
  have listed : position < order.length := by rwa [length_of_perm perm]
  rw [place_of_lt listed]
  exact lt_of_mem perm (List.getElem_mem listed)

theorem map_place {α : Type} (value : Nat → α) :
    (List.range count).map (fun position => value (place order position)) = order.map value := by
  have length := length_of_perm perm
  refine List.ext_getElem (by simp [length]) fun position inside _ => ?_
  have listed : position < order.length := by simpa [length] using inside
  simp [place, listed]

theorem sum_place {M : Type} [AddCommMonoid M] (value : Nat → M) :
    ∑ position ∈ Finset.range count, value (place order position) =
      ∑ position ∈ Finset.range count, value position := by
  change ((List.range count).map fun position => value (place order position)).sum =
    ((List.range count).map value).sum
  rw [map_place perm]
  exact (perm.map value).sum_eq

theorem exists_undoing : ∃ back : List Nat, back.Perm (List.range count) ∧
    ∀ position < count, place order (place back position) = position := by
  have distinct : order.Nodup := perm.nodup_iff.mpr List.nodup_range
  have length := length_of_perm perm
  have listed : ∀ position < count, position ∈ order := fun position inside =>
    perm.mem_iff.mpr (List.mem_range.mpr inside)
  let back := (List.range count).map order.idxOf
  refine ⟨back, ?_, fun position inside => ?_⟩
  · have backDistinct : back.Nodup := by
      refine List.Nodup.map_on (fun left isLeft right _ same => ?_) List.nodup_range
      exact (List.idxOf_inj (listed left (List.mem_range.mp isLeft))).mp same
    refine (List.perm_ext_iff_of_nodup backDistinct List.nodup_range).mpr fun position => ?_
    rw [List.mem_range, List.mem_map]
    constructor
    · rintro ⟨other, inside, rfl⟩
      rw [← length]
      exact List.idxOf_lt_length_of_mem (listed other (List.mem_range.mp inside))
    · intro inside
      have bound : position < order.length := by rwa [length]
      exact ⟨order[position], List.mem_range.mpr (lt_of_mem perm (List.getElem_mem bound)),
        distinct.idxOf_getElem position bound⟩
  · have found : place back position = order.idxOf position := by
      simp [place, back, inside]
    have bound := List.idxOf_lt_length_of_mem (listed position inside)
    rw [found, place_of_lt bound, List.getElem_idxOf]

end Places

namespace CyclicProximalPoint

variable {S : Type} {maps : List (ProximalMap S)} {order : List Nat}
  (perm : order.Perm (List.range maps.length))
include perm

theorem length_arranged : (arranged maps order).length = maps.length := by
  have inTurn := congrArg List.length (map_some_arranged fun _ => lt_of_mem perm)
  rwa [List.length_map, List.length_map, length_of_perm perm] at inTurn

theorem getElem?_arranged {position : Nat} (inside : position < maps.length) :
    (arranged maps order)[position]? = maps[place order position]? := by
  have listed : position < order.length := by rwa [length_of_perm perm]
  have inTurn := congrArg (·[position]?) (map_some_arranged fun _ => lt_of_mem perm)
  rw [List.getElem?_map, List.getElem?_map, List.getElem?_eq_getElem listed, Option.map_some,
    ← place_of_lt listed] at inTurn
  have bound : place order position < maps.length := place_lt perm inside
  rw [List.getElem?_eq_getElem bound] at inTurn ⊢
  cases found : (arranged maps order)[position]? with
  | none =>
      rw [found] at inTurn
      cases inTurn
  | some proximalMap =>
      rw [found, Option.map_some, Option.some_inj] at inTurn
      exact inTurn

omit perm in
theorem mem_of_arranged {proximalMap : ProximalMap S} (member : proximalMap ∈ arranged maps order) :
    proximalMap ∈ maps := by
  obtain ⟨position, _, found⟩ := List.mem_filterMap.mp member
  exact List.mem_of_getElem? found

theorem arranged_undone {back : List Nat} (backPerm : back.Perm (List.range maps.length))
    (undoes : ∀ position < maps.length, place order (place back position) = position) :
    arranged (arranged maps order) back = maps := by
  have length := length_arranged perm
  rw [← length] at backPerm
  refine List.ext_getElem? fun position => ?_
  by_cases inside : position < maps.length
  · have again : position < (arranged maps order).length := by rwa [length]
    have bound : place back position < maps.length := by
      rw [← length]
      exact place_lt backPerm again
    rw [getElem?_arranged backPerm again, getElem?_arranged perm bound, undoes position inside]
  · have outside := length_arranged backPerm
    rw [List.getElem?_eq_none (by omega), List.getElem?_eq_none (by omega)]

end CyclicProximalPoint

theorem ProximalMap.gives_componentwise {S : Type} {parameter : S} {maps : List (ProximalMap S)}
    {points : List (Point S)} {images : Nat → Point S} (paired : maps.length = points.length)
    (each : ∀ (position : Nat) (proximalMap : ProximalMap S) (point : Point S),
      maps[position]? = some proximalMap → points[position]? = some point →
      (proximalMap parameter point).Gives (images position)) :
    (componentwise parameter maps points).Gives ((List.range maps.length).map images) := by
  induction maps generalizing points images with
  | nil => exact gives_pure []
  | cons first rest ih =>
      cases points with
      | nil => cases paired
      | cons point others =>
          have later : (componentwise parameter rest others).Gives
              ((List.range rest.length).map (images ∘ Nat.succ)) := by
            refine ih (Nat.succ.inj paired) fun position proximalMap other isMap isOther => ?_
            exact each (position + 1) proximalMap other isMap isOther
          rw [componentwise, List.length_cons, List.range_succ_eq_map, List.map_cons, List.map_map]
          exact (each 0 first point rfl rfl).bind (later.bind (gives_pure _))

namespace DouglasRachford

variable {S : Type}

theorem KeepShape.arranged {maps : List (ProximalMap S)} {shape : List Nat} {order : List Nat}
    (keeps : KeepShape maps shape) : KeepShape (arranged maps order) shape :=
  fun proximalMap member => keeps proximalMap (mem_of_arranged member)

variable [ExactScalar S]

def rearranged (task : Task S) (order : List Nat) : Task S :=
  { task with maps := arranged task.maps order }

section Rounds

variable {maps : List (ProximalMap S)} {shape : List Nat} {parameter relaxation : Schedule S}
  {number : Int} {before after : Nat → Point S} {result : Point S} {order : List Nat}

theorem Round.rearranged (perm : order.Perm (List.range maps.length))
    (round : Round maps shape parameter relaxation number before result after) :
    Round (arranged maps order) shape parameter relaxation number
      (fun position => before (place order position)) result
      (fun position => after (place order position)) where
  resultShaped := round.resultShaped
  shaped := by
    intro position inside
    rw [length_arranged perm] at inside
    exact round.shaped _ (place_lt perm inside)
  computes := by
    obtain ⟨value, factor, proximal, valueYields, factorYields, yields, mean, moves⟩ :=
      round.computes
    refine ⟨value, factor, fun position => proximal (place order position), valueYields,
      factorYields, ?_, ?_, ?_⟩
    · intro position proximalMap found
      have inside : position < maps.length := by
        rw [← length_arranged perm]
        exact (List.getElem?_eq_some_iff.mp found).1
      rw [getElem?_arranged perm inside] at found
      exact yields _ proximalMap found
    · rw [mean, length_arranged perm]
      exact congrArg _ (sum_place perm _).symm
    · intro position inside
      rw [length_arranged perm] at inside
      exact moves _ (place_lt perm inside)

end Rounds

section Steps

variable {task : Task S} {shape : List Nat} {before next : Nat → Point S} {result : Point S}
  {parameter relaxation : Schedule S} {number : Int}
  (straight : task.manifold.geometry.Straight) (positive : ∀ extent ∈ shape, 0 < extent)
  (several : 0 < task.maps.length)
include positive several

theorem gives_first {proximal : Nat → Point S} {value : S}
    (gives : ∀ (position : Nat) (proximalMap : ProximalMap S),
      task.maps[position]? = some proximalMap →
      (proximalMap value (before position)).Gives (proximal position))
    (shaped : ∀ position < task.maps.length, (proximal position).hasShape shape = true) :
    ((coupledProblem task).prox value (Power.point task.maps.length before) 0).Gives
      (Power.point task.maps.length proximal) := by
  have moved : (ProximalMap.componentwise value task.maps
      ((List.range task.maps.length).map before)).Gives
        ((List.range task.maps.length).map proximal) := by
    refine ProximalMap.gives_componentwise (by simp) fun position proximalMap point isMap isPoint => ?_
    have inside : position < task.maps.length := (List.getElem?_eq_some_iff.mp isMap).1
    have isComponent : before position = point := by simpa [inside] using isPoint
    rw [← isComponent]
    exact gives position proximalMap isMap
  have stacked := Power.gives_combine positive several shaped
  rw [Power.combine, if_pos (by simp)] at stacked
  rw [first_eq]
  exact (gives_split task before).bind (moved.bind stacked)

include straight

/-- A step of pure functions makes every round that there is from the components of its driver. -/
theorem run_step_of_round (keeps : KeepShape task.maps shape)
    (pureMaps : ∀ proximalMap ∈ task.maps, ProximalMap.Pure proximalMap)
    (pureParameter : parameter.Pure) (pureRelaxation : relaxation.Pure)
    (shaped : ∀ position < task.maps.length, (before position).hasShape shape = true)
    (round : Round task.maps shape parameter relaxation number before result next)
    {state : SolverState S}
    (method : state.method =
      .splitting (coupled parameter relaxation (Power.point task.maps.length before)))
    (journal : Journal) :
    ∃ last, (step (coupledProblem task) number).run (journal, state) =
      (.ok (), (last, advanced state (Power.point task.maps.length next) result)) := by
  obtain ⟨value, factor, proximal, valueYields, factorYields, yields, _, _⟩ := round.computes
  have proximalShaped : ∀ position < task.maps.length,
      (proximal position).hasShape shape = true := by
    intro position inside
    have found : task.maps[position]? = some task.maps[position] := List.getElem?_eq_getElem inside
    exact keeps _ (List.getElem_mem inside) value _ _ (shaped position inside)
      (yields position _ found)
  have first := gives_first positive several (fun position proximalMap found =>
    (pureMaps proximalMap (List.mem_of_getElem? found) value (before position)).gives
      (yields position proximalMap found)) proximalShaped
  obtain ⟨shown, reflects, rest⟩ :=
    gives_reflections straight positive several shaped yields proximalShaped
  -- The components decide on the round, so that this one is the given one.
  obtain ⟨rfl, sameNext⟩ := (reflects.round shaped valueYields factorYields).unique pureMaps
    pureParameter pureRelaxation (fun _ _ => rfl) round
  have figured : (figures (coupledProblem task)
      (coupled parameter relaxation (Power.point task.maps.length before)) number).Gives
        (Power.point task.maps.length fun _ => shown,
          Power.point task.maps.length (twiceReflected before proximal shown), factor) := by
    refine ((pureParameter number).gives valueYields).bind ?_
    refine (first.bind rest).bind ?_
    exact ((pureRelaxation number).gives factorYields).bind (gives_pure _)
  obtain ⟨known, figuresRan⟩ := figured journal
  obtain ⟨last, moved⟩ := run_move straight positive several shaped reflects.resultShaped
    (reflects.hasShape_twice shaped) factor state known
  refine ⟨last, ?_⟩
  rw [run_step method, run_bind_of_ok (run_liftM_of figuresRan state), moved,
    Power.point_congr sameNext]

end Steps

structure PureTask (task : Task S) : Prop where
  maps : ∀ proximalMap ∈ task.maps, ProximalMap.Pure proximalMap
  cost : ∀ point, (task.objective.cost point).Pure
  derivative : ∀ point, (task.objective.derivative point).Pure

theorem PureTask.rearranged {task : Task S} (pure : PureTask task) (order : List Nat) :
    PureTask (rearranged task order) where
  maps := fun proximalMap member => pure.maps proximalMap (mem_of_arranged member)
  cost := pure.cost
  derivative := pure.derivative

theorem PureTask.coupledProblem {task : Task S} (pure : PureTask task)
    (pureManifold : task.manifold.Pure) : (coupledProblem task).Pure where
  manifold := pureManifold
  cost := pure.cost
  grad := by
    have pureOuter : (Manifold.power task.manifold task.maps.length : Manifold S).Pure :=
      pureManifold
    intro point
    exact (pure.derivative point).bind fun derivative =>
      pureOuter.geometry.proj point derivative
  prox := by
    refine Problem.pure_prox rfl fun proximalMap member => ?_
    obtain rfl | rfl := List.mem_pair.mp member
    · intro parameter point
      exact (Manifold.pure_components _ point).bind fun components =>
        (ProximalMap.pure_componentwise parameter pure.maps components).bind fun moved =>
          Tensor.pure_ofSlices moved
    · exact ProximalMap.pure_diagonal pureManifold

structure StraightTask (task : Task S) (shape : List Nat) : Prop where
  straight : task.manifold.geometry.Straight
  positive : ∀ extent ∈ shape, 0 < extent
  pureManifold : task.manifold.Pure
  several : 0 < task.maps.length
  shaped : task.start.hasShape shape = true
  keeps : KeepShape task.maps shape
  pure : PureTask task

theorem length_maps_rearranged {task : Task S} {order : List Nat}
    (perm : order.Perm (List.range task.maps.length)) :
    (rearranged task order).maps.length = task.maps.length :=
  length_arranged perm

theorem StraightTask.rearranged {task : Task S} {shape order : List Nat}
    (plain : StraightTask task shape) (perm : order.Perm (List.range task.maps.length)) :
    StraightTask (rearranged task order) shape where
  straight := plain.straight
  positive := plain.positive
  pureManifold := plain.pureManifold
  several := (length_maps_rearranged perm).symm ▸ plain.several
  shaped := plain.shaped
  keeps := plain.keeps.arranged
  pure := plain.pure.rearranged order

structure Rearranged (task : Task S) (order shape : List Nat) (parameter relaxation : Schedule S)
    (left right : SolverState S) : Prop where
  iterate : left.iterate = right.iterate
  extras : left.extras = right.extras
  drivers : ∃ component : Nat → Point S,
    (∀ position < task.maps.length, (component position).hasShape shape = true) ∧
    left.method =
      .splitting (coupled parameter relaxation (Power.point task.maps.length component)) ∧
    right.method = .splitting (coupled parameter relaxation
      (Power.point task.maps.length fun position => component (place order position)))

section Relation

variable {task : Task S} {order shape : List Nat} {parameter relaxation : Schedule S}
  {left right : SolverState S} (plain : StraightTask task shape)
  (perm : order.Perm (List.range task.maps.length))
include plain perm

theorem carries_rearranged_step (pureParameter : parameter.Pure) (pureRelaxation : relaxation.Pure)
    (number : Int) :
    Carries (Beside True (Rearranged task order shape parameter relaxation))
      (Beside True (Rearranged task order shape parameter relaxation))
      (step (coupledProblem task) number) (step (coupledProblem (rearranged task order)) number) := by
  rintro ⟨journal, left⟩ ⟨journal', right⟩ value ⟨known, leftAfter⟩ ⟨_, related⟩ ran
  obtain ⟨component, shaped, leftMethod, rightMethod⟩ := related.drivers
  have length := length_maps_rearranged perm
  have other := plain.rearranged perm
  rcases run_step_round plain.straight plain.positive plain.several plain.keeps shaped leftMethod
    ran with ⟨_, failed, _⟩ | ⟨result, next, _, round, isLeft⟩
  · cases failed
  · have rightShaped : ∀ position < (rearranged task order).maps.length,
        (component (place order position)).hasShape shape = true := by
      intro position inside
      rw [length] at inside
      exact shaped _ (place_lt perm inside)
    obtain ⟨last, ran'⟩ := run_step_of_round other.straight other.positive other.several other.keeps
      other.pure.maps pureParameter pureRelaxation rightShaped (round.rearranged perm)
      (by rw [length]; exact rightMethod) journal'
    refine ⟨_, ran', .inr trivial, ?_⟩
    rw [isLeft, advanced_eq leftMethod, advanced_eq rightMethod, length]
    exact ⟨rfl, related.extras, next, round.shaped, rfl, rfl⟩

omit plain perm in
theorem Rearranged.manifoldOf (related : Rearranged task order shape parameter relaxation left right)
    (problem : Problem S) : right.manifoldOf problem = left.manifoldOf problem := by
  obtain ⟨_, _, leftMethod, rightMethod⟩ := related.drivers
  rw [SolverState.manifoldOf, SolverState.manifoldOf, leftMethod, rightMethod]
  rfl

theorem Rearranged.judged (related : Rearranged task order shape parameter relaxation left right)
    (leaves : List (Nat × StoppingTest S)) :
    JudgedAlike True leaves (coupledProblem task) (coupledProblem (rearranged task order)) left
      right where
  iterate := related.iterate
  judge := by
    have manifold : (coupledProblem (rearranged task order)).manifold =
        (coupledProblem task).manifold :=
          congrArg (fun count => Manifold.power task.manifold count) (length_maps_rearranged perm)
    have manifolds : right.manifoldOf (coupledProblem (rearranged task order)) =
        left.manifoldOf (coupledProblem task) := by
      rw [related.manifoldOf, SolverState.manifoldOf, SolverState.manifoldOf, manifold]
    intro leaf _
    refine StoppingTest.judge_congr (fun last => ?_) (fun _ _ => ?_) ?_
    · cases last with
      | none => rfl
      | some last =>
          rw [Criterion.measureChange, Criterion.measureChange, manifolds, related.iterate]
    · have sameGradient : right.gradient? = left.gradient? := by
        rw [SolverState.gradient?, SolverState.gradient?, related.extras]
      have sameGrad : (coupledProblem (rearranged task order)).grad right.iterate =
          (coupledProblem task).grad left.iterate := by
        rw [related.iterate, Problem.grad, Problem.grad, manifold]
        rfl
      rw [Criterion.measureGradient, Criterion.measureGradient, sameGradient, manifolds, sameGrad,
        related.iterate]
    · rw [related.iterate]
      rfl
  pure := fun _ leaf _ memory now iteration =>
    (plain.pure.coupledProblem plain.pureManifold).judge left memory now iteration leaf.2

end Relation

end DouglasRachford

theorem Manifold.pure_of_euclidean {S : Type} [Scalar S] {strictness : Strictness}
    {extents : List (Value S)} {manifold : Manifold S}
    (built : Manifold.euclideanOf strictness extents = .ok manifold) : manifold.Pure := by
  obtain ⟨_, _, shape, _, _, _, rfl⟩ := built_of_euclidean built
  have pure := euclidean_pure (S := S) shape
  exact ⟨pure.proj, pure.exp, pure.log, pure.inner, pure.dist, pure.midPoint, pure.mean⟩

end ProximalSplitting

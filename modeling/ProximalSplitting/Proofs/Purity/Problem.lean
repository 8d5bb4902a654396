import ProximalSplitting.Problem
import ProximalSplitting.Proofs.Purity.Geometry
import ProximalSplitting.Schedule
import ProximalSplitting.Proofs.Stopping.Test

/-!
Problems, schedules and proximal maps that are pure. What a stopping test measures of a pure problem
does not depend on the journal either.
-/

namespace ProximalSplitting

open Compute Tensor

variable {S : Type} [Scalar S]

structure Problem.Pure (problem : Problem S) : Prop where
  manifold : problem.manifold.Pure
  cost : ∀ point, (problem.cost point).Pure
  grad : ∀ point, (problem.grad point).Pure
  prox : ∀ parameter point index, (problem.prox parameter point index).Pure

omit [Scalar S] in
def Schedule.Pure (schedule : Schedule S) : Prop := ∀ iteration, (schedule iteration).Pure

omit [Scalar S] in
def ProximalMap.Pure (proximalMap : ProximalMap S) : Prop :=
  ∀ parameter point, (proximalMap parameter point).Pure

structure Method.Pure {S : Type} (method : Method S) : Prop where
  parameter : ∀ schedule, method.parameter? = some schedule → Schedule.Pure schedule
  relaxation : ∀ schedule, method.relaxation? = some schedule → Schedule.Pure schedule
  reflection : ∀ parameters reflection, method = .splitting parameters →
    parameters.reflection = some reflection → ∀ pivot point, (reflection pivot point).Pure

section Manifolds

omit [Scalar S] in
theorem Power.pure_components (copies : Nat) (point : Point S) :
    (Power.components copies point).Pure :=
  Pure.mapM (Tensor.pure_component point) _

theorem Manifold.pure_asPower (manifold : Manifold S) : manifold.asPower.Pure := by
  cases manifold with
  | ofGeometry _ => exact pure_fail _
  | power _ _ _ => exact pure_pure _

theorem Manifold.pure_components (manifold : Manifold S) (point : Point S) :
    (manifold.components point).Pure :=
  manifold.pure_asPower.bind fun _ => Power.pure_components _ point

theorem Manifold.Pure.coordinateMean {manifold : Manifold S} (pure : manifold.Pure)
    (point : Point S) (reference : Option (Point S)) :
    (manifold.coordinateMean point reference).Pure := by
  cases manifold with
  | ofGeometry _ => exact Pure.of_outcome fun _ _ => rfl
  | power base copies given =>
      have baseGeometry : base.geometry.Pure := Manifold.Pure.geometry (show base.Pure from pure)
      rw [Manifold.coordinateMean, Manifold.asPower, pure_bind]
      exact (Power.pure_components copies point).bind fun _ =>
        baseGeometry.mean _ _ _

theorem Problem.Pure.manifoldOf_bind {problem : Problem S} (pure : problem.Pure)
    (state : SolverState S) {α : Type} {next : Manifold S → Compute S α}
    (rest : ∀ manifold : Manifold S, manifold.Pure → (next manifold).Pure) :
    (state.manifoldOf problem >>= next).Pure := by
  have onProblem := rest problem.manifold pure.manifold
  rw [SolverState.manifoldOf]
  split
  · split
    · cases found : problem.manifold with
      | ofGeometry _ => exact Pure.of_outcome fun _ _ => rfl
      | power base copies given =>
          have pureBase : (Manifold.power base copies given).Pure := found ▸ pure.manifold
          simp only [Manifold.asPower, pure_bind]
          exact rest base pureBase
    · rw [pure_bind]
      exact onProblem
  · rw [pure_bind]
    exact onProblem

theorem Problem.Pure.measureChange {problem : Problem S} (pure : problem.Pure)
    (state : SolverState S) (last : Option (Point S)) :
    (Criterion.measureChange problem state last).Pure := by
  cases last with
  | none => exact pure_pure none
  | some last =>
      exact pure.manifoldOf_bind state fun manifold pureManifold =>
        (pureManifold.geometry.dist last state.iterate).bind fun _ => pure_pure _

theorem Problem.Pure.measureGradient {problem : Problem S} (pure : problem.Pure)
    (state : SolverState S) : (Criterion.measureGradient problem state).Pure := by
  have measured : ∀ gradient, (state.manifoldOf problem >>= fun manifold =>
      manifold.geometry.norm state.iterate gradient).Pure := fun gradient =>
    pure.manifoldOf_bind state fun manifold pureManifold =>
      pureManifold.geometry.norm state.iterate gradient
  rw [Criterion.measureGradient]
  split
  · exact (pure_pure _).bind measured
  · exact (pure.grad state.iterate).bind measured

/-- Whether a test holds depends on what its criterion remembers, not on the journal. -/
theorem Problem.Pure.judge {problem : Problem S} (pure : problem.Pure) (state : SolverState S)
    (memory : CriterionMemory S) (now : S) (iteration : Int) (test : StoppingTest S) :
    (test.judge problem state memory now iteration).Pure := by
  cases test with
  | iterations limit => exact pure_pure _
  | change tolerance =>
      refine (pure.measureChange state memory.lastIterate).bind fun change => ?_
      cases change with
      | none => exact pure_pure _
      | some moved => exact pure_pure _
  | gradientNorm tolerance => exact (pure.measureGradient state).bind fun _ => pure_pure _
  | cost threshold => exact (pure.cost state.iterate).bind fun _ => pure_pure _
  | elapsed seconds => exact pure_pure _

end Manifolds

section Library

namespace ProximalMap

omit [Scalar S] in
theorem pure_componentwise (parameter : S) {maps : List (ProximalMap S)}
    (pure : ∀ proximalMap ∈ maps, ProximalMap.Pure proximalMap) (components : List (Point S)) :
    (componentwise parameter maps components).Pure := by
  induction maps generalizing components with
  | nil => exact pure_pure []
  | cons first rest ih =>
      cases components with
      | nil => exact pure_pure []
      | cons component others =>
          refine (pure first List.mem_cons_self parameter component).bind fun moved => ?_
          refine (ih (fun next member => pure next (List.mem_cons_of_mem first member))
            others).bind fun later => pure_pure _

theorem pure_diagonal {manifold : Manifold S} (pure : manifold.Pure) :
    ProximalMap.Pure (diagonal manifold) := fun _ point =>
  (pure.coordinateMean point none).bind fun _ =>
    manifold.pure_asPower.bind fun _ => Pure.ite (pure_ofSlices _) (pure_fail _)

end ProximalMap

theorem Problem.pure_prox {problem : Problem S} {maps : List (ProximalMap S)}
    {outputCounts : List Int} (collected : problem.collection = some ⟨maps, outputCounts⟩)
    (pure : ∀ proximalMap ∈ maps, ProximalMap.Pure proximalMap) (parameter : S)
    (point : Point S) (index : Int) : (problem.prox parameter point index).Pure := by
  rw [Problem.prox, Problem.maps, collected, Option.map_some, expect, pure_bind]
  split
  · rename_i proximalMap found
    refine pure proximalMap ?_ parameter point
    split at found
    · exact List.mem_of_getElem? found
    · cases found
  · exact pure_fail _

end Library

end ProximalSplitting

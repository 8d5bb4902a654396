import ProximalSplitting.Proofs.Exact.Vectors
import ProximalSplitting.Proofs.Method.Distances
import ProximalSplitting.Proofs.Run.Confinement

/-!
Runs in a box. With proximal maps of distances in a Euclidean space, cycles never leave the smallest
box around the start and the targets.
-/

namespace ProximalSplitting

open Compute Tensor

variable {S : Type} [RealScalar S] {shape : List Nat}

/-- In Euclidean space every coordinate of every iterate lies between the least and the largest one
of the start and the targets, whatever the distances, their exponents, the positive parameters and
the order of the maps. Only the schedule can make a step fail. -/
theorem cyclic_run_stays_in_box {strictness : Strictness} {manifold : Manifold S}
    (built : Manifold.euclideanOf strictness (shape.map fun (extent : Nat) => .integer extent) =
      .ok manifold) {pulls : List (Point S × Value S)}
    (shaped : ∀ pull ∈ pulls, pull.1.hasShape shape = true)
    (known : ∀ pull ∈ pulls,
      pull.2.equalsInteger 1 = true ∨ pull.2.equalsInteger 2 = true)
    {course : Course S} {before : Memory S} {derived : Bool} {parameters : CyclicParameters S}
    {counts : List Int} (fits : course.Fits before.2.state)
    (method : before.2.state.method = .cyclic derived parameters)
    (collected : course.problem.collection =
      some ⟨pulls.map fun pull => .distance manifold.geometry pull.1 pull.2, counts⟩)
    (positive : ∀ number : Nat, 1 ≤ number → ∀ parameter,
      (parameters.parameter number).Yields parameter → 0 < parameter)
    (start : before.2.state.iterate.hasShape shape = true) :
    course.Confined before (InBox shape before.2.state.iterate (pulls.map Prod.fst)) (· = none)
      parameters.parameter.Fails := by
  have flat := Manifold.flat_of_euclidean built
  refine Course.confined_of_stay fits method collected ?_ (.of_mem start List.mem_cons_self)
  intro number counted parameter yields proximalMap member point inside
  obtain ⟨pull, isPull, rfl⟩ := List.mem_map.mp member
  have isTarget : InBox shape before.2.state.iterate (pulls.map Prod.fst) pull.1 :=
    .of_mem (shaped pull isPull) (List.mem_cons_of_mem _ (List.mem_map_of_mem isPull))
  exact ProximalMap.confined_inBox flat.toLinearOn isTarget (known pull isPull) parameter point
    (positive number counted parameter yields) inside

section Sample

noncomputable section

def plane : Manifold ℝ :=
  match Manifold.euclideanOf .strict [.integer 2] with
  | .ok plane => plane
  | .error _ => .ofGeometry (euclidean [2])

def pullsInPlane : List (Point ℝ × Value ℝ) :=
  [(ofVector ![1, 0], .integer 1), (ofVector ![0, 3], .integer 2), (ofVector ![1, 0], .integer 2)]

def criterionInPlane : Criterion ℝ := .single 0 (.iterations (.integer 7))

def cyclesInPlane : CyclicParameters ℝ where
  parameter := CyclicProximalPoint.standardParameter
  evaluationOrder := .random
  key := .ofSeed 0

def memoryInPlane : Memory ℝ :=
  ({}, ⟨{ clock := 0 }, {
    iterate := ofVector ![-2, 5]
    criterion := some criterionInPlane
    method := .cyclic false cyclesInPlane }⟩)

def courseInPlane : Course ℝ where
  problem :=
    { manifold := plane
      objective := .total
      collection := some
        ⟨pullsInPlane.map fun pull => .distance plane.geometry pull.1 pull.2, [1, 1, 1]⟩ }
  solver := .cyclicProximalPoint
  criterion := criterionInPlane
  decorators := []

end

theorem sample_run_stays_in_box :
    Manifold.euclideanOf .strict [.integer 2] = .ok plane ∧
    (∀ number : Nat, 1 ≤ number → ∀ parameter,
      (cyclesInPlane.parameter number).Yields parameter → 0 < parameter) ∧
    courseInPlane.Confined memoryInPlane
      (InBox [2] (ofVector ![-2, 5]) [ofVector ![1, 0], ofVector ![0, 3], ofVector ![1, 0]])
      (· = none) cyclesInPlane.parameter.Fails := by
  have built : Manifold.euclideanOf .strict ([2].map fun (extent : Nat) => .integer extent) =
      .ok plane := rfl
  have shaped : ∀ pull ∈ pullsInPlane, pull.1.hasShape [2] = true := by
    simp [pullsInPlane, hasShape_ofVector]
  have known : ∀ pull ∈ pullsInPlane,
      pull.2.equalsInteger 1 = true ∨ pull.2.equalsInteger 2 = true := by
    simp only [pullsInPlane, List.forall_mem_cons]
    exact ⟨.inl rfl, .inr rfl, .inr rfl, by simp⟩
  have fits : courseInPlane.Fits memoryInPlane.2.state := ⟨rfl, rfl⟩
  have positive : ∀ number : Nat, 1 ≤ number → ∀ parameter,
      (cyclesInPlane.parameter number).Yields parameter → 0 < parameter := by
    intro number counted parameter yields
    rw [(Schedule.gives_inverse counted).unique yields]
    exact one_div_pos.mpr (Nat.cast_pos.mpr counted)
  have start : memoryInPlane.2.state.iterate.hasShape [2] = true := hasShape_ofVector _
  exact ⟨built, positive,
    cyclic_run_stays_in_box built shaped known fits rfl rfl positive start⟩

end Sample

end ProximalSplitting

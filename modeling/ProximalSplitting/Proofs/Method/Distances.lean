import ProximalSplitting.Proofs.Exact.Lines
import ProximalSplitting.Proofs.Method.Regions

/-!
Proximal maps of distances in flat geometries. Such a map moves a point along the line to its
target, by a share of the way that is never more than all of it. Hence it does not lead out of the
smallest box that holds the point and the target.
-/

namespace ProximalSplitting

open Compute Tensor

variable {S : Type} [RealScalar S] {shape : List Nat}

namespace ProximalMap

variable {geometry : Geometry S} {point target : Point S} {parameter : S} {exponent : Value S}

theorem plainTime_nonneg (positive : 0 < parameter) (distance : S) :
    0 ≤ plainTime parameter distance := by
  have long : 0 < max distance Tolerance.smallLength :=
    lt_of_lt_of_le Tolerance.smallLength_pos (le_max_right _ _)
  rw [plainTime, Scalar.minimum_eq, Scalar.maximum_eq, Scalar.one_eq]
  exact le_min (div_pos positive long).le zero_le_one

theorem plainTime_le_one (parameter distance : S) : plainTime parameter distance ≤ 1 := by
  rw [plainTime, Scalar.minimum_eq, Scalar.one_eq]
  exact min_le_right _ _

section Flat

variable (linear : geometry.LinearOn shape) (pointShaped : point.hasShape shape = true)
  (targetShaped : target.hasShape shape = true) (positive : 0 < parameter)
include linear pointShaped targetShaped positive

theorem gives_distance_squared (squared : exponent.equalsInteger 2 = true) :
    (distance geometry target exponent parameter point).Gives
      (Flat.along point target (parameter / (1 + parameter))) := by
  rw [distance, if_pos squared]
  exact (gives_squaredTime positive).bind (linear.gives_along pointShaped targetShaped _)

theorem gives_distance (known : exponent.equalsInteger 1 = true ∨ exponent.equalsInteger 2 = true) :
    ∃ time, 0 ≤ time ∧ time ≤ 1 ∧
      (distance geometry target exponent parameter point).Gives (Flat.along point target time) := by
  by_cases squared : exponent.equalsInteger 2 = true
  · have whole : 0 < 1 + parameter := by linarith
    refine ⟨parameter / (1 + parameter), (div_pos positive whole).le, ?_, ?_⟩
    · rw [div_le_one whole]
      linarith
    · exact gives_distance_squared linear pointShaped targetShaped positive squared
  · refine ⟨plainTime parameter (zipWith (· - ·) point target).length,
      plainTime_nonneg positive _, plainTime_le_one _ _, ?_⟩
    rw [distance, if_neg squared, if_pos (known.resolve_right squared)]
    exact (linear.dist targetShaped pointShaped).bind
      (linear.gives_along pointShaped targetShaped _)

end Flat

end ProximalMap

section Boxes

def lowest (start : Point S) (others : List (Point S)) (position : Nat) : S :=
  others.foldr (fun point low => min (point.coordinates position) low) (start.coordinates position)

def highest (start : Point S) (others : List (Point S)) (position : Nat) : S :=
  others.foldr (fun point high => max (point.coordinates position) high)
    (start.coordinates position)

structure InBox (shape : List Nat) (start : Point S) (others : List (Point S)) (point : Point S) :
    Prop where
  shaped : point.hasShape shape = true
  low : ∀ position, lowest start others position ≤ point.coordinates position
  high : ∀ position, point.coordinates position ≤ highest start others position

variable {start point target : Point S} {others : List (Point S)}

theorem lowest_le (position : Nat) (member : point ∈ start :: others) :
    lowest start others position ≤ point.coordinates position := by
  induction others with
  | nil =>
      cases List.mem_singleton.mp member
      exact le_refl _
  | cons other rest ih =>
      simp only [List.mem_cons] at member ih
      rcases member with isStart | rfl | later
      · exact (min_le_right _ _).trans (ih (.inl isStart))
      · exact min_le_left _ _
      · exact (min_le_right _ _).trans (ih (.inr later))

theorem le_highest (position : Nat) (member : point ∈ start :: others) :
    point.coordinates position ≤ highest start others position := by
  induction others with
  | nil =>
      cases List.mem_singleton.mp member
      exact le_refl _
  | cons other rest ih =>
      simp only [List.mem_cons] at member ih
      rcases member with isStart | rfl | later
      · exact (ih (.inl isStart)).trans (le_max_right _ _)
      · exact le_max_left _ _
      · exact (ih (.inr later)).trans (le_max_right _ _)

theorem InBox.of_mem (shaped : point.hasShape shape = true) (member : point ∈ start :: others) :
    InBox shape start others point where
  shaped := shaped
  low := fun position => lowest_le position member
  high := fun position => le_highest position member

theorem InBox.along (isPoint : InBox shape start others point)
    (isTarget : InBox shape start others target) {time : S} (nonneg : 0 ≤ time)
    (atMostOne : time ≤ 1) : InBox shape start others (Flat.along point target time) := by
  have coordinate : ∀ position, (Flat.along point target time).coordinates position =
      (1 - time) * point.coordinates position + time * target.coordinates position := by
    intro position
    rw [Flat.coordinates_along isPoint.shaped isTarget.shaped]
    simp only [Pi.add_apply, Pi.smul_apply, Pi.sub_apply, smul_eq_mul]
    ring
  have rest : 0 ≤ 1 - time := by linarith
  refine ⟨Flat.hasShape_along isPoint.shaped isTarget.shaped time, ?_, ?_⟩
  · intro position
    have fromPoint := mul_le_mul_of_nonneg_left (isPoint.low position) rest
    have fromTarget := mul_le_mul_of_nonneg_left (isTarget.low position) nonneg
    rw [coordinate]
    linarith
  · intro position
    have fromPoint := mul_le_mul_of_nonneg_left (isPoint.high position) rest
    have fromTarget := mul_le_mul_of_nonneg_left (isTarget.high position) nonneg
    rw [coordinate]
    linarith

theorem ProximalMap.confined_inBox {geometry : Geometry S} (linear : geometry.LinearOn shape)
    (isTarget : InBox shape start others target) {exponent : Value S}
    (known : exponent.equalsInteger 1 = true ∨ exponent.equalsInteger 2 = true) :
    Confined (InBox shape start others) (distance geometry target exponent) := by
  intro parameter point positive isPoint
  obtain ⟨time, nonneg, atMostOne, gives⟩ :=
    gives_distance linear isPoint.shaped isTarget.shaped positive known
  exact gives.ensures (isPoint.along isTarget nonneg atMostOne)

end Boxes

end ProximalSplitting

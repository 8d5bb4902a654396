import Mathlib.Data.Nat.Choose.Sum
import Mathlib.Tactic.Module
import ProximalSplitting.Proofs.Curves.Passage
import ProximalSplitting.Proofs.Curves.Selection

/-!
Segments in Euclidean space. Joining neighbours by lines, level by level, is Pascal's rule for the
weights of the control points, so a segment is their combination with the weights of Bernstein.
-/

namespace ProximalSplitting

open Compute

namespace Bezier

section Weights

variable {S V : Type} [CommRing S] [AddCommGroup V] [Module S V]

def bernsteinWeight (degree : Nat) (time : S) (position : Nat) : S :=
  degree.choose position * (1 - time) ^ (degree - position) * time ^ position

def bernsteinForm (degree : Nat) (time : S) (control : Nat → V) : V :=
  ∑ position ∈ Finset.range (degree + 1), bernsteinWeight degree time position • control position

variable {degree position : Nat} {time : S}

theorem bernsteinWeight_beyond (beyond : degree < position) :
    bernsteinWeight degree time position = 0 := by
  rw [bernsteinWeight, Nat.choose_eq_zero_of_lt beyond]
  simp

theorem bernsteinWeight_first :
    bernsteinWeight (degree + 1) time 0 = (1 - time) * bernsteinWeight degree time 0 := by
  simp only [bernsteinWeight, Nat.choose_zero_right, Nat.sub_zero]
  ring

theorem bernsteinWeight_later :
    bernsteinWeight (degree + 1) time (position + 1) =
      time * bernsteinWeight degree time position +
        (1 - time) * bernsteinWeight degree time (position + 1) := by
  rw [bernsteinWeight, Nat.choose_succ_succ, Nat.cast_add, Nat.add_sub_add_right]
  rcases Nat.lt_or_ge position degree with inside | outside
  · have fewer : degree - position = degree - (position + 1) + 1 := by omega
    rw [bernsteinWeight, bernsteinWeight, fewer]
    ring
  · rw [bernsteinWeight_beyond (Nat.lt_succ_of_le outside), bernsteinWeight,
      Nat.choose_eq_zero_of_lt (Nat.lt_succ_of_le outside)]
    push_cast
    ring

/-- Joining neighbours first is taking one more control point. -/
theorem bernsteinForm_joined (control : Nat → V) :
    (bernsteinForm degree time fun position =>
      control position + time • (control (position + 1) - control position)) =
      bernsteinForm (degree + 1) time control := by
  have split : ∀ position,
      bernsteinWeight degree time position •
          (control position + time • (control (position + 1) - control position)) =
        ((1 - time) * bernsteinWeight degree time position) • control position +
          (time * bernsteinWeight degree time position) • control (position + 1) := by
    intro position
    module
  have last :
      ((1 - time) * bernsteinWeight degree time (degree + 1)) • control (degree + 1) = 0 := by
    rw [bernsteinWeight_beyond (Nat.lt_succ_self degree), mul_zero, zero_smul]
  have kept :
      ∑ position ∈ Finset.range (degree + 1),
          ((1 - time) * bernsteinWeight degree time position) • control position =
        (∑ position ∈ Finset.range (degree + 1),
          ((1 - time) * bernsteinWeight degree time (position + 1)) • control (position + 1)) +
          ((1 - time) * bernsteinWeight degree time 0) • control 0 := by
    rw [← Finset.sum_range_succ' fun position =>
      ((1 - time) * bernsteinWeight degree time position) • control position,
      Finset.sum_range_succ _ (degree + 1), last, add_zero]
  rw [bernsteinForm, bernsteinForm, Finset.sum_range_succ' _ (degree + 1), bernsteinWeight_first]
  simp only [split, bernsteinWeight_later, add_smul]
  rw [Finset.sum_add_distrib, Finset.sum_add_distrib, kept]
  abel

end Weights

theorem joined_range {P : Type} (join : P → P → P) (control : Nat → P) (count : Nat) :
    joined join ((List.range (count + 1)).map control) =
      (List.range count).map fun position => join (control position) (control (position + 1)) := by
  have front :
      ((List.range (count + 1)).map control).dropLast = (List.range count).map control := by
    rw [List.range_succ, List.map_append, List.map_singleton, List.dropLast_concat]
  have back : ((List.range (count + 1)).map control).tail =
      (List.range count).map fun position => control (position + 1) := by
    rw [List.range_succ_eq_map, List.map_cons, List.tail_cons, List.map_map]
    rfl
  rw [joined, front, back, List.zipWith_map, List.zipWith_self]

section Lines

variable {S : Type} [ExactScalar S] {shape : List Nat}

/-- What lines leave of the control points are the control points in their Bernstein form. -/
theorem exists_tip_along {degree : Nat} {control : Nat → Point S} (time : S)
    (shaped : ∀ position ≤ degree, (control position).hasShape shape = true) :
    ∃ point, Tip (fun start target => Flat.along start target time)
        ((List.range (degree + 1)).map control) point ∧
      point.hasShape shape = true ∧
      point.coordinates =
        bernsteinForm degree time fun position => (control position).coordinates := by
  induction degree generalizing control with
  | zero =>
      refine ⟨control 0, .single (control 0), shaped 0 (Nat.le_refl 0), ?_⟩
      simp [bernsteinForm, bernsteinWeight]
  | succ degree ih =>
      -- On the next level the lines between neighbours give control points of one degree less.
      have line : ∀ position ≤ degree,
          (Flat.along (control position) (control (position + 1)) time).hasShape shape = true := by
        intro position inside
        have startShaped := shaped position (by omega)
        have targetShaped := shaped (position + 1) (by omega)
        exact Flat.hasShape_along startShaped targetShaped time
      obtain ⟨point, tip, pointShaped, same⟩ := ih line
      refine ⟨point, ?_, pointShaped, ?_⟩
      · apply Tip.level
        · simp
        · rwa [joined_range]
      · rw [same, ← bernsteinForm_joined]
        apply Finset.sum_congr rfl
        intro position inside
        have bound : position ≤ degree := by
          have := Finset.mem_range.mp inside
          omega
        have startShaped := shaped position (by omega)
        have targetShaped := shaped (position + 1) (by omega)
        exact congrArg (bernsteinWeight degree time position • ·)
          (Flat.coordinates_along startShaped targetShaped time)

end Lines

/-- In a Euclidean space, a segment is the Bernstein form of its control points. -/
theorem segment_is_bernstein_form {S : Type} [OrderedScalar S] {shape : List Nat}
    {strictness : Strictness} {manifold : Manifold S}
    (built : Manifold.euclideanOf strictness (shape.map fun (extent : Nat) => .integer extent) =
      .ok manifold) {degree : Nat} (some : 1 ≤ degree) {control : Nat → Point S}
    (shaped : ∀ position ≤ degree, (control position).hasShape shape = true) {time : S}
    (low : 0 ≤ time) (high : time ≤ 1) :
    ∃ point,
      (deCasteljau manifold.geometry (.segment ((List.range (degree + 1)).map control)) time).Gives
        point ∧
      point.hasShape shape = true ∧
      point.coordinates =
        bernsteinForm degree time fun position => (control position).coordinates := by
  obtain ⟨_, straight⟩ := checked_of_euclidean built
  have positive := positive_of_euclidean built
  obtain ⟨point, tip, pointShaped, same⟩ := exists_tip_along time shaped
  have inside : Scalar.Within time (1 : S) := ⟨time, rfl, low, high⟩
  have lines : Joins manifold.geometry.shortestGeodesic time
      (fun point => point.hasShape shape = true) fun start target =>
        Flat.along start target time := by
    constructor
    · intro start target startShaped targetShaped
      exact straight.gives_along positive startShaped targetShaped time
    · intro start target startShaped targetShaped
      exact Flat.hasShape_along startShaped targetShaped time
  have all : ∀ point ∈ (List.range (degree + 1)).map control, point.hasShape shape = true := by
    intro point member
    obtain ⟨position, before, rfl⟩ := List.mem_map.mp member
    have bound := List.mem_range.mp before
    exact shaped position (by omega)
  have long : 2 ≤ ((List.range (degree + 1)).map control).length := by
    rw [List.length_map, List.length_range]
    omega
  refine ⟨point, ?_, pointShaped, same⟩
  rw [deCasteljau_segment long, evaluate_segment_of_within inside]
  exact lines.gives_evaluateSegment tip all

end Bezier

section Sample

def sampleCubic : Nat → Point ℚ
  | 0 => plotted 0 0
  | 1 => plotted 1 3
  | 2 => plotted 3 3
  | _ => plotted 4 0

theorem sample_cubic_is_bernstein_form : ∃ plane : Manifold ℚ,
    Manifold.euclideanOf .strict [.integer 2] = .ok plane ∧
      (Bezier.deCasteljau plane.geometry
        (.segment [plotted 0 0, plotted 1 3, plotted 3 3, plotted 4 0]) (1 / 2)).Gives
          (plotted 2 (9 / 4)) := by
  obtain ⟨plane, built⟩ : ∃ plane : Manifold ℚ,
      Manifold.euclideanOf .strict ([2].map fun (extent : Nat) => .integer extent) = .ok plane :=
    ⟨_, rfl⟩
  have shaped : ∀ position ≤ 3, (sampleCubic position).hasShape [2] = true := by decide
  have low : (0 : ℚ) ≤ 1 / 2 := by norm_num
  have high : (1 / 2 : ℚ) ≤ 1 := by norm_num
  obtain ⟨point, gives, pointShaped, same⟩ :=
    Bezier.segment_is_bernstein_form built (by omega) shaped low high
  have drawn : point = plotted 2 (9 / 4) := by
    refine Tensor.eq_of_coordinates pointShaped rfl ?_
    rw [same, Bezier.bernsteinForm]
    funext position
    rcases position with _ | _ | position
    all_goals
      norm_num [Finset.sum_range_succ, Bezier.bernsteinWeight, Nat.choose, sampleCubic, plotted,
        Tensor.coordinates, Tensor.entries, Tensor.entriesOfAll]
  rw [drawn] at gives
  exact ⟨plane, built, gives⟩

end Sample

end ProximalSplitting

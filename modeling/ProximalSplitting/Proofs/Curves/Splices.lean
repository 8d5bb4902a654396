import Mathlib.Analysis.Calculus.ContDiff.Deriv
import Mathlib.Analysis.Calculus.Deriv.Polynomial
import Mathlib.Analysis.InnerProductSpace.Calculus
import Mathlib.Topology.Algebra.Polynomial

/-!
Splicing polynomials. A function that is one polynomial up to a junction and another one from there
on has a derivative at the junction exactly if the polynomials have the same one there, and then the
derivative is continuous.
-/

namespace ProximalSplitting

open Polynomial Filter Topology

variable {before after : ℝ[X]} {junction time : ℝ}

noncomputable def spliced (before after : ℝ[X]) (junction time : ℝ) : ℝ :=
  if time ≤ junction then before.eval time else after.eval time

theorem spliced_of_le (upTo : time ≤ junction) :
    spliced before after junction time = before.eval time := if_pos upTo

section Meeting

variable (meets : before.eval junction = after.eval junction)
include meets

theorem spliced_of_ge (onward : junction ≤ time) :
    spliced before after junction time = after.eval time := by
  rcases eq_or_lt_of_le onward with rfl | later
  · rw [spliced_of_le le_rfl, meets]
  · exact if_neg (not_le.mpr later)

theorem continuous_spliced : Continuous (spliced before after junction) := by
  refine Continuous.if_le before.continuous after.continuous continuous_id continuous_const ?_
  rintro time rfl
  exact meets

theorem hasDerivAt_spliced
    (smooth : (derivative before).eval junction = (derivative after).eval junction) :
    HasDerivAt (spliced before after junction)
      (spliced (derivative before) (derivative after) junction time) time := by
  rcases lt_trichotomy time junction with earlier | rfl | later
  · rw [spliced_of_le earlier.le]
    refine (before.hasDerivAt time).congr_of_eventuallyEq ?_
    filter_upwards [Iio_mem_nhds earlier] with other inside
    exact spliced_of_le (le_of_lt inside)
  · -- At the junction both polynomials have a share in the neighbourhood.
    rw [spliced_of_le le_rfl, ← hasDerivWithinAt_univ, ← Set.Iic_union_Ici]
    refine HasDerivWithinAt.union ?_ ?_
    · exact (before.hasDerivAt time).hasDerivWithinAt.congr (fun _ => spliced_of_le)
        (spliced_of_le le_rfl)
    · rw [smooth]
      exact (after.hasDerivAt time).hasDerivWithinAt.congr (fun _ => spliced_of_ge meets)
        (spliced_of_ge meets le_rfl)
  · rw [spliced_of_ge smooth later.le]
    refine (after.hasDerivAt time).congr_of_eventuallyEq ?_
    filter_upwards [Ioi_mem_nhds later] with other inside
    exact spliced_of_ge meets (le_of_lt inside)

theorem contDiff_spliced
    (smooth : (derivative before).eval junction = (derivative after).eval junction) :
    ContDiff ℝ 1 (spliced before after junction) := by
  have derivs : ∀ time, HasDerivAt (spliced before after junction)
      (spliced (derivative before) (derivative after) junction time) time :=
    fun _ => hasDerivAt_spliced meets smooth
  rw [contDiff_one_iff_deriv]
  refine ⟨fun time => (derivs time).differentiableAt, ?_⟩
  rw [funext fun time => (derivs time).deriv]
  exact continuous_spliced smooth

end Meeting

/-- A function that is a polynomial on either side is smooth exactly if their derivatives agree. -/
theorem contDiffAt_iff_of_sides {curve : ℝ → ℝ}
    (left : curve =ᶠ[𝓝[≤] junction] fun time => before.eval time)
    (right : curve =ᶠ[𝓝[≥] junction] fun time => after.eval time) :
    ContDiffAt ℝ 1 curve junction ↔
      (derivative before).eval junction = (derivative after).eval junction := by
  have fromBefore : curve junction = before.eval junction :=
    left.self_of_nhdsWithin Set.self_mem_Iic
  have fromAfter : curve junction = after.eval junction :=
    right.self_of_nhdsWithin Set.self_mem_Ici
  constructor
  · intro smooth
    have whole := (smooth.differentiableAt one_ne_zero).hasDerivAt
    have onLeft := (before.hasDerivAt junction).hasDerivWithinAt.congr_of_eventuallyEq left
      fromBefore
    have onRight := (after.hasDerivAt junction).hasDerivWithinAt.congr_of_eventuallyEq right
      fromAfter
    rw [(uniqueDiffWithinAt_Iic junction).eq_deriv _ onLeft whole.hasDerivWithinAt,
      (uniqueDiffWithinAt_Ici junction).eq_deriv _ onRight whole.hasDerivWithinAt]
  · intro smooth
    have meets := fromBefore.symm.trans fromAfter
    refine (contDiff_spliced meets smooth).contDiffAt.congr_of_eventuallyEq ?_
    rw [← nhdsLE_sup_nhdsGE]
    refine eventually_sup.mpr ⟨?_, ?_⟩
    · filter_upwards [left, self_mem_nhdsWithin] with time same inside
      rw [same, spliced_of_le inside]
    · filter_upwards [right, self_mem_nhdsWithin] with time same inside
      rw [same, spliced_of_ge meets inside]

end ProximalSplitting

import Mathlib.Analysis.Calculus.ContDiff.Operations
import Mathlib.RingTheory.Polynomial.Bernstein
import ProximalSplitting.Proofs.Curves.Bernstein
import ProximalSplitting.Proofs.Curves.Reversal
import ProximalSplitting.Proofs.Curves.Splices
import ProximalSplitting.Proofs.Exact.Vectors

/-!
Tangents of curves in Euclidean space. The coordinates of a segment are polynomials in the Bernstein
basis, whose first two coefficients tell where the segment starts and in which direction it leaves;
listed from the end, the control points tell the same about the other end. So the tangent vectors of
neighbouring segments decide whether the curve is smooth where they meet.
-/

namespace ProximalSplitting

open Compute Tensor Polynomial Filter Topology

namespace Bezier

section Polynomials

variable {S : Type} [CommRing S] {degree : Nat} {time : S} {control : Nat → S}

noncomputable def bernsteinSum (degree : Nat) (control : Nat → S) : S[X] :=
  ∑ position ∈ Finset.range (degree + 1),
    C (control position) * bernsteinPolynomial S degree position

theorem eval_bernsteinSum : (bernsteinSum degree control).eval time =
    bernsteinForm degree time control := by
  rw [bernsteinSum, eval_finsetSum, bernsteinForm]
  refine Finset.sum_congr rfl fun position _ => ?_
  simp only [bernsteinPolynomial, bernsteinWeight, eval_mul, eval_C, eval_natCast, eval_pow, eval_X,
    eval_sub, eval_one, smul_eq_mul]
  ring

theorem coeff_zero_bernsteinSum : (bernsteinSum degree control).coeff 0 = control 0 := by
  rw [coeff_zero_eq_eval_zero, bernsteinSum, eval_finsetSum, Finset.sum_range_succ']
  simp [bernsteinPolynomial.eval_at_0]

theorem coeff_one_eq_eval_derivative (polynomial : S[X]) :
    polynomial.coeff 1 = (derivative polynomial).eval 0 := by
  simp [← coeff_zero_eq_eval_zero, coeff_derivative]

/-- Only the first two control points matter to the direction in which a segment starts. -/
theorem coeff_one_bernsteinSum :
    (bernsteinSum degree control).coeff 1 = degree * (control 1 - control 0) := by
  cases degree with
  | zero => simp [bernsteinSum, bernsteinPolynomial]
  | succ degree =>
      rw [coeff_one_eq_eval_derivative, bernsteinSum, derivative_sum, eval_finsetSum,
        Finset.sum_range_succ', Finset.sum_range_succ']
      simp only [derivative_mul, derivative_C, zero_mul, zero_add,
        bernsteinPolynomial.derivative_succ, bernsteinPolynomial.derivative_zero, eval_mul, eval_C,
        eval_natCast, eval_sub, eval_neg, bernsteinPolynomial.eval_at_0, Nat.add_eq_zero_iff,
        one_ne_zero, and_false, and_self, if_false, if_true, sub_self, mul_zero,
        Finset.sum_const_zero]
      ring

theorem bernsteinSum_congr {other : Nat → S}
    (same : ∀ position ≤ degree, control position = other position) :
    bernsteinSum degree control = bernsteinSum degree other := by
  refine Finset.sum_congr rfl fun position member => ?_
  rw [same position (Finset.mem_range_succ_iff.mp member)]

theorem bernsteinSum_comp : (bernsteinSum degree control).comp (1 - X) =
    bernsteinSum degree fun position => control (degree - position) := by
  rw [bernsteinSum, bernsteinSum, Polynomial.sum_comp, ← Finset.sum_range_reflect]
  refine Finset.sum_congr rfl fun position member => ?_
  have inside := Finset.mem_range_succ_iff.mp member
  have last : degree + 1 - 1 - position = degree - position := by omega
  rw [mul_comp, C_comp, last, bernsteinPolynomial.flip S degree _ (Nat.sub_le degree position),
    Nat.sub_sub_self inside]

theorem eval_eq_of_coeff (polynomial : S[X]) (time : S) :
    polynomial.eval time = polynomial.coeff 0 + time * polynomial.coeff 1 +
      time ^ 2 * polynomial.divX.divX.eval time := by
  conv_lhs => rw [← divX_mul_X_add polynomial, ← divX_mul_X_add polynomial.divX]
  simp only [eval_add, eval_mul, eval_X, eval_C, coeff_divX]
  ring

theorem derivative_eval_one (polynomial : S[X]) :
    (derivative polynomial).eval 1 = - (polynomial.comp (1 - X)).coeff 1 := by
  simp [coeff_one_eq_eval_derivative, derivative_comp]

theorem derivative_eval_shifted (polynomial : S[X]) (shift : S) :
    (derivative (polynomial.comp (X - C shift))).eval time =
      (derivative polynomial).eval (time - shift) := by
  rw [derivative_comp, derivative_X_sub_C, one_mul, eval_comp, eval_sub, eval_X, eval_C]

end Polynomials

section Segments

variable {S : Type} [ExactScalar S] {shape : List Nat} {extent : Nat} {points : List (Point S)}

noncomputable def coordinatePolynomial (points : List (Point S)) (position : Fin extent) : S[X] :=
  bernsteinSum (points.length - 1) fun number =>
    (points.getD number (stack [])).vector extent position

def departure (points : List (Point S)) : Point S :=
  zipWith (· - ·) (points.getD 1 (stack [])) (points.getD 0 (stack []))

theorem coordinatePolynomial_comp (some : points ≠ []) (position : Fin extent) :
    (coordinatePolynomial points position).comp (1 - X) =
      coordinatePolynomial points.reverse position := by
  rw [coordinatePolynomial, bernsteinSum_comp, coordinatePolynomial, List.length_reverse]
  refine bernsteinSum_congr fun number inside => ?_
  have several := List.length_pos_iff.mpr some
  rw [List.getD_eq_getElem?_getD, List.getD_eq_getElem?_getD,
    List.getElem?_reverse (by omega)]

theorem coeff_zero_coordinatePolynomial {start : Point S} (head : points.head? = some start)
    (position : Fin extent) :
    (coordinatePolynomial points position).coeff 0 = start.vector extent position := by
  obtain ⟨rest, rfl⟩ := List.head?_eq_some_iff.mp head
  exact coeff_zero_bernsteinSum

theorem coeff_one_coordinatePolynomial (long : 2 ≤ points.length)
    (shaped : ∀ point ∈ points, point.hasShape shape = true) (position : Fin extent) :
    (coordinatePolynomial points position).coeff 1 =
      (points.length - 1 : Nat) * (departure points).vector extent position := by
  match points, long with
  | first :: second :: rest, _ =>
      rw [coordinatePolynomial, coeff_one_bernsteinSum, departure]
      simp only [List.getD_cons_zero, List.getD_cons_succ]
      rw [vector_sub (shaped second (by simp)) (shaped first (by simp)), Pi.sub_apply]

theorem derivative_eval_start (long : 2 ≤ points.length)
    (shaped : ∀ point ∈ points, point.hasShape shape = true) (position : Fin extent) :
    (derivative (coordinatePolynomial points position)).eval 0 =
      (points.length - 1 : Nat) * (departure points).vector extent position := by
  rw [← coeff_one_eq_eval_derivative, coeff_one_coordinatePolynomial long shaped]

theorem derivative_eval_finish (long : 2 ≤ points.length)
    (shaped : ∀ point ∈ points, point.hasShape shape = true) (position : Fin extent) :
    (derivative (coordinatePolynomial points position)).eval 1 =
      - ((points.length - 1 : Nat) * (departure points.reverse).vector extent position) := by
  have some : points ≠ [] := List.ne_nil_of_length_pos (by omega)
  rw [derivative_eval_one, coordinatePolynomial_comp some,
    coeff_one_coordinatePolynomial (by simpa using long) (by simpa using shaped),
    List.length_reverse]

theorem gives_coordinatePolynomials {geometry : Geometry S} (straight : geometry.Straight)
    (positive : ∀ extent ∈ shape, 0 < extent) (long : 2 ≤ points.length)
    (shaped : ∀ point ∈ points, point.hasShape shape = true) (time : S) :
    ∃ point, (evaluateSegment geometry.shortestGeodesic points time).Gives point ∧
      point.vector shape.prod =
        fun position => (coordinatePolynomial points position).eval time := by
  have listed : (List.range (points.length - 1 + 1)).map
      (fun number => points.getD number (stack [])) = points := by
    rw [Nat.sub_add_cancel (by omega), Power.map_getD_range]
  have controlShaped : ∀ number ≤ points.length - 1,
      (points.getD number (stack [])).hasShape shape = true := by
    intro number inside
    rw [← List.getElem_eq_getD (h := by omega)]
    exact shaped _ (List.getElem_mem _)
  have lines : Joins geometry.shortestGeodesic time (fun point => point.hasShape shape = true)
      fun start target => Flat.along start target time := by
    constructor
    · intro start target startShaped targetShaped
      exact straight.gives_along positive startShaped targetShaped time
    · intro start target startShaped targetShaped
      exact Flat.hasShape_along startShaped targetShaped time
  obtain ⟨point, tip, -, same⟩ := exists_tip_along time controlShaped
  rw [listed] at tip
  refine ⟨point, lines.gives_evaluateSegment tip shaped, funext fun position => ?_⟩
  rw [vector, same, coordinatePolynomial, eval_bernsteinSum, bernsteinForm, bernsteinForm,
    Finset.sum_apply]
  rfl

end Segments

section Expansions

variable {S : Type} [OrderedScalar S] {shape : List Nat} {points : List (Point S)}

/-- Seen from one end, a segment leaves a place along a direction, up to terms that vanish with the
square of the time. As many polynomials as there are coordinates are one with vectors as
coefficients. -/
def LeavesAlong (geometry : Geometry S) (shape : List Nat) (points : List (Point S))
    (seen : S → S) (place direction : Point S) : Prop :=
  ∃ remainder : Fin shape.prod → S[X], ∀ time, 0 ≤ time → time ≤ 1 → ∃ point,
    (deCasteljau geometry (.segment points) (seen time)).Gives point ∧
      point.vector shape.prod = place.vector shape.prod +
        (((points.length - 1 : Nat) : S) * time) • direction.vector shape.prod +
        time ^ 2 • fun position => (remainder position).eval time

variable {geometry : Geometry S} (straight : geometry.Straight)
  (positive : ∀ extent ∈ shape, 0 < extent) (long : 2 ≤ points.length)
  (shaped : ∀ point ∈ points, point.hasShape shape = true)
include straight positive long shaped

theorem gives_deCasteljau_segment {time : S} (low : 0 ≤ time) (high : time ≤ 1) :
    ∃ point, (deCasteljau geometry (.segment points) time).Gives point ∧
      point.vector shape.prod =
        fun position => (coordinatePolynomial points position).eval time := by
  have inside : Scalar.Within time (1 : S) := ⟨time, rfl, low, high⟩
  obtain ⟨point, gives, same⟩ := gives_coordinatePolynomials straight positive long shaped time
  refine ⟨point, ?_, same⟩
  rwa [deCasteljau_segment long, evaluate_segment_of_within inside]

theorem leavesAlong_start {start : Point S} (head : points.head? = some start) :
    LeavesAlong geometry shape points id start (departure points) := by
  refine ⟨fun position => (coordinatePolynomial points position).divX.divX,
    fun time low high => ?_⟩
  obtain ⟨point, gives, same⟩ :=
    gives_deCasteljau_segment straight positive long shaped low high
  refine ⟨point, gives, ?_⟩
  rw [same]
  funext position
  rw [eval_eq_of_coeff, coeff_zero_coordinatePolynomial head,
    coeff_one_coordinatePolynomial long shaped]
  simp only [Pi.add_apply, Pi.smul_apply, smul_eq_mul]
  ring

theorem leavesAlong_finish {finish : Point S} (last : points.getLast? = some finish) :
    LeavesAlong geometry shape points (1 - ·) finish (departure points.reverse) := by
  refine ⟨fun position => (coordinatePolynomial points.reverse position).divX.divX,
    fun time low high => ?_⟩
  have some : points ≠ [] := List.ne_nil_of_length_pos (by omega)
  obtain ⟨point, gives, same⟩ := gives_deCasteljau_segment straight positive long shaped
    (sub_nonneg.mpr high) (sub_le_self 1 low)
  refine ⟨point, gives, ?_⟩
  rw [same]
  funext position
  have turned : (coordinatePolynomial points position).eval (1 - time) =
      (coordinatePolynomial points.reverse position).eval time := by
    rw [← coordinatePolynomial_comp some, eval_comp]
    simp
  rw [turned, eval_eq_of_coeff, coeff_zero_coordinatePolynomial (by rwa [List.head?_reverse]),
    coeff_one_coordinatePolynomial (by simpa using long) (by simpa using shaped)]
  simp only [Pi.add_apply, Pi.smul_apply, smul_eq_mul, List.length_reverse]
  ring

end Expansions

section Extraction

variable {S : Type} [OrderedScalar S] {shape : List Nat} {segments : List (List (Point S))}

omit [OrderedScalar S] in
theorem exists_cons_cons {points : List (Point S)} (long : 2 ≤ points.length) :
    ∃ first second rest, points = first :: second :: rest := by
  match points, long with
  | first :: second :: rest, _ => exact ⟨first, second, rest, rfl⟩

def endDirections (segments : List (List (Point S))) : List (Point S) :=
  segments.flatMap fun segment => [departure segment, departure segment.reverse]

theorem gives_tangentVectors {geometry : Geometry S} (straight : geometry.Straight)
    (positive : ∀ extent ∈ shape, 0 < extent) (long : ∀ segment ∈ segments, 2 ≤ segment.length)
    (shaped : ∀ segment ∈ segments, ∀ point ∈ segment, point.hasShape shape = true) :
    (tangentVectors geometry segments).Gives (endDirections segments) := by
  induction segments with
  | nil => exact gives_pure []
  | cons segment rest ih =>
      obtain ⟨segmentLong, restLong⟩ := List.forall_mem_cons.mp long
      obtain ⟨segmentShaped, restShaped⟩ := List.forall_mem_cons.mp shaped
      obtain ⟨start, afterStart, others, listed⟩ := exists_cons_cons segmentLong
      have reverseLong : 2 ≤ segment.reverse.length := by simpa using segmentLong
      obtain ⟨finish, beforeFinish, earlier, turned⟩ := exists_cons_cons reverseLong
      have inReverse : ∀ point ∈ segment.reverse, point.hasShape shape = true := by
        simpa using segmentShaped
      have leaving := straight.gives_log positive (segmentShaped start (by simp [listed]))
        (segmentShaped afterStart (by simp [listed]))
      have arriving := straight.gives_log positive (inReverse finish (by simp [turned]))
        (inReverse beforeFinish (by simp [turned]))
      have directions : endDirections (segment :: rest) =
          zipWith (· - ·) afterStart start :: zipWith (· - ·) beforeFinish finish ::
            endDirections rest := by
        rw [endDirections, List.flatMap_cons, departure, departure, turned, listed]
        rfl
      rw [directions]
      unfold tangentVectors
      rw [requireSegment_of_long segmentLong, turned, listed]
      exact leaving.bind (arriving.bind ((ih restLong restShaped).bind (gives_pure _)))

theorem getElem?_endDirections {number : Nat} {segment : List (Point S)}
    (found : segments[number]? = some segment) :
    (endDirections segments)[2 * number]? = some (departure segment) ∧
      (endDirections segments)[2 * number + 1]? = some (departure segment.reverse) := by
  induction segments generalizing number with
  | nil => simp at found
  | cons first rest ih =>
      cases number with
      | zero =>
          cases found
          exact ⟨rfl, rfl⟩
      | succ number =>
          have later := ih (by simpa using found)
          simpa [endDirections, Nat.mul_succ] using later

end Extraction

section Composites

variable {shape : List Nat} {geometry : Geometry ℝ} (straight : geometry.Straight)
  (positive : ∀ extent ∈ shape, 0 < extent) {segments : List (List (Point ℝ))}
  (some : segments ≠ []) (long : ∀ segment ∈ segments, 2 ≤ segment.length)
  (shaped : ∀ segment ∈ segments, ∀ point ∈ segment, point.hasShape shape = true)
include straight positive some long shaped

theorem exists_curve : ∃ curve : ℝ → Point ℝ, ∀ parameter : ℝ, 0 ≤ parameter →
    parameter ≤ segments.length →
      (deCasteljau geometry (.composite segments) parameter).Gives (curve parameter) := by
  have each : ∀ parameter : ℝ, ∃ point, 0 ≤ parameter → parameter ≤ segments.length →
      (deCasteljau geometry (.composite segments) parameter).Gives point := by
    intro parameter
    by_cases inside : 0 ≤ parameter ∧ parameter ≤ segments.length
    · obtain ⟨low, high⟩ := inside
      obtain ⟨number, place, segment, selects, found⟩ := exists_selected some parameter low high
      have member := List.mem_of_getElem? found
      obtain ⟨_, ⟨⟩, fromStart, toEnd⟩ := selects.within rfl
      obtain ⟨point, gives, _⟩ := gives_deCasteljau_segment straight positive
        (long segment member) (shaped segment member) fromStart toEnd
      refine ⟨point, fun _ _ => ?_⟩
      rwa [deCasteljau_of_selects some long rfl low high selects found]
    · exact ⟨stack [], fun low high => absurd ⟨low, high⟩ inside⟩
  choose curve follows using each
  exact ⟨curve, follows⟩

variable (contiguous : Contiguous segments) {curve : ℝ → Point ℝ}
  (follows : ∀ parameter : ℝ, 0 ≤ parameter → parameter ≤ segments.length →
    (deCasteljau geometry (.composite segments) parameter).Gives (curve parameter))
include contiguous follows

theorem curve_between {number : Nat} {segment : List (Point ℝ)}
    (found : segments[number]? = .some segment) {parameter : ℝ} (low : number ≤ parameter)
    (high : parameter ≤ number + 1) (position : Fin shape.prod) :
    (curve parameter).vector shape.prod position =
      (coordinatePolynomial segment position).eval (parameter - number) := by
  have member := List.mem_of_getElem? found
  obtain ⟨before, _⟩ := List.getElem?_eq_some_iff.mp found
  have inside : (number : ℝ) + 1 ≤ segments.length := by exact_mod_cast before
  obtain ⟨point, gives, same⟩ := gives_coordinatePolynomials straight positive
    (long segment member) (shaped segment member) (parameter - number)
  have between := gives_composite_between (straight.reversible positive).connects contiguous shaped
    found rfl low high rfl gives
  rw [← deCasteljau_composite some long] at between
  obtain ⟨after, ran⟩ := follows parameter ((Nat.cast_nonneg number).trans low)
    (high.trans inside) {}
  rw [between.unique ⟨{}, after, ran⟩, same]

theorem contDiffAt_junction_iff {number : Nat} {first next : List (Point ℝ)}
    (found : segments[number]? = .some first) (foundNext : segments[number + 1]? = .some next) :
    ContDiffAt ℝ 1 (fun parameter => (curve parameter).vector shape.prod) (number + 1) ↔
      ((first.length - 1 : Nat) : ℝ) • (departure first.reverse).vector shape.prod +
        ((next.length - 1 : Nat) : ℝ) • (departure next).vector shape.prod = 0 := by
  have each : ∀ position : Fin shape.prod,
      ContDiffAt ℝ 1 (fun parameter => (curve parameter).vector shape.prod position) (number + 1) ↔
        ((first.length - 1 : Nat) : ℝ) * (departure first.reverse).vector shape.prod position +
          ((next.length - 1 : Nat) : ℝ) * (departure next).vector shape.prod position = 0 := by
    intro position
    have left : (fun parameter => (curve parameter).vector shape.prod position)
        =ᶠ[𝓝[≤] ((number : ℝ) + 1)] fun parameter =>
          ((coordinatePolynomial first position).comp (X - C (number : ℝ))).eval parameter := by
      filter_upwards [Icc_mem_nhdsLE (lt_add_one (number : ℝ))] with parameter inside
      rw [curve_between straight positive some long shaped contiguous follows found inside.1
        inside.2, eval_comp, eval_sub, eval_X, eval_C]
    have right : (fun parameter => (curve parameter).vector shape.prod position)
        =ᶠ[𝓝[≥] ((number : ℝ) + 1)] fun parameter =>
          ((coordinatePolynomial next position).comp (X - C ((number : ℝ) + 1))).eval
            parameter := by
      filter_upwards [Icc_mem_nhdsGE (lt_add_one ((number : ℝ) + 1))] with parameter inside
      rw [curve_between straight positive some long shaped contiguous follows foundNext
        (by push_cast; exact inside.1) (by push_cast; exact inside.2), eval_comp, eval_sub, eval_X,
        eval_C, Nat.cast_succ]
    have firstMember := List.mem_of_getElem? found
    have nextMember := List.mem_of_getElem? foundNext
    rw [contDiffAt_iff_of_sides left right, derivative_eval_shifted, derivative_eval_shifted,
      add_sub_cancel_left, sub_self,
      derivative_eval_finish (long first firstMember) (shaped first firstMember),
      derivative_eval_start (long next nextMember) (shaped next nextMember), neg_eq_iff_add_eq_zero]
  rw [contDiffAt_pi, funext_iff]
  exact forall_congr' each

end Composites

/-- In Euclidean space the tangent vectors, times the degrees of their segments, are the first order
terms of the segments, seen from either end; and a curve without gaps is smooth where two segments
meet exactly if the two tangent vectors there, times the degrees, cancel out. -/
theorem tangent_vectors_give_derivatives {strictness : Strictness} {shape : List Nat}
    {manifold : Manifold ℝ}
    (built : Manifold.euclideanOf strictness (shape.map fun (extent : Nat) => .integer extent) =
      .ok manifold) {segments : List (List (Point ℝ))}
    (long : ∀ segment ∈ segments, 2 ≤ segment.length)
    (shaped : ∀ segment ∈ segments, ∀ point ∈ segment, point.hasShape shape = true) :
    ∃ vectors, (tangentVectors manifold.geometry segments).Gives vectors ∧
      vectors.length = 2 * segments.length ∧
      (∀ number segment, segments[number]? = some segment →
        ∃ start finish leaving arriving,
          segment.head? = some start ∧ segment.getLast? = some finish ∧
          vectors[2 * number]? = some leaving ∧ vectors[2 * number + 1]? = some arriving ∧
          LeavesAlong manifold.geometry shape segment id start leaving ∧
          LeavesAlong manifold.geometry shape segment (1 - ·) finish arriving) ∧
      (segments ≠ [] → Contiguous segments → ∃ curve : ℝ → Point ℝ,
        (∀ parameter : ℝ, 0 ≤ parameter → parameter ≤ segments.length →
          (deCasteljau manifold.geometry (.composite segments) parameter).Gives
            (curve parameter)) ∧
        ∀ (number : Nat) (first next : List (Point ℝ)) (arriving leaving : Point ℝ),
          segments[number]? = some first → segments[number + 1]? = some next →
          vectors[2 * number + 1]? = some arriving → vectors[2 * (number + 1)]? = some leaving →
          (ContDiffAt ℝ 1 (fun parameter => (curve parameter).vector shape.prod) (number + 1) ↔
            ((first.length - 1 : Nat) : ℝ) • arriving.vector shape.prod +
              ((next.length - 1 : Nat) : ℝ) • leaving.vector shape.prod = 0)) := by
  obtain ⟨_, straight⟩ := checked_of_euclidean built
  have positive := positive_of_euclidean built
  refine ⟨endDirections segments, gives_tangentVectors straight positive long shaped, ?_, ?_, ?_⟩
  · simp [endDirections, Nat.mul_comm]
  · intro number segment found
    have member := List.mem_of_getElem? found
    have segmentLong := long segment member
    have some : segment ≠ [] := List.ne_nil_of_length_pos (by omega)
    have head := List.head?_eq_some_head some
    have last := List.getLast?_eq_some_getLast some
    obtain ⟨foundLeaving, foundArriving⟩ := getElem?_endDirections found
    exact ⟨_, _, _, _, head, last, foundLeaving, foundArriving,
      leavesAlong_start straight positive segmentLong (shaped segment member) head,
      leavesAlong_finish straight positive segmentLong (shaped segment member) last⟩
  · intro some contiguous
    obtain ⟨curve, follows⟩ := exists_curve straight positive some long shaped
    refine ⟨curve, follows, ?_⟩
    intro number first next arriving leaving found foundNext foundArriving foundLeaving
    rw [(getElem?_endDirections found).2] at foundArriving
    rw [(getElem?_endDirections foundNext).1] at foundLeaving
    cases foundArriving
    cases foundLeaving
    exact contDiffAt_junction_iff straight positive some long shaped contiguous follows found
      foundNext

section Sample

/-- A parabola, and the line that leaves it in the direction in which it ends. -/
theorem sample_tangent_vectors_give_derivatives :
    ∃ (plane : Manifold ℝ) (parabola line : List (Point ℝ)) (vectors : List (Point ℝ))
      (curve : ℝ → Point ℝ),
      Manifold.euclideanOf .strict [.integer 2] = .ok plane ∧
      parabola = [ofVector ![0, 0], ofVector ![1, 1], ofVector ![2, 0]] ∧
      line = [ofVector ![2, 0], ofVector ![4, -2]] ∧
      (tangentVectors plane.geometry [parabola, line]).Gives vectors ∧
      (∃ leaving, vectors[0]? = some leaving ∧
        LeavesAlong plane.geometry [2] parabola id (ofVector ![0, 0]) leaving) ∧
      (∀ parameter : ℝ, 0 ≤ parameter → parameter ≤ 2 →
        (deCasteljau plane.geometry (.composite [parabola, line]) parameter).Gives
          (curve parameter)) ∧
      ContDiffAt ℝ 1 (fun parameter => (curve parameter).vector 2) 1 := by
  obtain ⟨plane, built⟩ : ∃ plane : Manifold ℝ,
      Manifold.euclideanOf .strict ([2].map fun (extent : Nat) => .integer extent) = .ok plane :=
    ⟨_, rfl⟩
  obtain ⟨parabola, bent⟩ : ∃ parabola : List (Point ℝ),
      parabola = [ofVector ![0, 0], ofVector ![1, 1], ofVector ![2, 0]] := ⟨_, rfl⟩
  obtain ⟨line, straightOn⟩ : ∃ line : List (Point ℝ),
      line = [ofVector ![2, 0], ofVector ![4, -2]] := ⟨_, rfl⟩
  have long : ∀ segment ∈ [parabola, line], 2 ≤ segment.length := by simp [bent, straightOn]
  have shaped : ∀ segment ∈ [parabola, line], ∀ point ∈ segment, point.hasShape [2] = true := by
    simp [bent, straightOn, hasShape_ofVector]
  have contiguous : Contiguous [parabola, line] := by simp [bent, straightOn, Contiguous]
  obtain ⟨vectors, gives, -, expand, smooth⟩ :=
    tangent_vectors_give_derivatives built long shaped
  obtain ⟨curve, follows, junctions⟩ := smooth (by simp) contiguous
  obtain ⟨start, _, leaving, _, head, _, foundLeaving, _, leaves, _⟩ := expand 0 parabola rfl
  obtain rfl : ofVector ![0, 0] = start := by simpa [bent] using head
  refine ⟨plane, parabola, line, vectors, curve, built, bent, straightOn, gives,
    ⟨leaving, foundLeaving, leaves⟩, follows, ?_⟩
  have extracted : endDirections [parabola, line] = vectors := by
    obtain ⟨_, straight⟩ := checked_of_euclidean built
    obtain ⟨after, ran⟩ :=
      gives_tangentVectors straight (positive_of_euclidean built) long shaped {}
    exact gives.unique ⟨{}, after, ran⟩
  subst extracted
  have decided := junctions 0 parabola line _ _ rfl rfl rfl rfl
  have way : ∀ first second : Fin 2 → ℝ,
      (zipWith (· - ·) (ofVector second) (ofVector first)).vector 2 = second - first := by
    intro first second
    rw [vector_sub (hasShape_ofVector second) (hasShape_ofVector first), vector_ofVector,
      vector_ofVector]
  have arrives : (departure parabola.reverse).vector 2 = ![(1 : ℝ), 1] - ![2, 0] := by
    rw [bent]
    exact way _ _
  have departs : (departure line).vector 2 = ![(4 : ℝ), -2] - ![2, 0] := by
    rw [straightOn]
    exact way _ _
  have cancels : ((parabola.length - 1 : ℕ) : ℝ) • (departure parabola.reverse).vector 2 +
      ((line.length - 1 : ℕ) : ℝ) • (departure line).vector 2 = 0 := by
    rw [arrives, departs, bent, straightOn]
    funext position
    fin_cases position <;> norm_num
  rw [Nat.cast_zero, zero_add] at decided
  exact decided.mpr cancels

end Sample

end Bezier

end ProximalSplitting

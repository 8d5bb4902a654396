import Mathlib.Tactic.FieldSimp
import Mathlib.Tactic.NormNum.RealSqrt
import ProximalSplitting.Proofs.Exact.Lengths
import ProximalSplitting.Proofs.Method.Distances

/-!
Proximal maps of distances minimise what they are named after. On a line to the target the two
distances add up to the way, and elsewhere the way is no longer than the detour; that alone makes
the point that is reached the best one, for a squared distance as well as for a plain one.
-/

namespace ProximalSplitting

open Compute Tensor

variable {S : Type} [RealScalar S] {shape : List Nat}

structure ProximalMap.Minimizes (geometry : Geometry S) (region : Point S → Prop)
    (objective : Point S → S) (parameter : S) (start best : Point S) : Prop where
  inside : region best
  least : ∀ other, region other → ∃ near far,
    (geometry.dist start best).Gives near ∧ (geometry.dist start other).Gives far ∧
      objective best + near ^ 2 / (2 * parameter) ≤ objective other + far ^ 2 / (2 * parameter)

namespace ProximalMap

section Detours

variable {parameter way ahead behind : S} (positive : 0 < parameter) (nonneg : 0 ≤ way)
  (detour : way ≤ ahead + behind)
include positive nonneg detour

/-- A way that is divided in the ratio of the parameter to one, against any detour. -/
theorem squared_share_le :
    ((1 - parameter / (1 + parameter)) * way) ^ 2 / 2 +
        (parameter / (1 + parameter) * way) ^ 2 / (2 * parameter) ≤
      ahead ^ 2 / 2 + behind ^ 2 / (2 * parameter) := by
  have whole : 0 < 1 + parameter := by linarith
  have shared : ((1 - parameter / (1 + parameter)) * way) ^ 2 / 2 +
      (parameter / (1 + parameter) * way) ^ 2 / (2 * parameter) =
        way ^ 2 / (2 * (1 + parameter)) := by
    field_simp
    ring
  have excess : ahead ^ 2 / 2 + behind ^ 2 / (2 * parameter) -
      (ahead + behind) ^ 2 / (2 * (1 + parameter)) =
        (parameter * ahead - behind) ^ 2 / (2 * parameter * (1 + parameter)) := by
    field_simp
    ring
  have longer : way ^ 2 / (2 * (1 + parameter)) ≤ (ahead + behind) ^ 2 / (2 * (1 + parameter)) := by
    gcongr
  have remains : 0 ≤ (parameter * ahead - behind) ^ 2 / (2 * parameter * (1 + parameter)) := by
    positivity
  rw [shared]
  linarith

/-- A way on which the parameter is gone, or all of it if it is shorter, against any detour. -/
theorem plain_share_le (aheadNonneg : 0 ≤ ahead) (behindNonneg : 0 ≤ behind) :
    way - min parameter way + min parameter way ^ 2 / (2 * parameter) ≤
      ahead + behind ^ 2 / (2 * parameter) := by
  have twice : 0 < 2 * parameter := by linarith
  have scaled : 2 * parameter * (way - min parameter way) + min parameter way ^ 2 ≤
      2 * parameter * ahead + behind ^ 2 := by
    have paid : 0 ≤ 2 * parameter * ahead := mul_nonneg twice.le aheadNonneg
    rcases le_total parameter way with near | far
    · have spent : 2 * parameter * (way - ahead) ≤ 2 * parameter * behind :=
        mul_le_mul_of_nonneg_left (by linarith) twice.le
      have apart := sq_nonneg (behind - parameter)
      rw [min_eq_left near]
      linarith
    · rw [min_eq_right far, sub_self, mul_zero, zero_add]
      rcases le_total way behind with long | short
      · have larger : way ^ 2 ≤ behind ^ 2 := pow_le_pow_left₀ nonneg long 2
        linarith
      · -- The difference of the squares is that of the lengths times their sum.
        have sum : way + behind ≤ 2 * parameter := by linarith
        have product : (way - behind) * (way + behind) ≤ ahead * (2 * parameter) :=
          mul_le_mul (by linarith) sum (add_nonneg nonneg behindNonneg) aheadNonneg
        linarith
  have joined : ∀ first second : S,
      first + second / (2 * parameter) = (2 * parameter * first + second) / (2 * parameter) := by
    intro first second
    field_simp
  rw [joined, joined]
  exact div_le_div_of_nonneg_right scaled twice.le

end Detours

theorem not_equalsInteger {value : Value S} {expected other : Int} (different : expected ≠ other)
    (equal : value.equalsInteger expected = true) : ¬ value.equalsInteger other = true := by
  intro equalToo
  cases value with
  | real number =>
      simp only [Value.equalsInteger, Scalar.same, Scalar.atMost_eq, Bool.and_eq_true,
        decide_eq_true_eq, ExactScalar.ofInt_eq] at equal equalToo
      have same : (expected : S) = other :=
        (le_antisymm equal.2 equal.1).trans (le_antisymm equalToo.1 equalToo.2)
      exact different (Int.cast_injective same)
  | flag set =>
      simp only [Value.equalsInteger, decide_eq_true_eq] at equal equalToo
      exact different (Option.some.inj (equal.symm.trans equalToo))
  | integer number =>
      simp only [Value.equalsInteger, decide_eq_true_eq] at equal equalToo
      exact different (Option.some.inj (equal.symm.trans equalToo))
  | _ => simp [Value.equalsInteger, Value.integer?] at equal

theorem plainTime_mul {parameter distance : S} (nonneg : 0 ≤ distance)
    (clear : Tolerance.smallLength ≤ distance ∨ Tolerance.smallLength ≤ parameter) :
    plainTime parameter distance * distance = min parameter distance := by
  rw [plainTime, Scalar.minimum_eq, Scalar.maximum_eq, Scalar.one_eq]
  rcases le_or_gt Tolerance.smallLength distance with long | short
  · have whole := lt_of_lt_of_le Tolerance.smallLength_pos long
    rw [max_eq_left long, min_mul_of_nonneg _ _ nonneg, div_mul_cancel₀ _ whole.ne', one_mul]
  · have enough : Tolerance.smallLength ≤ parameter := clear.resolve_left (not_le.mpr short)
    have past : 1 ≤ parameter / Tolerance.smallLength :=
      (one_le_div Tolerance.smallLength_pos).mpr enough
    rw [max_eq_right short.le, min_eq_right past, one_mul, min_eq_right (short.le.trans enough)]

section Lines

variable {geometry : Geometry S} {target point : Point S} {parameter time : S} {exponent : Value S}
  (linear : geometry.LinearOn shape) (targetShaped : target.hasShape shape = true)
  (pointShaped : point.hasShape shape = true)
include linear targetShaped pointShaped

/-- A point of the line to the target is as good as its shares of the way are for every detour that
is as long as the way, or longer. -/
theorem minimizes_along (objective : S → S) (low : 0 ≤ time) (high : time ≤ 1)
    (least : ∀ ahead behind, 0 ≤ ahead → 0 ≤ behind →
      (zipWith (· - ·) point target).length ≤ ahead + behind →
        objective ((1 - time) * (zipWith (· - ·) point target).length) +
            (time * (zipWith (· - ·) point target).length) ^ 2 / (2 * parameter) ≤
          objective ahead + behind ^ 2 / (2 * parameter)) :
    Minimizes geometry (fun other => other.hasShape shape = true)
      (fun other => objective (zipWith (· - ·) other target).length) parameter point
      (Flat.along point target time) where
  inside := Flat.hasShape_along pointShaped targetShaped time
  least := by
    intro other otherShaped
    have reached := Flat.hasShape_along pointShaped targetShaped time
    have near := linear.dist pointShaped reached
    have detour := Flat.length_sub_le targetShaped pointShaped otherShaped
    have best := least _ _ (zero_le_length (zipWith (· - ·) other target))
      (zero_le_length (zipWith (· - ·) point other)) (by linarith)
    rw [length_sub_comm pointShaped otherShaped] at best
    rw [length_sub_comm pointShaped targetShaped] at best
    refine ⟨_, _, near, linear.dist pointShaped otherShaped, ?_⟩
    rwa [length_sub_comm reached targetShaped, Flat.length_along_sub pointShaped targetShaped low,
      Flat.length_sub_along pointShaped targetShaped high]

variable (positive : 0 < parameter)
include positive

theorem minimizes_distance_squared (squared : exponent.equalsInteger 2 = true) :
    ∃ best, (distance geometry target exponent parameter point).Gives best ∧
      Minimizes geometry (fun other => other.hasShape shape = true)
        (fun other => (zipWith (· - ·) other target).length ^ 2 / 2) parameter point best := by
  have whole : 0 < 1 + parameter := by linarith
  have high : parameter / (1 + parameter) ≤ 1 := by
    rw [div_le_one whole]
    linarith
  refine ⟨_, gives_distance_squared linear pointShaped targetShaped positive squared, ?_⟩
  apply minimizes_along linear targetShaped pointShaped (fun length => length ^ 2 / 2)
    (div_pos positive whole).le high
  intro ahead behind _ _ detour
  exact squared_share_le positive (zero_le_length _) detour

theorem minimizes_distance_plain (plain : exponent.equalsInteger 1 = true)
    (clear : Tolerance.smallLength ≤ (zipWith (· - ·) point target).length ∨
      Tolerance.smallLength ≤ parameter) :
    ∃ best, (distance geometry target exponent parameter point).Gives best ∧
      Minimizes geometry (fun other => other.hasShape shape = true)
        (fun other => (zipWith (· - ·) other target).length) parameter point best := by
  have single : ¬ exponent.equalsInteger 2 = true := not_equalsInteger (by decide) plain
  refine ⟨Flat.along point target (plainTime parameter (zipWith (· - ·) point target).length),
    ?_, ?_⟩
  · rw [distance, if_neg single, if_pos plain]
    exact (linear.dist targetShaped pointShaped).bind
      (linear.gives_along pointShaped targetShaped _)
  · apply minimizes_along linear targetShaped pointShaped (fun length => length)
      (plainTime_nonneg positive _) (plainTime_le_one _ _)
    intro ahead behind aheadNonneg behindNonneg detour
    rw [sub_mul, one_mul, plainTime_mul (zero_le_length _) clear]
    exact plain_share_le positive (zero_le_length _) detour aheadNonneg behindNonneg

end Lines

end ProximalMap

/-- In Euclidean space the proximal map of a distance finds a minimiser of the power of the distance
to the target, divided by the exponent, with the penalty for moving: for a square always, and for a
plain distance whenever the distance or the parameter is not below the small length. -/
theorem distance_map_minimizes {strictness : Strictness} {manifold : Manifold S}
    (built : Manifold.euclideanOf strictness (shape.map fun (extent : Nat) => .integer extent) =
      .ok manifold) {target point : Point S} (targetShaped : target.hasShape shape = true)
    (pointShaped : point.hasShape shape = true) {parameter : S} (positive : 0 < parameter) :
    ∃ distance : Point S → S,
      (∀ other, other.hasShape shape = true →
        (manifold.geometry.dist target other).Gives (distance other)) ∧
      ∀ (power : Nat) (exponent : Value S), exponent.equalsInteger power = true →
        (power = 2 ∨ power = 1 ∧
          (Tolerance.smallLength ≤ distance point ∨ Tolerance.smallLength ≤ parameter)) →
        ∃ best,
          (ProximalMap.distance manifold.geometry target exponent parameter point).Gives best ∧
          ProximalMap.Minimizes manifold.geometry (fun other => other.hasShape shape = true)
            (fun other => distance other ^ power / power) parameter point best := by
  have linear := (Manifold.flat_of_euclidean built).toLinearOn
  refine ⟨fun other => (zipWith (· - ·) other target).length,
    fun other otherShaped => linear.dist targetShaped otherShaped, ?_⟩
  rintro power exponent equal (rfl | ⟨rfl, clear⟩)
  · exact ProximalMap.minimizes_distance_squared linear targetShaped pointShaped positive equal
  · simpa using
      ProximalMap.minimizes_distance_plain linear targetShaped pointShaped positive equal clear

section Sample

/-- On a line, with a parameter that is tiny and a target that is far enough. -/
theorem sample_distance_map_minimizes : ∃ (line : Manifold ℝ) (distance : Point ℝ → ℝ),
    Manifold.euclideanOf .strict [] = .ok line ∧ distance (.scalar 5) = 5 ∧
      (∃ best, (ProximalMap.distance line.geometry (.scalar 0) (.flag true) (1 / 10 ^ 11)
          (.scalar 5)).Gives best ∧
        ProximalMap.Minimizes line.geometry (fun other => other.hasShape [] = true)
          (fun other => distance other ^ 1 / (1 : ℕ)) (1 / 10 ^ 11) (.scalar 5) best) ∧
      ∃ best, (ProximalMap.distance line.geometry (.scalar 0) (.integer 2) (1 / 10 ^ 11)
          (.scalar 5)).Gives best ∧
        ProximalMap.Minimizes line.geometry (fun other => other.hasShape [] = true)
          (fun other => distance other ^ 2 / (2 : ℕ)) (1 / 10 ^ 11) (.scalar 5) best := by
  obtain ⟨line, built⟩ : ∃ line : Manifold ℝ,
      Manifold.euclideanOf .strict (([] : List Nat).map fun (extent : Nat) => .integer extent) =
        .ok line := ⟨_, rfl⟩
  have targetShaped : (Tensor.scalar (0 : ℝ)).hasShape [] = true := rfl
  have pointShaped : (Tensor.scalar (5 : ℝ)).hasShape [] = true := rfl
  have positive : (0 : ℝ) < 1 / 10 ^ 11 := by norm_num
  obtain ⟨distance, gives, minimizes⟩ :=
    distance_map_minimizes built targetShaped pointShaped positive
  have long : distance (.scalar 5) = 5 := by
    have linear := (Manifold.flat_of_euclidean built).toLinearOn
    obtain ⟨after, found⟩ := gives (.scalar 5) pointShaped {}
    rw [(linear.dist targetShaped pointShaped).unique ⟨_, _, found⟩]
    change Real.sqrt (((0 : ℤ) : ℝ) + (5 - 0) * (5 - 0)) = 5
    norm_num
  have clear : Tolerance.smallLength ≤ distance (.scalar 5) := by
    rw [long, Tolerance.smallLength, RealScalar.decimal_eq]
    norm_num
  refine ⟨line, distance, built, long, ?_, ?_⟩
  · exact minimizes 1 (.flag true) rfl (.inr ⟨rfl, .inl clear⟩)
  · exact minimizes 2 (.integer 2) rfl (.inl rfl)

end Sample

end ProximalSplitting

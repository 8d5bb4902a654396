import Mathlib.Algebra.Order.BigOperators.Ring.Finset
import ProximalSplitting.Proofs.Exact.Lines
import ProximalSplitting.Proofs.Exact.Vectors

/-!
Lengths of arrays of any shape over exact numbers. A product of two vectors is at most the product
of their lengths, so no way is longer than a detour, and a point of a line divides it into parts that
have their share of its length.
-/

namespace ProximalSplitting

open Tensor

variable {S : Type} [RealScalar S] {shape : List Nat} {left right : Point S}

namespace Tensor

theorem square_dotProduct_le {extent : Nat} (left right : Fin extent → S) :
    (left ⬝ᵥ right) ^ 2 ≤ left ⬝ᵥ left * (right ⬝ᵥ right) := by
  have bounded := Finset.sum_mul_sq_le_sq_mul_sq Finset.univ left right
  simpa only [dotProduct, sq] using bounded

theorem dotProduct_le_length_mul_length {extent : Nat} (leftCounted : left.entries.length = extent)
    (rightCounted : right.entries.length = extent) :
    left.vector extent ⬝ᵥ right.vector extent ≤ left.length * right.length := by
  have squares : (left.vector extent ⬝ᵥ right.vector extent) ^ 2 ≤
      (left.length * right.length) ^ 2 := by
    calc (left.vector extent ⬝ᵥ right.vector extent) ^ 2
        ≤ (left.vector extent ⬝ᵥ left.vector extent) *
            (right.vector extent ⬝ᵥ right.vector extent) := square_dotProduct_le _ _
      _ = (left.length * left.length) * (right.length * right.length) := by
          rw [length_mul_length_of_count leftCounted, length_mul_length_of_count rightCounted]
      _ = (left.length * right.length) ^ 2 := by ring
  have nonneg := mul_nonneg (zero_le_length left) (zero_le_length right)
  exact le_of_abs_le (abs_le_of_sq_le_sq squares nonneg)

section Pairs

variable (leftShaped : left.hasShape shape = true) (rightShaped : right.hasShape shape = true)
include leftShaped rightShaped

theorem length_add_le : (zipWith (· + ·) left right).length ≤ left.length + right.length := by
  have leftCounted := length_entries left shape leftShaped
  have rightCounted := length_entries right shape rightShaped
  have sumCounted := length_entries _ shape (hasShape_zipWith leftShaped rightShaped (· + ·))
  have product := dotProduct_le_length_mul_length leftCounted rightCounted
  have squares : (zipWith (· + ·) left right).length ^ 2 ≤ (left.length + right.length) ^ 2 := by
    calc (zipWith (· + ·) left right).length ^ 2
        = left.vector shape.prod ⬝ᵥ left.vector shape.prod +
            2 * (left.vector shape.prod ⬝ᵥ right.vector shape.prod) +
            right.vector shape.prod ⬝ᵥ right.vector shape.prod := by
          rw [sq, length_mul_length_of_count sumCounted, vector_add leftShaped rightShaped,
            add_dotProduct, dotProduct_add, dotProduct_add,
            dotProduct_comm (right.vector shape.prod) (left.vector shape.prod)]
          ring
      _ ≤ left.length * left.length + 2 * (left.length * right.length) +
            right.length * right.length := by
          rw [length_mul_length_of_count leftCounted, length_mul_length_of_count rightCounted]
          linarith
      _ = (left.length + right.length) ^ 2 := by ring
  exact le_of_abs_le (abs_le_of_sq_le_sq squares
    (add_nonneg (zero_le_length left) (zero_le_length right)))

theorem length_sub_mul_self :
    (zipWith (· - ·) left right).length * (zipWith (· - ·) left right).length =
      (left.vector shape.prod - right.vector shape.prod) ⬝ᵥ
        (left.vector shape.prod - right.vector shape.prod) := by
  have counted := length_entries _ shape (hasShape_zipWith leftShaped rightShaped (· - ·))
  rw [length_mul_length_of_count counted, vector_sub leftShaped rightShaped]

theorem length_sub_comm :
    (zipWith (· - ·) left right).length = (zipWith (· - ·) right left).length := by
  refine (mul_self_inj (zero_le_length _) (zero_le_length _)).mp ?_
  rw [length_sub_mul_self leftShaped rightShaped, length_sub_mul_self rightShaped leftShaped,
    ← neg_sub (right.vector shape.prod), neg_dotProduct, dotProduct_neg, neg_neg]

end Pairs

end Tensor

namespace Flat

variable {start middle target : Point S} (startShaped : start.hasShape shape = true)
  (targetShaped : target.hasShape shape = true)
include startShaped targetShaped

theorem length_sub_le (middleShaped : middle.hasShape shape = true) :
    (zipWith (· - ·) target start).length ≤
      (zipWith (· - ·) target middle).length + (zipWith (· - ·) middle start).length := by
  have later := hasShape_sub middleShaped targetShaped
  have earlier := hasShape_sub startShaped middleShaped
  have whole : zipWith (· - ·) target start =
      zipWith (· + ·) (zipWith (· - ·) target middle) (zipWith (· - ·) middle start) := by
    refine eq_of_coordinates (hasShape_sub startShaped targetShaped)
      (hasShape_zipWith later earlier _) ?_
    rw [coordinates_add later earlier, coordinates_sub targetShaped middleShaped,
      coordinates_sub middleShaped startShaped, coordinates_sub targetShaped startShaped,
      sub_add_sub_cancel]
  rw [whole]
  exact length_add_le later earlier

theorem length_along_sub {time : S} (low : 0 ≤ time) :
    (zipWith (· - ·) (along start target time) start).length =
      time * (zipWith (· - ·) target start).length := by
  have reached := hasShape_along startShaped targetShaped time
  have way := hasShape_sub startShaped targetShaped
  have part : zipWith (· - ·) (along start target time) start =
      (zipWith (· - ·) target start).scale time := by
    refine eq_of_coordinates (hasShape_sub startShaped reached) (by simpa using way) ?_
    rw [coordinates_sub reached startShaped, coordinates_along startShaped targetShaped,
      coordinates_scale, coordinates_sub targetShaped startShaped, add_sub_cancel_left]
  rw [part, length_scale low]

theorem length_sub_along {time : S} (high : time ≤ 1) :
    (zipWith (· - ·) target (along start target time)).length =
      (1 - time) * (zipWith (· - ·) target start).length := by
  have reached := hasShape_along startShaped targetShaped time
  have way := hasShape_sub startShaped targetShaped
  have rest : zipWith (· - ·) target (along start target time) =
      (zipWith (· - ·) target start).scale (1 - time) := by
    refine eq_of_coordinates (hasShape_sub reached targetShaped) (by simpa using way) ?_
    rw [coordinates_sub targetShaped reached, coordinates_along startShaped targetShaped,
      coordinates_scale, coordinates_sub targetShaped startShaped, sub_smul, one_smul]
    abel
  rw [rest, length_scale (sub_nonneg.mpr high)]

end Flat

end ProximalSplitting

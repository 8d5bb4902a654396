import Mathlib.Analysis.SpecialFunctions.Complex.Arg
import Mathlib.Analysis.SpecialFunctions.Pow.Real
import Mathlib.Algebra.Order.Archimedean.Real.Basic
import ProximalSplitting.Defaults
import ProximalSplitting.Proofs.Exact.Coordinates

/-!
Exact numbers in their order, with roots, sines and cosines. Of these functions only as much is
known as the geometry of the sphere relies on: a root has the square it should have, sine and cosine
lie on the unit circle, and the cosine of a small length does not vanish.
-/

namespace ProximalSplitting

class RootScalar (S : Type) extends ExactScalar S, LinearOrder S, IsStrictOrderedRing S where
  sqrt_mul_sqrt : ∀ number : S, 0 ≤ number → Scalar.sqrt number * Scalar.sqrt number = number

class RealScalar (S : Type) extends ExactScalar S, LinearOrder S, IsStrictOrderedRing S where
  less_iff : ∀ left right : S, Scalar.less left right = true ↔ left < right
  atMost_iff : ∀ left right : S, Scalar.atMost left right = true ↔ left ≤ right
  isNumber_eq : ∀ number : S, Scalar.isNumber number = true
  decimal_eq : ∀ digits places : Nat, (Scalar.decimal digits places : S) = digits / 10 ^ places
  sqrt_nonneg : ∀ number : S, 0 ≤ number → 0 ≤ Scalar.sqrt number
  sqrt_mul_sqrt : ∀ number : S, 0 ≤ number → Scalar.sqrt number * Scalar.sqrt number = number
  circle : ∀ angle : S,
    Scalar.cos angle * Scalar.cos angle + Scalar.sin angle * Scalar.sin angle = 1
  cos_ne_zero : ∀ length : S, 0 ≤ length → length < Tolerance.smallLength → Scalar.cos length ≠ 0

instance {S : Type} [RealScalar S] : RootScalar S where
  sqrt_mul_sqrt := RealScalar.sqrt_mul_sqrt

noncomputable instance : Scalar ℝ where
  ofInt := fun number => number
  decimal := fun digits places => digits / 10 ^ places
  sqrt := Real.sqrt
  sin := Real.sin
  cos := Real.cos
  arctan2 := fun ordinate abscissa => Complex.arg ⟨abscissa, ordinate⟩
  power := fun base exponent => base ^ exponent
  less := fun left right => decide (left < right)
  atMost := fun left right => decide (left ≤ right)
  isNumber := fun _ => true
  isFinite := fun _ => true
  ceiling := fun number => ⌈number⌉
  truncate := fun number => if number < 0 then ⌈number⌉ else ⌊number⌋
  text := fun number => toString ⌊number⌋
  brief := fun number => toString ⌊number⌋
  fixed := fun _ number => toString ⌊number⌋
  ofText? := fun text => text.toInt?.map fun number => number

noncomputable instance : ExactScalar ℝ where
  __ := (inferInstance : Scalar ℝ)
  __ := (inferInstance : Field ℝ)
  __ := (inferInstance : CharZero ℝ)
  ofInt_eq := fun _ => rfl

noncomputable instance : RealScalar ℝ where
  __ := (inferInstance : ExactScalar ℝ)
  __ := (inferInstance : LinearOrder ℝ)
  __ := (inferInstance : IsStrictOrderedRing ℝ)
  less_iff := fun _ _ => decide_eq_true_iff
  atMost_iff := fun _ _ => decide_eq_true_iff
  isNumber_eq := fun _ => rfl
  decimal_eq := fun _ _ => rfl
  sqrt_nonneg := fun number _ => Real.sqrt_nonneg number
  sqrt_mul_sqrt := fun _ => Real.mul_self_sqrt
  circle := fun angle => by
    have unit := Real.cos_sq_add_sin_sq angle
    rwa [sq, sq] at unit
  cos_ne_zero := fun length nonneg small => by
    have smallLength : (Tolerance.smallLength : ℝ) = 1 / 10 ^ 10 := by
      change ((1 : ℕ) : ℝ) / 10 ^ 10 = _
      norm_num
    have belowOne : length ≤ 1 := by
      rw [smallLength] at small
      exact small.le.trans (by norm_num)
    exact (Real.cos_pos_of_le_one (by rwa [abs_of_nonneg nonneg])).ne'

namespace Scalar

variable {S : Type} [RealScalar S]

theorem less_eq (left right : S) : less left right = decide (left < right) := by
  rw [Bool.eq_iff_iff, RealScalar.less_iff, decide_eq_true_iff]

theorem atMost_eq (left right : S) : atMost left right = decide (left ≤ right) := by
  rw [Bool.eq_iff_iff, RealScalar.atMost_iff, decide_eq_true_iff]

theorem maximum_eq (left right : S) : maximum left right = max left right := by
  simp only [maximum, RealScalar.isNumber_eq, less_eq, decide_eq_true_eq, Bool.not_true,
    Bool.false_eq_true, if_false]
  split
  · rename_i smaller
    exact (max_eq_right smaller.le).symm
  · rename_i larger
    exact (max_eq_left (not_lt.mp larger)).symm

theorem minimum_eq (left right : S) : minimum left right = min left right := by
  simp only [minimum, RealScalar.isNumber_eq, less_eq, decide_eq_true_eq, Bool.not_true,
    Bool.false_eq_true, if_false]
  split
  · rename_i smaller
    exact (min_eq_right smaller.le).symm
  · rename_i larger
    exact (min_eq_left (not_lt.mp larger)).symm

theorem abs_eq (number : S) : abs number = |number| := by
  rw [abs, less_eq, zero_eq]
  rcases lt_or_ge number 0 with negative | nonneg
  · rw [if_pos (decide_eq_true negative), abs_of_neg negative]
  · rw [if_neg (by simpa using nonneg), abs_of_nonneg nonneg]

theorem firstSmallest_le {numbers : List S} (some : numbers ≠ []) :
    ∃ inside : firstSmallest numbers < numbers.length,
      ∀ other ∈ numbers, numbers[firstSmallest numbers] ≤ other := by
  obtain ⟨least, member, below⟩ :=
    numbers.toFinset.exists_min_image id (List.toFinset_nonempty_iff numbers |>.mpr some)
  simp only [List.mem_toFinset, id_eq] at member below
  have all : numbers.findIdx? (fun number => !Scalar.isNumber number) = none := by
    simp [RealScalar.isNumber_eq]
  have position : firstSmallest numbers =
      numbers.findIdx fun number => numbers.all (atMost number ·) := by rw [firstSmallest, all]
  have inside : (numbers.findIdx fun number => numbers.all (atMost number ·)) < numbers.length := by
    refine List.findIdx_lt_length.mpr ⟨least, member, ?_⟩
    simpa [atMost_eq] using below
  rw [position]
  refine ⟨inside, ?_⟩
  have found := List.findIdx_getElem (w := inside)
  simpa [atMost_eq] using found

end Scalar

namespace Tolerance

variable {S : Type} [RealScalar S]

theorem smallLength_pos : 0 < (smallLength : S) := by
  rw [smallLength, RealScalar.decimal_eq]
  positivity

theorem antipodal_pos : 0 < (antipodal : S) := by
  rw [antipodal, RealScalar.decimal_eq]
  positivity

end Tolerance

end ProximalSplitting

import ProximalSplitting.Proofs.Exact.Flat
import ProximalSplitting.Proofs.Effects.Outcomes

/-!
Sums of arrays of one shape, in which some extents may be zero. An array without entries does not
show all of its shape, but arrays of one shape show the same, and that is all that sums need. In
particular zeros add up to zeros.
-/

namespace ProximalSplitting

open Compute

namespace Tensor

variable {S : Type} {shape : List Nat} {tensor left right : Tensor S}

theorem gives_combine_of_hasShape [Scalar S] (operation : S → S → S)
    (leftShaped : left.hasShape shape = true) (rightShaped : right.hasShape shape = true) :
    (combine operation left right).Gives (zipWith operation left right) :=
  gives_combine_of_shape operation (shape_eq_of_hasShape leftShaped rightShaped)

variable [ExactScalar S]

theorem always_plusAll {holds : Tensor S → Prop} {tensors : List (Tensor S)}
    (shaped : ∀ tensor, holds tensor → tensor.hasShape shape = true)
    (kept : ∀ left right, holds left → holds right → holds (zipWith (· + ·) left right))
    (some : tensors ≠ []) (all : ∀ tensor ∈ tensors, holds tensor) :
    (plusAll tensors).Always holds := by
  obtain ⟨first, rest, rfl⟩ := List.exists_cons_of_ne_nil some
  have isFirst := all first List.mem_cons_self
  rw [plusAll, List.foldlM_cons, Scalar.zero_eq]
  refine (gives_zero_plus (shaped first isFirst)).bind_ensures ?_
  refine ensures_foldlM (fun next member sum isSum => ?_) isFirst
  have isNext := all next (List.mem_cons_of_mem first member)
  exact (gives_combine_of_hasShape _ (shaped sum isSum) (shaped next isNext)).ensures
    (kept sum next isSum isNext)

section Zeros

variable (shaped : tensor.hasShape shape = true)
include shaped

omit [ExactScalar S] in
theorem hasShape_zerosLike [Scalar S] : tensor.zerosLike.hasShape shape = true := by
  rwa [zerosLike, hasShape_map]

omit shaped in
theorem coordinates_zerosLike (tensor : Tensor S) : tensor.zerosLike.coordinates = 0 := by
  rw [zerosLike, coordinates_map Scalar.zero_eq, Scalar.zero_eq]
  rfl

theorem eq_zerosLike {other : Tensor S} (otherShaped : other.hasShape shape = true)
    (zero : other.coordinates = 0) : other = tensor.zerosLike :=
  eq_of_coordinates otherShaped (hasShape_zerosLike shaped)
    (zero.trans (coordinates_zerosLike tensor).symm)

theorem divide_zerosLike (divisor : S) : tensor.zerosLike.divide divisor = tensor.zerosLike := by
  refine eq_zerosLike shaped (by simpa using hasShape_zerosLike shaped) ?_
  rw [coordinates_divide, coordinates_zerosLike, smul_zero]

theorem gives_plusAll_zeros {copies : Nat} (some : 0 < copies) :
    (plusAll (List.replicate copies tensor.zerosLike)).Gives tensor.zerosLike := by
  have present : List.replicate copies tensor.zerosLike ≠ [] := by
    rw [ne_eq, List.replicate_eq_nil_iff]
    omega
  have sum : (plusAll (List.replicate copies tensor.zerosLike)).Always
      fun total => total = tensor.zerosLike := by
    have zeros := hasShape_zerosLike shaped
    have zerosShaped : ∀ total, total = tensor.zerosLike → total.hasShape shape = true := by
      rintro _ rfl
      exact zeros
    refine always_plusAll zerosShaped ?_ present fun _ => List.eq_of_mem_replicate
    rintro _ _ rfl rfl
    refine eq_zerosLike shaped (hasShape_zipWith zeros zeros _) ?_
    rw [coordinates_add zeros zeros, coordinates_zerosLike, add_zero]
  intro journal
  obtain ⟨_, after, ran, rfl⟩ := sum.run journal
  exact ⟨after, ran⟩

end Zeros

end Tensor

end ProximalSplitting

import Mathlib.Algebra.BigOperators.Fin
import Mathlib.Data.Matrix.Mul
import ProximalSplitting.Proofs.Exact.Flat
import ProximalSplitting.Proofs.Exact.Real

/-!
Points with one axis as vectors. The arithmetic of such points is that of their vectors, and a point
divided by its own length has length one.
-/

namespace ProximalSplitting

open Compute

namespace Tensor

section Vectors

variable {S : Type} [ExactScalar S] {extent : Nat} {left right point : Point S}

def vector (extent : Nat) (point : Point S) : Fin extent → S :=
  fun position => point.coordinates position

def ofVector (values : Fin extent → S) : Point S :=
  stack (List.ofFn fun position => scalar (values position))

omit [ExactScalar S] in
theorem hasShape_ofVector (values : Fin extent → S) : (ofVector values).hasShape [extent] = true := by
  rw [ofVector, hasShape, List.length_ofFn, decide_eq_true rfl, Bool.true_and, allHaveShape_iff]
  intro slice member
  obtain ⟨position, rfl⟩ := List.mem_ofFn.mp member
  rfl

omit [ExactScalar S] in
theorem entries_ofVector (values : Fin extent → S) :
    (ofVector values).entries = List.ofFn values := by
  rw [ofVector, entries]
  induction extent with
  | zero => rfl
  | succ extent ih =>
      rw [List.ofFn_succ, List.ofFn_succ, entriesOfAll, ih fun position => values position.succ]
      rfl

@[simp]
theorem vector_ofVector (values : Fin extent → S) : (ofVector values).vector extent = values := by
  funext position
  simp [vector, coordinates, entries_ofVector]

omit [ExactScalar S] in
theorem count_of_hasShape (shaped : point.hasShape [extent] = true) :
    point.entries.length = extent := by
  rw [length_entries point [extent] shaped, List.prod_singleton]

theorem entries_eq_of_count (counted : point.entries.length = extent) :
    point.entries = List.ofFn (point.vector extent) := by
  refine List.ext_getElem (by simp [counted]) fun position inside _ => ?_
  simp [vector, coordinates, inside]

theorem entries_eq_ofFn (shaped : point.hasShape [extent] = true) :
    point.entries = List.ofFn (point.vector extent) :=
  entries_eq_of_count (count_of_hasShape shaped)

theorem sum_eq_of_count (counted : point.entries.length = extent) :
    point.sum = ∑ position, point.vector extent position := by
  rw [sum, entries_eq_of_count counted, Scalar.total, Scalar.zero_eq, ← List.sum_eq_foldl,
    List.sum_ofFn]

theorem sum_eq (shaped : point.hasShape [extent] = true) :
    point.sum = ∑ position, point.vector extent position :=
  sum_eq_of_count (count_of_hasShape shaped)

@[simp]
theorem vector_scale (factor : S) (point : Point S) :
    (point.scale factor).vector extent = factor • point.vector extent :=
  funext fun position => congrFun (coordinates_scale factor point) position

@[simp]
theorem vector_negate (point : Point S) :
    point.negate.vector extent = - point.vector extent :=
  funext fun position => congrFun (coordinates_negate point) position

@[simp]
theorem vector_divide (point : Point S) (divisor : S) :
    (point.divide divisor).vector extent = divisor⁻¹ • point.vector extent :=
  funext fun position => congrFun (coordinates_divide point divisor) position

section Pairs

variable {shape : List Nat} (leftShaped : left.hasShape shape = true)
  (rightShaped : right.hasShape shape = true)
include leftShaped rightShaped

theorem eq_of_vector_of_count (counted : shape.prod = extent)
    (same : left.vector extent = right.vector extent) : left = right := by
  subst counted
  refine eq_of_entries left right shape leftShaped rightShaped ?_
  rw [entries_eq_of_count (length_entries left shape leftShaped),
    entries_eq_of_count (length_entries right shape rightShaped), same]

omit leftShaped rightShaped in
theorem eq_of_vector (leftShaped : left.hasShape [extent] = true)
    (rightShaped : right.hasShape [extent] = true)
    (same : left.vector extent = right.vector extent) : left = right :=
  eq_of_vector_of_count leftShaped rightShaped List.prod_singleton same

theorem vector_add :
    (zipWith (· + ·) left right).vector extent = left.vector extent + right.vector extent :=
  funext fun position => congrFun (coordinates_add leftShaped rightShaped) position

theorem vector_sub :
    (zipWith (· - ·) left right).vector extent = left.vector extent - right.vector extent :=
  funext fun position => congrFun (coordinates_sub leftShaped rightShaped) position

theorem vector_times :
    (zipWith (· * ·) left right).vector extent =
      fun position => left.vector extent position * right.vector extent position :=
  funext fun position =>
    congrFun (coordinates_zipWith (mul_zero (0 : S)) leftShaped rightShaped) position

end Pairs

section Arithmetic

variable (several : 0 < extent)
include several

omit [ExactScalar S] in
theorem gives_combine_vectors (leftShaped : left.hasShape [extent] = true)
    (rightShaped : right.hasShape [extent] = true) (operation : S → S → S) :
    (combine operation left right).Gives (zipWith operation left right) :=
  gives_combine (by simpa using several) operation leftShaped rightShaped

theorem gives_dot (leftShaped : left.hasShape [extent] = true)
    (rightShaped : right.hasShape [extent] = true) :
    (left.dot right).Gives (left.vector extent ⬝ᵥ right.vector extent) := by
  have sum : (zipWith (· * ·) left right).sum = left.vector extent ⬝ᵥ right.vector extent := by
    rw [sum_eq (hasShape_zipWith leftShaped rightShaped _), vector_times leftShaped rightShaped]
    rfl
  rw [← sum]
  exact (gives_combine_vectors several leftShaped rightShaped _).bind (gives_pure _)

omit [ExactScalar S] in
theorem rowSums_eq [Scalar S] (shaped : point.hasShape [extent] = true) :
    point.rowSums = stack [scalar point.sum] := by
  have ranked : point.rank = 1 := rank_of_hasShape (by simpa using several) shaped
  cases point with
  | scalar _ => cases ranked
  | stack slices =>
      rw [rowSums, if_pos ranked]
      rfl

end Arithmetic

/-- A number alone in its row is spread along the other factor. -/
theorem gives_times_of_row (several : 2 ≤ extent) (factor : S)
    (shaped : point.hasShape [extent] = true) :
    (times (stack [scalar factor]) point).Gives (point.scale factor) := by
  have positive : ∀ other ∈ [extent], 0 < other := by
    simp only [List.mem_singleton, forall_eq]
    omega
  have shape : point.shape = [extent] := shape_of_hasShape point [extent] positive shaped
  have different : ¬ (stack [scalar factor]).shape = point.shape := by
    rw [shape]
    simp only [Tensor.shape, List.length_nil, List.cons.injEq, and_true]
    omega
  have common : commonShape? (stack [scalar factor]).shape point.shape = some [extent] := by
    rw [shape]
    simp only [Tensor.shape, List.length_nil, commonShape?, List.reverse_singleton, commonExtents?]
    have unequal : ¬ (0 + 1 = extent) := by omega
    have plural : ¬ (extent = 1) := by omega
    simp [unequal, plural]
  have spreads : spread [extent] (stack [scalar factor]) =
      ofVector fun _ : Fin extent => factor := by
    rw [ofVector, List.ofFn_const]
    rfl
  have scaled : zipWith (· * ·) (ofVector fun _ : Fin extent => factor) point =
      point.scale factor := by
    have row := hasShape_ofVector fun _ : Fin extent => factor
    refine eq_of_vector (hasShape_zipWith row shaped _) (by simpa using shaped) ?_
    rw [vector_times row shaped, vector_ofVector, vector_scale]
    rfl
  rw [times, combine, combine?, if_neg different, common, Option.map_some, spreads,
    spread_self positive shaped, scaled]
  exact gives_pure _

theorem basisAt_eq (position : Fin extent) (shaped : point.hasShape [extent] = true) :
    point.basisAt position = ofVector (Pi.single position 1) := by
  have blank : point.zerosLike = ofVector fun _ : Fin extent => 0 := by
    refine eq_of_vector (by rwa [zerosLike, hasShape_map]) (hasShape_ofVector _) ?_
    rw [vector_ofVector, zerosLike, Scalar.zero_eq]
    exact funext fun other => congrFun (coordinates_map rfl point) other
  rw [basisAt, blank, ofVector, ofVector, slices, Scalar.one_eq]
  refine congrArg stack (List.ext_getElem (by simp) fun other inside _ => ?_)
  rw [List.getElem_modify, List.getElem_ofFn, List.getElem_ofFn]
  by_cases here : (position : Nat) = other
  · subst here
    simp [map]
  · rw [if_neg here, Pi.single_eq_of_ne]
    exact fun same => here (congrArg Fin.val same).symm

end Vectors

section Lengths

variable {S : Type} [RealScalar S] {extent : Nat} {point : Point S}

theorem dotProduct_self_nonneg (values : Fin extent → S) : 0 ≤ values ⬝ᵥ values :=
  Finset.sum_nonneg fun position _ => mul_self_nonneg (values position)

theorem length_eq_of_count (counted : point.entries.length = extent) :
    point.length = Scalar.sqrt (point.vector extent ⬝ᵥ point.vector extent) := by
  have squared : (point.map Scalar.square).entries.length = extent := by
    rw [entries_map, List.length_map, counted]
  have zero : Scalar.square (0 : S) = 0 := mul_zero 0
  rw [length, sum_eq_of_count squared, dotProduct]
  refine congrArg Scalar.sqrt (Finset.sum_congr rfl fun position _ => ?_)
  exact congrFun (coordinates_map zero point) position

theorem zero_le_length (point : Point S) : 0 ≤ point.length := by
  rw [length_eq_of_count rfl]
  exact RealScalar.sqrt_nonneg _ (dotProduct_self_nonneg _)

theorem length_mul_length_of_count (counted : point.entries.length = extent) :
    point.length * point.length = point.vector extent ⬝ᵥ point.vector extent := by
  rw [length_eq_of_count counted]
  exact RealScalar.sqrt_mul_sqrt _ (dotProduct_self_nonneg _)

variable (shaped : point.hasShape [extent] = true)
include shaped

theorem length_mul_length :
    point.length * point.length = point.vector extent ⬝ᵥ point.vector extent :=
  length_mul_length_of_count (count_of_hasShape shaped)

theorem length_eq_one_iff :
    point.length = 1 ↔ point.vector extent ⬝ᵥ point.vector extent = 1 := by
  rw [← length_mul_length shaped]
  constructor
  · intro unit
    rw [unit, mul_one]
  · intro squared
    rcases mul_self_eq_one_iff.mp squared with unit | negative
    · exact unit
    · have := zero_le_length point
      linarith

theorem length_ne_zero_iff :
    point.length ≠ 0 ↔ point.vector extent ⬝ᵥ point.vector extent ≠ 0 := by
  rw [← length_mul_length shaped, ne_eq, ne_eq, mul_self_eq_zero]

theorem length_normalized (long : point.length ≠ 0) :
    (point.divide point.length).length = 1 := by
  have divided : (point.divide point.length).hasShape [extent] = true := by simpa using shaped
  rw [length_eq_one_iff divided, vector_divide, smul_dotProduct, dotProduct_smul,
    ← length_mul_length shaped, smul_eq_mul, smul_eq_mul]
  field_simp

end Lengths

end Tensor

end ProximalSplitting

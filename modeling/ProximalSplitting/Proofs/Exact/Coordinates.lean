import Mathlib.Algebra.Algebra.Rat
import Mathlib.Algebra.BigOperators.Group.List.Basic
import Mathlib.Algebra.CharZero.Defs
import Mathlib.Algebra.Field.Basic
import Mathlib.Algebra.Module.Pi
import Mathlib.Data.Rat.Floor
import Mathlib.Data.Rat.Sqrt
import Mathlib.Tactic.FieldSimp
import Mathlib.Tactic.Ring
import ProximalSplitting.Tensor.Basic

/-!
Points over exact numbers as vectors. The coordinates of a point are its entries in order, followed
by zeros; points of one shape are the same if their coordinates are. Operations on entries are
operations on coordinates.

The rational numbers are exact scalars to compute with, except that roots are cut off at whole
numerators and denominators and every angle is zero.
-/

namespace ProximalSplitting

class ExactScalar (S : Type) extends Scalar S, Field S, CharZero S where
  ofInt_eq : ∀ number : Int, Scalar.ofInt number = (number : S)

instance : Scalar ℚ where
  ofInt := fun number => number
  decimal := fun digits places => digits / 10 ^ places
  sqrt := Rat.sqrt
  sin := fun _ => 0
  cos := fun _ => 1
  arctan2 := fun _ _ => 0
  power := fun base exponent => base ^ exponent.floor
  less := fun left right => left < right
  atMost := fun left right => left ≤ right
  isNumber := fun _ => true
  isFinite := fun _ => true
  ceiling := Rat.ceil
  truncate := fun number => number.num.tdiv number.den
  text := toString
  brief := toString
  fixed := fun _ => toString
  ofText? := fun text => text.toInt?.map fun number => number

instance : ExactScalar ℚ where
  __ := (inferInstance : Scalar ℚ)
  __ := (inferInstance : Field ℚ)
  __ := (inferInstance : CharZero ℚ)
  ofInt_eq := fun _ => rfl

namespace Scalar

variable {S : Type} [ExactScalar S]

@[simp]
theorem zero_eq : (Scalar.zero : S) = 0 := by simp [Scalar.zero, ExactScalar.ofInt_eq]

@[simp]
theorem one_eq : (Scalar.one : S) = 1 := by simp [Scalar.one, ExactScalar.ofInt_eq]

end Scalar

namespace Tensor

section Shapes

variable {S : Type} {shape : List Nat}

mutual

theorem length_entries : ∀ (tensor : Tensor S) (shape : List Nat), tensor.hasShape shape = true →
    tensor.entries.length = shape.prod
  | scalar value, [], _ => rfl
  | scalar value, _ :: _, absurdity => by simp [hasShape] at absurdity
  | stack slices, [], absurdity => by simp [hasShape] at absurdity
  | stack slices, extent :: inner, shaped => by
      simp only [hasShape, Bool.and_eq_true, decide_eq_true_eq] at shaped
      rw [entries, length_entriesOfAll slices inner shaped.2, shaped.1, List.prod_cons]

theorem length_entriesOfAll : ∀ (slices : List (Tensor S)) (inner : List Nat),
    allHaveShape slices inner = true → (entriesOfAll slices).length = slices.length * inner.prod
  | [], inner, _ => by simp [entriesOfAll]
  | first :: rest, inner, shaped => by
      simp only [allHaveShape, Bool.and_eq_true] at shaped
      rw [entriesOfAll, List.length_append, length_entries first inner shaped.1,
        length_entriesOfAll rest inner shaped.2, List.length_cons]
      ring

end

mutual

theorem entries_map (change : S → S) : ∀ tensor : Tensor S,
    (tensor.map change).entries = tensor.entries.map change
  | scalar value => rfl
  | stack slices => by rw [map, entries, entries, entriesOfAll_map change slices]

theorem entriesOfAll_map (change : S → S) : ∀ slices : List (Tensor S),
    entriesOfAll (mapAll change slices) = (entriesOfAll slices).map change
  | [] => rfl
  | first :: rest => by
      rw [mapAll, entriesOfAll, entriesOfAll, entries_map change first,
        entriesOfAll_map change rest, List.map_append]

end

theorem mapAll_eq_map (change : S → S) (slices : List (Tensor S)) :
    mapAll change slices = slices.map (map change) := by
  induction slices with
  | nil => rfl
  | cons first rest ih => rw [mapAll, ih, List.map_cons]

mutual

theorem hasShape_map (change : S → S) : ∀ (tensor : Tensor S) (shape : List Nat),
    (tensor.map change).hasShape shape = tensor.hasShape shape
  | scalar value, [] => rfl
  | scalar value, _ :: _ => rfl
  | stack slices, [] => rfl
  | stack slices, extent :: inner => by
      rw [map, hasShape, hasShape, allHaveShape_mapAll change slices inner, mapAll_eq_map,
        List.length_map]

theorem allHaveShape_mapAll (change : S → S) : ∀ (slices : List (Tensor S)) (inner : List Nat),
    allHaveShape (mapAll change slices) inner = allHaveShape slices inner
  | [], inner => rfl
  | first :: rest, inner => by
      rw [mapAll, allHaveShape, allHaveShape, hasShape_map change first,
        allHaveShape_mapAll change rest]

end

mutual

theorem entries_zipWith (combine : S → S → S) : ∀ (left right : Tensor S) (shape : List Nat),
    left.hasShape shape = true → right.hasShape shape = true →
    (zipWith combine left right).hasShape shape = true ∧
      (zipWith combine left right).entries = List.zipWith combine left.entries right.entries
  | scalar left, scalar right, [], _, _ => ⟨rfl, rfl⟩
  | scalar _, _, _ :: _, absurdity, _ => by simp [hasShape] at absurdity
  | _, scalar _, _ :: _, _, absurdity => by simp [hasShape] at absurdity
  | stack _, _, [], absurdity, _ => by simp [hasShape] at absurdity
  | _, stack _, [], _, absurdity => by simp [hasShape] at absurdity
  | stack lefts, stack rights, extent :: inner, leftShaped, rightShaped => by
      simp only [hasShape, Bool.and_eq_true, decide_eq_true_eq] at leftShaped rightShaped
      obtain ⟨length, shaped, zipped⟩ := entries_zipAll combine lefts rights inner
        (leftShaped.1.trans rightShaped.1.symm) leftShaped.2 rightShaped.2
      rw [zipWith, hasShape, entries, entries, entries, length, zipped, shaped, leftShaped.1]
      simp

theorem entries_zipAll (combine : S → S → S) : ∀ (lefts rights : List (Tensor S))
    (inner : List Nat), lefts.length = rights.length → allHaveShape lefts inner = true →
    allHaveShape rights inner = true →
    (zipAll combine lefts rights).length = lefts.length ∧
      allHaveShape (zipAll combine lefts rights) inner = true ∧
      entriesOfAll (zipAll combine lefts rights) =
        List.zipWith combine (entriesOfAll lefts) (entriesOfAll rights)
  | [], [], inner, _, _, _ => ⟨rfl, rfl, rfl⟩
  | [], _ :: _, _, absurdity, _, _ => by simp at absurdity
  | _ :: _, [], _, absurdity, _, _ => by simp at absurdity
  | left :: lefts, right :: rights, inner, length, leftShaped, rightShaped => by
      simp only [allHaveShape, Bool.and_eq_true] at leftShaped rightShaped
      obtain ⟨shaped, zipped⟩ :=
        entries_zipWith combine left right inner leftShaped.1 rightShaped.1
      obtain ⟨restLength, restShaped, restZipped⟩ := entries_zipAll combine lefts rights inner
        (by simpa using length) leftShaped.2 rightShaped.2
      have sameLength : left.entries.length = right.entries.length := by
        rw [length_entries left inner leftShaped.1, length_entries right inner rightShaped.1]
      rw [zipAll, entriesOfAll, entriesOfAll, entriesOfAll, zipped, restZipped, allHaveShape,
        shaped, restShaped, List.zipWith_append sameLength, List.length_cons, restLength]
      simp

end

theorem hasShape_zipWith {left right : Tensor S} (leftShaped : left.hasShape shape = true)
    (rightShaped : right.hasShape shape = true) (combine : S → S → S) :
    (zipWith combine left right).hasShape shape = true :=
  (entries_zipWith combine left right shape leftShaped rightShaped).1

mutual

theorem shape_of_hasShape : ∀ (tensor : Tensor S) (shape : List Nat), (∀ extent ∈ shape, 0 < extent) →
    tensor.hasShape shape = true → tensor.shape = shape
  | scalar _, [], _, _ => rfl
  | scalar _, _ :: _, _, absurdity => by simp [hasShape] at absurdity
  | stack _, [], _, absurdity => by simp [hasShape] at absurdity
  | stack [], extent :: inner, positive, shaped => by
      have := positive extent List.mem_cons_self
      simp only [hasShape, Bool.and_eq_true, decide_eq_true_eq, List.length_nil] at shaped
      omega
  | stack (first :: rest), extent :: inner, positive, shaped => by
      simp only [hasShape, allHaveShape, Bool.and_eq_true, decide_eq_true_eq,
        List.length_cons] at shaped
      rw [Tensor.shape, shaped.1, shape_of_hasShape first inner
        (fun other member => positive other (List.mem_cons_of_mem extent member)) shaped.2.1]

end

mutual

theorem eq_of_entries : ∀ (left right : Tensor S) (shape : List Nat), left.hasShape shape = true →
    right.hasShape shape = true → left.entries = right.entries → left = right
  | scalar _, scalar _, [], _, _, same => by
      simp only [entries, List.cons.injEq, and_true] at same
      rw [same]
  | scalar _, _, _ :: _, absurdity, _, _ => by simp [hasShape] at absurdity
  | _, scalar _, _ :: _, _, absurdity, _ => by simp [hasShape] at absurdity
  | stack _, _, [], absurdity, _, _ => by simp [hasShape] at absurdity
  | _, stack _, [], _, absurdity, _ => by simp [hasShape] at absurdity
  | stack lefts, stack rights, extent :: inner, leftShaped, rightShaped, same => by
      simp only [hasShape, Bool.and_eq_true, decide_eq_true_eq] at leftShaped rightShaped
      rw [entries, entries] at same
      rw [eq_of_entriesOfAll lefts rights inner (leftShaped.1.trans rightShaped.1.symm)
        leftShaped.2 rightShaped.2 same]

theorem eq_of_entriesOfAll : ∀ (lefts rights : List (Tensor S)) (inner : List Nat),
    lefts.length = rights.length → allHaveShape lefts inner = true →
    allHaveShape rights inner = true → entriesOfAll lefts = entriesOfAll rights → lefts = rights
  | [], [], _, _, _, _, _ => rfl
  | [], _ :: _, _, absurdity, _, _, _ => by simp at absurdity
  | _ :: _, [], _, absurdity, _, _, _ => by simp at absurdity
  | left :: lefts, right :: rights, inner, length, leftShaped, rightShaped, same => by
      simp only [allHaveShape, Bool.and_eq_true] at leftShaped rightShaped
      rw [entriesOfAll, entriesOfAll] at same
      obtain ⟨sameFirst, sameRest⟩ := List.append_inj same (by
        rw [length_entries left inner leftShaped.1, length_entries right inner rightShaped.1])
      rw [eq_of_entries left right inner leftShaped.1 rightShaped.1 sameFirst,
        eq_of_entriesOfAll lefts rights inner (by simpa using length) leftShaped.2 rightShaped.2
          sameRest]

end

theorem allHaveShape_iff {slices : List (Tensor S)} {inner : List Nat} :
    allHaveShape slices inner = true ↔ ∀ slice ∈ slices, slice.hasShape inner = true := by
  induction slices with
  | nil => simp [allHaveShape]
  | cons first rest ih => simp [allHaveShape, ih]

/-- Arrays of one shape show the same extents, also where an extent is zero. -/
theorem shape_eq_of_hasShape {left right : Tensor S} (leftShaped : left.hasShape shape = true)
    (rightShaped : right.hasShape shape = true) : left.shape = right.shape := by
  induction shape generalizing left right with
  | nil =>
      cases left with
      | stack _ => simp [hasShape] at leftShaped
      | scalar _ =>
          cases right with
          | stack _ => simp [hasShape] at rightShaped
          | scalar _ => rfl
  | cons extent inner ih =>
      cases left with
      | scalar _ => simp [hasShape] at leftShaped
      | stack lefts =>
          cases right with
          | scalar _ => simp [hasShape] at rightShaped
          | stack rights =>
              simp only [hasShape, Bool.and_eq_true, decide_eq_true_eq] at leftShaped rightShaped
              have sameLength := leftShaped.1.trans rightShaped.1.symm
              match lefts, rights with
              | [], [] => rfl
              | [], _ :: _ => simp at sameLength
              | _ :: _, [] => simp at sameLength
              | first :: _, other :: _ =>
                  simp only [allHaveShape, Bool.and_eq_true] at leftShaped rightShaped
                  rw [Tensor.shape, Tensor.shape, ih leftShaped.2.1 rightShaped.2.1]
                  simpa using sameLength

theorem rank_eq_length_shape : ∀ tensor : Tensor S, tensor.rank = tensor.shape.length
  | scalar _ => rfl
  | stack [] => rfl
  | stack (first :: rest) => by
      rw [rank, Tensor.shape, List.length_cons, rank_eq_length_shape first]

theorem rank_of_hasShape {tensor : Tensor S} (positive : ∀ extent ∈ shape, 0 < extent)
    (shaped : tensor.hasShape shape = true) : tensor.rank = shape.length := by
  rw [rank_eq_length_shape, shape_of_hasShape tensor shape positive shaped]

theorem hasShape_shape {tensor : Tensor S} (shaped : tensor.hasShape shape = true) :
    tensor.hasShape tensor.shape = true := by
  induction shape generalizing tensor with
  | nil =>
      match tensor, shaped with
      | scalar _, _ => rfl
  | cons extent inner ih =>
      match tensor, shaped with
      | stack [], _ => rfl
      | stack (first :: rest), shaped =>
          simp only [hasShape, Bool.and_eq_true, allHaveShape_iff] at shaped
          rw [Tensor.shape, hasShape, List.length_cons, decide_eq_true rfl, Bool.true_and,
            allHaveShape_iff]
          intro slice member
          rw [shape_eq_of_hasShape (shaped.2 first List.mem_cons_self) (shaped.2 slice member)]
          exact ih (shaped.2 slice member)

theorem spread_shape {tensor : Tensor S} (shaped : tensor.hasShape shape = true) :
    spread tensor.shape tensor = tensor := by
  induction shape generalizing tensor with
  | nil =>
      match tensor, shaped with
      | scalar _, _ => rfl
  | cons extent inner ih =>
      match tensor, shaped with
      | stack [], _ => rfl
      | stack (first :: rest), shaped =>
          simp only [hasShape, Bool.and_eq_true, allHaveShape_iff] at shaped
          have deeper : ¬ (stack (first :: rest)).rank ≤ first.shape.length := by
            rw [rank, rank_eq_length_shape first]
            omega
          have each : ∀ slice ∈ first :: rest, spread first.shape slice = slice := by
            intro slice member
            rw [shape_eq_of_hasShape (shaped.2 first List.mem_cons_self) (shaped.2 slice member)]
            exact ih (shaped.2 slice member)
          cases rest with
          | nil =>
              rw [Tensor.shape, spread, if_neg deeper, each first List.mem_cons_self]
              rfl
          | cons second others =>
              rw [Tensor.shape, spread, if_neg deeper]
              · rw [List.map_congr_left each, List.map_id']
              · intro only absurdity
                cases absurdity

theorem spread_self {tensor : Tensor S} (positive : ∀ extent ∈ shape, 0 < extent)
    (shaped : tensor.hasShape shape = true) : spread shape tensor = tensor := by
  have shown := spread_shape shaped
  rwa [shape_of_hasShape tensor shape positive shaped] at shown

theorem spread_scalar (value : S) : spread shape (scalar value) = constant value shape := by
  induction shape with
  | nil => rfl
  | cons extent inner ih => rw [spread, if_pos (by simp [rank]), ih, constant]

theorem hasShape_constant (value : S) : (constant value shape).hasShape shape = true := by
  induction shape with
  | nil => rfl
  | cons extent inner ih =>
      simp only [constant, hasShape, List.length_replicate, decide_true, Bool.true_and]
      exact allHaveShape_iff.mpr fun slice member => by rw [List.eq_of_mem_replicate member, ih]

end Shapes

section Coordinates

variable {S : Type} [ExactScalar S] {left right : Tensor S} {shape : List Nat}

def coordinates (tensor : Tensor S) (position : Nat) : S := tensor.entries.getD position 0

theorem eq_of_coordinates (leftShaped : left.hasShape shape = true)
    (rightShaped : right.hasShape shape = true) (same : left.coordinates = right.coordinates) :
    left = right := by
  refine eq_of_entries left right shape leftShaped rightShaped (List.ext_getElem ?_ ?_)
  · rw [length_entries left shape leftShaped, length_entries right shape rightShaped]
  · intro position before beforeToo
    have here := congrFun same position
    simpa [coordinates, before, beforeToo] using here

theorem coordinates_map {change : S → S} (zero : change 0 = 0) (tensor : Tensor S) :
    (tensor.map change).coordinates = fun position => change (tensor.coordinates position) := by
  funext position
  by_cases inside : position < tensor.entries.length
  · simp [coordinates, entries_map, inside]
  · simp [coordinates, entries_map, inside, zero]

theorem coordinates_zipWith {combine : S → S → S} (zero : combine 0 0 = 0)
    (leftShaped : left.hasShape shape = true) (rightShaped : right.hasShape shape = true) :
    (zipWith combine left right).coordinates = fun position =>
      combine (left.coordinates position) (right.coordinates position) := by
  obtain ⟨_, zipped⟩ := entries_zipWith combine left right shape leftShaped rightShaped
  have sameLength : left.entries.length = right.entries.length := by
    rw [length_entries left shape leftShaped, length_entries right shape rightShaped]
  funext position
  by_cases inside : position < left.entries.length
  · have insideToo : position < right.entries.length := sameLength ▸ inside
    simp [coordinates, zipped, inside, insideToo]
  · have outsideToo : ¬ position < right.entries.length := sameLength ▸ inside
    simp [coordinates, zipped, inside, outsideToo, zero]

@[simp]
theorem hasShape_scale (factor : S) (tensor : Tensor S) :
    (tensor.scale factor).hasShape shape = tensor.hasShape shape := hasShape_map _ tensor shape

@[simp]
theorem hasShape_negate (tensor : Tensor S) :
    tensor.negate.hasShape shape = tensor.hasShape shape := hasShape_map _ tensor shape

@[simp]
theorem hasShape_divide (tensor : Tensor S) (divisor : S) :
    (tensor.divide divisor).hasShape shape = tensor.hasShape shape := hasShape_map _ tensor shape

@[simp]
theorem coordinates_scale (factor : S) (tensor : Tensor S) :
    (tensor.scale factor).coordinates = factor • tensor.coordinates :=
  coordinates_map (mul_zero factor) tensor

@[simp]
theorem coordinates_negate (tensor : Tensor S) :
    tensor.negate.coordinates = - tensor.coordinates :=
  coordinates_map neg_zero tensor

@[simp]
theorem coordinates_divide (tensor : Tensor S) (divisor : S) :
    (tensor.divide divisor).coordinates = divisor⁻¹ • tensor.coordinates := by
  refine (coordinates_map (zero_div divisor) tensor).trans (funext fun position => ?_)
  rw [Pi.smul_apply, smul_eq_mul, div_eq_inv_mul]

theorem coordinates_add (leftShaped : left.hasShape shape = true)
    (rightShaped : right.hasShape shape = true) :
    (zipWith (· + ·) left right).coordinates = left.coordinates + right.coordinates :=
  coordinates_zipWith (add_zero 0) leftShaped rightShaped

theorem coordinates_sub (leftShaped : left.hasShape shape = true)
    (rightShaped : right.hasShape shape = true) :
    (zipWith (· - ·) left right).coordinates = left.coordinates - right.coordinates :=
  coordinates_zipWith (sub_zero 0) leftShaped rightShaped

end Coordinates

end Tensor

end ProximalSplitting

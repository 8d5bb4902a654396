import Mathlib.Algebra.BigOperators.Group.List.Basic
import Mathlib.Data.List.Induction
import ProximalSplitting.Proofs.Exact.Flat

/-!
Building Euclidean spaces and powers of powers from numbers.
-/

namespace ProximalSplitting

namespace Manifold

variable {S : Type} {shape : List Nat}

/-- The power of the power and so on of a manifold, the last number of copies taken first. -/
def powersOf [Scalar S] (strictness : Strictness) (base : Manifold S) (copies : List Nat) :
    Except (Fault S) (Manifold S) :=
  copies.foldrM
    (fun (count : Nat) manifold => powerOf strictness (.inl manifold) (.integer count)) base

def euclideanOn [Scalar S] (strictness : Strictness) (shape : List Nat) :
    Except (Fault S) (Manifold S) :=
  euclideanOf strictness (shape.map fun (extent : Nat) => .integer extent)

variable [Scalar S] {strictness : Strictness}

theorem forM_requirePositive (fault : Fault S) (positive : ∀ extent ∈ shape, 0 < extent) :
    (shape.map fun (extent : Nat) => (.integer extent : Value S)).forM (requirePositive fault) =
      .ok () := by
  induction shape with
  | nil => rfl
  | cons first rest ih =>
      have firstPositive := positive first List.mem_cons_self
      rw [List.map_cons, List.forM, requirePositive_integer, if_neg (by omega)]
      exact ih fun extent member => positive extent (List.mem_cons_of_mem first member)

theorem product_integers :
    product (shape.map fun (extent : Nat) => (.integer extent : Value S)) =
      .integer shape.prod := by
  induction shape using List.reverseRecOn with
  | nil => rfl
  | append_singleton before last ih =>
      rw [product] at ih
      rw [product, List.map_append, List.foldl_append, ih, List.prod_append]
      simp [Value.integer?]

/-- Up to what it shows of itself, the space that is built is the flat one of the shape. -/
theorem euclideanOn_eq (positive : ∀ extent ∈ shape, 0 < extent) :
    ∃ name facts, euclideanOn strictness shape = .ok (.ofGeometry
      { (euclidean shape : Geometry S) with
        name := name, facts := facts, dimension := pure (.integer shape.prod) }) := by
  have integers : (shape.map fun (extent : Nat) => (.integer extent : Value S)).any
      (fun extent => extent.integer?.isNone) = false := by
    simp [Value.integer?]
  have extents : (shape.map fun (extent : Nat) => (.integer extent : Value S)).map extent? =
      shape.map some := by
    simp [extent?, Value.integer?]
  have given : (shape.map some).map (fun extent => extent.getD 0) = shape := by simp
  have all : (shape.map some).all Option.isSome = true := by simp
  rw [euclideanOn, euclideanOf, integers, Bool.and_false, if_neg Bool.false_ne_true,
    forM_requirePositive _ positive, extents, product_integers]
  simp only [given, all, if_true]
  exact ⟨_, _, rfl⟩

theorem powerOf_integer (base : Manifold S) (copies : Nat) :
    powerOf strictness (.inl base) (.integer copies) =
      if copies = 0 then .error (.tooFewCopies (.integer copies))
      else .ok (.power base copies (.integer copies)) := by
  have integer : (.integer copies : Value S).integer?.isNone = false := rfl
  rw [powerOf, integer, Bool.and_false, if_neg Bool.false_ne_true]
  change (requirePositive _ _ >>= _) = _
  rw [requirePositive_integer]
  by_cases none : copies = 0
  · rw [if_pos (by omega), if_pos none]
    rfl
  · rw [if_neg (by omega), if_neg none]
    rfl

end Manifold

end ProximalSplitting

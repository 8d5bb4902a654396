import ProximalSplitting.Proofs.Exact.Flat
import ProximalSplitting.Proofs.Exact.Real

/-!
Arrays by their slices. Changing, combining, summing and validating an array does so with its
slices, which are the components of a point of a power.
-/

namespace ProximalSplitting

open Compute Tensor

variable {S : Type} {inner : List Nat} {copies : Nat}

namespace Tensor

theorem zipAll_map {item : Type} (combine : S → S → S) (lefts rights : item → Tensor S)
    (items : List item) :
    zipAll combine (items.map lefts) (items.map rights) =
      items.map fun next => zipWith combine (lefts next) (rights next) := by
  induction items with
  | nil => rfl
  | cons first rest ih => simp only [List.map_cons, zipAll, ih]

section Sums

variable [ExactScalar S]

theorem sum_eq_sum_entries (tensor : Tensor S) : tensor.sum = tensor.entries.sum := by
  rw [Tensor.sum, Scalar.total, Scalar.zero_eq, ← List.sum_eq_foldl]

theorem sum_stack (slices : List (Tensor S)) :
    (stack slices).sum = (slices.map Tensor.sum).sum := by
  rw [sum_eq_sum_entries, entries]
  induction slices with
  | nil => rfl
  | cons first rest ih =>
      rw [entriesOfAll, List.sum_append, ih, List.map_cons, List.sum_cons, sum_eq_sum_entries]

end Sums

theorem sum_square_nonneg [RootScalar S] (tensor : Tensor S) :
    0 ≤ (tensor.map Scalar.square).sum := by
  rw [sum_eq_sum_entries, entries_map]
  refine List.sum_nonneg fun number member => ?_
  obtain ⟨entry, _, rfl⟩ := List.mem_map.mp member
  exact mul_self_nonneg entry

theorem isFinite_stack [Scalar S] (slices : List (Tensor S)) :
    (stack slices).isFinite = slices.all Tensor.isFinite := by
  rw [isFinite, entries]
  induction slices with
  | nil => rfl
  | cons first rest ih => rw [entriesOfAll, List.all_append, ih, List.all_cons, isFinite]

theorem length_of_shape_stack {slices : List (Tensor S)}
    (shown : (stack slices).shape = copies :: inner) : slices.length = copies := by
  cases slices with
  | nil =>
      rw [Tensor.shape, List.cons.injEq] at shown
      exact shown.1
  | cons first rest =>
      rw [Tensor.shape, List.cons.injEq] at shown
      exact shown.1

theorem decide_shape_stack [Scalar S] {slices : List (Tensor S)} {any : List Nat}
    (counted : slices.length = copies) (some : 0 < copies)
    (shaped : (stack slices).hasShape any = true) :
    (decide ((stack slices).shape = copies :: inner) && (stack slices).isFinite) =
      slices.all fun slice => decide (slice.shape = inner) && slice.isFinite := by
  cases any with
  | nil => simp [hasShape] at shaped
  | cons extent deeper =>
      simp only [hasShape, Bool.and_eq_true, allHaveShape_iff] at shaped
      cases slices with
      | nil => simp [← counted] at some
      | cons first rest =>
          have same : ∀ slice ∈ first :: rest, slice.shape = first.shape := fun slice member =>
            shape_eq_of_hasShape (shaped.2 slice member) (shaped.2 first List.mem_cons_self)
          have outer :
              ((stack (first :: rest)).shape = copies :: inner) = (first.shape = inner) := by
            rw [← counted, Tensor.shape, List.length_cons, List.cons.injEq, eq_self, true_and]
          rw [isFinite_stack, Bool.eq_iff_iff]
          simp only [outer, Bool.and_eq_true, decide_eq_true_eq, List.all_eq_true]
          constructor
          · rintro ⟨right, finite⟩ slice member
            exact ⟨(same slice member).trans right, finite slice member⟩
          · intro all
            exact ⟨(all first List.mem_cons_self).1, fun slice member => (all slice member).2⟩

end Tensor

namespace Power

theorem map_point (change : S → S) (component : Nat → Point S) :
    (point copies component).map change =
      point copies fun position => (component position).map change := by
  simp [point, Tensor.map, mapAll_eq_map]

theorem scale_point [Scalar S] (factor : S) (component : Nat → Point S) :
    (point copies component).scale factor =
      point copies fun position => (component position).scale factor := map_point _ component

theorem divide_point [Scalar S] (divisor : S) (component : Nat → Point S) :
    (point copies component).divide divisor =
      point copies fun position => (component position).divide divisor := map_point _ component

theorem zipWith_point (combine : S → S → S) (lefts rights : Nat → Point S) :
    zipWith combine (point copies lefts) (point copies rights) =
      point copies fun position => zipWith combine (lefts position) (rights position) := by
  rw [point, point, point, zipWith, zipAll_map]

theorem sum_point [ExactScalar S] (component : Nat → Point S) :
    (point copies component).sum =
      ((List.range copies).map fun position => (component position).sum).sum := by
  rw [point, sum_stack, List.map_map]
  rfl

theorem exists_point {whole : Point S} (shaped : whole.hasShape (copies :: inner) = true) :
    ∃ component, whole = point copies component ∧
      ∀ position < copies, (component position).hasShape inner = true := by
  cases whole with
  | scalar _ => simp [hasShape] at shaped
  | stack slices =>
      simp only [hasShape, Bool.and_eq_true, decide_eq_true_eq, allHaveShape_iff] at shaped
      obtain ⟨rfl, all⟩ := shaped
      refine ⟨_, congrArg stack (map_getD_range slices (stack [])).symm, fun position inside => ?_⟩
      rw [← List.getElem_eq_getD (h := inside)]
      exact all _ (List.getElem_mem inside)

theorem gives_total [ExactScalar S] {figure : Nat → Compute S S} {value : Nat → S}
    (each : ∀ position < copies, (figure position).Gives (value position)) :
    (total copies figure).Gives ((List.range copies).map value).sum := by
  have all : (total copies figure).Gives
      ((List.range copies).foldl (fun sum position => sum + value position) Scalar.zero) := by
    refine gives_foldlM (fun sum position member => ?_) _
    exact (each position (List.mem_range.mp member)).bind (gives_pure _)
  rwa [Scalar.zero_eq, ← List.foldl_map, ← List.sum_eq_foldl] at all

theorem gives_validateEach [Scalar S] {base : Geometry S} {tolerance : S} {slices : List (Point S)}
    {valid : Point S → Bool}
    (each : ∀ slice ∈ slices, (base.validate slice tolerance).Gives (valid slice)) :
    (validateEach base tolerance slices).Gives (slices.all valid) := by
  induction slices with
  | nil => exact gives_pure true
  | cons first rest ih =>
      refine (each first List.mem_cons_self).bind ?_
      rw [List.all_cons]
      cases valid first with
      | false => exact gives_pure false
      | true => exact ih fun slice member => each slice (List.mem_cons_of_mem first member)

end Power

end ProximalSplitting

import ProximalSplitting.Proofs.Exact.Coordinates
import ProximalSplitting.Proofs.Effects.Laws
import ProximalSplitting.Manifold

/-!
Flat geometry over exact numbers. On points of one shape the operations of a Euclidean space always
succeed, and those of its powers act on every component; in coordinates they are the operations of
a vector space.
-/

namespace ProximalSplitting

open Compute

variable {S : Type} [ExactScalar S] {shape : List Nat}

namespace Tensor

theorem coordinates_zero : (constant (0 : S) shape).coordinates = 0 := by
  have blank : (constant (0 : S) shape).map (fun _ => 0) = constant 0 shape := by
    induction shape with
    | nil => rfl
    | cons extent inner ih =>
        rw [constant, map]
        congr 1
        induction extent with
        | zero => rfl
        | succ extent repeated => rw [List.replicate_succ, mapAll, repeated, ih]
  rw [← blank, coordinates_map rfl]
  rfl

section Sums

variable {left right : Tensor S}

omit [ExactScalar S] in
theorem gives_combine_of_shape (operation : S → S → S) (same : left.shape = right.shape) :
    (combine operation left right).Gives (zipWith operation left right) := by
  rw [combine, combine?, if_pos same]
  exact gives_pure _

theorem gives_zero_plus (shaped : right.hasShape shape = true) :
    (plus (scalar 0) right).Gives right := by
  have spreads : combine? (· + ·) (scalar 0) right =
      some (zipWith (· + ·) (spread right.shape (scalar 0)) (spread right.shape right)) := by
    rw [combine?]
    cases right with
    | scalar _ => rfl
    | stack slices =>
        have common : commonShape? [] (stack slices).shape = some (stack slices).shape := by
          rw [commonShape?, List.reverse_nil, commonExtents?, Option.map_some, List.reverse_reverse]
        have different : ¬ (scalar (0 : S)).shape = (stack slices).shape := by
          cases slices <;> simp [Tensor.shape]
        rw [if_neg different]
        exact congrArg (Option.map _) common
  -- With an extent of zero an array shows less than its shape, but it has the shape that it shows.
  have shown := hasShape_shape shaped
  have blank : (constant (0 : S) right.shape).hasShape right.shape = true := hasShape_constant 0
  have same : zipWith (· + ·) (constant 0 right.shape) right = right := by
    refine eq_of_coordinates (hasShape_zipWith blank shown _) shown ?_
    rw [coordinates_add blank shown, coordinates_zero, zero_add]
  rw [plus, combine, spreads, spread_scalar, spread_shape shaped, same]
  exact gives_pure right

omit [ExactScalar S] in
theorem gives_ofSlices_of_uniform {slices : List (Tensor S)} (some : slices ≠ [])
    (uniform : ∀ left ∈ slices, ∀ right ∈ slices, left.shape = right.shape) :
    (ofSlices slices).Gives (stack slices) := by
  cases slices with
  | nil => exact absurd rfl some
  | cons first rest =>
      have same : (rest.all fun slice => slice.shape = first.shape) = true := by
        simp only [List.all_eq_true, decide_eq_true_eq]
        intro slice member
        exact uniform slice (List.mem_cons_of_mem first member) first List.mem_cons_self
      rw [ofSlices, if_pos same]
      exact gives_pure _

variable (positive : ∀ extent ∈ shape, 0 < extent)
include positive

omit [ExactScalar S] in
theorem gives_combine (operation : S → S → S) (leftShaped : left.hasShape shape = true)
    (rightShaped : right.hasShape shape = true) :
    (combine operation left right).Gives (zipWith operation left right) := by
  refine gives_combine_of_shape operation ?_
  rw [shape_of_hasShape left shape positive leftShaped,
    shape_of_hasShape right shape positive rightShaped]

theorem gives_foldlM_plus {rest : List (Tensor S)} {sum : Tensor S}
    (shaped : sum.hasShape shape = true) (all : ∀ point ∈ rest, point.hasShape shape = true) :
    ∃ total, (rest.foldlM plus sum).Gives total ∧ total.hasShape shape = true ∧
      total.coordinates = sum.coordinates + (rest.map coordinates).sum := by
  induction rest generalizing sum with
  | nil => exact ⟨sum, gives_pure sum, shaped, by simp⟩
  | cons next others ih =>
      have nextShaped := all next List.mem_cons_self
      obtain ⟨total, gives, totalShaped, same⟩ :=
        ih (hasShape_zipWith shaped nextShaped _) fun point member =>
          all point (List.mem_cons_of_mem next member)
      refine ⟨total, ?_, totalShaped, ?_⟩
      · rw [List.foldlM_cons]
        exact (gives_combine positive (· + ·) shaped nextShaped).bind gives
      · rw [same, coordinates_add shaped nextShaped, List.map_cons, List.sum_cons, add_assoc]

theorem gives_plusAll {points : List (Tensor S)} (some : points ≠ [])
    (all : ∀ point ∈ points, point.hasShape shape = true) :
    ∃ total, (plusAll points).Gives total ∧ total.hasShape shape = true ∧
      total.coordinates = (points.map coordinates).sum := by
  cases points with
  | nil => exact absurd rfl some
  | cons first rest =>
      have firstShaped := all first List.mem_cons_self
      obtain ⟨total, gives, totalShaped, same⟩ := gives_foldlM_plus positive firstShaped
        fun point member => all point (List.mem_cons_of_mem first member)
      refine ⟨total, ?_, totalShaped, ?_⟩
      · rw [plusAll, List.foldlM_cons, Scalar.zero_eq]
        exact (gives_zero_plus firstShaped).bind gives
      · rw [same, List.map_cons, List.sum_cons]

omit [ExactScalar S] in
theorem gives_ofSlices {slices : List (Tensor S)} (some : slices ≠ [])
    (all : ∀ slice ∈ slices, slice.hasShape shape = true) :
    (ofSlices slices).Gives (stack slices) := by
  refine gives_ofSlices_of_uniform some fun left leftMember right rightMember => ?_
  rw [shape_of_hasShape left shape positive (all left leftMember),
    shape_of_hasShape right shape positive (all right rightMember)]

end Sums

end Tensor

open Tensor

structure Geometry.Straight (geometry : Geometry S) : Prop where
  exp : geometry.exp = (euclidean []).exp
  log : geometry.log = (euclidean []).log
  mean : geometry.mean = (euclidean []).mean

omit [ExactScalar S] in
/-- A Euclidean space that could be built has the operations of one of some shape, and its extents
passed the check. -/
theorem built_of_euclidean [Scalar S] {strictness : Strictness} {extents : List (Value S)}
    {manifold : Manifold S} (built : Manifold.euclideanOf strictness extents = .ok manifold) :
    extents.forM (Manifold.requirePositive (.extentNotPositive extents)) = .ok () ∧
      ∃ name shape validate dimension facts, manifold = .ofGeometry
        { (euclidean shape : Geometry S) with
          name := name, validate := validate, dimension := dimension, facts := facts } := by
  rw [Manifold.euclideanOf] at built
  split at built
  · cases built
  · cases checked : extents.forM (Manifold.requirePositive (.extentNotPositive extents)) with
    | error fault =>
        rw [checked] at built
        cases built
    | ok _ =>
        rw [checked] at built
        cases built
        exact ⟨rfl, _, _, _, _, _, rfl⟩

theorem checked_of_euclidean {strictness : Strictness} {extents : List (Value S)}
    {manifold : Manifold S} (built : Manifold.euclideanOf strictness extents = .ok manifold) :
    extents.forM (Manifold.requirePositive (.extentNotPositive extents)) = .ok () ∧
      manifold.geometry.Straight := by
  obtain ⟨checked, _, _, _, _, _, rfl⟩ := built_of_euclidean built
  exact ⟨checked, ⟨rfl, rfl, rfl⟩⟩

omit [ExactScalar S] in
theorem requirePositive_integer [Scalar S] (fault : Fault S) (number : Int) :
    Manifold.requirePositive fault (.integer number) =
      if number < 1 then .error fault else .ok () := by
  have compared : (Value.integer number : Value S).below? 1 = some (decide (number < 1)) := rfl
  rw [Manifold.requirePositive, compared]
  split
  · rename_i absurdity
    cases absurdity
  · rename_i small
    rw [if_pos (by simpa using small)]
  · rename_i large
    rw [if_neg (by simpa using large)]

omit [ExactScalar S] in
theorem positive_of_euclidean [Scalar S] {strictness : Strictness} {manifold : Manifold S}
    (built : Manifold.euclideanOf strictness (shape.map fun (extent : Nat) => .integer extent) =
      .ok manifold) : ∀ extent ∈ shape, 0 < extent := by
  obtain ⟨checked, _⟩ := built_of_euclidean built
  generalize Fault.extentNotPositive _ = fault at checked
  clear built
  induction shape with
  | nil => simp
  | cons first rest ih =>
      rw [List.map_cons, List.forM, requirePositive_integer] at checked
      split at checked
      · cases checked
      · intro extent member
        rcases List.mem_cons.mp member with rfl | later
        · omega
        · exact ih checked extent later

namespace Flat

def along (start target : Point S) (time : S) : Point S :=
  zipWith (· + ·) start ((zipWith (· - ·) target start).scale time)

def mirrored (pivot point : Point S) : Point S :=
  zipWith (· + ·) pivot ((zipWith (· - ·) point pivot).negate.scale 1)

variable {start target : Point S} (startShaped : start.hasShape shape = true)
  (targetShaped : target.hasShape shape = true)
include startShaped targetShaped

theorem hasShape_sub : (zipWith (· - ·) target start).hasShape shape = true :=
  hasShape_zipWith targetShaped startShaped _

theorem hasShape_along (time : S) : (along start target time).hasShape shape = true := by
  refine hasShape_zipWith startShaped ?_ _
  simpa using hasShape_sub startShaped targetShaped

theorem coordinates_along (time : S) :
    (along start target time).coordinates =
      start.coordinates + time • (target.coordinates - start.coordinates) := by
  have shaped : ((zipWith (· - ·) target start).scale time).hasShape shape = true := by
    simpa using hasShape_sub startShaped targetShaped
  rw [along, coordinates_add startShaped shaped, coordinates_scale,
    coordinates_sub targetShaped startShaped]

theorem along_zero : along start target 0 = start := by
  refine eq_of_coordinates (hasShape_along startShaped targetShaped 0) startShaped ?_
  rw [coordinates_along startShaped targetShaped, zero_smul, add_zero]

theorem along_one : along start target 1 = target := by
  refine eq_of_coordinates (hasShape_along startShaped targetShaped 1) targetShaped ?_
  rw [coordinates_along startShaped targetShaped, one_smul, add_sub_cancel]

theorem hasShape_mirrored : (mirrored start target).hasShape shape = true := by
  refine hasShape_zipWith startShaped ?_ _
  simpa using hasShape_sub startShaped targetShaped

theorem coordinates_mirrored :
    (mirrored start target).coordinates = (2 : S) • start.coordinates - target.coordinates := by
  have shaped : ((zipWith (· - ·) target start).negate.scale 1).hasShape shape = true := by
    simpa using hasShape_sub startShaped targetShaped
  rw [mirrored, coordinates_add startShaped shaped, coordinates_scale, coordinates_negate,
    coordinates_sub targetShaped startShaped]
  funext position
  simp only [Pi.add_apply, Pi.smul_apply, Pi.neg_apply, Pi.sub_apply, smul_eq_mul]
  ring

end Flat

namespace Geometry.Straight

variable {geometry : Geometry S} (straight : geometry.Straight)
  (positive : ∀ extent ∈ shape, 0 < extent) {start target : Point S}
  (startShaped : start.hasShape shape = true) (targetShaped : target.hasShape shape = true)
include straight positive

section Lines

include startShaped targetShaped

theorem gives_log : (geometry.log start target).Gives (zipWith (· - ·) target start) := by
  rw [straight.log]
  exact (gives_combine positive (· - ·) targetShaped startShaped).compiledAs _

theorem gives_exp (time : S) :
    (geometry.exp start target time).Gives (zipWith (· + ·) start (target.scale time)) := by
  have shaped : (target.scale time).hasShape shape = true := by simpa using targetShaped
  rw [straight.exp]
  exact (gives_combine positive (· + ·) startShaped shaped).compiledAs _

theorem gives_along (time : S) :
    (geometry.shortestGeodesic start target time).Gives (Flat.along start target time) :=
  (straight.gives_log positive startShaped targetShaped).bind
    (straight.gives_exp positive startShaped (Flat.hasShape_sub startShaped targetShaped) time)

theorem gives_mirrored : (geometry.reflect start target).Gives (Flat.mirrored start target) := by
  have direction : (zipWith (· - ·) target start).negate.hasShape shape = true := by
    simpa using Flat.hasShape_sub startShaped targetShaped
  refine (straight.gives_log positive startShaped targetShaped).bind ?_
  rw [Scalar.one_eq]
  exact straight.gives_exp positive startShaped direction 1

end Lines

theorem gives_mean {points : List (Point S)} (some : points ≠ [])
    (all : ∀ point ∈ points, point.hasShape shape = true) (reference : Option (Point S))
    (limits : MeanLimits S) :
    ∃ mean, (geometry.mean points reference limits).Gives mean ∧ mean.hasShape shape = true ∧
      mean.coordinates = (points.length : S)⁻¹ • (points.map coordinates).sum := by
  obtain ⟨total, gives, shaped, same⟩ := gives_plusAll positive some all
  refine ⟨total.divide (Scalar.ofInt points.length), ?_, ?_, ?_⟩
  · rw [straight.mean]
    have present : ¬ points.isEmpty = true := by simpa using some
    change (Flat.mean points).Gives _
    rw [Flat.mean, if_neg present]
    exact (gives_ofSlices positive some all).bind (gives.bind (gives_pure _))
  · simpa using shaped
  · rw [coordinates_divide, same, ExactScalar.ofInt_eq, Int.cast_natCast]

theorem gives_mean_replicate {copies : Nat} (some : 0 < copies) {point : Point S}
    (shaped : point.hasShape shape = true) (reference : Option (Point S)) (limits : MeanLimits S) :
    (geometry.mean (List.replicate copies point) reference limits).Gives point := by
  have present : List.replicate copies point ≠ [] := by
    simp only [ne_eq, List.replicate_eq_nil_iff]
    omega
  obtain ⟨mean, gives, meanShaped, same⟩ := straight.gives_mean positive present
    (fun other member => by rwa [List.eq_of_mem_replicate member]) reference limits
  have count : (copies : S) ≠ 0 := Nat.cast_ne_zero.mpr (by omega)
  have equal : mean.coordinates = point.coordinates := by
    rw [same, List.length_replicate, List.map_replicate, List.sum_replicate,
      ← Nat.cast_smul_eq_nsmul S, smul_smul, inv_mul_cancel₀ count, one_smul]
  rwa [eq_of_coordinates meanShaped shaped equal] at gives

end Geometry.Straight

namespace Power

def point (copies : Nat) (component : Nat → Point S) : Point S :=
  .stack ((List.range copies).map component)

omit [ExactScalar S] in
theorem map_range_ne_nil {copies : Nat} (some : 0 < copies) (component : Nat → Point S) :
    (List.range copies).map component ≠ [] := by
  rw [ne_eq, List.map_eq_nil_iff, List.range_eq_nil]
  exact some.ne'

omit [ExactScalar S] in
theorem forall_mem_map_range {copies : Nat} {component : Nat → Point S} {holds : Point S → Prop}
    (all : ∀ position < copies, holds (component position)) :
    ∀ slice ∈ (List.range copies).map component, holds slice := by
  intro slice member
  obtain ⟨position, inside, rfl⟩ := List.mem_map.mp member
  exact all position (List.mem_range.mp inside)

omit [ExactScalar S] in
theorem hasShape_point {copies : Nat} {component : Nat → Point S}
    (shaped : ∀ position < copies, (component position).hasShape shape = true) :
    (point copies component).hasShape (copies :: shape) = true := by
  have all : allHaveShape ((List.range copies).map component) shape = true :=
    allHaveShape_iff.mpr (forall_mem_map_range shaped)
  rw [point, hasShape, all, List.length_map, List.length_range, decide_eq_true rfl, Bool.true_and]

omit [ExactScalar S] in
theorem point_congr {copies : Nat} {left right : Nat → Point S}
    (same : ∀ position < copies, left position = right position) :
    point copies left = point copies right :=
  congrArg Tensor.stack
    (List.map_congr_left fun position member => same position (List.mem_range.mp member))

omit [ExactScalar S] in
theorem negate_point [Scalar S] (copies : Nat) (component : Nat → Point S) :
    (point copies component).negate = point copies fun position => (component position).negate := by
  simp [point, Tensor.negate, Tensor.map, mapAll_eq_map]

omit [ExactScalar S] in
theorem map_getD_range (points : List (Point S)) (default : Point S) :
    (List.range points.length).map (fun position => points.getD position default) = points := by
  refine List.ext_getElem (by simp) fun position inside _ => ?_
  simp only [List.length_map, List.length_range] at inside
  simp [inside]

omit [ExactScalar S] in
theorem gives_component {copies position : Nat} (inside : position < copies)
    (component : Nat → Point S) :
    ((point copies component).component position).Gives (component position) := by
  simp [point, Tensor.component, Tensor.slices, inside, Compute.expect, gives_pure]

omit [ExactScalar S] in
theorem gives_components (copies : Nat) (component : Nat → Point S) :
    (components copies (point copies component)).Gives ((List.range copies).map component) :=
  gives_mapM fun _ member => gives_component (List.mem_range.mp member) component

variable (positive : ∀ extent ∈ shape, 0 < extent) {copies : Nat} (some : 0 < copies)
include some

omit [ExactScalar S] in
theorem gives_combine_of_uniform {component : Nat → Point S}
    (uniform : ∀ left < copies, ∀ right < copies,
      (component left).shape = (component right).shape) :
    (combine copies ((List.range copies).map component)).Gives (point copies component) := by
  have length : ((List.range copies).map component).length = copies := by simp
  rw [combine, if_pos length]
  refine gives_ofSlices_of_uniform (map_range_ne_nil some component) ?_
  exact forall_mem_map_range fun left leftInside =>
    forall_mem_map_range fun right rightInside => uniform left leftInside right rightInside

include positive

omit [ExactScalar S] in
theorem gives_combine {component : Nat → Point S}
    (shaped : ∀ position < copies, (component position).hasShape shape = true) :
    (combine copies ((List.range copies).map component)).Gives (point copies component) := by
  refine gives_combine_of_uniform some fun left leftInside right rightInside => ?_
  rw [shape_of_hasShape _ shape positive (shaped left leftInside),
    shape_of_hasShape _ shape positive (shaped right rightInside)]

omit [ExactScalar S] in
theorem gives_each {operation : Nat → Compute S (Point S)} {value : Nat → Point S}
    (each : ∀ position < copies, (operation position).Gives (value position))
    (shaped : ∀ position < copies, (value position).hasShape shape = true) :
    (Power.each copies operation).Gives (point copies value) :=
  (gives_mapM fun position member => each position (List.mem_range.mp member)).bind
    (gives_combine positive some shaped)

omit [ExactScalar S] in
theorem gives_pairwise {operation : Point S → Point S → Compute S (Point S)}
    {lefts rights value : Nat → Point S}
    (each : ∀ position < copies,
      (operation (lefts position) (rights position)).Gives (value position))
    (shaped : ∀ position < copies, (value position).hasShape shape = true) :
    (Power.each copies fun position => do
      operation (← (point copies lefts).component position)
        (← (point copies rights).component position)).Gives (point copies value) :=
  gives_each positive some (fun position inside => (gives_component inside lefts).bind
    ((gives_component inside rights).bind (each position inside))) shaped

omit [ExactScalar S] in
theorem gives_diagonal {base : Point S} (shaped : base.hasShape shape = true) :
    (diagonal copies base).Gives (point copies fun _ => base) := by
  have repeated : List.replicate copies base = (List.range copies).map fun _ => base := by
    simp [List.map_const']
  rw [diagonal, repeated]
  exact gives_combine positive some fun _ _ => shaped

section Lines

variable {base : Geometry S} (straight : base.Straight) {given : Value S}
  {starts targets : Nat → Point S}
  (startsShaped : ∀ position < copies, (starts position).hasShape shape = true)
  (targetsShaped : ∀ position < copies, (targets position).hasShape shape = true)
include straight startsShaped targetsShaped

theorem gives_log :
    ((powerGeometry base copies given).log (point copies starts) (point copies targets)).Gives
      (point copies fun position => zipWith (· - ·) (targets position) (starts position)) := by
  refine gives_pairwise positive some (fun position inside => ?_) fun position inside =>
    Flat.hasShape_sub (startsShaped position inside) (targetsShaped position inside)
  exact straight.gives_log positive (startsShaped position inside) (targetsShaped position inside)

theorem gives_exp (time : S) :
    ((powerGeometry base copies given).exp (point copies starts) (point copies targets) time).Gives
      (point copies fun position =>
        zipWith (· + ·) (starts position) ((targets position).scale time)) := by
  refine gives_pairwise positive some (fun position inside => ?_) fun position inside => ?_
  · exact straight.gives_exp positive (startsShaped position inside) (targetsShaped position inside)
      time
  · refine hasShape_zipWith (startsShaped position inside) ?_ _
    simpa using targetsShaped position inside

theorem gives_along (time : S) :
    ((powerGeometry base copies given).shortestGeodesic (point copies starts)
      (point copies targets) time).Gives
      (point copies fun position => Flat.along (starts position) (targets position) time) :=
  (gives_log positive some straight startsShaped targetsShaped).bind
    (gives_exp positive some straight startsShaped (fun position inside =>
      Flat.hasShape_sub (startsShaped position inside) (targetsShaped position inside)) time)

theorem gives_mirrored :
    ((powerGeometry base copies given).reflect (point copies starts) (point copies targets)).Gives
      (point copies fun position => Flat.mirrored (starts position) (targets position)) := by
  refine (gives_log positive some straight startsShaped targetsShaped).bind ?_
  rw [negate_point, Scalar.one_eq]
  refine gives_exp positive some straight startsShaped (fun position inside => ?_) 1
  simpa using Flat.hasShape_sub (startsShaped position inside) (targetsShaped position inside)

end Lines

end Power

end ProximalSplitting

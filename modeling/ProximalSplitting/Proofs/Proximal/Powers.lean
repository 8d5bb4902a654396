import Mathlib.Algebra.BigOperators.Field
import Mathlib.Data.List.GetD
import Mathlib.LinearAlgebra.Matrix.DotProduct
import ProximalSplitting.Proofs.Proximal.Distances

/-!
Proximal maps on powers. Objectives that look at one component each are minimised by one map for
each component, as the squared distance of a power is the sum of those of the components. The
constant point at the mean is the point of the diagonal that is nearest to a point of a power of
Euclidean space, as the ways from the components to their mean cancel out.
-/

namespace ProximalSplitting

open Compute Tensor

variable {S : Type}

theorem Compute.always_forall {found item : Type} {computation : Compute S found}
    {chosen : item → Prop} {holds : item → found → Prop} (some : ∃ next, chosen next)
    (each : ∀ next, chosen next → computation.Always (holds next)) :
    computation.Always fun value => ∀ next, chosen next → holds next value := by
  intro journal
  obtain ⟨first, isFirst⟩ := some
  obtain ⟨value, after, ran, _⟩ := (each first isFirst).run journal
  rw [ran]
  intro next isNext
  have held := each next isNext journal
  rwa [ran] at held

namespace Power

variable {copies : Nat}

def separable [ExactScalar S] (copies : Nat) (objectives : Nat → Point S → S)
    (whole : Point S) : S :=
  ∑ position ∈ Finset.range copies, objectives position (whole.slices.getD position whole)

theorem separable_point [ExactScalar S] (objectives : Nat → Point S → S)
    (component : Nat → Point S) :
    separable copies objectives (point copies component) =
      ∑ position ∈ Finset.range copies, objectives position (component position) := by
  refine Finset.sum_congr rfl fun position member => ?_
  have inside := Finset.mem_range.mp member
  simp [point, slices, inside]

section Distances

variable [RealScalar S] {base : Geometry S} {starts targets : Nat → Point S}
  {distance : Nat → S}

theorem gives_dist (given : Value S) (each : ∀ position < copies,
      (base.dist (starts position) (targets position)).Gives (distance position)) :
    ∃ whole, ((powerGeometry base copies given).dist (point copies starts)
        (point copies targets)).Gives whole ∧ 0 ≤ whole ∧
      whole ^ 2 = ∑ position ∈ Finset.range copies, distance position ^ 2 := by
  have squares : (total copies fun position => do
      return Scalar.square (← base.dist (← (point copies starts).component position)
        (← (point copies targets).component position))).Gives
      ((List.range copies).map fun position => Scalar.square (distance position)).sum := by
    apply gives_total
    intro position inside
    refine (gives_component inside starts).bind ((gives_component inside targets).bind ?_)
    exact (each position inside).bind (gives_pure _)
  have nonneg : 0 ≤ ((List.range copies).map fun position =>
      Scalar.square (distance position)).sum := by
    refine List.sum_nonneg fun square member => ?_
    obtain ⟨position, _, rfl⟩ := List.mem_map.mp member
    exact mul_self_nonneg (distance position)
  refine ⟨_, squares.bind (gives_pure _), RealScalar.sqrt_nonneg _ nonneg, ?_⟩
  rw [sq, RealScalar.sqrt_mul_sqrt _ nonneg]
  exact congrArg List.sum (List.map_congr_left fun position _ => (sq (distance position)).symm)

end Distances

end Power

namespace ProximalMap

variable [RealScalar S] {base : Manifold S} {copies : Nat} {given : Value S}
  {region : Point S → Prop} {maps : List (ProximalMap S)} {objectives : Nat → Point S → S}
  {parameter : S}

theorem Minimizes.power {starts bests : Nat → Point S}
    (each : ∀ position < copies, Minimizes base.geometry region (objectives position) parameter
      (starts position) (bests position)) :
    Minimizes (powerGeometry base.geometry copies given) (Power.Each copies region)
      (Power.separable copies objectives) parameter (Power.point copies starts)
      (Power.point copies bests) where
  inside := ⟨bests, rfl, fun position inside => (each position inside).inside⟩
  least := by
    rintro _ ⟨others, rfl, othersInside⟩
    have compared : ∀ position, ∃ near far, position < copies →
        (base.geometry.dist (starts position) (bests position)).Gives near ∧
        (base.geometry.dist (starts position) (others position)).Gives far ∧
        objectives position (bests position) + near ^ 2 / (2 * parameter) ≤
          objectives position (others position) + far ^ 2 / (2 * parameter) := by
      intro position
      by_cases inside : position < copies
      · obtain ⟨near, far, best⟩ :=
          (each position inside).least (others position) (othersInside position inside)
        exact ⟨near, far, fun _ => best⟩
      · exact ⟨0, 0, fun isInside => absurd isInside inside⟩
    choose nears fars best using compared
    obtain ⟨near, givesNear, -, nearSquared⟩ :=
      Power.gives_dist given fun position inside => (best position inside).1
    obtain ⟨far, givesFar, -, farSquared⟩ :=
      Power.gives_dist given fun position inside => (best position inside).2.1
    refine ⟨near, far, givesNear, givesFar, ?_⟩
    rw [Power.separable_point, Power.separable_point, nearSquared, farSquared, Finset.sum_div,
      Finset.sum_div, ← Finset.sum_add_distrib, ← Finset.sum_add_distrib]
    exact Finset.sum_le_sum fun position member => (best position (Finset.mem_range.mp member)).2.2

omit [RealScalar S] in
theorem gives_parallel [Scalar S] {base : Manifold S} (counted : maps.length = copies) :
    (parallel (.power base copies given) maps).Gives (beside (.power base copies given) maps) := by
  rw [parallel, Manifold.asPower, pure_bind]
  dsimp only
  rw [if_neg (not_not.mpr counted)]
  exact gives_pure _

theorem always_minimizes_beside (several : 0 < copies) (counted : maps.length = copies)
    (uniform : ∀ left right, region left → region right → left.shape = right.shape)
    (each : ∀ (position : Nat) (map : ProximalMap S), maps[position]? = some map →
      ∀ point, region point → (map parameter point).Always
        (Minimizes base.geometry region (objectives position) parameter point))
    {whole : Point S} (inside : Power.Each copies region whole) :
    (beside (.power base copies given) maps parameter whole).Always
      (Minimizes (powerGeometry base.geometry copies given) (Power.Each copies region)
        (Power.separable copies objectives) parameter whole) := by
  obtain ⟨component, rfl, componentsInside⟩ := inside
  have moves : (componentwise parameter maps ((List.range copies).map component)).Always
      fun moved => moved.length = maps.length ∧
        ∀ (position : Nat) (map : ProximalMap S) (point : Point S), maps[position]? = some map →
          ((List.range copies).map component)[position]? = some point →
          ∃ image, moved[position]? = some image ∧
            ∀ place, maps[place]? = some map → Minimizes base.geometry region (objectives place)
              parameter point image := by
    refine ensures_componentwise (by simpa using counted) fun map member point among => ?_
    obtain ⟨position, _, rfl⟩ := List.mem_map.mp among
    refine always_forall (List.mem_iff_getElem?.mp member) fun place found => ?_
    exact each place map found _ (componentsInside position (by simp_all))
  refine (Power.gives_components copies component).bind_ensures (moves.bind ?_)
  rintro moved ⟨length, images⟩
  have best : ∀ position < copies, Minimizes base.geometry region (objectives position) parameter
      (component position) (moved.getD position (stack [])) := by
    intro position inside
    have listed : maps[position]? = some maps[position] := List.getElem?_eq_getElem _
    obtain ⟨image, found, minimizes⟩ := images position maps[position] (component position) listed
      (by simp [inside])
    rw [List.getD_eq_getElem?_getD, found]
    exact minimizes position listed
  have reached :
      stack moved = Power.point copies fun position => moved.getD position (stack []) := by
    rw [Power.point, ← counted, ← length, Power.map_getD_range]
  -- Only arrays of one shape can be put together, and the region has points of one shape only.
  have same : ∀ left ∈ moved, ∀ right ∈ moved, left.shape = right.shape := by
    have all : ∀ slice ∈ moved, region slice := by
      intro slice member
      obtain ⟨position, inside, rfl⟩ := List.getElem_of_mem member
      have isBest := (best position (by omega)).inside
      rwa [List.getD_eq_getElem] at isBest
    exact fun left leftMember right rightMember =>
      uniform left right (all left leftMember) (all right rightMember)
  have present : moved ≠ [] := List.ne_nil_of_length_pos (by omega)
  refine (gives_ofSlices_of_uniform present same).ensures ?_
  rw [reached]
  exact Minimizes.power best

end ProximalMap

section Diagonals

variable [RealScalar S]

/-- Leaving the mean of some vectors adds the same to their squared distances from everywhere. -/
theorem sum_dotProduct_sub {copies extent : Nat} {values : Nat → Fin extent → S}
    {mean : Fin extent → S}
    (balanced : (copies : S) • mean = ∑ position ∈ Finset.range copies, values position)
    (other : Fin extent → S) :
    ∑ position ∈ Finset.range copies, (other - values position) ⬝ᵥ (other - values position) =
      ∑ position ∈ Finset.range copies, (mean - values position) ⬝ᵥ (mean - values position) +
        copies * ((other - mean) ⬝ᵥ (other - mean)) := by
  have expanded : ∀ position, (other - values position) ⬝ᵥ (other - values position) =
      (mean - values position) ⬝ᵥ (mean - values position) +
        2 * ((other - mean) ⬝ᵥ (mean - values position)) + (other - mean) ⬝ᵥ (other - mean) := by
    intro position
    rw [← sub_add_sub_cancel other mean (values position), add_dotProduct, dotProduct_add,
      dotProduct_add, dotProduct_comm (mean - values position) (other - mean)]
    ring
  have cancelled : ∑ position ∈ Finset.range copies, (mean - values position) = 0 := by
    rw [Finset.sum_sub_distrib, Finset.sum_const, Finset.card_range, ← balanced,
      ← Nat.cast_smul_eq_nsmul S, sub_self]
  rw [Finset.sum_congr rfl fun position _ => expanded position, Finset.sum_add_distrib,
    Finset.sum_add_distrib, ← Finset.mul_sum, ← dotProduct_sum, cancelled, dotProduct_zero,
    mul_zero, add_zero, Finset.sum_const, Finset.card_range, nsmul_eq_mul]

theorem Geometry.smul_average {copies : Nat} (several : 0 < copies) (component : Nat → Point S) :
    (copies : S) • average ((List.range copies).map component) =
      ∑ position ∈ Finset.range copies, (component position).coordinates := by
  have count : (copies : S) ≠ 0 := Nat.cast_ne_zero.mpr (by omega)
  rw [average, List.length_map, List.length_range, smul_inv_smul₀ count, List.map_map]
  rfl

structure Manifold.IsNearestOnDiagonal (manifold : Manifold S) (region : Point S → Prop)
    (start best : Point S) : Prop where
  inside : ∃ constant, region constant ∧ (manifold.diagonal constant).Gives best
  nearest : ∀ constant, region constant → ∃ other near far,
    (manifold.diagonal constant).Gives other ∧ (manifold.geometry.dist start best).Gives near ∧
      (manifold.geometry.dist start other).Gives far ∧ near ≤ far ∧ (far ≤ near → other = best)

variable {base : Manifold S} {copies : Nat} {given : Value S} {shape : List Nat}

section Constants

variable (flat : base.geometry.FlatOn shape) {component : Nat → Point S}
  (componentsShaped : ∀ position < copies, (component position).hasShape shape = true)
  {mean : Point S} (balanced : (copies : S) • mean.vector shape.prod =
    ∑ position ∈ Finset.range copies, (component position).vector shape.prod)
include flat componentsShaped balanced

theorem Power.gives_dist_constant (given : Value S) {constant : Point S}
    (constantShaped : constant.hasShape shape = true) :
    ∃ far, ((Manifold.power base copies given).geometry.dist (point copies component)
        (point copies fun _ => constant)).Gives far ∧ 0 ≤ far ∧
      far ^ 2 = ∑ position ∈ Finset.range copies,
        (mean.vector shape.prod - (component position).vector shape.prod) ⬝ᵥ
          (mean.vector shape.prod - (component position).vector shape.prod) +
        copies * ((constant.vector shape.prod - mean.vector shape.prod) ⬝ᵥ
          (constant.vector shape.prod - mean.vector shape.prod)) := by
  obtain ⟨far, givesFar, nonneg, squared⟩ := gives_dist given
    fun position inside => flat.dist (componentsShaped position inside) constantShaped
  refine ⟨far, givesFar, nonneg, ?_⟩
  rw [squared, ← sum_dotProduct_sub balanced]
  refine Finset.sum_congr rfl fun position member => ?_
  have componentShaped := componentsShaped position (Finset.mem_range.mp member)
  rw [sq, length_sub_mul_self constantShaped componentShaped]

theorem Manifold.isNearestOnDiagonal_mean (positive : ∀ extent ∈ shape, 0 < extent)
    (several : 0 < copies) (meanShaped : mean.hasShape shape = true) :
    (Manifold.power base copies given).IsNearestOnDiagonal
      (fun constant => constant.hasShape shape = true) (Power.point copies component)
      (Power.point copies fun _ => mean) where
  inside := ⟨mean, meanShaped, Power.gives_diagonal positive several meanShaped⟩
  nearest := by
    intro constant constantShaped
    obtain ⟨near, givesNear, -, nearSquared⟩ :=
      Power.gives_dist_constant flat componentsShaped balanced given meanShaped
    obtain ⟨far, givesFar, nonneg, farSquared⟩ :=
      Power.gives_dist_constant flat componentsShaped balanced given constantShaped
    have excess : far ^ 2 = near ^ 2 + copies *
        ((constant.vector shape.prod - mean.vector shape.prod) ⬝ᵥ
          (constant.vector shape.prod - mean.vector shape.prod)) := by
      rw [farSquared, nearSquared, sub_self, dotProduct_zero, mul_zero, add_zero]
    have gap := dotProduct_self_nonneg (constant.vector shape.prod - mean.vector shape.prod)
    have count : (0 : S) < copies := Nat.cast_pos.mpr several
    refine ⟨_, near, far, Power.gives_diagonal positive several constantShaped, givesNear, givesFar,
      ?_, fun close => ?_⟩
    · refine le_of_abs_le (abs_le_of_sq_le_sq ?_ nonneg)
      rw [excess]
      exact le_add_of_nonneg_right (mul_nonneg count.le gap)
    · have squares : far ^ 2 ≤ near ^ 2 := pow_le_pow_left₀ nonneg close 2
      have none : copies * ((constant.vector shape.prod - mean.vector shape.prod) ⬝ᵥ
          (constant.vector shape.prod - mean.vector shape.prod)) ≤ 0 := by linarith
      have vanishes := dotProduct_self_eq_zero.mp
        (le_antisymm (nonpos_of_mul_nonpos_right none count) gap)
      rw [eq_of_vector_of_count constantShaped meanShaped rfl (sub_eq_zero.mp vanishes)]

end Constants

theorem ProximalMap.gives_diagonal (positive : ∀ extent ∈ shape, 0 < extent) (several : 0 < copies)
    (flat : base.geometry.FlatOn shape) {whole : Point S}
    (shaped : whole.hasShape (copies :: shape) = true) (parameter : S) :
    ∃ best, (diagonal (.power base copies given) parameter whole).Gives best ∧
      (Manifold.power base copies given).IsNearestOnDiagonal
        (fun constant => constant.hasShape shape = true) whole best := by
  obtain ⟨component, rfl, componentsShaped⟩ := Power.exists_point shaped
  have present := Power.map_range_ne_nil several component
  have all : ∀ point ∈ (List.range copies).map component, point.hasShape shape = true :=
    Power.forall_mem_map_range componentsShaped
  have unreferenced : ∀ point ∈ (none : Option (Point S)), point.hasShape shape = true := by simp
  have many : 0 < (MeanLimits.standard : MeanLimits S).iterations :=
    show 0 < Tolerance.meanIterations by decide
  obtain ⟨mean, givesMean, meanShaped, averaged⟩ := flat.mean present all unreferenced many
  have balanced : (copies : S) • mean.vector shape.prod =
      ∑ position ∈ Finset.range copies, (component position).vector shape.prod := by
    have same := Geometry.smul_average several component
    rw [← averaged] at same
    funext position
    simpa [vector] using congrFun same position
  refine ⟨Power.point copies fun _ => mean, ?_,
    Manifold.isNearestOnDiagonal_mean flat componentsShaped balanced positive several meanShaped⟩
  exact ((Power.gives_components copies component).bind givesMean).bind
    (Power.gives_diagonal positive several meanShaped)

end Diagonals

/-- Proximal maps of a power. For every base, maps that minimise one objective each make up a map
that minimises the sum of the objectives; over a Euclidean base, the map of the diagonal finds the
point of the diagonal that is nearest, and the only one. -/
theorem power_maps_minimize [RealScalar S] (base : Manifold S) {copies : Nat} (several : 0 < copies)
    (given : Value S) :
    (∀ (region : Point S → Prop),
      (∀ left right, region left → region right → left.shape = right.shape) →
      ∀ (maps : List (ProximalMap S)) (objectives : Nat → Point S → S), maps.length = copies →
      ∃ product, (ProximalMap.parallel (.power base copies given) maps).Gives product ∧
        ∀ parameter, 0 < parameter →
          (∀ (position : Nat) (map : ProximalMap S), maps[position]? = some map →
            ∀ point, region point → (map parameter point).Always (ProximalMap.Minimizes
              base.geometry region (objectives position) parameter point)) →
          ∀ whole, Power.Each copies region whole →
            (product parameter whole).Always (ProximalMap.Minimizes
              (Manifold.power base copies given).geometry (Power.Each copies region)
              (Power.separable copies objectives) parameter whole)) ∧
    ∀ (strictness : Strictness) (shape : List Nat), Manifold.euclideanOf strictness
        (shape.map fun (extent : Nat) => .integer extent) = .ok base →
      ∀ (parameter : S) (whole : Point S), whole.hasShape (copies :: shape) = true →
        ∃ best, (ProximalMap.diagonal (.power base copies given) parameter whole).Gives best ∧
          (Manifold.power base copies given).IsNearestOnDiagonal
            (fun constant => constant.hasShape shape = true) whole best := by
  constructor
  · intro region uniform maps objectives counted
    refine ⟨_, ProximalMap.gives_parallel counted, fun parameter _ each whole inside => ?_⟩
    exact ProximalMap.always_minimizes_beside several counted uniform each inside
  · intro strictness shape built parameter whole shaped
    exact ProximalMap.gives_diagonal (positive_of_euclidean built) several
      (Manifold.flat_of_euclidean built) shaped parameter

section Sample

/-- Two numbers with a target each: the maps of their distances beside each other, and the
diagonal. -/
theorem sample_power_maps_minimize :
    ∃ (line : Manifold ℝ) (product : ProximalMap ℝ) (mean : Point ℝ),
      Manifold.euclideanOf .strict [] = .ok line ∧
      (ProximalMap.parallel (.power line 2) ((List.range 2).map fun (position : Nat) =>
        ProximalMap.distance line.geometry (.scalar position) (.integer 2))).Gives product ∧
      (product 1 (.stack [.scalar 4, .scalar 8])).Always (ProximalMap.Minimizes
        (Manifold.power line 2).geometry (Power.Each 2 fun other => other.hasShape [] = true)
        (Power.separable 2 fun position other =>
          (Tensor.zipWith (· - ·) other (.scalar position)).length ^ 2 / 2) 1
        (.stack [.scalar 4, .scalar 8])) ∧
      (ProximalMap.diagonal (.power line 2) 1 (.stack [.scalar 4, .scalar 8])).Gives mean ∧
      (Manifold.power line 2).IsNearestOnDiagonal (fun constant => constant.hasShape [] = true)
        (.stack [.scalar 4, .scalar 8]) mean := by
  obtain ⟨line, built⟩ : ∃ line : Manifold ℝ,
      Manifold.euclideanOf .strict (([] : List Nat).map fun (extent : Nat) => .integer extent) =
        .ok line := ⟨_, rfl⟩
  have linear := (Manifold.flat_of_euclidean built).toLinearOn
  obtain ⟨products, diagonals⟩ := power_maps_minimize line (Nat.zero_lt_two) (.integer 2)
  obtain ⟨product, gives, minimizes⟩ := products (fun other => other.hasShape [] = true)
    (fun left right leftShaped rightShaped => shape_eq_of_hasShape leftShaped rightShaped)
    ((List.range 2).map fun (position : Nat) =>
      ProximalMap.distance line.geometry (.scalar position) (.integer 2))
    (fun position other => (Tensor.zipWith (· - ·) other (.scalar position)).length ^ 2 / 2) rfl
  have each : ∀ (position : Nat) (map : ProximalMap ℝ),
      ((List.range 2).map fun (position : Nat) =>
        ProximalMap.distance line.geometry (.scalar position) (.integer 2))[position]? = some map →
      ∀ point, point.hasShape [] = true → (map 1 point).Always (ProximalMap.Minimizes
        line.geometry (fun other => other.hasShape [] = true)
        (fun other => (Tensor.zipWith (· - ·) other (.scalar position)).length ^ 2 / 2) 1
        point) := by
    intro position map found point shaped
    rw [List.getElem?_map, Option.map_eq_some_iff] at found
    obtain ⟨place, here, rfl⟩ := found
    obtain ⟨_, rfl⟩ := List.getElem?_eq_some_iff.mp here
    rw [List.getElem_range]
    have targetShaped : (Tensor.scalar (position : ℝ)).hasShape [] = true := rfl
    have squared : (Value.integer 2 : Value ℝ).equalsInteger 2 = true := rfl
    obtain ⟨best, moves, isBest⟩ := ProximalMap.minimizes_distance_squared linear targetShaped
      shaped one_pos squared
    exact moves.ensures isBest
  obtain ⟨mean, givesMean, nearest⟩ := diagonals .strict [] built 1
    (.stack [.scalar 4, .scalar 8]) rfl
  refine ⟨line, product, mean, built, gives, ?_, givesMean, nearest⟩
  refine minimizes 1 one_pos each _
    ⟨fun position => if position = 0 then .scalar 4 else .scalar 8, rfl, ?_⟩
  intro position _
  dsimp only
  split <;> rfl

end Sample

end ProximalSplitting

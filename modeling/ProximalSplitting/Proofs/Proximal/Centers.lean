import ProximalSplitting.Proofs.Exact.Sphere
import ProximalSplitting.Proofs.Exact.Sums
import ProximalSplitting.Proofs.Method.Copies
import ProximalSplitting.Proofs.Proximal.Powers

/-!
Means of equal points. Where the logarithm of a point at itself is zero and the way along zero stays
at the point, the search for a mean that starts at a point of which all points are copies does not
leave it; nor does the mid point. This is handed on from a base to its powers, and it is the case in
Euclidean space and on spheres, which have mid points or means of their own.
-/

namespace ProximalSplitting

open Compute Tensor

variable {S : Type} {shape : List Nat} {copies : Nat} {lies : Point S → Prop}

namespace Compute

variable {α β : Type} {first : Compute S α} {next : α → Compute S β}

theorem Always.bind_gives {found : α → Prop} {value : β} (always : first.Always found)
    (rest : ∀ between, found between → (next between).Gives value) :
    (first >>= next).Gives value := by
  intro journal
  obtain ⟨between, middle, ran, holds⟩ := always.run journal
  rw [Effect.run_bind_of_ok ran]
  exact rest between holds middle

theorem Always.of_bind {found : β → Prop} (always : (first >>= next).Always found) :
    first.Always fun _ => True := by
  intro journal
  rcases ran : first.run journal with ⟨fault | between, middle⟩
  · have failed := always journal
    rw [Effect.run_bind_of_error ran] at failed
    exact failed
  · trivial

end Compute

namespace Geometry

structure NeutralOn [Scalar S] (shape : List Nat) (lies : Point S → Prop) (geometry : Geometry S) :
    Prop where
  shaped : ∀ {point}, lies point → point.hasShape shape = true
  log : ∀ {point}, lies point → (geometry.log point point).Gives (zeroTangent point)
  exp : ∀ {point}, lies point → ∀ time, (geometry.exp point (zeroTangent point) time).Gives point
  norm : ∀ {point}, lies point → (geometry.norm point (zeroTangent point)).Always fun _ => True

structure CenteredOn [Scalar S] (shape : List Nat) (lies : Point S → Prop)
    (geometry : Geometry S) : Prop extends geometry.NeutralOn shape lies where
  midPoint : ∀ {point}, lies point → (geometry.midPoint point point none).Gives point
  mean : ∀ {point}, lies point → ∀ {copies}, 0 < copies →
    (geometry.mean (List.replicate copies point) none MeanLimits.standard).Gives point

namespace NeutralOn

theorem gives_halfway [Scalar S] {geometry : Geometry S} (neutral : geometry.NeutralOn shape lies)
    {point : Point S} (isPoint : lies point) :
    (do geometry.exp point (← geometry.log point point) Scalar.half).Gives point :=
  (neutral.log isPoint).bind (neutral.exp isPoint _)

variable [ExactScalar S] {geometry : Geometry S} (neutral : geometry.NeutralOn shape lies)
  {point : Point S} (isPoint : lies point)
include neutral isPoint

theorem gives_iterate (some : 0 < copies) (tolerance : S) (remaining done : Nat) :
    (Karcher.iterate geometry.exp geometry.log geometry.norm (List.replicate copies point) tolerance
      remaining done point).Gives point := by
  induction remaining generalizing done with
  | zero => exact gives_pure point
  | succ remaining ih =>
      have directions : ((List.replicate copies point).mapM (geometry.log point)).Gives
          (List.replicate copies (zeroTangent point)) := by
        rw [← List.map_replicate (f := fun _ => zeroTangent point) (a := point)]
        refine gives_mapM fun next member => ?_
        rw [List.eq_of_mem_replicate member]
        exact neutral.log isPoint
      have pointShaped := neutral.shaped isPoint
      rw [Karcher.iterate]
      refine directions.bind ((gives_plusAll_zeros pointShaped some).bind ?_)
      rw [divide_zerosLike pointShaped]
      refine (neutral.norm isPoint).bind_gives fun step _ => ?_
      refine (neutral.exp isPoint _).bind ?_
      split
      · exact (gives_report _).bind (gives_pure point)
      · exact ih (done + 1)

/-- A mean that is searched for, unless there are only one or two points. -/
theorem gives_mean (midPoint : (geometry.midPoint point point none).Gives point)
    (some : 0 < copies) (limits : MeanLimits S) :
    (Karcher.mean geometry.exp geometry.log geometry.norm geometry.midPoint
      (List.replicate copies point) none limits).Gives point := by
  match copies, some with
  | 1, _ => exact gives_pure point
  | 2, _ => exact midPoint
  | more + 3, _ =>
      have search := neutral.gives_iterate isPoint (Nat.succ_pos (more + 2)) limits.update
        limits.iterations.toNat 0
      rw [List.replicate_succ, List.replicate_succ, List.replicate_succ] at search ⊢
      rw [Karcher.mean]
      · exact search
      · simp
      · simp

end NeutralOn

structure Generic [Scalar S] (geometry : Geometry S) : Prop where
  midPoint : geometry.midPoint = fun start target _ => do
    geometry.exp start (← geometry.log start target) Scalar.half
  mean : geometry.mean = Karcher.mean geometry.exp geometry.log geometry.norm geometry.midPoint

theorem Generic.centeredOn [ExactScalar S] {geometry : Geometry S} (generic : geometry.Generic)
    (neutral : geometry.NeutralOn shape lies) : geometry.CenteredOn shape lies := by
  have midPoint : ∀ {point}, lies point → (geometry.midPoint point point none).Gives point := by
    intro point isPoint
    rw [generic.midPoint]
    exact neutral.gives_halfway isPoint
  refine ⟨neutral, midPoint, fun isPoint _ some => ?_⟩
  rw [generic.mean]
  exact neutral.gives_mean isPoint (midPoint isPoint) some _

end Geometry

namespace Power

theorem gives_each_of_hasShape (some : 0 < copies) {operation : Nat → Compute S (Point S)}
    {value : Nat → Point S} (each : ∀ position < copies, (operation position).Gives (value position))
    (shaped : ∀ position < copies, (value position).hasShape shape = true) :
    (Power.each copies operation).Gives (point copies value) := by
  refine (gives_mapM fun position member => each position (List.mem_range.mp member)).bind ?_
  refine gives_combine_of_uniform some fun left leftInside right rightInside => ?_
  exact shape_eq_of_hasShape (shaped left leftInside) (shaped right rightInside)

section Neutral

variable [Scalar S] {base : Geometry S}

theorem always_total {figure : Nat → Compute S S}
    (each : ∀ position < copies, (figure position).Always fun _ => True) :
    (total copies figure).Always fun _ => True := by
  refine ensures_foldlM (fun position member (sum : S) (_ : True) => ?_) trivial
  exact (each position (List.mem_range.mp member)).bind fun _ _ => ensures_pure trivial

theorem zeroTangent_point (component : Nat → Point S) :
    Geometry.zeroTangent (point copies component) =
      point copies fun position => Geometry.zeroTangent (component position) :=
  map_point _ component

theorem neutralOn (some : 0 < copies) (neutral : base.NeutralOn shape lies) (given : Value S) :
    (powerGeometry base copies given).NeutralOn (copies :: shape) (Each copies lies) where
  shaped := by
    rintro _ ⟨component, rfl, all⟩
    exact hasShape_point fun position inside => neutral.shaped (all position inside)
  log := by
    rintro _ ⟨component, rfl, all⟩
    rw [zeroTangent_point]
    refine gives_each_of_hasShape some (fun position inside => ?_) fun position inside =>
      hasShape_zerosLike (neutral.shaped (all position inside))
    exact (gives_component inside component).bind
      ((gives_component inside component).bind (neutral.log (all position inside)))
  exp := by
    rintro _ ⟨component, rfl, all⟩ time
    rw [zeroTangent_point]
    refine gives_each_of_hasShape some (fun position inside => ?_) fun position inside =>
      neutral.shaped (all position inside)
    exact (gives_component inside component).bind
      ((gives_component inside _).bind (neutral.exp (all position inside) time))
  norm := by
    rintro _ ⟨component, rfl, all⟩
    rw [zeroTangent_point]
    refine Ensures.bind (always_total fun position inside => ?_) fun _ _ => ensures_pure trivial
    refine (gives_component inside component).bind_ensures ?_
    refine (gives_component inside _).bind_ensures ((gives_component inside _).bind_ensures ?_)
    exact (neutral.norm (all position inside)).of_bind

end Neutral

/-- The mean of a power is always searched for, from mid points that are found in every component. -/
theorem centeredOn [ExactScalar S] {base : Geometry S} (some : 0 < copies)
    (centered : base.CenteredOn shape lies) (given : Value S) :
    (powerGeometry base copies given).CenteredOn (copies :: shape) (Each copies lies) := by
  have neutral := neutralOn some centered.toNeutralOn given
  have midPoint : ∀ {whole}, Each copies lies whole →
      ((powerGeometry base copies given).midPoint whole whole none).Gives whole := by
    rintro _ ⟨component, rfl, all⟩
    refine gives_each_of_hasShape some (fun position inside => ?_) fun position inside =>
      centered.shaped (all position inside)
    refine (gives_component inside component).bind ((gives_component inside component).bind ?_)
    exact centered.midPoint (all position inside)
  exact ⟨neutral, midPoint, fun each _ several =>
    neutral.gives_mean each (midPoint each) several _⟩

end Power

namespace Geometry

structure LinesOn [Scalar S] (shape : List Nat) (geometry : Geometry S) : Prop where
  exp : ∀ {start direction : Point S}, start.hasShape shape = true →
    direction.hasShape shape = true → ∀ time,
    (geometry.exp start direction time).Gives (zipWith (· + ·) start (direction.scale time))
  log : ∀ {start target : Point S}, start.hasShape shape = true → target.hasShape shape = true →
    (geometry.log start target).Gives (zipWith (· - ·) target start)

theorem LinesOn.neutralOn [ExactScalar S] {geometry : Geometry S} (lines : geometry.LinesOn shape)
    (norm : ∀ {point}, point.hasShape shape = true →
      (geometry.norm point (zeroTangent point)).Always fun _ => True) :
    geometry.NeutralOn shape fun point => point.hasShape shape = true where
  shaped := id
  log := by
    intro point shaped
    have vanishes : zipWith (· - ·) point point = zeroTangent point := by
      refine eq_zerosLike shaped (hasShape_zipWith shaped shaped _) ?_
      rw [coordinates_sub shaped shaped, sub_self]
    rw [← vanishes]
    exact lines.log shaped shaped
  exp := by
    intro point shaped time
    have zeros : (zeroTangent point).hasShape shape = true := hasShape_zerosLike shaped
    have scaled : ((zeroTangent point).scale time).hasShape shape = true := by simpa using zeros
    have stays : zipWith (· + ·) point ((zeroTangent point).scale time) = point := by
      refine eq_of_coordinates (hasShape_zipWith shaped scaled _) shaped ?_
      rw [coordinates_add shaped scaled, coordinates_scale, zeroTangent, coordinates_zerosLike,
        smul_zero, add_zero]
    have moved := lines.exp shaped zeros time
    rwa [stays] at moved
  norm := norm

section Weighted

variable [ExactScalar S] (weight : S)

theorem linesOn_weighted : (weighted weight).LinesOn shape where
  exp := fun startShaped directionShaped time =>
    gives_combine_of_hasShape _ startShaped (by simpa using directionShaped)
  log := fun startShaped targetShaped => gives_combine_of_hasShape _ targetShaped startShaped

theorem neutralOn_weighted :
    (weighted weight).NeutralOn shape fun point => point.hasShape shape = true := by
  refine (linesOn_weighted weight).neutralOn ?_
  intro point shaped
  have zeros := hasShape_zerosLike shaped
  have product : (dot (zeroTangent point) (zeroTangent point)).Gives _ :=
    (gives_combine_of_hasShape (· * ·) zeros zeros).bind (gives_pure _)
  have inner : ((weighted weight).inner point (zeroTangent point) (zeroTangent point)).Gives _ :=
    product.bind (gives_pure _)
  have length : ((weighted weight).norm point (zeroTangent point)).Gives _ :=
    inner.bind (gives_pure _)
  exact length.ensures trivial

end Weighted

section Flat

variable [RootScalar S] {geometry : Geometry S}

theorem LinearOn.linesOn (linear : geometry.LinearOn shape) : geometry.LinesOn shape where
  exp := linear.exp
  log := linear.log

theorem LinearOn.neutralOn (linear : geometry.LinearOn shape) :
    geometry.NeutralOn shape fun point => point.hasShape shape = true :=
  linear.linesOn.neutralOn fun shaped =>
    (linear.gives_norm shaped (hasShape_zerosLike shaped)).ensures trivial

theorem average_replicate (some : 0 < copies) (point : Point S) :
    average (List.replicate copies point) = point.coordinates := by
  have count : (copies : S) ≠ 0 := Nat.cast_ne_zero.mpr (by omega)
  rw [average, List.length_replicate, List.map_replicate, List.sum_replicate,
    ← Nat.cast_smul_eq_nsmul S, smul_smul, inv_mul_cancel₀ count, one_smul]

theorem FlatOn.mean_without_reference (flat : geometry.FlatOn shape) {points : List (Point S)}
    (present : points ≠ []) (all : ∀ point ∈ points, point.hasShape shape = true) :
    ∃ mean, (geometry.mean points none MeanLimits.standard).Gives mean ∧
      mean.hasShape shape = true ∧ mean.coordinates = average points := by
  have many : 0 < (MeanLimits.standard : MeanLimits S).iterations :=
    show 0 < Tolerance.meanIterations by decide
  exact flat.mean present all (by simp) many

theorem FlatOn.centeredOn (flat : geometry.FlatOn shape) :
    geometry.CenteredOn shape fun point => point.hasShape shape = true where
  toNeutralOn := flat.toLinearOn.neutralOn
  midPoint := by
    intro point shaped
    have halved : (zipWith (· + ·) point point).divide (Scalar.ofInt 2) = point := by
      refine eq_of_coordinates (by simpa using hasShape_zipWith shaped shaped (· + ·)) shaped ?_
      rw [coordinates_divide, coordinates_add shaped shaped, ExactScalar.ofInt_eq, ← two_smul S,
        smul_smul]
      norm_num
    have found : (geometry.midPoint point point none).Gives _ :=
      flat.midPoint shaped shaped (by simp)
    rwa [halved] at found
  mean := by
    intro point shaped several some
    have present : List.replicate several point ≠ [] := by
      rw [ne_eq, List.replicate_eq_nil_iff]
      omega
    have all : ∀ other ∈ List.replicate several point, other.hasShape shape = true := by
      intro other member
      rwa [List.eq_of_mem_replicate member]
    obtain ⟨mean, gives, meanShaped, averaged⟩ := flat.mean_without_reference present all
    rw [average_replicate some] at averaged
    rwa [eq_of_coordinates meanShaped shaped averaged] at gives

end Flat

end Geometry

namespace Sphere

variable [RealScalar S] {dimension : Nat} {base : Point S}

theorem vector_zerosLike (tensor : Point S) (extent : Nat) : tensor.zerosLike.vector extent = 0 :=
  funext fun position => congrFun (coordinates_zerosLike tensor) position

section Zeros

variable (isPoint : IsPoint dimension base)
include isPoint

theorem isTangent_zerosLike : IsTangent dimension base base.zerosLike where
  shaped := hasShape_zerosLike isPoint.shaped
  orthogonal := by rw [vector_zerosLike, dotProduct_zero]

theorem rejection_self : rejection dimension base base = base.zerosLike := by
  refine eq_of_vector (isTangent_rejection isPoint isPoint.shaped).shaped
    (isTangent_zerosLike isPoint).shaped ?_
  rw [vector_rejection isPoint.shaped isPoint.shaped, isPoint.dotProduct_self, one_smul, sub_self,
    vector_zerosLike]

theorem length_scale_zerosLike (time : S) : (base.zerosLike.scale time).length = 0 := by
  have squared := length_mul_length ((isTangent_zerosLike isPoint).scale time).shaped
  rw [vector_scale, vector_zerosLike, smul_zero, dotProduct_zero] at squared
  exact mul_self_eq_zero.mp squared

theorem reach_zerosLike (upright : Scalar.cos (0 : S) = 1) (time : S) :
    reach base base.zerosLike time = base := by
  have tangent := isTangent_zerosLike isPoint
  refine eq_of_vector (hasShape_reach isPoint tangent time) isPoint.shaped ?_
  rw [reach, length_scale_zerosLike isPoint, upright,
    vector_add (by simpa using isPoint.shaped) (by simpa using tangent.shaped)]
  simp [vector_zerosLike]

theorem gives_midPoint_self (stays : ∀ time, (exp base base.zerosLike time).Gives base)
    (looks : (log base base).Gives base.zerosLike) : (midPoint base base none).Gives base := by
  have decided : (areAntipodal base base).Gives _ :=
    (gives_dot (Nat.succ_pos dimension) isPoint.shaped isPoint.shaped).bind (gives_pure _)
  have apart : -1 + Tolerance.antipodal < (1 : S) := by
    rw [Tolerance.antipodal, RealScalar.decimal_eq]
    norm_num
  refine decided.bind ?_
  rw [isPoint.dotProduct_self, Scalar.less_eq, Scalar.one_eq, decide_eq_true apart]
  exact looks.bind (stays _)

end Zeros

theorem neutralOn (upright : Scalar.cos (0 : S) = 1) (some : 1 ≤ dimension) (known : Nat) :
    (sphere known : Geometry S).NeutralOn [dimension + 1] (IsPoint dimension) where
  shaped := IsPoint.shaped
  log := by
    intro base isPoint
    have vanishes : ∀ angle length : S,
        (base.zerosLike.scale angle).divide length = base.zerosLike := by
      intro angle length
      have zeros := (isTangent_zerosLike isPoint).shaped
      refine eq_zerosLike isPoint.shaped (by simpa using zeros) ?_
      rw [coordinates_divide, coordinates_scale, coordinates_zerosLike, smul_zero, smul_zero]
    have looks := gives_log some isPoint isPoint
    rw [rejection_self isPoint, vanishes] at looks
    exact looks
  exp := by
    intro base isPoint time
    have moved := gives_exp isPoint (isTangent_zerosLike isPoint) time
    have whole : base.divide base.length = base := by
      refine eq_of_vector (by simpa using isPoint.shaped) isPoint.shaped ?_
      rw [vector_divide, isPoint.unit, inv_one, one_smul]
    rwa [reach_zerosLike isPoint upright, whole] at moved
  norm := by
    intro base isPoint
    exact (gives_norm (isTangent_zerosLike isPoint).shaped base).ensures trivial

theorem centeredOn (upright : Scalar.cos (0 : S) = 1) (some : 1 ≤ dimension) (known : Nat) :
    (sphere known : Geometry S).CenteredOn [dimension + 1] (IsPoint dimension) := by
  have neutral := neutralOn upright some known
  have midPoint : ∀ {base : Point S}, IsPoint dimension base →
      (Sphere.midPoint base base none).Gives base := fun isPoint =>
    gives_midPoint_self isPoint (neutral.exp isPoint) (neutral.log isPoint)
  exact ⟨neutral, midPoint, fun isPoint _ several =>
    neutral.gives_mean isPoint (midPoint isPoint) several _⟩

end Sphere

end ProximalSplitting

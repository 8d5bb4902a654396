import ProximalSplitting.Proofs.Proximal.Closure

/-!
The proximal map of the diagonal is a projection. It finds constant points, and at a constant point
whose mean is the point that is repeated it stays, whatever the parameter is. The bases for which
this holds are those that search for their means, Euclidean spaces, spheres, and the powers of
these, with any nesting.
-/

namespace ProximalSplitting

open Compute Tensor

variable {S : Type} {copies : Nat}

inductive Manifold.IsBase [RealScalar S] (closed : Prop) : Manifold S → (Point S → Prop) → Prop
  | generic {geometry : Geometry S} {shape : List Nat} {lies : Point S → Prop}
      (generic : geometry.Generic) (neutral : geometry.NeutralOn shape lies)
      (kept : closed → ∃ tangent, geometry.ClosedOn shape lies tangent) :
      IsBase closed (.ofGeometry geometry) lies
  | euclidean {strictness : Strictness} {shape : List Nat} {manifold : Manifold S}
      (built : Manifold.euclideanOf strictness (shape.map fun (extent : Nat) => .integer extent) =
        .ok manifold) :
      IsBase closed manifold fun point => point.hasShape shape = true
  | sphere {strictness : Strictness} {dimension : Nat} {manifold : Manifold S}
      (built : Manifold.sphereOf strictness (.integer dimension) = .ok manifold)
      (upright : Scalar.cos (0 : S) = 1) : IsBase closed manifold (Sphere.IsPoint dimension)
  | power {base : Manifold S} {lies : Point S → Prop} {copies : Nat} (given : Value S)
      (some : 0 < copies) (isBase : IsBase closed base lies) :
      IsBase closed (.power base copies given) (Power.Each copies lies)

namespace Manifold

section Bases

variable [RealScalar S] {closed : Prop} {base : Manifold S} {lies : Point S → Prop}

theorem IsBase.centeredOn (isBase : base.IsBase closed lies) :
    ∃ shape, base.geometry.CenteredOn shape lies := by
  induction isBase with
  | generic generic neutral _ => exact ⟨_, generic.centeredOn neutral⟩
  | euclidean built => exact ⟨_, (flat_of_euclidean built).centeredOn⟩
  | sphere built upright =>
      obtain ⟨large, _, known, _, _, _, rfl⟩ := built_of_sphere built
      have centered := Sphere.centeredOn upright large known
      exact ⟨_, ⟨centered.shaped, centered.log, centered.exp, centered.norm⟩, centered.midPoint,
        centered.mean⟩
  | power given some _ ih =>
      obtain ⟨shape, centered⟩ := ih
      exact ⟨_, Power.centeredOn some centered given⟩

theorem IsBase.closedOn (isBase : base.IsBase closed lies) (asked : closed) :
    ∃ shape tangent, base.geometry.ClosedOn shape lies tangent ∧ base.geometry.MeansIn lies := by
  induction isBase with
  | generic generic _ kept =>
      obtain ⟨tangent, closedOn⟩ := kept asked
      exact ⟨_, tangent, closedOn, generic.meansIn closedOn⟩
  | euclidean built =>
      have flat := flat_of_euclidean built
      exact ⟨_, _, flat.toLinearOn.linesOn.closedOn, flat.meansIn⟩
  | sphere built _ =>
      obtain ⟨large, _, known, _, _, _, rfl⟩ := built_of_sphere built
      have closedOn := Sphere.closedOn (S := S) large known
      have means := Sphere.meansIn (S := S) large known
      exact ⟨_, Sphere.IsTangent _, ⟨closedOn.tangentShaped, closedOn.add, closedOn.divide,
        closedOn.log, closedOn.exp⟩, means.midPoint, means.mean⟩
  | power given _ _ ih =>
      obtain ⟨shape, tangent, closedOn, means⟩ := ih
      exact ⟨_, _, Power.closedOn closedOn given, Power.meansIn closedOn means given⟩

end Bases

section Constants

variable [Scalar S] {base : Manifold S}

theorem gives_diagonal (some : 0 < copies) (base : Manifold S) (given : Value S) (point : Point S) :
    ((power base copies given).diagonal point).Gives (Power.repeated copies point) :=
  (gives_pure (base, copies)).bind (Power.gives_combine_replicate some point)

theorem gives_coordinateMean_repeated {point : Point S} (given : Value S)
    (mean : (base.geometry.mean (List.replicate copies point) none MeanLimits.standard).Gives
      point) :
    ((power base copies given).coordinateMean (Power.repeated copies point) none).Gives point :=
  (gives_pure (base, copies)).bind ((Power.gives_components_repeated point).bind mean)

theorem finds_coordinateMean {lies : Point S → Prop} (some : 0 < copies)
    (means : base.geometry.MeansIn lies) (given : Value S) {whole : Point S}
    (each : Power.Each copies lies whole) :
    ((power base copies given).coordinateMean whole none).Finds lies := by
  obtain ⟨component, rfl, all⟩ := each
  refine (gives_pure (base, copies)).bind_ensures ?_
  refine (Power.gives_components copies component).bind_ensures ?_
  exact means.mean (Power.map_range_ne_nil some component) (Power.forall_mem_map_range all)

end Constants

end Manifold

/-- A constant point has the repeated point as its mean. What the proximal map of the diagonal finds
is constant, with the mean of the components repeated; and if that mean is a point, as it is for
points of the power wherever operations lead from points to points, the map stays there with every
parameter. -/
theorem diagonal_map_is_projection [RealScalar S] {closed : Prop} {base : Manifold S}
    {lies : Point S → Prop} (isBase : base.IsBase closed lies) (some : 0 < copies)
    (given : Value S) :
    (∀ point, lies point → ∃ whole, ((Manifold.power base copies given).diagonal point).Gives whole ∧
      ((Manifold.power base copies given).coordinateMean whole none).Gives point) ∧
    ∀ parameter whole found,
      (ProximalMap.diagonal (.power base copies given) parameter whole).Yields found →
      ∃ mean, ((Manifold.power base copies given).coordinateMean whole none).Yields mean ∧
        ((Manifold.power base copies given).diagonal mean).Gives found ∧
        found = Power.repeated copies mean ∧
        (closed → Power.Each copies lies whole → lies mean) ∧
        (lies mean → ∀ other,
          (ProximalMap.diagonal (.power base copies given) other found).Gives found) := by
  obtain ⟨shape, centered⟩ := isBase.centeredOn
  have constant := Manifold.gives_diagonal some base given
  have averaged : ∀ point, lies point → ((Manifold.power base copies given).coordinateMean
      (Power.repeated copies point) none).Gives point := fun point isPoint =>
    Manifold.gives_coordinateMean_repeated given (centered.mean isPoint some)
  constructor
  · exact fun point isPoint => ⟨_, constant point, averaged point isPoint⟩
  · intro parameter whole found yields
    obtain ⟨mean, isMean, repeats⟩ := yields.of_bind
    obtain rfl := (constant mean).unique repeats
    refine ⟨mean, isMean, constant mean, rfl, fun asked each => ?_, fun isPoint other => ?_⟩
    · obtain ⟨_, _, _, means⟩ := isBase.closedOn asked
      obtain ⟨journal, after, ran⟩ := isMean
      have lies_mean := Manifold.finds_coordinateMean some means given each journal
      rwa [ran] at lies_mean
    · exact (averaged mean isPoint).bind (constant mean)

section Sample

open Sphere

/-- Triples of pairs of unit vectors, and triples of weighted vectors. -/
theorem sample_diagonal_map_is_projection : ∃ ball : Manifold ℝ,
    Manifold.sphereOf .strict (.integer 2) = .ok ball ∧
      (Manifold.power ball 2).IsBase True (Power.Each 2 (IsPoint 2)) ∧ 0 < 3 ∧
      (∃ whole, ((Manifold.power (.power ball 2) 3).diagonal
          (.stack [ofVector ![1, 0, 0], ofVector ![0, 1, 0]])).Gives whole ∧
        ((Manifold.power (.power ball 2) 3).coordinateMean whole none).Gives
          (.stack [ofVector ![1, 0, 0], ofVector ![0, 1, 0]])) ∧
      (∀ parameter whole found, Power.Each 3 (Power.Each 2 (IsPoint 2)) whole →
        (ProximalMap.diagonal (.power (.power ball 2) 3) parameter whole).Yields found → ∀ other,
          (ProximalMap.diagonal (.power (.power ball 2) 3) other found).Gives found) ∧
      (Manifold.ofGeometry (weighted (2 : ℝ))).IsBase True (fun point => point.hasShape [2] = true) ∧
      ∃ whole, ((Manifold.power (.ofGeometry (weighted (2 : ℝ))) 3).diagonal
          (ofVector ![1, 5])).Gives whole ∧
        ((Manifold.power (.ofGeometry (weighted (2 : ℝ))) 3).coordinateMean whole none).Gives
          (ofVector ![1, 5]) := by
  obtain ⟨ball, built⟩ : ∃ ball : Manifold ℝ,
      Manifold.sphereOf .strict (.integer (2 : Nat)) = .ok ball := ⟨_, rfl⟩
  have pairs : (Manifold.power ball 2).IsBase True (Power.Each 2 (IsPoint 2)) :=
    .power _ Nat.zero_lt_two (.sphere built Real.cos_zero)
  have plane : (Manifold.ofGeometry (weighted (2 : ℝ))).IsBase True
      (fun point => point.hasShape [2] = true) :=
    .generic ⟨rfl, rfl⟩ (Geometry.neutralOn_weighted 2) fun _ =>
      ⟨_, (Geometry.linesOn_weighted 2).closedOn⟩
  have isPair : Power.Each 2 (IsPoint 2)
      (.stack [ofVector ![(1 : ℝ), 0, 0], ofVector ![0, 1, 0]]) := by
    refine Power.each_stack rfl fun point member => ?_
    simp only [List.mem_cons, List.not_mem_nil, or_false] at member
    rcases member with rfl | rfl
    · exact isPoint_ofVector (by norm_num [Matrix.vec3_dotProduct'])
    · exact isPoint_ofVector (by norm_num [Matrix.vec3_dotProduct'])
  obtain ⟨reproduces, settles⟩ := diagonal_map_is_projection pairs (Nat.succ_pos 2) (.integer 3)
  refine ⟨ball, built, pairs, Nat.succ_pos 2, reproduces _ isPair, ?_, plane, ?_⟩
  · intro parameter whole found each yields
    obtain ⟨mean, -, -, -, isMean, again⟩ := settles parameter whole found yields
    exact again (isMean trivial each)
  · exact (diagonal_map_is_projection plane (Nat.succ_pos 2) (.integer 3)).1 _
      (hasShape_ofVector _)

end Sample

end ProximalSplitting

import Mathlib.Tactic.Linarith
import ProximalSplitting.Proofs.Effects.Outcomes
import ProximalSplitting.Proofs.Exact.Flat
import ProximalSplitting.Proofs.Exact.Real
import ProximalSplitting.Proofs.Method.Failure

/-!
Regions that a geometry does not lead out of. Geodesics and reflections of points of a region stay
in the region, those of points of a power stay in its power, and so do the proximal maps that are
built from them.
-/

namespace ProximalSplitting

open Compute Tensor

variable {S : Type} {shape : List Nat} {region : Point S → Prop}
  {tangent : Point S → Point S → Prop}

namespace Geometry

variable [Scalar S]

structure Keeps (geometry : Geometry S) (shape : List Nat) (region : Point S → Prop)
    (tangent : Point S → Point S → Prop) : Prop where
  shaped : ∀ {point}, region point → point.hasShape shape = true
  tangentShaped : ∀ {base direction}, tangent base direction → direction.hasShape shape = true
  negate : ∀ {base direction}, tangent base direction → tangent base direction.negate
  log : ∀ {start target}, region start → region target →
    (geometry.log start target).Always (tangent start)
  exp : ∀ {start direction}, region start → tangent start direction → ∀ time,
    (geometry.exp start direction time).Always region

structure Averages (geometry : Geometry S) (shape : List Nat) (region : Point S → Prop)
    (tangent : Point S → Point S → Prop) : Prop extends geometry.Keeps shape region tangent where
  dist : ∀ {start target}, region start → region target →
    (geometry.dist start target).Always fun _ => True
  mean : ∀ {points}, points ≠ [] → (∀ point ∈ points, region point) →
    ∀ {reference : Option (Point S)}, (∀ point ∈ reference, region point) → ∀ limits,
      (geometry.mean points reference limits).Always region

variable {geometry : Geometry S} (keeps : geometry.Keeps shape region tangent)
  {start target : Point S}
include keeps

theorem Keeps.shortestGeodesic (isStart : region start) (isTarget : region target) (time : S) :
    (geometry.shortestGeodesic start target time).Always region :=
  (keeps.log isStart isTarget).bind fun _ isTangent => keeps.exp isStart isTangent time

theorem Keeps.reflect (isStart : region start) (isTarget : region target) :
    (geometry.reflect start target).Always region :=
  (keeps.log isStart isTarget).bind fun _ isTangent =>
    keeps.exp isStart (keeps.negate isTangent) _

end Geometry

namespace Power

variable {copies : Nat}

def Each (copies : Nat) (region : Point S → Prop) (whole : Point S) : Prop :=
  ∃ component, whole = point copies component ∧ ∀ position < copies, region (component position)

def EachPair (copies : Nat) (tangent : Point S → Point S → Prop) (left right : Point S) : Prop :=
  ∃ lefts rights, left = point copies lefts ∧ right = point copies rights ∧
    ∀ position < copies, tangent (lefts position) (rights position)

theorem point_inj {left right : Nat → Point S} (same : point copies left = point copies right) :
    ∀ position < copies, left position = right position := by
  intro position inside
  simp only [point, stack.injEq] at same
  exact List.map_inj_left.mp same position (List.mem_range.mpr inside)

theorem each_stack {points : List (Point S)} (length : points.length = copies)
    (all : ∀ point ∈ points, region point) : Each copies region (stack points) := by
  subst length
  refine ⟨_, congrArg stack (map_getD_range points (stack [])).symm, fun position inside => ?_⟩
  rw [← List.getElem_eq_getD (h := inside)]
  exact all _ (List.getElem_mem inside)

theorem exists_component {related : Nat → Point S → Prop} {points : List (Point S)}
    (pairs : List.Forall₂ related (List.range copies) points) :
    ∃ component, points = (List.range copies).map component ∧
      ∀ position < copies, related position (component position) := by
  have length : copies = points.length := by simpa using pairs.length_eq
  subst length
  refine ⟨_, (map_getD_range points (stack [])).symm, fun position inside => ?_⟩
  have held := pairs.get (by simpa using inside) inside
  simpa [inside] using held

variable (positive : ∀ extent ∈ shape, 0 < extent) (some : 0 < copies)
include positive some

theorem ensures_each {raised : Fault S → Prop} {related : Nat → Point S → Prop}
    {operation : Nat → Compute S (Point S)}
    (each : ∀ position < copies, (operation position).Ensures raised (related position))
    (shaped : ∀ position point, related position point → point.hasShape shape = true) :
    (Power.each copies operation).Ensures raised fun whole =>
      ∃ component, whole = point copies component ∧
        ∀ position < copies, related position (component position) := by
  have operations : ((List.range copies).mapM operation).Ensures raised
      (List.Forall₂ related (List.range copies)) :=
    ensures_mapM fun position member => each position (List.mem_range.mp member)
  refine operations.bind fun points pairs => ?_
  obtain ⟨component, rfl, all⟩ := exists_component pairs
  refine (gives_combine positive some fun position inside => ?_).ensures ⟨component, rfl, all⟩
  exact shaped position _ (all position inside)

theorem keeps [Scalar S] {base : Geometry S} (baseKeeps : base.Keeps shape region tangent)
    (given : Value S) :
    (powerGeometry base copies given).Keeps (copies :: shape) (Each copies region)
      (EachPair copies tangent) where
  shaped := by
    rintro _ ⟨component, rfl, all⟩
    exact hasShape_point fun position inside => baseKeeps.shaped (all position inside)
  tangentShaped := by
    rintro _ _ ⟨_, rights, rfl, rfl, all⟩
    exact hasShape_point fun position inside => baseKeeps.tangentShaped (all position inside)
  negate := by
    rintro _ _ ⟨lefts, rights, rfl, rfl, all⟩
    exact ⟨lefts, _, rfl, negate_point copies rights, fun position inside =>
      baseKeeps.negate (all position inside)⟩
  log := by
    rintro _ _ ⟨starts, rfl, isStart⟩ ⟨targets, rfl, isTarget⟩
    have directions : (each copies fun position => do
        base.log (← (point copies starts).component position)
          (← (point copies targets).component position)).Always fun whole =>
        ∃ directions, whole = point copies directions ∧
          ∀ position < copies, tangent (starts position) (directions position) := by
      refine ensures_each positive some (fun position inside => ?_) fun position direction =>
        baseKeeps.tangentShaped
      refine (gives_component inside starts).bind_ensures ?_
      refine (gives_component inside targets).bind_ensures ?_
      exact baseKeeps.log (isStart position inside) (isTarget position inside)
    refine directions.mono (fun _ => id) ?_
    rintro _ ⟨directions, rfl, all⟩
    exact ⟨starts, directions, rfl, rfl, all⟩
  exp := by
    rintro _ _ ⟨starts, rfl, isStart⟩ ⟨lefts, rights, same, rfl, all⟩ time
    refine ensures_each positive some (fun position inside => ?_) fun position direction =>
      baseKeeps.shaped
    refine (gives_component inside starts).bind_ensures ?_
    refine (gives_component inside rights).bind_ensures ?_
    refine baseKeeps.exp (isStart position inside) ?_ time
    rw [point_inj same position inside]
    exact all position inside

end Power

section Means

variable [Scalar S] {base : Manifold S} {copies : Nat} {given : Value S} {whole : Point S}
  (averages : base.geometry.Averages shape region tangent) (some : 0 < copies)
include averages some

theorem Manifold.always_coordinateMean (each : Power.Each copies region whole)
    {reference : Option (Point S)} (referenced : ∀ point ∈ reference, region point) :
    ((Manifold.power base copies given).coordinateMean whole reference).Always region := by
  obtain ⟨component, rfl, all⟩ := each
  refine (gives_pure (base, copies)).bind_ensures ?_
  refine (Power.gives_components copies component).bind_ensures ?_
  exact averages.mean (Power.map_range_ne_nil some component) (Power.forall_mem_map_range all)
    referenced _

end Means

theorem Scalar.gives_quotient [RealScalar S] (dividend : S) {divisor : S} (positive : 0 < divisor) :
    (liftM (quotient? dividend divisor) : Compute S S).Gives (dividend / divisor) := by
  have nonzero : ¬ same divisor zero = true := by
    simp [same, atMost_eq, positive]
  intro journal
  rw [quotient?, if_neg nonzero]
  exact ⟨journal, rfl⟩

namespace ProximalMap

def Confined [RealScalar S] (region : Point S → Prop) (proximalMap : ProximalMap S) : Prop :=
  ∀ parameter point, 0 < parameter → region point → (proximalMap parameter point).Always region

variable [RealScalar S]

theorem gives_squaredTime {parameter : S} (positive : 0 < parameter) :
    (liftM (squaredTime parameter) : Compute S S).Gives (parameter / (1 + parameter)) := by
  have whole : 0 < Scalar.one + parameter := by
    rw [Scalar.one_eq]
    linarith
  rw [← Scalar.one_eq]
  exact Scalar.gives_quotient parameter whole

theorem confined_distance {geometry : Geometry S} (averages : geometry.Averages shape region tangent)
    {target : Point S} (isTarget : region target) {exponent : Value S}
    (known : exponent.equalsInteger 1 = true ∨ exponent.equalsInteger 2 = true) :
    Confined region (distance geometry target exponent) := by
  intro parameter point positive isPoint
  rw [distance]
  by_cases squared : exponent.equalsInteger 2 = true
  · rw [if_pos squared]
    exact (gives_squaredTime positive).bind_ensures
      (averages.shortestGeodesic isPoint isTarget _)
  · rw [if_neg squared, if_pos (known.resolve_right squared)]
    exact (averages.dist isTarget isPoint).bind fun _ _ =>
      averages.shortestGeodesic isPoint isTarget _

theorem always_componentwise {maps : List (ProximalMap S)}
    (confined : ∀ proximalMap ∈ maps, Confined region proximalMap) {parameter : S}
    (positive : 0 < parameter) {points : List (Point S)} (paired : maps.length = points.length)
    (all : ∀ point ∈ points, region point) :
    (componentwise parameter maps points).Always fun moved =>
      moved.length = maps.length ∧ ∀ point ∈ moved, region point := by
  have mapped : (componentwise parameter maps points).Always _ :=
    ensures_componentwise paired fun proximalMap member point among =>
      confined proximalMap member parameter point positive (all point among)
  refine mapped.mono (fun _ => id) fun moved ⟨length, each⟩ => ⟨length, fun image member => ?_⟩
  obtain ⟨index, inside, rfl⟩ := List.getElem_of_mem member
  obtain ⟨found, present, isFound⟩ := each index maps[index] points[index]
    (List.getElem?_eq_getElem (by omega)) (List.getElem?_eq_getElem (by omega))
  rw [List.getElem?_eq_getElem inside, Option.some.injEq] at present
  rwa [present]

section Powers

variable {base : Manifold S} {copies : Nat} {given : Value S} {maps : List (ProximalMap S)}
  {proximalMap : ProximalMap S} (positive : ∀ extent ∈ shape, 0 < extent) (some : 0 < copies)

include positive some

theorem confined_parallel (shaped : ∀ point, region point → point.hasShape shape = true)
    (confined : ∀ proximalMap ∈ maps, Confined region proximalMap)
    (yields : (parallel (.power base copies given) maps).Yields proximalMap) :
    Confined (Power.Each copies region) proximalMap := by
  obtain ⟨paired, rfl⟩ := parallel_of_yields yields
  rintro parameter _ positiveParameter ⟨component, rfl, all⟩
  have points := Power.forall_mem_map_range all
  have components : ((Manifold.power base copies given).components
      (Power.point copies component)).Gives ((List.range copies).map component) :=
    (gives_pure (base, copies)).bind (Power.gives_components copies component)
  refine components.bind_ensures ?_
  refine (always_componentwise confined positiveParameter (by simpa using paired) points).bind
    fun moved found => ?_
  have present : moved ≠ [] := by
    rw [← List.length_pos_iff, found.1, paired]
    exact some
  refine (gives_ofSlices positive present fun point member => ?_).ensures
    (Power.each_stack (found.1.trans paired) found.2)
  exact shaped point (found.2 point member)

theorem confined_diagonal (averages : base.geometry.Averages shape region tangent) :
    Confined (Power.Each copies region) (diagonal (.power base copies given)) := by
  intro parameter whole _ each
  refine (Manifold.always_coordinateMean averages some each (by simp)).bind fun mean isMean => ?_
  refine (gives_pure (base, copies)).bind_ensures ?_
  exact (Power.gives_diagonal positive some (averages.shaped isMean)).ensures
    ⟨fun _ => mean, rfl, fun _ _ => isMean⟩

end Powers

end ProximalMap

end ProximalSplitting

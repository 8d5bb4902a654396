import ProximalSplitting.Manifold
import ProximalSplitting.Proofs.Effects.Mirrors

/-!
Pure geometries: compiling operations and reporting leave traces in the journal, but no outcome
depends on them. Euclidean spaces are pure, and so are powers of what is pure.
-/

namespace ProximalSplitting

open Compute

namespace Tensor

variable {S : Type} [Scalar S]

omit [Scalar S] in
theorem pure_combine (operation : S → S → S) (left right : Tensor S) :
    (combine operation left right).Pure := by
  rw [combine]
  split
  · exact pure_pure _
  · exact pure_fail _

theorem pure_plus (left right : Tensor S) : (plus left right).Pure := pure_combine _ left right

theorem pure_minus (left right : Tensor S) : (minus left right).Pure := pure_combine _ left right

theorem pure_times (left right : Tensor S) : (times left right).Pure := pure_combine _ left right

theorem pure_dot (left right : Tensor S) : (dot left right).Pure :=
  (pure_times left right).bind fun _ => pure_pure _

omit [Scalar S] in
theorem pure_component (tensor : Tensor S) (position : Nat) : (tensor.component position).Pure :=
  pure_expect _ _

omit [Scalar S] in
theorem pure_ofSlices (slices : List (Tensor S)) : (ofSlices slices).Pure := by
  rw [ofSlices.eq_def]
  split
  · exact pure_fail _
  · exact Pure.ite (pure_pure _) (pure_fail _)

theorem pure_plusAll (tensors : List (Tensor S)) : (plusAll tensors).Pure :=
  Pure.foldlM pure_plus tensors _

end Tensor

open Tensor

structure Geometry.Pure {S : Type} [Scalar S] (geometry : Geometry S) : Prop where
  proj : ∀ point vector, (geometry.proj point vector).Pure
  exp : ∀ start direction time, (geometry.exp start direction time).Pure
  log : ∀ start target, (geometry.log start target).Pure
  inner : ∀ point left right, (geometry.inner point left right).Pure
  dist : ∀ start target, (geometry.dist start target).Pure
  midPoint : ∀ start target reference, (geometry.midPoint start target reference).Pure
  mean : ∀ points reference limits, (geometry.mean points reference limits).Pure

section Karcher

variable {S : Type} [Scalar S] {exp : Point S → Point S → S → Compute S (Point S)}
  {log : Point S → Point S → Compute S (Point S)} {norm : Point S → Point S → Compute S S}
  {midPoint : Point S → Point S → Option (Point S) → Compute S (Point S)}

theorem Karcher.pure_iterate (pureExp : ∀ start direction time, (exp start direction time).Pure)
    (pureLog : ∀ start target, (log start target).Pure)
    (pureNorm : ∀ base vector, (norm base vector).Pure) (points : List (Point S)) (tolerance : S)
    (remaining done : Nat) (mean : Point S) :
    (Karcher.iterate exp log norm points tolerance remaining done mean).Pure := by
  induction remaining generalizing done mean with
  | zero => exact pure_pure mean
  | succ remaining ih =>
      refine (Pure.mapM (pureLog mean) points).bind fun directions => ?_
      refine (pure_plusAll directions).bind fun total => ?_
      refine (pureNorm mean _).bind fun step => ?_
      refine (pureExp mean _ _).bind fun next => ?_
      exact Pure.ite ((pure_report _).bind fun _ => pure_pure next) (ih (done + 1) next)

theorem Karcher.pure_mean (pureExp : ∀ start direction time, (exp start direction time).Pure)
    (pureLog : ∀ start target, (log start target).Pure)
    (pureNorm : ∀ base vector, (norm base vector).Pure)
    (pureMidPoint : ∀ start target reference, (midPoint start target reference).Pure)
    (points : List (Point S)) (reference : Option (Point S)) (limits : MeanLimits S) :
    (Karcher.mean exp log norm midPoint points reference limits).Pure := by
  rw [Karcher.mean.eq_def]
  split
  · exact pure_fail _
  · exact pure_pure _
  · exact pureMidPoint _ _ _
  · exact Karcher.pure_iterate pureExp pureLog pureNorm _ _ _ _ _

end Karcher

section Derived

variable {S : Type} [Scalar S] {geometry : Geometry S} (pure : geometry.Pure)
include pure

theorem Geometry.Pure.norm (base vector : Point S) : (geometry.norm base vector).Pure :=
  (pure.inner base vector vector).bind fun _ => pure_pure _

theorem Geometry.Pure.shortestGeodesic (start target : Point S) (time : S) :
    (geometry.shortestGeodesic start target time).Pure :=
  (pure.log start target).bind fun direction => pure.exp start direction time

theorem Geometry.Pure.reflect (pivot point : Point S) : (geometry.reflect pivot point).Pure :=
  (pure.log pivot point).bind fun _ => pure.exp pivot _ _

end Derived

section Flat

variable {S : Type} [Scalar S]

theorem Flat.pure_midPoint (start target : Point S) : (Flat.midPoint start target).Pure :=
  (pure_plus start target).bind fun _ => pure_pure _

theorem Flat.pure_mean (points : List (Point S)) : (Flat.mean points).Pure := by
  have average : ∀ tensor : Point S,
      (do return (← plusAll tensor.slices).divide (Scalar.ofInt points.length) :
        Compute S (Point S)).Pure :=
    fun tensor => (pure_plusAll tensor.slices).bind fun _ => pure_pure _
  refine Pure.ite ((pure_fail _).bind fun _ => ?_) ?_
  · exact (pure_ofSlices points).bind average
  · exact (pure_ofSlices points).bind average

theorem euclidean_pure (shape : List Nat) : (euclidean shape : Geometry S).Pure where
  proj := fun _ vector => (pure_pure vector).compiledAs _
  exp := fun start direction time => (pure_plus start (direction.scale time)).compiledAs _
  log := fun start target => (pure_minus target start).compiledAs _
  inner := fun _ left right => (pure_dot left right).compiledAs _
  dist := fun start target => ((pure_minus target start).bind fun _ => pure_pure _).compiledAs _
  midPoint := fun start target _ => Flat.pure_midPoint start target
  mean := fun points _ _ => Flat.pure_mean points

end Flat

section Powers

variable {S : Type} [Scalar S]

omit [Scalar S] in
theorem Power.pure_each (copies : Nat) {operation : Nat → Compute S (Point S)}
    (each : ∀ position, (operation position).Pure) : (Power.each copies operation).Pure :=
  (Pure.mapM each _).bind fun components =>
    Pure.ite (pure_ofSlices components) (pure_fail _)

theorem Power.pure_total (copies : Nat) {figure : Nat → Compute S S}
    (each : ∀ position, (figure position).Pure) : (Power.total copies figure).Pure :=
  Pure.foldlM (fun _ position => (each position).bind fun _ => pure_pure _) _ _

theorem powerGeometry_pure {base : Geometry S} (pure : base.Pure) (copies : Nat)
    (given : Value S) : (powerGeometry base copies given).Pure := by
  have exp : ∀ start direction time,
      ((powerGeometry base copies given).exp start direction time).Pure :=
    fun start direction time => Power.pure_each copies fun position =>
      (pure_component start position).bind fun _ =>
        (pure_component direction position).bind fun _ => pure.exp _ _ time
  have log : ∀ start target, ((powerGeometry base copies given).log start target).Pure :=
    fun start target => Power.pure_each copies fun position =>
      (pure_component start position).bind fun _ =>
        (pure_component target position).bind fun _ => pure.log _ _
  have inner : ∀ point left right,
      ((powerGeometry base copies given).inner point left right).Pure :=
    fun point left right => Power.pure_total copies fun position =>
      (pure_component point position).bind fun _ =>
        (pure_component left position).bind fun _ =>
          (pure_component right position).bind fun _ => pure.inner _ _ _
  have midPoint : ∀ start target reference,
      ((powerGeometry base copies given).midPoint start target reference).Pure := by
    intro start target reference
    refine Power.pure_each copies fun position => ?_
    refine (pure_component start position).bind fun startSlice => ?_
    refine (pure_component target position).bind fun targetSlice => ?_
    cases reference with
    | none => exact pure.midPoint _ _ none
    | some point =>
        exact ((pure_component point position).bind fun _ => pure_pure _).bind fun _ =>
          pure.midPoint _ _ _
  exact {
    proj := fun point vector => Power.pure_each copies fun position =>
      (pure_component point position).bind fun _ =>
        (pure_component vector position).bind fun _ => pure.proj _ _
    exp
    log
    inner
    dist := fun start target => by
      refine (Power.pure_total copies fun position => ?_).bind fun _ => pure_pure _
      exact (pure_component start position).bind fun _ =>
        (pure_component target position).bind fun _ =>
          (pure.dist _ _).bind fun _ => pure_pure _
    midPoint
    mean := Karcher.pure_mean exp log
      (fun base vector => (inner base vector vector).bind fun _ => pure_pure _) midPoint }

end Powers

def Manifold.Pure {S : Type} [Scalar S] : Manifold S → Prop
  | .ofGeometry geometry => geometry.Pure
  | .power base _ _ => base.Pure

theorem Manifold.Pure.geometry {S : Type} [Scalar S] {manifold : Manifold S}
    (pure : manifold.Pure) : manifold.geometry.Pure := by
  induction manifold with
  | ofGeometry geometry => exact pure
  | power base copies given ih => exact powerGeometry_pure (ih pure) copies given

end ProximalSplitting

import ProximalSplitting.Manifold

/-!
Bézier curves on manifolds. A segment is evaluated by joining neighbouring control points with
shortest geodesics, level by level, until one point is left. A composite curve of `m` segments has
the parameters from 0 to `m`; its segments share their junction points.
-/

namespace ProximalSplitting

namespace Bezier

variable {S : Type} [Scalar S]

abbrev Geodesic (S : Type) := Point S → Point S → S → Compute S (Point S)

def nextLevel (geodesic : Geodesic S) (time : S) : List (Point S) → Compute S (List (Point S))
  | first :: second :: rest => do
      let joined ← geodesic first second time
      let later ← nextLevel geodesic time (second :: rest)
      return joined :: later
  | _ => pure []

-- Every level is one point shorter, so the length of the first one bounds the levels.
def descend (geodesic : Geodesic S) (time : S) :
    (levels : Nat) → List (Point S) → Compute S (Point S)
  | _, [] => Compute.fail .outsideList
  | _, [only] => pure only
  | 0, first :: _ => pure first
  | levels + 1, level => do descend geodesic time levels (← nextLevel geodesic time level)

def evaluateSegment (geodesic : Geodesic S) (points : List (Point S)) (time : S) :
    Compute S (Point S) :=
  descend geodesic time points.length points

def requireSegment (points : List (Point S)) : Except (Fault S) Unit :=
  if points.length < 2 then .error (.tooFewControlPoints points.length) else .ok ()

/-- The segment that a parameter above zero belongs to, counted from one, and zero for zero. -/
def segmentNumber (parameter : S) : Nat := (Scalar.ceiling parameter).toNat

def localParameter (parameter : S) : S :=
  if segmentNumber parameter = 0 then Scalar.zero
  else parameter - Scalar.ofInt (segmentNumber parameter) + Scalar.one

def evaluateComposite (geodesic : Geodesic S) (segments : List (List (Point S))) (parameter : S) :
    Compute S (Point S) :=
  let count : Int := segments.length
  if Scalar.atMost Scalar.zero parameter && Scalar.atMost parameter (Scalar.ofInt count) then do
    let segment ← Compute.expect .outsideList segments[max (segmentNumber parameter) 1 - 1]?
    evaluateSegment geodesic segment (localParameter parameter)
  else Compute.fail (.outsideDomain (.real parameter) (.integer 0) (.integer count))

end Bezier

inductive ControlPoints (S : Type) where
  | segment (points : List (Point S))
  | composite (segments : List (List (Point S)))

namespace Bezier

variable {S : Type} [Scalar S]

inductive Curve (S : Type) where
  | segment (points : List (Point S))
  | composite (segments : List (List (Point S)))

def Curve.ofControlPoints : ControlPoints S → Except (Fault S) (Curve S)
  | .segment points => do
      requireSegment points
      return .segment points
  | .composite [] => .error (.tooFewControlPoints 0)
  | .composite segments => do
      segments.forM requireSegment
      return .composite segments

def Curve.evaluate (geodesic : Geodesic S) (curve : Curve S) (parameter : S) :
    Compute S (Point S) :=
  match curve with
  | .segment points =>
      if Scalar.atMost Scalar.zero parameter && Scalar.atMost parameter Scalar.one then
        evaluateSegment geodesic points parameter
      else Compute.fail (.outsideDomain (.real parameter) (.integer 0) (.integer 1))
  | .composite segments => evaluateComposite geodesic segments parameter

def deCasteljau (geometry : Geometry S) (points : ControlPoints S) (parameter : S) :
    Compute S (Point S) := do
  let curve ← Curve.ofControlPoints points
  curve.evaluate geometry.shortestGeodesic parameter

def deCasteljauEach (geometry : Geometry S) (points : ControlPoints S) (parameters : List S) :
    Compute S (List (Point S)) := do
  let curve ← Curve.ofControlPoints points
  parameters.mapM (curve.evaluate geometry.shortestGeodesic)

section Extraction

variable {P : Type}

def lastPoint (segments : List (List P)) : Except (Fault S) P :=
  match segments.getLast?.bind List.getLast? with
  | some point => .ok point
  | none => .error .outsideList

def junctionPoints (segments : List (List P)) : Except (Fault S) (List P) := do
  let starts ← segments.mapM fun segment =>
    match segment with
    | first :: _ => .ok first
    | [] => .error .outsideList
  return starts ++ [← lastPoint segments]

def innerPoints (segments : List (List P)) : List P :=
  segments.flatMap fun segment => segment.tail.dropLast

def mergedPoints (segments : List (List P)) : Except (Fault S) (List P) := do
  return segments.flatMap List.dropLast ++ [← lastPoint segments]

/-- Cuts a list of control points into segments that share their junction points. -/
def cut (points : List P) : List Nat → List (List P)
  | [] => []
  | degree :: degrees => points.take (degree + 1) :: cut (points.drop degree) degrees

def segmentsOfDegrees (points : List P) (degrees : List Int) :
    Except (Fault S) (List (List P)) :=
  if degrees.any (· < 1) then .error (.degreeNotPositive degrees)
  else if points.length ≠ jointPoints degrees then
    .error (.controlPointCount degrees points.length)
  else .ok (cut points (degrees.map Int.toNat))

def recut (segments : List (List P)) : Except (Fault S) (List (List P)) := do
  let points ← mergedPoints segments
  segmentsOfDegrees points (segments.map fun segment => (segment.length : Int) - 1)

end Extraction

def tangentVectors (geometry : Geometry S) : List (List (Point S)) → Compute S (List (Point S))
  | [] => pure []
  | segment :: rest => do
      requireSegment segment
      match segment, segment.reverse with
      | start :: afterStart :: _, target :: beforeTarget :: _ => do
          let leaving ← geometry.log start afterStart
          let arriving ← geometry.log target beforeTarget
          return leaving :: arriving :: (← tangentVectors geometry rest)
      | _, _ => Compute.fail .outsideList

end Bezier

end ProximalSplitting

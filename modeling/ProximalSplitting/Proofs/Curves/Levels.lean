import Mathlib.Data.List.Basic
import ProximalSplitting.Bezier
import ProximalSplitting.Proofs.Method.Failure

/-!
The levels of a segment. Neighbours are joined level by level until one point is left, and a segment
is evaluated to that point. If the later neighbour is joined to the earlier one, the points can be
listed from the end; if one of two neighbours is kept, an end point is left. Segments of at least
two control points make a curve.
-/

namespace ProximalSplitting

namespace Bezier

open Compute

section Joining

variable {P : Type} {join : P → P → P} {points : List P} {point : P}

def joined (join : P → P → P) (points : List P) : List P :=
  List.zipWith join points.dropLast points.tail

theorem joined_cons_cons (first second : P) (rest : List P) :
    joined join (first :: second :: rest) = join first second :: joined join (second :: rest) := rfl

theorem length_joined : (joined join points).length = points.length - 1 := by
  simp [joined]

theorem joined_ne_nil (long : 2 ≤ points.length) : joined join points ≠ [] := by
  intro empty
  have length : (joined join points).length = points.length - 1 := length_joined
  rw [empty, List.length_nil] at length
  omega

theorem joined_reverse :
    joined (fun left right => join right left) points.reverse = (joined join points).reverse := by
  have sameLength : points.dropLast.length = points.tail.length := by simp
  rw [joined, joined, List.dropLast_reverse, List.tail_reverse, List.reverse_zipWith sameLength,
    List.zipWith_comm]

inductive Tip (join : P → P → P) : List P → P → Prop
  | single (point : P) : Tip join [point] point
  | level {points : List P} {point : P} (long : 2 ≤ points.length)
      (tip : Tip join (joined join points) point) : Tip join points point

theorem exists_tip (join : P → P → P) {points : List P} (some : points ≠ []) :
    ∃ point, Tip join points point := by
  obtain ⟨degree, length⟩ : ∃ degree, points.length = degree + 1 :=
    ⟨points.length - 1, by have := List.length_pos_iff.mpr some; omega⟩
  induction degree generalizing points with
  | zero =>
      obtain ⟨only, rfl⟩ := List.length_eq_one_iff.mp length
      exact ⟨only, .single only⟩
  | succ degree ih =>
      have long : 2 ≤ points.length := by omega
      have shorter : (joined join points).length = degree + 1 := by
        rw [length_joined]
        omega
      obtain ⟨point, tip⟩ := ih (joined_ne_nil long) shorter
      exact ⟨point, .level long tip⟩

theorem Tip.reverse (tip : Tip join points point) :
    Tip (fun left right => join right left) points.reverse point := by
  induction tip with
  | single point => exact .single point
  | level long _ ih =>
      refine .level (by simpa using long) ?_
      rw [joined_reverse]
      exact ih

theorem tip_first (rest : List P) : Tip (fun left _ => left) (point :: rest) point := by
  obtain ⟨degree, length⟩ : ∃ degree, rest.length = degree := ⟨_, rfl⟩
  induction degree generalizing rest with
  | zero =>
      rw [List.length_eq_zero_iff.mp length]
      exact .single point
  | succ degree ih =>
      obtain ⟨second, others, rfl⟩ := List.exists_cons_of_length_eq_add_one length
      refine .level (by simp) ?_
      rw [joined_cons_cons]
      apply ih
      rw [length_joined]
      simpa using length

theorem tip_last (front : List P) : Tip (fun _ right => right) (front ++ [point]) point := by
  have tip : Tip (fun left _ => left) (point :: front.reverse) point := tip_first front.reverse
  simpa using tip.reverse

end Joining

variable {S : Type} {geodesic : Geodesic S} {time : S}

section Faults

def GeodesicRaises (geodesic : Geodesic S) (time : S) (fault : Fault S) : Prop :=
  ∃ start target journal, (geodesic start target time).Raises journal fault

theorem ensures_nextLevel (points : List (Point S)) :
    (nextLevel geodesic time points).Ensures (GeodesicRaises geodesic time)
      fun level => level.length = points.length - 1 := by
  induction points with
  | nil => exact ensures_pure rfl
  | cons first rest ih =>
      cases rest with
      | nil => exact ensures_pure rfl
      | cons second others =>
          have joins : (geodesic first second time).Ensures (GeodesicRaises geodesic time)
              fun _ => True :=
            (ensures_self _).mono (fun _ ⟨journal, raises⟩ => ⟨first, second, journal, raises⟩)
              fun _ _ => trivial
          rw [nextLevel]
          refine joins.bind fun joined _ => ih.bind fun later length => ensures_pure ?_
          simp only [List.length_cons] at length ⊢
          omega

theorem ensures_descend (levels : Nat) {points : List (Point S)} (some : points ≠ []) :
    (descend geodesic time levels points).Ensures (GeodesicRaises geodesic time)
      fun _ => True := by
  induction levels generalizing points with
  | zero =>
      match points, some with
      | [only], _ => exact ensures_pure trivial
      | first :: second :: rest, _ => exact ensures_pure trivial
  | succ levels ih =>
      match points, some with
      | [only], _ => exact ensures_pure trivial
      | first :: second :: rest, _ =>
          rw [descend]
          · refine (ensures_nextLevel (first :: second :: rest)).bind fun level length => ih ?_
            rintro rfl
            simp at length
          · simp
          · simp

/-- A segment is not evaluated beyond its control points: what goes wrong does so on a geodesic. -/
theorem ensures_evaluateSegment {points : List (Point S)} (some : points ≠ []) :
    (evaluateSegment geodesic points time).Ensures (GeodesicRaises geodesic time) fun _ => True :=
  ensures_descend points.length some

end Faults

section Values

variable {lies : Point S → Prop} {join : Point S → Point S → Point S} {points : List (Point S)}
  {point : Point S}

structure Joins (geodesic : Geodesic S) (time : S) (lies : Point S → Prop)
    (join : Point S → Point S → Point S) : Prop where
  gives : ∀ {start target}, lies start → lies target →
    (geodesic start target time).Gives (join start target)
  stays : ∀ {start target}, lies start → lies target → lies (join start target)

variable (joins : Joins geodesic time lies join)
include joins

theorem Joins.lie_joined (all : ∀ point ∈ points, lies point) :
    ∀ point ∈ joined join points, lies point := by
  induction points with
  | nil => simp [joined]
  | cons first rest ih =>
      cases rest with
      | nil => simp [joined]
      | cons second others =>
          have later := ih fun point member => all point (List.mem_cons_of_mem first member)
          rw [joined_cons_cons, List.forall_mem_cons]
          exact ⟨joins.stays (all first (by simp)) (all second (by simp)), later⟩

theorem Joins.gives_nextLevel (all : ∀ point ∈ points, lies point) :
    (nextLevel geodesic time points).Gives (joined join points) := by
  induction points with
  | nil => exact gives_pure []
  | cons first rest ih =>
      cases rest with
      | nil => exact gives_pure []
      | cons second others =>
          have later := ih fun point member => all point (List.mem_cons_of_mem first member)
          rw [nextLevel, joined_cons_cons]
          refine (joins.gives (all first (by simp)) (all second (by simp))).bind ?_
          exact later.bind (gives_pure _)

theorem Joins.gives_descend {levels : Nat} (tip : Tip join points point)
    (all : ∀ point ∈ points, lies point) (enough : points.length ≤ levels + 1) :
    (descend geodesic time levels points).Gives point := by
  induction tip generalizing levels with
  | single point =>
      cases levels with
      | zero => exact gives_pure point
      | succ levels => exact gives_pure point
  | @level points point long _ ih =>
      obtain ⟨fewer, rfl⟩ : ∃ fewer, levels = fewer + 1 := ⟨levels - 1, by omega⟩
      have next : (descend geodesic time fewer (joined join points)).Gives point := by
        apply ih (joins.lie_joined all)
        rw [length_joined]
        omega
      match points, long with
      | first :: second :: rest, _ =>
          rw [descend]
          · exact (joins.gives_nextLevel all).bind next
          · simp
          · simp

theorem Joins.gives_evaluateSegment (tip : Tip join points point)
    (all : ∀ point ∈ points, lies point) : (evaluateSegment geodesic points time).Gives point :=
  joins.gives_descend tip all (Nat.le_succ _)

omit joins

theorem gives_first
    (starts : ∀ start target, lies start → lies target → (geodesic start target time).Gives start)
    (all : ∀ point ∈ points, lies point) (found : points.head? = some point) :
    (evaluateSegment geodesic points time).Gives point := by
  have joins : Joins geodesic time lies fun left _ => left :=
    ⟨fun isStart isTarget => starts _ _ isStart isTarget, fun isStart _ => isStart⟩
  obtain ⟨rest, rfl⟩ := List.head?_eq_some_iff.mp found
  exact joins.gives_evaluateSegment (tip_first rest) all

theorem gives_last
    (ends : ∀ start target, lies start → lies target → (geodesic start target time).Gives target)
    (all : ∀ point ∈ points, lies point) (found : points.getLast? = some point) :
    (evaluateSegment geodesic points time).Gives point := by
  have joins : Joins geodesic time lies fun _ right => right :=
    ⟨fun isStart isTarget => ends _ _ isStart isTarget, fun _ isTarget => isTarget⟩
  obtain ⟨front, rfl⟩ := List.getLast?_eq_some_iff.mp found
  exact joins.gives_evaluateSegment (tip_last front) all

end Values

section Curves

variable {points : List (Point S)} {segments : List (List (Point S))}

theorem requireSegment_of_long (long : 2 ≤ points.length) : requireSegment points = .ok () := by
  rw [requireSegment, if_neg (by omega)]

theorem forM_requireSegment (long : ∀ segment ∈ segments, 2 ≤ segment.length) :
    segments.forM requireSegment = .ok () := by
  induction segments with
  | nil => rfl
  | cons first rest ih =>
      rw [List.forM, requireSegment_of_long (long first List.mem_cons_self)]
      exact ih fun segment member => long segment (List.mem_cons_of_mem first member)

variable [Scalar S] {geometry : Geometry S} {parameter : S}

theorem deCasteljau_segment (long : 2 ≤ points.length) :
    deCasteljau geometry (.segment points) parameter =
      (Curve.segment points).evaluate geometry.shortestGeodesic parameter := by
  have built : Curve.ofControlPoints (.segment points) = .ok (.segment points) := by
    rw [Curve.ofControlPoints, requireSegment_of_long long]
    rfl
  rw [deCasteljau, built]
  rfl

theorem deCasteljau_composite (some : segments ≠ [])
    (long : ∀ segment ∈ segments, 2 ≤ segment.length) :
    deCasteljau geometry (.composite segments) parameter =
      evaluateComposite geometry.shortestGeodesic segments parameter := by
  have built : Curve.ofControlPoints (.composite segments) = .ok (.composite segments) := by
    obtain ⟨first, rest, rfl⟩ := List.exists_cons_of_ne_nil some
    rw [Curve.ofControlPoints]
    · rw [forM_requireSegment long]
      rfl
    · simp
  rw [deCasteljau, built]
  rfl

end Curves

end Bezier

end ProximalSplitting

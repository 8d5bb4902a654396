import ProximalSplitting.Proofs.Curves.Passage

/-!
Where control points stand in the list of all of them. Every segment contributes its junction point
and then its inner points, so the junction points stand at the partial sums of the degrees and inner
points stand everywhere else.
-/

namespace ProximalSplitting

namespace Bezier

variable {S P : Type}

def picked (start : Nat) (chosen : Nat → Bool) (points : List P) : List P :=
  ((points.zipIdx start).filter fun entry => chosen entry.2).map Prod.fst

section Picking

variable {start : Nat} {chosen other : Nat → Bool} {points : List P}

theorem picked_append (first rest : List P) :
    picked start chosen (first ++ rest) =
      picked start chosen first ++ picked (start + first.length) chosen rest := by
  rw [picked, List.zipIdx_append, List.filter_append, List.map_append]
  rfl

theorem picked_cons (first : P) (rest : List P) :
    picked start chosen (first :: rest) =
      (if chosen start then [first] else []) ++ picked (start + 1) chosen rest := by
  rw [picked, List.zipIdx_cons, List.filter_cons]
  split <;> rfl

theorem picked_eq_self
    (all : ∀ position, start ≤ position → position < start + points.length →
      chosen position = true) : picked start chosen points = points := by
  have kept : ∀ entry ∈ points.zipIdx start, chosen entry.2 = true := by
    rintro ⟨point, position⟩ member
    obtain ⟨low, high, _⟩ := List.mem_zipIdx member
    exact all position low high
  rw [picked, List.filter_eq_self.mpr kept, List.zipIdx_map_fst]

theorem picked_eq_nil
    (none : ∀ position, start ≤ position → position < start + points.length →
      chosen position = false) : picked start chosen points = [] := by
  rw [picked, List.map_eq_nil_iff, List.filter_eq_nil_iff]
  rintro ⟨point, position⟩ member
  obtain ⟨low, high, _⟩ := List.mem_zipIdx member
  simp [none position low high]

theorem picked_congr (same : ∀ position, start ≤ position → chosen position = other position) :
    picked start chosen points = picked start other points := by
  rw [picked, picked]
  congr 1
  apply List.filter_congr
  rintro ⟨point, position⟩ member
  exact same position (List.mem_zipIdx member).1

theorem length_picked_add (start : Nat) (chosen : Nat → Bool) (points : List P) :
    points.length = (picked start chosen points).length +
      (picked start (fun position => !chosen position) points).length := by
  rw [picked, picked, List.length_map, List.length_map, ← List.length_eq_length_filter_add,
    List.length_zipIdx]

end Picking

def junctionPositions (start : Nat) (degrees : List Nat) : List Nat :=
  degrees.scanl (· + ·) start

section Places

variable {start : Nat}

theorem junctionPositions_cons (degree : Nat) (degrees : List Nat) :
    junctionPositions start (degree :: degrees) =
      start :: junctionPositions (start + degree) degrees := List.scanl_cons

theorem le_of_mem_junctionPositions {position : Nat} {degrees : List Nat}
    (member : position ∈ junctionPositions start degrees) : start ≤ position := by
  induction degrees generalizing start with
  | nil =>
      rw [junctionPositions, List.scanl_nil, List.mem_singleton] at member
      exact member.ge
  | cons degree degrees ih =>
      rw [junctionPositions_cons, List.mem_cons] at member
      rcases member with rfl | later
      · exact Nat.le_refl _
      · exact Nat.le_of_add_right_le (ih later)

/-- Of the points of a segment the first one stands at a junction position and the inner ones do
not; from the end of the segment on, the positions are those of the segments that follow. -/
theorem picked_segment (wanted : Bool → Bool) (first : P) (inner later : List P)
    (degrees : List Nat) :
    picked start (fun position =>
        wanted (position ∈ junctionPositions start ((inner.length + 1) :: degrees)))
        (first :: (inner ++ later)) =
      (if wanted true then [first] else []) ++ (if wanted false then inner else []) ++
        picked (start + (inner.length + 1)) (fun position =>
          wanted (position ∈ junctionPositions (start + (inner.length + 1)) degrees)) later := by
  have between : ∀ position, start + 1 ≤ position → position < start + 1 + inner.length →
      position ∉ junctionPositions start ((inner.length + 1) :: degrees) := by
    intro position low high member
    rw [junctionPositions_cons, List.mem_cons] at member
    rcases member with rfl | beyond
    · omega
    · have bound := le_of_mem_junctionPositions beyond
      omega
  have onward : ∀ position, start + (inner.length + 1) ≤ position →
      (position ∈ junctionPositions start ((inner.length + 1) :: degrees) ↔
        position ∈ junctionPositions (start + (inner.length + 1)) degrees) := by
    intro position low
    rw [junctionPositions_cons, List.mem_cons]
    exact or_iff_right (by omega)
  have atStart : start ∈ junctionPositions start ((inner.length + 1) :: degrees) := by
    rw [junctionPositions_cons]
    exact List.mem_cons_self
  have sameInner : picked (start + 1) (fun position =>
        wanted (position ∈ junctionPositions start ((inner.length + 1) :: degrees))) inner =
      if wanted false then inner else [] := by
    split
    next isWanted =>
      refine picked_eq_self fun position low high => ?_
      rwa [decide_eq_false (between position low high)]
    next unwanted =>
      refine picked_eq_nil fun position low high => ?_
      rw [decide_eq_false (between position low high)]
      exact eq_false_of_ne_true unwanted
  have ends : start + 1 + inner.length = start + (inner.length + 1) := by omega
  rw [picked_cons, picked_append, decide_eq_true atStart, sameInner, ends, List.append_assoc]
  congr 2
  refine picked_congr fun position low => ?_
  rw [decide_eq_decide.mpr (onward position low)]

end Places

/-- How the control points of a curve are put together: its segments start in the given points, each
has its inner points in between, and the last one ends in the last point. -/
def laidOut (starts : List P) (segments : List (List P)) (last : P) : List P :=
  (List.zipWith (fun start segment => start :: innerPoints [segment]) starts segments).flatten ++
    [last]

section Layout

variable {segments : List (List P)} (long : ∀ segment ∈ segments, 2 ≤ segment.length)
include long

theorem exists_laidOut (some : segments ≠ []) :
    ∃ starts last, starts.length = segments.length ∧
      junctionPoints segments = (.ok (starts ++ [last]) : Except (Fault S) (List P)) ∧
      mergedPoints segments =
        (.ok (laidOut starts segments last) : Except (Fault S) (List P)) := by
  induction segments with
  | nil => exact absurd rfl some
  | cons segment rest ih =>
      obtain ⟨first, others, rfl⟩ : ∃ first others, segment = first :: others :=
        List.exists_cons_of_length_pos (by have := long segment (by simp); omega)
      have othersSome : others ≠ [] := by
        rintro rfl
        simpa using long [first] (by simp)
      cases rest with
      | nil =>
          refine ⟨[first], (first :: others).getLast (by simp), rfl, junctionPoints_singleton, ?_⟩
          rw [mergedPoints_singleton (by simp)]
          simp [laidOut, innerPoints, List.getLast_cons othersSome, List.dropLast_append_getLast]
      | cons next later =>
          obtain ⟨starts, last, length, junctions, merged⟩ :=
            ih (fun other member => long other (List.mem_cons_of_mem _ member)) (by simp)
          refine ⟨first :: starts, last, congrArg Nat.succ length, junctionPoints_cons junctions, ?_⟩
          rw [mergedPoints_cons _ next later merged]
          simp [laidOut, innerPoints, List.dropLast_cons_of_ne_nil othersSome]

theorem picked_laidOut {starts : List P} (length : starts.length = segments.length) (last : P)
    (start : Nat) :
    picked start (· ∈ junctionPositions start (degreesOf segments))
        (laidOut starts segments last) = starts ++ [last] ∧
      picked start (· ∉ junctionPositions start (degreesOf segments))
        (laidOut starts segments last) = innerPoints segments := by
  induction segments generalizing starts start with
  | nil =>
      obtain rfl := List.eq_nil_of_length_eq_zero length
      simp [laidOut, junctionPositions, degreesOf, picked, innerPoints]
  | cons segment rest ih =>
      obtain ⟨first, others, rfl⟩ := List.exists_cons_of_length_eq_add_one length
      obtain ⟨junctions, inner⟩ := ih (fun other member => long other (List.mem_cons_of_mem _ member))
        (Nat.succ.inj length) (start + ((innerPoints [segment]).length + 1))
      have degree : segment.length - 1 = (innerPoints [segment]).length + 1 := by
        have atLeast := long segment List.mem_cons_self
        simp only [innerPoints, List.flatMap_singleton, List.length_dropLast, List.length_tail]
        omega
      have degrees : degreesOf (segment :: rest) =
          ((innerPoints [segment]).length + 1) :: degreesOf rest := by
        rw [degreesOf, List.map_cons, degree]
        rfl
      have layout : laidOut (first :: others) (segment :: rest) last =
          first :: (innerPoints [segment] ++ laidOut others rest last) := by
        simp [laidOut]
      have split : innerPoints (segment :: rest) = innerPoints [segment] ++ innerPoints rest := by
        simp [innerPoints]
      rw [layout, degrees, split]
      constructor
      · refine (picked_segment id first _ _ _).trans ?_
        simpa using junctions
      · simp only [decide_not] at inner ⊢
        refine (picked_segment not first _ _ _).trans ?_
        simpa using inner

/-- All control points of a curve in order: for each segment its junction point and then its inner
points, and the last junction point at the end. The junction points are the entries at the partial
sums of the degrees; without these entries the inner points are left. -/
theorem junctions_stand_at_partial_sums (some : segments ≠ []) :
    ∃ starts last points, starts.length = segments.length ∧
      junctionPoints segments = (.ok (starts ++ [last]) : Except (Fault S) (List P)) ∧
      mergedPoints segments = (.ok points : Except (Fault S) (List P)) ∧
      innerPoints segments = segments.flatMap (fun segment => innerPoints [segment]) ∧
      points = laidOut starts segments last ∧
      picked 0 (· ∈ junctionPositions 0 (degreesOf segments)) points = starts ++ [last] ∧
      picked 0 (· ∉ junctionPositions 0 (degreesOf segments)) points = innerPoints segments ∧
      points.length = (starts ++ [last]).length + (innerPoints segments).length ∧
      points.length = (degreesOf segments).sum + 1 := by
  obtain ⟨starts, last, length, junctions, merged⟩ := exists_laidOut (S := S) long some
  obtain ⟨atJunctions, elsewhere⟩ := picked_laidOut long length last 0
  obtain ⟨points, mergedToo, count, _⟩ := cut_mergedPoints (S := S) some long
  rw [merged] at mergedToo
  cases mergedToo
  refine ⟨starts, last, _, length, junctions, merged, ?_, rfl, atJunctions, elsewhere, ?_, count⟩
  · simp [innerPoints]
  · rw [← atJunctions, ← elsewhere]
    simp only [decide_not]
    exact length_picked_add _ _ _

end Layout

/-- The segments have the degrees one, three and two, and there is a gap between the first two. -/
theorem sample_junctions_stand :
    ([[1, 2], [3, 4, 5, 6], [6, 7, 8]] : List (List Nat)) ≠ [] ∧
      (∀ segment ∈ [[1, 2], [3, 4, 5, 6], [6, 7, 8]], 2 ≤ segment.length) ∧
      ∃ starts last points, starts.length = 3 ∧
        junctionPoints [[1, 2], [3, 4, 5, 6], [6, 7, 8]] =
          (.ok (starts ++ [last]) : Except (Fault Int) (List Nat)) ∧
        mergedPoints [[1, 2], [3, 4, 5, 6], [6, 7, 8]] =
          (.ok points : Except (Fault Int) (List Nat)) ∧
        picked 0 (· ∈ [0, 1, 4, 6]) points = starts ++ [last] ∧
        picked 0 (· ∉ [0, 1, 4, 6]) points = [4, 5, 7] ∧ points.length = 7 := by
  have long : ∀ segment ∈ [[1, 2], [3, 4, 5, 6], [6, 7, 8]], 2 ≤ segment.length := by decide
  obtain ⟨starts, last, points, length, junctions, merged, -, -, atJunctions, elsewhere, -, count⟩ :=
    junctions_stand_at_partial_sums (S := Int) long (by decide)
  exact ⟨by decide, long, starts, last, points, length, junctions, merged, atJunctions, elsewhere,
    count⟩

end Bezier

end ProximalSplitting

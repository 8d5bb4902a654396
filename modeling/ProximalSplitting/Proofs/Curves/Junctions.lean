import Mathlib.Algebra.BigOperators.Ring.Finset
import Mathlib.Algebra.Order.Ring.Nat
import Mathlib.Data.List.Chain
import ProximalSplitting.Bezier

/-!
Segments and the control points they share. Merging keeps each junction point once, as the start of
the later segment, so cutting the merged points again closes the gaps between segments; points that
were cut are merged to what they were.
-/

namespace ProximalSplitting

namespace Bezier

variable {S P : Type}

def closeGaps : List (List P) → List (List P)
  | segment :: next :: rest => (segment.dropLast ++ next.take 1) :: closeGaps (next :: rest)
  | segments => segments

def Contiguous (segments : List (List P)) : Prop :=
  segments.IsChain fun segment next => segment.getLast? = next.head?

section Merging

theorem lastPoint_singleton {segment : List P} (some : segment ≠ []) :
    (lastPoint [segment] : Except (Fault S) P) = .ok (segment.getLast some) := by
  rw [lastPoint, List.getLast?_singleton, Option.bind_some, List.getLast?_eq_some_getLast some]

theorem lastPoint_cons_cons (segment next : List P) (rest : List (List P)) :
    lastPoint (segment :: next :: rest) = (lastPoint (next :: rest) : Except (Fault S) P) := by
  rw [lastPoint, lastPoint, List.getLast?_cons_cons]

theorem mergedPoints_singleton {segment : List P} (some : segment ≠ []) :
    mergedPoints [segment] = (.ok segment : Except (Fault S) (List P)) := by
  rw [mergedPoints, lastPoint_singleton some, List.flatMap_singleton]
  exact congrArg Except.ok (List.dropLast_append_getLast some)

theorem mergedPoints_cons (segment next : List P) (rest : List (List P)) {points : List P}
    (merged : mergedPoints (next :: rest) = (.ok points : Except (Fault S) (List P))) :
    mergedPoints (segment :: next :: rest) =
      (.ok (segment.dropLast ++ points) : Except (Fault S) (List P)) := by
  rw [mergedPoints] at merged ⊢
  rw [lastPoint_cons_cons]
  cases found : (lastPoint (next :: rest) : Except (Fault S) P) with
  | error fault =>
      rw [found] at merged
      cases merged
  | ok last =>
      rw [found] at merged
      cases merged
      rw [← List.append_assoc]
      rfl

end Merging

section Gaps

theorem dropLast_append_take_eq_iff {segment next : List P} (some : segment ≠ [])
    (nextSome : next ≠ []) :
    segment.dropLast ++ next.take 1 = segment ↔ segment.getLast? = next.head? := by
  obtain ⟨first, later, rfl⟩ := List.exists_cons_of_ne_nil nextSome
  have split : segment.dropLast ++ [segment.getLast some] = segment :=
    List.dropLast_append_getLast some
  rw [List.getLast?_eq_some_getLast some, List.head?_cons, Option.some.injEq]
  constructor
  · intro closed
    have ends : segment.dropLast ++ [first] = segment.dropLast ++ [segment.getLast some] := by
      rw [split]
      simpa using closed
    simpa using (List.append_cancel_left ends).symm
  · intro meets
    rw [← meets] at *
    simpa using split

theorem closeGaps_eq_iff {segments : List (List P)} (some : ∀ segment ∈ segments, segment ≠ []) :
    closeGaps segments = segments ↔ Contiguous segments := by
  induction segments with
  | nil => simp [closeGaps, Contiguous]
  | cons segment rest ih =>
      cases rest with
      | nil => simp [closeGaps, Contiguous]
      | cons next others =>
          have later := ih fun other member => some other (List.mem_cons_of_mem segment member)
          rw [closeGaps, List.cons.injEq, later, Contiguous, Contiguous, List.isChain_cons_cons,
            dropLast_append_take_eq_iff (some segment (by simp)) (some next (by simp))]

end Gaps

def degreesOf (segments : List (List P)) : List Nat :=
  segments.map fun segment => segment.length - 1

theorem take_append_succ {segment next points : List P} (some : next ≠ [])
    (starts : points.head? = next.head?) :
    (segment ++ points).take (segment.length + 1) = segment ++ next.take 1 := by
  obtain ⟨first, later, rfl⟩ := List.exists_cons_of_ne_nil some
  rw [List.take_length_add_append]
  cases points with
  | nil => simp at starts
  | cons point others =>
      simp only [List.head?_cons, Option.some.injEq] at starts
      simp [starts]

theorem cut_mergedPoints {segments : List (List P)} (some : segments ≠ [])
    (long : ∀ segment ∈ segments, 2 ≤ segment.length) :
    ∃ points, mergedPoints segments = (.ok points : Except (Fault S) (List P)) ∧
      points.length = (degreesOf segments).sum + 1 ∧
      points.head? = segments.head?.bind List.head? ∧
      cut points (degreesOf segments) = closeGaps segments := by
  induction segments with
  | nil => exact absurd rfl some
  | cons segment rest ih =>
      have segmentLong := long segment List.mem_cons_self
      have segmentSome : segment ≠ [] := by
        rintro rfl
        simp at segmentLong
      cases rest with
      | nil =>
          refine ⟨segment, mergedPoints_singleton segmentSome, ?_, rfl, ?_⟩
          · simp only [degreesOf, List.map_cons, List.map_nil, List.sum_singleton]
            omega
          · have whole : segment.length - 1 + 1 = segment.length := by omega
            simp [degreesOf, cut, closeGaps, whole]
      | cons next others =>
          obtain ⟨points, merged, length, starts, cuts⟩ := ih (by simp) fun other member =>
            long other (List.mem_cons_of_mem segment member)
          have nextSome : next ≠ [] := by
            have nextLong := long next (by simp)
            rintro rfl
            simp at nextLong
          have degree : segment.length - 1 = segment.dropLast.length := by simp
          -- The first of the merged points stands where the segment ended, so cutting closes the gap.
          refine ⟨segment.dropLast ++ points, mergedPoints_cons segment next others merged,
            ?_, ?_, ?_⟩
          · simp only [degreesOf, List.map_cons, List.sum_cons, List.length_append,
              List.length_dropLast] at length ⊢
            omega
          · obtain ⟨first, second, later, rfl⟩ : ∃ first second later,
                segment = first :: second :: later := by
              match segment, segmentLong with
              | first :: second :: later, _ => exact ⟨first, second, later, rfl⟩
            rfl
          · rw [degreesOf, List.map_cons, cut, closeGaps, degree, take_append_succ nextSome starts,
              List.drop_left]
            exact congrArg _ cuts

theorem mergedPoints_cut {points : List P} {degrees : List Nat} (some : degrees ≠ [])
    (length : points.length = degrees.sum + 1) :
    mergedPoints (cut points degrees) = (.ok points : Except (Fault S) (List P)) := by
  induction degrees generalizing points with
  | nil => exact absurd rfl some
  | cons degree rest ih =>
      rw [List.sum_cons] at length
      cases rest with
      | nil =>
          have pointsSome : points ≠ [] := by
            rintro rfl
            simp at length
          have whole : points.take (degree + 1) = points := by
            apply List.take_of_length_le
            simp at length
            omega
          rw [cut, cut, whole]
          exact mergedPoints_singleton pointsSome
      | cons next others =>
          have later : (points.drop degree).length = (next :: others).sum + 1 := by
            rw [List.length_drop]
            omega
          have front : (points.take (degree + 1)).dropLast = points.take degree := by
            rw [List.dropLast_eq_take, List.length_take, List.take_take]
            congr 1
            omega
          have merged := mergedPoints_cons (points.take (degree + 1)) _ _ (ih (by simp) later)
          rw [front, List.take_append_drop] at merged
          exact merged

section Degrees

theorem jointPoints_eq (degrees : List Int) : jointPoints degrees = degrees.sum + 1 := by
  have shifted : ∀ start : Int, degrees.foldl (· + ·) start = start + degrees.sum := by
    induction degrees with
    | nil => simp
    | cons first rest ih =>
        intro start
        rw [List.foldl_cons, ih, List.sum_cons]
        omega
  rw [jointPoints, shifted]
  omega

def Suits (points : List P) (degrees : List Int) : Prop :=
  (∀ degree ∈ degrees, 1 ≤ degree) ∧ (points.length : Int) = degrees.sum + 1

theorem not_suits_iff {points : List P} {degrees : List Int} :
    ¬ Suits points degrees ↔
      (∃ degree ∈ degrees, degree < 1) ∨ (points.length : Int) ≠ degrees.sum + 1 := by
  rw [Suits, Classical.not_and_iff_not_or_not]
  simp

theorem segmentsOfDegrees_of_suits {points : List P} {degrees : List Int}
    (suits : Suits points degrees) :
    segmentsOfDegrees points degrees =
      (.ok (cut points (degrees.map Int.toNat)) : Except (Fault S) (List (List P))) := by
  have positive : ¬ degrees.any (· < 1) = true := by
    simp only [List.any_eq_true, decide_eq_true_eq, not_exists, not_and]
    intro degree member
    have atLeast := suits.1 degree member
    omega
  have counted : ¬ (points.length : Int) ≠ jointPoints degrees := by
    rw [jointPoints_eq, suits.2]
    simp
  rw [segmentsOfDegrees, if_neg positive, if_neg counted]

theorem segmentsOfDegrees_of_not_suits {points : List P} {degrees : List Int}
    (unsuited : ¬ Suits points degrees) :
    ∃ fault : Fault S, segmentsOfDegrees points degrees = .error fault ∧
      fault.category = .value := by
  rw [segmentsOfDegrees]
  split
  · exact ⟨_, rfl, rfl⟩
  · rename_i positive
    split
    · exact ⟨_, rfl, rfl⟩
    · rename_i counted
      refine absurd ⟨?_, ?_⟩ unsuited
      · simpa using positive
      · rw [← jointPoints_eq]
        simpa using counted

theorem sum_map_toNat {degrees : List Int} (positive : ∀ degree ∈ degrees, 1 ≤ degree) :
    ((degrees.map Int.toNat).sum : Int) = degrees.sum := by
  induction degrees with
  | nil => rfl
  | cons first rest ih =>
      have firstPositive := positive first List.mem_cons_self
      have others := ih fun degree member => positive degree (List.mem_cons_of_mem first member)
      simp only [List.map_cons, List.sum_cons]
      omega

theorem degrees_suit {segments : List (List P)} {points : List P}
    (long : ∀ segment ∈ segments, 2 ≤ segment.length)
    (length : points.length = (degreesOf segments).sum + 1) :
    Suits points (segments.map fun segment => (segment.length : Int) - 1) ∧
      (segments.map fun segment => (segment.length : Int) - 1).map Int.toNat =
        degreesOf segments := by
  have positive :
      ∀ degree ∈ segments.map fun segment => (segment.length : Int) - 1, 1 ≤ degree := by
    intro degree member
    obtain ⟨segment, inside, rfl⟩ := List.mem_map.mp member
    have atLeast := long segment inside
    omega
  have same : (segments.map fun segment => (segment.length : Int) - 1).map Int.toNat =
      degreesOf segments := by
    rw [List.map_map, degreesOf]
    apply List.map_congr_left
    intro segment _
    simp only [Function.comp_apply]
    omega
  refine ⟨⟨positive, ?_⟩, same⟩
  rw [← sum_map_toNat positive, same, length]
  simp

end Degrees

theorem recut_eq {segments : List (List P)} (some : segments ≠ [])
    (long : ∀ segment ∈ segments, 2 ≤ segment.length) :
    recut segments = (.ok (closeGaps segments) : Except (Fault S) (List (List P))) := by
  obtain ⟨points, merged, length, _, cuts⟩ := cut_mergedPoints (S := S) some long
  obtain ⟨suits, same⟩ := degrees_suit long length
  rw [recut, merged]
  refine (segmentsOfDegrees_of_suits suits).trans ?_
  rw [same, cuts]

/-- Merging and cutting undo each other, up to gaps between segments and for points that can be
cut. -/
theorem cut_undoes_merge :
    (∀ segments : List (List P), segments ≠ [] → (∀ segment ∈ segments, 2 ≤ segment.length) →
      recut segments = (.ok (closeGaps segments) : Except (Fault S) (List (List P))) ∧
      (recut segments = (.ok segments : Except (Fault S) (List (List P))) ↔
        Contiguous segments)) ∧
    ∀ (points : List P) (degrees : List Int),
      ((∃ fault : Fault S, segmentsOfDegrees points degrees = .error fault ∧
          fault.category = .value) ↔
        (∃ degree ∈ degrees, degree < 1) ∨ (points.length : Int) ≠ degrees.sum + 1) ∧
      (degrees ≠ [] →
        ¬ ((∃ degree ∈ degrees, degree < 1) ∨ (points.length : Int) ≠ degrees.sum + 1) →
        ∃ segments, segmentsOfDegrees points degrees =
            (.ok segments : Except (Fault S) (List (List P))) ∧
          mergedPoints segments = (.ok points : Except (Fault S) (List P))) := by
  constructor
  · intro segments some long
    have present : ∀ segment ∈ segments, segment ≠ [] := by
      rintro segment member rfl
      simpa using long [] member
    refine ⟨recut_eq some long, ?_⟩
    rw [recut_eq some long, Except.ok.injEq]
    exact closeGaps_eq_iff present
  · intro points degrees
    rw [← not_suits_iff]
    constructor
    · constructor
      · rintro ⟨fault, failed, _⟩ suits
        rw [segmentsOfDegrees_of_suits suits] at failed
        cases failed
      · exact segmentsOfDegrees_of_not_suits
    · intro some suited
      have suits : Suits points degrees := Classical.not_not.mp suited
      have length : points.length = (degrees.map Int.toNat).sum + 1 := by
        have summed := sum_map_toNat suits.1
        have counted := suits.2
        omega
      exact ⟨_, segmentsOfDegrees_of_suits suits, mergedPoints_cut (by simpa using some) length⟩

/-- Three segments of unequal degrees with a gap between the first two. -/
theorem sample_cut_undoes_merge :
    recut [[1, 2], [3, 4, 5, 6], [6, 7, 8]] =
        (.ok [[1, 3], [3, 4, 5, 6], [6, 7, 8]] : Except (Fault Int) (List (List Nat))) ∧
      ¬ Contiguous [[1, 2], [3, 4, 5, 6], [6, 7, 8]] ∧
      ∃ segments, segmentsOfDegrees [1, 2, 3, 4, 5, 6, 7] [1, 3, 2] =
          (.ok segments : Except (Fault Int) (List (List Nat))) ∧
        mergedPoints segments = (.ok [1, 2, 3, 4, 5, 6, 7] : Except (Fault Int) (List Nat)) := by
  obtain ⟨recuts, contiguous⟩ := (cut_undoes_merge (S := Int) (P := Nat)).1
    [[1, 2], [3, 4, 5, 6], [6, 7, 8]] (by decide) (by decide)
  refine ⟨recuts, ?_, ?_⟩
  · rw [← contiguous, recuts]
    intro same
    cases same
  · exact ((cut_undoes_merge (S := Int) (P := Nat)).2 [1, 2, 3, 4, 5, 6, 7] [1, 3, 2]).2 (by decide)
      (by decide)

end Bezier

end ProximalSplitting

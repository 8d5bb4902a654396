import ProximalSplitting.Proofs.Curves.Passage
import ProximalSplitting.Proofs.Curves.Selection

/-!
Curves run backwards. Where geodesics do not depend on the direction in which they are followed, the
levels of a segment listed from its end are those of the segment, each from its end; and as the
segments of a curve without gaps agree where they meet, it makes no difference that a junction
belongs to the other segment after all of them were reversed.
-/

namespace ProximalSplitting

open Compute ExtendedScalar

variable {S F : Type} [Scalar S] [CommRing F] [LinearOrder F] [IsStrictOrderedRing F] [FloorRing F]
  [ExtendedScalar S F]

omit [IsStrictOrderedRing F] in
structure Geometry.Reversible (geometry : Geometry S) (lies : Point S → Prop)
    (path : Point S → Point S → S → Point S) : Prop where
  follows : ∀ start target time, lies start → lies target → Scalar.Within time (1 : F) →
    (geometry.shortestGeodesic start target time).Gives (path start target time)
  stays : ∀ start target time, lies start → lies target → Scalar.Within time (1 : F) →
    lies (path start target time)
  backwards : ∀ start target time, lies start → lies target → Scalar.Within time (1 : F) →
    path start target time = path target start (Scalar.one - time)
  starts : ∀ start target, lies start → lies target → path start target Scalar.zero = start
  ends : ∀ start target, lies start → lies target → path start target Scalar.one = target

section Regions

variable {geometry : Geometry S} {lies : Point S → Prop} {path : Point S → Point S → S → Point S}
  (reversible : geometry.Reversible lies path)
include reversible

omit [IsStrictOrderedRing F] in
theorem Geometry.Reversible.connects : geometry.Connects lies where
  starts := by
    intro start target isStart isTarget
    have gives := reversible.follows start target Scalar.zero isStart isTarget
      ⟨0, Scalar.reading_zero, le_refl 0, zero_le_one⟩
    rwa [reversible.starts start target isStart isTarget] at gives
  ends := by
    intro start target isStart isTarget
    have gives := reversible.follows start target Scalar.one isStart isTarget
      ⟨1, Scalar.reading_one, zero_le_one, le_refl 1⟩
    rwa [reversible.ends start target isStart isTarget] at gives

end Regions

namespace Bezier

section Lists

variable {P : Type} {segments : List (List P)}

theorem Contiguous.meets (contiguous : Contiguous segments) {position : Nat}
    {segment next : List P} (found : segments[position]? = some segment)
    (foundNext : segments[position + 1]? = some next) : segment.getLast? = next.head? := by
  obtain ⟨_, rfl⟩ := List.getElem?_eq_some_iff.mp found
  obtain ⟨inside, rfl⟩ := List.getElem?_eq_some_iff.mp foundNext
  exact List.isChain_iff_getElem.mp contiguous position inside

theorem forall_mem_reversed {holds : List P → Prop}
    (each : ∀ segment ∈ segments, holds segment.reverse) :
    ∀ segment ∈ (segments.map List.reverse).reverse, holds segment := by
  intro segment member
  obtain ⟨other, otherMember, rfl⟩ := List.mem_map.mp (List.mem_reverse.mp member)
  exact each other otherMember

theorem Contiguous.reverse (contiguous : Contiguous segments) :
    Contiguous (segments.map List.reverse).reverse := by
  rw [Contiguous, List.isChain_reverse, List.isChain_map]
  refine contiguous.imp fun segment next meets => ?_
  rw [List.getLast?_reverse, List.head?_reverse, meets]

theorem getElem?_reversed {position rest : Nat} {segment : List P}
    (total : segments.length = position + 1 + rest) (found : segments[position]? = some segment) :
    (segments.map List.reverse).reverse[rest]? = some segment.reverse := by
  have inside : rest < (segments.map List.reverse).length := by
    rw [List.length_map]
    omega
  have other : segments.length - 1 - rest = position := by omega
  rw [List.getElem?_reverse inside, List.length_map, other, List.getElem?_map, found]
  rfl

end Lists

section Regions

variable {geometry : Geometry S} {lies : Point S → Prop} {path : Point S → Point S → S → Point S}

theorem gives_reversed (reversible : geometry.Reversible lies path) {points : List (Point S)}
    {time : S} (some : points ≠ []) (all : ∀ point ∈ points, lies point)
    (inside : Scalar.Within time (1 : F)) :
    ∃ point, (evaluateSegment geometry.shortestGeodesic points time).Gives point ∧
      (evaluateSegment geometry.shortestGeodesic points.reverse (Scalar.one - time)).Gives
        point := by
  have insideToo : Scalar.Within (Scalar.one - time) (1 : F) := by
    obtain ⟨value, reads, low, high⟩ := inside
    exact ⟨1 - value, reading_sub Scalar.reading_one reads, by linarith, by linarith⟩
  have forwards : Joins geometry.shortestGeodesic time lies fun start target =>
      path start target time := by
    constructor
    · intro start target isStart isTarget
      exact reversible.follows start target time isStart isTarget inside
    · intro start target isStart isTarget
      exact reversible.stays start target time isStart isTarget inside
  have backwards : Joins geometry.shortestGeodesic (Scalar.one - time) lies fun start target =>
      path target start time := by
    constructor
    · intro start target isStart isTarget
      rw [reversible.backwards target start time isTarget isStart inside]
      exact reversible.follows start target _ isStart isTarget insideToo
    · intro start target isStart isTarget
      exact reversible.stays target start time isTarget isStart inside
  obtain ⟨point, tip⟩ := exists_tip (fun start target => path start target time) some
  refine ⟨point, forwards.gives_evaluateSegment tip all, ?_⟩
  exact backwards.gives_evaluateSegment tip.reverse (by simpa using all)

theorem head_of_gives {points : List (Point S)} {time : S} {point : Point S}
    (starts : ∀ start target, lies start → lies target →
      (geometry.shortestGeodesic start target time).Gives start)
    (all : ∀ point ∈ points, lies point)
    (gives : (evaluateSegment geometry.shortestGeodesic points time).Gives point) :
    points.head? = some point := by
  cases points with
  | nil =>
      obtain ⟨_, ran⟩ := gives {}
      cases ran
  | cons first rest =>
      obtain ⟨_, ran⟩ := gives {}
      have isFirst := (gives_first starts all rfl).unique ⟨_, _, ran⟩
      rw [isFirst, List.head?_cons]

section Between

variable {segments : List (List (Point S))} {segment : List (Point S)} {position : Nat}
  {parameter place : S} {value : F} {point : Point S} (connects : geometry.Connects lies)
  (contiguous : Contiguous segments) (all : ∀ segment ∈ segments, ∀ point ∈ segment, lies point)
  (found : segments[position]? = some segment) (reads : reading parameter = .number value)
include connects contiguous all found reads

theorem gives_composite_start (starting : value = position) (head : segment.head? = some point) :
    (evaluateComposite geometry.shortestGeodesic segments parameter).Gives point := by
  obtain ⟨inside, _⟩ := List.getElem?_eq_some_iff.mp found
  have low : 0 ≤ value := by
    rw [starting]
    exact Nat.cast_nonneg position
  have high : value ≤ segments.length := by
    rw [starting]
    exact_mod_cast inside.le
  cases position with
  | zero =>
      have selects : Selects parameter value 1 Scalar.zero := .start (by simpa using starting)
      rw [evaluateComposite_of_selects reads low high selects found]
      exact gives_first connects.starts (all segment (List.mem_of_getElem? found)) head
  | succ earlier =>
      have before : earlier < segments.length := by omega
      have foundBefore := List.getElem?_eq_getElem before
      have endsThere : Scalar.one = parameter - Scalar.ofInt (earlier + 1 : Nat) + Scalar.one := by
        refine eq_of_reading Scalar.reading_one ?_
        rw [reading_add (reading_sub reads (reading_ofInt _)) Scalar.reading_one, starting]
        simp
      have selects : Selects parameter value (earlier + 1) Scalar.one := by
        rw [endsThere]
        refine .inside (Nat.le_add_left 1 earlier) ?_ ?_
        · rw [starting]
          linarith
        · rw [starting]
      rw [evaluateComposite_of_selects reads low high selects foundBefore]
      refine gives_last connects.ends (all _ (List.getElem_mem before)) ?_
      rw [contiguous.meets foundBefore found, head]

/-- A curve without gaps is each of its segments from its start to its end. -/
theorem gives_composite_between (low : position ≤ value) (high : value ≤ position + 1)
    (placed : reading place = .number (value - position))
    (gives : (evaluateSegment geometry.shortestGeodesic segment place).Gives point) :
    (evaluateComposite geometry.shortestGeodesic segments parameter).Gives point := by
  by_cases starting : value = position
  · have started : place = Scalar.zero := by
      refine eq_of_reading placed ?_
      rw [Scalar.reading_zero, starting, sub_self]
    rw [started] at gives
    exact gives_composite_start connects contiguous all found reads starting
      (head_of_gives connects.starts (all segment (List.mem_of_getElem? found)) gives)
  · obtain ⟨inside, _⟩ := List.getElem?_eq_some_iff.mp found
    have insideValue : (position : F) + 1 ≤ segments.length := by exact_mod_cast inside
    have after : (position : F) < value := lt_of_le_of_ne low (Ne.symm starting)
    have counted : place = parameter - Scalar.ofInt (position + 1 : Nat) + Scalar.one := by
      refine eq_of_reading placed ?_
      rw [reading_add (reading_sub reads (reading_ofInt _)) Scalar.reading_one]
      push_cast
      congr 1
      ring
    have selects : Selects parameter value (position + 1) place := by
      rw [counted]
      refine .inside (Nat.le_add_left 1 position) ?_ ?_
      · push_cast
        linarith
      · push_cast
        exact high
    have nonneg : 0 ≤ value := le_trans (Nat.cast_nonneg position) low
    rwa [evaluateComposite_of_selects reads nonneg (high.trans insideValue) selects found]

end Between

variable {segments : List (List (Point S))} {parameter : S}

/-- A curve without gaps, with all of its segments reversed and listed from the last one, is the
same curve with the parameter counted from the end. -/
theorem reversed_curve_runs_backwards (reversible : geometry.Reversible lies path)
    (some : segments ≠ []) (long : ∀ segment ∈ segments, 2 ≤ segment.length)
    (contiguous : Contiguous segments) (all : ∀ segment ∈ segments, ∀ point ∈ segment, lies point)
    (inside : Scalar.Within parameter (segments.length : F)) :
    ∃ point, (deCasteljau geometry (.composite segments) parameter).Gives point ∧
      (deCasteljau geometry (.composite (segments.map List.reverse).reverse)
        (Scalar.ofInt segments.length - parameter)).Gives point := by
  obtain ⟨value, reads, low, high⟩ := inside
  obtain ⟨number, place, segment, selects, found⟩ := exists_selected some parameter low high
  have member := List.mem_of_getElem? found
  have segmentSome : segment ≠ [] := by
    rintro rfl
    simpa using long [] member
  obtain ⟨point, gives, givesReversed⟩ :=
    gives_reversed reversible segmentSome (all segment member) (selects.within reads)
  refine ⟨point, ?_, ?_⟩
  · rwa [deCasteljau_composite some long,
      evaluateComposite_of_selects reads low high selects found]
  · obtain ⟨after, upTo⟩ := selects.between
    -- What is left of the curve after the segment comes first in the reversed curve.
    obtain ⟨rest, total⟩ : ∃ rest, segments.length = number - 1 + 1 + rest := by
      have bound := selects.number_le (List.length_pos_iff.mpr some) high
      exact ⟨segments.length - number, by have := selects.counted; omega⟩
    have totalValue : (segments.length : F) = number + rest := by
      have counted := selects.counted
      have same : segments.length = number + rest := by omega
      rw [same, Nat.cast_add]
    have longReversed : ∀ other ∈ (segments.map List.reverse).reverse, 2 ≤ other.length :=
      forall_mem_reversed (by simpa using long)
    have allReversed :
        ∀ other ∈ (segments.map List.reverse).reverse, ∀ point ∈ other, lies point :=
      forall_mem_reversed (by simpa using all)
    rw [deCasteljau_composite (by simpa using some) longReversed]
    refine gives_composite_between reversible.connects contiguous.reverse
      allReversed (getElem?_reversed total found) (reading_sub (reading_ofInt _) reads) ?_ ?_ ?_
      givesReversed
    · push_cast
      linarith
    · push_cast
      linarith
    · rw [reading_sub Scalar.reading_one (selects.reading_place reads)]
      push_cast
      rw [totalValue]
      congr 1
      ring

end Regions

end Bezier

theorem Geometry.Straight.reversible {S : Type} [OrderedScalar S] {geometry : Geometry S}
    {shape : List Nat} (straight : geometry.Straight) (positive : ∀ extent ∈ shape, 0 < extent) :
    geometry.Reversible (fun point => point.hasShape shape = true) Flat.along where
  follows := fun _ _ time startShaped targetShaped _ =>
    straight.gives_along positive startShaped targetShaped time
  stays := fun _ _ time startShaped targetShaped _ =>
    Flat.hasShape_along startShaped targetShaped time
  backwards := by
    intro start target time startShaped targetShaped _
    refine Tensor.eq_of_coordinates (Flat.hasShape_along startShaped targetShaped time)
      (Flat.hasShape_along targetShaped startShaped _) ?_
    rw [Flat.coordinates_along startShaped targetShaped,
      Flat.coordinates_along targetShaped startShaped, Scalar.one_eq]
    module
  starts := by
    intro start target startShaped targetShaped
    rw [Scalar.zero_eq, Flat.along_zero startShaped targetShaped]
  ends := by
    intro start target startShaped targetShaped
    rw [Scalar.one_eq, Flat.along_one startShaped targetShaped]

section Sample

def sampleCurveReversed : List (List (Point ℚ)) :=
  [[plotted 4 0, plotted 3 2, plotted 1 2], [plotted 1 2, plotted 0 0]]

theorem sample_curve_runs_backwards :
    (∃ point,
      (Bezier.deCasteljau (euclidean [2]) (.composite sampleCurve) (5 / 4)).Gives point ∧
        (Bezier.deCasteljau (euclidean [2]) (.composite sampleCurveReversed) (3 / 4)).Gives
          point) ∧
      ∃ point, (Bezier.deCasteljau (euclidean [2]) (.composite sampleCurve) 1).Gives point ∧
        (Bezier.deCasteljau (euclidean [2]) (.composite sampleCurveReversed) 1).Gives point := by
  have straight : (euclidean [2] : Geometry ℚ).Straight := ⟨rfl, rfl, rfl⟩
  have positive : ∀ extent ∈ [2], 0 < extent := by decide
  have reversible := straight.reversible positive
  have later : Scalar.Within (5 / 4 : ℚ) (sampleCurve.length : ℚ) :=
    ⟨5 / 4, rfl, by norm_num, by norm_num [sampleCurve]⟩
  have junction : Scalar.Within (1 : ℚ) (sampleCurve.length : ℚ) :=
    ⟨1, rfl, by norm_num, by norm_num [sampleCurve]⟩
  have givesLater := Bezier.reversed_curve_runs_backwards reversible sampleCurve_ne_nil
    sampleCurve_long sampleCurve_contiguous sampleCurve_shaped later
  have givesJunction := Bezier.reversed_curve_runs_backwards reversible sampleCurve_ne_nil
    sampleCurve_long sampleCurve_contiguous sampleCurve_shaped junction
  have fromEnd : (Scalar.ofInt sampleCurve.length - 5 / 4 : ℚ) = 3 / 4 := by
    rw [ExactScalar.ofInt_eq]
    norm_num [sampleCurve]
  have junctionFromEnd : (Scalar.ofInt sampleCurve.length - 1 : ℚ) = 1 := by
    rw [ExactScalar.ofInt_eq]
    norm_num [sampleCurve]
  rw [fromEnd] at givesLater
  rw [junctionFromEnd] at givesJunction
  exact ⟨givesLater, givesJunction⟩

end Sample

end ProximalSplitting

import ProximalSplitting.Proofs.Curves.Junctions
import ProximalSplitting.Proofs.Curves.Levels
import ProximalSplitting.Proofs.Exact.Extended
import ProximalSplitting.Proofs.Exact.Flat

/-!
Curves pass through their junction points. Where geodesics start in their first point and end in
their second one, a segment starts in its first control point and ends in its last one, so a curve
without gaps is at its junction points whenever the parameter is a whole number.
-/

namespace ProximalSplitting

namespace Bezier

open Compute

section Extraction

variable {S P : Type}

theorem junctionPoints_singleton {first : P} {rest : List P} :
    junctionPoints [first :: rest] =
      (.ok [first, (first :: rest).getLast (by simp)] : Except (Fault S) (List P)) := by
  rw [junctionPoints, lastPoint_singleton (by simp)]
  rfl

theorem junctionPoints_cons {first : P} {others next : List P} {rest : List (List P)}
    {junctions : List P}
    (extracted : junctionPoints (next :: rest) = (.ok junctions : Except (Fault S) (List P))) :
    junctionPoints ((first :: others) :: next :: rest) =
      (.ok (first :: junctions) : Except (Fault S) (List P)) := by
  rw [junctionPoints] at extracted ⊢
  rw [lastPoint_cons_cons, List.mapM_cons]
  generalize (List.mapM _ (next :: rest) : Except (Fault S) (List P)) = found at extracted ⊢
  cases found with
  | error fault => cases extracted
  | ok starts =>
      cases last : (lastPoint (next :: rest) : Except (Fault S) P) with
      | error fault =>
          rw [last] at extracted
          cases extracted
      | ok point =>
          rw [last] at extracted
          cases extracted
          rfl

theorem junctionPoints_of_contiguous {segments : List (List P)} (some : segments ≠ [])
    (present : ∀ segment ∈ segments, segment ≠ []) (contiguous : Contiguous segments) :
    ∃ junctions, junctionPoints segments = (.ok junctions : Except (Fault S) (List P)) ∧
      junctions.length = segments.length + 1 ∧
      ∀ position segment, segments[position]? = .some segment →
        junctions[position]? = segment.head? ∧ junctions[position + 1]? = segment.getLast? := by
  induction segments with
  | nil => exact absurd rfl some
  | cons segment rest ih =>
      obtain ⟨first, others, rfl⟩ := List.exists_cons_of_ne_nil (present segment (by simp))
      cases rest with
      | nil =>
          refine ⟨_, junctionPoints_singleton, rfl, ?_⟩
          intro position found foundAt
          cases position with
          | zero =>
              cases foundAt
              exact ⟨rfl, (List.getLast?_eq_some_getLast _).symm⟩
          | succ position => simp at foundAt
      | cons next later =>
          obtain ⟨meets, laterContiguous⟩ := List.isChain_cons_cons.mp contiguous
          obtain ⟨junctions, extracted, length, ends⟩ := ih (by simp)
            (fun other member => present other (List.mem_cons_of_mem _ member)) laterContiguous
          refine ⟨first :: junctions, junctionPoints_cons extracted, ?_, ?_⟩
          · simp [length]
          · intro position found foundAt
            cases position with
            | zero =>
                cases foundAt
                refine ⟨rfl, ?_⟩
                rw [meets]
                exact (ends 0 next rfl).1
            | succ position => exact ends position found foundAt

end Extraction

variable {S : Type} [Scalar S]

section Whole

variable {segments : List (List (Point S))} {segment : List (Point S)} {geodesic : Geodesic S}
  {number : Nat} (counts : Scalar.CountsTo S segments.length)
include counts

theorem evaluateComposite_whole (inside : number ≤ segments.length) :
    evaluateComposite geodesic segments (Scalar.ofInt number) = (do
      let segment ← expect .outsideList segments[max number 1 - 1]?
      evaluateSegment geodesic segment (if number = 0 then Scalar.zero else Scalar.one)) := by
  have low : Scalar.atMost (Scalar.zero : S) (Scalar.ofInt number) = true :=
    (counts.atMost (Nat.zero_le _) inside).mpr (Nat.zero_le number)
  have high : Scalar.atMost (Scalar.ofInt number : S) (Scalar.ofInt segments.length) = true :=
    (counts.atMost inside (Nat.le_refl _)).mpr inside
  have rounded : segmentNumber (Scalar.ofInt number : S) = number := by
    rw [segmentNumber, counts.ceiling inside, Int.toNat_natCast]
  rw [evaluateComposite]
  refine (if_pos (by rw [low, high]; rfl)).trans ?_
  rw [localParameter, rounded, counts.restart inside]

theorem evaluateComposite_start (found : segments[0]? = some segment) :
    evaluateComposite geodesic segments (Scalar.ofInt (0 : Nat)) =
      evaluateSegment geodesic segment Scalar.zero := by
  rw [evaluateComposite_whole counts (Nat.zero_le _)]
  change (expect .outsideList segments[0]? >>= _) = _
  rw [found]
  rfl

theorem evaluateComposite_end (found : segments[number]? = some segment) :
    evaluateComposite geodesic segments (Scalar.ofInt ((number + 1 : Nat) : Int)) =
      evaluateSegment geodesic segment Scalar.one := by
  obtain ⟨before, _⟩ := List.getElem?_eq_some_iff.mp found
  have position : max (number + 1) 1 - 1 = number := by omega
  rw [evaluateComposite_whole counts before, position, found]
  rfl

end Whole

section Ends

variable {points : List (Point S)} {geodesic : Geodesic S} {bound : Nat}
  (counts : Scalar.CountsTo S bound) (some : 1 ≤ bound)
include counts some

theorem evaluate_segment_zero :
    (Curve.segment points).evaluate geodesic Scalar.zero =
      evaluateSegment geodesic points Scalar.zero := by
  have low : Scalar.atMost (Scalar.zero : S) Scalar.zero = true :=
    (counts.atMost (Nat.zero_le bound) (Nat.zero_le bound)).mpr (Nat.le_refl 0)
  have high : Scalar.atMost (Scalar.zero : S) Scalar.one = true :=
    (counts.atMost (Nat.zero_le bound) some).mpr (Nat.zero_le 1)
  exact if_pos (by rw [low, high]; rfl)

theorem evaluate_segment_one :
    (Curve.segment points).evaluate geodesic Scalar.one =
      evaluateSegment geodesic points Scalar.one := by
  have low : Scalar.atMost (Scalar.zero : S) Scalar.one = true :=
    (counts.atMost (Nat.zero_le bound) some).mpr (Nat.zero_le 1)
  have high : Scalar.atMost (Scalar.one : S) Scalar.one = true :=
    (counts.atMost some some).mpr (Nat.le_refl 1)
  exact if_pos (by rw [low, high]; rfl)

end Ends

end Bezier

structure Geometry.Connects {S : Type} [Scalar S] (geometry : Geometry S)
    (lies : Point S → Prop) : Prop where
  starts : ∀ start target, lies start → lies target →
    (geometry.shortestGeodesic start target Scalar.zero).Gives start
  ends : ∀ start target, lies start → lies target →
    (geometry.shortestGeodesic start target Scalar.one).Gives target

namespace Bezier

/-- A curve without gaps is at its junction points at the whole numbers of its domain, and at an
inner one both segments that meet there are at it. -/
theorem curve_passes_junctions {S : Type} [Scalar S] {geometry : Geometry S}
    {lies : Point S → Prop} (connects : geometry.Connects lies) {segments : List (List (Point S))}
    (counts : Scalar.CountsTo S segments.length) (some : segments ≠ [])
    (long : ∀ segment ∈ segments, 2 ≤ segment.length) (contiguous : Contiguous segments)
    (all : ∀ segment ∈ segments, ∀ point ∈ segment, lies point) :
    ∃ junctions, junctionPoints segments = (.ok junctions : Except (Fault S) (List (Point S))) ∧
      junctions.length = segments.length + 1 ∧
      (∀ (number : Nat) (junction : Point S), junctions[number]? = .some junction →
        (deCasteljau geometry (.composite segments) (Scalar.ofInt number)).Gives junction) ∧
      ∀ (number : Nat) (segment next : List (Point S)), segments[number]? = .some segment →
        segments[number + 1]? = .some next →
        ∃ junction, junctions[number + 1]? = .some junction ∧
          (deCasteljau geometry (.segment segment) Scalar.one).Gives junction ∧
          (deCasteljau geometry (.segment next) Scalar.zero).Gives junction := by
  have present : ∀ segment ∈ segments, segment ≠ [] := by
    rintro segment member rfl
    simpa using long [] member
  have several : 1 ≤ segments.length := List.length_pos_iff.mpr some
  obtain ⟨junctions, extracted, length, ends⟩ :=
    junctionPoints_of_contiguous some present contiguous
  refine ⟨junctions, extracted, length, ?_, ?_⟩
  · intro number junction found
    rw [deCasteljau_composite some long]
    cases number with
    | zero =>
        have foundFirst := List.getElem?_eq_getElem several
        rw [evaluateComposite_start counts foundFirst]
        refine gives_first connects.starts (all _ (List.getElem_mem several)) ?_
        rw [← found]
        exact (ends 0 _ foundFirst).1.symm
    | succ number =>
        have before : number < segments.length := by
          obtain ⟨inside, _⟩ := List.getElem?_eq_some_iff.mp found
          omega
        have foundSegment := List.getElem?_eq_getElem before
        rw [evaluateComposite_end counts foundSegment]
        refine gives_last connects.ends (all _ (List.getElem_mem before)) ?_
        rw [← found]
        exact (ends number _ foundSegment).2.symm
  · intro number segment next foundSegment foundNext
    have segmentMember := List.mem_of_getElem? foundSegment
    have nextMember := List.mem_of_getElem? foundNext
    have last := List.getLast?_eq_some_getLast (present segment segmentMember)
    have foundJunction := (ends number segment foundSegment).2.trans last
    refine ⟨_, foundJunction, ?_, ?_⟩
    · rw [deCasteljau_segment (long segment segmentMember), evaluate_segment_one counts several]
      exact gives_last connects.ends (all segment segmentMember) last
    · rw [deCasteljau_segment (long next nextMember), evaluate_segment_zero counts several]
      refine gives_first connects.starts (all next nextMember) ?_
      rw [← foundJunction]
      exact (ends (number + 1) next foundNext).1.symm

end Bezier

theorem Geometry.Straight.connects {S : Type} [ExactScalar S] {geometry : Geometry S}
    {shape : List Nat} (straight : geometry.Straight) (positive : ∀ extent ∈ shape, 0 < extent) :
    geometry.Connects fun point => point.hasShape shape = true where
  starts := by
    intro start target startShaped targetShaped
    have gives := straight.gives_along positive startShaped targetShaped 0
    rwa [Flat.along_zero startShaped targetShaped, ← Scalar.zero_eq] at gives
  ends := by
    intro start target startShaped targetShaped
    have gives := straight.gives_along positive startShaped targetShaped 1
    rwa [Flat.along_one startShaped targetShaped, ← Scalar.one_eq] at gives

section Sample

def plotted (abscissa ordinate : ℚ) : Point ℚ := .stack [.scalar abscissa, .scalar ordinate]

def sampleCurve : List (List (Point ℚ)) :=
  [[plotted 0 0, plotted 1 2], [plotted 1 2, plotted 3 2, plotted 4 0]]

theorem sampleCurve_ne_nil : sampleCurve ≠ [] := by simp [sampleCurve]

theorem sampleCurve_long : ∀ segment ∈ sampleCurve, 2 ≤ segment.length := by simp [sampleCurve]

theorem sampleCurve_contiguous : Bezier.Contiguous sampleCurve := by
  simp [Bezier.Contiguous, sampleCurve]

theorem sampleCurve_shaped :
    ∀ segment ∈ sampleCurve, ∀ point ∈ segment, point.hasShape [2] = true := by
  simp [sampleCurve, plotted, Tensor.hasShape, Tensor.allHaveShape]

theorem sample_curve_passes_junctions :
    Bezier.junctionPoints sampleCurve =
        (.ok [plotted 0 0, plotted 1 2, plotted 4 0] : Except (Fault ℚ) (List (Point ℚ))) ∧
      (Bezier.deCasteljau (euclidean [2]) (.composite sampleCurve) 2).Gives (plotted 4 0) ∧
      (Bezier.deCasteljau (euclidean [2]) (.segment [plotted 0 0, plotted 1 2])
        Scalar.one).Gives (plotted 1 2) ∧
      (Bezier.deCasteljau (euclidean [2]) (.segment [plotted 1 2, plotted 3 2, plotted 4 0])
        Scalar.zero).Gives (plotted 1 2) := by
  have straight : (euclidean [2] : Geometry ℚ).Straight := ⟨rfl, rfl, rfl⟩
  have positive : ∀ extent ∈ [2], 0 < extent := by decide
  have connects := straight.connects positive
  obtain ⟨junctions, extracted, _, passes, meets⟩ :=
    Bezier.curve_passes_junctions connects (ExtendedScalar.countsTo 2) sampleCurve_ne_nil
      sampleCurve_long sampleCurve_contiguous sampleCurve_shaped
  have same : Bezier.junctionPoints sampleCurve =
      (.ok [plotted 0 0, plotted 1 2, plotted 4 0] : Except (Fault ℚ) (List (Point ℚ))) := rfl
  rw [same] at extracted
  cases extracted
  obtain ⟨_, ⟨⟩, ending, starting⟩ := meets 0 _ _ rfl rfl
  exact ⟨same, passes 2 _ rfl, ending, starting⟩

end Sample

end ProximalSplitting

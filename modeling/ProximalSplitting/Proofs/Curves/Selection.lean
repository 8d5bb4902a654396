import ProximalSplitting.Proofs.Curves.Levels
import ProximalSplitting.Proofs.Exact.Extended

/-!
Which segment of a composite curve a parameter belongs to. Segments are closed where they end and
open where they start, the first one excepted, so every parameter of the domain falls into exactly
one of them; the curve is that segment at the parameter counted from its start, and all other
parameters, infinite and undefined ones included, are refused before any point is looked at.
-/

namespace ProximalSplitting

open Compute ExtendedScalar

theorem Tensor.ensures_combine {S : Type} (operation : S → S → S) (left right : Tensor S) :
    (Tensor.combine operation left right).Ensures (fun fault => fault.category ≠ .domain)
      fun _ => True := by
  intro journal
  rw [combine]
  cases combine? operation left right with
  | some combined => exact trivial
  | none =>
      by_cases ranks : left.rank = right.rank
      · rw [if_pos ranks]
        exact fun absurdity => nomatch absurdity
      · rw [if_neg ranks]
        exact fun absurdity => nomatch absurdity

namespace Bezier

variable {S F : Type} [Scalar S] [CommRing F] [LinearOrder F]

inductive Selects (parameter : S) (value : F) : Nat → S → Prop
  | start (zero : value = 0) : Selects parameter value 1 Scalar.zero
  | inside {number : Nat} (counted : 1 ≤ number) (after : (number : F) - 1 < value)
      (upTo : value ≤ number) :
      Selects parameter value number (parameter - Scalar.ofInt number + Scalar.one)

section Selected

variable {parameter place : S} {value : F} {number count : Nat}

theorem Selects.counted (selects : Selects parameter value number place) : 1 ≤ number := by
  cases selects with
  | start => exact Nat.le_refl 1
  | inside counted => exact counted

variable [IsStrictOrderedRing F]

theorem not_after_of_zero (counted : 1 ≤ number) : ¬ (number : F) - 1 < 0 := by
  have atLeast : (1 : F) ≤ number := by exact_mod_cast counted
  linarith

theorem number_unique {other : Nat} (after : (number : F) - 1 < value) (upTo : value ≤ number)
    (afterOther : (other : F) - 1 < value) (upToOther : value ≤ other) : other = number := by
  have first : (other : F) < number + 1 := by linarith
  have second : (number : F) < other + 1 := by linarith
  have firstNumber : other < number + 1 := by exact_mod_cast first
  have secondNumber : number < other + 1 := by exact_mod_cast second
  omega

theorem Selects.unique {other : Nat} {elsewhere : S}
    (selects : Selects parameter value number place)
    (again : Selects parameter value other elsewhere) : other = number ∧ elsewhere = place := by
  cases selects with
  | start zero =>
      cases again with
      | start => exact ⟨rfl, rfl⟩
      | inside counted after =>
          rw [zero] at after
          exact absurd after (not_after_of_zero counted)
  | inside counted after upTo =>
      cases again with
      | start zero =>
          rw [zero] at after
          exact absurd after (not_after_of_zero counted)
      | inside _ afterOther upToOther =>
          cases number_unique after upTo afterOther upToOther
          exact ⟨rfl, rfl⟩

theorem Selects.between (selects : Selects parameter value number place) :
    (number : F) - 1 ≤ value ∧ value ≤ number := by
  cases selects with
  | start zero =>
      rw [zero, Nat.cast_one, sub_self]
      exact ⟨le_refl 0, zero_le_one⟩
  | inside _ after upTo => exact ⟨after.le, upTo⟩

theorem Selects.number_le (selects : Selects parameter value number place) (some : 1 ≤ count)
    (high : value ≤ count) : number ≤ count := by
  cases selects with
  | start => exact some
  | inside _ after =>
      have below : (number : F) < count + 1 := by linarith
      have belowNumber : number < count + 1 := by exact_mod_cast below
      omega

variable [FloorRing F]

theorem exists_selects (parameter : S) (low : 0 ≤ value) :
    ∃ number place, Selects parameter value number place := by
  by_cases zero : value = 0
  · exact ⟨1, _, .start zero⟩
  · have positive : 0 < value := lt_of_le_of_ne low (Ne.symm zero)
    refine ⟨⌈value⌉₊, _, .inside (Nat.one_le_ceil_iff.mpr positive) ?_ (Nat.le_ceil value)⟩
    have below := Nat.ceil_lt_add_one low
    linarith

variable [ExtendedScalar S F] (reads : reading parameter = .number value)
include reads

omit [IsStrictOrderedRing F] in
theorem Selects.reading_place (selects : Selects parameter value number place) :
    reading place = .number (value - number + 1) := by
  cases selects with
  | start zero => rw [Scalar.reading_zero, zero, Nat.cast_one, zero_sub, neg_add_cancel]
  | inside =>
      refine reading_add (reading_sub reads ?_) Scalar.reading_one
      rw [reading_ofInt, Int.cast_natCast]

theorem Selects.within (selects : Selects parameter value number place) :
    Scalar.Within place (1 : F) := by
  obtain ⟨after, upTo⟩ := selects.between
  refine ⟨_, selects.reading_place reads, ?_, ?_⟩
  · linarith
  · linarith

theorem Selects.found (selects : Selects parameter value number place) :
    max (segmentNumber parameter) 1 = number ∧ localParameter parameter = place := by
  cases selects with
  | start zero =>
      have rounded : segmentNumber parameter = 0 := by
        rw [segmentNumber, ceiling_eq reads, zero, Int.ceil_zero, Int.toNat_zero]
      rw [localParameter, rounded, if_pos rfl]
      exact ⟨rfl, rfl⟩
  | inside counted after upTo =>
      have rounded : segmentNumber parameter = number := by
        have up : ⌈value⌉ = number :=
          Int.ceil_eq_iff.mpr ⟨by simpa using after, by simpa using upTo⟩
        rw [segmentNumber, ceiling_eq reads, up, Int.toNat_natCast]
      rw [localParameter, rounded, if_neg (by omega), max_eq_left counted]
      exact ⟨rfl, rfl⟩

omit [IsStrictOrderedRing F] in
/-- In the first segment the local parameter is the parameter. -/
theorem Selects.place_eq (selects : Selects parameter value 1 place) : place = parameter := by
  refine eq_of_reading (selects.reading_place reads) ?_
  rw [reads, Nat.cast_one, sub_add_cancel]

end Selected

variable [IsStrictOrderedRing F] [FloorRing F] [ExtendedScalar S F]

section Evaluation

variable {geodesic : Geodesic S} {segments : List (List (Point S))} {parameter place : S}

theorem evaluateComposite_of_selects {value : F} {number : Nat} {segment : List (Point S)}
    (reads : reading parameter = .number value) (low : 0 ≤ value) (high : value ≤ segments.length)
    (selects : Selects parameter value number place)
    (found : segments[number - 1]? = some segment) :
    evaluateComposite geodesic segments parameter = evaluateSegment geodesic segment place := by
  obtain ⟨sameNumber, samePlace⟩ := selects.found reads
  have inside := (Scalar.within_iff parameter segments.length).mpr ⟨value, reads, low, high⟩
  rw [evaluateComposite]
  refine (if_pos inside).trans ?_
  rw [sameNumber, samePlace, found]
  rfl

omit [IsStrictOrderedRing F] in
theorem evaluateComposite_of_not_within
    (outside : ¬ Scalar.Within parameter (segments.length : F)) :
    evaluateComposite geodesic segments parameter =
      fail (.outsideDomain (.real parameter) (.integer 0) (.integer segments.length)) := by
  rw [evaluateComposite]
  exact if_neg fun inside => outside ((Scalar.within_iff parameter segments.length).mp inside)

omit [IsStrictOrderedRing F] in
theorem evaluate_segment_of_within {points : List (Point S)}
    (inside : Scalar.Within parameter (1 : F)) :
    (Curve.segment points).evaluate geodesic parameter =
      evaluateSegment geodesic points parameter := by
  refine if_pos ((Scalar.within_iff parameter 1).mpr ?_)
  rwa [Nat.cast_one]

omit [IsStrictOrderedRing F] in
theorem evaluate_segment_of_not_within {points : List (Point S)}
    (outside : ¬ Scalar.Within parameter (1 : F)) :
    (Curve.segment points).evaluate geodesic parameter =
      fail (.outsideDomain (.real parameter) (.integer 0) (.integer 1)) := by
  refine if_neg fun inside => outside ?_
  rw [← Nat.cast_one]
  exact (Scalar.within_iff parameter 1).mp inside

end Evaluation

section Curves

variable {geometry : Geometry S} {segments : List (List (Point S))} (some : segments ≠ [])
  (long : ∀ segment ∈ segments, 2 ≤ segment.length) {parameter : S}
include some long

omit [IsStrictOrderedRing F] in
theorem deCasteljau_of_not_within (outside : ¬ Scalar.Within parameter (segments.length : F)) :
    deCasteljau geometry (.composite segments) parameter =
      fail (.outsideDomain (.real parameter) (.integer 0) (.integer segments.length)) := by
  rw [deCasteljau_composite some long, evaluateComposite_of_not_within outside]

variable {value : F} {number : Nat} {place : S} {segment : List (Point S)}
  (reads : reading parameter = .number value) (low : 0 ≤ value) (high : value ≤ segments.length)
  (selects : Selects parameter value number place) (found : segments[number - 1]? = .some segment)
include reads low high selects found

theorem deCasteljau_of_selects :
    deCasteljau geometry (.composite segments) parameter =
      deCasteljau geometry (.segment segment) place := by
  have segmentLong := long segment (List.mem_of_getElem? found)
  rw [deCasteljau_composite some long, deCasteljau_segment segmentLong,
    evaluateComposite_of_selects reads low high selects found,
    evaluate_segment_of_within (selects.within reads)]

theorem ensures_deCasteljau :
    (deCasteljau geometry (.composite segments) parameter).Ensures
      (GeodesicRaises geometry.shortestGeodesic place) fun _ => True := by
  have segmentLong := long segment (List.mem_of_getElem? found)
  have segmentSome : segment ≠ [] := by
    rintro rfl
    simp at segmentLong
  rw [deCasteljau_composite some long, evaluateComposite_of_selects reads low high selects found]
  exact ensures_evaluateSegment segmentSome

end Curves

section Whole

variable {geometry : Geometry S}

omit [ExtendedScalar S F] in
theorem exists_selected {segments : List (List (Point S))} (some : segments ≠ []) (parameter : S)
    {value : F} (low : 0 ≤ value) (high : value ≤ segments.length) :
    ∃ number place segment, Selects parameter value number place ∧
      segments[number - 1]? = .some segment := by
  obtain ⟨number, place, selects⟩ := exists_selects parameter low
  have bound : number ≤ segments.length := selects.number_le (List.length_pos_iff.mpr some) high
  have counted := selects.counted
  have before : number - 1 < segments.length := by omega
  exact ⟨number, place, segments[number - 1], selects, List.getElem?_eq_getElem before⟩

variable (F) in
include F in
theorem deCasteljau_singleton {segment : List (Point S)} (long : 2 ≤ segment.length)
    (parameter : S) :
    deCasteljau geometry (.composite [segment]) parameter =
      deCasteljau geometry (.segment segment) parameter := by
  have some : [segment] ≠ [] := by simp
  have allLong : ∀ member ∈ [segment], 2 ≤ member.length := by simpa using long
  by_cases inside : Scalar.Within parameter (1 : F)
  · obtain ⟨value, reads, low, high⟩ := inside
    have highCount : value ≤ ([segment].length : F) := by simpa using high
    obtain ⟨number, place, selected, selects, found⟩ := exists_selected some parameter low highCount
    have only : number = 1 :=
      Nat.le_antisymm (selects.number_le (Nat.le_refl 1) highCount) selects.counted
    subst only
    rw [deCasteljau_of_selects some allLong reads low highCount selects found,
      selects.place_eq reads]
    cases found
    rfl
  · have outside : ¬ Scalar.Within parameter ([segment].length : F) := by simpa using inside
    rw [deCasteljau_of_not_within some allLong outside, deCasteljau_segment long,
      evaluate_segment_of_not_within inside]
    rfl

variable {segments : List (List (Point S))} (some : segments ≠ [])
  (long : ∀ segment ∈ segments, 2 ≤ segment.length) (parameter : S)
include some long

variable (F) in
include F in
/-- Unless geodesics refuse parameters themselves, only those outside of the domain are refused. -/
theorem raises_domain_iff (quiet : ∀ time fault,
      GeodesicRaises geometry.shortestGeodesic time fault → fault.category ≠ .domain)
    (journal : Journal) :
    (∃ fault, (deCasteljau geometry (.composite segments) parameter).Raises journal fault ∧
      fault.category = .domain) ↔ ¬ Scalar.Within parameter (segments.length : F) := by
  constructor
  · rintro ⟨fault, raises, domain⟩ ⟨value, reads, low, high⟩
    obtain ⟨number, place, segment, selects, found⟩ := exists_selected some parameter low high
    have onGeodesics : (deCasteljau geometry (.composite segments) parameter).Ensures
        (GeodesicRaises geometry.shortestGeodesic place) fun _ => True :=
      ensures_deCasteljau some long reads low high selects found
    have ensured := onGeodesics journal
    rw [raises] at ensured
    exact quiet place fault ensured domain
  · intro outside
    rw [deCasteljau_of_not_within some long outside]
    exact ⟨_, rfl, rfl⟩

/-- A composite curve refuses exactly the parameters that do not stand for a number of its domain.
At the others it is one of its segments at a local parameter: the segment that the parameter falls
into, which is there, and no other one matters. Whatever goes wrong then does so on a geodesic. -/
theorem curve_is_one_segment :
    (¬ Scalar.Within parameter (segments.length : F) →
      deCasteljau geometry (.composite segments) parameter =
        fail (.outsideDomain (.real parameter) (.integer 0) (.integer segments.length))) ∧
    ((∀ time fault, GeodesicRaises geometry.shortestGeodesic time fault →
        fault.category ≠ .domain) → ∀ journal,
      ((∃ fault, (deCasteljau geometry (.composite segments) parameter).Raises journal fault ∧
        fault.category = .domain) ↔ ¬ Scalar.Within parameter (segments.length : F))) ∧
    (∀ value : F, reading parameter = .number value → 0 ≤ value → value ≤ segments.length →
      ∃ number place segment, Selects parameter value number place ∧
        (∀ other elsewhere, Selects parameter value other elsewhere →
          other = number ∧ elsewhere = place) ∧
        segments[number - 1]? = .some segment ∧ Scalar.Within place (1 : F) ∧
        deCasteljau geometry (.composite segments) parameter =
          deCasteljau geometry (.segment segment) place ∧
        ((deCasteljau geometry (.composite segments) parameter).Ensures
          (GeodesicRaises geometry.shortestGeodesic place) fun _ => True) ∧
        ∀ others : List (List (Point S)), others.length = segments.length →
          (∀ other ∈ others, 2 ≤ other.length) → others[number - 1]? = .some segment →
          deCasteljau geometry (.composite others) parameter =
            deCasteljau geometry (.composite segments) parameter) ∧
    ∀ segment, segments = [segment] →
      deCasteljau geometry (.composite segments) parameter =
        deCasteljau geometry (.segment segment) parameter := by
  refine ⟨deCasteljau_of_not_within some long, raises_domain_iff F some long parameter, ?_, ?_⟩
  · intro value reads low high
    obtain ⟨number, place, segment, selects, found⟩ := exists_selected some parameter low high
    have evaluates : deCasteljau geometry (.composite segments) parameter =
        deCasteljau geometry (.segment segment) place :=
      deCasteljau_of_selects some long reads low high selects found
    refine ⟨number, place, segment, selects, fun _ _ again => selects.unique again, found,
      selects.within reads, evaluates,
      ensures_deCasteljau some long reads low high selects found, ?_⟩
    intro others sameLength othersLong foundToo
    have othersSome : others ≠ [] := by
      rintro rfl
      simp at foundToo
    rw [← sameLength] at high
    rw [evaluates, deCasteljau_of_selects othersSome othersLong reads low high selects foundToo]
  · rintro segment rfl
    exact deCasteljau_singleton F (long segment (by simp)) parameter

end Whole

section Sample

/-- Lines in Euclidean space do not know of domains. -/
theorem quiet_euclidean {S : Type} [Scalar S] {shape : List Nat} {time : S} {fault : Fault S}
    (raises : GeodesicRaises (euclidean shape).shortestGeodesic time fault) :
    fault.category ≠ .domain := by
  obtain ⟨start, target, journal, raised⟩ := raises
  have line : ((euclidean shape).shortestGeodesic start target time).Ensures
      (fun fault => fault.category ≠ .domain) fun _ => True := by
    refine ((Tensor.ensures_combine _ target start).compiledAs _).bind fun direction _ => ?_
    exact (Tensor.ensures_combine _ start (direction.scale time)).compiledAs _
  have ensured := line journal
  rw [raised] at ensured
  exact ensured

def sampleMark (entry : ℚ) : Point (Extended ℚ) := .scalar (.number entry)

def sampleSegments : List (List (Point (Extended ℚ))) :=
  [[sampleMark 0, sampleMark 4], [sampleMark 4, sampleMark 1, sampleMark 7]]

/-- Infinite and undefined parameters, and one in the second of two segments. -/
theorem sample_curve_is_one_segment :
    deCasteljau (euclidean []) (.composite sampleSegments) .undefined =
        fail (.outsideDomain (.real .undefined) (.integer 0) (.integer 2)) ∧
      deCasteljau (euclidean []) (.composite sampleSegments) (.infinite false) =
        fail (.outsideDomain (.real (.infinite false)) (.integer 0) (.integer 2)) ∧
      (∀ journal, ¬ ∃ fault, (deCasteljau (euclidean []) (.composite sampleSegments)
        (.number (5 / 4))).Raises journal fault ∧ fault.category = .domain) ∧
      deCasteljau (euclidean []) (.composite sampleSegments) (.number (5 / 4)) =
        deCasteljau (euclidean []) (.segment [sampleMark 4, sampleMark 1, sampleMark 7])
          (.number (1 / 4)) := by
  have some : sampleSegments ≠ [] := by simp [sampleSegments]
  have long : ∀ segment ∈ sampleSegments, 2 ≤ segment.length := by
    simp [sampleSegments]
  have quiet : ∀ (time : Extended ℚ) (fault : Fault (Extended ℚ)),
      GeodesicRaises (euclidean []).shortestGeodesic time fault → fault.category ≠ .domain :=
    fun _ _ => quiet_euclidean
  have undefinedOutside :
      ¬ Scalar.Within (.undefined : Extended ℚ) (sampleSegments.length : ℚ) := by
    rintro ⟨_, ⟨⟩, _⟩
  have infiniteOutside :
      ¬ Scalar.Within (.infinite false : Extended ℚ) (sampleSegments.length : ℚ) := by
    rintro ⟨_, ⟨⟩, _⟩
  have low : (0 : ℚ) ≤ 5 / 4 := by norm_num
  have high : (5 / 4 : ℚ) ≤ sampleSegments.length := by norm_num [sampleSegments]
  obtain ⟨_, domain, inside, _⟩ :=
    @curve_is_one_segment _ _ _ _ _ _ _ _ (euclidean []) _ some long (.number (5 / 4))
  obtain ⟨number, place, segment, _, unique, found, _, evaluates, _⟩ := inside (5 / 4) rfl low high
  have place_eq : (.number (5 / 4) : Extended ℚ) - Scalar.ofInt 2 + Scalar.one = .number (1 / 4) :=
    congrArg Extended.number (by norm_num : (5 / 4 : ℚ) + -2 + 1 = 1 / 4)
  have selects : Selects (.number (5 / 4) : Extended ℚ) (5 / 4 : ℚ) 2 (.number (1 / 4)) := by
    rw [← place_eq]
    exact .inside (by omega) (by norm_num) (by norm_num)
  obtain ⟨rfl, rfl⟩ := unique _ _ selects
  cases found
  refine ⟨?_, ?_, ?_, evaluates⟩
  · exact (curve_is_one_segment some long .undefined).1 undefinedOutside
  · exact (curve_is_one_segment some long (.infinite false)).1 infiniteOutside
  · intro journal raised
    exact (domain quiet journal).mp raised ⟨5 / 4, rfl, low, high⟩

end Sample

end Bezier

end ProximalSplitting

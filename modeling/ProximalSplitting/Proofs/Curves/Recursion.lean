import Mathlib.Tactic.Ring
import ProximalSplitting.Proofs.Curves.Levels

/-!
The recursive definition of a segment. A segment is the geodesic between two shorter segments, one
without the last control point and one without the first; the table of all shorter segments is
filled from the control points upwards, so that each of its entries is computed once. Nothing is
assumed of the geodesics but that a point, or none, belongs to every pair of points.
-/

namespace ProximalSplitting

namespace Compute

variable {S α β item : Type}

def AmountsTo (computation : Compute S α) (value : Option α) : Prop :=
  ∀ journal, (computation.run journal).1.toOption = value

theorem amountsTo_pure (value : α) : (pure value : Compute S α).AmountsTo (some value) :=
  fun _ => rfl

theorem AmountsTo.gives {computation : Compute S α} {value : Option α} {found : α}
    (amounts : computation.AmountsTo value) (present : value = some found) :
    computation.Gives found := by
  intro journal
  have outcome := amounts journal
  rcases ran : computation.run journal with ⟨fault | other, after⟩
  · rw [ran, present] at outcome
    cases outcome
  · rw [ran, present] at outcome
    cases outcome
    exact ⟨after, rfl⟩

theorem AmountsTo.bind {first : Compute S α} {next : α → Compute S β} {value : Option α}
    {rest : α → Option β} (amounts : first.AmountsTo value)
    (following : ∀ found, value = some found → (next found).AmountsTo (rest found)) :
    (first >>= next).AmountsTo (value >>= rest) := by
  intro journal
  have outcome := amounts journal
  rcases ran : first.run journal with ⟨fault | found, middle⟩
  · rw [ran] at outcome
    rw [Effect.run_bind_of_error ran, ← outcome]
    rfl
  · rw [ran] at outcome
    rw [Effect.run_bind_of_ok ran, ← outcome]
    exact following found outcome.symm middle

theorem AmountsTo.mapM {step : item → Compute S α} {value : item → Option α}
    (amounts : ∀ next, (step next).AmountsTo (value next)) (items : List item) :
    (items.mapM step).AmountsTo (items.mapM value) := by
  induction items with
  | nil => exact amountsTo_pure []
  | cons first rest ih =>
      rw [List.mapM_cons, List.mapM_cons]
      refine (amounts first).bind fun found _ => ih.bind fun others _ => ?_
      exact amountsTo_pure (found :: others)

end Compute

namespace Bezier

open Compute

section Definition

variable {P : Type} {join : P → P → Option P} {points : List P}

def recursiveValue (join : P → P → Option P) : List P → Option P
  | [] => none
  | [only] => some only
  | [first, second] => join first second
  | first :: second :: third :: rest => do
      let left ← recursiveValue join (first :: second :: third :: rest).dropLast
      let right ← recursiveValue join (second :: third :: rest)
      join left right
termination_by points => points.length
decreasing_by all_goals simp

theorem recursiveValue_cons (first : P) {rest : List P} (some : rest ≠ []) :
    recursiveValue join (first :: rest) =
      (recursiveValue join (first :: rest).dropLast).bind fun left =>
        (recursiveValue join rest).bind fun right => join left right := by
  match rest, some with
  | [second], _ => simp [recursiveValue]
  | second :: third :: others, _ =>
      rw [recursiveValue]
      rfl

theorem recursiveValue_ne_none (joins : ∀ left right, join left right ≠ none)
    (some : points ≠ []) : recursiveValue join points ≠ none := by
  induction points using recursiveValue.induct with
  | case1 => exact absurd rfl some
  | case2 only => simp [recursiveValue]
  | case3 first second =>
      rw [recursiveValue]
      exact joins first second
  | case4 first second third rest shorter later =>
      obtain ⟨left, isLeft⟩ := Option.ne_none_iff_exists'.mp (shorter (by simp))
      obtain ⟨right, isRight⟩ := Option.ne_none_iff_exists'.mp (later (by simp))
      rw [recursiveValue, isLeft, isRight]
      exact joins left right

def windows (width : Nat) (points : List P) : List (List P) :=
  (List.range (points.length + 1 - width)).map fun position => (points.drop position).take width

theorem windows_cons {width : Nat} {first : P} {rest : List P} (short : width ≤ rest.length + 1) :
    windows width (first :: rest) = (first :: rest).take width :: windows width rest := by
  have count : (first :: rest).length + 1 - width = rest.length + 1 - width + 1 := by
    rw [List.length_cons]
    omega
  rw [windows, count, List.range_succ_eq_map, List.map_cons, List.map_map]
  rfl

theorem length_windows (width : Nat) (points : List P) :
    (windows width points).length = points.length + 1 - width := by
  simp [windows]

theorem windows_length (points : List P) : windows points.length points = [points] := by
  simp [windows]

theorem mapM_windows_one (points : List P) :
    (windows 1 points).mapM (recursiveValue join) = some points := by
  induction points with
  | nil => rfl
  | cons first rest ih =>
      rw [windows_cons (by omega), List.mapM_cons, ih]
      simp [recursiveValue]

def neighbours (points : List P) : List (P × P) := points.zip points.tail

theorem length_neighbours (points : List P) : (neighbours points).length = points.length - 1 := by
  simp [neighbours]

theorem neighbours_cons_cons (first second : P) (rest : List P) :
    neighbours (first :: second :: rest) = (first, second) :: neighbours (second :: rest) := rfl

/-- Joining the neighbours of one row of the table gives the row above it. -/
theorem mapM_windows_succ {width : Nat} (positive : 1 ≤ width) (short : width < points.length) :
    ((windows width points).mapM (recursiveValue join)).bind
        (fun level => (neighbours level).mapM fun pair => join pair.1 pair.2) =
      (windows (width + 1) points).mapM (recursiveValue join) := by
  induction points with
  | nil => simp at short
  | cons first rest ih =>
      have within : width ≤ rest.length := Nat.le_of_lt_succ short
      have someTaken : rest.take width ≠ [] := by
        rw [ne_eq, List.take_eq_nil_iff, not_or]
        exact ⟨by omega, List.length_pos_iff.mp (by omega)⟩
      have shorter : (first :: rest.take width).dropLast = (first :: rest).take width := by
        rw [List.dropLast_eq_take, List.length_cons, List.length_take, Nat.min_eq_left within,
          ← List.take_succ_cons, List.take_take]
        simp
      have value : recursiveValue join (first :: rest.take width) = _ :=
        recursiveValue_cons first someTaken
      rw [shorter] at value
      rw [windows_cons (by omega), windows_cons (by omega), List.take_succ_cons, List.mapM_cons,
        List.mapM_cons, value]
      rcases Nat.eq_or_lt_of_le within with rfl | inside
      · -- the last row but one: two segments are left, and nothing beyond their join
        have beyond : windows (rest.length + 1) rest = [] := by simp [windows]
        rw [windows_length, beyond, List.take_length, List.mapM_cons, List.mapM_nil]
        cases recursiveValue join ((first :: rest).take rest.length) <;>
          cases recursiveValue join rest <;> simp [neighbours]
      · obtain ⟨second, others, rfl⟩ : ∃ second others, rest = second :: others :=
          List.exists_cons_of_length_pos (by omega)
        have later := ih inside
        rw [windows_cons (by simpa using within), List.mapM_cons] at later ⊢
        rw [← later]
        cases recursiveValue join ((first :: second :: others).take width) <;>
          cases recursiveValue join ((second :: others).take width) <;>
          cases (windows width others).mapM (recursiveValue join) <;>
          simp [neighbours_cons_cons]

theorem length_of_mapM {item : Type} {value : item → Option P} {items : List item}
    {values : List P} (found : items.mapM value = some values) : values.length = items.length := by
  induction items generalizing values with
  | nil =>
      cases found
      rfl
  | cons first rest ih =>
      rw [List.mapM_cons] at found
      obtain ⟨_, _, remaining⟩ := Option.bind_eq_some_iff.mp found
      obtain ⟨others, areOthers, listed⟩ := Option.bind_eq_some_iff.mp remaining
      cases listed
      exact congrArg Nat.succ (ih areOthers)

end Definition

variable {S : Type} {geodesic : Geodesic S} {time : S}

def levelAfter (geodesic : Geodesic S) (time : S) : Nat → List (Point S) → Compute S (List (Point S))
  | 0, points => pure points
  | rounds + 1, points => do nextLevel geodesic time (← levelAfter geodesic time rounds points)

theorem nextLevel_eq_mapM (points : List (Point S)) :
    nextLevel geodesic time points =
      (neighbours points).mapM fun pair => geodesic pair.1 pair.2 time := by
  induction points with
  | nil => rfl
  | cons first rest ih =>
      cases rest with
      | nil => rfl
      | cons second others =>
          rw [nextLevel, ih, neighbours_cons_cons, List.mapM_cons]

section Rounds

variable {points : List (Point S)} {degree : Nat}

theorem ensures_levelAfter (length : points.length = degree + 1) {rounds : Nat}
    (bound : rounds ≤ degree) :
    (levelAfter geodesic time rounds points).Ensures (GeodesicRaises geodesic time)
      fun level => level.length = degree - rounds + 1 := by
  induction rounds with
  | zero => exact ensures_pure length
  | succ rounds ih =>
      refine (ih (by omega)).bind fun level before => ?_
      refine (ensures_nextLevel level).mono (fun _ raises => raises) fun next after => ?_
      omega

/-- Up to its last level the evaluation of a segment goes through the rounds one by one. -/
theorem run_evaluateSegment_eq (length : points.length = degree + 1) {rounds : Nat}
    (bound : rounds ≤ degree) (journal : Journal) :
    (evaluateSegment geodesic points time).run journal =
      (levelAfter geodesic time rounds points >>=
        descend geodesic time (points.length - rounds)).run journal := by
  induction rounds with
  | zero =>
      rw [levelAfter, pure_bind]
      rfl
  | succ rounds ih =>
      rw [ih (by omega), levelAfter, bind_assoc]
      have shortened : (levelAfter geodesic time rounds points).Ensures
          (GeodesicRaises geodesic time) fun level => level.length = degree - rounds + 1 :=
        ensures_levelAfter length (by omega)
      rcases ran : (levelAfter geodesic time rounds points).run journal with ⟨outcome, middle⟩
      rcases shortened.cases ran with ⟨fault, rfl, _⟩ | ⟨level, rfl, size⟩
      · rw [Effect.run_bind_of_error ran, Effect.run_bind_of_error ran]
      · obtain ⟨first, second, others, rfl⟩ :
            ∃ first second others, level = first :: second :: others := by
          match level, size with
          | first :: second :: others, _ => exact ⟨first, second, others, rfl⟩
          | [only], single =>
              rw [List.length_singleton] at single
              omega
        have further : points.length - rounds = points.length - (rounds + 1) + 1 := by omega
        rw [Effect.run_bind_of_ok ran, Effect.run_bind_of_ok ran, further, descend]
        · simp
        · simp

end Rounds

section Values

variable {join : Point S → Point S → Option (Point S)} {points : List (Point S)} {degree : Nat}

def Follows (geodesic : Geodesic S) (time : S) (join : Point S → Point S → Option (Point S)) : Prop :=
  ∀ start target, (geodesic start target time).AmountsTo (join start target)

/-- Every round leaves the next row of the table: the values of wider windows. -/
theorem Follows.levelAfter (follows : Follows geodesic time join)
    (length : points.length = degree + 1) {rounds : Nat} (bound : rounds ≤ degree) :
    (levelAfter geodesic time rounds points).AmountsTo
      ((windows (rounds + 1) points).mapM (recursiveValue join)) := by
  induction rounds with
  | zero =>
      rw [mapM_windows_one]
      exact amountsTo_pure points
  | succ rounds ih =>
      rw [← mapM_windows_succ (by omega) (by omega)]
      refine (ih (by omega)).bind fun level _ => ?_
      rw [nextLevel_eq_mapM]
      exact AmountsTo.mapM (fun pair => follows pair.1 pair.2) (neighbours level)

theorem mapM_windows_length :
    (windows points.length points).mapM (recursiveValue join) =
      (recursiveValue join points).map fun point => [point] := by
  rw [windows_length, List.mapM_cons, List.mapM_nil]
  cases recursiveValue join points <;> rfl

theorem Follows.evaluateSegment (follows : Follows geodesic time join)
    (length : points.length = degree + 1) :
    (evaluateSegment geodesic points time).AmountsTo (recursiveValue join points) := by
  intro journal
  have last := follows.levelAfter length (Nat.le_refl degree)
  rw [← length, mapM_windows_length] at last
  rw [run_evaluateSegment_eq length (Nat.le_refl degree)]
  have ended : (recursiveValue join points).map (fun point => [point]) >>= List.head? =
      recursiveValue join points := by
    cases recursiveValue join points <;> rfl
  rw [← ended]
  refine last.bind (fun level single => ?_) journal
  obtain ⟨point, _, rfl⟩ := Option.map_eq_some_iff.mp single
  rw [descend]
  exact amountsTo_pure point

end Values

def journalAfter (geodesic : Geodesic S) (time : S) (pairs : List (Point S × Point S))
    (journal : Journal) : Journal :=
  pairs.foldl (fun journal pair => ((geodesic pair.1 pair.2 time).run journal).2) journal

section Evaluations

variable {join : Point S → Point S → Option (Point S)} {points : List (Point S)} {degree : Nat}

theorem Follows.run_mapM (follows : Follows geodesic time join) {pairs : List (Point S × Point S)}
    {level : List (Point S)} (joined : (pairs.mapM fun pair => join pair.1 pair.2) = some level)
    (journal : Journal) :
    (pairs.mapM fun pair => geodesic pair.1 pair.2 time).run journal =
      (.ok level, journalAfter geodesic time pairs journal) := by
  induction pairs generalizing level journal with
  | nil =>
      cases joined
      rfl
  | cons pair rest ih =>
      rw [List.mapM_cons] at joined ⊢
      obtain ⟨point, isPoint, remaining⟩ := Option.bind_eq_some_iff.mp joined
      obtain ⟨others, areOthers, listed⟩ := Option.bind_eq_some_iff.mp remaining
      cases listed
      obtain ⟨after, ran⟩ := (follows pair.1 pair.2).gives isPoint journal
      have onward : journalAfter geodesic time (pair :: rest) journal =
          journalAfter geodesic time rest after := by
        rw [journalAfter, List.foldl_cons, ran]
        rfl
      rw [Effect.run_bind_of_ok ran, Effect.run_bind_of_ok (ih areOthers after), onward]
      rfl

/-- Which geodesics the rounds evaluate depends on the points that are joined only. A round that
leaves `rest + 1` points evaluates as many geodesics. -/
theorem exists_evaluations (time : S) {rounds : Nat} (rest : Nat)
    (length : points.length = rounds + rest + 1)
    {level : List (Point S)}
    (row : (windows (rounds + 1) points).mapM (recursiveValue join) = some level) :
    ∃ pairs, 2 * pairs.length + rest * (rest + 1) = (rounds + rest) * (rounds + rest + 1) ∧
      ∀ geodesic : Geodesic S, Follows geodesic time join → ∀ journal,
        (levelAfter geodesic time rounds points).run journal =
          (.ok level, journalAfter geodesic time pairs journal) := by
  induction rounds generalizing rest level with
  | zero =>
      rw [mapM_windows_one] at row
      cases row
      exact ⟨[], by simp, fun _ _ _ => rfl⟩
  | succ rounds ih =>
      rw [← mapM_windows_succ (by omega) (by omega)] at row
      obtain ⟨before, rowBefore, joined⟩ := Option.bind_eq_some_iff.mp row
      obtain ⟨pairs, count, runs⟩ := ih (rest + 1) (by omega) rowBefore
      have size : (neighbours before).length = rest + 1 := by
        rw [length_neighbours, length_of_mapM rowBefore, length_windows]
        omega
      refine ⟨pairs ++ neighbours before, ?_, fun geodesic follows journal => ?_⟩
      · rw [List.length_append, size]
        calc 2 * (pairs.length + (rest + 1)) + rest * (rest + 1)
            = 2 * pairs.length + (rest + 1) * (rest + 1 + 1) := by ring
          _ = (rounds + (rest + 1)) * (rounds + (rest + 1) + 1) := count
          _ = (rounds + 1 + rest) * (rounds + 1 + rest + 1) := by ring
      · rw [levelAfter, Effect.run_bind_of_ok (runs geodesic follows journal), nextLevel_eq_mapM,
          follows.run_mapM joined, journalAfter, journalAfter, journalAfter, List.foldl_append]

/-- A segment has the value of its recursive definition, which exists if all points are joined. Every
round of its evaluation leaves the next row of the table of shorter segments, and if there is a value
at all, the table takes one geodesic for each of the `degree * (degree + 1) / 2` entries above the
control points: what is left in the journal is what these geodesics leave, one after the other. -/
theorem evaluates_recursive_definition (join : Point S → Point S → Option (Point S)) (time : S)
    (length : points.length = degree + 1) :
    ((∀ start target, join start target ≠ none) → recursiveValue join points ≠ none) ∧
    (∀ geodesic : Geodesic S, Follows geodesic time join →
        (evaluateSegment geodesic points time).AmountsTo (recursiveValue join points) ∧
        ∀ rounds ≤ degree,
          (levelAfter geodesic time rounds points).AmountsTo
            ((windows (rounds + 1) points).mapM (recursiveValue join)) ∧
          ∀ journal, (evaluateSegment geodesic points time).run journal =
            (levelAfter geodesic time rounds points >>=
              descend geodesic time (points.length - rounds)).run journal) ∧
    ∀ point, recursiveValue join points = some point →
      ∃ pairs : List (Point S × Point S), pairs.length = degree * (degree + 1) / 2 ∧
        ∀ geodesic : Geodesic S, Follows geodesic time join → ∀ journal,
          (evaluateSegment geodesic points time).run journal =
            (.ok point, journalAfter geodesic time pairs journal) := by
  refine ⟨fun joins => ?_, fun geodesic follows => ?_, fun point isPoint => ?_⟩
  · refine recursiveValue_ne_none joins ?_
    rintro rfl
    cases length
  · refine ⟨Follows.evaluateSegment follows length, fun rounds bound => ?_⟩
    exact ⟨Follows.levelAfter follows length bound, run_evaluateSegment_eq length bound⟩
  · have row : (windows (degree + 1) points).mapM (recursiveValue join) = some [point] := by
      rw [← length, mapM_windows_length, isPoint]
      rfl
    obtain ⟨pairs, count, runs⟩ := exists_evaluations time 0 length row
    refine ⟨pairs, ?_, fun geodesic follows journal => ?_⟩
    · simp only [Nat.zero_mul, Nat.add_zero] at count
      omega
    · rw [run_evaluateSegment_eq length (Nat.le_refl degree),
        Effect.run_bind_of_ok (runs geodesic follows journal), descend]
      rfl

end Evaluations

section Sample

def skewed : Point Int → Point Int → Option (Point Int)
  | .scalar left, .scalar right => some (.scalar (left - 2 * right))
  | _, _ => none

def countedSkewed : Geodesic Int := fun start target _ => do
  let _ ← countCall 0
  expect .outsideList (skewed start target)

theorem follows_countedSkewed (time : Int) : Follows countedSkewed time skewed := by
  intro start target journal
  cases found : skewed start target with
  | none => simp only [countedSkewed, found]; rfl
  | some point => simp only [countedSkewed, found]; rfl

/-- The rows of the table are 1, 2, 3, 4, then -3, -4, -5, then 5, 6, and at last -7. -/
theorem evaluates_skewed :
    ([.scalar 1, .scalar 2, .scalar 3, .scalar 4] : List (Point Int)).length = 3 + 1 ∧
      Follows countedSkewed 0 skewed ∧
      (levelAfter countedSkewed 0 2 [.scalar 1, .scalar 2, .scalar 3, .scalar 4]).AmountsTo
        (some [.scalar 5, .scalar 6]) ∧
      ∃ pairs : List (Point Int × Point Int), pairs.length = 6 ∧
        ∀ journal, (evaluateSegment countedSkewed [.scalar 1, .scalar 2, .scalar 3, .scalar 4] 0).run
          journal = (.ok (.scalar (-7)), journalAfter countedSkewed 0 pairs journal) := by
  have follows := follows_countedSkewed 0
  have length : ([.scalar 1, .scalar 2, .scalar 3, .scalar 4] : List (Point Int)).length = 3 + 1 :=
    rfl
  obtain ⟨_, each, evaluations⟩ := evaluates_recursive_definition skewed 0 length
  have value : recursiveValue skewed [.scalar 1, .scalar 2, .scalar 3, .scalar 4] =
      some (.scalar (-7)) := by simp [recursiveValue, skewed]
  have row : (windows 3 [.scalar 1, .scalar 2, .scalar 3, .scalar 4]).mapM (recursiveValue skewed) =
      some [.scalar 5, .scalar 6] := by
    simp [windows, List.range_succ, recursiveValue, skewed]
  obtain ⟨pairs, count, runs⟩ := evaluations _ value
  have level := ((each countedSkewed follows).2 2 (by decide)).1
  rw [row] at level
  exact ⟨length, follows, level, pairs, count, runs countedSkewed follows⟩

/-- There are six entries above the four control points. -/
example : ((evaluateSegment countedSkewed [.scalar 1, .scalar 2, .scalar 3, .scalar 4] 0).run
    { counters := [0] }).2.counters = [6] := by rfl

end Sample

end Bezier

end ProximalSplitting

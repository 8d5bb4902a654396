import ProximalSplitting.Proofs.Run.InStep
import ProximalSplitting.Proofs.Run.Records

/-!
What thinning changes in a run. A tree of actions that is run at the multiples of an interval shows
and records what it does otherwise at these iterations, and nothing in between. Its changes remain
those between consecutive iterates.
-/

namespace ProximalSplitting

open Effect Tracked

namespace Course

variable {S : Type} [Scalar S] {interval : Nat} {thinned alone : Course S}
  {outer : List (Decorator S)} {shown all : Decorator S} {first before : Memory S}

variable (course : Course S)

def among (outer : List (Decorator S)) (decorator : Decorator S) (inner : List (Decorator S)) :
    Course S := { course with decorators := outer ++ decorator :: inner }

variable {course}

theorem thinnedRun (fits : course.Fits before.2.state) (pure : course.problem.Pure)
    (pureMethod : before.2.state.method.Pure) (inPace : Decorator.InPace interval shown all)
    (outer inner : List (Decorator S)) :
    ThinnedRun interval (course.among outer shown inner) (course.among outer all inner) outer inner
      shown all (course.begin before) := by
  have steady := Solver.steady_of_state fits.solver fun _ : True => pure
  refine ⟨⟨⟨rfl, rfl, rfl⟩, pure, ?_, steady.1, steady.2, ⟨fits.frames.1, fits.frames.2⟩⟩,
    fits.criterion, inPace, rfl, rfl⟩
  exact ⟨.inr trivial, ⟨⟨rfl, rfl, rfl, fun _ => pureMethod⟩, rfl⟩, Workspace.Agree.of_judging rfl⟩

theorem narrates_of_prints {iterations : Nat} (prints : ∀ iteration ≤ iterations,
      ∃ chunk, alone.Prints first outer all iteration chunk)
    (thins : ∀ iteration chunk, alone.Prints first outer all iteration chunk →
      thinned.Prints first outer shown iteration (if interval ∣ iteration then chunk else "")) :
    ∃ chunk : Nat → String,
      (∀ iteration ≤ iterations, alone.Prints first outer all iteration (chunk iteration)) ∧
      thinned.Narrates first outer shown iterations (String.join
        (((List.range (iterations + 1)).filter fun iteration => interval ∣ iteration).map chunk)) := by
  have each : ∀ iteration, ∃ chunk, iteration ≤ iterations →
      alone.Prints first outer all iteration chunk := by
    intro iteration
    by_cases early : iteration ≤ iterations
    · obtain ⟨chunk, printed⟩ := prints iteration early
      exact ⟨chunk, fun _ => printed⟩
    · exact ⟨"", fun absurdity => absurd absurdity early⟩
  obtain ⟨chunk, printed⟩ := Classical.axiomOfChoice each
  refine ⟨chunk, printed, fun iteration => if interval ∣ iteration then chunk iteration else "",
    fun iteration early => thins _ _ (printed iteration early), ?_⟩
  generalize List.range (iterations + 1) = numbers
  induction numbers with
  | nil => rfl
  | cons number rest ih =>
      rw [List.map_cons, String.join_cons, ← ih, List.filter_cons]
      by_cases due : interval ∣ number
      · rw [if_pos due, if_pos (decide_eq_true due), List.map_cons, String.join_cons]
      · rw [if_neg due, if_neg (by simpa using due), String.empty_append]

omit [Scalar S] in
theorem flatMap_thinned {rows : Nat → List (Value S)} {thinnedRows : Nat → List (Value S)}
    {numbers : List Nat} (thins : ∀ number ∈ numbers,
      thinnedRows number = if interval ∣ number then rows number else []) :
    numbers.flatMap thinnedRows =
      (numbers.filter fun number => interval ∣ number).flatMap rows := by
  induction numbers with
  | nil => rfl
  | cons number rest ih =>
      rw [List.flatMap_cons, thins number List.mem_cons_self,
        ih fun later member => thins later (List.mem_cons_of_mem number member), List.filter_cons]
      by_cases due : interval ∣ number
      · rw [if_pos due, if_pos (decide_eq_true due), List.flatMap_cons]
      · rw [if_neg due, if_neg (by simpa using due), List.nil_append]

/-- Thinning does not change what is shown. Beside a run in which a decorator runs a tree of actions
at every iteration, take the run in which it runs them at the multiples of an interval. It prints at
the multiples what it prints otherwise, nothing in between, and all its changes are those between
consecutive iterates. If the run returns then so does the other one, and the columns of the tree hold
the rows that they hold otherwise and that were taken at a multiple. -/
theorem solve_shows_multiples (fits : course.Fits before.2.state) (pure : course.problem.Pure)
    (pureMethod : before.2.state.method.Pure) (thinning : Decorator.Thinning interval shown all)
    (allocated : ∀ number, all.Uses number → number < before.2.workspace.actions.length)
    (outer inner : List (Decorator S)) :
    (∀ iteration chunk,
      (course.among outer all inner).Prints (course.begin before) outer all iteration chunk →
      (course.among outer shown inner).Prints (course.begin before) outer shown iteration
        (if interval ∣ iteration then chunk else "")) ∧
    (∀ iteration chunk, ¬ interval ∣ iteration →
      (course.among outer shown inner).Prints (course.begin before) outer shown iteration chunk →
      chunk = "") ∧
    (∀ done looking looked,
      (course.among outer shown inner).Turn (course.begin before) outer (done + 1) looking →
      (course.among outer shown inner).Performs [.observe shown (done + 1 : Nat)] looking looked →
      (course.among outer shown inner).ShowsChanges (course.begin before) outer shown done looking
        looked) ∧
    ∀ steps point after,
      (solveWithin steps course.problem (outer ++ all :: inner)).run before = (.ok point, after) →
      ∃ (iterations : Nat) (thinnedAfter : Memory S), 1 ≤ iterations ∧
        after.2.state.field? "iterations" = some (.integer iterations) ∧
        (solveWithin steps course.problem (outer ++ shown :: inner)).run before =
          (.ok point, thinnedAfter) ∧
        (∃ chunk : Nat → String,
          (∀ iteration ≤ iterations, (course.among outer all inner).Prints (course.begin before)
            outer all iteration (chunk iteration)) ∧
          (course.among outer shown inner).Narrates (course.begin before) outer shown iterations
            (String.join (((List.range (iterations + 1)).filter
              fun iteration => interval ∣ iteration).map chunk))) ∧
        ∀ number kind, .column number kind 0 ∈ all.glances 0 →
          (∀ other ∈ outer ++ inner, ¬ other.Uses number) →
          (after.2.workspace.action number).rows = (List.range' 1 iterations).flatMap
            ((course.among outer all inner).rowsAt (course.begin before) number) ∧
          (thinnedAfter.2.workspace.action number).rows =
            ((List.range' 1 iterations).filter fun iteration => interval ∣ iteration).flatMap
              ((course.among outer all inner).rowsAt (course.begin before) number) := by
  have run := thinnedRun fits pure pureMethod thinning.inPace outer inner
  have fitsAll : (course.among outer all inner).Fits before.2.state := ⟨fits.solver, fits.criterion⟩
  have fitsShown : (course.among outer shown inner).Fits before.2.state :=
    ⟨fits.solver, fits.criterion⟩
  refine ⟨fun _ _ => run.prints, fun _ _ spared printed => run.silent fitsShown spared printed,
    fun done looking looked turn observed => turn.showsChanges observed fun glance member number
      compares => ?_, fun steps point after ended => ?_⟩
  · obtain ⟨follows, uses⟩ := run.follows member compares
    exact ⟨follows, allocated number uses⟩
  · cases Course.solveWithin_ends fitsAll ended with
    | @closed iterations last _ _ bound stopped closed =>
        obtain ⟨thinnedLast, thinnedStopped, inStep⟩ := run.stops stopped
        obtain ⟨thinnedAfter, thinnedClosed⟩ := run.close inStep closed
        have count : 1 ≤ iterations := by
          cases stopped with
          | met _ _ _ => omega
        refine ⟨iterations, thinnedAfter, count, ?_,
          (Ends.closed bound thinnedStopped thinnedClosed).run fitsShown,
          narrates_of_prints (fun iteration early => stopped.prints rfl early) fun _ _ => run.prints,
          ?_⟩
        · rw [(close_ok closed).1]
          exact SolverState.iterations_withIterations _ iterations
        · intro number kind leaf others
          have reserved := allocated number ⟨_, leaf, rfl⟩
          have recorded : ∀ decorator : Decorator S, .column number kind 0 ∈ decorator.glances 0 →
              (course.among outer decorator inner).Records number := by
            intro decorator member
            refine ⟨kind, ?_⟩
            rw [among, Decorator.glancesOfAll, List.flatMap_append, List.flatMap_cons]
            exact List.mem_append_right _ (List.mem_append_left _ member)
          have leafShown : .column number kind 0 ∈ shown.glances 0 := by
            have first := thinning.inPace.look 0
            rw [if_pos (Nat.dvd_zero interval)] at first
            exact first ▸ leaf
          obtain ⟨length, rows⟩ := stopped.rows (recorded all leaf) reserved
          obtain ⟨thinnedLength, thinnedRows⟩ :=
            thinnedStopped.rows (recorded shown leafShown) reserved
          rw [rows_close closed (length ▸ reserved), rows_close thinnedClosed
            (thinnedLength ▸ reserved), rows, thinnedRows]
          refine ⟨rfl, flatMap_thinned fun iteration member => ?_⟩
          obtain ⟨done, rfl⟩ := Nat.exists_eq_add_of_le' (List.mem_range'_1.mp member).1
          exact run.rowsAt stopped (by have := (List.mem_range'_1.mp member).2; omega) others

section Sample

def sampleLimit : Criterion Int := .single 0 (.iterations (.integer 5))

def sampleLimited : Course Int := { Sample.course with criterion := sampleLimit }

def sampleStart : Memory Int :=
  (Sample.memory.1, ⟨{ Sample.workspace with actions := List.replicate 3 {} },
    { Sample.state with criterion := some sampleLimit }⟩)

def samplePrints : DebugAction Int :=
  .group [.iterationNumber, .every 2 true (.group [.divider ", ", .change 0 "moved "]),
    .cost " F: ", .reason]

def sampleColumns : RecordAction Int :=
  .group "group" [("change", .column 1 "change" .change),
    ("iterate", .every "iterate" 2 true (.column 2 "iterate" .iterate))]

def samplePrinter (thinned : Bool) : Decorator Int :=
  .debug [("all", if thinned then .every 3 true samplePrints else samplePrints)]

def sampleRecorder (thinned : Bool) : Decorator Int :=
  .record (if thinned then .every "group" 3 true sampleColumns else sampleColumns)

theorem sample_allocated {decorator : Decorator Int}
    (among : decorator = samplePrinter false ∨ decorator = sampleRecorder false) (number : Nat)
    (uses : decorator.Uses number) : number < sampleStart.2.workspace.actions.length := by
  obtain ⟨glance, member, own⟩ := uses
  have listed := List.mem_filterMap.mpr ⟨glance, member, own⟩
  have printer : ∀ number ∈ ((samplePrinter false).glances 0).filterMap Glance.memory?,
      number < 3 := by decide
  have recorder : ∀ number ∈ ((sampleRecorder false).glances 0).filterMap Glance.memory?,
      number < 3 := by decide
  rcases among with rfl | rfl
  · exact printer number listed
  · exact recorder number listed

theorem sample_shows_multiples :
    (∃ iterations thinnedAfter point chunk, (solveWithin 9 sampleLimited.problem
        [samplePrinter true, sampleRecorder false]).run sampleStart = (.ok point, thinnedAfter) ∧
      (∀ iteration ≤ iterations,
        (sampleLimited.among [] (samplePrinter false) [sampleRecorder false]).Prints
          (sampleLimited.begin sampleStart) [] (samplePrinter false) iteration (chunk iteration)) ∧
      (sampleLimited.among [] (samplePrinter true) [sampleRecorder false]).Narrates
        (sampleLimited.begin sampleStart) [] (samplePrinter true) iterations
        (String.join (((List.range (iterations + 1)).filter fun iteration => 3 ∣ iteration).map
          chunk))) ∧
    ∃ iterations thinnedAfter point, (solveWithin 9 sampleLimited.problem
        [samplePrinter false, sampleRecorder true]).run sampleStart = (.ok point, thinnedAfter) ∧
      (thinnedAfter.2.workspace.action 1).rows =
        ((List.range' 1 iterations).filter fun iteration => 3 ∣ iteration).flatMap
          ((sampleLimited.among [samplePrinter false] (sampleRecorder false) []).rowsAt
            (sampleLimited.begin sampleStart) 1) := by
  have fits : sampleLimited.Fits sampleStart.2.state := ⟨rfl, rfl⟩
  have succeeds : ((solveWithin 9 sampleLimited.problem
      [samplePrinter false, sampleRecorder false]).run sampleStart).1.isOk = true := by
    decide +kernel
  obtain ⟨point, after, ended⟩ := exists_ok_of_isOk succeeds
  constructor
  · have thinning : Decorator.Thinning 3 (samplePrinter true) (samplePrinter false) :=
      @Decorator.Thinning.debug Int 3 [] [] samplePrints rfl rfl
    obtain ⟨_, _, _, returns⟩ := solve_shows_multiples fits Sample.pure_problem Sample.pure_method
      thinning (sample_allocated (.inl rfl)) [] [sampleRecorder false]
    obtain ⟨iterations, thinnedAfter, _, _, ran, ⟨chunk, printed, narrated⟩, _⟩ :=
      returns 9 point after ended
    exact ⟨iterations, thinnedAfter, point, chunk, ran, printed, narrated⟩
  · have thinning : Decorator.Thinning 3 (sampleRecorder true) (sampleRecorder false) :=
      .record rfl
    obtain ⟨_, _, _, returns⟩ := solve_shows_multiples fits Sample.pure_problem Sample.pure_method
      thinning (sample_allocated (.inr rfl)) [samplePrinter false] []
    obtain ⟨iterations, thinnedAfter, _, _, ran, _, rows⟩ := returns 9 point after ended
    have unused : ∀ other ∈ [samplePrinter false] ++ [], ¬ other.Uses 1 := by
      rintro other member ⟨glance, shown, own⟩
      rw [List.append_nil, List.mem_singleton] at member
      subst member
      have listed : ∀ number ∈ ((samplePrinter false).glances 0).filterMap Glance.memory?,
          number ≠ 1 := by decide
      exact listed 1 (List.mem_filterMap.mpr ⟨glance, shown, own⟩) rfl
    exact ⟨iterations, thinnedAfter, point, ran,
      (rows 1 .change List.mem_cons_self unused).2⟩

end Sample

end Course

end ProximalSplitting

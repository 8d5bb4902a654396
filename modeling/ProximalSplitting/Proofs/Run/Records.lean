import ProximalSplitting.Proofs.Run.Failure
import ProximalSplitting.Proofs.Run.Sample
import ProximalSplitting.Proofs.Watching.Configuration

/-!
What is recorded in a run. A thinned column holds one row for every multiple of its interval, with
the value of that iteration. The change is measured from the iteration before, unless the column is
not told of the iterations in between: then it is measured from the row before.
-/

namespace ProximalSplitting

open Compute Effect

namespace Course

variable {S : Type} [Scalar S] (course : Course S)

/-- What a column writes down at an iteration, where its change is measured from an earlier one. -/
def WritesDown (first : Memory S) (earlier iteration : Nat) (value : Value S) : RecordKind → Prop
  | .iteration => value = .integer iteration
  | .iterate => value = .array (course.iterateAt first iteration)
  | .cost => ∃ cost, (course.problem.cost (course.iterateAt first iteration)).Yields cost ∧
      value = .real cost
  | .change => ∃ manifold moved,
      ((course.afterStep first iteration).2.state.manifoldOf course.problem).Yields manifold ∧
      (manifold.geometry.dist (course.iterateAt first earlier)
        (course.iterateAt first iteration)).Yields moved ∧
      value = .real moved
  | .entry field => ((course.afterStep first iteration).2.state.field field).Yields value
  | .parameter => ∃ parameter,
      ((course.afterStep first iteration).2.state.parameterAt iteration).Yields parameter ∧
      value = .real parameter

structure Holds (first : Memory S) (kind : RecordKind) (interval : Nat) (always : Bool)
    (done : Nat) (rows : List (Value S)) : Prop where
  length : rows.length = done / interval
  row : ∀ row, 1 ≤ row → row ≤ done / interval → ∃ value, rows[row - 1]? = some value ∧
    course.WritesDown first (if always then row * interval - 1 else (row - 1) * interval)
      (row * interval) value kind

def remembered (interval : Nat) (always : Bool) (done : Nat) : Nat :=
  if always then done else done / interval * interval

structure Tells (first : Memory S) (kind : RecordKind) (interval : Nat) (always : Bool)
    (done : Nat) (memory : ActionMemory S) : Prop where
  holds : course.Holds first kind interval always done memory.rows
  last : kind = .change →
    memory.lastIterate = some (course.iterateAt first (remembered interval always done))

def Thins (number : Nat) (kind : RecordKind) (interval : Nat) (always : Bool) : Prop :=
  ∀ iteration : Nat,
    Glance.touching number (Decorator.glancesOfAll course.decorators iteration) =
      kind.thinned number interval always iteration

variable {course} {first middle called : Memory S} {done number interval : Nat}
  {kind : RecordKind} {always : Bool}

theorem writesDown_of_row {earlier iteration : Nat} (positive : 0 < iteration)
    {last : Option (Point S)} {value : Value S}
    (remembers : kind = .change → last = some (course.iterateAt first earlier))
    (yields : (kind.row course.problem (course.afterStep first iteration).2.state last
      iteration).Yields value) :
    course.WritesDown first earlier iteration value kind := by
  have counted : (0 : Int) < iteration := by omega
  cases kind with
  | iteration => exact yields_pure.mp yields
  | iterate => exact yields_pure.mp yields
  | cost =>
      rw [RecordKind.row, if_pos counted] at yields
      obtain ⟨cost, found, rest⟩ := yields.of_bind
      exact ⟨cost, found, yields_pure.mp rest⟩
  | change =>
      rw [RecordKind.row, if_pos counted, remembers rfl] at yields
      obtain ⟨measured, found, rest⟩ := yields.of_bind
      obtain ⟨manifold, lives, found⟩ := found.of_bind
      obtain ⟨moved, distance, ended⟩ := found.of_bind
      cases yields_pure.mp ended
      exact ⟨manifold, moved, lives, distance, yields_pure.mp rest⟩
  | entry field => exact yields
  | parameter =>
      rw [RecordKind.row, if_pos counted] at yields
      obtain ⟨parameter, found, rest⟩ := yields.of_bind
      exact ⟨parameter, found, yields_pure.mp rest⟩

theorem Holds.snoc {rows : List (Value S)} {value : Value S}
    (holds : course.Holds first kind interval always done rows) (due : interval ∣ done + 1)
    (written : course.WritesDown first (remembered interval always done) (done + 1) value kind) :
    course.Holds first kind interval always (done + 1) (rows ++ [value]) := by
  have longer : (done + 1) / interval = done / interval + 1 := Nat.succ_div_of_dvd due
  constructor
  · simp [holds.length, longer]
  · intro row lower upper
    by_cases earlier : row ≤ done / interval
    · obtain ⟨found, present, old⟩ := holds.row row lower earlier
      refine ⟨found, ?_, old⟩
      rw [List.getElem?_append_left (by rw [holds.length]; omega)]
      exact present
    · have newest : row = done / interval + 1 := by omega
      have here : row * interval = done + 1 := by
        rw [newest, ← longer]
        exact Nat.div_mul_cancel due
      have before : (if always then row * interval - 1 else (row - 1) * interval) =
          remembered interval always done := by
        rw [here, newest]
        rfl
      refine ⟨value, ?_, by rwa [before, here]⟩
      have position : row - 1 = rows.length := by
        rw [holds.length]
        omega
      rw [position]
      exact List.getElem?_concat_length

theorem Holds.passed {rows : List (Value S)}
    (holds : course.Holds first kind interval always done rows) (passed : ¬ interval ∣ done + 1) :
    course.Holds first kind interval always (done + 1) rows := by
  have same : (done + 1) / interval = done / interval := Nat.succ_div_of_not_dvd passed
  exact ⟨by rw [same, holds.length], by rw [same]; exact holds.row⟩

theorem Tells.look {memory : ActionMemory S}
    (tells : course.Tells first kind interval always done memory)
    (thins : course.Thins number kind interval always)
    (looked : course.Performs (course.looks (done + 1 : Nat)) (course.afterStep first (done + 1))
      called)
    (same : (course.afterStep first (done + 1)).2.workspace.action number = memory)
    (allocated : number < (course.afterStep first (done + 1)).2.workspace.actions.length) :
    course.Tells first kind interval always (done + 1) (called.2.workspace.action number) := by
  have ran := looked.looks_runAll
  have once := thins (done + 1)
  rw [RecordKind.thinned] at once
  by_cases due : interval ∣ done + 1
  · rw [if_pos due] at once
    obtain ⟨value, yields, noted⟩ := Glance.action_runAll_of_column ran once allocated
    rw [same] at yields noted
    have positive : (0 : Int) < (done + 1 : Nat) := by omega
    have written := writesDown_of_row (Nat.succ_pos done) tells.last yields
    have here : remembered interval always (done + 1) = done + 1 := by
      rw [remembered]
      split
      · rfl
      · exact Nat.div_mul_cancel due
    rw [noted]
    constructor
    · rw [RecordKind.note, RecordKind.extend, if_pos positive]
      exact tells.holds.snoc due written
    · intro isChange
      rw [RecordKind.note, if_pos isChange, here]
      rfl
  · rw [if_neg due] at once
    -- In between, the column is called with -1 or not at all. Neither adds a row, but only the call
    -- lets a change remember the iterate.
    cases always with
    | true =>
        rw [if_pos rfl] at once
        obtain ⟨value, yields, noted⟩ := Glance.action_runAll_of_column ran once allocated
        rw [same] at noted
        rw [noted]
        constructor
        · exact tells.holds.passed due
        · intro isChange
          rw [RecordKind.note, if_pos isChange]
          rfl
    | false =>
        rw [if_neg Bool.false_ne_true] at once
        have kept := Glance.action_runAll_of_untouched ran once
        rw [kept, same]
        refine ⟨tells.holds.passed due, fun isChange => ?_⟩
        have same : remembered interval false (done + 1) = remembered interval false done := by
          simp [remembered, Nat.succ_div_of_not_dvd due]
        rw [tells.last isChange, same]

theorem Tells.start {prepared : Memory S} (thins : course.Thins number kind interval always)
    (looked : course.Performs (course.looks 0) prepared called)
    (state : prepared.2.state = (course.afterStep first 0).2.state)
    (allocated : number < prepared.2.workspace.actions.length) :
    course.Tells first kind interval always 0 (called.2.workspace.action number) := by
  have once := thins 0
  rw [RecordKind.thinned, if_pos (Nat.dvd_zero interval)] at once
  obtain ⟨value, _, noted⟩ := Glance.action_runAll_of_column looked.looks_runAll once allocated
  rw [noted]
  constructor
  · constructor
    · simp [RecordKind.note, RecordKind.extend]
    · intro row lower upper
      rw [Nat.zero_div] at upper
      omega
  · intro isChange
    have start : remembered interval always 0 = 0 := by simp [remembered]
    rw [RecordKind.note, if_pos isChange, start, iterateAt, ← state]

theorem Tells.advance (pending : course.Pending first done middle)
    (tells : course.Tells first kind interval always done (middle.2.workspace.action number))
    (thins : course.Thins number kind interval always)
    (allocated : number < middle.2.workspace.actions.length)
    (advanced : course.Performs (course.advance (done + 1)) middle called) :
    course.Tells first kind interval always (done + 1) (called.2.workspace.action number) ∧
      called.2.workspace.actions.length = middle.2.workspace.actions.length := by
  obtain ⟨stepped, performed, looked⟩ := Performs.advance_iff.mp advanced
  have kept := performed.step_workspace
  have length := Glance.length_actions_runAll looked.looks_runAll
  have here := pending.afterStep performed
  rw [← here] at looked kept
  refine ⟨tells.look thins looked (by rw [kept]) (by rw [kept]; exact allocated), ?_⟩
  rw [← kept, here]
  exact length

theorem Pending.tells (pending : course.Pending first done middle)
    (thins : course.Thins number kind interval always)
    (allocated : number < first.2.workspace.actions.length) :
    course.Tells first kind interval always done (middle.2.workspace.action number) ∧
      middle.2.workspace.actions.length = first.2.workspace.actions.length := by
  induction pending with
  | @opened after performed =>
      obtain ⟨shown, looked, actions, state⟩ := performed.opening_looks
      have sameLength : shown.2.workspace.actions.length = first.2.workspace.actions.length := by
        rw [actions]
      refine ⟨Tells.start thins looked state (sameLength ▸ allocated), ?_⟩
      exact (Glance.length_actions_runAll looked.looks_runAll).trans sameLength
  | @passed done middle called after pending advanced ranCheck ih =>
      obtain ⟨tells, length⟩ := ih
      obtain ⟨next, sameLength⟩ := tells.advance pending thins (length ▸ allocated) advanced
      rw [Workspace.action, check_keeps_actions ranCheck]
      exact ⟨next, sameLength.trans length⟩

theorem Stops.tells {last : Memory S} {iterations : Nat}
    (stopped : course.Stops first iterations last)
    (thins : course.Thins number kind interval always)
    (allocated : number < first.2.workspace.actions.length) :
    course.Tells first kind interval always iterations (last.2.workspace.action number) ∧
      last.2.workspace.actions.length = first.2.workspace.actions.length := by
  cases stopped with
  | @met done middle called _ pending advanced ranCheck =>
      obtain ⟨tells, length⟩ := pending.tells thins allocated
      obtain ⟨next, sameLength⟩ := tells.advance pending thins (length ▸ allocated) advanced
      rw [Workspace.action, check_keeps_actions ranCheck]
      exact ⟨next, sameLength.trans length⟩

theorem rows_close {iterations : Nat} {last after : Memory S} {point : Point S}
    (closed : (course.close iterations).run last = (.ok point, after))
    (allocated : number < last.2.workspace.actions.length) :
    (after.2.workspace.action number).rows = (last.2.workspace.action number).rows := by
  obtain ⟨shown, looked, rfl, rfl⟩ := looks_of_close closed
  obtain ⟨_, glances, rows⟩ := Performs.rows_looks looked allocated
  -- At the end columns are called with -1 at most, so nothing is appended or cleared.
  have passed : ∀ {kind : RecordKind} {seen : Int}, .column number kind seen ∈
      (course.findings (-1) (counted iterations last)).map Prod.fst → seen = -1 := by
    intro kind seen member
    rw [glances] at member
    rcases (Decorator.mem_glances_column member).1 with same | ⟨positive, _⟩
    · exact same
    · omega
  rw [Glance.foldl_extendRows_of_nonzero (fun member => by
    have := passed member
    omega)] at rows
  have none : (course.findings (-1) (counted iterations last)).filterMap
      (Glance.row? number) = [] := by
    refine List.filterMap_eq_nil_iff.mpr fun found member => ?_
    obtain ⟨glance, value⟩ := found
    cases glance with
    | column other kind seen =>
        refine if_neg fun ⟨same, positive⟩ => ?_
        subst same
        have := passed (List.mem_map.mpr ⟨_, member, rfl⟩)
        omega
    | _ => rfl
  rw [none, List.append_nil] at rows
  exact rows

theorem holds_of_closed {iterations : Nat} {last after : Memory S} {point : Point S}
    (stopped : course.Stops first iterations last)
    (closed : (course.close iterations).run last = (.ok point, after))
    (thins : course.Thins number kind interval always)
    (allocated : number < first.2.workspace.actions.length) :
    course.Holds first kind interval always iterations (after.2.workspace.action number).rows := by
  obtain ⟨tells, length⟩ := stopped.tells thins allocated
  rw [rows_close closed (length ▸ allocated)]
  exact tells.holds

/-- A column is thinned in a run as it is in a decorator that no other one interferes with. -/
theorem thins_of_apart {action : RecordAction S}
    (apart : Decorator.Apart course.decorators action)
    (own : ∀ iteration : Nat, Glance.touching number (action.glances iteration) =
      kind.thinned number interval always iteration) :
    course.Thins number kind interval always := by
  have uses : (Decorator.record action).Uses number := by
    have atZero := own 0
    rw [RecordKind.thinned, if_pos (Nat.dvd_zero interval)] at atZero
    have shown : .column number kind 0 ∈ Glance.touching number (action.glances 0) :=
      atZero ▸ List.mem_singleton_self _
    exact ⟨_, (List.mem_filter.mp shown).1, rfl⟩
  intro iteration
  rw [apart.touching uses, own]

/-- A run that returns has recorded its iterations. Whatever list of names and different columns
configured a decorator, each of its columns holds a row for every multiple of the interval, with
the change since the iteration before. A change that is only told of the multiples is the one since
the row before. -/
theorem solve_records_multiples {before after : Memory S} {steps : Nat} {point : Point S}
    (fits : course.Fits before.2.state)
    (ended : (solveWithin steps course.problem course.decorators).run before =
      (.ok point, after)) :
    ∃ iterations : Nat, 1 ≤ iterations ∧
      after.2.state.field? "iterations" = some (.integer iterations) ∧
      after.2.state =
        (course.afterStep (course.begin before) iterations).2.state.withIterations iterations ∧
      (∀ entries interval action, RecordAction.ConfiguredBy entries interval action
          before.2.workspace → Decorator.Apart course.decorators action →
        ∃ columns, List.Forall₂ RecordEntry.Makes (RecordEntry.naming entries) columns ∧
          action.rows after.2.workspace = RecordAction.rowsOfColumns after.2.workspace columns ∧
          ∀ column ∈ columns, course.Holds (course.begin before) column.kind interval true iterations
            (after.2.workspace.action column.number).rows) ∧
      (∀ (label name : String) (interval number : Nat) (action : RecordAction S), 1 ≤ interval →
        number < before.2.workspace.actions.length →
        RecordAction.Has (.every label interval false (.column number name .change)) action →
        action.memories.Nodup → Decorator.Apart course.decorators action →
        course.Holds (course.begin before) .change interval false iterations
          (after.2.workspace.action number).rows) := by
  cases solveWithin_ends fits ended with
  | @closed iterations last _ _ _ stopped closed =>
      have positive : 1 ≤ iterations := by
        cases stopped with
        | met _ _ _ => omega
      have state : after.2.state = (course.afterStep (course.begin before)
          iterations).2.state.withIterations iterations := by
        rw [(close_ok closed).1, stopped.state]
      refine ⟨iterations, positive, ?_, state, ?_, ?_⟩
      · rw [state]
        exact SolverState.iterations_withIterations _ iterations
      · intro entries interval action configured apart
        obtain ⟨columns, makes, arranged, distinct, allocated⟩ := configured.columns
        refine ⟨columns, makes, ?_, fun column among => ?_⟩
        · rw [arranged, RecordAction.rows_thinnedBy]
        · refine holds_of_closed stopped closed (thins_of_apart apart fun iteration => ?_)
            (allocated column among)
          rw [arranged]
          exact RecordAction.touching_thinnedBy distinct among configured.positive iteration
      · intro label name interval number action _ allocated has distinct apart
        refine holds_of_closed stopped closed (thins_of_apart apart fun iteration => ?_) allocated
        have own : number ∈ (RecordAction.every label interval false
            (.column number name .change) : RecordAction S).memories := by
          simp [RecordAction.memories, RecordAction.glances, Glance.memory?]
        rw [(has.touching distinct own iteration).2, RecordAction.glances_every_column,
          RecordKind.touching_thinned]

section Sample

def sampleEntries : List (RecordEntry Int) :=
  [.raw (.text "iteration"), .raw (.integer 3), .named "moved" (.column 0 "change" .change),
    .raw (.integer 2), .raw (.text "cost")]

def sampleRecord : RecordAction Int :=
  .every "group" 2 true (.group "group" [("iteration", .column 1 "iteration" .iteration),
    ("moved", .column 0 "moved" .change), ("cost", .column 2 "cost" .cost)])

def sampleLeap : RecordAction Int :=
  .group "group" [("leap", .every "change" 3 false (.column 3 "change" .change))]

def recording : Course Int :=
  { Sample.course with decorators := [.record sampleRecord, .record sampleLeap] }

def recordingMemory : Memory Int :=
  (Sample.memory.1, { Sample.memory.2 with
    workspace := { Sample.workspace with actions := List.replicate 4 {} } })

theorem sample_configured :
    sampleRecord.ConfiguredBy sampleEntries 2 recordingMemory.2.workspace where
  leaves := by decide
  distinct := by decide
  thinned := rfl
  positive := by decide
  made := by
    refine ⟨({}, { Sample.workspace with actions := [{}] }), _, ?_, rfl, ?_⟩
    · decide
    · decide

theorem sample_disjoint {number : Nat} (uses : (Decorator.record sampleRecord).Uses number)
    (leaps : (Decorator.record sampleLeap).Uses number) : False := by
  obtain ⟨glance, shown, own⟩ := uses
  obtain ⟨other, leapt, same⟩ := leaps
  have recorded : (Decorator.record sampleRecord).glances 0 =
      [.column 1 .iteration 0, .column 0 .change 0, .column 2 .cost 0] := rfl
  have skipped : (Decorator.record sampleLeap).glances 0 = [.column 3 .change 0] := rfl
  rw [skipped, List.mem_singleton] at leapt
  subst leapt
  cases same
  rw [recorded] at shown
  simp only [List.mem_cons, List.not_mem_nil, or_false] at shown
  rcases shown with rfl | rfl | rfl <;> cases own

theorem sample_records_multiples :
    recording.Fits recordingMemory.2.state ∧
      ∃ point after, (solveWithin 5 recording.problem recording.decorators).run recordingMemory =
          (.ok point, after) ∧
        ∃ iterations columns, 1 ≤ iterations ∧
          List.Forall₂ RecordEntry.Makes (RecordEntry.naming sampleEntries) columns ∧
          sampleRecord.rows after.2.workspace =
            RecordAction.rowsOfColumns after.2.workspace columns ∧
          (∀ column ∈ columns, recording.Holds (recording.begin recordingMemory) column.kind 2 true
            iterations (after.2.workspace.action column.number).rows) ∧
          recording.Holds (recording.begin recordingMemory) .change 3 false iterations
            (after.2.workspace.action 3).rows := by
  have fits : recording.Fits recordingMemory.2.state := ⟨rfl, rfl⟩
  have succeeds : ((solveWithin 5 recording.problem recording.decorators).run
      recordingMemory).1.isOk = true := by decide +kernel
  obtain ⟨point, after, ended⟩ := exists_ok_of_isOk succeeds
  obtain ⟨iterations, positive, _, _, configured, leaping⟩ := solve_records_multiples fits ended
  have apart : Decorator.Apart recording.decorators sampleRecord := by
    refine ⟨[], [.record sampleLeap], rfl, fun other member number uses leaps => ?_⟩
    rw [List.nil_append, List.mem_singleton] at member
    subst member
    exact sample_disjoint uses leaps
  have apartLeap : Decorator.Apart recording.decorators sampleLeap := by
    refine ⟨[.record sampleRecord], [], rfl, fun other member number leaps uses => ?_⟩
    rw [List.append_nil, List.mem_singleton] at member
    subst member
    exact sample_disjoint uses leaps
  obtain ⟨columns, makes, rows, holds⟩ := configured _ _ _ sample_configured apart
  exact ⟨fits, point, after, ended, iterations, columns, positive, makes, rows, holds,
    leaping "change" "change" 3 3 sampleLeap (by decide) (by decide)
      (.member List.mem_cons_self .self) (by decide) apartLeap⟩

end Sample

end Course

end ProximalSplitting

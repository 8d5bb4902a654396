import ProximalSplitting.Proofs.Exact.Coordinates
import ProximalSplitting.Proofs.Run.Bound
import ProximalSplitting.Proofs.Run.Sequence
import ProximalSplitting.Proofs.Run.Turns
import ProximalSplitting.Proofs.Stopping.Settled
import ProximalSplitting.Proofs.Watching.Pace

/-!
When the reason for stopping can be read. No decorator finds a reason while the iterations of a run
go on, whatever the criteria remember from earlier runs, and every decorator finds one when the run
has stopped, if the criterion is a settled tree. So the actions that print the reason are silent at
every iteration, and the one that is kept for the end prints it.
-/

namespace ProximalSplitting

open Effect Tracked

variable {S : Type}

namespace DebugAction

theorem stops_of_configure {configuration next : Configuration S} {entry : DebugEntry S}
    {before after : Journal × Workspace S}
    (ran : (configure configuration entry).run before = (.ok next, after))
    (asked : configuration.stops = true ∨ entry = .raw (.text "stop")) : next.stops = true := by
  unfold configure at ran
  split at ran
  · cases ran
    exact asked.resolve_right nofun
  · cases ran
    rfl
  · rename_i others
    obtain ⟨action, middle, _, concluded⟩ := run_bind_ok_iff.mp ran
    cases concluded
    exact asked.resolve_right others

theorem stops_of_foldlM {entries : List (DebugEntry S)} {configuration last : Configuration S}
    {before after : Journal × Workspace S}
    (ran : (entries.foldlM configure configuration).run before = (.ok last, after))
    (asked : configuration.stops = true ∨ .raw (.text "stop") ∈ entries) : last.stops = true := by
  induction entries generalizing configuration before with
  | nil =>
      cases ran
      exact asked.resolve_right nofun
  | cons first rest ih =>
      rw [List.foldlM_cons] at ran
      obtain ⟨next, middle, configured, ranRest⟩ := run_bind_ok_iff.mp ran
      refine ih ranRest ?_
      rcases asked with stops | member
      · exact .inl (stops_of_configure configured (.inl stops))
      · rcases List.mem_cons.mp member with same | later
        · exact .inl (stops_of_configure configured (.inr same.symm))
        · exact .inr later

/-- Wherever a list asks for the reason at the end, its dictionary has the action that prints it. -/
theorem lookup_dictionaryOf {entries : List (DebugEntry S)}
    {dictionary : List (String × DebugAction S)} {before after : Journal × Workspace S}
    (made : (dictionaryOf entries).run before = (.ok dictionary, after))
    (asked : .raw (.text "stop") ∈ entries) : dictionary.lookup "stop" = some .reason := by
  rw [dictionaryOf] at made
  obtain ⟨configuration, middle, configured, concluded⟩ := run_bind_ok_iff.mp made
  have stops := stops_of_foldlM configured (.inr asked)
  rw [stops] at concluded
  cases concluded
  rfl

end DebugAction

def Glance.asksReason : Glance S → Bool
  | .debug .reason _ _ => true
  | _ => false

variable [Scalar S]

/-- All glances that ask for the reason find the same, as none of them changes it. -/
theorem Glance.Finds.said_reason {problem : Problem S} {state : SolverState S}
    {found : List (Glance S × String × Value S)} {before after : Journal × Workspace S}
    (finds : Glance.Finds problem state found before after) {text : String}
    (told : state.reason before.2 = .ok text) :
    ∀ entry ∈ found, entry.1.asksReason = true → Glance.said entry = text := by
  induction finds with
  | nil => exact nofun
  | @cons glance entry rest before journal after sought _ ih =>
      refine List.forall_mem_cons.mpr ⟨fun asks => ?_, ih ?_⟩
      · cases glance with
        | debug action single iteration =>
            cases action with
            | reason =>
                rw [figure, DebugAction.output, told] at sought
                cases sought
                rfl
            | _ => cases asks
        | _ => cases asks
      · rw [SolverState.reason_leave]
        exact told

namespace Course

variable {course : Course S} {first before last looking looked : Memory S} {iterations : Nat}
  {outer : List (Decorator S)}

theorem performAll_keeps_length (calls : List (Call S)) :
    Keeps (fun session => session.workspace.criteria.length) (course.performAll calls) := by
  have stepped : ∀ step : Step S Unit,
      Keeps (fun session => session.workspace.criteria.length) (Run.step step) := by
    intro step before
    have kept : Keeps Session.workspace (Run.step step) := Run.keeps_step_workspace
    exact congrArg (fun workspace => workspace.criteria.length) (kept before)
  refine keeps_performAll fun call _ => ?_
  cases call with
  | prepare => exact stepped _
  | step iteration => exact stepped _
  | observe decorator iteration =>
      exact fun before =>
        Workspace.length_of_judging (observe_keeps_judging decorator iteration before)
  | check iteration =>
      refine keeps_bind (fun before => ?_) fun _ => keeps_pure ()
      rw [run_check]
      exact Criterion.check_keeps_length course.criterion (before.1, before.2.workspace)

/-- When a run has stopped at a settled tree, the tree has a reason. -/
theorem Stops.reason_ne_empty (stopped : course.Stops first iterations last)
    (proper : Criterion.Proper course.criterion.nodes)
    (settled : course.criterion.Settled course.problem)
    (allocated : ∀ number ∈ course.criterion.numbers,
      number < first.2.workspace.criteria.length) :
    (last.2.workspace.criterion course.criterion.number).reason ≠ "" := by
  cases stopped with
  | @met done middle called _ pending advanced checked =>
      have length : called.2.workspace.criteria.length = first.2.workspace.criteria.length :=
        ((performAll_keeps_length _).of_run advanced).trans
          ((performAll_keeps_length _).of_run pending.performs)
      rw [run_check, Run.watch, run_part] at checked
      rcases ran : (course.criterion.check course.problem called.2.state ((done + 1 : Nat) : Int)).run
        (called.1, called.2.workspace) with ⟨outcome, left⟩
      rw [ran] at checked
      cases checked
      refine Criterion.reason_check_of_met proper settled (by omega) (fun number member => ?_) ran
      exact length ▸ allocated number member

theorem Stops.criterion (stopped : course.Stops first iterations last)
    (fits : course.Fits first.2.state) : last.2.state.criterion = some course.criterion := by
  obtain ⟨_, performed, _⟩ := stops_iff.mp stopped
  have stays := fits.stays_performAll course.lasting_fits (course.callsThrough iterations) first fits
  rw [performed] at stays
  exact stays.criterion

variable (course) in
/-- A decorator is shown an iteration, and each of its actions that print the reason, wherever it
stands and whatever it is called with, prints this text. -/
def SaysReason (decorator : Decorator S) (iteration : Int) (text : String)
    (looking looked : Memory S) : Prop :=
  ∃ found, found.map Prod.fst = decorator.glances iteration ∧
    Glance.Finds course.problem looking.2.state found (looking.1, looking.2.workspace)
      (looked.1, looked.2.workspace) ∧
    ∀ entry ∈ found, entry.1.asksReason = true → Glance.said entry = text

theorem Performs.saysReason {decorator : Decorator S} {iteration : Int} {text : String}
    (observed : course.Performs [.observe decorator iteration] looking looked)
    (told : looking.2.state.reason looking.2.workspace = .ok text) :
    course.SaysReason decorator iteration text looking looked := by
  obtain ⟨_, found, made, finds⟩ := performs_observe.mp observed
  exact ⟨found, made, finds, finds.said_reason told⟩

/-- An action that is kept for the end prints the reason and nothing else. -/
theorem SaysReason.printed {dictionary : List (String × DebugAction S)} {text : String}
    (spoken : course.SaysReason (.debug dictionary) (-1) text looking looked)
    (registered : dictionary.lookup "stop" = some .reason) :
    looked.2.workspace.printed = looking.2.workspace.printed ++ text := by
  obtain ⟨found, made, finds, said⟩ := spoken
  have single : (Decorator.debug dictionary).glances (-1) = [.debug .reason rfl (-1)] := by
    simp only [Decorator.glances, Int.reduceNeg, Int.reduceLE, if_false, registered,
      DebugAction.glances]
  rw [single] at made
  obtain ⟨entry, rfl, same⟩ := List.map_eq_singleton_iff.mp made
  have asks : entry.1.asksReason = true := by
    rw [same]
    rfl
  have printed : looked.2.workspace.printed = looking.2.workspace.printed ++ Glance.text [entry] :=
    finds.printed
  rw [printed, Glance.text, List.map_singleton, said entry List.mem_cons_self asks]
  exact congrArg _ String.empty_append

theorem Performs.reason_looksOf {text : String} {iteration : Int}
    (looked : course.Performs (looksOf outer iteration) before looking)
    (told : before.2.state.reason before.2.workspace = .ok text) :
    looking.2.state.reason looking.2.workspace = .ok text := by
  obtain ⟨sameState, found, _, finds⟩ := performs_looksOf.mp looked
  rw [sameState, SolverState.reason_of_judging finds.judging]
  exact told

structure ReasonedAtEnd (course : Course S) (text : String) (iterations : Nat) (last : Memory S) :
    Prop where
  found : ∀ outer looking, course.Performs (looksOf outer (-1)) (counted iterations last) looking →
    looking.2.state.reason looking.2.workspace = .ok text
  printed : ∀ outer dictionary looking looked, dictionary.lookup "stop" = some .reason →
    course.Performs (looksOf outer (-1)) (counted iterations last) looking →
    course.Performs [.observe (.debug dictionary) (-1)] looking looked →
    looked.2.workspace.printed = looking.2.workspace.printed ++ text

theorem Stops.reasonedAtEnd (stopped : course.Stops first iterations last)
    (fits : course.Fits first.2.state) :
    course.ReasonedAtEnd (last.2.workspace.criterion course.criterion.number).reason iterations
      last := by
  have told : (counted iterations last).2.state.reason (counted iterations last).2.workspace =
      .ok (last.2.workspace.criterion course.criterion.number).reason := by
    have criterion : (counted iterations last).2.state.criterion = some course.criterion :=
      stopped.criterion fits
    rw [SolverState.reason, criterion]
    rfl
  refine ⟨fun outer looking shown => shown.reason_looksOf told, ?_⟩
  intro outer dictionary looking looked registered shown observed
  exact (observed.saysReason (shown.reason_looksOf told)).printed registered

/-- The reason for stopping is empty at every look of every iteration, in every run, so that the
actions that print it print nothing there. If the criterion is a settled tree, the reason is not
empty at the looks at the end of a run that has stopped. A list that asks for the reason at the end
has an action made that prints it there, after everything that the iterations print, and the reason
is still the same when the run has returned.

That the tree is settled is enough, but not necessary. It leaves out the trees in which a set with a
test of the change or of the time inside stands at two places, and for a problem with an impure
function also those in which any other set does. Such a tree can still have a reason: only a set that
holds at one place and does not hold at a later place of the same call loses the one it gave. -/
theorem solve_tells_reason (fits : course.Fits before.2.state)
    (proper : Criterion.Proper course.criterion.nodes)
    (settled : course.criterion.Settled course.problem)
    (allocated : ∀ number ∈ course.criterion.numbers,
      number < before.2.workspace.criteria.length) :
    (∀ outer iteration looking, course.Turn (course.begin before) outer iteration looking →
      looking.2.state.reason looking.2.workspace = .ok "" ∧
      ∀ decorator looked, course.Performs [.observe decorator iteration] looking looked →
        course.SaysReason decorator iteration "" looking looked) ∧
    (∀ iterations last, course.Stops (course.begin before) iterations last →
      ∃ text, text ≠ "" ∧ course.ReasonedAtEnd text iterations last ∧
        ∀ steps point after,
          (solveWithin steps course.problem course.decorators).run before = (.ok point, after) →
          after.2.state.reason after.2.workspace = .ok text ∧
          ∀ outer dictionary inner, course.decorators = outer ++ .debug dictionary :: inner →
            dictionary.lookup "stop" = some .reason → ∃ looking earlier later,
              course.Performs (looksOf outer (-1)) (counted iterations last) looking ∧
              looking.2.workspace.printed = last.2.workspace.printed ++ earlier ∧
              after.2.workspace.printed = looking.2.workspace.printed ++ text ++ later) ∧
    ∀ entries dictionary earlier made, .raw (.text "stop") ∈ entries →
      (DebugAction.dictionaryOf entries).run earlier = (.ok dictionary, made) →
      dictionary.lookup "stop" = some (.reason : DebugAction S) := by
  have fitsFirst : course.Fits (course.begin before).2.state := fits
  refine ⟨fun outer iteration looking turn => ?_, fun iterations last stopped => ?_,
    fun entries dictionary earlier made asked configured =>
      DebugAction.lookup_dictionaryOf configured asked⟩
  · have told : looking.2.state.reason looking.2.workspace = .ok "" := by
      rw [SolverState.reason, turn.criterion fitsFirst fitsFirst.criterion]
      exact congrArg Except.ok turn.reason
    exact ⟨told, fun decorator looked observed => observed.saysReason told⟩
  · have atEnd := stopped.reasonedAtEnd fitsFirst
    refine ⟨_, stopped.reason_ne_empty proper settled allocated, atEnd, ?_⟩
    intro steps point after ended
    cases solveWithin_ends fits ended with
    | @closed counts final _ _ _ again closed =>
        obtain ⟨rfl, rfl⟩ := again.unique stopped
        obtain ⟨shown, looked, _, rfl⟩ := looks_of_close closed
        refine ⟨atEnd.found course.decorators shown looked, ?_⟩
        intro outer dictionary inner around registered
        rw [looks_around around] at looked
        obtain ⟨looking, outerLooked, rest⟩ := performs_append.mp looked
        obtain ⟨told, observed, innerLooked⟩ := performs_append.mp rest
        obtain ⟨_, _, _, findsOuter⟩ := performs_looksOf.mp outerLooked
        obtain ⟨_, found, _, finds⟩ := performs_looksOf.mp innerLooked
        refine ⟨looking, _, Glance.text found, outerLooked, findsOuter.printed, ?_⟩
        rw [← atEnd.printed outer dictionary looking told registered outerLooked observed]
        exact finds.printed

section Sample

def sampleRequests : List (DebugEntry Int) :=
  [.raw (.text "iteration"), .raw (.text "stop"), .action .reason, .action (.every 2 true .reason),
    .raw (.integer 3)]

def sampleActions : List (String × DebugAction Int) :=
  [("stop", .reason),
    ("all", .every 3 true (.group [.iterationNumber, .reason, .every 2 true .reason]))]

def sampleTeller : Course Int :=
  { Sample.course with decorators := [.debug sampleActions, .observer "seen"] }

theorem sample_tells_reason :
    sampleTeller.Fits Sample.memory.2.state ∧ Criterion.Proper Sample.criterion.nodes ∧
      Sample.criterion.Settled Sample.problem ∧
      (∀ number ∈ Sample.criterion.numbers, number < Sample.workspace.criteria.length) ∧
      DebugEntry.raw (.text "stop") ∈ sampleRequests ∧ ∃ made,
        (DebugAction.dictionaryOf sampleRequests).run ({}, Sample.workspace) =
          (.ok sampleActions, made) ∧
        ∃ iterations last text point after, 1 ≤ iterations ∧
          sampleTeller.Stops (sampleTeller.begin Sample.memory) iterations last ∧ text ≠ "" ∧
          (∀ iteration ≤ iterations, ∃ looking looked,
            sampleTeller.Turn (sampleTeller.begin Sample.memory) [] iteration looking ∧
            looking.2.state.reason looking.2.workspace = .ok "" ∧
            sampleTeller.SaysReason (.debug sampleActions) iteration "" looking looked) ∧
          (solveWithin 5 Sample.problem sampleTeller.decorators).run Sample.memory =
            (.ok point, after) ∧
          after.2.state.reason after.2.workspace = .ok text ∧
          ∃ earlier later, after.2.workspace.printed =
            last.2.workspace.printed ++ earlier ++ text ++ later := by
  have fits : sampleTeller.Fits Sample.memory.2.state := ⟨rfl, rfl⟩
  have settled : Sample.criterion.Settled Sample.problem := .inl (by unfold Criterion.Once; decide)
  have allocated : ∀ number ∈ Sample.criterion.numbers,
      number < Sample.workspace.criteria.length := by decide
  obtain ⟨silent, tells, configures⟩ := @solve_tells_reason Int _ sampleTeller Sample.memory fits
    Criterion.proper_sample settled allocated
  have succeeds : ((solveWithin 5 sampleTeller.problem sampleTeller.decorators).run
      Sample.memory).1.isOk = true := by decide +kernel
  have asked : DebugEntry.raw (.text "stop") ∈ sampleRequests :=
    List.mem_cons_of_mem _ List.mem_cons_self
  have configured : (DebugAction.dictionaryOf sampleRequests).run ({}, Sample.workspace) =
    (.ok sampleActions, ({}, Sample.workspace)) := rfl
  obtain ⟨point, after, ended⟩ := exists_ok_of_isOk succeeds
  cases solveWithin_ends fits ended with
  | @closed iterations last _ _ _ stopped closed =>
      obtain ⟨text, nonempty, _, returns⟩ := tells iterations last stopped
      have around : sampleTeller.decorators =
        [] ++ .debug sampleActions :: [.observer "seen"] := rfl
      obtain ⟨told, printed⟩ := returns 5 point after ended
      obtain ⟨looking, earlier, later, _, before, whole⟩ :=
        printed [] sampleActions [.observer "seen"] around (configures _ _ _ _ asked configured)
      refine ⟨fits, Criterion.proper_sample, settled, allocated, asked, _, configured, iterations,
        last, text, point, after, (stops_iff.mp stopped).1, stopped, nonempty, ?_, ended, told,
        earlier, later, before ▸ whole⟩
      intro iteration early
      obtain ⟨_, shown, looked, turn, observed, _⟩ := stopped.prints around early
      obtain ⟨empty, said⟩ := silent [] iteration shown turn
      exact ⟨shown, looked, turn, empty, said _ looked observed⟩

end Sample

section Slopes

/-- Rational numbers, with the slope of a vector in place of its angle. -/
def Slope : Type := ℚ

instance : Scalar Slope :=
  ({ (inferInstance : Scalar ℚ) with
    arctan2 := fun ordinate abscissa => ordinate / abscissa } : Scalar ℚ)

def slopePoint (first : ℚ) : Point Slope :=
  .stack [.scalar first, .scalar (0 : ℚ), .scalar (0 : ℚ)]

def slopeTarget : Point Slope := slopePoint (1 + 1 / 2 ^ 20)

def slopePair : Criterion Slope :=
  let change : Criterion Slope := .set 1 .all [.single 0 (.change (1 / 10 ^ 6 : ℚ))]
  .set 2 .any [change, change]

def slopeCourse : Course Slope where
  problem := {
    manifold := .ofGeometry (sphere 2)
    objective := .total
    collection := some ⟨[.constant slopeTarget], [1]⟩ }
  solver := .cyclicProximalPoint
  criterion := slopePair
  decorators := [.debug [("stop", .reason)]]

def slopeMemory : Memory Slope where
  fst := { counters := [0] }
  snd := {
    workspace := {
      clock := (0 : ℚ)
      criteria := List.replicate 3 ⟨"", none, (0 : ℚ)⟩ }
    state := {
      iterate := slopePoint 1
      criterion := some slopePair
      method := .cyclic false
        { parameter := fun _ => pure (1 : ℚ), evaluationOrder := .linear, key := ⟨0, 7⟩ } } }

theorem proper_slopePair : Criterion.Proper slopePair.nodes := by
  constructor
  · intro left member right memberToo same
    simp only [slopePair, Criterion.nodes, Criterion.nodesOfAll, List.append_nil, List.cons_append,
      List.nil_append, List.mem_cons, List.not_mem_nil, or_false] at member memberToo
    rcases member with rfl | rfl | rfl | rfl | rfl <;>
      rcases memberToo with rfl | rfl | rfl | rfl | rfl <;> first | rfl | cases same
  · intro number connective member
    simp [slopePair, Criterion.nodes, Criterion.nodesOfAll] at member

/-- The iterate moves by nothing that the distance can see, but the distance of the new iterate from
itself is not zero. The set holds at its first place, and loses its reason at the second one. The run
stops, finds no reason and prints none. -/
theorem slope_stops_without_reason :
    Criterion.Proper slopePair.nodes ∧
      Sphere.hasUnitLength slopeTarget Tolerance.validation = true ∧
      ∃ iterations last point after,
        slopeCourse.Stops (slopeCourse.begin slopeMemory) iterations last ∧
        (solveWithin 1 slopeCourse.problem slopeCourse.decorators).run slopeMemory =
          (.ok point, after) ∧
        after.2.state.reason after.2.workspace = .ok "" ∧ after.2.workspace.printed = "" := by
  have fits : slopeCourse.Fits slopeMemory.2.state := ⟨rfl, rfl⟩
  let ran := (solveWithin 1 slopeCourse.problem slopeCourse.decorators).run slopeMemory
  have succeeds : ran.1.isOk = true := by decide +kernel
  have silent : (ran.2.2.workspace.criterion slopePair.number).reason = "" ∧
      ran.2.2.workspace.printed = "" := by decide +kernel
  obtain ⟨point, after, ended⟩ := exists_ok_of_isOk succeeds
  have same : ran.2 = after := congrArg Prod.snd ended
  rw [same] at silent
  have criterion : after.2.state.criterion = some slopePair := (fits.of_run ended).criterion
  cases solveWithin_ends fits ended with
  | @closed iterations last _ _ _ stopped _ =>
      refine ⟨proper_slopePair, by decide +kernel, iterations, last, point, after, stopped, ended, ?_,
        silent.2⟩
      rw [SolverState.reason, criterion]
      exact congrArg Except.ok silent.1

end Slopes

end Course

end ProximalSplitting

import ProximalSplitting.Proofs.Method.Exchanges
import ProximalSplitting.Proofs.Run.Confinement

/-!
Runs of Douglas-Rachford splitting of two functions on flat space. Every iteration is an exchange,
however the run is watched. The driver stays where it started exactly if both proximal points meet
in every iteration, and then the run reports the point at which they meet.
-/

namespace ProximalSplitting

open Compute Effect Tracked Tensor DouglasRachford

variable {S : Type} [ExactScalar S]

namespace DouglasRachford

structure Meet (shape : List Nat) (first second : ProximalMap S) (value : S)
    (driver point : Point S) : Prop where
  isNear : (first value driver).Yields point
  isFar : ∃ mirror : Point S, mirror.hasShape shape = true ∧
    mirror.coordinates = (2 : S) • point.coordinates - driver.coordinates ∧
    (second value mirror).Yields point

def Driven (shape : List Nat) (parameters : SplittingParameters S) (state : SolverState S)
    (driver : Point S) : Prop :=
  state.method = .splitting { parameters with driver } ∧ driver.hasShape shape = true

omit [ExactScalar S] in
theorem Driven.driver {shape : List Nat} {parameters : SplittingParameters S}
    {state : SolverState S} {driver : Point S} (driven : Driven shape parameters state driver) :
    state.driver? = some driver := by
  rw [SolverState.driver?, driven.1]

end DouglasRachford

namespace Course

def driverAt (course : Course S) (first : Memory S) (iteration : Nat) : Point S :=
  ((course.afterStep first iteration).2.state.driver?).getD (course.iterateAt first iteration)

structure Exchanges (course : Course S) (begun : Memory S) (shape : List Nat)
    (first second : ProximalMap S) (parameters : SplittingParameters S)
    (value factor : Nat → S) (near : Nat → Point S) (done : Nat) : Prop where
  start : course.driverAt begun 0 = parameters.driver
  startShaped : parameters.driver.hasShape shape = true
  chosen : ∀ earlier < done,
    (parameters.parameter (earlier + 1 : Nat)).Yields (value (earlier + 1))
  relaxed : ∀ earlier < done,
    (parameters.relaxation (earlier + 1 : Nat)).Yields (factor (earlier + 1))
  exchange : ∀ earlier < done, Exchange shape first second (value (earlier + 1))
    (factor (earlier + 1)) (course.driverAt begun earlier) (near (earlier + 1))
    (course.iterateAt begun (earlier + 1)) (course.driverAt begun (earlier + 1))

section Resting

variable {course : Course S} {begun : Memory S} {shape : List Nat} {first second : ProximalMap S}
  {parameters : SplittingParameters S} {value factor : Nat → S} {near : Nat → Point S} {done : Nat}
  (exchanges : course.Exchanges begun shape first second parameters value factor near done)
include exchanges

theorem Exchanges.rests_of_meet
    (meet : ∀ earlier < done, course.iterateAt begun (earlier + 1) = near (earlier + 1)) :
    ∀ iteration ≤ done, course.driverAt begun iteration = parameters.driver := by
  intro iteration
  induction iteration with
  | zero =>
      intro _
      exact exchanges.start
  | succ earlier ih =>
      intro early
      have before := ih (by omega)
      have exchange := exchanges.exchange earlier (by omega)
      rw [before] at exchange
      exact exchange.rests_of_meet exchanges.startShaped (meet earlier (by omega))

theorem Exchanges.meet_of_rests (moving : ∀ earlier < done, factor (earlier + 1) ≠ 0)
    (rests : ∀ iteration ≤ done, course.driverAt begun iteration = parameters.driver) :
    ∀ earlier < done, course.iterateAt begun (earlier + 1) = near (earlier + 1) := by
  intro earlier early
  have exchange := exchanges.exchange earlier early
  apply exchange.meet_of_rests (moving earlier early)
  rw [rests (earlier + 1) (by omega), rests earlier (by omega)]

theorem Exchanges.reports_meeting (moving : ∀ earlier < done, factor (earlier + 1) ≠ 0)
    (rests : ∀ iteration ≤ done, course.driverAt begun iteration = parameters.driver) :
    ∀ earlier < done, Meet shape first second (value (earlier + 1)) parameters.driver
      (course.iterateAt begun (earlier + 1)) := by
  intro earlier early
  have exchange := exchanges.exchange earlier early
  have meet := exchanges.meet_of_rests moving rests earlier early
  rw [rests earlier (by omega), ← meet] at exchange
  exact ⟨exchange.isNear, exchange.isFar⟩

end Resting

section Steps

theorem Performs.untilEarlier {course : Course S} {begun middle : Memory S} {done earlier : Nat}
    (performed : course.Performs (course.callsUntilStep done) begun middle)
    (early : earlier ≤ done) :
    ∃ reached, course.Performs (course.callsUntilStep earlier) begun reached := by
  induction done generalizing middle with
  | zero =>
      cases Nat.le_zero.mp early
      exact ⟨middle, performed⟩
  | succ done ih =>
      by_cases last : earlier = done + 1
      · subst last
        exact ⟨middle, performed⟩
      · obtain ⟨reached, untilStep⟩ := performed.earlierStep
        exact ih untilStep (by omega)

variable {course : Course S} {before reached : Memory S} {shape : List Nat}
  {first second : ProximalMap S} {counts : List Int} {parameters : SplittingParameters S}
  {done : Nat}

theorem driverAt_of_driven {driver : Point S}
    (performed : course.Performs (course.callsUntilStep done) (course.begin before) reached)
    (driven : Driven shape parameters reached.2.state driver) :
    course.driverAt (course.begin before) done = driver := by
  rw [driverAt, Course.afterStep, performed.memoryAfter, driven.driver]
  rfl

variable (straight : course.problem.manifold.geometry.Straight)
  (positive : ∀ extent ∈ shape, 0 < extent) (fits : course.Fits before.2.state)
  (method : before.2.state.method = .splitting parameters)
  (collected : course.problem.collection = some ⟨[first, second], counts⟩)
  (keeps : KeepShape [first, second] shape) (standard : parameters.reflection = none)
  (alone : parameters.parallel = false) (shaped : parameters.driver.hasShape shape = true)
include straight positive fits method collected keeps standard alone shaped

omit shaped in
theorem perform_exchange {middle : Memory S} {driver : Point S}
    (driven : Driven shape parameters middle.2.state driver) {outcome : Except (Fault S) Unit}
    (ran : (course.perform (.step (done + 1))).run middle = (outcome, reached)) :
    (∃ fault, outcome = .error fault ∧ Interrupts shape first second parameters.parameter
      parameters.relaxation (done + 1 : Nat) driver fault) ∨
    ∃ value factor near next, outcome = .ok () ∧
      (parameters.parameter (done + 1 : Nat)).Yields value ∧
      (parameters.relaxation (done + 1 : Nat)).Yields factor ∧
      Exchange shape first second value factor driver near reached.2.state.iterate next ∧
      Driven shape parameters reached.2.state next := by
  obtain ⟨sameMethod, driverShaped⟩ := driven
  let current : SplittingParameters S := { parameters with driver }
  have currentStandard : current.reflection = none := standard
  have currentAlone : current.parallel = false := alone
  have currentShaped : current.driver.hasShape shape = true := driverShaped
  rcases stepped : (DouglasRachford.step course.problem (done + 1 : Nat)).run
    (middle.1, middle.2.state) with ⟨stepOutcome, left⟩
  rw [perform, fits.douglasRachford method] at ran
  cases (Run.run_step_of stepped).symm.trans ran
  rcases run_step_exchange straight positive collected keeps currentStandard currentShaped
    currentAlone sameMethod stepped with
    interrupted | ⟨value, factor, near, far, next, rfl, chosen, relaxed, exchange, isLeft⟩
  · exact .inl interrupted
  · rw [advanced_eq sameMethod] at isLeft
    refine .inr ⟨value, factor, near, next, rfl, chosen, relaxed, ?_, ?_, exchange.nextShaped⟩
    · rw [isLeft]
      exact exchange
    · rw [isLeft]

omit straight positive keeps standard shaped in
theorem performs_prepare_pair :
    course.Performs [.prepare] (course.begin before) (course.begin before) :=
  performs_prepare_splitting (fits.douglasRachford method)
    (run_prepare_alone collected method alone (course.begin before).1)

theorem Performs.driven
    (performed : course.Performs (course.callsUntilStep done) (course.begin before) reached) :
    ∃ driver, Driven shape parameters reached.2.state driver := by
  let invariant : Nat → SolverState S → Prop := fun _ state =>
    ∃ driver, Driven shape parameters state driver
  change invariant done reached.2.state
  refine performed.afterSteps (fun after prepares => ?_) fun done middle after driven ran => ?_
  · rw [performs_unique prepares (performs_prepare_pair fits method collected alone)]
    exact ⟨parameters.driver, method, shaped⟩
  · obtain ⟨driver, driven⟩ := driven
    rcases perform_exchange straight positive fits method collected keeps standard alone driven ran
      with ⟨_, failed, _⟩ | ⟨_, _, _, next, _, _, _, _, isDriven⟩
    · cases failed
    · exact ⟨next, isDriven⟩

/-- The iterate of an iteration and the drivers before and after it belong to one exchange. -/
theorem Performs.exchanged
    (performed : course.Performs (course.callsUntilStep (done + 1)) (course.begin before) reached) :
    ∃ value factor near, (parameters.parameter (done + 1 : Nat)).Yields value ∧
      (parameters.relaxation (done + 1 : Nat)).Yields factor ∧
      Exchange shape first second value factor (course.driverAt (course.begin before) done) near
        (course.iterateAt (course.begin before) (done + 1))
        (course.driverAt (course.begin before) (done + 1)) := by
  obtain ⟨shown, through, last⟩ := performs_append.mp performed
  obtain ⟨stepped, untilStep, sameState⟩ := through.through
  obtain ⟨after, ran, ended⟩ := performs_cons.mp last
  cases performs_nil.mp ended
  obtain ⟨driver, driven⟩ :=
    untilStep.driven straight positive fits method collected keeps standard alone shaped
  have drivenShown : Driven shape parameters shown.2.state driver := by
    rw [sameState]
    exact driven
  rcases perform_exchange straight positive fits method collected keeps standard alone drivenShown
    ran with ⟨_, failed, _⟩ | ⟨value, factor, near, next, _, chosen, relaxed, exchange, isDriven⟩
  · cases failed
  · refine ⟨value, factor, near, chosen, relaxed, ?_⟩
    rw [driverAt_of_driven untilStep driven, driverAt_of_driven performed isDriven,
      Course.iterateAt, Course.afterStep, performed.memoryAfter]
    exact exchange

theorem Performs.exchanges
    (performed : course.Performs (course.callsUntilStep done) (course.begin before) reached) :
    ∃ value factor near, course.Exchanges (course.begin before) shape first second parameters value
      factor near done := by
  have each : ∀ number : Nat, ∃ value factor near, ∀ earlier < done, number = earlier + 1 →
      (parameters.parameter (earlier + 1 : Nat)).Yields value ∧
      (parameters.relaxation (earlier + 1 : Nat)).Yields factor ∧
      Exchange shape first second value factor (course.driverAt (course.begin before) earlier) near
        (course.iterateAt (course.begin before) (earlier + 1))
        (course.driverAt (course.begin before) (earlier + 1)) := by
    intro number
    by_cases counted : ∃ earlier < done, number = earlier + 1
    · obtain ⟨earlier, early, rfl⟩ := counted
      obtain ⟨_, untilStep⟩ := performed.untilEarlier (Nat.succ_le_of_lt early)
      obtain ⟨value, factor, near, found⟩ :=
        untilStep.exchanged straight positive fits method collected keeps standard alone shaped
      refine ⟨value, factor, near, fun other _ same => ?_⟩
      cases Nat.succ.inj same
      exact found
    · exact ⟨0, 0, .scalar 0, fun earlier early same => absurd ⟨earlier, early, same⟩ counted⟩
  choose value factor near found using each
  have prepares := performs_prepare_pair fits method collected alone
  have start : Driven shape parameters (course.begin before).2.state parameters.driver :=
    ⟨method, shaped⟩
  refine ⟨value, factor, near, driverAt_of_driven prepares start, shaped, ?_, ?_, ?_⟩
  · intro earlier early
    exact (found (earlier + 1) earlier early rfl).1
  · intro earlier early
    exact (found (earlier + 1) earlier early rfl).2.1
  · intro earlier early
    exact (found (earlier + 1) earlier early rfl).2.2

omit straight positive collected keeps standard alone shaped in
theorem reports_iterateAt {steps : Nat} {point : Point S} {after : Memory S}
    (ran : (solveWithin steps course.problem course.decorators).run before = (.ok point, after)) :
    ∃ iterations, 1 ≤ iterations ∧
      course.Performs (course.callsUntilStep iterations) (course.begin before)
        (course.afterStep (course.begin before) iterations) ∧
      after.2.state.field? "iterations" = some (.integer iterations) ∧
      point = course.iterateAt (course.begin before) iterations := by
  cases solveWithin_ends fits ran with
  | @closed iterations last _ _ bound stopped closed =>
      obtain ⟨state, result⟩ := close_ok closed
      rw [stopped.state] at state result
      rw [fits.douglasRachford method] at result
      have count : 1 ≤ iterations := by
        cases stopped with
        | met _ _ _ => omega
      refine ⟨iterations, count, stopped.performs_step (Nat.le_refl iterations), ?_, result⟩
      rw [state]
      exact SolverState.iterations_withIterations _ iterations

end Steps

end Course

/-- Douglas-Rachford splitting of two functions on flat space in its classical form. A step fails as
a function of the caller does, or it exchanges the driver for the next one and reports the second
proximal point. As long as no relaxation is zero, the driver of a run rests exactly if both proximal
points meet in every iteration, and then the point at which they meet is reported. -/
theorem splitting_exchanges_proximal_points {strictness : Strictness} {shape : List Nat}
    {course : Course S} {before : Memory S} {first second : ProximalMap S} {counts : List Int}
    {parameters : SplittingParameters S}
    (built : Manifold.euclideanOf strictness (shape.map fun (extent : Nat) => .integer extent) =
      .ok course.problem.manifold)
    (collected : course.problem.collection = some ⟨[first, second], counts⟩)
    (keeps : KeepShape [first, second] shape) (fits : course.Fits before.2.state)
    (method : before.2.state.method = .splitting parameters)
    (standard : parameters.reflection = none) (alone : parameters.parallel = false)
    (shaped : parameters.driver.hasShape shape = true) :
    (∀ {number driver state journal outcome after}, driver.hasShape shape = true →
      state.method = .splitting { parameters with driver } →
      (DouglasRachford.step course.problem number).run (journal, state) = (outcome, after) →
      (∃ fault, outcome = .error fault ∧ Interrupts shape first second parameters.parameter
        parameters.relaxation number driver fault) ∨
      ∃ value factor near far next, outcome = .ok () ∧
        (parameters.parameter number).Yields value ∧ (parameters.relaxation number).Yields factor ∧
        Exchange shape first second value factor driver near far next ∧
        after.2 = advanced state next far) ∧
    (∀ {done reached},
      course.Performs (course.callsUntilStep done) (course.begin before) reached →
      (∃ value factor near, course.Exchanges (course.begin before) shape first second parameters
        value factor near done) ∧
      ∀ value factor near, course.Exchanges (course.begin before) shape first second parameters
          value factor near done →
        (∀ earlier < done, factor (earlier + 1) ≠ 0) →
        ((∀ iteration ≤ done,
            course.driverAt (course.begin before) iteration = parameters.driver) ↔
          ∀ earlier < done,
            course.iterateAt (course.begin before) (earlier + 1) = near (earlier + 1)) ∧
        ((∀ iteration ≤ done,
            course.driverAt (course.begin before) iteration = parameters.driver) →
          ∀ earlier < done, Meet shape first second (value (earlier + 1)) parameters.driver
            (course.iterateAt (course.begin before) (earlier + 1)))) ∧
    (∀ {steps point after},
      (solveWithin steps course.problem course.decorators).run before = (.ok point, after) →
      ∃ iterations, 1 ≤ iterations ∧
        course.Performs (course.callsUntilStep iterations) (course.begin before)
          (course.afterStep (course.begin before) iterations) ∧
        after.2.state.field? "iterations" = some (.integer iterations) ∧
        point = course.iterateAt (course.begin before) iterations) := by
  obtain ⟨_, straight⟩ := checked_of_euclidean built
  have positive := positive_of_euclidean built
  refine ⟨?_, ?_, ?_⟩
  · intro number driver state journal outcome after driverShaped current ran
    let parameters' : SplittingParameters S := { parameters with driver }
    have standard' : parameters'.reflection = none := standard
    have alone' : parameters'.parallel = false := alone
    have shaped' : parameters'.driver.hasShape shape = true := driverShaped
    exact run_step_exchange straight positive collected keeps standard' shaped' alone' current ran
  · intro done reached performed
    refine ⟨performed.exchanges straight positive fits method collected keeps standard alone shaped,
      fun value factor near exchanges moving => ⟨⟨?_, ?_⟩, ?_⟩⟩
    · exact exchanges.meet_of_rests moving
    · exact exchanges.rests_of_meet
    · exact exchanges.reports_meeting moving
  · intro steps point after ran
    exact Course.reports_iterateAt fits method ran

section Sample

def meetingLine : Manifold ℚ :=
  match Manifold.euclideanOf .strict [.integer 1] with
  | .ok line => line
  | .error _ => .ofGeometry (euclidean [1])

def meetingCourse : Course ℚ where
  problem :=
    { manifold := meetingLine
      objective := .total
      collection := some ⟨[.constant (.stack [.scalar 5]), .constant (.stack [.scalar 5])], []⟩ }
  solver := .douglasRachford
  criterion := .single 0 (.iterations (.integer 3))
  decorators := []

def meetingParameters : SplittingParameters ℚ where
  driver := .stack [.scalar 1]
  parameter := Schedule.affine 1 (-3)
  relaxation := Schedule.constant 7
  reflection := none
  parallel := false

def meetingMemory : Memory ℚ :=
  ({}, ⟨{ clock := 0, criteria := [⟨"", none, 0⟩] },
    { iterate := .stack [.scalar 1]
      criterion := some (.single 0 (.iterations (.integer 3)))
      method := .splitting meetingParameters }⟩)

theorem keepShape_meeting :
    KeepShape [ProximalMap.constant (.stack [.scalar (5 : ℚ)]),
      ProximalMap.constant (.stack [.scalar 5])] [1] := by
  intro proximalMap member value point moved _ yields
  have isConstant : proximalMap = .constant (.stack [.scalar 5]) := by simpa using member
  subst isConstant
  rw [Compute.yields_pure.mp yields]
  rfl

theorem sample_exchanges_proximal_points :
    Manifold.euclideanOf .strict [.integer 1] = .ok meetingCourse.problem.manifold ∧
      KeepShape [ProximalMap.constant (.stack [.scalar (5 : ℚ)]),
        ProximalMap.constant (.stack [.scalar 5])] [1] ∧
      meetingCourse.Fits meetingMemory.2.state ∧
      meetingParameters.driver.hasShape [1] = true ∧
      ∃ reached value factor near,
        meetingCourse.Performs (meetingCourse.callsUntilStep 3) (meetingCourse.begin meetingMemory)
          reached ∧
        meetingCourse.Exchanges (meetingCourse.begin meetingMemory) [1]
          (.constant (.stack [.scalar 5])) (.constant (.stack [.scalar 5])) meetingParameters
          value factor near 3 ∧
        (∀ iteration ≤ 3, meetingCourse.driverAt (meetingCourse.begin meetingMemory) iteration =
          .stack [.scalar 1]) ∧
        ∀ earlier < 3, Meet [1] (.constant (.stack [.scalar 5])) (.constant (.stack [.scalar 5]))
          (value (earlier + 1)) (.stack [.scalar 1])
          (meetingCourse.iterateAt (meetingCourse.begin meetingMemory) (earlier + 1)) := by
  have built : Manifold.euclideanOf .strict
      ([1].map fun (extent : Nat) => (.integer extent : Value ℚ)) =
        .ok meetingCourse.problem.manifold := rfl
  have fits : meetingCourse.Fits meetingMemory.2.state := ⟨rfl, rfl⟩
  obtain ⟨_, runs, _⟩ := splitting_exchanges_proximal_points built rfl keepShape_meeting fits rfl
    rfl rfl (by rfl)
  have succeeds : ((meetingCourse.performAll (meetingCourse.callsUntilStep 3)).run
      (meetingCourse.begin meetingMemory)).1.isOk = true := by decide +kernel
  obtain ⟨_, reached, performed⟩ := Effect.exists_ok_of_isOk succeeds
  obtain ⟨⟨value, factor, near, exchanges⟩, rests⟩ := runs performed
  have moving : ∀ earlier < 3, factor (earlier + 1) ≠ 0 := by
    intro earlier early
    rw [Compute.yields_pure.mp (exchanges.relaxed earlier early)]
    decide +kernel
  have meet : ∀ earlier < 3, meetingCourse.iterateAt (meetingCourse.begin meetingMemory)
      (earlier + 1) = near (earlier + 1) := by
    intro earlier early
    have exchange := exchanges.exchange earlier early
    obtain ⟨mirror, _, _, isFar⟩ := exchange.isFar
    rw [Compute.yields_pure.mp isFar, Compute.yields_pure.mp exchange.isNear]
  obtain ⟨rests_iff, reports⟩ := rests value factor near exchanges moving
  exact ⟨built, keepShape_meeting, fits, rfl, reached, value, factor, near, performed, exchanges,
    rests_iff.mpr meet, reports (rests_iff.mpr meet)⟩

end Sample

end ProximalSplitting

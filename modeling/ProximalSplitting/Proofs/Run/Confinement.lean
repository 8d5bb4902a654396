import ProximalSplitting.Proofs.Method.Confinement
import ProximalSplitting.Proofs.Run.Cycles

/-!
Runs that stay in a region. What preparing establishes and every step keeps up holds along the whole
run, however it is watched and whatever ends it.
-/

namespace ProximalSplitting

open Compute Effect Tracked

namespace Course

structure Confined {S : Type} [Scalar S] (course : Course S) (before : Memory S)
    (shown : Point S → Prop) (driven : Option (Point S) → Prop)
    (raised : Int → Fault S → Prop) : Prop where
  prepares : ∃ prepared, course.Performs [.prepare] (course.begin before) prepared
  points : ∀ {done reached},
    course.Performs (course.callsUntilStep done) (course.begin before) reached →
      shown reached.2.state.iterate ∧ driven reached.2.state.driver?
  fails : ∀ {done middle fault after}, course.Pending (course.begin before) done middle →
    (course.perform (.step (done + 1))).run middle = (.error fault, after) →
      raised (done + 1 : Nat) fault
  result : ∀ {steps point after},
    (solveWithin steps course.problem course.decorators).run before = (.ok point, after) →
      shown point ∧ after.2.state.iterate = point

section Invariants

variable {S : Type} [Scalar S] {course : Course S} {before : Memory S} {shown : Point S → Prop}
  {driven : Option (Point S) → Prop} {raised : Int → Fault S → Prop}

theorem confined_of_steps (invariant : Nat → SolverState S → Prop)
    (fits : course.Fits before.2.state) (result : course.solver.result = SolverState.iterate)
    (prepares : ∃ prepared, course.Performs [.prepare] (course.begin before) prepared ∧
      invariant 0 prepared.2.state)
    (steps : ∀ {done middle outcome reached}, invariant done middle.2.state →
      (course.perform (.step (done + 1))).run middle = (outcome, reached) →
        (∃ fault, outcome = .error fault ∧ raised (done + 1 : Nat) fault) ∨
          outcome = .ok () ∧ invariant (done + 1) reached.2.state)
    (points : ∀ {done state}, invariant done state →
      shown state.iterate ∧ driven state.driver?) :
    course.Confined before shown driven raised := by
  obtain ⟨prepared, performed, prepares⟩ := prepares
  have holds : ∀ {done reached},
      course.Performs (course.callsUntilStep done) (course.begin before) reached →
        invariant done reached.2.state := by
    intro done reached stepped
    refine stepped.afterSteps (fun after performedToo => ?_) fun done middle after held ran => ?_
    · rwa [performs_unique performedToo performed]
    · rcases steps held ran with ⟨_, failed, _⟩ | ⟨_, kept⟩
      · cases failed
      · exact kept
  refine ⟨⟨prepared, performed⟩, fun stepped => points (holds stepped), ?_, ?_⟩
  · intro done middle fault after pending failed
    obtain ⟨reached, stepped, sameState⟩ := pending.performs.through
    have held := holds stepped
    rw [← sameState] at held
    rcases steps held failed with ⟨_, same, raises⟩ | ⟨succeeded, _⟩
    · cases same
      exact raises
    · cases succeeded
  · intro steps point after ended
    cases solveWithin_ends fits ended with
    | @closed iterations last _ _ bound stopped closed =>
        have held := holds (stopped.performs_step (Nat.le_refl iterations))
        obtain ⟨state, returned⟩ := close_ok closed
        rw [result] at returned
        rw [stopped.state] at state returned
        rw [state, returned]
        exact ⟨(points held).1, rfl⟩

theorem Confined.steps (confined : course.Confined before shown driven raised) {done : Nat}
    {middle : Memory S} (pending : course.Pending (course.begin before) done middle)
    (total : ∀ fault, ¬ raised (done + 1 : Nat) fault) :
    ∃ stepped, course.Performs [.step (done + 1)] middle stepped := by
  rcases ran : (course.perform (.step (done + 1))).run middle with ⟨outcome, stepped⟩
  cases outcome with
  | error fault => exact absurd (confined.fails pending ran) (total fault)
  | ok _ => exact ⟨stepped, performs_cons.mpr ⟨stepped, ran, performs_nil.mpr rfl⟩⟩

end Invariants

section Cycles

variable {S : Type} [Scalar S] {course : Course S} {before : Memory S} {region : Point S → Prop}
  {derived : Bool} {parameters : CyclicParameters S} {collection : MapCollection S}

def Cycled (region : Point S → Prop) (derived : Bool) (parameters : CyclicParameters S)
    (count done : Nat) (state : SolverState S) : Prop :=
  region state.iterate ∧ state.method = .cyclic derived (parameters.after count done)

/-- A run of cycles stays in a region that no map leads out of with a parameter of its cycle. -/
theorem confined_of_stay (fits : course.Fits before.2.state)
    (method : before.2.state.method = .cyclic derived parameters)
    (collected : course.problem.collection = some collection)
    (stay : ProximalMap.Stay parameters.parameter collection.maps region)
    (start : region before.2.state.iterate) :
    course.Confined before region (· = none) parameters.parameter.Fails := by
  have cyclic := fits.cyclicProximalPoint method
  have begun : (course.begin before).2.state.method = .cyclic derived parameters := method
  have prepares : ∃ prepared, course.Performs [.prepare] (course.begin before) prepared ∧
      Cycled region derived parameters collection.maps.length 0 prepared.2.state := by
    obtain ⟨left, ran, point, sameMethod⟩ := CyclicProximalPoint.run_prepare_cycle course.problem
      begun collection.maps.length (course.begin before).1
    have performed : (course.perform .prepare).run (course.begin before) =
        (.ok (), ((course.begin before).1, { (course.begin before).2 with state := left })) := by
      rw [perform, cyclic]
      exact Run.run_step_of ran
    refine ⟨_, performs_cons.mpr ⟨_, performed, performs_nil.mpr rfl⟩, ?_, sameMethod⟩
    rw [point]
    exact start
  refine confined_of_steps (Cycled region derived parameters collection.maps.length) fits
    (by rw [cyclic]; rfl) prepares ?_ ?_
  · intro done middle outcome reached cycled ran
    obtain ⟨left, stepped, taken⟩ := run_perform_cycle cyclic collected cycled.2
    rcases folded : (CyclicProximalPoint.cycle collection.maps parameters (done + 1)
      middle.2.state.iterate).run middle.1 with ⟨cycleOutcome, journal⟩
    rw [folded] at stepped taken
    cases stepped.symm.trans ran
    rcases (CyclicProximalPoint.ensures_cycle stay (Nat.le_add_left 1 done) cycled.1).cases folded
      with ⟨fault, rfl, raised⟩ | ⟨point, rfl, inside⟩
    · exact .inl ⟨fault, rfl, raised⟩
    · obtain ⟨rfl, newMethod⟩ := taken point rfl
      exact .inr ⟨rfl, inside, newMethod⟩
  · rintro done state ⟨inside, sameMethod⟩
    refine ⟨inside, ?_⟩
    rw [SolverState.driver?, sameMethod]

end Cycles

section Splittings

variable {S : Type} [Scalar S] {course : Course S} {before : Memory S}
  {region shown : Point S → Prop} {parameters : SplittingParameters S}

theorem Fits.douglasRachford {state : SolverState S} (fits : course.Fits state)
    (method : state.method = .splitting parameters) : course.solver = .douglasRachford := by
  have found := fits.solver
  rw [Solver.ofState, method] at found
  exact (Except.ok.inj found).symm

theorem performs_prepare_splitting {state : SolverState S} {journal : Journal}
    (splitting : course.solver = .douglasRachford)
    (ran : (DouglasRachford.prepare course.problem).run ((course.begin before).1, before.2.state) =
      (.ok (), (journal, state))) :
    course.Performs [.prepare] (course.begin before) (journal, { before.2 with state }) := by
  refine performs_cons.mpr ⟨_, ?_, performs_nil.mpr rfl⟩
  rw [perform, splitting]
  exact Run.run_step_of ran

variable (fits : course.Fits before.2.state)
  (method : before.2.state.method = .splitting parameters)
  (kept : DouglasRachford.Kept course.problem parameters region shown)
include fits method kept

theorem confined_of_kept
    (prepares : ∃ prepared, course.Performs [.prepare] (course.begin before) prepared ∧
      DouglasRachford.Within region shown parameters prepared.2.state) :
    course.Confined before shown (fun found => ∃ driver ∈ found, region driver)
      (fun number fault => parameters.parameter.Fails number fault ∨
        parameters.relaxation.Fails number fault) := by
  have splitting := fits.douglasRachford method
  refine confined_of_steps (fun _ => DouglasRachford.Within region shown parameters) fits
    (by rw [splitting]; rfl) prepares ?_ ?_
  · intro done middle outcome reached within ran
    rcases stepped : (DouglasRachford.step course.problem (done + 1 : Nat)).run
      (middle.1, middle.2.state) with ⟨stepOutcome, left⟩
    rw [perform, splitting] at ran
    cases (Run.run_step_of stepped).symm.trans ran
    exact kept.run_step (Nat.le_add_left 1 done) within stepped
  · rintro done state ⟨inside, driver, isDriver, current⟩
    refine ⟨inside, driver, ?_, isDriver⟩
    rw [SolverState.driver?, current]
    rfl

theorem confined_of_kept_pair {first second : ProximalMap S} {counts : List Int}
    (alone : parameters.parallel = false)
    (collected : course.problem.collection = some ⟨[first, second], counts⟩)
    (start : shown before.2.state.iterate) (driven : region parameters.driver) :
    course.Confined before shown (fun found => ∃ driver ∈ found, region driver)
      (fun number fault => parameters.parameter.Fails number fault ∨
        parameters.relaxation.Fails number fault) := by
  refine confined_of_kept fits method kept ?_
  have prepared := performs_prepare_splitting (fits.douglasRachford method)
    (DouglasRachford.run_prepare_alone collected method alone (course.begin before).1)
  exact ⟨_, prepared, start, parameters.driver, driven, method⟩

end Splittings

variable {S : Type} [RealScalar S] {course : Course S} {before : Memory S} {shape : List Nat}
  {region shown : Point S → Prop} {tangent : Point S → Point S → Prop}

theorem confined_of_cyclic {derived : Bool} {parameters : CyclicParameters S}
    {collection : MapCollection S} (fits : course.Fits before.2.state)
    (method : before.2.state.method = .cyclic derived parameters)
    (collected : course.problem.collection = some collection)
    (confined : ∀ proximalMap ∈ collection.maps, proximalMap.Confined region)
    (positive : parameters.parameter.Positive) (start : region before.2.state.iterate) :
    course.Confined before region (· = none) parameters.parameter.Fails := by
  refine confined_of_stay fits method collected ?_ start
  intro number _ parameter yields proximalMap member point inside
  exact confined proximalMap member parameter point (positive number parameter yields) inside

section Splitting

open DouglasRachford

variable {parameters : SplittingParameters S}

variable (fits : course.Fits before.2.state)
  (method : before.2.state.method = .splitting parameters)
  (standard : parameters.reflection = none) (positive : parameters.parameter.Positive)
include fits method standard positive

theorem confined_of_pair {first second : ProximalMap S} {counts : List Int}
    (alone : parameters.parallel = false)
    (averages : course.problem.manifold.geometry.Averages shape region tangent)
    (collected : course.problem.collection = some ⟨[first, second], counts⟩)
    (firstConfined : first.Confined region) (secondConfined : second.Confined region)
    (start : region before.2.state.iterate) (driven : region parameters.driver) :
    course.Confined before region (fun found => ∃ driver ∈ found, region driver)
      (ScheduleFails parameters) := by
  have confined : DouglasRachford.Confined course.problem parameters.parallel shape region tangent
      region := by
    rw [alone]
    exact DouglasRachford.confined_of_pair averages collected firstConfined secondConfined
  exact confined_of_kept_pair fits method (confined.kept positive standard) alone collected start
    driven

theorem confined_of_parallel {base : Manifold S} {copies : Nat} {given : Value S}
    {maps : List (ProximalMap S)} {beside : ProximalMap S} {counts : List Int}
    (parallel : parameters.parallel = true)
    (manifold : course.problem.manifold = .power base copies given)
    (averages : base.geometry.Averages shape region tangent) (some : 0 < copies)
    (extents : ∀ extent ∈ shape, 0 < extent)
    (yields : (ProximalMap.parallel course.problem.manifold maps).Yields beside)
    (collected : course.problem.collection =
      .some ⟨[beside, .diagonal course.problem.manifold], counts⟩)
    (mapsConfined : ∀ proximalMap ∈ maps, proximalMap.Confined region)
    (each : Power.Each copies region parameters.driver) :
    course.Confined before region (fun found => ∃ driver ∈ found, Power.Each copies region driver)
      (ScheduleFails parameters) := by
  have confined : DouglasRachford.Confined course.problem parameters.parallel (copies :: shape)
      (Power.Each copies region) (Power.EachPair copies tangent) region := by
    rw [parallel]
    exact DouglasRachford.confined_of_parallel manifold collected averages some extents yields
      mapsConfined
  refine confined_of_kept fits method (confined.kept positive standard) ?_
  obtain ⟨mean, last, ran, isMean⟩ :=
    run_prepare_parallel manifold collected averages some method parallel each
      (course.begin before).1
  refine ⟨_, performs_prepare_splitting (fits.douglasRachford method) ran, ?_⟩
  exact ⟨isMean, parameters.driver, each, method⟩

end Splitting

end Course

end ProximalSplitting

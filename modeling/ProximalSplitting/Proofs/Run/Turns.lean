import ProximalSplitting.Proofs.Run.Failure
import ProximalSplitting.Proofs.Run.Paths
import ProximalSplitting.Proofs.Watching.Finds

/-!
The decorators of a run take turns. At every iteration the inner ones see the state that the step
left and a workspace in which the outer ones have had their turn already. An action that watches
every iteration remembers the iterate of the iteration before when its turn comes.
-/

namespace ProximalSplitting

open Effect Tracked

namespace Course

variable {S : Type} [Scalar S]

omit [Scalar S] in
def looksOf (decorators : List (Decorator S)) (iteration : Int) : List (Call S) :=
  decorators.map fun decorator => .observe decorator iteration

inductive Turn (course : Course S) (first : Memory S) (outer : List (Decorator S)) :
    Nat → Memory S → Prop
  | opened {before} : course.Performs (.prepare :: .check 0 :: looksOf outer 0) first before →
      Turn course first outer 0 before
  | stepped {done middle before} : course.Pending first done middle →
      course.Performs (.step (done + 1) :: looksOf outer (done + 1 : Nat)) middle before →
      Turn course first outer (done + 1) before

def Prints (course : Course S) (first : Memory S) (outer : List (Decorator S))
    (decorator : Decorator S) (iteration : Nat) (chunk : String) : Prop :=
  ∃ before after, course.Turn first outer iteration before ∧
    course.Performs [.observe decorator iteration] before after ∧
    after.2.workspace.printed = before.2.workspace.printed ++ chunk

def Narrates (course : Course S) (first : Memory S) (outer : List (Decorator S))
    (decorator : Decorator S) (iterations : Nat) (text : String) : Prop :=
  ∃ chunk : Nat → String,
    (∀ iteration ≤ iterations, course.Prints first outer decorator iteration (chunk iteration)) ∧
      text = String.join ((List.range (iterations + 1)).map chunk)

variable {course : Course S} {first middle before after : Memory S} {done : Nat}

theorem performs_looksOf {decorators : List (Decorator S)} {iteration : Int} :
    course.Performs (looksOf decorators iteration) before after ↔
      after.2.state = before.2.state ∧
        ∃ found, found.map Prod.fst = Decorator.glancesOfAll decorators iteration ∧
          Glance.Finds course.problem before.2.state found (before.1, before.2.workspace)
            (after.1, after.2.workspace) := by
  have looked : (course.performAll (looksOf decorators iteration)).run before =
      (Run.watch (Glance.runAll course.problem before.2.state
        (Decorator.glancesOfAll decorators iteration))).run before := by
    rw [looksOf, ← run_showIteration, run_show, Decorator.observeAll_eq_glances]
  rw [Performs, looked, Run.watch, run_part]
  constructor
  · intro ran
    rcases glanced : (Glance.runAll course.problem before.2.state
      (Decorator.glancesOfAll decorators iteration)).run (before.1, before.2.workspace)
      with ⟨outcome, left⟩
    rw [glanced] at ran
    cases ran
    exact ⟨rfl, Glance.finds_of_runAll glanced⟩
  · rintro ⟨state, found, made, finds⟩
    have glanced := finds.runAll
    rw [made] at glanced
    rw [glanced, ← state]

theorem performs_observe {decorator : Decorator S} {iteration : Int} :
    course.Performs [.observe decorator iteration] before after ↔
      after.2.state = before.2.state ∧
        ∃ found, found.map Prod.fst = decorator.glances iteration ∧
          Glance.Finds course.problem before.2.state found (before.1, before.2.workspace)
            (after.1, after.2.workspace) := by
  have alone : Decorator.glancesOfAll [decorator] iteration = decorator.glances iteration :=
    List.flatMap_singleton _ _
  rw [← alone]
  exact (performs_looksOf : course.Performs (looksOf [decorator] iteration) before after ↔ _)

theorem looks_around {outer inner : List (Decorator S)} {decorator : Decorator S}
    (around : course.decorators = outer ++ decorator :: inner) (iteration : Int) :
    course.looks iteration =
      looksOf outer iteration ++ ([.observe decorator iteration] ++ looksOf inner iteration) := by
  rw [looks, around, List.map_append, List.map_cons]
  rfl

section Opening

theorem performs_check_zero :
    course.Performs [.check 0] before after ↔ after = course.renewed before := by
  have checked : course.Performs [.check 0] before (course.renewed before) :=
    performs_cons.mpr ⟨_, course.run_perform_check_zero before, performs_nil.mpr rfl⟩
  constructor
  · exact fun performed => performs_unique performed checked
  · rintro rfl
    exact checked

theorem Turn.opened_iff {outer : List (Decorator S)} :
    course.Turn first outer 0 before ↔ ∃ prepared, course.Performs [.prepare] first prepared ∧
      course.Performs (looksOf outer 0) (course.renewed prepared) before := by
  have parts : Call.prepare :: Call.check 0 :: looksOf outer 0 =
      [.prepare] ++ ([.check 0] ++ looksOf outer 0) := rfl
  constructor
  · rintro ⟨performed⟩
    rw [parts] at performed
    obtain ⟨prepared, prepares, rest⟩ := performs_append.mp performed
    obtain ⟨checked, checks, looked⟩ := performs_append.mp rest
    rw [performs_check_zero.mp checks] at looked
    exact ⟨prepared, prepares, looked⟩
  · rintro ⟨prepared, prepares, looked⟩
    refine .opened ?_
    rw [parts]
    exact performs_append.mpr ⟨prepared, prepares,
      performs_append.mpr ⟨_, performs_check_zero.mpr rfl, looked⟩⟩

theorem Turn.stepped_iff {outer : List (Decorator S)} :
    course.Turn first outer (done + 1) before ↔ ∃ middle stepped,
      course.Pending first done middle ∧ course.Performs [.step (done + 1)] middle stepped ∧
      course.Performs (looksOf outer (done + 1 : Nat)) stepped before := by
  have parts : Call.step (done + 1) :: looksOf outer (done + 1 : Nat) =
      [.step (done + 1)] ++ looksOf outer (done + 1 : Nat) := rfl
  constructor
  · rintro (_ | ⟨pending, performed⟩)
    rw [parts] at performed
    obtain ⟨stepped, steps, looked⟩ := performs_append.mp performed
    exact ⟨_, stepped, pending, steps, looked⟩
  · rintro ⟨middle, stepped, pending, steps, looked⟩
    refine .stepped pending ?_
    rw [parts]
    exact performs_append.mpr ⟨stepped, steps, looked⟩

end Opening

variable {outer : List (Decorator S)} {iteration : Nat}

theorem Turn.state (turn : course.Turn first outer iteration before) :
    before.2.state = (course.afterStep first iteration).2.state := by
  cases iteration with
  | zero =>
      obtain ⟨prepared, prepares, looked⟩ := opened_iff.mp turn
      rw [(performs_looksOf.mp looked).1, afterStep, callsUntilStep, prepares.memoryAfter]
      rfl
  | succ done =>
      obtain ⟨middle, stepped, pending, steps, looked⟩ := stepped_iff.mp turn
      rw [(performs_looksOf.mp looked).1, pending.afterStep steps]

theorem Turn.criterion (turn : course.Turn first outer iteration before) {state : SolverState S}
    (fits : course.Fits state) (criterion : first.2.state.criterion = some course.criterion) :
    before.2.state.criterion = some course.criterion := by
  have lasting : SolverState.Lasting fun state : SolverState S =>
      state.loopFields = first.2.state.loopFields := SolverState.lasting_loopFields _
  have kept : before.2.state.loopFields = first.2.state.loopFields := by
    cases turn with
    | opened performed =>
        have stays := fits.stays_performAll lasting (.prepare :: .check 0 :: looksOf outer 0) first rfl
        rwa [performed] at stays
    | @stepped done _ _ pending performed =>
        have stays := fits.stays_performAll lasting
          (.step (done + 1) :: looksOf outer (done + 1 : Nat)) _ (pending.stays fits lasting rfl)
        rwa [performed] at stays
  exact (congrArg Prod.fst kept).trans criterion

/-- While decorators take their turns, the criterion was not met yet. -/
theorem Turn.reason (turn : course.Turn first outer iteration before) :
    (before.2.workspace.criterion course.criterion.number).reason = "" := by
  cases iteration with
  | zero =>
      obtain ⟨prepared, prepares, looked⟩ := opened_iff.mp turn
      obtain ⟨_, found, _, finds⟩ := performs_looksOf.mp looked
      rw [Workspace.criterion_of_judging finds.judging]
      exact Criterion.reason_renew _ course.criterion _
  | succ done =>
      obtain ⟨middle, stepped, pending, steps, looked⟩ := stepped_iff.mp turn
      obtain ⟨_, found, _, finds⟩ := performs_looksOf.mp looked
      rw [Workspace.criterion_of_judging finds.judging, steps.step_workspace]
      exact pending.reason

section Whole

variable {decorator : Decorator S} {inner : List (Decorator S)} {iterations : Nat} {last : Memory S}

theorem Stops.opened (stopped : course.Stops first iterations last) :
    ∃ after, course.Performs course.opening first after := by
  cases stopped with
  | met pending advanced checked =>
      obtain ⟨reached, opened⟩ := pending.earlier (Nat.zero_le _)
      cases opened with
      | opened performed => exact ⟨_, performed⟩

theorem Stops.advanced (stopped : course.Stops first iterations last)
    (early : done + 1 ≤ iterations) :
    ∃ middle called, course.Pending first done middle ∧
      course.Performs (course.advance (done + 1)) middle called := by
  cases stopped with
  | @met previous middle called _ pending advanced checked =>
      by_cases final : done = previous
      · subst final
        exact ⟨middle, called, pending, advanced⟩
      · obtain ⟨reached, pendingLater⟩ := pending.earlier (by omega : done + 1 ≤ previous)
        cases pendingLater with
        | passed pendingEarly advancedEarly _ => exact ⟨_, _, pendingEarly, advancedEarly⟩

theorem Stops.prints (around : course.decorators = outer ++ decorator :: inner)
    (stopped : course.Stops first iterations last) (early : iteration ≤ iterations) :
    ∃ chunk, course.Prints first outer decorator iteration chunk := by
  have taken : ∀ {shown after : Memory S}, course.Performs (course.looks iteration) shown after →
      ∃ before, course.Performs (looksOf outer iteration) shown before ∧
        ∃ called chunk, course.Performs [.observe decorator iteration] before called ∧
          called.2.workspace.printed = before.2.workspace.printed ++ chunk := by
    intro shown after looked
    rw [looks_around around] at looked
    obtain ⟨before, outerLooked, rest⟩ := performs_append.mp looked
    obtain ⟨called, observed, _⟩ := performs_append.mp rest
    obtain ⟨_, found, _, finds⟩ := performs_observe.mp observed
    exact ⟨before, outerLooked, called, _, observed, finds.printed⟩
  cases iteration with
  | zero =>
      obtain ⟨after, performed⟩ := stopped.opened
      obtain ⟨prepared, checked, met, prepares, checks, looked⟩ := performed.opening
      rw [run_check_zero] at checks
      cases checks
      obtain ⟨before, outerLooked, called, _, observed, printed⟩ := taken looked
      exact ⟨_, before, called, Turn.opened_iff.mpr ⟨prepared, prepares, outerLooked⟩, observed,
        printed⟩
  | succ done =>
      obtain ⟨middle, called, pending, advanced⟩ := stopped.advanced early
      obtain ⟨stepped, steps, looked⟩ := Performs.advance_iff.mp advanced
      obtain ⟨before, outerLooked, called, _, observed, printed⟩ := taken looked
      exact ⟨_, before, called,
        Turn.stepped_iff.mpr ⟨middle, stepped, pending, steps, outerLooked⟩, observed, printed⟩

end Whole

section Changes

variable (course) in
def Follows (number : Nat) : Prop :=
  ∀ iteration : Nat, ∃ glance ∈ Decorator.glancesOfAll course.decorators iteration,
    glance.watches = some number

variable {number : Nat}

theorem Performs.lastIterate_looks (looked : course.Performs (course.looks iteration) before after)
    (follows : course.Follows number) (allocated : number < before.2.workspace.actions.length) :
    after.2.workspace.actions.length = before.2.workspace.actions.length ∧
      (after.2.workspace.action number).lastIterate = some before.2.state.iterate := by
  obtain ⟨_, found, made, finds⟩ := performs_looksOf.mp looked
  exact ⟨finds.length, finds.lastIterate allocated (.inl (made ▸ follows iteration))⟩

theorem Pending.lastIterate (pending : course.Pending first done middle)
    (follows : course.Follows number) (allocated : number < first.2.workspace.actions.length) :
    middle.2.workspace.actions.length = first.2.workspace.actions.length ∧
      (middle.2.workspace.action number).lastIterate = some (course.iterateAt first done) := by
  induction pending with
  | opened performed =>
      obtain ⟨shown, looked, actions, state⟩ := performed.opening_looks
      have length : shown.2.workspace.actions.length = first.2.workspace.actions.length := by
        rw [actions]
      obtain ⟨sameLength, remembered⟩ := Performs.lastIterate_looks looked follows
        (length ▸ allocated)
      exact ⟨sameLength.trans length, by rw [remembered, state, iterateAt]⟩
  | @passed done middle called after pending advanced checked ih =>
      obtain ⟨stepped, performed, looked⟩ := Performs.advance_iff.mp advanced
      have length : stepped.2.workspace.actions.length = first.2.workspace.actions.length := by
        rw [performed.step_workspace, ih.1]
      obtain ⟨sameLength, remembered⟩ := Performs.lastIterate_looks looked follows
        (length ▸ allocated)
      rw [Workspace.action, check_keeps_actions checked]
      refine ⟨sameLength.trans length, remembered.trans ?_⟩
      rw [iterateAt, pending.afterStep performed]

variable (course) in
/-- Between two memories a decorator shows what its glances find, and what it shows as a change is
the distance between the iterates of consecutive iterations. A change that somebody else looked at
before in the same iteration is left out. -/
def ShowsChanges (first : Memory S) (outer : List (Decorator S)) (decorator : Decorator S)
    (done : Nat) (before after : Memory S) : Prop :=
  ∃ found, found.map Prod.fst = decorator.glances (done + 1 : Nat) ∧
    Glance.Explains found before.2.workspace after.2.workspace ∧
    ∀ earlier entry later number, found = earlier ++ entry :: later →
      entry.1.looksBack = some number →
      (∀ glance ∈ Decorator.glancesOfAll outer (done + 1 : Nat) ++ earlier.map Prod.fst,
        glance.watches ≠ some number) →
      ∃ manifold moved,
        ((course.afterStep first (done + 1)).2.state.manifoldOf course.problem).Yields manifold ∧
        (manifold.geometry.dist (course.iterateAt first done)
          (course.iterateAt first (done + 1))).Yields moved ∧
        Glance.ShowsChange entry moved

theorem Turn.showsChanges {decorator : Decorator S}
    (turn : course.Turn first outer (done + 1) before)
    (looked : course.Performs [.observe decorator (done + 1 : Nat)] before after)
    (follows : ∀ glance ∈ decorator.glances (done + 1 : Nat), ∀ number,
      glance.looksBack = some number →
        course.Follows number ∧ number < first.2.workspace.actions.length) :
    course.ShowsChanges first outer decorator done before after := by
  obtain ⟨_, found, made, finds⟩ := performs_observe.mp looked
  refine ⟨found, made, finds.explains, ?_⟩
  intro earlier entry later number place compares unwatched
  obtain ⟨middle, stepped, pending, steps, shown⟩ := stepped_iff.mp turn
  obtain ⟨_, outerFound, outerMade, outerFinds⟩ := performs_looksOf.mp shown
  have among : entry.1 ∈ decorator.glances (done + 1 : Nat) := by
    rw [← made, place]
    exact List.mem_map.mpr
      ⟨entry, List.mem_append_right earlier List.mem_cons_self, rfl⟩
  obtain ⟨followsToo, allocated⟩ := follows entry.1 among number compares
  have remembers : (before.2.workspace.action number).lastIterate =
      some (course.iterateAt first done) := by
    rw [outerFinds.lastIterate_of_unwatched fun glance member =>
      unwatched glance (List.mem_append_left _ (outerMade ▸ member))]
    rw [steps.step_workspace]
    exact (pending.lastIterate followsToo allocated).2
  have here : course.iterateAt first (done + 1) = before.2.state.iterate := by
    rw [turn.state, iterateAt]
  rw [here, ← turn.state]
  exact finds.change place compares
    (fun glance member => unwatched glance (List.mem_append_right _ member)) remembers

end Changes

end Course

end ProximalSplitting

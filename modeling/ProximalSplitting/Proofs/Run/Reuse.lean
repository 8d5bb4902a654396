import ProximalSplitting.Proofs.Run.Even
import ProximalSplitting.Proofs.Run.Sample
import ProximalSplitting.Proofs.Run.Trajectory
import ProximalSplitting.Proofs.Watching.Rows

/-!
Used states run like new ones, whatever runs they were used in before and however these ended. Two
runs are the same if nobody can tell them apart: by the outcome, the points and orders after every
step, what was printed, and once they are opened the reason and the records.
-/

namespace ProximalSplitting

open Effect Tracked

variable {S : Type}

structure Workspace.SameShape (left right : Workspace S) : Prop where
  criteria : left.criteria.length = right.criteria.length
  actions : left.actions.length = right.actions.length
  reading : ∀ later, left.reading later = right.reading later

theorem Workspace.SameShape.level {left right : Workspace S} (shape : left.SameShape right) :
    Level left.printed right.printed left right :=
  ⟨⟨shape.criteria, shape.reading, nofun, nofun, nofun⟩, .start shape.actions⟩

def Workspace.cleared (workspace : Workspace S) : Workspace S :=
  { workspace with
    printed := ""
    criteria := workspace.criteria.map fun _ => ⟨"", none, workspace.clock⟩
    actions := workspace.actions.map fun _ => {} }

theorem Workspace.sameShape_cleared (workspace : Workspace S) :
    workspace.SameShape workspace.cleared where
  criteria := (List.length_map _).symm
  actions := (List.length_map _).symm
  reading := by
    intro later
    induction later with
    | zero => rfl
    | succ later ih =>
        rw [Workspace.reading, Workspace.reading, ih]
        rfl

variable [Scalar S]

inductive Recipe.Used (recipe : Recipe S) (decorators : List (Decorator S)) : Session S → Prop
  | made {point before after state workspace} :
      (recipe.make point).run before = (.ok state, after) →
      Used recipe decorators ⟨workspace, state⟩
  | solved {session journal problem steps outcome after} : Used recipe decorators session →
      (solveWithin steps problem decorators).run (journal, session) = (outcome, after) →
      Used recipe decorators after.2

theorem Recipe.Used.describes {recipe : Recipe S} {decorators : List (Decorator S)}
    {session : Session S} (used : recipe.Used decorators session) :
    recipe.Describes session.state := by
  induction used with
  | made constructed => exact describes_of_make constructed
  | @solved session journal problem steps outcome after _ ran ih =>
      have stays : Stays (fun session => recipe.Describes session.state)
          (solveWithin steps problem decorators) :=
        stays_solveWithin (Recipe.Describes.lasting recipe)
          (fun iterations describes => describes.withIterations iterations) steps
      have kept := stays (journal, session) ih
      rwa [ran] at kept

namespace Course

def run (course : Course S) (steps : Nat) (before : Memory S) :
    Except (Fault S) (Point S) × Memory S :=
  (solveWithin steps course.problem course.decorators).run before

def SameMemories (course : Course S) (left right : Memory S) : Prop :=
  left.2.state.reason left.2.workspace = right.2.state.reason right.2.workspace ∧
    ∀ requested, Decorator.readRecord left.2.workspace requested course.decorators =
      Decorator.readRecord right.2.workspace requested course.decorators

structure SameRuns (course : Course S) (steps : Nat) (left right : Memory S) : Prop where
  outcome : (course.run steps left).1 = (course.run steps right).1
  journal : (course.run steps left).2.1 = (course.run steps right).2.1
  printed : ∃ text,
    (course.run steps left).2.2.workspace.printed = left.2.workspace.printed ++ text ∧
      (course.run steps right).2.2.workspace.printed = right.2.workspace.printed ++ text
  path : ∀ iteration,
    ((course.performAll (course.callsUntilStep iteration)).run (course.begin left)).1 =
        ((course.performAll (course.callsUntilStep iteration)).run (course.begin right)).1 ∧
      ∀ reached, course.Performs (course.callsUntilStep iteration) (course.begin left) reached →
        reached.2.state.iterate = (course.afterStep (course.begin right) iteration).2.state.iterate ∧
          reached.2.state.method = (course.afterStep (course.begin right) iteration).2.state.method
  opened : ∀ reached, course.Performs course.opening (course.begin left) reached →
    course.SameMemories (course.run steps left).2 (course.run steps right).2
  completed : ∀ point, (course.run steps left).1 = .ok point →
    (course.run steps left).2.2.state = (course.run steps right).2.2.state ∧
      course.SameMemories (course.run steps left).2 (course.run steps right).2

variable {course : Course S} {recipe : Recipe S} {leftText rightText : String}

theorem sameMemories_of_even {left right : Memory S}
    (even : course.Even leftText rightText course.glances left right) :
    course.SameMemories left right :=
  ⟨even.2.state.reason even.2.workspace,
    Decorator.readRecord_eq even.2.workspace.2.rows⟩

theorem Fits.renewed {state : SolverState S} (fits : course.Fits state) :
    course.Fits state.renewed := by
  obtain ⟨iterate, criterion, iterations, method, extras⟩ := state
  have solver := fits.solver
  cases method with
  | _ => exact ⟨solver, fits.criterion⟩

theorem begun {used : Session S} {unused : Workspace S} (describes : recipe.Describes used.state)
    (fits : course.Fits used.state) (shape : used.workspace.SameShape unused) (journal : Journal) :
    course.Begun recipe used.workspace.printed unused.printed (course.begin (journal, used))
      (course.begin (journal, ⟨unused, used.state.renewed⟩)) := by
  refine ⟨.inl ?_, ⟨describes, fits.criterion, rfl⟩, shape.level⟩
  rw [begin, begin, startMessage, startMessage, describes.criterionText_renewed]

/-- A state that was used in any number of runs, completed or not, runs like a state that is
constructed by the same recipe with the current point and key and watched by actions that have not
been called, or have been called for anything else. No action may show the count of iterations of
the latest run. -/
theorem used_behaves_like_new {used : Session S} (history : recipe.Used course.decorators used)
    (fits : course.Fits used.state)
    (uncounted : ∀ glance ∈ course.glances, ¬ glance.ReadsCount)
    {unused : Workspace S} (shape : used.workspace.SameShape unused) (journal : Journal)
    (steps : Nat) :
    ∃ new, (recipe.remake used.state).run (journal, unused) = (.ok new, (journal, unused)) ∧
      course.SameRuns steps (journal, used) (journal, ⟨unused, new⟩) := by
  have describes := history.describes
  refine ⟨used.state.renewed, describes.run_remake (journal, unused), ?_⟩
  have start := begun describes fits shape journal
  have ran : ∀ {memory : Memory S}, course.Fits memory.2.state → course.run steps memory =
      (course.performAll course.opening >>= fun _ => course.continueRun steps 0).run
        (course.begin memory) := fun fitsMemory => run_solveWithin steps fitsMemory
  have opening : Leads (course.Begun recipe used.workspace.printed unused.printed)
      (Told used.workspace.printed unused.printed)
      (course.Even used.workspace.printed unused.printed course.glances)
      (course.performAll course.opening) (course.performAll course.opening) :=
    leads_opening uncounted fits describes
  have rest : Leads (course.Even used.workspace.printed unused.printed course.glances)
      (course.Even used.workspace.printed unused.printed course.glances)
      (course.Ended used.workspace.printed unused.printed) (course.continueRun steps 0)
      (course.continueRun steps 0) := leads_continueRun uncounted fits steps 0
  -- The two runs agree on their outcome even if it is the opening that fails. Only what they
  -- remember is compared no further then, since not every memory has been renewed.
  obtain ⟨sameOutcome, told, ended⟩ := leads_bind opening (fun _ => rest.weaken
    (fun _ _ => .of_even) fun _ _ ended => ended) _ _ start
  have opened : ∀ reached, course.Performs course.opening (course.begin (journal, used)) reached →
      course.SameMemories (course.run steps (journal, used)).2
        (course.run steps (journal, ⟨unused, used.state.renewed⟩)).2 := by
    intro reached performed
    obtain ⟨mirrored, performed', even⟩ := led_run opening start performed
    rw [ran fits, ran fits.renewed, run_bind_of_ok performed, run_bind_of_ok performed']
    exact sameMemories_of_even (rest reached mirrored even).2.1
  rw [← ran fits, ← ran fits.renewed] at sameOutcome told ended
  refine ⟨sameOutcome, told.1.resolve_right id, told.2.workspace.printed, ?_, opened, ?_⟩
  · intro iteration
    obtain ⟨samePath, _, alike⟩ := leads_callsUntilStep uncounted fits describes iteration _ _ start
    refine ⟨samePath, fun reached performed => ?_⟩
    rw [performed] at alike
    have paired := (alike () rfl).2.state
    exact ⟨paired.alike.iterate, paired.alike.method⟩
  · intro point completed
    have sameState := (ended point completed).2.state
    have endedWell : course.run steps (journal, used) =
        (.ok point, (course.run steps (journal, used)).2) := Prod.ext completed rfl
    rw [ran fits] at endedWell
    obtain ⟨_, reached, performed, _⟩ := run_bind_ok_iff.mp endedWell
    exact ⟨sameState, opened reached performed⟩

theorem uncounted_sample : ∀ glance ∈ Sample.course.glances, ¬ glance.ReadsCount := by
  have listed : Sample.course.glances =
      [.debug (.change 0 "change: ") rfl 0, .column 1 .iterate 0, .label "<seen 0>"] := rfl
  intro glance member
  rw [listed] at member
  simp only [List.mem_cons, List.not_mem_nil, or_false] at member
  rcases member with rfl | rfl | rfl
  all_goals exact id

theorem sample_behaves_like_new : ∃ (point : Point Int) (fault : Fault Int) (once twice : Memory Int),
    (solveWithin 5 Sample.problem Sample.decorators).run Sample.memory = (.ok point, once) ∧
      (solveWithin 5 (Sample.worn 0) Sample.decorators).run ({ counters := [0] }, once.2) =
        (.error fault, twice) ∧
      Sample.recipe.Used Sample.decorators twice.2 ∧ Sample.course.Fits twice.2.state ∧
      (∀ glance ∈ Sample.course.glances, ¬ glance.ReadsCount) ∧
      twice.2.workspace.SameShape twice.2.workspace.cleared ∧
      ∃ new, (Sample.recipe.remake twice.2.state).run ({}, twice.2.workspace.cleared) =
          (.ok new, {}, twice.2.workspace.cleared) ∧
        Sample.course.SameRuns 5 ({}, twice.2) ({}, ⟨twice.2.workspace.cleared, new⟩) := by
  have succeeds : ((solveWithin 5 Sample.problem Sample.decorators).run
      Sample.memory).1.isOk = true := by decide +kernel
  have breaksOff : ((solveWithin 5 (Sample.worn 0) Sample.decorators).run ({ counters := [0] },
      ((solveWithin 5 Sample.problem Sample.decorators).run Sample.memory).2.2)).1.isOk = false := by
    decide +kernel
  obtain ⟨point, once, first⟩ := exists_ok_of_isOk succeeds
  rw [first] at breaksOff
  obtain ⟨fault, twice, second⟩ := exists_error_of_isOk breaksOff
  have constructed : (Sample.recipe.make (Sample.mark 0)).run ({}, Sample.workspace) =
      (.ok Sample.state, {}, Sample.workspace) := rfl
  have history : Sample.recipe.Used Sample.decorators twice.2 :=
    .solved (.solved (.made constructed) first) second
  have fitsOnce : Sample.course.Fits once.2.state := Sample.fits.of_run first
  have fits : Sample.course.Fits twice.2.state := by
    refine Fits.of_run ?_ second
    exact fitsOnce
  have shape := twice.2.workspace.sameShape_cleared
  exact ⟨point, fault, once, twice, first, second, history, fits, uncounted_sample, shape,
    used_behaves_like_new history fits uncounted_sample shape {} 5⟩

end Course

end ProximalSplitting

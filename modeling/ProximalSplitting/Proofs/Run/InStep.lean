import ProximalSplitting.Proofs.Run.Turns
import ProximalSplitting.Proofs.Watching.Pace

/-!
Two runs that differ only in a decorator that one of them thins. They stay in step: their states are
the same, their criteria agree and their workspaces are in pace. The thinned decorator shows and
records at the multiples of its interval what it does in the other run, and nothing in between.
-/

namespace ProximalSplitting

open Effect Tracked

namespace Glance

variable {S : Type}

structure Thins (interval iteration : Nat) (thinned found : List (Glance S × String × Value S)) :
    Prop where
  text : text thinned = if interval ∣ iteration then text found else ""
  rows : ∀ number, (values thinned).filterMap (row? number) =
    if interval ∣ iteration then (values found).filterMap (row? number) else []

theorem row_silenced (number : Nat) (glance : Glance S) (value : Value S) :
    row? number (glance.silenced, value) = none := by
  cases glance with
  | column other kind iteration => exact if_neg fun both => absurd both.2 (by decide)
  | _ => rfl

theorem rows_silenced {quiet : List (Glance S × String × Value S)} {glances : List (Glance S)}
    (made : quiet.map Prod.fst = glances.map silenced) (number : Nat) :
    (values quiet).filterMap (row? number) = [] := by
  refine List.filterMap_eq_nil_iff.mpr fun entry member => ?_
  obtain ⟨found, among, rfl⟩ := List.mem_map.mp member
  have silent : found.1 ∈ glances.map silenced := made ▸ List.mem_map.mpr ⟨found, among, rfl⟩
  obtain ⟨glance, _, same⟩ := List.mem_map.mp silent
  rw [← same]
  exact row_silenced number glance found.2.2

theorem rows_untouched {found : List (Glance S × String × Value S)} {number : Nat}
    (untouched : touching number (found.map Prod.fst) = []) :
    (values found).filterMap (row? number) = [] := by
  refine List.filterMap_eq_nil_iff.mpr fun entry member => ?_
  obtain ⟨⟨glance, text, value⟩, among, rfl⟩ := List.mem_map.mp member
  have other := touching_eq_nil_iff.mp untouched glance (List.mem_map.mpr ⟨_, among, rfl⟩)
  cases glance with
  | column used kind iteration => exact if_neg fun both => other (congrArg some both.1)
  | _ => rfl

theorem values_append (first rest : List (Glance S × String × Value S)) :
    values (first ++ rest) = values first ++ values rest := List.map_append

end Glance

namespace Course

variable {S : Type} [Scalar S]

def InStep (course : Course S) (owned : Nat → Prop) : Memory S → Memory S → Prop :=
  Beside True (Session.Along
    (fun left right => SameState left right ∧ left.criterion = some course.criterion)
    (Workspace.Paced course.criterion owned))

structure ThinnedRun (interval : Nat) (thinned alone : Course S) (outer inner : List (Decorator S))
    (shown all : Decorator S) (first : Memory S) : Prop where
  same : SameRun thinned alone first first
  criterion : first.2.state.criterion = some thinned.criterion
  inPace : Decorator.InPace interval shown all
  thinnedAround : thinned.decorators = outer ++ shown :: inner
  aloneAround : alone.decorators = outer ++ all :: inner

variable {interval : Nat} {thinned alone : Course S} {outer inner : List (Decorator S)}
  {shown all : Decorator S} {first before mirrored mirroredAfter : Memory S}

namespace InStep

variable {owned : Nat → Prop} (inStep : thinned.InStep owned before mirrored)
include inStep

theorem state : before.2.state = mirrored.2.state := inStep.2.state.1.eq

theorem reason : before.2.state.reason before.2.workspace =
    .ok (before.2.workspace.criterion thinned.criterion.number).reason := by
  rw [SolverState.reason, inStep.2.state.2]

theorem sameReason :
    before.2.state.reason before.2.workspace = before.2.state.reason mirrored.2.workspace := by
  rw [SolverState.reason, SolverState.reason, inStep.2.state.2]
  exact congrArg Except.ok
    (inStep.2.workspace.agree.reason _ thinned.criterion.number_mem_numbers)

theorem watched {after : Memory S} (left : after.2.state = before.2.state)
    (right : mirroredAfter.2.state = mirrored.2.state)
    (paced : Workspace.Paced thinned.criterion owned after.2.workspace mirroredAfter.2.workspace) :
    thinned.InStep owned after mirroredAfter := by
  refine ⟨.inr trivial, ?_, paced⟩
  rw [left, right]
  exact inStep.2.state

end InStep

theorem InStep.mirrors {owned : Nat → Prop} {computation : Step S Unit}
    (steady : Step.Steady True computation) (kept : Keeps SolverState.loopFields computation) :
    Mirrors (thinned.InStep owned) (Run.step computation) (Run.step computation) :=
  Run.mirrors_step (mirrors_of_keeps (mirrors_sameState steady kept) kept kept And.left
    fun both same keptLeft _ => ⟨same, (congrArg Prod.fst keptLeft).trans both.2⟩)

namespace ThinnedRun

variable (run : ThinnedRun interval thinned alone outer inner shown all first)
  (inStep : thinned.InStep all.Uses before mirrored)
include run

theorem problem : alone.problem = thinned.problem := run.same.twins.problem.symm

include inStep

theorem follow (decorators : List (Decorator S)) {others : List (Decorator S)} {iteration : Int}
    (same : Decorator.glancesOfAll decorators iteration = Decorator.glancesOfAll others iteration)
    (looked : alone.Performs (looksOf others iteration) mirrored mirroredAfter) :
    ∃ found after, found.map Prod.fst = Decorator.glancesOfAll others iteration ∧
      Glance.Finds thinned.problem mirrored.2.state found (mirrored.1, mirrored.2.workspace)
        (mirroredAfter.1, mirroredAfter.2.workspace) ∧
      Glance.Finds thinned.problem before.2.state found (before.1, before.2.workspace)
        (after.1, after.2.workspace) ∧
      thinned.Performs (looksOf decorators iteration) before after ∧
      thinned.InStep all.Uses after mirroredAfter := by
  obtain ⟨state, found, made, finds⟩ := performs_looksOf.mp looked
  rw [run.problem] at finds
  have pureMethod := inStep.2.state.1.1.pure trivial
  obtain ⟨⟨journal, workspace⟩, follows, paced⟩ := (inStep.state ▸ finds).follow run.same.pure
    pureMethod (before.1, before.2.workspace) inStep.2.workspace inStep.sameReason
  have performed : thinned.Performs (looksOf decorators iteration) before
      (journal, { before.2 with workspace }) :=
    performs_looksOf.mpr ⟨rfl, found, made.trans same.symm, follows⟩
  exact ⟨found, _, made, finds, follows, performed, inStep.watched rfl state paced⟩

/-- At its turn the thinned decorator shows what it shows otherwise, or nothing. -/
theorem turn {iteration : Nat}
    (unmet : (before.2.workspace.criterion thinned.criterion.number).reason = "")
    (looked : alone.Performs [.observe all iteration] mirrored mirroredAfter) :
    ∃ found spared after, found.map Prod.fst = all.glances iteration ∧
      Glance.Finds thinned.problem mirrored.2.state found (mirrored.1, mirrored.2.workspace)
        (mirroredAfter.1, mirroredAfter.2.workspace) ∧
      spared.map Prod.fst = shown.glances iteration ∧
      Glance.Finds thinned.problem before.2.state spared (before.1, before.2.workspace)
        (after.1, after.2.workspace) ∧
      Glance.Thins interval iteration spared found ∧
      thinned.Performs [.observe shown iteration] before after ∧
      thinned.InStep all.Uses after mirroredAfter := by
  obtain ⟨state, found, made, finds⟩ := performs_observe.mp looked
  rw [run.problem] at finds
  have pureMethod := inStep.2.state.1.1.pure trivial
  have aligned := inStep.state ▸ finds
  by_cases due : interval ∣ iteration
  · obtain ⟨⟨journal, workspace⟩, follows, paced⟩ := aligned.follow run.same.pure pureMethod
      (before.1, before.2.workspace) inStep.2.workspace inStep.sameReason
    have same : found.map Prod.fst = shown.glances iteration := by
      rw [made, run.inPace.look, if_pos due]
    refine ⟨found, found, (journal, { before.2 with workspace }), made, finds, same, follows, ?_,
      performs_observe.mpr ⟨rfl, found, same, follows⟩, inStep.watched rfl state paced⟩
    exact ⟨(if_pos due).symm, fun number => (if_pos due).symm⟩
  · -- Between the multiples the reason is still empty, so there is nothing to say.
    have hushes := run.inPace.hushes iteration
    have reason := inStep.reason.trans (congrArg Except.ok unmet)
    obtain ⟨quiet, ⟨journal, workspace⟩, silenced, follows, paced⟩ := aligned.hush hushes made
      (fun glance member number own => Decorator.uses_of_memory member own)
      (before.1, before.2.workspace) inStep.2.workspace reason
    have same : quiet.map Prod.fst = shown.glances iteration := by
      rw [silenced, run.inPace.look, if_neg due]
    refine ⟨found, quiet, (journal, { before.2 with workspace }), made, finds, same, follows, ?_,
      performs_observe.mpr ⟨rfl, quiet, same, follows⟩, inStep.watched rfl state paced⟩
    refine ⟨?_, fun number => ?_⟩
    · rw [if_neg due]
      exact follows.text_silenced hushes silenced reason
    · rw [if_neg due]
      exact Glance.rows_silenced silenced number

/-- The looks of a run at an iteration keep both runs in step. A column that belongs to the thinned
decorator alone gets the rows that it gets otherwise, or none. -/
theorem looks {iteration : Nat}
    (unmet : (before.2.workspace.criterion thinned.criterion.number).reason = "")
    (looked : alone.Performs (alone.looks iteration) mirrored mirroredAfter) :
    ∃ after, thinned.Performs (thinned.looks iteration) before after ∧
      thinned.InStep all.Uses after mirroredAfter ∧
      ∀ number, (∀ other ∈ outer ++ inner, ¬ other.Uses number) →
        (thinned.findings iteration before).filterMap (Glance.row? number) =
          if interval ∣ iteration then
            (alone.findings iteration mirrored).filterMap (Glance.row? number)
          else [] := by
  -- The decorators around the thinned one are the same in both runs and take their turns before
  -- and after it.
  rw [looks_around run.aloneAround] at looked
  obtain ⟨mirroredTurn, outerLooked, rest⟩ := performs_append.mp looked
  obtain ⟨mirroredDone, turnLooked, innerLooked⟩ := performs_append.mp rest
  obtain ⟨outerFound, atTurn, outerMade, outerOther, outerFinds, outerPerformed, inTurn⟩ :=
    run.follow inStep outer rfl outerLooked
  have turnState := (performs_looksOf.mp outerPerformed).1
  have otherState := (performs_looksOf.mp outerLooked).1
  have stillUnmet : (atTurn.2.workspace.criterion thinned.criterion.number).reason = "" := by
    rw [Workspace.criterion_of_judging outerFinds.judging, unmet]
  obtain ⟨found, spared, done, made, other, sparedMade, finds, thins, performed, inDone⟩ :=
    run.turn inTurn stillUnmet turnLooked
  rw [otherState] at other
  rw [turnState] at finds
  obtain ⟨innerFound, after, innerMade, innerOther, innerFinds, innerPerformed, inStepAfter⟩ :=
    run.follow inDone inner rfl innerLooked
  rw [(performs_observe.mp turnLooked).1, otherState] at innerOther
  rw [(performs_observe.mp performed).1, turnState] at innerFinds
  refine ⟨after, ?_, inStepAfter, fun number others => ?_⟩
  · rw [looks_around run.thinnedAround]
    exact performs_append.mpr ⟨atTurn, outerPerformed,
      performs_append.mpr ⟨done, performed, innerPerformed⟩⟩
  · -- They do not use the memory, so that only what the thinned decorator finds makes rows.
    have allFinds := outerFinds.append (finds.append innerFinds)
    have allOther := outerOther.append (other.append innerOther)
    have ofThinned : thinned.findings iteration before =
        Glance.values (outerFound ++ (spared ++ innerFound)) := by
      rw [allFinds.values_eq, findings, run.thinnedAround, List.map_append, List.map_append,
        outerMade, sparedMade, innerMade]
      simp only [Decorator.glancesOfAll, List.flatMap_append, List.flatMap_cons]
    have ofAlone : alone.findings iteration mirrored =
        Glance.values (outerFound ++ (found ++ innerFound)) := by
      rw [allOther.values_eq, findings, run.aloneAround, List.map_append, List.map_append,
        outerMade, made, innerMade, run.problem]
      simp only [Decorator.glancesOfAll, List.flatMap_append, List.flatMap_cons]
    have outerNone := Glance.rows_untouched (outerMade ▸
      Decorator.touching_glancesOfAll_of_not_uses
        (fun decorator member => others decorator (List.mem_append_left _ member)) iteration)
    have innerNone := Glance.rows_untouched (innerMade ▸
      Decorator.touching_glancesOfAll_of_not_uses
        (fun decorator member => others decorator (List.mem_append_right _ member)) iteration)
    simp only [ofThinned, ofAlone, Glance.values_append, List.filterMap_append, outerNone,
      innerNone, List.nil_append, List.append_nil]
    exact thins.rows number

omit inStep

theorem inStep_first : thinned.InStep all.Uses first first :=
  ⟨.inr trivial, ⟨run.same.level.2.state, run.criterion⟩, {
    agree := run.same.level.2.workspace
    length := rfl
    lastIterate := fun _ => rfl
    rows := fun _ _ => rfl }⟩

omit run in
theorem performs_of_mirrors {call other : Call S}
    (mirrors : Mirrors (thinned.InStep all.Uses) (thinned.perform call) (alone.perform other))
    (inStep : thinned.InStep all.Uses before mirrored)
    (performed : alone.Performs [other] mirrored mirroredAfter) :
    ∃ after, thinned.Performs [call] before after ∧
      thinned.InStep all.Uses after mirroredAfter := by
  obtain ⟨_, ran, ended⟩ := performs_cons.mp performed
  cases performs_nil.mp ended
  obtain ⟨sameOutcome, stillInStep⟩ := mirrors before mirrored inStep
  rcases ran' : (thinned.perform call).run before with ⟨outcome, after⟩
  rw [ran', ran] at sameOutcome stillInStep
  cases sameOutcome
  exact ⟨after, performs_cons.mpr ⟨after, ran', performs_nil.mpr rfl⟩, stillInStep⟩

theorem prepare (inStep : thinned.InStep all.Uses before mirrored)
    (performed : alone.Performs [.prepare] mirrored mirroredAfter) :
    ∃ after, thinned.Performs [.prepare] before after ∧
      thinned.InStep all.Uses after mirroredAfter := by
  refine performs_of_mirrors ?_ inStep performed
  rw [perform, perform, ← run.same.twins.problem, ← run.same.twins.solver]
  exact InStep.mirrors run.same.prepare run.same.frames.prepare

theorem step {iteration : Nat} (inStep : thinned.InStep all.Uses before mirrored)
    (performed : alone.Performs [.step iteration] mirrored mirroredAfter) :
    ∃ after, thinned.Performs [.step iteration] before after ∧
      thinned.InStep all.Uses after mirroredAfter := by
  refine performs_of_mirrors ?_ inStep performed
  rw [perform, perform, ← run.same.twins.problem, ← run.same.twins.solver]
  exact InStep.mirrors (run.same.step _) (run.same.frames.step _)

theorem renewed (inStep : thinned.InStep all.Uses before mirrored) :
    thinned.InStep all.Uses (thinned.renewed before) (alone.renewed mirrored) := by
  obtain ⟨journals, states, paced⟩ := inStep
  have agree : thinned.Agree (thinned.renewed before).2.workspace
      (alone.renewed mirrored).2.workspace :=
    agree_renewed run.same.twins.criterion states.1.1.iterate (paced.agree.mono (fun _ member =>
      absurd member List.not_mem_nil) fun _ member => absurd member List.not_mem_nil)
  exact ⟨journals, states, paced.congr agree
    (check_keeps_actions (thinned.run_check_zero before))
    (check_keeps_actions (alone.run_check_zero mirrored))⟩

theorem check {iteration : Nat} (later : iteration ≠ 0)
    (inStep : thinned.InStep all.Uses before mirrored) {met : Bool}
    (checked : (alone.check iteration).run mirrored = (.ok met, mirroredAfter)) :
    ∃ after, (thinned.check iteration).run before = (.ok met, after) ∧
      thinned.InStep all.Uses after mirroredAfter := by
  have mirrors : Mirrors (Beside True (Session.Along
      (fun left right => SameState left right ∧ left.criterion = some thinned.criterion)
        thinned.Agree)) (thinned.check iteration) (alone.check iteration) :=
    run.same.twins.mirrors_check (fun _ => run.same.pure) (fun _ _ related => related.1.1) later
  obtain ⟨sameOutcome, journals, along⟩ := mirrors before mirrored
    ⟨inStep.1, inStep.2.state, inStep.2.workspace.agree⟩
  rcases ran : (thinned.check iteration).run before with ⟨outcome, after⟩
  rw [ran, checked] at sameOutcome along
  cases sameOutcome
  exact ⟨after, rfl, .inr trivial, along.state, inStep.2.workspace.congr along.workspace
    (check_keeps_actions ran) (check_keeps_actions checked)⟩

theorem opening (performed : alone.Performs alone.opening first mirrored) :
    ∃ after, thinned.Performs thinned.opening first after ∧
      thinned.InStep all.Uses after mirrored := by
  have parts : ∀ course : Course S, course.opening =
      [.prepare] ++ ([.check 0] ++ course.looks (0 : Nat)) := fun _ => rfl
  rw [parts] at performed
  obtain ⟨other, prepares, rest⟩ := performs_append.mp performed
  obtain ⟨checked, checks, looked⟩ := performs_append.mp rest
  rw [performs_check_zero.mp checks] at looked
  obtain ⟨prepared, preparesToo, inStep⟩ := run.prepare run.inStep_first prepares
  obtain ⟨after, looks, inStepAfter, _⟩ := run.looks (run.renewed inStep)
    (Criterion.reason_renew _ thinned.criterion _) looked
  refine ⟨after, ?_, inStepAfter⟩
  rw [parts]
  exact performs_append.mpr ⟨prepared, preparesToo,
    performs_append.mpr ⟨_, performs_check_zero.mpr rfl, looks⟩⟩

theorem advance {done : Nat} (pending : thinned.Pending first done before)
    (pendingAlone : alone.Pending first done mirrored)
    (inStep : thinned.InStep all.Uses before mirrored)
    (advanced : alone.Performs (alone.advance (done + 1)) mirrored mirroredAfter) :
    ∃ called, thinned.Performs (thinned.advance (done + 1)) before called ∧
      thinned.InStep all.Uses called mirroredAfter ∧
      ∀ number, (∀ other ∈ outer ++ inner, ¬ other.Uses number) →
        thinned.rowsAt first number (done + 1) =
          if interval ∣ done + 1 then alone.rowsAt first number (done + 1) else [] := by
  obtain ⟨other, steps, looked⟩ := Performs.advance_iff.mp advanced
  obtain ⟨stepped, stepsToo, inStep⟩ := run.step inStep steps
  have unmet : (stepped.2.workspace.criterion thinned.criterion.number).reason = "" := by
    rw [stepsToo.step_workspace]
    exact pending.reason
  obtain ⟨called, looks, inStepCalled, rows⟩ := run.looks inStep unmet looked
  refine ⟨called, Performs.advance_iff.mpr ⟨stepped, stepsToo, looks⟩, inStepCalled, ?_⟩
  intro number others
  rw [Course.rowsAt, Course.rowsAt, pending.afterStep stepsToo, pendingAlone.afterStep steps]
  exact rows number others

theorem pending {done : Nat} (pending : alone.Pending first done mirrored) :
    ∃ middle, thinned.Pending first done middle ∧ thinned.InStep all.Uses middle mirrored := by
  induction pending with
  | opened performed =>
      obtain ⟨after, opened, inStep⟩ := run.opening performed
      exact ⟨after, .opened opened, inStep⟩
  | passed pendingAlone advanced checked ih =>
      obtain ⟨middle, pending, inStep⟩ := ih
      obtain ⟨called, advancedToo, inStep, _⟩ := run.advance pending pendingAlone inStep advanced
      obtain ⟨after, checkedToo, inStep⟩ := run.check (Nat.succ_ne_zero _) inStep checked
      exact ⟨after, .passed pending advancedToo checkedToo, inStep⟩

theorem turnOf {iteration : Nat} (turn : alone.Turn first outer iteration mirrored) :
    ∃ before, thinned.Turn first outer iteration before ∧
      thinned.InStep all.Uses before mirrored := by
  cases iteration with
  | zero =>
      obtain ⟨other, prepares, looked⟩ := Turn.opened_iff.mp turn
      obtain ⟨prepared, preparesToo, inStep⟩ := run.prepare run.inStep_first prepares
      obtain ⟨_, before, _, _, _, performed, inStep⟩ :=
        run.follow (run.renewed inStep) outer rfl looked
      exact ⟨before, Turn.opened_iff.mpr ⟨prepared, preparesToo, performed⟩, inStep⟩
  | succ done =>
      obtain ⟨reached, other, pending, steps, looked⟩ := Turn.stepped_iff.mp turn
      obtain ⟨middle, pendingToo, inStep⟩ := run.pending pending
      obtain ⟨stepped, stepsToo, inStep⟩ := run.step inStep steps
      obtain ⟨_, before, _, _, _, performed, inStep⟩ := run.follow inStep outer rfl looked
      exact ⟨before, Turn.stepped_iff.mpr ⟨middle, stepped, pendingToo, stepsToo, performed⟩, inStep⟩

theorem prints {iteration : Nat} {chunk : String}
    (printed : alone.Prints first outer all iteration chunk) :
    thinned.Prints first outer shown iteration (if interval ∣ iteration then chunk else "") := by
  obtain ⟨mirrored, mirroredAfter, turn, observed, more⟩ := printed
  obtain ⟨before, turnToo, inStep⟩ := run.turnOf turn
  obtain ⟨found, spared, after, _, finds, _, sparedFinds, thins, performed, _⟩ :=
    run.turn inStep turnToo.reason observed
  have same : chunk = Glance.text found :=
    (String.append_right_inj _).mp (more.symm.trans finds.printed)
  refine ⟨before, after, turnToo, performed, ?_⟩
  rw [same, ← thins.text]
  exact sparedFinds.printed

theorem stops {iterations : Nat} (stopped : alone.Stops first iterations mirrored) :
    ∃ last, thinned.Stops first iterations last ∧ thinned.InStep all.Uses last mirrored := by
  cases stopped with
  | met pendingAlone advanced checked =>
      obtain ⟨middle, pending, inStep⟩ := run.pending pendingAlone
      obtain ⟨called, advancedToo, inStep, _⟩ := run.advance pending pendingAlone inStep advanced
      obtain ⟨last, checkedToo, inStep⟩ := run.check (Nat.succ_ne_zero _) inStep checked
      exact ⟨last, .met pending advancedToo checkedToo, inStep⟩

theorem rowsAt {iterations done : Nat} (stopped : alone.Stops first iterations mirrored)
    (early : done + 1 ≤ iterations) {number : Nat}
    (others : ∀ other ∈ outer ++ inner, ¬ other.Uses number) :
    thinned.rowsAt first number (done + 1) =
      if interval ∣ done + 1 then alone.rowsAt first number (done + 1) else [] := by
  obtain ⟨reached, called, pendingAlone, advanced⟩ := stopped.advanced early
  obtain ⟨middle, pending, inStep⟩ := run.pending pendingAlone
  obtain ⟨_, _, _, rows⟩ := run.advance pending pendingAlone inStep advanced
  exact rows number others

/-- The last looks do not thin anything any more. -/
theorem close {iterations : Nat} (inStep : thinned.InStep all.Uses before mirrored) {point : Point S}
    (closed : (alone.close iterations).run mirrored = (.ok point, mirroredAfter)) :
    ∃ after, (thinned.close iterations).run before = (.ok point, after) := by
  obtain ⟨reached, looked, rfl, rfl⟩ := looks_of_close closed
  have inStepCounted : thinned.InStep all.Uses (counted iterations before)
      (counted iterations mirrored) :=
    ⟨inStep.1, ⟨inStep.2.state.1.withIterations iterations, inStep.2.state.2⟩,
      inStep.2.workspace⟩
  have same : Decorator.glancesOfAll thinned.decorators (-1) =
      Decorator.glancesOfAll alone.decorators (-1) := by
    rw [run.thinnedAround, run.aloneAround, Decorator.glancesOfAll, Decorator.glancesOfAll,
      List.flatMap_append, List.flatMap_append, List.flatMap_cons, List.flatMap_cons,
      run.inPace.closing]
  obtain ⟨_, after, _, _, _, looks, inStepAfter⟩ :=
    run.follow inStepCounted thinned.decorators same looked
  refine ⟨thinned.finish iterations after, ?_⟩
  rw [run_close thinned looks, inStepAfter.state, run.same.twins.solver]

/-- In between, the thinned decorator is silent whatever the other run does. -/
theorem silent {state : SolverState S} (fits : thinned.Fits state) {iteration : Nat}
    (spared : ¬ interval ∣ iteration) {chunk : String}
    (printed : thinned.Prints first outer shown iteration chunk) : chunk = "" := by
  obtain ⟨before, after, turn, observed, more⟩ := printed
  obtain ⟨_, quiet, made, finds⟩ := performs_observe.mp observed
  rw [run.inPace.look, if_neg spared] at made
  have reason : before.2.state.reason before.2.workspace = .ok "" := by
    rw [SolverState.reason, turn.criterion fits run.criterion]
    exact congrArg Except.ok turn.reason
  have same : chunk = Glance.text quiet :=
    (String.append_right_inj _).mp (more.symm.trans finds.printed)
  rw [same]
  exact finds.text_silenced (run.inPace.hushes iteration) made reason

theorem follows {done : Nat} {glance : Glance S} (member : glance ∈ shown.glances (done + 1 : Nat))
    {number : Nat} (compares : glance.looksBack = some number) :
    thinned.Follows number ∧ all.Uses number := by
  have watches := Glance.watches_of_looksBack compares
  have among : ∀ iteration : Nat, ∃ glance ∈ shown.glances iteration,
      glance.watches = some number :=
    fun iteration => run.inPace.exists_watching ⟨glance, member, watches⟩
  constructor
  · intro iteration
    obtain ⟨watcher, inside, watchesToo⟩ := among iteration
    refine ⟨watcher, ?_, watchesToo⟩
    rw [run.thinnedAround, Decorator.glancesOfAll, List.flatMap_append, List.flatMap_cons]
    exact List.mem_append_right _ (List.mem_append_left _ inside)
  · obtain ⟨watcher, inside, watchesToo⟩ := among 0
    rw [run.inPace.look, if_pos (Nat.dvd_zero interval)] at inside
    exact Decorator.uses_of_memory inside (Glance.memory_of_watches watchesToo)

end ThinnedRun

end Course

end ProximalSplitting

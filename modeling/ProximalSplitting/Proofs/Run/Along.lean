import ProximalSplitting.Proofs.Run.Trajectory
import ProximalSplitting.Proofs.Stopping.Agreement

/-!
Two runs side by side. While their states are alike and their criteria agree, their steps and checks
have the same outcomes and keep them so.
-/

namespace ProximalSplitting

open Effect Tracked

variable {S : Type}

structure Session.Along (states : SolverState S → SolverState S → Prop)
    (within : Workspace S → Workspace S → Prop) (left right : Session S) : Prop where
  state : states left.state right.state
  workspace : within left.workspace right.workspace

variable {α : Type} {steady : Prop} {states : SolverState S → SolverState S → Prop}
  {within : Workspace S → Workspace S → Prop}

theorem Run.mirrors_step {left right : Step S α}
    (mirrors : Mirrors (Beside steady states) left right) :
    Mirrors (Beside steady (Session.Along states within)) (Run.step left) (Run.step right) :=
  mirrors_part mirrors (fun _ _ along => along.state)
    fun _ _ _ _ along related => ⟨related, along.workspace⟩

theorem Run.carries_step {left right : Step S α}
    (carries : Carries (Beside steady states) (Beside steady states) left right) :
    Carries (Beside steady (Session.Along states within)) (Beside steady (Session.Along states within))
      (Run.step left) (Run.step right) :=
  carries_part carries (fun _ _ along => along.state)
    fun _ _ _ _ along related => ⟨related, along.workspace⟩

theorem Run.mirrors_watch {left right : SolverState S → Watch S α}
    (watched : ∀ shown mirrored : SolverState S, states shown mirrored →
      Mirrors (Beside steady within) (left shown) (right mirrored)) :
    Mirrors (Beside steady (Session.Along states within))
      (Run.state >>= fun state => Run.watch (left state))
      (Run.state >>= fun state => Run.watch (right state)) := by
  intro before mirrored related
  rw [Run.run_state_bind, Run.run_state_bind]
  obtain ⟨sameOutcome, journals, parts⟩ := watched _ _ related.2.state
    (before.1, before.2.workspace) (mirrored.1, mirrored.2.workspace)
    ⟨related.1, related.2.workspace⟩
  exact ⟨sameOutcome, journals, related.2.state, parts⟩

theorem Tracked.mirrors_of_keeps {M γ : Type} {relation both : M → M → Prop} {view : M → γ}
    {left right : Tracked S M α} (mirrors : Mirrors (Beside steady relation) left right)
    (leftKeeps : Keeps view left) (rightKeeps : Keeps view right)
    (inside : ∀ {before mirrored}, both before mirrored → relation before mirrored)
    (narrow : ∀ {before mirrored after mirroredAfter}, both before mirrored →
      relation after mirroredAfter → view after = view before →
      view mirroredAfter = view mirrored → both after mirroredAfter) :
    Mirrors (Beside steady both) left right := by
  intro before mirrored related
  obtain ⟨sameOutcome, journals, parts⟩ := mirrors before mirrored ⟨related.1, inside related.2⟩
  exact ⟨sameOutcome, journals, narrow related.2 parts (leftKeeps before) (rightKeeps mirrored)⟩

namespace Course

variable [Scalar S] {left right : Course S}

def renewed (course : Course S) (before : Memory S) : Memory S :=
  (before.1, { before.2 with
    workspace := course.criterion.renew before.2.state.iterate before.2.workspace })

theorem run_check_zero (course : Course S) (before : Memory S) :
    (course.check 0).run before = (.ok false, course.renewed before) := by
  rw [run_check, Run.watch, run_part]
  have checked := Criterion.run_check_zero course.problem before.2.state course.criterion
    before.1 before.2.workspace
  exact congrArg (fun ran => (ran.1, (ran.2.1, { before.2 with workspace := ran.2.2 }))) checked

theorem run_perform_check_zero (course : Course S) (before : Memory S) :
    (course.perform (.check 0)).run before = (.ok (), course.renewed before) :=
  run_bind_of_ok (course.run_check_zero before)

theorem run_opening (course : Course S) {first prepared : Memory S}
    (ran : course.Performs [.prepare] first prepared) :
    (course.performAll course.opening).run first =
      (course.performAll (course.looks 0)).run (course.renewed prepared) := by
  have checked : course.Performs [.check 0] prepared (course.renewed prepared) :=
    performs_cons.mpr ⟨_, course.run_perform_check_zero prepared, performs_nil.mpr rfl⟩
  have parts : course.opening = [.prepare] ++ ([.check 0] ++ course.looks 0) := rfl
  rw [parts, performAll_append, run_bind_of_ok ran, performAll_append, run_bind_of_ok checked]

structure Twins (left right : Course S) : Prop where
  problem : left.problem = right.problem
  solver : left.solver = right.solver
  criterion : left.criterion = right.criterion

def Agree (course : Course S) (left right : Workspace S) : Prop :=
  Workspace.Agree course.criterion.numbers course.criterion.leaves left right

theorem agree_renewed (criterion : left.criterion = right.criterion) {before mirrored : Memory S}
    (iterate : before.2.state.iterate = mirrored.2.state.iterate)
    (agree : Workspace.Agree [] [] before.2.workspace mirrored.2.workspace) :
    left.Agree (left.renewed before).2.workspace (right.renewed mirrored).2.workspace := by
  have renewed := Criterion.agree_renew before.2.state.iterate left.criterion agree
  rw [List.append_nil, List.append_nil] at renewed
  rw [Course.renewed, Course.renewed, ← criterion, ← iterate]
  exact renewed

theorem Twins.mirrors_check (twins : Twins left right) (pure : steady → left.problem.Pure)
    (alike : ∀ shown mirrored : SolverState S, states shown mirrored → shown.Alike steady mirrored)
    {iteration : Nat} (later : iteration ≠ 0) :
    Mirrors (Beside steady (Session.Along states left.Agree)) (left.check iteration)
      (right.check iteration) := by
  rw [check, check, checkCriterion, checkCriterion, ← twins.problem, ← twins.criterion]
  exact Run.mirrors_watch fun _ _ related =>
    Criterion.check_mirrors ((alike _ _ related).judged pure) (by exact_mod_cast later)
      left.criterion
      (fun _ member => member) fun _ member => member

structure Accompanied (launched fitting : Memory S → Memory S → Prop) (left right : Course S) :
    Prop where
  leftUnwatched : left.decorators = []
  rightUnwatched : right.decorators = []
  opening : Carries launched fitting (left.performAll left.opening)
    (right.performAll right.opening)
  step : ∀ done : Nat, Carries fitting fitting (left.perform (.step (done + 1)))
    (right.perform (.step (done + 1)))
  check : ∀ done : Nat, Carries fitting fitting (left.check (done + 1)) (right.check (done + 1))

namespace Accompanied

variable {launched fitting arrived : Memory S → Memory S → Prop}
  (accompanied : Accompanied launched fitting left right)
include accompanied

theorem carries_step (done : Nat) :
    Carries fitting fitting (left.performAll [.step (done + 1)])
      (right.performAll [.step (done + 1)]) :=
  carries_bind (accompanied.step done) fun _ => carries_pure ()

theorem carries_advance (done : Nat) :
    Carries fitting fitting (left.performAll (left.advance (done + 1)))
      (right.performAll (right.advance (done + 1))) := by
  rw [advance, advance, looks, looks, accompanied.leftUnwatched, accompanied.rightUnwatched]
  exact accompanied.carries_step done

theorem carries_callsThrough (done : Nat) :
    Carries launched fitting (left.performAll (left.callsThrough done))
      (right.performAll (right.callsThrough done)) := by
  induction done with
  | zero => exact accompanied.opening
  | succ done ih =>
      rw [callsThrough, callsThrough, performAll_append, performAll_append, performAll_append,
        performAll_append]
      refine carries_bind (carries_bind ih fun _ => accompanied.carries_advance done) fun _ => ?_
      refine carries_bind (carries_bind (accompanied.check done) fun _ => ?_) fun _ => carries_pure ()
      exact carries_pure ()

theorem carries_callsUntilStep (done : Nat) :
    Carries launched fitting (left.performAll (left.callsUntilStep (done + 1)))
      (right.performAll (right.callsUntilStep (done + 1))) := by
  rw [callsUntilStep, callsUntilStep, performAll_append, performAll_append]
  exact carries_bind (accompanied.carries_callsThrough done) fun _ => accompanied.carries_step done

variable (closes : ∀ iterations, Carries fitting arrived (left.close iterations)
  (right.close iterations))
include closes

theorem carries_continueRun (remaining done : Nat) :
    Carries fitting arrived (left.continueRun remaining done) (right.continueRun remaining done) := by
  induction remaining generalizing done with
  | zero =>
      intro before mirrored value after _ ran
      cases ran
  | succ remaining ih =>
      rw [continueRun_succ, continueRun_succ]
      refine carries_bind (accompanied.carries_advance done) fun _ => ?_
      refine carries_bind (accompanied.check done) fun met => ?_
      exact carries_ite (closes (done + 1)) (ih (done + 1))

theorem carries_whole (steps : Nat) :
    Carries launched arrived (left.whole steps) (right.whole steps) := by
  rw [whole, whole]
  exact carries_bind accompanied.opening fun _ => accompanied.carries_continueRun closes steps 0

end Accompanied

end Course

end ProximalSplitting

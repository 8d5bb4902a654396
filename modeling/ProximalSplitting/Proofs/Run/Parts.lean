import ProximalSplitting.Proofs.Method.Renewal
import ProximalSplitting.Proofs.Method.Resumption
import ProximalSplitting.Proofs.Run.Capped
import ProximalSplitting.Proofs.Run.Sample

/-!
Runs in two parts. With constant parameters, a state that is solved with one cap and then with
another one comes to where one run with both together comes. A parallel run forgets its iterate
whenever it is prepared, so there only the drivers are the same.
-/

namespace ProximalSplitting

open Compute Effect Tracked

variable {S : Type} [Scalar S] {alike : Journal → Journal → Prop} {problem : Problem S}

section Methods

variable (unnoticed : Unnoticed alike)
include unnoticed

omit [Scalar S] in
theorem Bookkept.goesUnnoticed {left right : Journal × SolverState S} (kept : Bookkept left right) :
    alike left.1 right.1 := by
  obtain ⟨messages, same⟩ := kept.journal
  rw [same]
  exact unnoticed.messages left.1 messages

omit [Scalar S] in
theorem alike_of_books {left right left' right' : Journal × SolverState S}
    (journals : alike left.1 right.1) (first : Bookkept left left')
    (second : Bookkept right right') : alike left'.1 right'.1 :=
  unnoticed.trans (unnoticed.symm (first.goesUnnoticed unnoticed))
    (unnoticed.trans journals (second.goesUnnoticed unnoticed))

variable (prox : ∀ parameter point index, (problem.prox parameter point index).Respects alike)
include prox

theorem CyclicProximalPoint.resumable (constant : S) :
    Resumable .cyclicProximalPoint problem True (Abreast alike (Aligned constant))
      (Abreast alike (Aligned constant)) := by
  have books : ∀ {left right left' right' : Journal × SolverState S},
      Abreast alike (Aligned constant) left right → Bookkept left left' → Bookkept right right' →
        Abreast alike (Aligned constant) left' right' := by
    intro left right left' right' ⟨journals, iterate, method⟩ first second
    refine ⟨alike_of_books unnoticed journals first second, ?_, ?_⟩
    · rw [first.iterate, second.iterate, iterate]
    · rw [first.method, second.method]
      exact method
  have works : ∀ {left right : Journal × SolverState S},
      Abreast alike (Aligned constant) left right →
        Solver.ofState left.2 = .ok .cyclicProximalPoint := by
    intro left right ⟨_, _, derived, parameters, order, isLeft, _⟩
    rw [Solver.ofState, isLeft]
  exact ⟨books, books, works, works, (mirrors_setOrder none).meets,
    (mirrors_setOrder_pure none).meets, fun early late => (mirrors_step prox _ _).meets⟩

theorem DouglasRachford.resumable {parameters : SplittingParameters S} {parameter relaxation : S}
    (isParameter : parameters.parameter = fun _ => pure parameter)
    (isRelaxation : parameters.relaxation = fun _ => pure relaxation)
    (reflect : ∀ pivot point, (parameters.reflection.getD problem.manifold.geometry.reflect pivot
      point).Respects alike)
    (geodesic : ∀ start target time,
      (problem.manifold.geometry.shortestGeodesic start target time).Respects alike)
    (averages : parameters.parallel = true → ∀ point reference journal,
      alike journal ((problem.manifold.coordinateMean point reference).run journal).2) :
    Resumable .douglasRachford problem (parameters.parallel = false)
      (Abreast alike (Aligned parameters))
      (fun left right => Abreast alike (Aligned parameters) left right ∧
        Ready problem parameters.parallel) := by
  have books : ∀ {left right left' right' : Journal × SolverState S},
      Abreast alike (Aligned parameters) left right → Bookkept left left' →
        Bookkept right right' → Abreast alike (Aligned parameters) left' right' := by
    intro left right left' right' ⟨journals, iterate, method⟩ first second
    refine ⟨alike_of_books unnoticed journals first second, fun sequential => ?_, ?_⟩
    · rw [first.iterate, second.iterate, iterate sequential]
    · rw [first.method, second.method]
      exact method
  have works : ∀ {left right : Journal × SolverState S},
      Abreast alike (Aligned parameters) left right →
        Solver.ofState left.2 = .ok .douglasRachford := by
    intro left right ⟨_, _, driver, isLeft, _⟩
    rw [Solver.ofState, isLeft]
  exact {
    freshBooks := books
    readyBooks := fun related first second => ⟨books related.1 first second, related.2⟩
    freshSolver := works
    readySolver := fun related => works related.1
    prepares := meets_prepare unnoticed averages
    again := meets_prepare_again unnoticed averages
    steps := fun early late => (meets_step unnoticed averages isParameter isRelaxation prox reflect
      geodesic _ _).keeping }

end Methods

def EndAlike {γ : Type} (view : SolverState S → γ)
    (left right : Except (Fault S) (Point S) × Memory S) : Prop :=
  left.1 = right.1 ∧ ∀ point, right.1 = .ok point → view left.2.2.state = view right.2.2.state

section Parts

variable {solver : Solver S} {strict : Prop}
  {fresh ready : Journal × SolverState S → Journal × SolverState S → Prop}
  {budget first second : Nat} {before : Memory S}

theorem Resumable.endAlike (resumable : Resumable solver problem strict fresh ready)
    (holds : strict) (returnsIterate : solver.result = SolverState.iterate)
    (firstPositive : 1 ≤ first) (secondPositive : 1 ≤ second) (enough : first + second ≤ budget)
    (begins : fresh (before.1, before.2.state) (before.1, before.2.state)) {γ : Type}
    {view : SolverState S → γ}
    (iterates : ∀ {left right}, ready left right → left.2.iterate = right.2.iterate)
    (views : ∀ {left right}, ready left right → view left.2 = view right.2) :
    EndAlike view ((solveInParts budget problem first second).run before)
      ((solveCapped budget problem (first + second)).run before) := by
  obtain ⟨outcomes, succeeded⟩ := resumable.parts firstPositive secondPositive enough begins
  replace outcomes := outcomes holds
  rcases parts : (solveInParts budget problem first second).run before with ⟨outcome, after⟩
  rcases whole : (solveCapped budget problem (first + second)).run before with ⟨outcome', after'⟩
  rw [parts, whole] at outcomes
  cases outcome with
  | error fault =>
      cases outcome' with
      | error fault' =>
          cases outcomes
          exact ⟨rfl, fun _ absurdity => by cases absurdity⟩
      | ok found => cases outcomes
  | ok point =>
      cases outcome' with
      | error fault' => cases outcomes
      | ok found =>
          obtain ⟨isPoint, isFound, related⟩ := succeeded point found after after' parts whole
          rw [returnsIterate] at isPoint isFound
          refine ⟨?_, fun _ _ => views related⟩
          rw [isPoint, isFound, iterates related]

/-- Solving a state with a cap of some iterations and then with a cap of more ends like solving it
once with the sum of the caps as its cap. With a constant parameter and an order that is linear or
random, the cyclic method fails alike or comes to the same point and key; with constant parameter
and relaxation, splitting fails alike or comes to the same point and driver, and if it is parallel,
to the same driver whenever the averages along both ways are found. The functions of the caller may
notice anything but messages, in parallel runs also anything but averages. -/
theorem parts_end_like_whole (unnoticed : Unnoticed alike)
    (prox : ∀ parameter point index, (problem.prox parameter point index).Respects alike)
    (firstPositive : 1 ≤ first) (secondPositive : 1 ≤ second) (enough : first + second ≤ budget)
    (before : Memory S) :
    (∀ derived (parameters : CyclicParameters S) parameter,
      before.2.state.method = .cyclic derived parameters →
      parameters.parameter = Schedule.constant parameter →
      parameters.evaluationOrder = .linear ∨ parameters.evaluationOrder = .random →
      EndAlike (fun state => (state.iterate, state.key?))
        ((solveInParts budget problem first second).run before)
        ((solveCapped budget problem (first + second)).run before)) ∧
    ∀ (parameters : SplittingParameters S) parameter relaxation,
      before.2.state.method = .splitting parameters →
      parameters.parameter = Schedule.constant parameter →
      parameters.relaxation = Schedule.constant relaxation →
      (∀ pivot point, (parameters.reflection.getD problem.manifold.geometry.reflect pivot
        point).Respects alike) →
      (∀ start target time,
        (problem.manifold.geometry.shortestGeodesic start target time).Respects alike) →
      (parameters.parallel = false →
        EndAlike (fun state => (state.iterate, state.driver?))
          ((solveInParts budget problem first second).run before)
          ((solveCapped budget problem (first + second)).run before)) ∧
      (parameters.parallel = true →
        (∀ point reference journal,
          alike journal ((problem.manifold.coordinateMean point reference).run journal).2) →
        ∀ point found after after',
          (solveInParts budget problem first second).run before = (.ok point, after) →
          (solveCapped budget problem (first + second)).run before = (.ok found, after') →
          after.2.state.driver? = after'.2.state.driver?) := by
  constructor
  · intro derived parameters parameter method isParameter ordered
    have unfixed : parameters.evaluationOrder ≠ .fixedRandom := by
      rcases ordered with ordered | ordered <;> rw [ordered] <;> decide
    refine (CyclicProximalPoint.resumable unnoticed prox parameter).endAlike trivial rfl
      firstPositive secondPositive enough ?_ (fun related => related.2.iterate) fun related => ?_
    · exact ⟨unnoticed.refl _, rfl, derived, parameters, parameters.order, method, method,
        isParameter, unfixed⟩
    · obtain ⟨_, iterate, _, _, _, isLeft, isRight, _⟩ := related
      rw [SolverState.key?, SolverState.key?, isLeft, isRight, iterate]
  · intro parameters parameter relaxation method isParameter isRelaxation reflect geodesic
    have begins : Abreast alike (DouglasRachford.Aligned parameters)
        (before.1, before.2.state) (before.1, before.2.state) :=
      ⟨unnoticed.refl _, fun _ => rfl, parameters.driver, method, method⟩
    have drivers : ∀ {left right : Journal × SolverState S},
        Abreast alike (DouglasRachford.Aligned parameters) left right →
          left.2.driver? = right.2.driver? := by
      intro left right ⟨_, _, driver, isLeft, isRight⟩
      rw [SolverState.driver?, SolverState.driver?, isLeft, isRight]
    constructor
    · intro sequential
      refine (DouglasRachford.resumable unnoticed prox isParameter isRelaxation reflect geodesic
        ?_).endAlike sequential rfl firstPositive secondPositive enough begins
        (fun related => related.1.2.iterate sequential) fun related => ?_
      · intro parallel
        rw [sequential] at parallel
        cases parallel
      · rw [related.1.2.iterate sequential, drivers related.1]
    · intro parallel averages point found after after' parts whole
      obtain ⟨_, succeeded⟩ := (DouglasRachford.resumable unnoticed prox isParameter isRelaxation
        reflect geodesic fun _ => averages).parts firstPositive secondPositive enough begins
      obtain ⟨_, _, related, _⟩ := succeeded point found after after' parts whole
      exact drivers related

end Parts

section Sample

namespace Sample

def steadyCycles : CyclicParameters Int where
  parameter := Schedule.constant 2
  evaluationOrder := .linear
  key := ⟨0, 7⟩

def steadySplitting (parallel : Bool) (driver : Point Int) : SplittingParameters Int where
  driver := driver
  parameter := Schedule.constant 2
  relaxation := Schedule.constant 1
  reflection := none
  parallel := parallel

def running (method : Method Int) : Memory Int :=
  ({ counters := [0] }, ⟨workspace, { iterate := mark 0, criterion := none, method }⟩)

def cycling : Memory Int := running (.cyclic false steadyCycles)

def alternating : Memory Int := running (.splitting (steadySplitting false (mark 3)))

def pairing : Memory Int :=
  running (.splitting (steadySplitting true (.stack [mark 3, mark 8])))

def plane : Manifold Int := .power line 2

def pairProblem : Problem Int where
  manifold := plane
  objective := .total
  collection := some ⟨[.shift (.stack [mark 1, mark 3]), .diagonal plane], [1, 1]⟩

theorem respects_worn (allowed : Nat) (parameter : Int) (point : Point Int) (index : Int) :
    ((worn allowed).prox parameter point index).Respects Journal.SameButMessages := by
  refine Problem.respects_prox rfl (fun proximalMap member => ?_) parameter point index
  simp only [List.mem_cons, List.not_mem_nil, or_false] at member
  rcases member with rfl | rfl
  · exact fun _ _ => respects_pure (mark 5)
  · exact ProximalMap.respects_refusing 0 allowed

theorem pure_plane : plane.Pure := euclidean_pure [1]

theorem pure_pairProblem (parameter : Int) (point : Point Int) (index : Int) :
    (pairProblem.prox parameter point index).Pure := by
  refine Problem.pure_prox rfl (fun proximalMap member => ?_) parameter point index
  simp only [List.mem_cons, List.not_mem_nil, or_false] at member
  rcases member with rfl | rfl
  · exact fun parameter point => Tensor.pure_plus point _
  · exact ProximalMap.pure_diagonal pure_plane

end Sample

theorem sample_parts_end_like_whole :
    (((solveCapped 5 (Sample.worn 9) 5).run Sample.cycling).1.isOk = true ∧
      EndAlike (fun state => (state.iterate, state.key?))
        ((solveInParts 5 (Sample.worn 9) 2 3).run Sample.cycling)
        ((solveCapped 5 (Sample.worn 9) 5).run Sample.cycling)) ∧
    (((solveCapped 5 Sample.problem 5).run Sample.alternating).1.isOk = true ∧
      EndAlike (fun state => (state.iterate, state.driver?))
        ((solveInParts 5 Sample.problem 2 3).run Sample.alternating)
        ((solveCapped 5 Sample.problem 5).run Sample.alternating)) ∧
    ∃ point found after after',
      (solveInParts 5 Sample.pairProblem 2 3).run Sample.pairing = (.ok point, after) ∧
        (solveCapped 5 Sample.pairProblem 5).run Sample.pairing = (.ok found, after') ∧
        after.2.state.driver? = after'.2.state.driver? := by
  refine ⟨⟨by decide +kernel, ?_⟩, ⟨by decide +kernel, ?_⟩, ?_⟩
  · exact (parts_end_like_whole unnoticed_messages (Sample.respects_worn 9) (by decide) (by decide)
      (by decide) _).1 false Sample.steadyCycles 2 rfl rfl (.inl rfl)
  · exact ((parts_end_like_whole unnoticed_all Sample.pure_problem.prox (by decide) (by decide)
      (by decide) _).2 (Sample.steadySplitting false (Sample.mark 3)) 2 1 rfl rfl rfl
        Sample.pure_problem.manifold.geometry.reflect
        Sample.pure_problem.manifold.geometry.shortestGeodesic).1 rfl
  · have partsSucceed : ((solveInParts 5 Sample.pairProblem 2 3).run Sample.pairing).1.isOk =
        true := by decide +kernel
    have wholeSucceeds : ((solveCapped 5 Sample.pairProblem 5).run Sample.pairing).1.isOk =
        true := by decide +kernel
    obtain ⟨point, after, parts⟩ := exists_ok_of_isOk partsSucceed
    obtain ⟨found, after', whole⟩ := exists_ok_of_isOk wholeSucceeds
    refine ⟨point, found, after, after', parts, whole, ?_⟩
    exact ((parts_end_like_whole unnoticed_all Sample.pure_pairProblem (by decide) (by decide)
      (by decide) _).2 (Sample.steadySplitting true (.stack [Sample.mark 3, Sample.mark 8])) 2 1
        rfl rfl rfl Sample.pure_plane.geometry.reflect
        Sample.pure_plane.geometry.shortestGeodesic).2 rfl (fun _ _ _ => trivial)
        point found after after' parts whole

end Sample

end ProximalSplitting

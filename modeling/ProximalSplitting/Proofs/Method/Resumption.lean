import ProximalSplitting.Proofs.Effects.Meeting
import ProximalSplitting.Proofs.Method.Failure

/-!
Steps that go on where others stopped. With constant parameters a step does not depend on its
number, and what preparing resets is not read before it is set again: the order of a cycle that is
not fixed, or the iterate of a parallel run. So states that only differ there are stepped alike.
-/

namespace ProximalSplitting

open Compute Effect Tracked

variable {S : Type} {alike : Journal → Journal → Prop}

/-- A map that counts its calls notices nothing but its counter. -/
theorem ProximalMap.respects_refusing (counter allowed : Nat) (parameter : S) (point : Point S) :
    (refusing counter allowed parameter point).Respects Journal.SameButMessages := by
  refine mirrors_bind (fun left right same => ?_) fun call => ?_
  · obtain ⟨sameCompiler, sameCounters⟩ := same
    have counted : ∀ journal : Journal, (countCall counter : Compute S Nat).run journal =
        (.ok (journal.counters.getD counter 0 + 1), { journal with
          counters := journal.counters.set counter (journal.counters.getD counter 0 + 1) }) :=
      fun _ => rfl
    rw [counted, counted, sameCounters]
    exact ⟨rfl, sameCompiler, rfl⟩
  · exact mirrors_ite (mirrors_pure point) (respects_attempt _)

theorem Problem.respects_prox [Scalar S] {problem : Problem S} {collection : MapCollection S}
    (collected : problem.collection = some collection)
    (respects : ∀ proximalMap ∈ collection.maps, ∀ parameter point,
      (proximalMap parameter point).Respects alike) (parameter : S) (point : Point S)
    (index : Int) : (problem.prox parameter point index).Respects alike := by
  rw [Problem.prox, Problem.maps, collected, Option.map_some, expect, pure_bind]
  split
  · rename_i proximalMap found
    refine respects proximalMap ?_ parameter point
    split at found
    · exact List.mem_of_getElem? found
    · cases found
  · exact respects_attempt _

theorem Problem.respects_mapCount [Scalar S] (problem : Problem S) :
    problem.mapCount.Respects alike := by
  rw [mapCount, maps]
  cases problem.collection with
  | none => exact respects_attempt _
  | some collection => exact respects_pure _

namespace CyclicProximalPoint

structure Aligned (constant : S) (left right : SolverState S) : Prop where
  iterate : left.iterate = right.iterate
  method : ∃ derived parameters order, left.method = .cyclic derived parameters ∧
    right.method = .cyclic derived { parameters with order } ∧
    parameters.parameter = (fun _ => pure constant) ∧ parameters.evaluationOrder ≠ .fixedRandom

section Aligned

variable {constant : S} {left right : SolverState S}

theorem Aligned.withIterate (aligned : Aligned constant left right) (iterate : Point S) :
    Aligned constant (left.withIterate iterate) (right.withIterate iterate) :=
  ⟨rfl, aligned.method⟩

theorem Aligned.symm (aligned : Aligned constant left right) : Aligned constant right left := by
  obtain ⟨iterate, derived, parameters, order, isLeft, isRight, isConstant, unfixed⟩ := aligned
  exact ⟨iterate.symm, derived, { parameters with order }, parameters.order, isRight, isLeft,
    isConstant, unfixed⟩

theorem Aligned.reordered (aligned : Aligned constant left right) (order : Option (List Nat)) :
    Aligned constant
      ((left.dropExtra "order").changeCyclic fun parameters => { parameters with order })
      right := by
  obtain ⟨iterate, derived, parameters, other, isLeft, isRight, isConstant, unfixed⟩ := aligned
  have kept : (left.dropExtra "order").method = .cyclic derived parameters := isLeft
  rw [SolverState.changeCyclic, kept]
  exact ⟨iterate, derived, { parameters with order }, other, rfl, isRight, isConstant, unfixed⟩

theorem Aligned.rekeyed (aligned : Aligned constant left right) (key : RandomKey) :
    Aligned constant (left.changeCyclic fun parameters => { parameters with key })
      (right.changeCyclic fun parameters => { parameters with key }) := by
  obtain ⟨iterate, derived, parameters, order, isLeft, isRight, isConstant, unfixed⟩ := aligned
  rw [SolverState.changeCyclic, SolverState.changeCyclic, isLeft, isRight]
  exact ⟨iterate, derived, { parameters with key }, order, rfl, rfl, isConstant, unfixed⟩

theorem Aligned.parameterAt (aligned : Aligned constant left right) (iteration : Int) :
    left.parameterAt iteration = pure constant ∧ right.parameterAt iteration = pure constant := by
  obtain ⟨_, derived, parameters, order, isLeft, isRight, isConstant, _⟩ := aligned
  rw [SolverState.parameterAt, SolverState.parameterAt, isLeft, isRight]
  simp only [Method.parameter?, SolverState.scheduledAt, isConstant, and_self]

/-- Reading the parameters of aligned states finds parameters that differ in the order only. -/
theorem mirrors_parameters_bind {α : Type} {leftNext rightNext : CyclicParameters S → Step S α}
    (next : ∀ parameters order, parameters.evaluationOrder ≠ .fixedRandom →
      Mirrors (Abreast alike (Aligned constant)) (leftNext parameters)
        (rightNext { parameters with order })) :
    Mirrors (Abreast alike (Aligned constant)) (parameters >>= leftNext)
      (parameters >>= rightNext) := by
  rw [parameters, bind_assoc, bind_assoc]
  refine abreast_read_bind fun before mirrored aligned => ?_
  obtain ⟨_, derived, parameters, order, isLeft, isRight, _, unfixed⟩ := aligned
  rw [isLeft, isRight]
  simp only [pure_bind]
  exact next parameters order unfixed

theorem mirrors_setOrder (order : Option (List Nat)) :
    Mirrors (Abreast alike (Aligned constant)) (setOrder order : Step S Unit) (setOrder order) :=
  abreast_update fun _ _ aligned => ((aligned.reordered order).symm.reordered order).symm

theorem mirrors_setOrder_pure (order : Option (List Nat)) :
    Mirrors (Abreast alike (Aligned constant)) (setOrder order : Step S Unit) (pure ()) :=
  fun _ _ related => ⟨rfl, related.1, related.2.reordered order⟩

theorem mirrors_drawOrder (count : Nat) :
    Mirrors (Abreast alike (Aligned constant)) (drawOrder count : Step S (List Nat))
      (drawOrder count) := by
  refine mirrors_parameters_bind fun parameters order _ => ?_
  exact mirrors_bind (abreast_update fun _ _ aligned => aligned.rekeyed parameters.key.split.1)
    fun _ => mirrors_pure _

end Aligned

variable [Scalar S] {problem : Problem S} {constant : S}

theorem mirrors_visitingOrder :
    Mirrors (Abreast alike (Aligned constant)) (visitingOrder problem) (visitingOrder problem) := by
  refine mirrors_bind (abreast_liftM (problem.respects_mapCount)) fun count => ?_
  refine mirrors_parameters_bind fun parameters order unfixed => ?_
  cases ordered : parameters.evaluationOrder with
  | linear => exact mirrors_pure _
  | random =>
      cases parameters.order <;> cases order <;> exact mirrors_drawOrder count
  | fixedRandom => exact absurd ordered unfixed

theorem mirrors_step
    (respects : ∀ parameter point index, (problem.prox parameter point index).Respects alike)
    (early late : Int) :
    Mirrors (Abreast alike (Aligned constant)) (step problem early) (step problem late) := by
  refine abreast_read_bind fun before mirrored aligned => ?_
  rw [(aligned.parameterAt early).1, (aligned.parameterAt late).2, aligned.iterate]
  refine mirrors_bind (abreast_liftM (respects_pure constant)) fun parameter => ?_
  refine mirrors_bind mirrors_visitingOrder fun order => ?_
  refine mirrors_bind (mirrors_setOrder (some order)) fun _ => ?_
  refine mirrors_bind (abreast_liftM ?_) fun point =>
    abreast_update fun _ _ aligned => aligned.withIterate point
  exact mirrors_foldlM (fun point (index : Nat) => respects parameter point index) order
    mirrored.iterate

end CyclicProximalPoint

namespace DouglasRachford

structure Aligned (parameters : SplittingParameters S) (left right : SolverState S) : Prop where
  iterate : parameters.parallel = false → left.iterate = right.iterate
  method : ∃ driver, left.method = .splitting { parameters with driver } ∧
    right.method = .splitting { parameters with driver }

section Aligned

variable {parameters : SplittingParameters S} {left right : SolverState S}

theorem Aligned.withIterate (aligned : Aligned parameters left right) {first second : Point S}
    (same : parameters.parallel = false → first = second) :
    Aligned parameters (left.withIterate first) (right.withIterate second) :=
  ⟨same, aligned.method⟩

theorem Aligned.driven (aligned : Aligned parameters left right) (driver : Point S) :
    Aligned parameters (left.changeSplitting fun parameters => { parameters with driver })
      (right.changeSplitting fun parameters => { parameters with driver }) := by
  obtain ⟨iterate, before, isLeft, isRight⟩ := aligned
  rw [SolverState.changeSplitting, SolverState.changeSplitting, isLeft, isRight]
  exact ⟨iterate, driver, rfl, rfl⟩

end Aligned

variable [Scalar S] {problem : Problem S} {parameters : SplittingParameters S}
  {parameter relaxation : S}

structure Ready (problem : Problem S) (parallel : Bool) : Prop where
  two : ∃ collection, problem.collection = some collection ∧ collection.maps.length = 2
  power : parallel = true → ∃ base copies given, problem.manifold = .power base copies given

theorem run_average {before : Journal × SolverState S} {driver : Point S}
    (ready : Ready problem parameters.parallel)
    (method : before.2.method = .splitting { parameters with driver }) :
    (average problem).run before =
      if parameters.parallel then
        (liftM (problem.manifold.coordinateMean driver none) >>= fun mean =>
          (Tracked.update fun state => state.withIterate mean : Step S Unit)).run before
      else (.ok (), before) := by
  rw [average, run_bind_of_ok (run_parameters method)]
  cases parallel : parameters.parallel with
  | false => rfl
  | true =>
      obtain ⟨base, copies, given, isPower⟩ := ready.power parallel
      simp only [isPower, if_true]

theorem run_prepare_of_ready {parallel : Bool} (ready : Ready problem parallel)
    (before : Journal × SolverState S) :
    (prepare problem).run before = (average problem).run before := by
  obtain ⟨collection, collected, two⟩ := ready.two
  have counted : (liftM problem.mapCount : Step S Nat).run before = (.ok 2, before) := by
    rw [Problem.mapCount, Problem.maps, collected, ← two]
    rfl
  refine (run_bind_of_ok counted).trans ?_
  rfl

theorem ready_of_prepare {before after : Journal × SolverState S}
    (method : before.2.method = .splitting parameters)
    (prepared : (prepare problem).run before = (.ok (), after)) :
    Ready problem parameters.parallel := by
  cases collected : problem.collection with
  | none =>
      have unknown : (liftM problem.mapCount : Step S Nat).run before =
          (.error .missingField, before) := by
        rw [Problem.mapCount, Problem.maps, collected]
        rfl
      cases (run_bind_of_error unknown).symm.trans prepared
  | some collection =>
      have counted : (liftM problem.mapCount : Step S Nat).run before =
          (.ok collection.maps.length, before) := by
        rw [Problem.mapCount, Problem.maps, collected]
        rfl
      have rest := (run_bind_of_ok counted).symm.trans prepared
      by_cases two : collection.maps.length = 2
      · rw [if_neg fun different => different two] at rest
        refine ⟨⟨collection, collected, two⟩, fun parallel => ?_⟩
        replace rest := (run_bind_of_ok (run_parameters method)).symm.trans rest
        rw [if_pos parallel] at rest
        cases isPower : problem.manifold with
        | ofGeometry geometry =>
            simp only [isPower] at rest
            cases rest
        | power base copies given => exact ⟨base, copies, given, rfl⟩
      · rw [if_pos two] at rest
        cases rest

section Moves

variable (unnoticed : Unnoticed alike)
  (averages : parameters.parallel = true → ∀ point reference journal,
    alike journal ((problem.manifold.coordinateMean point reference).run journal).2)

structure Settled (alike : Journal → Journal → Prop) (parallel : Bool)
    (before after : Journal × SolverState S) : Prop where
  journal : alike before.1 after.1
  method : after.2.method = before.2.method
  iterate : parallel = false → after.2.iterate = before.2.iterate

omit [Scalar S] in
include unnoticed in
theorem Settled.aligned {left right left' right' : Journal × SolverState S}
    (related : Abreast alike (Aligned parameters) left right)
    (first : Settled alike parameters.parallel left left')
    (second : Settled alike parameters.parallel right right') :
    Abreast alike (Aligned parameters) left' right' := by
  obtain ⟨journals, iterate, driver, isLeft, isRight⟩ := related
  refine ⟨unnoticed.trans (unnoticed.symm first.journal) (unnoticed.trans journals second.journal),
    ?_, driver, first.method.trans isLeft, second.method.trans isRight⟩
  intro sequential
  rw [first.iterate sequential, iterate sequential, second.iterate sequential]

omit [Scalar S] in
include unnoticed in
theorem meets_of_settled (parallel : parameters.parallel = true) {first second : Step S Unit}
    (settlesFirst : ∀ before after, first.run before = (.ok (), after) →
      Settled alike parameters.parallel before after)
    (settlesSecond : ∀ before after, second.run before = (.ok (), after) →
      Settled alike parameters.parallel before after) :
    Meets (parameters.parallel = false) (Abreast alike (Aligned parameters))
      (Abreast alike (Aligned parameters)) first second := by
  intro left right related
  constructor
  · intro sequential
    rw [parallel] at sequential
    cases sequential
  · intro value found leftOk rightOk
    rcases leftRan : first.run left with ⟨outcome, left'⟩
    rcases rightRan : second.run right with ⟨outcome', right'⟩
    rw [leftRan] at leftOk
    rw [rightRan] at rightOk
    cases leftOk
    cases rightOk
    exact ⟨rfl, (settlesFirst _ _ leftRan).aligned unnoticed related (settlesSecond _ _ rightRan)⟩

include averages in
theorem settled_average (parallel : parameters.parallel = true)
    {before after : Journal × SolverState S} {point : Point S} {reference : Option (Point S)}
    (ran : (liftM (problem.manifold.coordinateMean point reference) >>= fun mean =>
      (Tracked.update fun state => state.withIterate mean : Step S Unit)).run before =
        (.ok (), after)) : Settled alike parameters.parallel before after := by
  obtain ⟨mean, middle, averaged, updated⟩ := run_bind_ok_iff.mp ran
  cases updated
  have noticed := averages parallel point reference before.1
  rw [run_liftM, Prod.mk.injEq] at averaged
  obtain ⟨_, rfl⟩ := averaged
  refine ⟨noticed, rfl, fun sequential => ?_⟩
  rw [parallel] at sequential
  cases sequential

include unnoticed averages in
theorem settled_prepare {before after : Journal × SolverState S} {driver : Point S}
    (method : before.2.method = .splitting { parameters with driver })
    (prepared : (prepare problem).run before = (.ok (), after)) :
    Settled alike parameters.parallel before after := by
  have ready := ready_of_prepare method prepared
  rw [run_prepare_of_ready ready, run_average ready method] at prepared
  by_cases parallel : parameters.parallel = true
  · rw [if_pos parallel] at prepared
    exact settled_average averages parallel prepared
  · rw [if_neg parallel] at prepared
    cases prepared
    exact ⟨unnoticed.refl _, rfl, fun _ => rfl⟩

theorem mirrors_prepare (sequential : parameters.parallel = false) :
    Mirrors (Abreast alike (Aligned parameters)) (prepare problem) (prepare problem) := by
  have averaged : Mirrors (Abreast alike (Aligned parameters)) (average problem)
      (average problem) := by
    rw [average, DouglasRachford.parameters, bind_assoc]
    refine abreast_read_bind fun left right aligned => ?_
    obtain ⟨_, driver, isLeft, isRight⟩ := aligned
    rw [isLeft, isRight]
    simp only [pure_bind, sequential]
    exact mirrors_pure ()
  refine mirrors_bind (abreast_liftM (problem.respects_mapCount)) fun count => ?_
  exact mirrors_ite (mirrors_bind (abreast_fail _) fun _ => averaged) averaged

include unnoticed averages in
theorem meets_prepare :
    Meets (parameters.parallel = false) (Abreast alike (Aligned parameters))
      (fun left right => Abreast alike (Aligned parameters) left right ∧
        Ready problem parameters.parallel)
      (prepare problem) (prepare problem) := by
  intro left right related
  obtain ⟨driver, isLeft, isRight⟩ := related.2.method
  refine ⟨fun sequential => (mirrors_prepare sequential left right related).1, ?_⟩
  intro value found leftOk rightOk
  rcases leftRan : (prepare problem).run left with ⟨outcome, left'⟩
  rcases rightRan : (prepare problem).run right with ⟨outcome', right'⟩
  rw [leftRan] at leftOk
  rw [rightRan] at rightOk
  cases leftOk
  cases rightOk
  have leftSettled := settled_prepare unnoticed averages isLeft leftRan
  have rightSettled := settled_prepare unnoticed averages isRight rightRan
  have ready := ready_of_prepare isLeft leftRan
  exact ⟨rfl, leftSettled.aligned unnoticed related rightSettled, ready⟩

include unnoticed averages in
theorem meets_prepare_again :
    Meets (parameters.parallel = false)
      (fun left right => Abreast alike (Aligned parameters) left right ∧
        Ready problem parameters.parallel)
      (fun left right => Abreast alike (Aligned parameters) left right ∧
        Ready problem parameters.parallel)
      (prepare problem) (pure ()) := by
  intro left right ⟨related, ready⟩
  obtain ⟨driver, isLeft, _⟩ := related.2.method
  constructor
  · intro sequential
    rw [run_prepare_of_ready ready, run_average ready isLeft, sequential]
    rfl
  · intro value found leftOk _
    rcases leftRan : (prepare problem).run left with ⟨outcome, left'⟩
    rw [leftRan] at leftOk
    cases leftOk
    have settled := settled_prepare unnoticed averages isLeft leftRan
    have stays : Settled alike parameters.parallel right right :=
      ⟨unnoticed.refl _, rfl, fun _ => rfl⟩
    exact ⟨rfl, settled.aligned unnoticed related stays, ready⟩

section Steps

variable (isParameter : parameters.parameter = fun _ => pure parameter)
  (isRelaxation : parameters.relaxation = fun _ => pure relaxation)
  (prox : ∀ parameter point index, (problem.prox parameter point index).Respects alike)
  (reflect : ∀ pivot point, (parameters.reflection.getD problem.manifold.geometry.reflect pivot
    point).Respects alike)

include isParameter isRelaxation in
omit [Scalar S] in
theorem figures_constant [Scalar S] (problem : Problem S) (driver : Point S) (early late : Int) :
    figures problem { parameters with driver } early =
      figures problem { parameters with driver } late := by
  simp only [figures, isParameter, isRelaxation]

include isParameter isRelaxation prox reflect in
theorem respects_figures (driver : Point S) (iteration : Int) :
    (figures problem { parameters with driver } iteration).Respects alike := by
  simp only [figures, isParameter, isRelaxation]
  refine (respects_pure parameter).bind fun parameter => ?_
  refine Respects.bind ?_ fun found => ?_
  · refine (prox parameter driver 0).bind fun firstPoint => ?_
    refine (reflect firstPoint driver).bind fun firstReflection => ?_
    refine (prox parameter firstReflection 1).bind fun secondPoint => ?_
    exact (reflect secondPoint firstReflection).bind fun _ => respects_pure _
  · obtain ⟨point, reflection⟩ := found
    exact (respects_pure relaxation).bind fun _ => respects_pure _

include unnoticed averages in
theorem meets_move
    (geodesic : ∀ start target time,
      (problem.manifold.geometry.shortestGeodesic start target time).Respects alike)
    (left right : SolverState S) (driver : Point S) (found : Point S × Point S × S) :
    Meets (parameters.parallel = false) (Abreast alike (Aligned parameters))
      (Abreast alike (Aligned parameters)) (move problem left { parameters with driver } found)
      (move problem right { parameters with driver } found) := by
  obtain ⟨point, reflection, relaxation⟩ := found
  refine meets_bind (abreast_liftM (geodesic driver reflection relaxation)).meets fun moved => ?_
  refine meets_bind (abreast_update fun _ _ aligned => aligned.driven moved).meets fun _ => ?_
  by_cases parallel : parameters.parallel = true
  · simp only [if_pos parallel]
    exact meets_of_settled unnoticed parallel
      (fun _ _ ran => settled_average averages parallel ran)
      (fun _ _ ran => settled_average averages parallel ran)
  · simp only [if_neg parallel]
    exact (mirrors_bind (mirrors_pure point) fun iterate =>
      abreast_update fun _ _ aligned => aligned.withIterate fun _ => rfl).meets

include unnoticed averages isParameter isRelaxation prox reflect in
theorem meets_step
    (geodesic : ∀ start target time,
      (problem.manifold.geometry.shortestGeodesic start target time).Respects alike)
    (early late : Int) :
    Meets (parameters.parallel = false) (Abreast alike (Aligned parameters))
      (Abreast alike (Aligned parameters)) (step problem early) (step problem late) := by
  intro left right related
  obtain ⟨driver, isLeft, isRight⟩ := related.2.method
  have figured : Mirrors (Abreast alike (Aligned parameters))
      (liftM (figures problem { parameters with driver } early) : Step S _)
      (liftM (figures problem { parameters with driver } early) : Step S _) :=
    abreast_liftM (respects_figures isParameter isRelaxation prox reflect driver early)
  have met := meets_bind figured.meets fun found =>
    meets_move unnoticed averages geodesic left.2 right.2 driver found
  have leftRan : (step problem early).run left =
      (liftM (figures problem { parameters with driver } early) >>=
        move problem left.2 { parameters with driver }).run left := run_step isLeft
  have rightRan : (step problem late).run right =
      (liftM (figures problem { parameters with driver } late) >>=
        move problem right.2 { parameters with driver }).run right := run_step isRight
  rw [figures_constant isParameter isRelaxation problem driver late early] at rightRan
  have ends := met left right related
  rw [← leftRan, ← rightRan] at ends
  exact ends

end Steps

end Moves

end DouglasRachford

end ProximalSplitting

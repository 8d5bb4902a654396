import ProximalSplitting.Proofs.Method.Failure
import ProximalSplitting.Proofs.Purity.Problem

/-!
The cyclic proximal point method as a fold. Every cycle applies each proximal map once, in an order
that is a permutation of all of them, and the key is split as often as an order is drawn. Whatever
order an earlier run left in the state is forgotten.
-/

namespace ProximalSplitting

open Compute Effect Tracked

namespace RandomKey

def advance (key : RandomKey) : Nat → RandomKey
  | 0 => key
  | splits + 1 => (key.advance splits).split.1

theorem sortByDrawing_perm {α : Type} (drawing : RandomKey) (items : List α) :
    (sortByDrawing drawing items).Perm items := by
  have sorted := (List.mergeSort_perm items.zipIdx fun left right =>
    decide (drawing.sortKey left.2 ≤ drawing.sortKey right.2)).map Prod.fst
  rwa [List.zipIdx_map_fst] at sorted

theorem shuffle_perm {α : Type} (rounds : Nat) (key : RandomKey) (items : List α) :
    (shuffle rounds key items).Perm items := by
  induction rounds generalizing key items with
  | zero => exact .refl items
  | succ rounds ih =>
      exact (ih key.split.1 (sortByDrawing key.split.2 items)).trans
        (sortByDrawing_perm key.split.2 items)

theorem permutation_perm (key : RandomKey) (bound : Nat) :
    (key.permutation bound).Perm (List.range bound) :=
  shuffle_perm _ key _

end RandomKey

def SolverState.withMethod {S : Type} (state : SolverState S) (method : Method S) :
    SolverState S :=
  { state with method }

def EvaluationOrder.splits (order : EvaluationOrder) (cycles : Nat) : Nat :=
  match order with
  | linear => 0
  | random => cycles
  | fixedRandom => min cycles 1

namespace CyclicParameters

variable {S : Type} (parameters : CyclicParameters S)

def orderOf (count cycle : Nat) : List Nat :=
  match parameters.evaluationOrder with
  | .linear => List.range count
  | .random => (parameters.key.advance (cycle - 1)).split.2.permutation count
  | .fixedRandom => parameters.key.split.2.permutation count

def after (count cycles : Nat) : CyclicParameters S :=
  { parameters with
    order := if cycles = 0 then none else some (parameters.orderOf count cycles)
    key := parameters.key.advance (parameters.evaluationOrder.splits cycles) }

def withKey (key : RandomKey) : CyclicParameters S := { parameters with key }

variable {parameters}

theorem orderOf_linear (ordered : parameters.evaluationOrder = .linear) (count cycle : Nat) :
    parameters.orderOf count cycle = List.range count := by
  rw [orderOf, ordered]

theorem orderOf_random (ordered : parameters.evaluationOrder = .random) (count done : Nat) :
    parameters.orderOf count (done + 1) =
      (parameters.key.advance done).split.2.permutation count := by
  rw [orderOf, ordered]
  rfl

theorem orderOf_fixedRandom (ordered : parameters.evaluationOrder = .fixedRandom)
    (count cycle : Nat) :
    parameters.orderOf count cycle = parameters.key.split.2.permutation count := by
  rw [orderOf, ordered]

variable (parameters)

theorem orderOf_perm (count cycle : Nat) :
    (parameters.orderOf count cycle).Perm (List.range count) := by
  rw [orderOf]
  cases parameters.evaluationOrder with
  | linear => exact .refl _
  | random => exact RandomKey.permutation_perm _ count
  | fixedRandom => exact RandomKey.permutation_perm _ count

theorem lt_of_mem_orderOf {count cycle position : Nat}
    (member : position ∈ parameters.orderOf count cycle) : position < count :=
  List.mem_range.mp ((parameters.orderOf_perm count cycle).mem_iff.mp member)

end CyclicParameters

namespace CyclicProximalPoint

variable {S : Type}

def arranged (maps : List (ProximalMap S)) (order : List Nat) : List (ProximalMap S) :=
  order.filterMap (maps[·]?)

def cycle (maps : List (ProximalMap S)) (parameters : CyclicParameters S) (number : Nat)
    (point : Point S) : Compute S (Point S) := do
  let parameter ← parameters.parameter number
  (arranged maps (parameters.orderOf maps.length number)).foldlM
    (fun point proximalMap => proximalMap parameter point) point

def cycles (maps : List (ProximalMap S)) (parameters : CyclicParameters S) (count : Nat)
    (point : Point S) : Compute S (Point S) :=
  (List.range' 1 count).foldlM (fun point number => cycle maps parameters number point) point

theorem cycles_succ (maps : List (ProximalMap S)) (parameters : CyclicParameters S) (done : Nat)
    (point : Point S) :
    cycles maps parameters (done + 1) point =
      cycles maps parameters done point >>= cycle maps parameters (done + 1) := by
  rw [cycles, List.range'_1_concat, List.foldlM_append, Nat.add_comm 1 done]
  refine congrArg (cycles maps parameters done point >>= ·) (funext fun reached => ?_)
  rw [List.foldlM_cons]
  exact bind_pure _

theorem map_some_arranged {maps : List (ProximalMap S)} {order : List Nat}
    (inside : ∀ position ∈ order, position < maps.length) :
    (arranged maps order).map some = order.map (maps[·]?) := by
  induction order with
  | nil => rfl
  | cons position rest ih =>
      have bound := inside position List.mem_cons_self
      have found : maps[position]? = some maps[position] := List.getElem?_eq_getElem bound
      rw [arranged, List.filterMap_cons_some found, List.map_cons, List.map_cons, found]
      exact congrArg _ (ih fun other member => inside other (List.mem_cons_of_mem position member))

theorem arranged_range (maps : List (ProximalMap S)) :
    arranged maps (List.range maps.length) = maps := by
  induction maps with
  | nil => rfl
  | cons first rest ih =>
      have isFirst : (first :: rest)[0]? = some first := rfl
      rw [List.length_cons, List.range_succ_eq_map, arranged, List.filterMap_cons_some isFirst,
        List.filterMap_map]
      exact congrArg (first :: ·) ih

theorem arranged_perm (maps : List (ProximalMap S)) (parameters : CyclicParameters S)
    (number : Nat) : (arranged maps (parameters.orderOf maps.length number)).Perm maps := by
  have permuted := (parameters.orderOf_perm maps.length number).filterMap (maps[·]?)
  rw [← arranged, ← arranged, arranged_range] at permuted
  exact permuted

theorem fold_raises {inTurn : List (ProximalMap S)} {parameter : S} {point : Point S}
    {journal after : Journal} {fault : Fault S}
    (failed : (inTurn.foldlM
      (fun point (proximalMap : ProximalMap S) => proximalMap parameter point) point).run journal =
        (Except.error fault, after)) :
    ∃ proximalMap ∈ inTurn, ∃ reached between,
      (proximalMap parameter reached).Raises between fault := by
  induction inTurn generalizing point journal with
  | nil => cases failed
  | cons first rest ih =>
      rw [List.foldlM_cons] at failed
      rcases run_bind_error_iff.mp failed with raised | ⟨reached, between, _, failed⟩
      · exact ⟨first, List.mem_cons_self, point, journal, congrArg Prod.fst raised⟩
      · obtain ⟨proximalMap, member, raised⟩ := ih failed
        exact ⟨proximalMap, List.mem_cons_of_mem first member, raised⟩

theorem cycle_raises {maps : List (ProximalMap S)} {parameters : CyclicParameters S} {number : Nat}
    {point : Point S} {journal after : Journal} {fault : Fault S}
    (failed : (cycle maps parameters number point).run journal = (.error fault, after)) :
    (parameters.parameter number).Raises journal fault ∨
      ∃ proximalMap ∈ maps, ∃ parameter reached between,
        (proximalMap parameter reached).Raises between fault := by
  rcases run_bind_error_iff.mp failed with unscheduled | ⟨parameter, known, _, failed⟩
  · exact .inl (congrArg Prod.fst unscheduled)
  · obtain ⟨proximalMap, member, reached, between, raised⟩ := fold_raises failed
    exact .inr ⟨proximalMap, (arranged_perm maps parameters number).mem_iff.mp member, parameter,
      reached, between, raised⟩

/-- Cycles of pure maps follow one path from a point, whatever else happens between them. -/
theorem cycles_of_path {maps : List (ProximalMap S)} {parameters : CyclicParameters S}
    (pureMaps : ∀ proximalMap ∈ maps, ProximalMap.Pure proximalMap)
    (pureSchedule : Schedule.Pure parameters.parameter) {count : Nat} (path : Nat → Point S)
    (steps : ∀ number, 1 ≤ number → number ≤ count → ∃ journal after,
      (cycle maps parameters number (path (number - 1))).run journal = (.ok (path number), after))
    (journal : Journal) :
    ((cycles maps parameters count (path 0)).run journal).1 = .ok (path count) := by
  have pureCycle : ∀ number point, (cycle maps parameters number point).Pure := fun number point =>
    (pureSchedule number).bind fun parameter => by
      have among : ∀ proximalMap ∈ arranged maps (parameters.orderOf maps.length number),
          ProximalMap.Pure proximalMap := fun proximalMap member =>
        pureMaps proximalMap ((arranged_perm maps parameters number).mem_iff.mp member)
      generalize arranged maps (parameters.orderOf maps.length number) = inTurn at among
      induction inTurn generalizing point with
      | nil => exact pure_pure point
      | cons first rest ih =>
          rw [List.foldlM_cons]
          exact (among first List.mem_cons_self parameter point).bind fun reached =>
            ih reached fun proximalMap member => among proximalMap (List.mem_cons_of_mem first member)
  induction count with
  | zero => rfl
  | succ done ih =>
      have before := ih fun number lower upper => steps number lower (by omega)
      rcases ran : (cycles maps parameters done (path 0)).run journal with ⟨outcome, middle⟩
      rw [ran] at before
      cases before
      -- The cycle was taken on another journal, which makes no difference to its outcome.
      obtain ⟨elsewhere, after, last⟩ := steps (done + 1) (by omega) (Nat.le_refl _)
      rw [cycles_succ, run_bind_of_ok ran, (pureCycle (done + 1) (path done)).outcome middle elsewhere]
      exact congrArg Prod.fst last

section Steps

variable [Scalar S] {problem : Problem S} {collection : MapCollection S} {derived : Bool}
  {parameters : CyclicParameters S} {state : SolverState S} {journal : Journal} {done : Nat}

def takeCycles (problem : Problem S) : Nat → Step S Unit
  | 0 => prepare problem
  | done + 1 => do
      takeCycles problem done
      step problem (done + 1 : Nat)

theorem sweep_eq (collected : problem.collection = some collection) (parameter : S)
    {order : List Nat} (inside : ∀ position ∈ order, position < collection.maps.length)
    (point : Point S) :
    sweep problem parameter order point =
      (arranged collection.maps order).foldlM
        (fun point proximalMap => proximalMap parameter point) point := by
  induction order generalizing point with
  | nil => rfl
  | cons position rest ih =>
      have bound := inside position List.mem_cons_self
      have found : collection.maps[position]? = some collection.maps[position] :=
        List.getElem?_eq_getElem bound
      have split : arranged collection.maps (position :: rest) =
          collection.maps[position] :: arranged collection.maps rest :=
        List.filterMap_cons_some found
      rw [split, sweep, List.foldlM_cons, List.foldlM_cons, Problem.prox_eq collected found]
      refine congrArg (_ >>= ·) (funext fun reached => ?_)
      exact ih (fun other member => inside other (List.mem_cons_of_mem position member)) reached

omit [Scalar S] in
theorem run_parameters {before : Journal × SolverState S} {found : CyclicParameters S}
    (method : before.2.method = .cyclic derived found) :
    (CyclicProximalPoint.parameters : Step S (CyclicParameters S)).run before =
      (.ok found, before) := by
  obtain ⟨journal, iterate, criterion, iterations, _, extras⟩ := before
  cases method
  rfl

omit [Scalar S] in
theorem run_drawOrder (method : state.method = .cyclic derived parameters) (count : Nat) :
    (drawOrder count : Step S (List Nat)).run (journal, state) =
      (.ok (parameters.key.split.2.permutation count),
        (journal, state.withMethod (.cyclic derived (parameters.withKey parameters.key.split.1)))) := by
  have changed : (state.changeCyclic fun found => { found with key := parameters.key.split.1 }) =
      state.withMethod (.cyclic derived (parameters.withKey parameters.key.split.1)) := by
    rw [SolverState.changeCyclic, method]
    rfl
  rw [drawOrder, run_bind_of_ok (run_parameters method), ← changed]
  rfl

theorem visitingOrder_eq (collected : problem.collection = some collection)
    (method : state.method = .cyclic derived parameters) :
    (visitingOrder problem).run (journal, state) =
      (match parameters.evaluationOrder, parameters.order with
        | .linear, _ => (pure (List.range collection.maps.length) : Step S (List Nat))
        | .fixedRandom, some order => pure order
        | _, _ => drawOrder collection.maps.length).run (journal, state) := by
  have counted : problem.mapCount.run journal = (.ok collection.maps.length, journal) := by
    rw [Problem.mapCount, Problem.maps, collected]
    rfl
  rw [visitingOrder]
  refine (run_bind_of_ok (run_liftM_of counted state)).trans ?_
  refine (run_bind_of_ok (run_parameters method)).trans ?_
  rcases parameters.evaluationOrder with _ | _ | _ <;> rcases parameters.order with _ | order <;> rfl

theorem run_visitingOrder (collected : problem.collection = some collection)
    (method : state.method = .cyclic derived (parameters.after collection.maps.length done)) :
    (visitingOrder problem).run (journal, state) =
      (.ok (parameters.orderOf collection.maps.length (done + 1)),
        (journal, state.withMethod (.cyclic derived
          ((parameters.after collection.maps.length done).withKey
            (parameters.key.advance (parameters.evaluationOrder.splits (done + 1))))))) := by
  rw [visitingOrder_eq collected method]
  have sameOrder : (parameters.after collection.maps.length done).evaluationOrder =
      parameters.evaluationOrder := rfl
  have currentKey : (parameters.after collection.maps.length done).key =
      parameters.key.advance (parameters.evaluationOrder.splits done) := rfl
  have currentOrder : (parameters.after collection.maps.length done).order =
      if done = 0 then none else some (parameters.orderOf collection.maps.length done) := rfl
  generalize parameters.after collection.maps.length done = current
    at method sameOrder currentKey currentOrder ⊢
  have unchanged : state.withMethod (.cyclic derived (current.withKey current.key)) = state := by
    change { state with method := .cyclic derived current } = state
    rw [← method]
  cases ordered : parameters.evaluationOrder with
  | linear =>
      rw [ordered] at sameOrder currentKey
      rw [CyclicParameters.orderOf_linear ordered, sameOrder]
      rw [currentKey] at unchanged
      exact congrArg (fun left => (Except.ok _, (journal, left))) unchanged.symm
  | random =>
      rw [ordered] at sameOrder currentKey
      rw [CyclicParameters.orderOf_random ordered, sameOrder]
      refine (run_drawOrder method _).trans ?_
      rw [currentKey]
      rfl
  | fixedRandom =>
      rw [ordered] at sameOrder currentKey
      rw [CyclicParameters.orderOf_fixedRandom ordered, sameOrder]
      cases done with
      | zero =>
          rw [if_pos rfl] at currentOrder
          rw [currentOrder]
          refine (run_drawOrder method _).trans ?_
          rw [currentKey]
          rfl
      | succ done =>
          -- The first cycle drew the order and split the key once and for all.
          have drawnOnce : EvaluationOrder.fixedRandom.splits (done + 1) =
              EvaluationOrder.fixedRandom.splits (done + 1 + 1) := by
            rw [EvaluationOrder.splits, EvaluationOrder.splits]
            omega
          rw [if_neg (Nat.succ_ne_zero done), CyclicParameters.orderOf_fixedRandom ordered]
            at currentOrder
          rw [currentKey, drawnOnce] at unchanged
          rw [currentOrder]
          exact congrArg (fun left => (Except.ok _, (journal, left))) unchanged.symm

omit [Scalar S] in
theorem run_turn (method : state.method = .cyclic derived parameters) (order : List Nat)
    (figure : Compute S (Point S)) (journal : Journal) :
    ∃ left, (setOrder (some order) >>= fun _ => liftM figure >>= fun point =>
        Tracked.update fun state => state.withIterate point : Step S Unit).run (journal, state) =
        ((figure.run journal).1.map fun _ => (), ((figure.run journal).2, left)) ∧
      ∀ point, (figure.run journal).1 = .ok point → left.iterate = point ∧
        left.method = .cyclic derived { parameters with order := some order } := by
  let kept : SolverState S := (state.dropExtra "order").changeCyclic fun parameters =>
    { parameters with order := some order }
  have set : (setOrder (some order)).run (journal, state) = (.ok (), (journal, kept)) := rfl
  have keptMethod : kept.method = .cyclic derived { parameters with order := some order } := by
    simp only [kept, SolverState.changeCyclic, SolverState.dropExtra, method]
  rcases ran : figure.run journal with ⟨outcome, after⟩
  have lifted := run_liftM_of ran kept
  rw [run_bind_of_ok set]
  cases outcome with
  | error fault =>
      rw [run_bind_of_error lifted]
      exact ⟨kept, rfl, fun _ absurdity => by cases absurdity⟩
  | ok point =>
      rw [run_bind_of_ok lifted]
      refine ⟨kept.withIterate point, rfl, fun other same => ?_⟩
      cases same
      exact ⟨rfl, keptMethod⟩

/-- A step is the cycle of its number: it has the same outcome, leaves the same journal, and the
state has the new point and the order and key of the cycle. -/
theorem run_step_cycle (collected : problem.collection = some collection)
    (method : state.method = .cyclic derived (parameters.after collection.maps.length done))
    (journal : Journal) :
    ∃ left, (step problem (done + 1 : Nat)).run (journal, state) =
        (((cycle collection.maps parameters (done + 1) state.iterate).run journal).1.map fun _ => (),
          (((cycle collection.maps parameters (done + 1) state.iterate).run journal).2, left)) ∧
      ∀ point, ((cycle collection.maps parameters (done + 1) state.iterate).run journal).1 =
          .ok point →
        left.iterate = point ∧
          left.method = .cyclic derived (parameters.after collection.maps.length (done + 1)) := by
  have scheduled : state.parameterAt (done + 1 : Nat) = parameters.parameter (done + 1 : Nat) := by
    rw [SolverState.parameterAt, method]
    rfl
  rw [step, run_bind_of_ok (run_read (journal, state)), scheduled]
  rcases asked : (parameters.parameter (done + 1 : Nat)).run journal with ⟨outcome, known⟩
  have lifted := run_liftM_of asked state
  cases outcome with
  | error fault =>
      rw [cycle, run_bind_of_error asked, run_bind_of_error lifted]
      exact ⟨state, rfl, fun _ absurdity => by cases absurdity⟩
  | ok parameter =>
      rw [cycle, run_bind_of_ok asked, run_bind_of_ok lifted,
        run_bind_of_ok (run_visitingOrder collected method)]
      rw [← sweep_eq collected parameter fun _ => parameters.lt_of_mem_orderOf]
      have method : (state.withMethod (.cyclic derived
          ((parameters.after collection.maps.length done).withKey
            (parameters.key.advance (parameters.evaluationOrder.splits (done + 1)))))).method =
          .cyclic derived ((parameters.after collection.maps.length done).withKey
            (parameters.key.advance (parameters.evaluationOrder.splits (done + 1)))) := rfl
      exact run_turn method _ _ known

theorem run_prepare_cycle (problem : Problem S) (method : state.method = .cyclic derived parameters)
    (count : Nat) (journal : Journal) :
    ∃ left, (prepare problem).run (journal, state) = (.ok (), (journal, left)) ∧
      left.iterate = state.iterate ∧ left.method = .cyclic derived (parameters.after count 0) := by
  have splits : parameters.evaluationOrder.splits 0 = 0 := by
    cases parameters.evaluationOrder with
    | _ => rfl
  have key : parameters.key.advance (parameters.evaluationOrder.splits 0) = parameters.key := by
    rw [splits]
    rfl
  refine ⟨(state.dropExtra "order").changeCyclic fun parameters =>
    { parameters with order := none }, rfl, ?_⟩
  simp only [SolverState.changeCyclic, SolverState.dropExtra, method, CyclicParameters.after, key,
    if_true, and_self]

/-- Preparing a state and going through some cycles computes the fold of the cycles, whatever order
and key the state comes with. -/
theorem run_takeCycles (collected : problem.collection = some collection)
    (method : state.method = .cyclic derived parameters) (journal : Journal) (count : Nat) :
    ∃ left, (takeCycles problem count).run (journal, state) =
        (((cycles collection.maps parameters count state.iterate).run journal).1.map fun _ => (),
          (((cycles collection.maps parameters count state.iterate).run journal).2, left)) ∧
      ∀ point, ((cycles collection.maps parameters count state.iterate).run journal).1 =
          .ok point →
        left.iterate = point ∧
          left.method = .cyclic derived (parameters.after collection.maps.length count) := by
  induction count with
  | zero =>
      obtain ⟨left, prepared, point, sameMethod⟩ :=
        run_prepare_cycle problem method collection.maps.length journal
      exact ⟨left, prepared, fun other same => ⟨point.trans (Except.ok.inj same), sameMethod⟩⟩
  | succ done ih =>
      obtain ⟨middle, ran, reached⟩ := ih
      rw [takeCycles, cycles_succ]
      rcases folded : (cycles collection.maps parameters done state.iterate).run journal
        with ⟨outcome, between⟩
      rw [folded] at ran reached
      cases outcome with
      | error fault =>
          rw [run_bind_of_error folded, run_bind_of_error ran]
          exact ⟨middle, rfl, fun _ absurdity => by cases absurdity⟩
      | ok point =>
          obtain ⟨rfl, sameMethod⟩ := reached point rfl
          rw [run_bind_of_ok folded, run_bind_of_ok ran]
          exact run_step_cycle collected sameMethod between

end Steps

end CyclicProximalPoint

end ProximalSplitting

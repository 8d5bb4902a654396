import ProximalSplitting.Solver.Session

/-!
The cyclic proximal point method. Every step applies all proximal maps once, each to the result of
the previous one, in the order of the cycle. All random orders come from one key, which is split for
every order that is drawn.
-/

namespace ProximalSplitting

namespace CyclicProximalPoint

variable {S : Type} [Scalar S]

def parameters : Step S (CyclicParameters S) := do
  match (← Tracked.read).method with
  | .cyclic _ parameters => return parameters
  | _ => Tracked.fail .missingField

def setOrder (order : Option (List Nat)) : Step S Unit :=
  Tracked.update fun state =>
    (state.dropExtra "order").changeCyclic fun parameters => { parameters with order }

def prepare (_ : Problem S) : Step S Unit :=
  setOrder none

def drawOrder (count : Nat) : Step S (List Nat) := do
  let (key, drawing) := (← parameters).key.split
  Tracked.update fun state => state.changeCyclic fun parameters => { parameters with key }
  return drawing.permutation count

def visitingOrder (problem : Problem S) : Step S (List Nat) := do
  let count ← problem.mapCount
  let parameters ← parameters
  match parameters.evaluationOrder, parameters.order with
  | .linear, _ => return List.range count
  | .fixedRandom, some order => return order
  | _, _ => drawOrder count

def sweep (problem : Problem S) (parameter : S) (order : List Nat) (point : Point S) :
    Compute S (Point S) :=
  order.foldlM (fun point (index : Nat) => problem.prox parameter point index) point

def step (problem : Problem S) (iteration : Int) : Step S Unit := do
  let state ← Tracked.read
  let parameter ← state.parameterAt iteration
  let order ← visitingOrder problem
  setOrder (some order)
  let point ← sweep problem parameter order state.iterate
  Tracked.update fun state => state.withIterate point

def standardCriterion : Watch S (Criterion S) := do
  let limit ← Criterion.afterIterations (.integer SolverDefaults.cyclicIterations)
  let change ← Criterion.whenChangeBelow SolverDefaults.cyclicChange
  Criterion.ofMembers .any [limit, change]

def standardParameter : Schedule S := Schedule.inverse Scalar.one

structure Settings (S : Type) where
  criterion : Option (Criterion S) := none
  parameter : Option (Schedule S ⊕ Value S) := none
  order : EvaluationOrder ⊕ Value S := .inl .linear
  key : RandomKey := RandomKey.ofSeed 0
  derived : Bool := false

def start (point : Point S) (settings : Settings S) : Watch S (SolverState S) := do
  let criterion ← match settings.criterion with
    | some criterion => pure criterion
    | none => standardCriterion
  let parameter ← match settings.parameter with
    | some setting => Tracked.compute (Schedule.ofSetting setting)
    | none => pure standardParameter
  let evaluationOrder ← Tracked.compute (EvaluationOrder.ofSetting settings.order)
  return {
    iterate := point
    criterion := some criterion
    method := .cyclic settings.derived { parameter, evaluationOrder, key := settings.key } }

end CyclicProximalPoint

end ProximalSplitting

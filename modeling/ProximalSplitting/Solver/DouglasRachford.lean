import ProximalSplitting.Solver.Session

/-!
Douglas-Rachford splitting for two proximal maps. A step reflects the driver at its first proximal
point and the result at its second one, and moves the driver towards the double reflection. In a
parallel run the problem lives on a power, and the iterate is the mean of the components of the
second proximal point.
-/

namespace ProximalSplitting

namespace DouglasRachford

variable {S : Type} [Scalar S]

def parameters : Step S (SplittingParameters S) := do
  match (← Tracked.read).method with
  | .splitting parameters => return parameters
  | _ => Tracked.fail .missingField

def prepare (problem : Problem S) : Step S Unit := do
  let count ← problem.mapCount
  if count ≠ 2 then Tracked.fail (.needsTwoMaps count)
  let parameters ← parameters
  if parameters.parallel then
    match problem.manifold with
    | .ofGeometry geometry => Tracked.fail (.needsPowerManifold geometry.name)
    | .power _ _ _ =>
        let mean ← problem.manifold.coordinateMean parameters.driver none
        Tracked.update fun state => state.withIterate mean

def doubleReflection (problem : Problem S) (reflect : Reflection S) (parameter : S)
    (driver : Point S) : Compute S (Point S × Point S) := do
  let firstPoint ← problem.prox parameter driver 0
  let firstReflection ← reflect firstPoint driver
  let secondPoint ← problem.prox parameter firstReflection 1
  let secondReflection ← reflect secondPoint firstReflection
  return (secondPoint, secondReflection)

def step (problem : Problem S) (iteration : Int) : Step S Unit := do
  let state ← Tracked.read
  let parameters ← parameters
  let geometry := problem.manifold.geometry
  let parameter ← state.parameterAt iteration
  let (point, reflection) ←
    doubleReflection problem (parameters.reflection.getD geometry.reflect) parameter
      parameters.driver
  let relaxation ← state.relaxationAt iteration
  let driver ← geometry.shortestGeodesic parameters.driver reflection relaxation
  Tracked.update fun state =>
    state.changeSplitting fun parameters => { parameters with driver }
  let iterate ←
    if parameters.parallel then problem.manifold.coordinateMean point (some state.iterate)
    else pure point
  Tracked.update fun state => state.withIterate iterate

def standardCriterion : Watch S (Criterion S) :=
  Criterion.afterIterations (.integer SolverDefaults.splittingIterations)

structure Settings (S : Type) where
  criterion : Option (Criterion S) := none
  parameter : Option (Schedule S ⊕ Value S) := none
  relaxation : Option (Schedule S ⊕ Value S) := none
  reflection : Option (Reflection S) := none
  parallel : Bool := false

def scheduleOr (standard : S) : Option (Schedule S ⊕ Value S) → Except (Fault S) (Schedule S)
  | some setting => Schedule.ofSetting setting
  | none => .ok (Schedule.constant standard)

def start (point : Point S) (settings : Settings S) : Watch S (SolverState S) := do
  let criterion ← match settings.criterion with
    | some criterion => pure criterion
    | none => standardCriterion
  let parameter ←
    Tracked.compute (scheduleOr SolverDefaults.proximalParameter settings.parameter)
  let relaxation ← Tracked.compute (scheduleOr SolverDefaults.relaxation settings.relaxation)
  return {
    iterate := point
    criterion := some criterion
    method := .splitting {
      driver := point
      parameter
      relaxation
      reflection := settings.reflection
      parallel := settings.parallel } }

end DouglasRachford

end ProximalSplitting

import ProximalSplitting.Solver.Configuration
import ProximalSplitting.Solver.Loop

/-!
Minimizing in one call: the problem, the state and the decorators are made from a task and the
settings of the method, then the solver runs. Douglas-Rachford splitting of more than two maps runs
on the power of the manifold with one copy for every map.
-/

namespace ProximalSplitting

structure Task (S : Type) [Scalar S] where
  manifold : Manifold S
  objective : Objective S
  maps : List (ProximalMap S)
  start : Point S

structure Minimizer (S : Type) where
  point : Point S
  state : SolverState S
  decorators : List (Decorator S)

section Minimizing

variable {S : Type} [Scalar S]

def solveWatched (problem : Problem S) (state : SolverState S)
    (watchers : Decorator.Watchers S) : Watch S (Minimizer S) := do
  let decorators ← Decorator.ofWatchers watchers
  let (state, point) ← Run.onState state (solve problem decorators)
  return ⟨point, state, decorators⟩

def CyclicProximalPoint.minimize (task : Task S) (outputCounts : Value S)
    (settings : CyclicProximalPoint.Settings S) (watchers : Decorator.Watchers S) :
    Watch S (Minimizer S) := do
  let problem ← Tracked.compute (Problem.ofMaps task.manifold task.objective task.maps outputCounts)
  let state ← CyclicProximalPoint.start task.start settings
  solveWatched problem state watchers

namespace DouglasRachford

/-- The problem of the parallel method: the maps act on one component each, against the projection
to the diagonal. -/
def parallelProblem (task : Task S) (outer : Manifold S) : Compute S (Problem S) := do
  let componentwise ← ProximalMap.parallel outer task.maps
  Problem.ofMaps outer task.objective [componentwise, ProximalMap.diagonal outer] .null

def minimizePair (task : Task S) (settings : Settings S) (watchers : Decorator.Watchers S) :
    Watch S (Minimizer S) := do
  let problem ← Tracked.compute (Problem.ofMaps task.manifold task.objective task.maps .null)
  let state ← start task.start { settings with parallel := false }
  solveWatched problem state watchers

def minimizeParallel (task : Task S) (settings : Settings S) (watchers : Decorator.Watchers S) :
    Watch S (Minimizer S) := do
  let outer := Manifold.power task.manifold task.maps.length
  let problem ← Tracked.compute (parallelProblem task outer)
  let driver ← Tracked.compute (outer.diagonal task.start)
  let state ← start driver { settings with parallel := true }
  solveWatched problem state watchers

def minimize (task : Task S) (settings : Settings S) (watchers : Decorator.Watchers S) :
    Watch S (Minimizer S) :=
  if task.maps.length < 2 then Tracked.fail (.needsAtLeastTwoMaps task.maps.length)
  else if task.maps.length = 2 then minimizePair task settings watchers
  else minimizeParallel task settings watchers

end DouglasRachford

end Minimizing

end ProximalSplitting

import ProximalSplitting.Bezier
import ProximalSplitting.Compiler
import ProximalSplitting.Compute
import ProximalSplitting.Decimal.Basic
import ProximalSplitting.Decimal.Binary
import ProximalSplitting.Decimal.Reading
import ProximalSplitting.Defaults
import ProximalSplitting.Fault
import ProximalSplitting.Geometry.Basic
import ProximalSplitting.Geometry.Flat
import ProximalSplitting.Geometry.Power
import ProximalSplitting.Geometry.Sphere
import ProximalSplitting.Json.Reading
import ProximalSplitting.Json.Writing
import ProximalSplitting.Manifold
import ProximalSplitting.Objective
import ProximalSplitting.Problem
import ProximalSplitting.Proofs.Effects.Laws
import ProximalSplitting.Proofs.Run.Course
import ProximalSplitting.Proofs.Run.Trajectory
import ProximalSplitting.Proofs.Run.Verdict
import ProximalSplitting.Proofs.Stopping.Formula
import ProximalSplitting.Proofs.Stopping.Test
import ProximalSplitting.Proofs.Watching.Frames
import ProximalSplitting.Proofs.Watching.Glance
import ProximalSplitting.ProximalMap
import ProximalSplitting.Random.Threefry
import ProximalSplitting.Scalar
import ProximalSplitting.Scalar.Double
import ProximalSplitting.Schedule
import ProximalSplitting.Setting
import ProximalSplitting.Solver.Configuration
import ProximalSplitting.Solver.Criterion
import ProximalSplitting.Solver.CyclicProximalPoint
import ProximalSplitting.Solver.Debug
import ProximalSplitting.Solver.DouglasRachford
import ProximalSplitting.Solver.Loop
import ProximalSplitting.Solver.Minimize
import ProximalSplitting.Solver.Observation
import ProximalSplitting.Solver.Record
import ProximalSplitting.Solver.Session
import ProximalSplitting.Solver.State
import ProximalSplitting.Solver.Stopping
import ProximalSplitting.Solver.Workspace
import ProximalSplitting.Tensor.Arithmetic
import ProximalSplitting.Tensor.Basic
import ProximalSplitting.Tensor.Layout
import ProximalSplitting.Text.Condensed
import ProximalSplitting.Text.Quoted
import ProximalSplitting.Tracked
import ProximalSplitting.Value
import ProximalSplitting.Proofs.Effects.Mirrors
import ProximalSplitting.Proofs.Purity.Geometry
import ProximalSplitting.Proofs.Purity.Problem
import ProximalSplitting.Proofs.Method.Alike
import ProximalSplitting.Proofs.Stopping.Agreement
import ProximalSplitting.Proofs.Run.Along
import ProximalSplitting.Proofs.Method.Frames
import ProximalSplitting.Proofs.Run.Paths
import ProximalSplitting.Proofs.Run.Influence
import ProximalSplitting.Proofs.Method.Distances
import ProximalSplitting.Proofs.Method.Failure
import ProximalSplitting.Proofs.Run.Failure
import ProximalSplitting.Proofs.Watching.Agreement
import ProximalSplitting.Proofs.Method.Renewal
import ProximalSplitting.Proofs.Run.Reuse
import ProximalSplitting.Proofs.Run.Sample
import ProximalSplitting.Proofs.Method.Cycle
import ProximalSplitting.Proofs.Run.Sequence
import ProximalSplitting.Proofs.Run.Cycles
import ProximalSplitting.Proofs.Watching.Thinning
import ProximalSplitting.Proofs.Watching.Configuration
import ProximalSplitting.Proofs.Run.Records
import ProximalSplitting.Proofs.Exact.Coordinates
import ProximalSplitting.Proofs.Exact.Flat
import ProximalSplitting.Proofs.Method.Rounds
import ProximalSplitting.Proofs.Run.Coupling
import ProximalSplitting.Proofs.Stopping.Reasons
import ProximalSplitting.Proofs.Run.Bound
import ProximalSplitting.Proofs.Watching.Pace
import ProximalSplitting.Proofs.Stopping.Tree
import ProximalSplitting.Proofs.Stopping.Bound
import ProximalSplitting.Proofs.Watching.Silence
import ProximalSplitting.Proofs.Watching.Finds
import ProximalSplitting.Proofs.Run.Turns
import ProximalSplitting.Proofs.Run.InStep
import ProximalSplitting.Proofs.Run.Thinning
import ProximalSplitting.Proofs.Effects.Outcomes
import ProximalSplitting.Proofs.Exact.Real
import ProximalSplitting.Proofs.Exact.Vectors
import ProximalSplitting.Proofs.Exact.Sphere
import ProximalSplitting.Proofs.Method.Regions
import ProximalSplitting.Proofs.Method.Confinement
import ProximalSplitting.Proofs.Run.Confinement
import ProximalSplitting.Proofs.Run.Sphere
import ProximalSplitting.Proofs.Run.Box
import ProximalSplitting.Proofs.Run.Rule
import ProximalSplitting.Proofs.Curves.Bernstein
import ProximalSplitting.Proofs.Curves.Junctions
import ProximalSplitting.Proofs.Exact.Lines
import ProximalSplitting.Proofs.Exact.Powers
import ProximalSplitting.Proofs.Stopping.Gradient
import ProximalSplitting.Proofs.Stopping.Sharing
import ProximalSplitting.Proofs.Compilation.Histories
import ProximalSplitting.Proofs.Effects.Meeting
import ProximalSplitting.Proofs.Method.Resumption
import ProximalSplitting.Proofs.Run.Capped
import ProximalSplitting.Proofs.Run.Parts
import ProximalSplitting.Proofs.Effects.Matching
import ProximalSplitting.Proofs.Method.Copies
import ProximalSplitting.Proofs.Run.Launch
import ProximalSplitting.Proofs.Run.Copies
import ProximalSplitting.Proofs.Stopping.Settled
import ProximalSplitting.Proofs.Run.Reason
import ProximalSplitting.Proofs.Run.Stationary
import ProximalSplitting.Proofs.Run.Approach
import ProximalSplitting.Proofs.Method.Rearrangement
import ProximalSplitting.Proofs.Run.Rearrangement
import ProximalSplitting.Proofs.Exact.Extended
import ProximalSplitting.Proofs.Curves.Levels
import ProximalSplitting.Proofs.Curves.Selection
import ProximalSplitting.Proofs.Curves.Passage
import ProximalSplitting.Proofs.Curves.Reversal
import ProximalSplitting.Proofs.Curves.Splices
import ProximalSplitting.Proofs.Curves.Tangents
import ProximalSplitting.Proofs.Exact.Lengths
import ProximalSplitting.Proofs.Exact.MidPoints
import ProximalSplitting.Proofs.Proximal.Distances
import ProximalSplitting.Proofs.Proximal.Powers
import ProximalSplitting.Proofs.Stopping.Explanations
import ProximalSplitting.Proofs.Stopping.Nesting
import ProximalSplitting.Proofs.Method.Exchanges
import ProximalSplitting.Proofs.Run.Exchanges
import ProximalSplitting.Proofs.Exact.Angles
import ProximalSplitting.Proofs.Watching.Names
import ProximalSplitting.Proofs.Curves.Positions
import ProximalSplitting.Proofs.Curves.Recursion
import ProximalSplitting.Proofs.Stopping.Firings
import ProximalSplitting.Proofs.Exact.Sums
import ProximalSplitting.Proofs.Proximal.Centers
import ProximalSplitting.Proofs.Proximal.Closure
import ProximalSplitting.Proofs.Proximal.Diagonal

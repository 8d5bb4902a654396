import ProximalSplitting.Proofs.Method.Renewal
import ProximalSplitting.Proofs.Purity.Problem
import ProximalSplitting.Proofs.Run.Course
import ProximalSplitting.Proofs.Stopping.Formula

/-!
A small setting over whole numbers in which runs can be computed: two proximal maps on the line, a
criterion with members of every kind of nesting, and a state of each method.
-/

namespace ProximalSplitting

def wholeRoot (number : Nat) : Nat :=
  ((List.range (number + 1)).filter fun root => root * root ≤ number).length - 1

instance : Scalar Int where
  ofInt := id
  decimal := fun digits places => (digits : Int) / Nat.pow 10 places
  sqrt := fun number => wholeRoot number.toNat
  sin := fun _ => 0
  cos := fun _ => 1
  arctan2 := fun _ _ => 0
  power := fun base exponent => Int.pow base exponent.toNat
  less := fun left right => left < right
  atMost := fun left right => left ≤ right
  isNumber := fun _ => true
  isFinite := fun _ => true
  ceiling := id
  truncate := id
  text := toString
  brief := toString
  fixed := fun _ => toString
  ofText? := String.toInt?

namespace Sample

def mark (entry : Int) : Point Int := .stack [.scalar entry]

def line : Manifold Int := .ofGeometry (euclidean [1])

def problemOf (maps : List (ProximalMap Int)) : Problem Int where
  manifold := line
  objective := .total
  collection := some ⟨maps, maps.map fun _ => 1⟩

def problem : Problem Int := problemOf [.constant (mark 5), .shift (mark 1)]

def worn (allowed : Nat) : Problem Int := problemOf [.constant (mark 5), .refusing 0 allowed]

def criterion : Criterion Int :=
  .set 5 .any [.single 0 (.iterations (.integer 4)),
    .set 4 .all [.single 1 (.change 2), .single 2 (.cost 8), .single 3 (.elapsed 0)]]

def decorators : List (Decorator Int) :=
  [.debug [("all", .every 2 true (.change 0 "change: ")), ("stop", .reason)],
    .record (.column 1 "iterate" .iterate), .observer "seen"]

def state : SolverState Int where
  iterate := mark 0
  criterion := some criterion
  method := .cyclic false
    { parameter := fun iteration => pure iteration, evaluationOrder := .linear, key := ⟨0, 7⟩ }

def recipe : Recipe Int := .cyclic {
  criterion := some criterion
  parameter := some (.inl fun iteration => pure iteration)
  key := ⟨0, 7⟩ }

def workspace : Workspace Int where
  clock := 0
  passage := fun _ shown => shown + 1
  criteria := List.replicate 6 ⟨"", none, 0⟩
  actions := List.replicate 2 {}

def course : Course Int := ⟨problem, .cyclicProximalPoint, criterion, decorators⟩

def memory : Memory Int := ({ counters := [0] }, ⟨workspace, state⟩)

theorem fits : course.Fits memory.2.state := ⟨rfl, rfl⟩

theorem separate : criterion.Separate workspace where
  distinct := by decide
  allocated := by
    intro leaf member
    simp only [criterion, Criterion.leaves, Criterion.leavesOfAll, List.append_nil,
      List.cons_append, List.nil_append, List.mem_cons, List.not_mem_nil, or_false] at member
    rcases member with rfl | rfl | rfl | rfl
    all_goals decide

theorem pure_problem : problem.Pure where
  manifold := euclidean_pure [1]
  cost := fun point => Compute.pure_pure point.sum
  grad := fun point =>
    (Compute.pure_pure (point.map fun _ => Scalar.one)).bind fun derivative =>
      (euclidean_pure [1]).proj point derivative
  prox := Problem.pure_prox rfl fun proximalMap member => by
    simp only [List.mem_cons, List.not_mem_nil, or_false] at member
    rcases member with rfl | rfl
    · exact fun _ _ => Compute.pure_pure (mark 5)
    · exact fun parameter point => Tensor.pure_plus point ((mark 1).scale parameter)

theorem pure_method : state.method.Pure where
  parameter := by
    intro schedule given
    cases given
    exact fun iteration => Compute.pure_pure iteration
  relaxation := fun _ given => nomatch given
  reflection := fun _ _ given => nomatch given

end Sample

end ProximalSplitting

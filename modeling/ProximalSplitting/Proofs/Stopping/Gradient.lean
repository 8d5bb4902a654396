import ProximalSplitting.Proofs.Exact.Sphere
import ProximalSplitting.Proofs.Run.Sample
import ProximalSplitting.Proofs.Stopping.Slices
import ProximalSplitting.Proofs.Stopping.Test

/-!
The test of the gradient in Douglas-Rachford splitting. In the parallel method the iterate is a
point of the base, but a gradient is projected as if it stood at a point of the power: the power
takes slices of it, one for every copy. So the test measures as many slices of the gradient as there
are copies, the last one again where the slices run out.
-/

namespace ProximalSplitting

open Compute Tensor

variable {S : Type} {shape inner counts : List Nat} {extent copies : Nat}

section Building

variable [Scalar S] {strictness : Strictness} {space : Manifold S}

theorem gives_of_euclideanOn (built : Manifold.euclideanOn strictness shape = .ok space)
    (point vector : Point S) :
    (space.geometry.proj point vector).Gives vector ∧
      (space.geometry.inner point vector vector).Gives (vector.map Scalar.square).sum := by
  obtain ⟨_, _, _, _, _, _, rfl⟩ := built_of_euclidean built
  have product : (vector.times vector).Gives (vector.map Scalar.square) := by
    rw [times, combine, combine?, if_pos rfl, zipWith_self]
    exact gives_pure _
  have dot : (vector.dot vector).Gives (vector.map Scalar.square).sum :=
    product.bind (gives_pure _)
  exact ⟨(gives_pure vector).compiledAs _, dot.compiledAs _⟩

end Building

namespace Problem

variable [Scalar S]

def slope (problem : Problem S) : VectorField S :=
  problem.euclideanGradient.getD problem.objective.derivative

theorem grad_eq {problem : Problem S} (unknown : problem.gradient = none) (point : Point S) :
    problem.grad point = problem.slope point >>= problem.manifold.geometry.proj point := by
  rw [grad, unknown]
  rfl

end Problem

namespace Criterion

variable [Scalar S]

/-- How far the iterate is from being critical: the length of the Riemannian gradient on the
manifold that the iterate lives on. -/
def criticality (problem : Problem S) (state : SolverState S) : Compute S S := do
  let manifold ← state.manifoldOf problem
  let gradient ← problem.slope state.iterate >>= manifold.geometry.proj state.iterate
  manifold.geometry.norm state.iterate gradient

def answerBelow (tolerance : S) (measured : Except (Fault S) S) : Except (Fault S) Bool :=
  measured.map fun length => Scalar.less length tolerance

variable {problem : Problem S} {state : SolverState S} {iteration : Int}

theorem run_gradientNorm (later : iteration ≠ 0) (number : Nat) (tolerance : S)
    (before : Journal × Workspace S) :
    ((check problem state (.single number (.gradientNorm tolerance)) iteration).run before).1 =
      answerBelow tolerance ((measureGradient problem state).run before.1).1 := by
  rw [check, run_checkTest problem state number (.gradientNorm tolerance) later before.1 before.2,
    StoppingTest.judge]
  rcases measured : (measureGradient problem state).run before.1 with ⟨outcome, after⟩
  cases outcome with
  | error _ =>
      rw [Effect.run_bind_of_error measured]
      rfl
  | ok _ =>
      rw [Effect.run_bind_of_ok measured]
      rfl

/-- Outside the parallel method the test measures what it should. -/
theorem measureGradient_eq {parameters : SplittingParameters S}
    (splitting : state.method = .splitting parameters) (unknown : problem.gradient = none)
    (unset : state.gradient? = none) (alone : parameters.parallel = false) :
    measureGradient problem state = criticality problem state := by
  have lives : state.manifoldOf problem = pure problem.manifold := by
    simp [SolverState.manifoldOf, splitting, alone]
  rw [measureGradient, unset, criticality, lives]
  simp only [Problem.grad_eq unknown, pure_bind]

end Criterion

structure ParallelAt [Scalar S] (problem : Problem S) (state : SolverState S) (base : Manifold S)
    (copies : Nat) (shape : List Nat) (slope : Point S) : Prop where
  method : ∃ parameters, state.method = .splitting parameters ∧ parameters.parallel = true
  unknown : problem.gradient = none
  unset : state.gradient? = none
  built : ∃ strictness,
    Manifold.powerOf strictness (.inl base) (.integer copies) = .ok problem.manifold
  iterate : state.iterate.hasShape shape = true
  sloped : (problem.slope state.iterate).Gives slope
  shaped : slope.hasShape shape = true

namespace ParallelAt

variable [Scalar S] {problem : Problem S} {state : SolverState S} {base : Manifold S}
  {slope : Point S} (at_ : ParallelAt problem state base copies shape slope)
include at_

theorem manifold_eq : 0 < copies ∧ problem.manifold = .power base copies (.integer copies) := by
  obtain ⟨strictness, built⟩ := at_.built
  rw [Manifold.powerOf_integer] at built
  by_cases none : copies = 0
  · rw [if_pos none] at built
    cases built
  · rw [if_neg none, Except.ok.injEq] at built
    exact ⟨by omega, built.symm⟩

theorem gives_manifoldOf : (state.manifoldOf problem).Gives base := by
  obtain ⟨parameters, splitting, parallel⟩ := at_.method
  have lives : state.manifoldOf problem = do return (← problem.manifold.asPower).1 := by
    simp [SolverState.manifoldOf, splitting, parallel]
  rw [lives, at_.manifold_eq.2]
  exact gives_pure base

theorem measureGradient_bind :
    Criterion.measureGradient problem state =
      problem.slope state.iterate >>= problem.manifold.geometry.proj state.iterate >>=
        fun gradient => state.manifoldOf problem >>= fun manifold =>
          manifold.geometry.norm state.iterate gradient := by
  rw [Criterion.measureGradient, at_.unset]
  simp only [Problem.grad_eq at_.unknown]

omit at_ in
/-- Where the slices of the iterate are numbers that cannot be projected, nothing is measured. -/
theorem measureGradient_fails (at_ : ParallelAt problem state base copies shape slope)
    {space : Manifold S} {levels : List Nat} (isTower : problem.manifold = space.tower levels)
    (some : ∀ count ∈ levels, 0 < count) (positive : ∀ extent ∈ shape, 0 < extent)
    (same : levels.length = shape.length) {fault : Fault S}
    (refused : ∀ left right : S,
      (space.geometry.proj (.scalar left) (.scalar right)).Ensures (· = fault) fun _ => False) :
    (Criterion.measureGradient problem state).Ensures (· = fault) fun _ => False := by
  have projected : (problem.manifold.geometry.proj state.iterate slope).Ensures (· = fault)
      fun _ => False := by
    rw [isTower]
    refine Manifold.proj_tower_fails some ⟨same.le, positive, at_.iterate⟩
      ⟨same.le, positive, at_.shaped⟩ fun point vector pointShaped vectorShaped => ?_
    rw [same, List.drop_length] at pointShaped vectorShaped
    cases point with
    | stack _ => simp [hasShape] at pointShaped
    | scalar left =>
        cases vector with
        | stack _ => simp [hasShape] at vectorShaped
        | scalar right => exact refused left right
  rw [at_.measureGradient_bind]
  exact (at_.sloped.bind_ensures projected).bind fun _ impossible => impossible.elim

section Nested

variable {space : Manifold S} {strictness : Strictness}

theorem manifold_tower (nested : Manifold.powersOf strictness space counts = .ok base) :
    base = space.tower counts ∧ problem.manifold = space.tower (copies :: counts) ∧
      ∀ count ∈ copies :: counts, 0 < count := by
  obtain ⟨some, isPower⟩ := at_.manifold_eq
  obtain ⟨rfl, countsPositive⟩ := Manifold.powersOf_eq nested
  exact ⟨rfl, isPower, List.forall_mem_cons.mpr ⟨some, countsPositive⟩⟩

omit at_ in
/-- What the test should measure on a flat base is the length of the slope. -/
theorem gives_criticality
    (at_ : ParallelAt problem state base copies (counts ++ shape) slope)
    (nested : Manifold.powersOf strictness space counts = .ok base)
    (flat : Manifold.euclideanOn strictness shape = .ok space) :
    (Criterion.criticality problem state).Gives (Power.nestedLength counts slope) := by
  obtain ⟨isTower, _, some⟩ := at_.manifold_tower nested
  have positive : ∀ extent ∈ counts ++ shape, 0 < extent :=
    List.forall_mem_append.mpr ⟨(List.forall_mem_cons.mp some).2, positive_of_euclidean flat⟩
  have enough : counts.length ≤ (counts ++ shape).length := by simp
  have sloped : Power.Slices counts (counts ++ shape) slope := ⟨enough, positive, at_.shaped⟩
  have stands : Power.Slices counts (counts ++ shape) state.iterate :=
    ⟨enough, positive, at_.iterate⟩
  have projected := Manifold.gives_proj_tower (fun point vector => (gives_of_euclideanOn flat point
    vector).1) (List.forall_mem_cons.mp some).2 stands sloped
  have measured := Manifold.gives_inner_tower (fun point vector => (gives_of_euclideanOn flat point
    vector).2) stands sloped
  rw [← isTower] at projected measured
  rw [sloped.sliced_eq] at projected
  exact at_.gives_manifoldOf.bind ((at_.sloped.bind projected).bind (measured.bind (gives_pure _)))

omit at_ in
/-- What it does measure is the length of as many slices as there are copies, and so on inside. -/
theorem gives_measureGradient
    (at_ : ParallelAt problem state base copies (counts ++ extent :: inner) slope)
    (nested : Manifold.powersOf strictness space counts = .ok base)
    (flat : Manifold.euclideanOn strictness (extent :: inner) = .ok space) :
    (Criterion.measureGradient problem state).Gives
      (Power.nestedLength counts (Power.sliced (copies :: counts) slope)) := by
  obtain ⟨isTower, isPower, some⟩ := at_.manifold_tower nested
  have positive : ∀ size ∈ counts ++ extent :: inner, 0 < size :=
    List.forall_mem_append.mpr ⟨(List.forall_mem_cons.mp some).2, positive_of_euclidean flat⟩
  have deep : (copies :: counts).length ≤ (counts ++ extent :: inner).length := by simp
  have sloped : Power.Slices (copies :: counts) (counts ++ extent :: inner) slope :=
    ⟨deep, positive, at_.shaped⟩
  -- The power takes the iterate, a point of its base, for one of its own and asks for slices of it.
  have projected := Manifold.gives_proj_tower (fun point vector => (gives_of_euclideanOn flat point
    vector).1) some ⟨deep, positive, at_.iterate⟩ sloped
  have resliced : Power.Slices counts _ (Power.sliced (copies :: counts) slope) :=
    ⟨by simp; omega, sloped.positive_sliced some, sloped.hasShape_sliced⟩
  have measured := Manifold.gives_inner_tower (fun point vector => (gives_of_euclideanOn flat point
    vector).2) ⟨Nat.le_of_succ_le deep, positive, at_.iterate⟩ resliced
  rw [← isPower] at projected
  rw [← isTower] at measured
  rw [at_.measureGradient_bind]
  exact (at_.sloped.bind projected).bind
    (at_.gives_manifoldOf.bind (measured.bind (gives_pure _)))

omit at_ in
/-- Every copy asks for one slice more than a point of the base has. -/
theorem measureGradient_number (at_ : ParallelAt problem state base copies counts slope)
    (nested : Manifold.powersOf strictness space counts = .ok base) :
    (Criterion.measureGradient problem state).Ensures (· = .outsideList) fun _ => False := by
  obtain ⟨_, isPower, some⟩ := at_.manifold_tower nested
  have countsPositive := (List.forall_mem_cons.mp some).2
  obtain ⟨outer, last, split⟩ : ∃ outer last, copies :: counts = outer ++ [last] :=
    ⟨_, _, (List.dropLast_append_getLast (List.cons_ne_nil copies counts)).symm⟩
  have same : outer.length = counts.length := by
    have lengths := congrArg List.length split
    simpa using lengths.symm
  rw [split] at isPower some
  obtain ⟨outerPositive, lastPositive⟩ := List.forall_mem_append.mp some
  have inner : problem.manifold = (Manifold.power space last (.integer last)).tower outer := by
    rw [isPower, Manifold.tower, List.foldr_append]
    rfl
  refine at_.measureGradient_fails inner outerPositive countsPositive same fun left right => ?_
  exact Power.each_fails (lastPositive last (List.mem_singleton_self last)) fun _ _ => rfl

omit at_ in
/-- The slices of a point of a sphere are numbers, and no sphere has points that are numbers. -/
theorem measureGradient_sphere {dimension : Nat}
    (at_ : ParallelAt problem state base copies (counts ++ [dimension + 1]) slope)
    (nested : Manifold.powersOf strictness space counts = .ok base)
    (round : Manifold.sphereOf strictness (.integer dimension) = .ok space) :
    (Criterion.measureGradient problem state).Ensures (· = .invalidValue) fun _ => False := by
  obtain ⟨_, isPower, some⟩ := at_.manifold_tower nested
  have positive : ∀ extent ∈ counts ++ [dimension + 1], 0 < extent :=
    List.forall_mem_append.mpr ⟨(List.forall_mem_cons.mp some).2, by simp⟩
  refine at_.measureGradient_fails isPower some positive (by simp) fun left right => ?_
  obtain ⟨_, _, _, _, _, _, rfl⟩ := built_of_sphere round
  exact fun _ => rfl

end Nested

end ParallelAt

namespace Criterion

variable [Scalar S] {problem : Problem S} {state : SolverState S} {iteration : Int}

def gradientOutcome (problem : Problem S) (state : SolverState S) (iteration : Int) (number : Nat)
    (tolerance : S) (before : Journal × Workspace S) : Except (Fault S) Bool :=
  ((check problem state (.single number (.gradientNorm tolerance)) iteration).run before).1

theorem gradientOutcome_of_gives (later : 1 ≤ iteration) {number : Nat} {tolerance length : S}
    {before : Journal × Workspace S} (measured : (measureGradient problem state).Gives length) :
    gradientOutcome problem state iteration number tolerance before =
      .ok (Scalar.less length tolerance) := by
  obtain ⟨after, ran⟩ := measured before.1
  rw [gradientOutcome, run_gradientNorm (by omega), ran]
  rfl

theorem gradientOutcome_of_fails (later : 1 ≤ iteration) {number : Nat} {tolerance : S}
    {before : Journal × Workspace S} {fault : Fault S}
    (fails : (measureGradient problem state).Ensures (· = fault) fun _ => False) :
    gradientOutcome problem state iteration number tolerance before = .error fault := by
  rcases ran : (measureGradient problem state).run before.1 with ⟨outcome, after⟩
  rw [gradientOutcome, run_gradientNorm (by omega), ran]
  rcases fails.cases ran with ⟨_, rfl, rfl⟩ | ⟨_, _, impossible⟩
  · rfl
  · exact impossible.elim

/-- A test of the gradient in Douglas-Rachford splitting holds exactly if the iterate is critical up
to the tolerance, but not in the parallel method. There, on a flat base of arrays, this is so if
there are as many copies as slices; otherwise too few slices are measured, or the last one several
times. On the base of numbers, and on a sphere, the test fails. A base that is itself a power of such
a space, or a power of a power and so on, goes wrong in the same way, on every level once. -/
theorem gradientOutcome_of_splitting (later : 1 ≤ iteration) (number : Nat) (tolerance : S)
    (before : Journal × Workspace S) :
    (∀ parameters, state.method = .splitting parameters → parameters.parallel = false →
      problem.gradient = none → state.gradient? = none →
      gradientOutcome problem state iteration number tolerance before =
        answerBelow tolerance ((criticality problem state).run before.1).1) ∧
    (∀ base copies extent inner slope strictness,
      ParallelAt problem state base copies (extent :: inner) slope →
      Manifold.euclideanOn strictness (extent :: inner) = .ok base →
      (criticality problem state).Gives slope.length ∧
        gradientOutcome problem state iteration number tolerance before =
          .ok (Scalar.less (Power.resliced copies slope).length tolerance) ∧
        (copies = extent → Power.resliced copies slope = slope)) ∧
    (∀ base copies slope strictness, ParallelAt problem state base copies [] slope →
      Manifold.euclideanOn strictness [] = .ok base →
      (criticality problem state).Gives slope.length ∧
        gradientOutcome problem state iteration number tolerance before = .error .outsideList) ∧
    (∀ base copies dimension slope strictness,
      ParallelAt problem state base copies [dimension + 1] slope →
      Manifold.sphereOf strictness (.integer dimension) = .ok base →
      gradientOutcome problem state iteration number tolerance before = .error .invalidValue) ∧
    (∀ (space base : Manifold S) (counts : List Nat) copies slope strictness,
      Manifold.powersOf strictness space counts = .ok base →
      (∀ extent inner, ParallelAt problem state base copies (counts ++ extent :: inner) slope →
        Manifold.euclideanOn strictness (extent :: inner) = .ok space →
        (criticality problem state).Gives (Power.nestedLength counts slope) ∧
          gradientOutcome problem state iteration number tolerance before = .ok (Scalar.less
            (Power.nestedLength counts (Power.sliced (copies :: counts) slope)) tolerance) ∧
          (copies :: counts = counts ++ [extent] →
            Power.sliced (copies :: counts) slope = slope)) ∧
      (ParallelAt problem state base copies counts slope →
        Manifold.euclideanOn strictness [] = .ok space →
        (criticality problem state).Gives (Power.nestedLength counts slope) ∧
          gradientOutcome problem state iteration number tolerance before = .error .outsideList) ∧
      ∀ dimension : Nat, ParallelAt problem state base copies (counts ++ [dimension + 1]) slope →
        Manifold.sphereOf strictness (.integer dimension) = .ok space →
        gradientOutcome problem state iteration number tolerance before =
          .error .invalidValue) := by
  refine ⟨?classical, ?arrays, ?numbers, ?spheres, fun space base counts copies slope strictness
    nested => ⟨?nestedArrays, ?nestedNumbers, ?nestedSpheres⟩⟩
  case classical =>
    intro parameters splitting alone unknown unset
    rw [gradientOutcome, run_gradientNorm (by omega),
      measureGradient_eq splitting unknown unset alone]
  -- A base that is no power is the power of itself without any numbers of copies.
  case arrays =>
    intro base copies extent inner slope strictness parallel flat
    have alone : Manifold.powersOf strictness base [] = .ok base := rfl
    have plain : ParallelAt problem state base copies ([] ++ extent :: inner) slope := parallel
    refine ⟨plain.gives_criticality alone flat,
      gradientOutcome_of_gives later (plain.gives_measureGradient alone flat), ?_⟩
    rintro rfl
    exact Power.resliced_self parallel.shaped
  case numbers =>
    intro base copies slope strictness parallel flat
    have alone : Manifold.powersOf strictness base [] = .ok base := rfl
    have plain : ParallelAt problem state base copies ([] ++ []) slope := parallel
    exact ⟨plain.gives_criticality alone flat,
      gradientOutcome_of_fails later (parallel.measureGradient_number alone)⟩
  case spheres =>
    intro base copies dimension slope strictness parallel round
    have alone : Manifold.powersOf strictness base [] = .ok base := rfl
    have plain : ParallelAt problem state base copies ([] ++ [dimension + 1]) slope := parallel
    exact gradientOutcome_of_fails later (plain.measureGradient_sphere alone round)
  case nestedArrays =>
    intro extent inner parallel flat
    refine ⟨parallel.gives_criticality nested flat,
      gradientOutcome_of_gives later (parallel.gives_measureGradient nested flat), fun even => ?_⟩
    have positive := List.forall_mem_append.mpr
      ⟨(Manifold.powersOf_eq nested).2, positive_of_euclidean flat⟩
    have levels : counts ++ extent :: inner = (copies :: counts) ++ inner := by simp [even]
    have shaped := parallel.shaped
    rw [levels] at positive shaped
    exact Power.Slices.sliced_eq ⟨by simp, positive, shaped⟩
  case nestedNumbers =>
    intro parallel flat
    have plain : ParallelAt problem state base copies (counts ++ []) slope := by
      rwa [List.append_nil]
    exact ⟨plain.gives_criticality nested flat,
      gradientOutcome_of_fails later (parallel.measureGradient_number nested)⟩
  case nestedSpheres =>
    intro dimension parallel round
    exact gradientOutcome_of_fails later (parallel.measureGradient_sphere nested round)

end Criterion

namespace Sample

def steepPoint : Point Int := .stack [.scalar 0, .scalar 0, .scalar 0, .scalar 5]

def rows : Manifold Int :=
  match Manifold.euclideanOn .strict [4] with
  | .ok base => base
  | .error _ => line

def steepProblem : Problem Int where
  manifold := .power rows 3
  objective := .square (.scalar 0)

def steepState (parallel : Bool) : SolverState Int where
  iterate := steepPoint
  criterion := some (.single 0 (.gradientNorm 1))
  method := .splitting
    { driver := .stack [steepPoint, steepPoint, steepPoint], parameter := fun _ => pure 1,
      relaxation := fun _ => pure 1, reflection := none, parallel := parallel }

theorem parallelAt_steep : ParallelAt steepProblem (steepState true) rows 3 [4] steepPoint where
  method := ⟨_, rfl, rfl⟩
  unknown := rfl
  unset := rfl
  built := ⟨.strict, rfl⟩
  iterate := rfl
  sloped := fun _ => ⟨_, rfl⟩
  shaped := rfl

/-- Three copies and four slices: the only slice that is not zero is left out. -/
theorem steep_gradientOutcome_too_early :
    ParallelAt steepProblem (steepState true) rows 3 [4] steepPoint ∧
      Manifold.euclideanOn .strict [4] = .ok rows ∧
      Criterion.gradientOutcome steepProblem (steepState true) 1 0 1 ({}, workspace) = .ok true ∧
      Criterion.answerBelow 1
        ((Criterion.criticality steepProblem (steepState true)).run {}).1 = .ok false :=
  ⟨parallelAt_steep, rfl, rfl, rfl⟩

theorem steep_gradientOutcome_of_splitting :
    (1 : Int) ≤ 1 ∧ ParallelAt steepProblem (steepState true) rows 3 [4] steepPoint ∧
      Criterion.gradientOutcome steepProblem (steepState true) 1 0 1 ({}, workspace) =
        .ok (Scalar.less (Power.resliced 3 steepPoint).length 1) ∧
      Criterion.gradientOutcome { steepProblem with manifold := rows } (steepState false) 1 0 1
        ({}, workspace) = Criterion.answerBelow 1 ((Criterion.criticality
          { steepProblem with manifold := rows } (steepState false)).run {}).1 := by
  refine ⟨le_rfl, parallelAt_steep, ?_, ?_⟩
  · exact ((Criterion.gradientOutcome_of_splitting le_rfl 0 1 ({}, workspace)).2.1 rows 3 4 []
      steepPoint .strict parallelAt_steep rfl).2.1
  · exact (Criterion.gradientOutcome_of_splitting le_rfl 0 1 ({}, workspace)).1 _ rfl rfl rfl rfl

end Sample

end ProximalSplitting

import ProximalSplitting.Proofs.Method.Confinement
import ProximalSplitting.Proofs.Method.Rounds

/-!
Douglas-Rachford splitting of two functions on flat space in its classical form. The second map is
asked at the reflection of the driver at its first proximal point, and the driver moves by twice the
relaxation times the way from the first proximal point to the second one. So it rests exactly where
both proximal points meet.
-/

namespace ProximalSplitting

open Compute Effect Tracked Tensor

variable {S : Type} [ExactScalar S]

namespace DouglasRachford

structure Exchange (shape : List Nat) (first second : ProximalMap S) (value factor : S)
    (driver near far next : Point S) : Prop where
  isNear : (first value driver).Yields near
  isFar : ∃ mirror : Point S, mirror.hasShape shape = true ∧
    mirror.coordinates = (2 : S) • near.coordinates - driver.coordinates ∧
    (second value mirror).Yields far
  moves : next.coordinates =
    driver.coordinates + (2 * factor) • (far.coordinates - near.coordinates)
  nearShaped : near.hasShape shape = true
  farShaped : far.hasShape shape = true
  nextShaped : next.hasShape shape = true

inductive Interrupts (shape : List Nat) (first second : ProximalMap S)
    (parameter relaxation : Schedule S) (number : Int) (driver : Point S) (fault : Fault S) : Prop
  | parameter (fails : parameter.Fails number fault)
  | relaxation (fails : relaxation.Fails number fault)
  | first {value} (chosen : (parameter number).Yields value)
      (raises : ∃ journal, (first value driver).Raises journal fault)
  | second {value near mirror} (chosen : (parameter number).Yields value)
      (yields : (first value driver).Yields near) (shaped : mirror.hasShape shape = true)
      (reflects : mirror.coordinates = (2 : S) • near.coordinates - driver.coordinates)
      (raises : ∃ journal, (second value mirror).Raises journal fault)

section Resting

variable {shape : List Nat} {first second : ProximalMap S} {value factor : S}
  {driver near far next : Point S}
  (exchange : Exchange shape first second value factor driver near far next)
include exchange

theorem Exchange.rests_of_meet (shaped : driver.hasShape shape = true) (meet : far = near) :
    next = driver := by
  refine eq_of_coordinates exchange.nextShaped shaped ?_
  rw [exchange.moves, meet, sub_self, smul_zero, add_zero]

theorem Exchange.meet_of_rests (moving : factor ≠ 0) (rests : next = driver) : far = near := by
  refine eq_of_coordinates exchange.farShaped exchange.nearShaped ?_
  have unmoved : (2 * factor) • (far.coordinates - near.coordinates) = 0 := by
    have moves := exchange.moves
    rw [rests] at moves
    exact left_eq_add.mp moves
  have scales : 2 * factor ≠ 0 := mul_ne_zero two_ne_zero moving
  exact sub_eq_zero.mp ((smul_eq_zero.mp unmoved).resolve_left scales)

end Resting

section Step

variable {problem : Problem S} {shape : List Nat} {first second : ProximalMap S}
  {counts : List Int} {parameters : SplittingParameters S} {number : Int}
  (straight : problem.manifold.geometry.Straight) (positive : ∀ extent ∈ shape, 0 < extent)
  (collected : problem.collection = some ⟨[first, second], counts⟩)
  (keeps : KeepShape [first, second] shape) (standard : parameters.reflection = none)
  (shaped : parameters.driver.hasShape shape = true)
include straight positive collected keeps standard shaped

theorem ensures_exchange_figures :
    (figures problem parameters number).Ensures
      (Interrupts shape first second parameters.parameter parameters.relaxation number
        parameters.driver)
      fun found => ∃ value near far factor,
        found = (far, Flat.mirrored far (Flat.mirrored near parameters.driver), factor) ∧
        (parameters.parameter number).Yields value ∧ (parameters.relaxation number).Yields factor ∧
        (first value parameters.driver).Yields near ∧ near.hasShape shape = true ∧
        (second value (Flat.mirrored near parameters.driver)).Yields far ∧
        far.hasShape shape = true := by
  have firstProx : ∀ value point, problem.prox value point 0 = first value point :=
    @Problem.prox_eq _ _ problem _ collected 0 _ rfl
  have secondProx : ∀ value point, problem.prox value point 1 = second value point :=
    @Problem.prox_eq _ _ problem _ collected 1 _ rfl
  refine ((parameters.parameter.ensures_yields number).mono (fun _ => .parameter) fun _ => id).bind
    fun value chosen => ?_
  have reflected : (doubleReflection problem (parameters.reflection.getD
      problem.manifold.geometry.reflect) value parameters.driver).Ensures
        (Interrupts shape first second parameters.parameter parameters.relaxation number
          parameters.driver)
        fun points => ∃ near far,
          points = (far, Flat.mirrored far (Flat.mirrored near parameters.driver)) ∧
          (first value parameters.driver).Yields near ∧ near.hasShape shape = true ∧
          (second value (Flat.mirrored near parameters.driver)).Yields far ∧
          far.hasShape shape = true := by
    rw [doubleReflection, standard, Option.getD_none, firstProx]
    refine ((ensures_self (first value parameters.driver)).mono
      (fun _ => .first chosen) fun _ => id).bind fun near isNear => ?_
    have nearShaped := keeps first (by simp) value _ near shaped isNear
    refine (straight.gives_mirrored positive nearShaped shaped).bind_ensures ?_
    have mirrorShaped := Flat.hasShape_mirrored nearShaped shaped
    rw [secondProx]
    refine ((ensures_self (second value (Flat.mirrored near parameters.driver))).mono
      (fun _ => .second chosen isNear mirrorShaped
        (Flat.coordinates_mirrored nearShaped shaped)) fun _ => id).bind fun far isFar => ?_
    have farShaped := keeps second (by simp) value _ far mirrorShaped isFar
    refine (straight.gives_mirrored positive farShaped mirrorShaped).bind_ensures ?_
    exact ensures_pure ⟨near, far, rfl, isNear, nearShaped, isFar, farShaped⟩
  refine reflected.bind ?_
  rintro _ ⟨near, far, rfl, isNear, nearShaped, isFar, farShaped⟩
  refine ((parameters.relaxation.ensures_yields number).mono (fun _ => .relaxation)
    fun _ => id).bind fun factor relaxed => ?_
  exact ensures_pure ⟨value, near, far, factor, rfl, chosen, relaxed, isNear, nearShaped, isFar,
    farShaped⟩

omit straight positive collected keeps standard in
/-- The driver moves to the double reflection as the factor says, which is an exchange. -/
theorem exchange_along {value factor : S} {near far : Point S}
    (isNear : (first value parameters.driver).Yields near) (nearShaped : near.hasShape shape = true)
    (isFar : (second value (Flat.mirrored near parameters.driver)).Yields far)
    (farShaped : far.hasShape shape = true) :
    Exchange shape first second value factor parameters.driver near far
      (Flat.along parameters.driver
        (Flat.mirrored far (Flat.mirrored near parameters.driver)) factor) := by
  have mirrorShaped := Flat.hasShape_mirrored nearShaped shaped
  have reflectionShaped := Flat.hasShape_mirrored farShaped mirrorShaped
  refine ⟨isNear, ⟨_, mirrorShaped, Flat.coordinates_mirrored nearShaped shaped, isFar⟩, ?_,
    nearShaped, farShaped, Flat.hasShape_along shaped reflectionShaped factor⟩
  rw [Flat.coordinates_along shaped reflectionShaped, Flat.coordinates_mirrored farShaped mirrorShaped,
    Flat.coordinates_mirrored nearShaped shaped]
  funext position
  simp only [Pi.add_apply, Pi.smul_apply, Pi.sub_apply, smul_eq_mul]
  ring

/-- A step fails as a function of the caller does, or it is an exchange, of which the iterate becomes
the second proximal point. -/
theorem run_step_exchange (alone : parameters.parallel = false) {state : SolverState S}
    (method : state.method = .splitting parameters) {journal : Journal}
    {outcome : Except (Fault S) Unit} {after : Journal × SolverState S}
    (ran : (step problem number).run (journal, state) = (outcome, after)) :
    (∃ fault, outcome = .error fault ∧ Interrupts shape first second parameters.parameter
      parameters.relaxation number parameters.driver fault) ∨
    ∃ value factor near far next, outcome = .ok () ∧
      (parameters.parameter number).Yields value ∧ (parameters.relaxation number).Yields factor ∧
      Exchange shape first second value factor parameters.driver near far next ∧
      after.2 = advanced state next far := by
  rw [run_step method] at ran
  rcases figured : (figures problem parameters number).run journal with ⟨figuresOutcome, known⟩
  have lifted := run_liftM_of figured state
  rcases (ensures_exchange_figures straight positive collected keeps standard shaped).cases figured
    with ⟨fault, rfl, interrupts⟩ |
      ⟨_, rfl, value, near, far, factor, rfl, chosen, relaxed, isNear, nearShaped, isFar, farShaped⟩
  · rw [run_bind_of_error lifted] at ran
    cases ran
    exact .inl ⟨fault, rfl, interrupts⟩
  · have mirrorShaped := Flat.hasShape_mirrored nearShaped shaped
    obtain ⟨moved, moves⟩ := straight.gives_along positive shaped
      (Flat.hasShape_mirrored farShaped mirrorShaped) factor known
    rw [run_bind_of_ok lifted, move, run_bind_of_ok (run_liftM_of moves state),
      run_bind_of_ok (run_update _ (moved, state)), alone] at ran
    cases ran
    exact .inr ⟨value, factor, near, far, _, rfl, chosen, relaxed,
      exchange_along shaped isNear nearShaped isFar farShaped, rfl⟩

end Step

end DouglasRachford

end ProximalSplitting

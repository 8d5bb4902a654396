import ProximalSplitting.Proofs.Run.Rule

/-!
Runs with a limit on the number of iterations. If nobody watches, such a run stops exactly at its
limit unless the method fails before.
-/

namespace ProximalSplitting

open Tracked

namespace Course

variable {S : Type} [Scalar S] {course : Course S} {first middle : Memory S} {number : Nat}
  {limit : Int}

theorem run_check_limit
    (limited : course.criterion = .single number (.iterations (.integer limit))) {iteration : Nat}
    (later : iteration ≠ 0) (before : Memory S) :
    ∃ workspace, (course.check iteration).run before =
      (.ok (limit ≤ iteration), (before.1, { before.2 with workspace })) := by
  have checked := Criterion.run_checkTest course.problem before.2.state number
    (.iterations (.integer limit)) (Int.natCast_ne_zero.mpr later) before.1 before.2.workspace
  have verdict : decide (limit ≤ iteration) =
      decide ((Value.integer limit : Value S).reachedBy? iteration = some true) :=
    decide_eq_decide.mpr (Value.reachedBy_integer limit iteration).symm
  rw [run_check, Run.watch, run_part, limited, Criterion.check, checked, verdict]
  exact ⟨_, rfl⟩

theorem obeys_limit (limited : course.criterion = .single number (.iterations (.integer limit))) :
    course.Obeys first fun iteration => limit ≤ iteration := by
  intro done middle called _ _
  obtain ⟨workspace, checked⟩ := run_check_limit limited (Nat.succ_ne_zero done) called
  exact ⟨_, checked⟩

/-- A run that nobody watches stops at its limit, unless preparing or a step fails. -/
theorem exists_stops (limited : course.criterion = .single number (.iterations (.integer limit)))
    (unwatched : course.decorators = []) {prepared : Memory S}
    (prepares : course.Performs [.prepare] first prepared)
    (steps : ∀ done middle, course.Pending first done middle →
      ∃ stepped, course.Performs [.step (done + 1)] middle stepped) {iterations : Nat}
    (positive : 1 ≤ iterations) (counted : limit = iterations) :
    ∃ last, course.Stops first iterations last := by
  refine exists_stops_of_rule unwatched prepares (fun done middle _ => steps done middle)
    (obeys_limit limited) ⟨⟨positive, ?_⟩, ?_⟩
  · exact decide_eq_true (by omega)
  · intro iteration met
    have reached : limit ≤ iteration := of_decide_eq_true met.2
    omega

end Course

end ProximalSplitting

import ProximalSplitting.Proofs.Run.Paths

/-!
Runs in which nothing fails. After any number of iterations such a run has stopped, or its criterion
was not met yet and it goes on. Where a run is after its calls, and when it stops, is determined by
where it began, so that a run that returns is one in which nothing fails.
-/

namespace ProximalSplitting

namespace Course

variable {S : Type} [Scalar S] {course : Course S} {first middle last : Memory S} {done : Nat}

structure Untroubled (course : Course S) (first : Memory S) : Prop where
  opening : ∃ after, course.Performs course.opening first after
  advance : ∀ {done middle}, course.Pending first done middle →
    ∃ called, course.Performs (course.advance (done + 1)) middle called
  check : ∀ {done middle called}, course.Pending first done middle →
    course.Performs (course.advance (done + 1)) middle called →
    ∃ met after, (course.check (done + 1)).run called = (.ok met, after)
  closing : ∀ {iterations last}, course.Stops first iterations last →
    ∃ after, course.Performs (course.looks (-1)) (counted iterations last) after

theorem Untroubled.stops_or_pending (untroubled : course.Untroubled first) (done : Nat) :
    (∃ iterations last, iterations ≤ done ∧ course.Stops first iterations last) ∨
      ∃ middle, course.Pending first done middle := by
  induction done with
  | zero =>
      obtain ⟨after, opened⟩ := untroubled.opening
      exact .inr ⟨after, .opened opened⟩
  | succ done ih =>
      rcases ih with ⟨iterations, last, early, stopped⟩ | ⟨middle, pending⟩
      · exact .inl ⟨iterations, last, by omega, stopped⟩
      · obtain ⟨called, advanced⟩ := untroubled.advance pending
        obtain ⟨met, after, checked⟩ := untroubled.check pending advanced
        cases met with
        | false => exact .inr ⟨after, .passed pending advanced checked⟩
        | true => exact .inl ⟨done + 1, after, Nat.le_refl _, .met pending advanced checked⟩

theorem Pending.unique {other : Memory S} (pending : course.Pending first done middle)
    (again : course.Pending first done other) : middle = other :=
  performs_unique pending.performs again.performs

theorem Stops.unfinished {iterations : Nat} (stopped : course.Stops first iterations last)
    (pending : course.Pending first done middle) : done < iterations := by
  refine Nat.lt_of_not_le fun late => ?_
  obtain ⟨reached, pendingAtEnd⟩ := pending.earlier late
  cases stopped with
  | met before advanced checked =>
      cases pendingAtEnd with
      | passed beforeToo advancedToo checkedToo =>
          obtain rfl := before.unique beforeToo
          obtain rfl := performs_unique advanced advancedToo
          cases checked.symm.trans checkedToo

theorem Stops.unique {iterations other : Nat} {otherLast : Memory S}
    (stopped : course.Stops first iterations last) (again : course.Stops first other otherLast) :
    iterations = other ∧ last = otherLast := by
  cases stopped with
  | @met done _ _ _ pending advanced checked =>
      cases again with
      | @met otherDone _ _ _ pendingToo advancedToo checkedToo =>
          have early := Stops.unfinished (.met pending advanced checked) pendingToo
          have earlyToo := Stops.unfinished (.met pendingToo advancedToo checkedToo) pending
          obtain rfl : done = otherDone := by omega
          obtain rfl := pending.unique pendingToo
          obtain rfl := performs_unique advanced advancedToo
          cases checked.symm.trans checkedToo
          exact ⟨rfl, rfl⟩

theorem Untroubled.of_ok {steps : Nat} {point : Point S} {after : Memory S}
    (returned : (course.whole steps).run first = (.ok point, after)) :
    course.Untroubled first := by
  cases whole_ends returned with
  | @closed iterations last _ _ _ stopped closed =>
      have performed : ∀ {done middle}, course.Pending first done middle →
          ∃ called met after, course.Performs (course.advance (done + 1)) middle called ∧
            (course.check (done + 1)).run called = (.ok met, after) := by
        intro done middle pending
        have early := stopped.unfinished pending
        cases stopped with
        | @met final _ called _ before advanced checked =>
            by_cases isLast : done = final
            · subst isLast
              obtain rfl := before.unique pending
              exact ⟨called, true, last, advanced, checked⟩
            · obtain ⟨_, later⟩ := before.earlier (by omega : done + 1 ≤ final)
              cases later with
              | @passed _ _ called _ beforeToo advanced checked =>
                  obtain rfl := beforeToo.unique pending
                  exact ⟨called, false, _, advanced, checked⟩
      refine ⟨?_, fun pending => ?_, fun pending advanced => ?_, fun stoppedToo => ?_⟩
      · cases stopped with
        | met before _ _ =>
            obtain ⟨opened, begun⟩ := before.earlier (Nat.zero_le _)
            exact ⟨opened, begun.performs⟩
      · obtain ⟨called, _, _, advanced, _⟩ := performed pending
        exact ⟨called, advanced⟩
      · obtain ⟨_, met, after, advancedToo, checked⟩ := performed pending
        obtain rfl := performs_unique advanced advancedToo
        exact ⟨met, after, checked⟩
      · obtain ⟨rfl, rfl⟩ := stopped.unique stoppedToo
        obtain ⟨shown, looked, _⟩ := looks_of_close closed
        exact ⟨shown, looked⟩

end Course

end ProximalSplitting

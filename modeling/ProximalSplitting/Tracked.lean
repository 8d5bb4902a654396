import ProximalSplitting.Compute

/-!
Computations over a memory next to the journal. A failure keeps the memory as it was when the
failure happened. A computation over a part of a memory is one over the whole.
-/

namespace ProximalSplitting

abbrev Tracked (S M α : Type) := ExceptT (Fault S) (StateM (Journal × M)) α

namespace Tracked

variable {S M N α : Type}

def compute (computation : Compute S α) : Tracked S M α :=
  ExceptT.mk fun (journal, memory) =>
    let (outcome, after) := computation.run journal
    (outcome, (after, memory))

def fail (fault : Fault S) : Tracked S M α :=
  ExceptT.mk fun before => (.error fault, before)

def read : Tracked S M M :=
  ExceptT.mk fun (journal, memory) => (.ok memory, (journal, memory))

def update (change : M → M) : Tracked S M Unit :=
  ExceptT.mk fun (journal, memory) => (.ok (), (journal, change memory))

def report (message : String) : Tracked S M Unit :=
  compute (Compute.report message)

def within (memory : M) (computation : Tracked S M α) : Compute S (M × α) :=
  ExceptT.mk fun journal =>
    let (outcome, (after, changed)) := computation.run (journal, memory)
    (outcome.map fun result => (changed, result), after)

def part (get : N → M) (set : M → N → N) (computation : Tracked S M α) : Tracked S N α :=
  ExceptT.mk fun (journal, memory) =>
    let (outcome, (after, changed)) := computation.run (journal, get memory)
    (outcome, (after, set changed memory))

theorem run_read (before : Journal × M) :
    (read : Tracked S M M).run before = (.ok before.2, before) := rfl

theorem run_update (change : M → M) (before : Journal × M) :
    (update change : Tracked S M Unit).run before = (.ok (), (before.1, change before.2)) := rfl

/-- What follows a computation runs on the memory that the computation leaves, unless it failed. -/
theorem run_bind {β : Type} (first : Tracked S M α) (next : α → Tracked S M β)
    (before : Journal × M) :
    (first >>= next).run before =
      match first.run before with
      | (.ok value, after) => (next value).run after
      | (.error fault, after) => (.error fault, after) := by
  rcases found : first.run before with ⟨outcome, after⟩
  simp only [bind, ExceptT.bind, ExceptT.run, ExceptT.mk, StateT.bind, ExceptT.bindCont] at found ⊢
  rw [found]
  cases outcome <;> rfl

end Tracked

instance {S M : Type} :
    MonadLift (ExceptT (Fault S) (StateM Journal)) (ExceptT (Fault S) (StateM (Journal × M))) where
  monadLift := Tracked.compute

end ProximalSplitting

import ProximalSplitting.Compiler
import ProximalSplitting.Fault

/-!
Computations that may fail and that leave traces in a journal: messages, compiled operations and
counters of calls. A failure keeps the journal as it was when the failure happened.
-/

namespace ProximalSplitting

structure Journal where
  messages : List String := []
  compiler : Compiler Unit := {}
  counters : List Nat := []

abbrev Compute (S α : Type) := ExceptT (Fault S) (StateM Journal) α

namespace Compute

variable {S α : Type}

def attempt (outcome : Except (Fault S) α) : Compute S α :=
  ExceptT.mk (pure outcome)

def fail (fault : Fault S) : Compute S α :=
  attempt (.error fault)

def expect (fault : Fault S) : Option α → Compute S α
  | some value => pure value
  | none => fail fault

def changeJournal (change : Journal → Journal) : Compute S Unit :=
  ExceptT.lift (modify change)

def report (message : String) : Compute S Unit :=
  changeJournal fun journal => { journal with messages := journal.messages ++ [message] }

/-- Runs an operation, compiling it under its name if compilation is enabled. -/
def compiledAs (name : String) (operation : Compute S α) : Compute S α := do
  changeJournal fun journal =>
    { journal with compiler := (journal.compiler.select ⟨name, [0]⟩ ()).2 }
  operation

def setCompilation (enabled : Bool) : Compute S Unit :=
  changeJournal fun journal => { journal with compiler := journal.compiler.switch enabled }

def switchCompilation (enabled : Bool) : Compute S Unit := do
  setCompilation enabled
  report (Compiler.switchMessage enabled)

def clearCompilation : Compute S Unit := do
  changeJournal fun journal => { journal with compiler := journal.compiler.clear }
  report Compiler.clearMessage

def newCounter : Compute S Nat := do
  let journal ← ExceptT.lift get
  changeJournal fun journal => { journal with counters := journal.counters ++ [0] }
  return journal.counters.length

def countCall (counter : Nat) : Compute S Nat := do
  let journal ← ExceptT.lift get
  let calls := journal.counters.getD counter 0 + 1
  changeJournal fun journal => { journal with counters := journal.counters.set counter calls }
  return calls

end Compute

instance {S : Type} : MonadLift (Except (Fault S)) (ExceptT (Fault S) (StateM Journal)) where
  monadLift := Compute.attempt

end ProximalSplitting

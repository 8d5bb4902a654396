import ProximalSplitting.Solver.Observation
import ProximalSplitting.Tracked

/-!
The memory of everything that watches a run: printed text, the clock, and what criteria and actions
remember. Criteria and actions are created here; creating one that remembers something reserves its
memory. Watching reads the state of the solver but cannot change it.

Time passes from one reading of the clock to the next in any way: `clock` is what the next reading
shows, and `passage` what the clock shows after it, given how many readings there were before.
-/

namespace ProximalSplitting

structure Workspace (S : Type) where
  printed : String := ""
  clock : S
  passage : Nat → S → S := fun _ shown => shown
  readings : Nat := 0
  criteria : List (CriterionMemory S) := []
  actions : List (ActionMemory S) := []

abbrev Watch (S α : Type) := Tracked S (Workspace S) α

namespace Workspace

variable {S : Type}

def criterion (workspace : Workspace S) (number : Nat) : CriterionMemory S :=
  workspace.criteria[number]?.getD ⟨"", none, workspace.clock⟩

def action (workspace : Workspace S) (number : Nat) : ActionMemory S :=
  workspace.actions[number]?.getD {}

def moveClock (workspace : Workspace S) : Workspace S :=
  { workspace with
    clock := workspace.passage workspace.readings workspace.clock
    readings := workspace.readings + 1 }

def changeCriterion (workspace : Workspace S) (number : Nat)
    (change : CriterionMemory S → CriterionMemory S) : Workspace S :=
  { workspace with criteria := workspace.criteria.modify number change }

def changeAction (workspace : Workspace S) (number : Nat)
    (change : ActionMemory S → ActionMemory S) : Workspace S :=
  { workspace with actions := workspace.actions.modify number change }

end Workspace

namespace Watch

variable {S : Type}

def print (content : String) : Watch S Unit :=
  Tracked.update fun workspace => { workspace with printed := workspace.printed ++ content }

def readClock : Watch S S := do
  let workspace ← Tracked.read
  Tracked.update Workspace.moveClock
  return workspace.clock

def criterionMemory (number : Nat) : Watch S (CriterionMemory S) := do
  return (← Tracked.read).criterion number

def changeCriterion (number : Nat) (change : CriterionMemory S → CriterionMemory S) :
    Watch S Unit :=
  Tracked.update fun workspace => workspace.changeCriterion number change

def setReason (number : Nat) (reason : String) : Watch S Unit :=
  changeCriterion number fun memory => { memory with reason }

def actionMemory (number : Nat) : Watch S (ActionMemory S) := do
  return (← Tracked.read).action number

def changeAction (number : Nat) (change : ActionMemory S → ActionMemory S) : Watch S Unit :=
  Tracked.update fun workspace => workspace.changeAction number change

def newCriterionMemory : Watch S Nat := do
  let workspace ← Tracked.read
  Tracked.update fun workspace =>
    { workspace with criteria := workspace.criteria ++ [⟨"", none, workspace.clock⟩] }
  return workspace.criteria.length

def newActionMemory : Watch S Nat := do
  let workspace ← Tracked.read
  Tracked.update fun workspace => { workspace with actions := workspace.actions ++ [{}] }
  return workspace.actions.length

end Watch

end ProximalSplitting

import ProximalSplitting.Solver.Session

/-!
Configurations of debug output and of recording, and the decorators made from them. Around a state
recording is the inner layer, so that both see the same state.
-/

namespace ProximalSplitting

inductive DebugConfiguration (S : Type) where
  | list (entries : List (DebugEntry S))
  | single (action : DebugAction S)
  | dictionary (actions : List (String × DebugAction S))

inductive RecordConfiguration (S : Type) where
  | list (entries : List (RecordEntry S))
  | single (action : RecordAction S)

variable {S : Type}

def DebugConfiguration.isEmpty : DebugConfiguration S → Bool
  | .list entries => entries.isEmpty
  | .single _ => false
  | .dictionary actions => actions.isEmpty

def RecordConfiguration.isEmpty : RecordConfiguration S → Bool
  | .list entries => entries.isEmpty
  | .single _ => false

namespace Decorator

variable [Scalar S]

def ofDebug : DebugConfiguration S → Watch S (Decorator S)
  | .list entries => do return .debug (← DebugAction.dictionaryOf entries)
  | .single action => pure (.debug [("all", action)])
  | .dictionary actions => pure (.debug actions)

def ofRecord : RecordConfiguration S → Watch S (Decorator S)
  | .list entries => do return .record (← RecordAction.ofEntries entries)
  | .single action => pure (.record action)

structure Watchers (S : Type) where
  debug : Option (DebugConfiguration S) := none
  record : Option (RecordConfiguration S) := none

def ofWatchers (watchers : Watchers S) : Watch S (List (Decorator S)) := do
  let recording ← (watchers.record.toList.filter (!·.isEmpty)).mapM ofRecord
  let debugging ← (watchers.debug.toList.filter (!·.isEmpty)).mapM ofDebug
  return debugging ++ recording

end Decorator

end ProximalSplitting

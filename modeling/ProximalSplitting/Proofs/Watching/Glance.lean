import ProximalSplitting.Proofs.Effects.Laws
import ProximalSplitting.Proofs.Watching.Workspace
import ProximalSplitting.Solver.Session

/-!
What decorators do when an iteration is shown to them, taken apart into single glances. Groups and
thinned actions decide which single actions are called, and with which iteration; every glance
figures something out from the state, and then prints it or writes it down.
-/

namespace ProximalSplitting

namespace DebugAction

variable {S : Type}

def isSingle : DebugAction S → Bool
  | group _ => false
  | every _ _ _ => false
  | _ => true

end DebugAction

inductive Glance (S : Type) where
  | debug (action : DebugAction S) (single : action.isSingle = true) (iteration : Int)
  | column (number : Nat) (kind : RecordKind) (iteration : Int)
  | label (content : String)
  | refusal

namespace DebugAction

variable {S : Type}

mutual

def glances : DebugAction S → Int → List (Glance S)
  | group actions, iteration => glancesOfAll actions iteration
  | every interval alwaysUpdate action, iteration =>
      if iteration ≤ 0 || iteration % interval = 0 then glances action iteration
      else if alwaysUpdate then glances action (-1)
      else []
  | divider content, iteration => [.debug (divider content) rfl iteration]
  | iterationNumber, iteration => [.debug iterationNumber rfl iteration]
  | iterate label, iteration => [.debug (iterate label) rfl iteration]
  | cost label, iteration => [.debug (cost label) rfl iteration]
  | change number label, iteration => [.debug (change number label) rfl iteration]
  | entry field label, iteration => [.debug (entry field label) rfl iteration]
  | parameter label, iteration => [.debug (parameter label) rfl iteration]
  | reason, iteration => [.debug reason rfl iteration]

def glancesOfAll : List (DebugAction S) → Int → List (Glance S)
  | [], _ => []
  | first :: rest, iteration => glances first iteration ++ glancesOfAll rest iteration

end

theorem glances_of_single {action : DebugAction S} (single : action.isSingle = true)
    (iteration : Int) : action.glances iteration = [.debug action single iteration] := by
  cases action with
  | group _ => nomatch single
  | every _ _ _ => nomatch single
  | _ => rw [glances]

section Output

variable [Scalar S]

def output (problem : Problem S) (state : SolverState S) (workspace : Workspace S)
    (iteration : Int) : DebugAction S → Compute S String
  | divider content => pure (if 0 ≤ iteration then content else "")
  | iterationNumber =>
      pure (if 0 < iteration then s!"# {iteration}"
        else if iteration = 0 then "Initial " else "")
  | iterate label => pure (if 0 ≤ iteration then label ++ state.iterate.layout else "")
  | cost label =>
      if 0 ≤ iteration then do
        let cost ← problem.cost state.iterate
        return label ++ Scalar.text cost
      else pure ""
  | change number label =>
      if 0 < iteration then do
        match ← Criterion.measureChange problem state (workspace.action number).lastIterate with
        | some distance => return label ++ Scalar.text distance
        | none => return ""
      else pure ""
  | entry field label =>
      if 0 ≤ iteration then do
        let value ← state.field field
        return label ++ value.shown
      else pure ""
  | parameter label =>
      if 0 < iteration then do
        let parameter ← state.parameterAt iteration
        return label ++ Scalar.text parameter
      else pure ""
  | reason => liftM (state.reason workspace)
  | _ => pure ""

end Output

def note (iterate : Point S) (workspace : Workspace S) : DebugAction S → Workspace S
  | change number _ =>
      workspace.changeAction number fun memory => { memory with lastIterate := some iterate }
  | _ => workspace

end DebugAction

namespace RecordKind

variable {S : Type}

def row [Scalar S] (problem : Problem S) (state : SolverState S) (last : Option (Point S))
    (number : Int) : RecordKind → Compute S (Value S)
  | .iteration => pure (.integer number)
  | .iterate => pure (.array state.iterate)
  | .cost =>
      if 0 < number then do
        let cost ← problem.cost state.iterate
        return .real cost
      else pure .null
  | .change =>
      if 0 < number then do
        match ← Criterion.measureChange problem state last with
        | some moved => return .real moved
        | none => return .null
      else pure .null
  | .entry field => state.field field
  | .parameter =>
      if 0 < number then do
        let parameter ← state.parameterAt number
        return .real parameter
      else pure .null

def extend (rows : List (Value S)) (value : Value S) (number : Int) : List (Value S) :=
  if 0 < number then rows ++ [value] else if number = 0 then [] else rows

def note (kind : RecordKind) (point : Point S) (value : Value S) (number : Int)
    (memory : ActionMemory S) : ActionMemory S where
  lastIterate := if kind = .change then some point else memory.lastIterate
  rows := extend memory.rows value number

end RecordKind

namespace RecordAction

variable {S : Type}

mutual

def glances : RecordAction S → Int → List (Glance S)
  | column number _ kind, iteration => [.column number kind iteration]
  | group _ members, iteration => glancesOfAll members iteration
  | every _ interval alwaysUpdate action, iteration =>
      if iteration ≤ 0 || iteration % interval = 0 then glances action iteration
      else if alwaysUpdate then glances action (-1)
      else []

def glancesOfAll : List (String × RecordAction S) → Int → List (Glance S)
  | [], _ => []
  | (_, action) :: rest, iteration => glances action iteration ++ glancesOfAll rest iteration

end

end RecordAction

def Decorator.glances {S : Type} (decorator : Decorator S) (iteration : Int) :
    List (Glance S) :=
  match decorator with
  | debug dictionary =>
      match dictionary.lookup (if 0 ≤ iteration then "all" else "stop") with
      | some action => action.glances iteration
      | none => []
  | record action => if 0 ≤ iteration then action.glances iteration else []
  | observer label => [.label s!"<{label} {iteration}>"]
  | plain => [.refusal]

def Decorator.glancesOfAll {S : Type} (decorators : List (Decorator S)) (iteration : Int) :
    List (Glance S) :=
  decorators.flatMap fun decorator => decorator.glances iteration

namespace Workspace

variable {S : Type}

def write (workspace : Workspace S) (content : String) : Workspace S :=
  { workspace with printed := workspace.printed ++ content }

theorem write_empty (workspace : Workspace S) : workspace.write "" = workspace := by
  simp [write]

end Workspace

namespace Glance

variable {S : Type} [Scalar S] (problem : Problem S) (state : SolverState S)

def run : Glance S → Watch S Unit
  | debug action _ iteration => action.run problem state iteration
  | column number kind iteration =>
      RecordAction.runColumn problem state number kind iteration
  | label content => Watch.print content
  | refusal => Tracked.fail (.unsupported .observation)

def runAll : List (Glance S) → Watch S Unit
  | [] => pure ()
  | first :: rest => do
      first.run problem state
      runAll rest

def figure (workspace : Workspace S) : Glance S → Compute S (String × Value S)
  | debug action _ iteration => do
      let text ← action.output problem state workspace iteration
      return (text, .null)
  | column number kind iteration => do
      let value ← kind.row problem state (workspace.action number).lastIterate iteration
      return ("", value)
  | label content => pure (content, .null)
  | refusal => Compute.fail (.unsupported .observation)

omit [Scalar S] in
def leave (iterate : Point S) (found : String × Value S) (workspace : Workspace S) :
    Glance S → Workspace S
  | debug action _ _ => action.note iterate (workspace.write found.1)
  | column number kind iteration =>
      workspace.changeAction number (kind.note iterate found.2 iteration)
  | label _ => workspace.write found.1
  | refusal => workspace

theorem runAll_append (first rest : List (Glance S)) :
    runAll problem state (first ++ rest) =
      (runAll problem state first >>= fun _ => runAll problem state rest) := by
  induction first with
  | nil => simp only [List.nil_append, runAll, pure_bind]
  | cons glance others ih => simp only [List.cons_append, runAll, ih, bind_assoc]

theorem runAll_single (glance : Glance S) :
    runAll problem state [glance] = glance.run problem state := by
  rw [runAll, runAll]
  exact bind_pure_unit

omit [Scalar S] in
theorem run_nothing (journal : Journal) (workspace : Workspace S) :
    (pure () : Watch S Unit).run (journal, workspace) =
      (.ok (), (journal, workspace.write "")) := by
  rw [Workspace.write_empty]
  rfl

omit [Scalar S] in
theorem run_actionMemory_bind {α : Type} (number : Nat) (next : ActionMemory S → Watch S α)
    (before : Journal × Workspace S) :
    (Watch.actionMemory number >>= next).run before =
      (next (before.2.action number)).run before := rfl

omit [Scalar S] in
theorem run_print_figure {α : Type} (condition : Prop) [Decidable condition]
    (sought : Compute S α) (text : α → String) (journal : Journal) (workspace : Workspace S) :
    (if condition then
        (liftM sought : Watch S α) >>= fun value => Watch.print (text value)
      else pure ()).run (journal, workspace) =
      match (if condition then sought >>= fun value => pure (text value) else pure "").run
        journal with
      | (.ok shown, after) => (.ok (), (after, workspace.write shown))
      | (.error fault, after) => (.error fault, (after, workspace)) := by
  by_cases holds : condition
  · rw [if_pos holds, if_pos holds]
    rcases computed : sought.run journal with ⟨outcome, after⟩
    have lifted := Tracked.run_liftM_of computed workspace
    cases outcome with
    | error _ => rw [Effect.run_bind_of_error lifted, Effect.run_bind_of_error computed]
    | ok value =>
        rw [Effect.run_bind_of_ok lifted, Effect.run_bind_of_ok computed]
        rfl
  · rw [if_neg holds, if_neg holds]
    exact run_nothing journal workspace

theorem run_changeDebug (number : Nat) (label : String) (iteration : Int) (journal : Journal)
    (workspace : Workspace S) :
    ((DebugAction.change number label).run problem state iteration).run (journal, workspace) =
      match ((DebugAction.change number label).output problem state workspace iteration).run
        journal with
      | (.ok shown, after) => (.ok (), (after,
          (DebugAction.change number label).note state.iterate (workspace.write shown)))
      | (.error fault, after) => (.error fault, (after, workspace)) := by
  rw [DebugAction.run, run_actionMemory_bind, DebugAction.output]
  by_cases positive : 0 < iteration
  · rw [if_pos positive, if_pos positive]
    rcases measured : (Criterion.measureChange problem state
      (workspace.action number).lastIterate).run journal with ⟨outcome, after⟩
    have lifted := Tracked.run_liftM_of measured workspace
    cases outcome with
    | error _ => rw [Effect.run_bind_of_error lifted, Effect.run_bind_of_error measured]
    | ok distance =>
        rw [Effect.run_bind_of_ok lifted, Effect.run_bind_of_ok measured]
        cases distance with
        | some moved => rfl
        | none =>
            change _ = (_, (_, DebugAction.note state.iterate (workspace.write "") _))
            rw [Workspace.write_empty]
            rfl
  · rw [if_neg positive, if_neg positive]
    change _ = (_, (_, DebugAction.note state.iterate (workspace.write "") _))
    rw [Workspace.write_empty]
    rfl

theorem run_debug (action : DebugAction S) (single : action.isSingle = true) (iteration : Int)
    (journal : Journal) (workspace : Workspace S) :
    (action.run problem state iteration).run (journal, workspace) =
      match (action.output problem state workspace iteration).run journal with
      | (.ok shown, after) =>
          (.ok (), (after, action.note state.iterate (workspace.write shown)))
      | (.error fault, after) => (.error fault, (after, workspace)) := by
  cases action with
  | group _ => nomatch single
  | every _ _ _ => nomatch single
  | divider content =>
      rw [DebugAction.run, DebugAction.output]
      split
      · rfl
      · exact run_nothing journal workspace
  | iterationNumber =>
      rw [DebugAction.run, DebugAction.output]
      split
      · rfl
      · split
        · rfl
        · exact run_nothing journal workspace
  | iterate label =>
      rw [DebugAction.run, DebugAction.output]
      split
      · rfl
      · exact run_nothing journal workspace
  | cost label =>
      rw [DebugAction.run]
      exact run_print_figure _ _ _ journal workspace
  | change number label => exact run_changeDebug problem state number label iteration journal workspace
  | entry field label =>
      rw [DebugAction.run]
      exact run_print_figure _ _ _ journal workspace
  | parameter label =>
      rw [DebugAction.run]
      exact run_print_figure _ _ _ journal workspace
  | reason =>
      rw [DebugAction.run, DebugAction.output]
      change ((liftM (state.reason workspace) : Watch S String) >>= Watch.print).run
        (journal, workspace) = _
      cases state.reason workspace with
      | error _ => rfl
      | ok _ => rfl

omit [Scalar S] in
theorem run_recordOrReset (number : Nat) (value : Value S) (iteration : Int)
    (journal : Journal) (workspace : Workspace S) :
    (RecordAction.recordOrReset number value iteration).run (journal, workspace) =
      (.ok (), (journal, workspace.changeAction number fun memory =>
        { memory with rows := RecordKind.extend memory.rows value iteration })) := by
  rw [RecordAction.recordOrReset]
  by_cases positive : 0 < iteration
  · simp only [positive, if_true, RecordKind.extend]
    rfl
  · by_cases zero : iteration = 0
    · subst zero
      rfl
    · simp only [positive, zero, if_false, RecordKind.extend]
      exact congrArg (fun kept => (Except.ok (), (journal, kept)))
        (workspace.changeAction_id number).symm

omit [Scalar S] in
theorem run_record_figure {α : Type} (sought : Compute S α) (value : α → Value S) (number : Nat)
    (iteration : Int) (journal : Journal) (workspace : Workspace S) :
    ((liftM sought : Watch S α) >>= fun figure =>
        RecordAction.recordOrReset number (value figure) iteration).run (journal, workspace) =
      match (sought >>= fun figure => pure (value figure)).run journal with
      | (.ok found, after) => (.ok (), (after, workspace.changeAction number fun memory =>
          { memory with rows := RecordKind.extend memory.rows found iteration }))
      | (.error fault, after) => (.error fault, (after, workspace)) := by
  rcases computed : sought.run journal with ⟨outcome, after⟩
  have lifted := Tracked.run_liftM_of computed workspace
  cases outcome with
  | error _ => rw [Effect.run_bind_of_error lifted, Effect.run_bind_of_error computed]
  | ok figure =>
      rw [Effect.run_bind_of_ok lifted, Effect.run_bind_of_ok computed]
      exact run_recordOrReset number _ iteration after workspace

theorem run_changeColumn (number : Nat) (iteration : Int) (journal : Journal)
    (workspace : Workspace S) :
    (RecordAction.runColumn problem state number .change iteration).run (journal, workspace) =
      match (RecordKind.row problem state (workspace.action number).lastIterate iteration
        .change).run journal with
      | (.ok found, after) => (.ok (), (after, workspace.changeAction number
          (RecordKind.note .change state.iterate found iteration)))
      | (.error fault, after) => (.error fault, (after, workspace)) := by
  have remembered : ∀ (value : Value S) (after : Journal),
      (RecordAction.recordOrReset number value iteration >>= fun _ =>
        Watch.changeAction number fun memory =>
          { memory with lastIterate := some state.iterate }).run (after, workspace) =
        (.ok (), (after, workspace.changeAction number
          (RecordKind.note .change state.iterate value iteration))) := by
    intro value after
    rw [Effect.run_bind_of_ok (run_recordOrReset number value iteration after workspace)]
    change (_, (_, (workspace.changeAction number _).changeAction number _)) = _
    rw [Workspace.changeAction_changeAction]
    rfl
  change (Watch.actionMemory number >>= _).run (journal, workspace) = _
  rw [run_actionMemory_bind, RecordKind.row]
  by_cases positive : 0 < iteration
  · rw [if_pos positive, if_pos positive]
    rcases measured : (Criterion.measureChange problem state
      (workspace.action number).lastIterate).run journal with ⟨outcome, after⟩
    have lifted := Tracked.run_liftM_of measured workspace
    cases outcome with
    | error _ => rw [Effect.run_bind_of_error lifted, Effect.run_bind_of_error measured]
    | ok distance =>
        rw [Effect.run_bind_of_ok lifted, Effect.run_bind_of_ok measured]
        cases distance with
        | some moved => exact remembered (.real moved) after
        | none => exact remembered .null after
  · rw [if_neg positive, if_neg positive]
    exact remembered .null journal

theorem run_column (number : Nat) (kind : RecordKind) (iteration : Int) (journal : Journal)
    (workspace : Workspace S) :
    (RecordAction.runColumn problem state number kind iteration).run (journal, workspace) =
      match (kind.row problem state (workspace.action number).lastIterate iteration).run
        journal with
      | (.ok found, after) => (.ok (), (after,
          workspace.changeAction number (kind.note state.iterate found iteration)))
      | (.error fault, after) => (.error fault, (after, workspace)) := by
  cases kind with
  | iteration => exact run_recordOrReset number _ iteration journal workspace
  | iterate => exact run_recordOrReset number _ iteration journal workspace
  | cost =>
      rw [RecordAction.runColumn, RecordKind.row]
      by_cases positive : 0 < iteration
      · rw [if_pos positive, if_pos positive]
        exact run_record_figure _ _ number iteration journal workspace
      · rw [if_neg positive, if_neg positive]
        exact run_recordOrReset number .null iteration journal workspace
  | change => exact run_changeColumn problem state number iteration journal workspace
  | entry field =>
      have noted := run_record_figure (state.field field) id number iteration journal workspace
      simp only [id_eq, bind_pure] at noted
      exact noted
  | parameter =>
      rw [RecordAction.runColumn, RecordKind.row]
      by_cases positive : 0 < iteration
      · rw [if_pos positive, if_pos positive]
        exact run_record_figure _ _ number iteration journal workspace
      · rw [if_neg positive, if_neg positive]
        exact run_recordOrReset number .null iteration journal workspace

/-- A glance that finds out what it needs leaves its trace; one that fails leaves none. -/
theorem run_eq (glance : Glance S) (journal : Journal) (workspace : Workspace S) :
    (glance.run problem state).run (journal, workspace) =
      match (glance.figure problem state workspace).run journal with
      | (.ok found, after) =>
          (.ok (), (after, glance.leave state.iterate found workspace))
      | (.error fault, after) => (.error fault, (after, workspace)) := by
  cases glance with
  | debug action single iteration =>
      rw [run, run_debug problem state action single, figure]
      rcases found : (action.output problem state workspace iteration).run journal
        with ⟨outcome, after⟩
      cases outcome with
      | error _ => rw [Effect.run_bind_of_error found]
      | ok shown =>
          rw [Effect.run_bind_of_ok found]
          rfl
  | column number kind iteration =>
      rw [run, run_column, figure]
      rcases found : (kind.row problem state (workspace.action number).lastIterate iteration).run
        journal with ⟨outcome, after⟩
      cases outcome with
      | error _ => rw [Effect.run_bind_of_error found]
      | ok value =>
          rw [Effect.run_bind_of_ok found]
          rfl
  | label content => rfl
  | refusal => rfl

end Glance

section Flattening

variable {S : Type} [Scalar S] (problem : Problem S) (state : SolverState S)

theorem DebugAction.run_single {action : DebugAction S} (single : action.isSingle = true)
    (iteration : Int) :
    action.run problem state iteration =
      Glance.runAll problem state (action.glances iteration) := by
  rw [glances_of_single single, Glance.runAll_single, Glance.run]

mutual

theorem DebugAction.run_eq_glances : ∀ (action : DebugAction S) (iteration : Int),
    action.run problem state iteration =
      Glance.runAll problem state (action.glances iteration)
  | .group actions, iteration => by
      rw [DebugAction.run, DebugAction.glances]
      exact DebugAction.runAll_eq_glances actions iteration
  | .every interval alwaysUpdate action, iteration => by
      rw [DebugAction.run, DebugAction.glances]
      have now := DebugAction.run_eq_glances action iteration
      have skipped := DebugAction.run_eq_glances action (-1)
      split
      · exact now
      · split
        · exact skipped
        · rfl
  | .divider content, iteration => DebugAction.run_single problem state rfl iteration
  | .iterationNumber, iteration => DebugAction.run_single problem state rfl iteration
  | .iterate label, iteration => DebugAction.run_single problem state rfl iteration
  | .cost label, iteration => DebugAction.run_single problem state rfl iteration
  | .change number label, iteration => DebugAction.run_single problem state rfl iteration
  | .entry field label, iteration => DebugAction.run_single problem state rfl iteration
  | .parameter label, iteration => DebugAction.run_single problem state rfl iteration
  | .reason, iteration => DebugAction.run_single problem state rfl iteration

theorem DebugAction.runAll_eq_glances : ∀ (actions : List (DebugAction S)) (iteration : Int),
    DebugAction.runAll problem state actions iteration =
      Glance.runAll problem state (DebugAction.glancesOfAll actions iteration)
  | [], _ => by
      rw [DebugAction.runAll, DebugAction.glancesOfAll, Glance.runAll]
  | first :: rest, iteration => by
      rw [DebugAction.runAll, DebugAction.glancesOfAll, Glance.runAll_append,
        DebugAction.run_eq_glances first iteration, DebugAction.runAll_eq_glances rest iteration]

end

mutual

theorem RecordAction.run_eq_glances : ∀ (action : RecordAction S) (iteration : Int),
    action.run problem state iteration =
      Glance.runAll problem state (action.glances iteration)
  | .column number name kind, iteration => by
      rw [RecordAction.run, RecordAction.glances, Glance.runAll_single, Glance.run]
  | .group name members, iteration => by
      rw [RecordAction.run, RecordAction.glances]
      exact RecordAction.runAll_eq_glances members iteration
  | .every name interval alwaysUpdate action, iteration => by
      rw [RecordAction.run, RecordAction.glances]
      have now := RecordAction.run_eq_glances action iteration
      have skipped := RecordAction.run_eq_glances action (-1)
      split
      · exact now
      · split
        · exact skipped
        · rfl

theorem RecordAction.runAll_eq_glances :
    ∀ (members : List (String × RecordAction S)) (iteration : Int),
    RecordAction.runAll problem state members iteration =
      Glance.runAll problem state (RecordAction.glancesOfAll members iteration)
  | [], _ => by
      rw [RecordAction.runAll, RecordAction.glancesOfAll, Glance.runAll]
  | (name, action) :: rest, iteration => by
      rw [RecordAction.runAll, RecordAction.glancesOfAll, Glance.runAll_append,
        RecordAction.run_eq_glances action iteration, RecordAction.runAll_eq_glances rest iteration]

end

theorem Decorator.observe_eq_glances (decorator : Decorator S) (iteration : Int) :
    decorator.observe problem state iteration =
      Glance.runAll problem state (decorator.glances iteration) := by
  cases decorator with
  | debug dictionary =>
      simp only [Decorator.observe, Decorator.glances]
      cases dictionary.lookup (if 0 ≤ iteration then "all" else "stop") with
      | none => rfl
      | some action => exact DebugAction.run_eq_glances problem state action iteration
  | record action =>
      simp only [Decorator.observe, Decorator.glances]
      split
      · exact RecordAction.run_eq_glances problem state action iteration
      · rfl
  | observer label =>
      rw [Decorator.observe, Decorator.glances, Glance.runAll_single, Glance.run]
  | plain =>
      rw [Decorator.observe, Decorator.glances, Glance.runAll_single, Glance.run]

theorem Decorator.observeAll_eq_glances (decorators : List (Decorator S)) (iteration : Int) :
    Decorator.observeAll problem state iteration decorators =
      Glance.runAll problem state (Decorator.glancesOfAll decorators iteration) := by
  induction decorators with
  | nil => rfl
  | cons outer inner ih =>
      rw [Decorator.observeAll, ih, Decorator.observe_eq_glances, Decorator.glancesOfAll,
        Decorator.glancesOfAll, List.flatMap_cons, Glance.runAll_append]

end Flattening

end ProximalSplitting

import Mathlib.Data.List.Forall2
import ProximalSplitting.Proofs.Watching.Thinning

/-!
What a list configures that names columns, or holds columns made before, with or without new names.
The columns of the action are those of the entries, in their order, and no two of them share a
memory. The last number of the list is the interval.
-/

namespace ProximalSplitting

open Effect Tracked

namespace RecordEntry

variable {S : Type}

inductive Makes : RecordEntry S → Column → Prop
  | preset {content : String} {kind : RecordKind} (number : Nat) :
      RecordKind.ofName? content = some kind →
      Makes (.raw (.text content)) ⟨number, kind.name, kind⟩
  | action (column : Column) : Makes (.action column.action) column
  | named (name : String) (column : Column) :
      Makes (.named name column.action) ⟨column.number, name, column.kind⟩

def isLeaf : RecordEntry S → Bool
  | .raw _ => true
  | .action (.column _ _ _) => true
  | .named _ (.column _ _ _) => true
  | _ => false

def given? : RecordEntry S → Option Nat
  | .action (.column number _ _) => some number
  | .named _ (.column number _ _) => some number
  | _ => none

def interval? : RecordEntry S → Option Int
  | .raw (.integer interval) => some interval
  | _ => none

def intervalOf (entries : List (RecordEntry S)) (otherwise : Int) : Int :=
  (entries.filterMap interval?).getLast?.getD otherwise

def naming (entries : List (RecordEntry S)) : List (RecordEntry S) :=
  entries.filter fun entry => entry.interval?.isNone

theorem intervalOf_cons (first : RecordEntry S) (rest : List (RecordEntry S)) (otherwise : Int) :
    intervalOf (first :: rest) otherwise = intervalOf rest (first.interval?.getD otherwise) := by
  rw [intervalOf, intervalOf]
  cases found : first.interval? with
  | none => simp [found]
  | some interval => simp [found, List.getLast?_cons]

theorem naming_cons_of_number {entry : RecordEntry S} {interval : Int}
    (number : entry.interval? = some interval) (rest : List (RecordEntry S)) :
    naming (entry :: rest) = naming rest := by
  simp [naming, number]

theorem naming_cons_of_name {entry : RecordEntry S} (noNumber : entry.interval? = none)
    (rest : List (RecordEntry S)) : naming (entry :: rest) = entry :: naming rest := by
  simp [naming, noNumber]

end RecordEntry

namespace RecordAction

variable {S : Type}

def reserved (columns : List Column) (entries : List (RecordEntry S)) : List Nat :=
  columns.map Column.number ++ entries.filterMap RecordEntry.given?

structure Fresh (columns : List Column) (entries : List (RecordEntry S)) (workspace : Workspace S) :
    Prop where
  distinct : (reserved columns entries).Nodup
  allocated : ∀ number ∈ reserved columns entries, number < workspace.actions.length

theorem addNamed_ok (action : RecordAction S) {configuration next : Configuration S}
    {before after : Journal × Workspace S}
    (ran : (addNamed configuration action).run before = (.ok next, after)) :
    action.name ∉ configuration.actions.map Prod.fst ∧
      next = { configuration with actions := configuration.actions ++ [(action.name, action)] } ∧
      after = before := by
  rw [addNamed] at ran
  split at ran
  · cases ran
  · rename_i absent
    cases ran
    exact ⟨by simpa using absent, rfl, rfl⟩

theorem ofValue_ok {value : Value S} {action : RecordAction S}
    {before after : Journal × Workspace S}
    (ran : (ofValue value).run before = (.ok action, after)) :
    ∃ content kind, value = .text content ∧ RecordKind.ofName? content = some kind ∧
      action = .column before.2.actions.length kind.name kind ∧
      after.2.actions = before.2.actions ++ [({} : ActionMemory S)] := by
  cases value with
  | text content =>
      rw [ofValue] at ran
      cases known : RecordKind.ofName? content with
      | none =>
          rw [known] at ran
          cases ran
      | some kind =>
          rw [known] at ran
          cases ran
          exact ⟨content, kind, rfl, known, rfl, rfl⟩
  | _ => cases ran

theorem configure_ok {entry : RecordEntry S} (leaf : entry.isLeaf = true)
    {configuration next : Configuration S} {before after : Journal × Workspace S}
    (ran : (configure configuration entry).run before = (.ok next, after)) :
    (∃ interval, entry.interval? = some interval ∧
      next = { configuration with interval } ∧ after = before) ∨
    ∃ column, entry.interval? = none ∧ entry.Makes column ∧
      next = { configuration with actions := configuration.actions ++ [column.member] } ∧
      ((entry.given? = some column.number ∧ after = before) ∨
        (entry.given? = none ∧ column.number = before.2.actions.length ∧
          after.2.actions = before.2.actions ++ [({} : ActionMemory S)])) := by
  cases entry with
  | action action =>
      cases action with
      | column number name kind =>
          obtain ⟨-, added, same⟩ := addNamed_ok _ ran
          exact .inr ⟨⟨number, name, kind⟩, rfl, .action ⟨number, name, kind⟩, added,
            .inl ⟨rfl, same⟩⟩
      | _ => cases leaf
  | named name action =>
      cases action with
      | column number former kind =>
          obtain ⟨-, added, same⟩ := addNamed_ok _ ran
          exact .inr ⟨⟨number, name, kind⟩, rfl, .named name ⟨number, former, kind⟩, added,
            .inl ⟨rfl, same⟩⟩
      | _ => cases leaf
  | raw value =>
      cases value with
      | integer interval =>
          cases ran
          exact .inl ⟨interval, rfl, rfl, rfl⟩
      | text content =>
          obtain ⟨action, middle, made, ran⟩ := run_bind_ok_iff.mp ran
          obtain ⟨_, kind, ⟨⟩, known, rfl, longer⟩ := ofValue_ok made
          obtain ⟨-, added, same⟩ := addNamed_ok _ ran
          subst same
          exact .inr ⟨⟨before.2.actions.length, kind.name, kind⟩, rfl, .preset _ known, added,
            .inr ⟨rfl, rfl, longer⟩⟩
      | _ => cases ran

theorem Fresh.given {columns : List Column} {column : Column} {entry : RecordEntry S}
    {rest : List (RecordEntry S)} {workspace : Workspace S}
    (fresh : Fresh columns (entry :: rest) workspace) (given : entry.given? = some column.number) :
    Fresh (columns ++ [column]) rest workspace := by
  have same : reserved (columns ++ [column]) rest = reserved columns (entry :: rest) := by
    simp [reserved, given]
  exact ⟨same ▸ fresh.distinct, same ▸ fresh.allocated⟩

theorem Fresh.made {columns : List Column} {column : Column} {entry : RecordEntry S}
    {rest : List (RecordEntry S)} {before after : Workspace S}
    (fresh : Fresh columns (entry :: rest) before) (absent : entry.given? = none)
    (newest : column.number = before.actions.length)
    (longer : after.actions = before.actions ++ [({} : ActionMemory S)]) :
    Fresh (columns ++ [column]) rest after := by
  have permuted : (reserved (columns ++ [column]) rest).Perm
      (column.number :: reserved columns (entry :: rest)) := by
    simp [reserved, absent, List.perm_middle]
  constructor
  · rw [permuted.nodup_iff, List.nodup_cons]
    refine ⟨fun used => ?_, fresh.distinct⟩
    have := fresh.allocated _ used
    omega
  · intro number used
    rw [longer, List.length_append, List.length_singleton]
    rcases List.mem_cons.mp (permuted.mem_iff.mp used) with rfl | earlier
    · omega
    · have := fresh.allocated number earlier
      omega

theorem Fresh.spared {columns : List Column} {entry : RecordEntry S} {rest : List (RecordEntry S)}
    {workspace : Workspace S} (fresh : Fresh columns (entry :: rest) workspace)
    (absent : entry.given? = none) : Fresh columns rest workspace := by
  have same : reserved columns rest = reserved columns (entry :: rest) := by
    simp [reserved, absent]
  exact ⟨same ▸ fresh.distinct, same ▸ fresh.allocated⟩

theorem configure_all_ok {entries : List (RecordEntry S)}
    (leaves : ∀ entry ∈ entries, entry.isLeaf = true) {columns : List Column}
    {configuration last : Configuration S} {before after : Journal × Workspace S}
    (actions : configuration.actions = columns.map Column.member)
    (fresh : Fresh columns entries before.2)
    (ran : (entries.foldlM configure configuration).run before = (.ok last, after)) :
    ∃ added, List.Forall₂ RecordEntry.Makes (RecordEntry.naming entries) added ∧
      last.actions = (columns ++ added).map Column.member ∧
      last.interval = RecordEntry.intervalOf entries configuration.interval ∧
      Fresh (columns ++ added) [] after.2 := by
  -- The memories of given columns count as used before their entries are reached, so that a column
  -- that is made never takes one of them.
  induction entries generalizing columns configuration before with
  | nil =>
      cases ran
      refine ⟨[], .nil, ?_, rfl, ?_⟩
      · simpa using actions
      · simpa using fresh
  | cons entry rest ih =>
      rw [List.foldlM_cons] at ran
      obtain ⟨next, middle, configured, continued⟩ := run_bind_ok_iff.mp ran
      have later : ∀ entry ∈ rest, entry.isLeaf = true := fun other member =>
        leaves other (List.mem_cons_of_mem entry member)
      rw [RecordEntry.intervalOf_cons]
      rcases configure_ok (leaves entry List.mem_cons_self) configured with
        ⟨interval, number, rfl, rfl⟩ | ⟨column, number, makes, rfl, memory⟩
      · have noColumn : entry.given? = none := by
          cases entry with
          | raw _ => rfl
          | _ => cases number
        have actionsNext : ({ configuration with interval } : Configuration S).actions =
            columns.map Column.member := actions
        rw [RecordEntry.naming_cons_of_number number, number]
        exact ih later actionsNext (fresh.spared noColumn) continued
      · have freshRest : Fresh (columns ++ [column]) rest middle.2 := by
          rcases memory with ⟨given, rfl⟩ | ⟨absent, newest, longer⟩
          · exact fresh.given given
          · exact fresh.made absent newest longer
        have actionsNext : configuration.actions ++ [column.member] =
            (columns ++ [column]).map (Column.member (S := S)) := by simp [actions]
        obtain ⟨added, madeRest, sameActions, interval, freshEnd⟩ :=
          ih later actionsNext freshRest continued
        refine ⟨column :: added, ?_, ?_, ?_, ?_⟩
        · rw [RecordEntry.naming_cons_of_name number]
          exact .cons makes madeRest
        · simpa using sameActions
        · rw [number]
          exact interval
        · simpa using freshEnd

def gathered : List (String × RecordAction S) → RecordAction S
  | [(_, only)] => only
  | several => groupOf several

theorem gathered_member (columns : List Column) :
    gathered (columns.map Column.member) = (ofColumns columns : RecordAction S) := by
  match columns with
  | [] => rfl
  | [_] => rfl
  | _ :: _ :: _ => rfl

/-- A list that could be configured has its actions gathered, and thinned by its interval. -/
theorem ofEntries_gathers {entries : List (RecordEntry S)} {action : RecordAction S}
    {before after : Journal × Workspace S}
    (ran : (ofEntries entries).run before = (.ok action, after)) :
    ∃ last : Configuration S,
      (entries.foldlM configure ({} : Configuration S)).run before = (.ok last, after) ∧
        last.actions ≠ [] ∧ action = thinnedBy last.interval (gathered last.actions) := by
  obtain ⟨⟨actions, interval⟩, middle, configured, ran⟩ := run_bind_ok_iff.mp ran
  match actions, ran with
  | [], ran => cases ran
  | [_], ran =>
      cases ran
      exact ⟨_, configured, by simp, rfl⟩
  | _ :: _ :: _, ran =>
      cases ran
      exact ⟨_, configured, by simp, rfl⟩

theorem ofEntries_ok {entries : List (RecordEntry S)}
    (leaves : ∀ entry ∈ entries, entry.isLeaf = true) {action : RecordAction S}
    {before after : Journal × Workspace S} (fresh : Fresh [] entries before.2)
    (ran : (ofEntries entries).run before = (.ok action, after)) :
    ∃ columns, List.Forall₂ RecordEntry.Makes (RecordEntry.naming entries) columns ∧
      action = thinnedBy (RecordEntry.intervalOf entries 1) (ofColumns columns) ∧
      (columns.map Column.number).Nodup ∧
      ∀ column ∈ columns, column.number < after.2.actions.length := by
  obtain ⟨last, configured, _, arranged⟩ := ofEntries_gathers ran
  have nothing : ({} : Configuration S).actions = [].map Column.member := rfl
  obtain ⟨columns, makes, actions, interval, freshEnd⟩ :=
    configure_all_ok leaves nothing fresh configured
  rw [List.nil_append] at actions freshEnd
  rw [actions, gathered_member, interval] at arranged
  have distinct : (columns.map Column.number).Nodup := by
    simpa [reserved] using freshEnd.distinct
  refine ⟨columns, makes, arranged, distinct, fun column among => ?_⟩
  exact freshEnd.allocated _ (by simpa [reserved] using ⟨column, among, rfl⟩)

structure ConfiguredBy (entries : List (RecordEntry S)) (interval : Nat) (action : RecordAction S)
    (workspace : Workspace S) : Prop where
  leaves : ∀ entry ∈ entries, entry.isLeaf = true
  distinct : (entries.filterMap RecordEntry.given?).Nodup
  thinned : RecordEntry.intervalOf entries 1 = interval
  positive : 1 ≤ interval
  made : ∃ before after, (∀ number ∈ entries.filterMap RecordEntry.given?,
      number < before.2.actions.length) ∧
    (ofEntries entries).run before = (.ok action, after) ∧
    after.2.actions.length ≤ workspace.actions.length

theorem ConfiguredBy.columns {entries : List (RecordEntry S)} {interval : Nat}
    {action : RecordAction S} {workspace : Workspace S}
    (configured : ConfiguredBy entries interval action workspace) :
    ∃ columns, List.Forall₂ RecordEntry.Makes (RecordEntry.naming entries) columns ∧
      action = thinnedBy interval (ofColumns columns) ∧
      (columns.map Column.number).Nodup ∧
      ∀ column ∈ columns, column.number < workspace.actions.length := by
  obtain ⟨before, after, given, ran, later⟩ := configured.made
  have fresh : Fresh [] entries before.2 := ⟨by simpa [reserved] using configured.distinct,
    by simpa [reserved] using given⟩
  obtain ⟨columns, makes, arranged, distinct, allocated⟩ :=
    ofEntries_ok configured.leaves fresh ran
  rw [configured.thinned] at arranged
  exact ⟨columns, makes, arranged, distinct, fun column among =>
    Nat.lt_of_lt_of_le (allocated column among) later⟩

end RecordAction

end ProximalSplitting

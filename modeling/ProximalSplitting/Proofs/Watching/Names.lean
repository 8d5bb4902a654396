import ProximalSplitting.Proofs.Run.Sample
import ProximalSplitting.Proofs.Watching.Configuration

/-!
Names of records. What a list configures is registered under names that are all different, and read
as a whole it holds every record under its name. Asked for one name, it finds the record that is
registered under it, except in two places. A group that is alone in its list only answers to the
names of its members. The group around several actions, once it is thinned, answers to its own name
before it asks the members.
-/

namespace ProximalSplitting

open Effect Tracked

theorem RecordKind.name_of_ofName? {content : String} {kind : RecordKind}
    (known : RecordKind.ofName? content = some kind) : kind.name = content := by
  unfold RecordKind.ofName? at known
  split at known
  all_goals cases known
  all_goals rfl

theorem lookup_of_distinct {α : Type} {members : List (String × α)}
    (distinct : (members.map Prod.fst).Nodup) {sought : String × α}
    (member : sought ∈ members) : members.lookup sought.1 = some sought.2 := by
  induction members with
  | nil => cases member
  | cons first rest ih =>
      obtain ⟨absent, distinctRest⟩ := List.nodup_cons.mp distinct
      rw [List.lookup_cons]
      rcases List.mem_cons.mp member with rfl | later
      · simp
      · have other : sought.1 ≠ first.1 := by
          intro same
          apply absent
          rw [← same]
          exact List.mem_map_of_mem later
        simp only [beq_eq_false_iff_ne.mpr other]
        exact ih distinctRest later

namespace RecordEntry

variable {S : Type}

inductive Registers : RecordEntry S → String × RecordAction S → Prop
  | preset {content : String} {kind : RecordKind} (number : Nat) :
      RecordKind.ofName? content = some kind →
      Registers (.raw (.text content)) (content, .column number content kind)
  | action (action : RecordAction S) : Registers (.action action) (action.name, action)
  | named (name : String) (action : RecordAction S) :
      Registers (.named name action) (name, action.rename name)

theorem Registers.name {entry : RecordEntry S} {registered : String × RecordAction S}
    (registers : entry.Registers registered) : registered.2.name = registered.1 := by
  cases registers with
  | preset number known => rfl
  | action action => rfl
  | named name action => cases action <;> rfl

theorem name_of_registers {entries : List (RecordEntry S)}
    {registered : List (String × RecordAction S)}
    (registers : List.Forall₂ Registers entries registered) :
    ∀ entry ∈ registered, entry.2.name = entry.1 := by
  induction registers with
  | nil => simp
  | cons first _ ih =>
      intro entry member
      rcases List.mem_cons.mp member with rfl | later
      · exact first.name
      · exact ih entry later

end RecordEntry

namespace RecordAction

variable {S : Type}

section Configured

variable {configuration next last : Configuration S} {before after : Journal × Workspace S}

theorem configure_registers {entry : RecordEntry S}
    (ran : (configure configuration entry).run before = (.ok next, after)) :
    (∃ interval, entry.interval? = some interval ∧ next = { configuration with interval }) ∨
    ∃ registered, entry.interval? = none ∧ entry.Registers registered ∧
      registered.1 ∉ configuration.actions.map Prod.fst ∧
      next = { configuration with actions := configuration.actions ++ [registered] } := by
  cases entry with
  | action action =>
      obtain ⟨absent, added, -⟩ := addNamed_ok action ran
      exact .inr ⟨_, rfl, .action action, absent, added⟩
  | named name action =>
      have registers := RecordEntry.Registers.named name action
      obtain ⟨absent, added, -⟩ := addNamed_ok (action.rename name) ran
      rw [registers.name] at absent added
      exact .inr ⟨_, rfl, registers, absent, added⟩
  | raw value =>
      cases value with
      | integer interval =>
          cases ran
          exact .inl ⟨interval, rfl, rfl⟩
      | text content =>
          obtain ⟨action, middle, made, ran⟩ := run_bind_ok_iff.mp ran
          obtain ⟨_, kind, ⟨⟩, known, rfl, -⟩ := ofValue_ok made
          obtain ⟨absent, added, -⟩ := addNamed_ok _ ran
          rw [RecordKind.name_of_ofName? known] at absent added
          exact .inr ⟨_, rfl, .preset _ known, absent, added⟩
      | _ => cases ran

theorem configure_all_registers {entries : List (RecordEntry S)}
    (distinct : (configuration.actions.map Prod.fst).Nodup)
    (ran : (entries.foldlM configure configuration).run before = (.ok last, after)) :
    ∃ added, List.Forall₂ RecordEntry.Registers (RecordEntry.naming entries) added ∧
      last.actions = configuration.actions ++ added ∧
      last.interval = RecordEntry.intervalOf entries configuration.interval ∧
      (last.actions.map Prod.fst).Nodup := by
  induction entries generalizing configuration before with
  | nil =>
      cases ran
      exact ⟨[], .nil, by simp, rfl, distinct⟩
  | cons entry rest ih =>
      rw [List.foldlM_cons] at ran
      obtain ⟨next, middle, configured, continued⟩ := run_bind_ok_iff.mp ran
      rw [RecordEntry.intervalOf_cons]
      rcases configure_registers configured with
        ⟨interval, number, rfl⟩ | ⟨registered, number, registers, absent, rfl⟩
      · have sameNames : (({ configuration with interval } : Configuration S).actions.map
            Prod.fst).Nodup := distinct
        rw [RecordEntry.naming_cons_of_number number, number]
        exact ih sameNames continued
      · have distinctNext : ((configuration.actions ++ [registered]).map Prod.fst).Nodup := by
          rw [List.map_append, List.map_singleton]
          apply (List.perm_append_singleton _ _).nodup_iff.mpr
          exact List.nodup_cons.mpr ⟨absent, distinct⟩
        obtain ⟨added, registersRest, actions, interval, distinctLast⟩ :=
          ih distinctNext continued
        refine ⟨registered :: added, ?_, ?_, ?_, distinctLast⟩
        · rw [RecordEntry.naming_cons_of_name number]
          exact .cons registers registersRest
        · simpa using actions
        · rw [number]
          exact interval

theorem ofEntries_registers {entries : List (RecordEntry S)} {action : RecordAction S}
    (ran : (ofEntries entries).run before = (.ok action, after)) :
    ∃ registered, List.Forall₂ RecordEntry.Registers (RecordEntry.naming entries) registered ∧
      registered ≠ [] ∧ (registered.map Prod.fst).Nodup ∧
      action = thinnedBy (RecordEntry.intervalOf entries 1) (gathered registered) := by
  obtain ⟨last, configured, present, arranged⟩ := ofEntries_gathers ran
  have nothing : (({} : Configuration S).actions.map Prod.fst).Nodup := List.nodup_nil
  obtain ⟨registered, registers, actions, interval, distinct⟩ :=
    configure_all_registers nothing configured
  rw [List.nil_append] at actions
  rw [actions] at present distinct arranged
  rw [interval] at arranged
  exact ⟨registered, registers, present, distinct, arranged⟩

end Configured

section Reading

variable (workspace : Workspace S)

def isGroup : RecordAction S → Bool
  | .group _ _ => true
  | _ => false

theorem rows_ne_rows_group (label : String) {members : List (String × RecordAction S)}
    {sought : String × RecordAction S} (member : sought ∈ members) :
    (group label members).rows workspace ≠ sought.2.rows workspace := by
  intro same
  -- The rows of the member stand inside of those of the group, which are larger for that.
  have row : (sought.1, sought.2.rows workspace) ∈ rowsOfAll workspace members := by
    rw [rowsOfAll_eq_map]
    exact List.mem_map_of_mem member
  have smaller := List.sizeOf_lt_of_mem row
  have equal := congrArg sizeOf same
  rw [rows, Value.table.sizeOf_spec] at equal
  simp only [Prod.mk.sizeOf_spec] at smaller
  omega

theorem read_name_iff (action : RecordAction S) :
    action.read workspace (some action.name) = .ok (action.rows workspace) ↔
      action.isGroup = false := by
  cases action with
  | column number label kind => simp [read, select, name, isGroup, Except.map]
  | every label interval always action => simp [read, select, name, isGroup, Except.map]
  | group label members =>
      -- A member that happens to have the name of the group has other rows.
      have own : (group label members : RecordAction S).name = label := rfl
      rw [own, read, select]
      cases found : members.lookup label with
      | none => simp [Except.map, isGroup]
      | some member =>
          obtain ⟨before, after, rfl, -⟩ := List.lookup_eq_some_iff.mp found
          have inside : (label, member) ∈ before ++ (label, member) :: after := by simp
          have larger := rows_ne_rows_group workspace label inside
          simp [Except.map, isGroup, larger.symm]

theorem read_member {members : List (String × RecordAction S)}
    (distinct : (members.map Prod.fst).Nodup) {sought : String × RecordAction S}
    (member : sought ∈ members) (label : String) :
    (group label members).read workspace (some sought.1) = .ok (sought.2.rows workspace) := by
  rw [read, select, lookup_of_distinct distinct member]
  rfl

/-- A thinned action answers to its own name and passes all other names on. -/
theorem read_every (label requested : String) (interval : Int) (always : Bool)
    (action : RecordAction S) :
    (every label interval always action).read workspace (some requested) =
      if requested = label then .ok (action.rows workspace)
      else action.read workspace (some requested) := by
  rw [read, select]
  by_cases own : requested = label
  · rw [if_pos own, if_pos own, Except.map, rows]
  · rw [if_neg own, if_neg own, read]

/-- The places where a name does not lead to what is registered under it. -/
def Hides (interval : Int) (registered : List (String × RecordAction S))
    (sought : String × RecordAction S) : Prop :=
  (interval ≤ 1 ∧ registered = [sought] ∧ sought.2.isGroup = true) ∨
    (1 < interval ∧ 1 < registered.length ∧ sought.1 = "group")

def Contains (whole : Value S) (registered : List (String × RecordAction S))
    (sought : String × RecordAction S) : Prop :=
  (registered = [sought] ∧ whole = sought.2.rows workspace) ∨
    ∃ table, 1 < registered.length ∧ whole = .table table ∧
      table.lookup sought.1 = some (sought.2.rows workspace)

variable {registered : List (String × RecordAction S)} {sought : String × RecordAction S}

theorem contains_rows (interval : Int) (distinct : (registered.map Prod.fst).Nodup)
    (member : sought ∈ registered) :
    Contains workspace ((thinnedBy interval (gathered registered)).rows workspace) registered
      sought := by
  rw [rows_thinned]
  match registered, distinct, member with
  | [only], _, member =>
      obtain rfl := List.mem_singleton.mp member
      exact .inl ⟨rfl, rfl⟩
  | first :: second :: rest, distinct, member =>
      refine .inr ⟨rowsOfAll workspace (first :: second :: rest), by simp, rfl, ?_⟩
      rw [rowsOfAll_eq_map]
      have sameNames : (((first :: second :: rest).map fun entry =>
          (entry.1, entry.2.rows workspace)).map Prod.fst).Nodup := by
        rw [List.map_map]
        exact distinct
      exact lookup_of_distinct sameNames (List.mem_map_of_mem member)

theorem read_alone_iff (interval : Int) (named : sought.2.name = sought.1) :
    (thinnedBy interval sought.2).read workspace (some sought.1) =
        .ok (sought.2.rows workspace) ↔
      ¬ Hides interval [sought] sought := by
  rw [← named, thinnedBy]
  by_cases thin : 1 < interval
  · rw [if_pos thin, read_every, if_pos rfl]
    have thick : ¬ interval ≤ 1 := by omega
    simp [Hides, thick]
  · rw [if_neg thin, read_name_iff]
    have thick : interval ≤ 1 := by omega
    simp [Hides, thin, thick]

theorem read_several_iff (interval : Int) (several : 1 < registered.length)
    (distinct : (registered.map Prod.fst).Nodup) (member : sought ∈ registered) :
    (thinnedBy interval (groupOf registered)).read workspace (some sought.1) =
        .ok (sought.2.rows workspace) ↔
      ¬ Hides interval registered sought := by
  have other : registered ≠ [sought] := by
    rintro rfl
    simp at several
  have own : (groupOf registered).name = "group" := rfl
  have found := read_member workspace distinct member "group"
  rw [thinnedBy, own]
  by_cases thin : 1 < interval
  · rw [if_pos thin, read_every]
    by_cases taken : sought.1 = "group"
    · rw [if_pos taken]
      have larger := rows_ne_rows_group workspace "group" member
      simp [Hides, thin, several, taken, groupOf, larger]
    · rw [if_neg taken, groupOf]
      simp [Hides, taken, other, found]
  · rw [if_neg thin, groupOf]
    simp [Hides, thin, other, found]

theorem read_registered_iff (interval : Int) (distinct : (registered.map Prod.fst).Nodup)
    (named : ∀ entry ∈ registered, entry.2.name = entry.1) (member : sought ∈ registered) :
    (thinnedBy interval (gathered registered)).read workspace (some sought.1) =
        .ok (sought.2.rows workspace) ↔
      ¬ Hides interval registered sought := by
  match registered, distinct, named, member with
  | [only], _, named, member =>
      obtain rfl := List.mem_singleton.mp member
      exact read_alone_iff workspace interval (named sought List.mem_cons_self)
  | first :: second :: rest, distinct, _, member =>
      exact read_several_iff workspace interval (by simp) distinct member

end Reading

end RecordAction

namespace Decorator

variable {S : Type}

def recording? : List (Decorator S) → Option (RecordAction S)
  | [] => none
  | .record action :: _ => some action
  | _ :: inner => recording? inner

theorem readRecord_eq_read [Scalar S] {decorators : List (Decorator S)} {action : RecordAction S}
    (outermost : recording? decorators = some action) (workspace : Workspace S)
    (requested : Option String) :
    readRecord workspace requested decorators = action.read workspace requested := by
  induction decorators with
  | nil => cases outermost
  | cons outer inner ih =>
      cases outer with
      | record present =>
          cases outermost
          rfl
      | debug _ => exact ih outermost
      | observer _ => exact ih outermost
      | plain => exact ih outermost

end Decorator

/-- What a list configures is registered under names that are all different. Whatever was recorded,
as after any run, a decorated state that is read as a whole holds each record under its name, and
asked for that name it finds the same record, unless the name is hidden; then it never does. -/
theorem names_find_records {S : Type} [Scalar S] {entries : List (RecordEntry S)}
    {action : RecordAction S} {before after : Journal × Workspace S}
    (ran : (RecordAction.ofEntries entries).run before = (.ok action, after)) :
    ∃ registered : List (String × RecordAction S),
      List.Forall₂ RecordEntry.Registers (RecordEntry.naming entries) registered ∧
      (registered.map Prod.fst).Nodup ∧
      ∀ (decorators : List (Decorator S)) (workspace : Workspace S),
        Decorator.recording? decorators = some action → ∀ sought ∈ registered,
          (∃ whole, Decorator.readRecord workspace none decorators = .ok whole ∧
            RecordAction.Contains workspace whole registered sought) ∧
          (Decorator.readRecord workspace (some sought.1) decorators =
              .ok (sought.2.rows workspace) ↔
            ¬ RecordAction.Hides (RecordEntry.intervalOf entries 1) registered sought) := by
  obtain ⟨registered, registers, -, distinct, rfl⟩ := RecordAction.ofEntries_registers ran
  refine ⟨registered, registers, distinct, ?_⟩
  intro decorators workspace outermost sought member
  rw [Decorator.readRecord_eq_read outermost, Decorator.readRecord_eq_read outermost]
  constructor
  · exact ⟨_, rfl, RecordAction.contains_rows workspace _ distinct member⟩
  · have named := RecordEntry.name_of_registers registers
    exact RecordAction.read_registered_iff workspace _ distinct named member

section Sample

open Sample

def sampleCosts : RecordAction Int := .group "group" [("cost", .column 0 "cost" .cost)]

def sampleJournal : Journal × Workspace Int :=
  ({}, { workspace with actions := List.replicate 2 {} })

def sampleMemory : Memory Int :=
  (memory.1, { memory.2 with workspace := { workspace with actions := List.replicate 3 {} } })

def sampleNames : List (RecordEntry Int) :=
  [.named "costs" sampleCosts, .raw (.integer 2),
    .action (.every "change" 3 false (.column 1 "change" .change)), .raw (.text "iteration")]

/-- A group under another name, a thinned action and a name, all of them thinned. -/
theorem sample_names_find_records : ∃ (action : RecordAction Int) (after : Journal × Workspace Int)
    (point : Point Int) (last : Memory Int),
    (RecordAction.ofEntries sampleNames).run sampleJournal = (.ok action, after) ∧
      (solveWithin 5 problem [.observer "seen", .record action]).run sampleMemory =
        (.ok point, last) ∧
      Decorator.readRecord last.2.workspace (some "costs") [.observer "seen", .record action] =
        .ok (.table [("cost", .list (last.2.workspace.action 0).rows)]) ∧
      Decorator.readRecord last.2.workspace (some "change") [.observer "seen", .record action] =
        .ok (.list (last.2.workspace.action 1).rows) := by
  obtain ⟨action, after, ran, same⟩ : ∃ action after,
      (RecordAction.ofEntries sampleNames).run sampleJournal = (.ok action, after) ∧
        action = .every "group" 2 true (.group "group" [("costs", sampleCosts.rename "costs"),
          ("change", .every "change" 3 false (.column 1 "change" .change)),
          ("iteration", .column 2 "iteration" .iteration)]) := ⟨_, _, rfl, rfl⟩
  have succeeds : ((solveWithin 5 problem [.observer "seen", .record action]).run
      sampleMemory).1.isOk = true := by
    rw [same]
    decide +kernel
  obtain ⟨point, last, ended⟩ := exists_ok_of_isOk succeeds
  obtain ⟨registered, registers, -, finds⟩ := names_find_records ran
  have outermost : Decorator.recording? [.observer "seen", .record action] = some action := rfl
  have listed : RecordEntry.naming sampleNames = [.named "costs" sampleCosts,
      .action (.every "change" 3 false (.column 1 "change" .change)),
      .raw (.text "iteration")] := rfl
  rw [listed] at registers
  obtain _ | ⟨⟨⟩, _ | ⟨⟨⟩, _ | ⟨_, _ | _⟩⟩⟩ := registers
  have everywhere := finds _ last.2.workspace outermost
  have costs := (everywhere _ List.mem_cons_self).2.mpr (by simp [RecordAction.Hides])
  have change := (everywhere _ (List.mem_cons_of_mem _ List.mem_cons_self)).2.mpr
    (by simp [RecordAction.Hides, RecordAction.name])
  exact ⟨action, after, point, last, ran, ended, costs, change⟩

def sampleTaken : List (RecordEntry Int) :=
  [.action sampleCosts, .raw (.text "iteration"), .raw (.integer 2)]

/-- A thinned group answers to "group" with everything, though a member is registered under that. -/
theorem name_of_thinned_group_taken : ∃ (action : RecordAction Int)
    (after : Journal × Workspace Int) (point : Point Int) (last : Memory Int),
    (RecordAction.ofEntries sampleTaken).run sampleJournal = (.ok action, after) ∧
      .action sampleCosts ∈ sampleTaken ∧
      (RecordEntry.action sampleCosts).Registers ("group", sampleCosts) ∧
      (solveWithin 5 problem [.record action]).run sampleMemory = (.ok point, last) ∧
      Decorator.readRecord last.2.workspace (some "group") [.record action] =
        Decorator.readRecord last.2.workspace none [.record action] ∧
      Decorator.readRecord last.2.workspace (some "group") [.record action] ≠
        .ok (sampleCosts.rows last.2.workspace) := by
  obtain ⟨action, after, ran, same⟩ : ∃ action after,
      (RecordAction.ofEntries sampleTaken).run sampleJournal = (.ok action, after) ∧
        action = .every "group" 2 true (.group "group" [("group", sampleCosts),
          ("iteration", .column 2 "iteration" .iteration)]) := ⟨_, _, rfl, rfl⟩
  have succeeds : ((solveWithin 5 problem [.record action]).run sampleMemory).1.isOk = true := by
    rw [same]
    decide +kernel
  obtain ⟨point, last, ended⟩ := exists_ok_of_isOk succeeds
  refine ⟨action, after, point, last, ran, List.mem_cons_self, .action sampleCosts, ended, ?_, ?_⟩
  · rw [same]
    rfl
  · rw [same]
    intro found
    have inside : ("group", sampleCosts) ∈ [("group", sampleCosts),
        ("iteration", .column 2 "iteration" .iteration)] := List.mem_cons_self
    apply RecordAction.rows_ne_rows_group last.2.workspace "group" inside
    exact Except.ok.inj found

end Sample

end ProximalSplitting

import ProximalSplitting.Proofs.Watching.Rows

/-!
Actions with a memory of their own. Glances that do not use a memory leave it as it is; a column
that nothing else uses changes its memory once for every iteration that it is called with. Thinned
columns are called every so many iterations, and with -1 or not at all in between.
-/

namespace ProximalSplitting

namespace Glance

variable {S : Type}

def memory? : Glance S → Option Nat
  | debug (.change number _) _ _ => some number
  | column number _ _ => some number
  | _ => none

def touching (number : Nat) (glances : List (Glance S)) : List (Glance S) :=
  glances.filter fun glance => glance.memory? = some number

theorem touching_append (number : Nat) (first rest : List (Glance S)) :
    touching number (first ++ rest) = touching number first ++ touching number rest :=
  List.filter_append ..

theorem touching_cons_of_eq {number : Nat} {first : Glance S} (own : first.memory? = some number)
    (rest : List (Glance S)) : touching number (first :: rest) = first :: touching number rest :=
  List.filter_cons_of_pos (decide_eq_true own)

theorem touching_cons_of_ne {number : Nat} {first : Glance S} (other : first.memory? ≠ some number)
    (rest : List (Glance S)) : touching number (first :: rest) = touching number rest :=
  List.filter_cons_of_neg (by simpa using other)

theorem touching_eq_nil_iff {number : Nat} {glances : List (Glance S)} :
    touching number glances = [] ↔ ∀ glance ∈ glances, glance.memory? ≠ some number := by
  simp [touching, List.filter_eq_nil_iff]

theorem action_leave_of_ne {number : Nat} {glance : Glance S}
    (other : glance.memory? ≠ some number) (iterate : Point S) (found : String × Value S)
    (workspace : Workspace S) :
    (glance.leave iterate found workspace).action number = workspace.action number := by
  cases glance with
  | debug action single iteration =>
      cases action with
      | change used label =>
          have different : used ≠ number := fun same => other (congrArg some same)
          rw [leave, DebugAction.note, Workspace.action_changeAction_of_ne _ _ _ different]
          rfl
      | _ => rfl
  | column used kind iteration =>
      have different : used ≠ number := fun same => other (congrArg some same)
      exact Workspace.action_changeAction_of_ne _ _ _ different
  | label content => rfl
  | refusal => rfl

variable [Scalar S] {problem : Problem S} {state : SolverState S}

theorem action_runAll_of_untouched {glances : List (Glance S)}
    {before after : Journal × Workspace S}
    (ran : (runAll problem state glances).run before = (.ok (), after)) {number : Nat}
    (untouched : touching number glances = []) :
    after.2.action number = before.2.action number := by
  induction glances generalizing before with
  | nil =>
      cases ran
      rfl
  | cons first rest ih =>
      obtain ⟨found, journal, _, ran⟩ := runAll_cons_ok ran
      have each := touching_eq_nil_iff.mp untouched
      have later := touching_eq_nil_iff.mpr fun glance member =>
        each glance (List.mem_cons_of_mem first member)
      exact (ih ran later).trans (action_leave_of_ne (each first List.mem_cons_self) _ _ _)

/-- A memory that a single glance of a column uses gets the value that the column writes down. -/
theorem action_runAll_of_column {glances : List (Glance S)} {before after : Journal × Workspace S}
    (ran : (runAll problem state glances).run before = (.ok (), after)) {number : Nat}
    {kind : RecordKind} {seen : Int} (once : touching number glances = [.column number kind seen])
    (allocated : number < before.2.actions.length) :
    ∃ value, (kind.row problem state (before.2.action number).lastIterate seen).Yields value ∧
      after.2.action number = kind.note state.iterate value seen (before.2.action number) := by
  induction glances generalizing before with
  | nil => cases once
  | cons first rest ih =>
      obtain ⟨found, journal, sought, ran⟩ := runAll_cons_ok ran
      by_cases own : first.memory? = some number
      · rw [touching_cons_of_eq own] at once
        obtain ⟨rfl, untouched⟩ := List.cons.inj once
        obtain ⟨value, middle, written, ended⟩ := Effect.run_bind_ok_iff.mp sought
        cases ended
        refine ⟨value, ⟨before.1, journal, written⟩, ?_⟩
        rw [action_runAll_of_untouched ran untouched]
        exact Workspace.action_changeAction_self _ _ _ allocated
      · rw [touching_cons_of_ne own] at once
        have kept := action_leave_of_ne own state.iterate found before.2
        have length := length_actions_leave first state.iterate found before.2
        have later := ih ran once (length.symm ▸ allocated)
        rwa [kept] at later

end Glance

def RecordKind.thinned {S : Type} (kind : RecordKind) (number interval : Nat) (always : Bool)
    (iteration : Nat) : List (Glance S) :=
  if interval ∣ iteration then [.column number kind iteration]
  else if always then [.column number kind (-1)]
  else []

theorem RecordKind.touching_thinned {S : Type} (kind : RecordKind) (number interval : Nat)
    (always : Bool) (iteration : Nat) :
    Glance.touching number (kind.thinned number interval always iteration : List (Glance S)) =
      kind.thinned number interval always iteration := by
  rw [thinned]
  split
  · exact Glance.touching_cons_of_eq rfl []
  · split
    · exact Glance.touching_cons_of_eq rfl []
    · rfl

structure Column where
  number : Nat
  name : String
  kind : RecordKind

namespace Column

variable {S : Type}

def action (column : Column) : RecordAction S := .column column.number column.name column.kind

def member (column : Column) : String × RecordAction S := (column.name, column.action)

def glance (seen : Int) (column : Column) : Glance S := .column column.number column.kind seen

theorem glancesOfAll_member (columns : List Column) (iteration : Int) :
    RecordAction.glancesOfAll (columns.map member) iteration =
      columns.map (glance (S := S) iteration) := by
  induction columns with
  | nil => rw [List.map_nil, List.map_nil, RecordAction.glancesOfAll]
  | cons first rest ih =>
      rw [List.map_cons, List.map_cons, member, RecordAction.glancesOfAll, ih, action,
        RecordAction.glances]
      rfl

theorem touching_glances {columns : List Column} (distinct : (columns.map number).Nodup)
    {column : Column} (among : column ∈ columns) (seen : Int) :
    Glance.touching column.number (columns.map (glance (S := S) seen)) = [column.glance seen] := by
  induction columns with
  | nil => cases among
  | cons first rest ih =>
      obtain ⟨unlike, distinct⟩ := List.nodup_cons.mp distinct
      rw [List.map_cons]
      rcases List.mem_cons.mp among with rfl | later
      · rw [Glance.touching_cons_of_eq rfl]
        refine congrArg _ (Glance.touching_eq_nil_iff.mpr fun shown member same => unlike ?_)
        obtain ⟨other, present, rfl⟩ := List.mem_map.mp member
        exact List.mem_map.mpr ⟨other, present, Option.some.inj same⟩
      · have different : (glance (S := S) seen first).memory? ≠ some column.number := fun same =>
          unlike (List.mem_map.mpr ⟨column, later, (Option.some.inj same).symm⟩)
        rw [Glance.touching_cons_of_ne different, ih distinct later]

end Column

theorem dvd_iff_passed (interval : Nat) (iteration : Nat) :
    ((iteration : Int) ≤ 0 || decide ((iteration : Int) % (interval : Int) = 0)) =
      decide (interval ∣ iteration) := by
  by_cases due : interval ∣ iteration
  · have multiple : (iteration : Int) % (interval : Int) = 0 :=
      Int.emod_eq_zero_of_dvd (Int.natCast_dvd_natCast.mpr due)
    rw [decide_eq_true multiple, decide_eq_true due, Bool.or_true]
  · have notZero : iteration ≠ 0 := fun zero => due (zero ▸ Nat.dvd_zero interval)
    have rest : (iteration : Int) % (interval : Int) ≠ 0 := fun zero =>
      due (Int.natCast_dvd_natCast.mp (Int.dvd_of_emod_eq_zero zero))
    rw [decide_eq_false rest, decide_eq_false due, decide_eq_false (by omega)]
    rfl

namespace RecordAction

variable {S : Type}

theorem glances_every (name : String) (interval : Nat) (always : Bool) (action : RecordAction S)
    (iteration : Nat) :
    (every name interval always action).glances iteration =
      if interval ∣ iteration then action.glances iteration
      else if always then action.glances (-1) else [] := by
  rw [glances, dvd_iff_passed]
  by_cases due : interval ∣ iteration
  · rw [if_pos due, if_pos (decide_eq_true due)]
  · rw [if_neg due, if_neg (by simpa using due)]

def ofColumns : List Column → RecordAction S
  | [only] => only.action
  | several => groupOf (several.map Column.member)

def thinnedBy (interval : Int) (action : RecordAction S) : RecordAction S :=
  if 1 < interval then .every action.name interval true action else action

theorem glances_ofColumns (columns : List Column) (iteration : Int) :
    (ofColumns columns : RecordAction S).glances iteration =
      columns.map (Column.glance iteration) := by
  have grouped : (groupOf (columns.map Column.member) : RecordAction S).glances iteration =
      columns.map (Column.glance iteration) := by
    rw [groupOf, glances, Column.glancesOfAll_member]
  match columns, grouped with
  | [only], _ =>
      rw [ofColumns, Column.action, glances]
      rfl
  | [], grouped => exact grouped
  | _ :: _ :: _, grouped => exact grouped

theorem touching_thinnedBy {columns : List Column}
    (distinct : (columns.map Column.number).Nodup) {column : Column} (among : column ∈ columns)
    {interval : Nat} (positive : 1 ≤ interval) (iteration : Nat) :
    Glance.touching column.number
        ((thinnedBy interval (ofColumns columns : RecordAction S)).glances iteration) =
      column.kind.thinned column.number interval true iteration := by
  have once := fun seen => Column.touching_glances (S := S) distinct among seen
  rw [thinnedBy, RecordKind.thinned]
  by_cases several : (1 : Int) < interval
  · rw [if_pos several, glances_every]
    split
    · rw [glances_ofColumns, once]
      rfl
    · rw [if_pos rfl, if_pos rfl, glances_ofColumns, once]
      rfl
  · have one : interval = 1 := by omega
    rw [if_neg several, if_pos (one ▸ Nat.one_dvd iteration), glances_ofColumns, once]
    rfl

theorem glances_every_column (label name : String) (interval number : Nat) (kind : RecordKind)
    (always : Bool) (iteration : Nat) :
    (every label interval always (column number name kind) : RecordAction S).glances iteration =
      kind.thinned number interval always iteration := by
  rw [glances_every, glances, glances, RecordKind.thinned]

def memories (action : RecordAction S) : List Nat := (action.glances 0).filterMap Glance.memory?

inductive Has (part : RecordAction S) : RecordAction S → Prop
  | self : Has part part
  | member {name key : String} {members : List (String × RecordAction S)}
      {action : RecordAction S} :
      (key, action) ∈ members → Has part action → Has part (.group name members)

theorem glancesOfAll_append (left right : List (String × RecordAction S)) (iteration : Int) :
    glancesOfAll (left ++ right) iteration =
      glancesOfAll left iteration ++ glancesOfAll right iteration := by
  induction left with
  | nil => simp [glancesOfAll]
  | cons first rest ih => simp [glancesOfAll, ih]

theorem touching_glancesOfAll_of_not_mem {members : List (String × RecordAction S)} {number : Nat}
    (unused : number ∉ (glancesOfAll members 0).filterMap Glance.memory?) (iteration : Int) :
    Glance.touching number (glancesOfAll members iteration) = [] := by
  refine Glance.touching_eq_nil_iff.mpr fun glance shown own => unused ?_
  obtain ⟨used, kind, seen, rfl, _, atZero⟩ := mem_glancesOfAll members iteration shown
  exact List.mem_filterMap.mpr ⟨_, atZero, own⟩

/-- In an action whose columns are all different, a part is the only one to use its memories. -/
theorem Has.touching {part action : RecordAction S} (has : Has part action)
    (distinct : action.memories.Nodup) {number : Nat} (own : number ∈ part.memories)
    (iteration : Int) :
    number ∈ action.memories ∧
      Glance.touching number (action.glances iteration) =
        Glance.touching number (part.glances iteration) := by
  induction has with
  | self => exact ⟨own, rfl⟩
  | @member name key members action member _ ih =>
      obtain ⟨left, right, rfl⟩ := List.append_of_mem member
      rw [memories, glances, glancesOfAll_append, glancesOfAll, List.filterMap_append,
        List.filterMap_append] at distinct
      obtain ⟨_, distinctRest, leftApart⟩ := List.nodup_append.mp distinct
      obtain ⟨distinctAction, _, rightApart⟩ := List.nodup_append.mp distinctRest
      obtain ⟨used, same⟩ := ih distinctAction
      have inRest := List.mem_append_left
        ((glancesOfAll right 0).filterMap Glance.memory?) used
      -- The members on both sides use other memories, so only the member itself is left.
      have ofLeft := touching_glancesOfAll_of_not_mem
        (fun member => leftApart number member number inRest rfl) iteration
      have ofRight := touching_glancesOfAll_of_not_mem
        (fun member => rightApart number used number member rfl) iteration
      constructor
      · rw [memories, glances, glancesOfAll_append, glancesOfAll, List.filterMap_append,
          List.filterMap_append]
        exact List.mem_append_right _ inRest
      · rw [glances, glancesOfAll_append, glancesOfAll, Glance.touching_append,
          Glance.touching_append, ofLeft, ofRight, same, List.nil_append, List.append_nil]

def rowsOfColumns (workspace : Workspace S) : List Column → Value S
  | [only] => .list (workspace.action only.number).rows
  | several => .table (several.map fun column =>
      (column.name, .list (workspace.action column.number).rows))

theorem rowsOfAll_eq_map (members : List (String × RecordAction S)) (workspace : Workspace S) :
    rowsOfAll workspace members =
      members.map fun member => (member.1, member.2.rows workspace) := by
  induction members with
  | nil => rw [rowsOfAll, List.map_nil]
  | cons first rest ih => rw [rowsOfAll, ih, List.map_cons]

theorem rowsOfAll_member (columns : List Column) (workspace : Workspace S) :
    rowsOfAll workspace (columns.map Column.member) = columns.map fun column =>
      (column.name, .list (workspace.action column.number).rows) := by
  rw [rowsOfAll_eq_map, List.map_map]
  apply List.map_congr_left
  intro column _
  rw [Function.comp_apply, Column.member, Column.action, rows]

/-- How often an action is called makes no difference to how its rows are read. -/
theorem rows_thinned (interval : Int) (action : RecordAction S) (workspace : Workspace S) :
    (thinnedBy interval action).rows workspace = action.rows workspace := by
  rw [thinnedBy]
  split
  · rw [rows]
  · rfl

theorem rows_thinnedBy (interval : Int) (columns : List Column) (workspace : Workspace S) :
    (thinnedBy interval (ofColumns columns)).rows workspace = rowsOfColumns workspace columns := by
  have grouped : (groupOf (columns.map Column.member)).rows workspace =
      .table (columns.map fun column =>
        (column.name, .list (workspace.action column.number).rows)) := by
    rw [groupOf, rows, rowsOfAll_member]
  rw [rows_thinned]
  match columns, grouped with
  | [only], _ => rw [ofColumns, Column.action, rows, rowsOfColumns]
  | [], grouped => exact grouped
  | _ :: _ :: _, grouped => exact grouped

end RecordAction

namespace Decorator

variable {S : Type}

def Uses (decorator : Decorator S) (number : Nat) : Prop :=
  ∃ glance ∈ decorator.glances 0, glance.memory? = some number

theorem touching_glances_of_not_uses {decorator : Decorator S} {number : Nat}
    (unused : ¬ decorator.Uses number) (iteration : Nat) :
    Glance.touching number (decorator.glances iteration) = [] := by
  refine Glance.touching_eq_nil_iff.mpr fun glance member own => unused ?_
  have alone : ∀ seen, Decorator.glancesOfAll [decorator] seen = decorator.glances seen :=
    fun seen => List.flatMap_singleton _ _
  rw [← alone] at member
  cases glance with
  | debug action single seen =>
      have atZero := (mem_glances_debug member).2 (Int.natCast_nonneg iteration)
      rw [alone] at atZero
      refine ⟨_, atZero, ?_⟩
      cases action with
      | change used label => exact own
      | _ => cases own
  | column used kind seen =>
      have atZero := (mem_glances_column member).2
      rw [alone] at atZero
      exact ⟨_, atZero, own⟩
  | label content => cases own
  | refusal => cases own

theorem touching_glancesOfAll_of_not_uses {decorators : List (Decorator S)} {number : Nat}
    (unused : ∀ decorator ∈ decorators, ¬ decorator.Uses number) (iteration : Nat) :
    Glance.touching number (glancesOfAll decorators iteration) = [] := by
  refine Glance.touching_eq_nil_iff.mpr fun glance member => ?_
  obtain ⟨decorator, around, shown⟩ := List.mem_flatMap.mp member
  exact Glance.touching_eq_nil_iff.mp
    (touching_glances_of_not_uses (unused decorator around) iteration) glance shown

structure Apart (decorators : List (Decorator S)) (action : RecordAction S) : Prop where
  around : ∃ outer inner, decorators = outer ++ .record action :: inner ∧
    ∀ other ∈ outer ++ inner, ∀ number, (record action).Uses number → ¬ other.Uses number

theorem Apart.touching {decorators : List (Decorator S)} {action : RecordAction S}
    (apart : Apart decorators action) {number : Nat} (uses : (record action).Uses number)
    (iteration : Nat) :
    Glance.touching number (glancesOfAll decorators iteration) =
      Glance.touching number (action.glances iteration) := by
  obtain ⟨outer, inner, rfl, others⟩ := apart.around
  have ofOuter : Glance.touching number (glancesOfAll outer iteration) = [] :=
    touching_glancesOfAll_of_not_uses
      (fun other member => others other (List.mem_append_left _ member) number uses) iteration
  have ofInner : Glance.touching number (glancesOfAll inner iteration) = [] :=
    touching_glancesOfAll_of_not_uses
      (fun other member => others other (List.mem_append_right _ member) number uses) iteration
  have shown : (record action).glances iteration = action.glances iteration := by
    rw [glances, if_pos (Int.natCast_nonneg iteration)]
  have split : glancesOfAll (outer ++ record action :: inner) iteration =
      glancesOfAll outer iteration ++ ((record action).glances iteration ++
        glancesOfAll inner iteration) := by
    rw [glancesOfAll, List.flatMap_append, List.flatMap_cons]
    rfl
  rw [split, Glance.touching_append, Glance.touching_append, ofOuter, ofInner, shown,
    List.nil_append, List.append_nil]

end Decorator

end ProximalSplitting

import ProximalSplitting.Proofs.Stopping.Agreement
import ProximalSplitting.Proofs.Watching.Iterations

/-!
Two workspaces in which decorators show the same. What a glance finds depends on the state, on the
reason of the criterion and on the iterate that its action remembers. After a call for iteration 0 an
action remembers the same on both sides, whatever it remembered before.
-/

namespace ProximalSplitting

open Effect Tracked

variable {S : Type}

namespace Glance

def watches : Glance S → Option Nat
  | debug (.change number _) _ _ => some number
  | column number .change _ => some number
  | _ => none

def looksBack : Glance S → Option Nat
  | debug (.change number _) _ iteration => if 0 < iteration then some number else none
  | column number .change iteration => if 0 < iteration then some number else none
  | _ => none

/-- Whether a glance shows how many iterations the latest completed run took. -/
def ReadsCount : Glance S → Prop
  | debug (.entry field _) _ iteration => field = "iterations" ∧ 0 ≤ iteration
  | column _ (.entry field) _ => field = "iterations"
  | _ => False

structure Ready (known : List (Glance S)) (glance : Glance S) : Prop where
  uncounted : ¬ glance.ReadsCount
  familiar : ∀ number, glance.looksBack = some number →
    ∃ earlier ∈ known, earlier.watches = some number

theorem Ready.mono {known more : List (Glance S)} {glance : Glance S} (ready : glance.Ready known)
    (among : ∀ earlier ∈ known, earlier ∈ more) : glance.Ready more := by
  refine ⟨ready.uncounted, fun number compares => ?_⟩
  obtain ⟨earlier, member, watched⟩ := ready.familiar number compares
  exact ⟨earlier, among earlier member, watched⟩

end Glance

structure Workspace.Shown (leftText rightText : String) (known : List (Glance S))
    (left right : Workspace S) : Prop where
  length : left.actions.length = right.actions.length
  printed : ∃ text, left.printed = leftText ++ text ∧ right.printed = rightText ++ text
  lastIterate : ∀ glance ∈ known, ∀ number, glance.watches = some number →
    (left.action number).lastIterate = (right.action number).lastIterate
  rows : ∀ number kind, .column number kind 0 ∈ known →
    (left.action number).rows = (right.action number).rows

namespace Workspace

theorem action_of_showing {left right : Workspace S} (same : left.showing = right.showing)
    (number : Nat) : left.action number = right.action number := by
  have actions : left.actions = right.actions := congrArg Prod.snd same
  rw [action, action, actions]

namespace Shown

variable {leftText rightText : String} {known : List (Glance S)} {left right : Workspace S}

theorem start (length : left.actions.length = right.actions.length) :
    Shown left.printed right.printed [] left right where
  length := length
  printed := ⟨"", by rw [String.append_empty], by rw [String.append_empty]⟩
  lastIterate := fun _ member => nomatch member
  rows := fun _ _ member => nomatch member

theorem mono {fewer : List (Glance S)} (shown : Shown leftText rightText known left right)
    (among : ∀ glance ∈ fewer, glance ∈ known) : Shown leftText rightText fewer left right where
  length := shown.length
  printed := shown.printed
  lastIterate := fun glance member => shown.lastIterate glance (among glance member)
  rows := fun number kind member => shown.rows number kind (among _ member)

theorem congr_showing {left' right' : Workspace S} (shown : Shown leftText rightText known left right)
    (sameLeft : left'.showing = left.showing) (sameRight : right'.showing = right.showing) :
    Shown leftText rightText known left' right' where
  length := by
    have actionsLeft : left'.actions = left.actions := congrArg Prod.snd sameLeft
    have actionsRight : right'.actions = right.actions := congrArg Prod.snd sameRight
    rw [actionsLeft, actionsRight, shown.length]
  printed := by
    obtain ⟨text, printedLeft, printedRight⟩ := shown.printed
    exact ⟨text, (congrArg Prod.fst sameLeft).trans printedLeft,
      (congrArg Prod.fst sameRight).trans printedRight⟩
  lastIterate := fun glance member number watched => by
    rw [action_of_showing sameLeft, action_of_showing sameRight,
      shown.lastIterate glance member number watched]
  rows := fun number kind member => by
    rw [action_of_showing sameLeft, action_of_showing sameRight, shown.rows number kind member]

theorem write (shown : Shown leftText rightText known left right) (content : String) :
    Shown leftText rightText known (left.write content) (right.write content) where
  length := shown.length
  printed := by
    obtain ⟨text, printedLeft, printedRight⟩ := shown.printed
    refine ⟨text ++ content, ?_, ?_⟩
    · rw [Workspace.write, printedLeft, String.append_assoc]
    · rw [Workspace.write, printedRight, String.append_assoc]
  lastIterate := shown.lastIterate
  rows := shown.rows

theorem changeAction (shown : Shown leftText rightText known left right) (number : Nat)
    (change : ActionMemory S → ActionMemory S)
    (iterates : ∀ memory mirrored, memory.lastIterate = mirrored.lastIterate →
      (change memory).lastIterate = (change mirrored).lastIterate)
    (rows : ∀ memory mirrored, memory.rows = mirrored.rows →
      (change memory).rows = (change mirrored).rows) :
    Shown leftText rightText known (left.changeAction number change)
      (right.changeAction number change) where
  length := by rw [length_changeAction, length_changeAction, shown.length]
  printed := shown.printed
  lastIterate := fun glance member other watched => field_modify ActionMemory.lastIterate
    shown.length iterates (shown.lastIterate glance member other watched)
  rows := fun other kind member => field_modify ActionMemory.rows shown.length rows
    (shown.rows other kind member)

theorem learn {glance : Glance S} (shown : Shown leftText rightText known left right)
    (lastIterate : ∀ number, glance.watches = some number →
      (left.action number).lastIterate = (right.action number).lastIterate)
    (rows : ∀ number kind, glance = .column number kind 0 →
      (left.action number).rows = (right.action number).rows) :
    Shown leftText rightText (glance :: known) left right where
  length := shown.length
  printed := shown.printed
  lastIterate := fun other member number watched => by
    rcases List.mem_cons.mp member with rfl | earlier
    · exact lastIterate number watched
    · exact shown.lastIterate other earlier number watched
  rows := fun number kind member => by
    rcases List.mem_cons.mp member with same | earlier
    · exact rows number kind same.symm
    · exact shown.rows number kind earlier

theorem leave (shown : Shown leftText rightText known left right) (glance : Glance S)
    (iterate : Point S) (found : String × Value S) :
    Shown leftText rightText (glance :: known) (glance.leave iterate found left)
      (glance.leave iterate found right) := by
  cases glance with
  | debug action single iteration =>
      have written := shown.write found.1
      cases action with
      | change number label =>
          have changed := written.changeAction number
            (fun memory => { memory with lastIterate := some iterate }) (fun _ _ _ => rfl)
            fun _ _ same => same
          refine changed.learn (fun other watched => ?_) fun _ _ same => nomatch same
          cases watched
          exact field_modify_of_set ActionMemory.lastIterate written.length (fun _ _ => rfl) rfl
      | _ => exact written.learn (fun _ watched => nomatch watched) fun _ _ same => nomatch same
  | column number kind iteration =>
      have changed := shown.changeAction number (kind.note iterate found.2 iteration)
        (fun _ _ same => by simp only [RecordKind.note, same])
        fun _ _ same => by simp only [RecordKind.note, same]
      refine changed.learn (fun other watched => ?_) fun other seen same => ?_
      · cases kind with
        | change =>
            cases watched
            exact field_modify_of_set ActionMemory.lastIterate shown.length (fun _ _ => rfl) rfl
        | _ => cases watched
      · cases same
        exact field_modify_of_set ActionMemory.rows shown.length (fun _ _ => rfl) rfl
  | label content =>
      exact (shown.write found.1).learn (fun _ watched => nomatch watched)
        fun _ _ same => nomatch same
  | refusal =>
      exact shown.learn (fun _ watched => nomatch watched) fun _ _ same => nomatch same

end Shown

end Workspace

section Alike

variable [Scalar S] {steady : Prop} {left right : SolverState S} (alike : left.Alike steady right)
  (criterion : left.criterion = right.criterion)
include alike criterion

theorem SolverState.Alike.field {name : String} (uncounted : name ≠ "iterations") :
    right.field name = left.field name := by
  rw [SolverState.field, SolverState.field]
  unfold SolverState.field?
  rw [← alike.extras, ← alike.iterate, ← alike.method, ← criterion]
  split
  · rfl
  · exact absurd rfl uncounted
  · rfl
  · rfl

variable {problem : Problem S} {workspace mirrored : Workspace S}

theorem DebugAction.output_eq {action : DebugAction S} {iteration : Int}
    {single : action.isSingle = true} (reason : left.reason workspace = right.reason mirrored)
    (uncounted : ¬ (Glance.debug action single iteration).ReadsCount)
    (lastIterate : ∀ number, (Glance.debug action single iteration).looksBack = some number →
      (workspace.action number).lastIterate = (mirrored.action number).lastIterate) :
    action.output problem right mirrored iteration =
      action.output problem left workspace iteration := by
  cases action with
  | change number label =>
      rw [output, output]
      by_cases positive : 0 < iteration
      · rw [if_pos positive, if_pos positive, alike.measureChange,
          lastIterate number (if_pos positive)]
      · rw [if_neg positive, if_neg positive]
  | entry field label =>
      rw [output, output]
      by_cases shown : 0 ≤ iteration
      · rw [if_pos shown, if_pos shown,
          alike.field criterion fun counted => uncounted ⟨counted, shown⟩]
      · rw [if_neg shown, if_neg shown]
  | iterate label => rw [output, output, alike.iterate]
  | cost label => rw [output, output, alike.iterate]
  | parameter label => rw [output, output, alike.parameterAt]
  | reason => rw [output, output, reason]
  | _ => rfl

theorem RecordKind.row_eq {kind : RecordKind} {number : Nat} {iteration : Int}
    (uncounted : ¬ (Glance.column number kind iteration : Glance S).ReadsCount)
    (lastIterate : ∀ other, (Glance.column number kind iteration : Glance S).looksBack = some other →
      (workspace.action other).lastIterate = (mirrored.action other).lastIterate) :
    kind.row problem right (mirrored.action number).lastIterate iteration =
      kind.row problem left (workspace.action number).lastIterate iteration := by
  cases kind with
  | change =>
      rw [row, row]
      by_cases positive : 0 < iteration
      · rw [if_pos positive, if_pos positive, alike.measureChange,
          lastIterate number (if_pos positive)]
      · rw [if_neg positive, if_neg positive]
  | entry field => exact alike.field criterion uncounted
  | iterate => rw [row, row, alike.iterate]
  | cost => rw [row, row, alike.iterate]
  | parameter => rw [row, row, alike.parameterAt]
  | iteration => rfl

theorem Glance.figure_eq {leftText rightText : String} {known : List (Glance S)}
    (shown : Workspace.Shown leftText rightText known workspace mirrored)
    (reason : left.reason workspace = right.reason mirrored) {glance : Glance S}
    (ready : glance.Ready known) :
    glance.figure problem right mirrored = glance.figure problem left workspace := by
  have lastIterate : ∀ number, glance.looksBack = some number →
      (workspace.action number).lastIterate = (mirrored.action number).lastIterate := by
    intro number compares
    obtain ⟨earlier, member, watched⟩ := ready.familiar number compares
    exact shown.lastIterate earlier member number watched
  cases glance with
  | debug action single iteration =>
      rw [figure, figure, DebugAction.output_eq alike criterion reason ready.uncounted lastIterate]
  | column number kind iteration =>
      rw [figure, figure, RecordKind.row_eq alike criterion ready.uncounted lastIterate]
  | label content => rfl
  | refusal => rfl

end Alike

abbrev Workspace.Matched (criterion : Criterion S) (leftText rightText : String)
    (known : List (Glance S)) (left right : Workspace S) : Prop :=
  Workspace.Agree criterion.numbers criterion.leaves left right ∧
    Workspace.Shown leftText rightText known left right

section Looking

variable {criterion : Criterion S} {leftText rightText : String} {known : List (Glance S)}

theorem SolverState.Paired.reason {left right : SolverState S} (paired : left.Paired criterion right)
    {workspace mirrored : Workspace S}
    (matched : workspace.Matched criterion leftText rightText known mirrored) :
    left.reason workspace = right.reason mirrored := by
  rw [SolverState.reason, SolverState.reason, paired.leftCriterion, paired.rightCriterion]
  exact congrArg Except.ok (matched.1.reason _ criterion.number_mem_numbers)

variable [Scalar S] {problem : Problem S} {left right : SolverState S}
  (paired : left.Paired criterion right)
include paired

theorem Glance.run_leads {glance : Glance S} (ready : glance.Ready known) :
    Leads (Beside False (Workspace.Matched criterion leftText rightText known))
      (Beside False (Workspace.Matched criterion leftText rightText known))
      (Beside False (Workspace.Matched criterion leftText rightText (glance :: known)))
      (glance.run problem left) (glance.run problem right) := by
  rintro ⟨journal, workspace⟩ ⟨journal', mirrored⟩ ⟨journals, matched⟩
  obtain rfl : journal = journal' := journals.resolve_right id
  have sameCriterion : left.criterion = right.criterion :=
    paired.leftCriterion.trans paired.rightCriterion.symm
  have sameFigure : glance.figure problem right mirrored = glance.figure problem left workspace :=
    figure_eq paired.alike sameCriterion matched.2 (paired.reason matched) ready
  rw [run_eq problem left glance, run_eq problem right glance, sameFigure]
  rcases (glance.figure problem left workspace).run journal with ⟨outcome, after⟩
  cases outcome with
  | error fault => exact ⟨rfl, ⟨.inl rfl, matched⟩, fun _ ended => nomatch ended⟩
  | ok found =>
      have judged : Workspace.Agree criterion.numbers criterion.leaves
          (glance.leave left.iterate found workspace)
          (glance.leave right.iterate found mirrored) :=
        matched.1.congr_judging (glance.judging_leave _ _ _) (glance.judging_leave _ _ _)
      have shown := matched.2.leave glance left.iterate found
      rw [← paired.alike.iterate] at judged ⊢
      exact ⟨rfl, ⟨.inl rfl, judged, shown.mono fun _ member => List.mem_cons_of_mem glance member⟩,
        fun _ _ => ⟨.inl rfl, judged, shown⟩⟩

theorem Glance.runAll_leads {glances : List (Glance S)}
    (ready : ∀ glance ∈ glances, glance.Ready known) :
    Leads (Beside False (Workspace.Matched criterion leftText rightText known))
      (Beside False (Workspace.Matched criterion leftText rightText known))
      (Beside False (Workspace.Matched criterion leftText rightText (glances ++ known)))
      (runAll problem left glances) (runAll problem right glances) := by
  induction glances generalizing known with
  | nil => exact (mirrors_pure ()).leads fun _ _ related => related
  | cons first rest ih =>
      have later : ∀ glance ∈ rest, glance.Ready (first :: known) := fun glance member =>
        (ready glance (List.mem_cons_of_mem first member)).mono fun _ earlier =>
          List.mem_cons_of_mem first earlier
      refine leads_bind (run_leads paired (ready first List.mem_cons_self)) fun _ => ?_
      refine (ih later).weaken (fun _ _ related => ⟨related.1, ?_⟩)
        fun _ _ related => ⟨related.1, ?_⟩
      · exact ⟨related.2.1, related.2.2.mono fun _ member => List.mem_cons_of_mem first member⟩
      · refine ⟨related.2.1, related.2.2.mono fun _ member => ?_⟩
        simpa only [List.mem_append, List.mem_cons, or_assoc, or_left_comm] using member

end Looking

namespace Decorator

variable {decorators : List (Decorator S)}

/-- After the calls for iteration 0 every later glance of the decorators is ready. -/
theorem ready_of_mem_glances (uncounted : ∀ glance ∈ glancesOfAll decorators 0, ¬ glance.ReadsCount)
    {iteration : Int} {known : List (Glance S)}
    (opened : 0 < iteration → ∀ glance ∈ glancesOfAll decorators 0, glance ∈ known)
    {glance : Glance S} (member : glance ∈ glancesOfAll decorators iteration) :
    glance.Ready known := by
  -- Only an entry shows the count, and only a change looks back at what was remembered.
  cases glance with
  | debug called single seen =>
      obtain ⟨sees, atZero⟩ := mem_glances_debug member
      rw [Glance.Sees] at sees
      refine ⟨fun counts => ?_, fun number compares => ?_⟩
      · cases called with
        | entry field label =>
            have shown : 0 ≤ seen := counts.2
            exact uncounted _ (atZero (by omega)) ⟨counts.1, Int.le_refl 0⟩
        | _ => exact counts
      · cases called with
        | change other label =>
            rw [Glance.looksBack] at compares
            split at compares
            · cases compares
              exact ⟨_, opened (by omega) _ (atZero (by omega)), rfl⟩
            · cases compares
        | _ => cases compares
  | column number kind seen =>
      obtain ⟨sees, atZero⟩ := mem_glances_column member
      rw [Glance.Sees] at sees
      refine ⟨fun counts => ?_, fun other compares => ?_⟩
      · cases kind with
        | entry field => exact uncounted _ atZero counts
        | _ => exact counts
      · cases kind with
        | change =>
            rw [Glance.looksBack] at compares
            split at compares
            · cases compares
              exact ⟨_, opened (by omega) _ atZero, rfl⟩
            · cases compares
        | _ => cases compares
  | label content => exact ⟨id, fun _ compares => nomatch compares⟩
  | refusal => exact ⟨id, fun _ compares => nomatch compares⟩

end Decorator

end ProximalSplitting

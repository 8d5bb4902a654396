import Mathlib.Data.Set.Basic
import ProximalSplitting.Compiler

/-!
Calls of decorated functions through one store, with the store switched and cleared between them. A
compiled function stands for what it computes, so a store holds the functions themselves.
-/

namespace ProximalSplitting

structure Decorated (V R : Type) where
  key : CompileKey
  parameters : Nat
  function : List V → R

variable {V R : Type}

namespace Decorated

def Fits (decorated : Decorated V R) : Prop :=
  positionsFit decorated.parameters decorated.key.fixedPositions = true

def refused (decorated : Decorated V R) (compiler : Compiler (List V → R)) : Bool :=
  compiler.enabled && (compiler.compiled.lookup decorated.key).isNone &&
    !positionsFit decorated.parameters decorated.key.fixedPositions

def call (decorated : Decorated V R) (arguments : List V) (compiler : Compiler (List V → R)) :
    Option R × Compiler (List V → R) :=
  if decorated.refused compiler then (none, compiler)
  else
    let (chosen, after) := compiler.select decorated.key decorated.function
    (some (chosen arguments), after)

end Decorated

namespace Compiler

inductive Event (V R : Type) where
  | switch (enabled : Bool)
  | clear
  | call (decorated : Decorated V R) (arguments : List V)

def Event.change : Event V R → Compiler (List V → R) → Compiler (List V → R)
  | .switch enabled, compiler => compiler.switch enabled
  | .clear, compiler => compiler.clear
  | .call decorated arguments, compiler => (decorated.call arguments compiler).2

def after (history : List (Event V R)) (compiler : Compiler (List V → R)) :
    Compiler (List V → R) :=
  history.foldl (fun now event => event.change now) compiler

def answers : List (Event V R) → Compiler (List V → R) → List (Option R)
  | [], _ => []
  | .call decorated arguments :: later, compiler =>
      (decorated.call arguments compiler).1 :: answers later (decorated.call arguments compiler).2
  | event :: later, compiler => answers later (event.change compiler)

def plainAnswers (history : List (Event V R)) : List (Option R) :=
  history.filterMap fun
    | .call decorated arguments => some (some (decorated.function arguments))
    | _ => none

def Within (members : Set (Decorated V R)) (history : List (Event V R)) : Prop :=
  ∀ decorated arguments, Event.call decorated arguments ∈ history → decorated ∈ members

variable {compiler : Compiler (List V → R)} {key : CompileKey} {function : List V → R}
  {decorated other : Decorated V R} {arguments : List V}

/-! ### One call -/

theorem lookup_compile_self :
    (compiler.compile key function).2.compiled.lookup key =
      some (compiler.compile key function).1 := by
  unfold compile
  cases found : compiler.compiled.lookup key with
  | some stored => exact found
  | none => simp [List.lookup_append, found]

theorem lookup_compile_of_stored {name : CompileKey} {stored : List V → R}
    (found : compiler.compiled.lookup name = some stored) :
    (compiler.compile key function).2.compiled.lookup name = some stored := by
  unfold compile
  cases compiler.compiled.lookup key with
  | some _ => exact found
  | none => simp [List.lookup_append, found]

/-- What compiling leaves under a name was there before, or is the function just compiled. -/
theorem lookup_compile_cases {name : CompileKey} {stored : List V → R}
    (found : (compiler.compile key function).2.compiled.lookup name = some stored) :
    compiler.compiled.lookup name = some stored ∨ name = key ∧ stored = function := by
  unfold compile at found
  cases there : compiler.compiled.lookup key with
  | some _ =>
      rw [there] at found
      exact .inl found
  | none =>
      rw [there] at found
      rw [List.lookup_append] at found
      cases before : compiler.compiled.lookup name with
      | some _ =>
          rw [before] at found
          exact .inl found
      | none =>
          rw [before, Option.none_or] at found
          by_cases same : name = key
          · subst same
            simp only [List.lookup_cons, BEq.rfl, Option.some.injEq] at found
            exact .inr ⟨rfl, found.symm⟩
          · rw [List.lookup_cons, beq_false_of_ne same] at found
            cases found

theorem call_of_disabled (off : compiler.enabled = false) :
    decorated.call arguments compiler = (some (decorated.function arguments), compiler) := by
  simp [Decorated.call, Decorated.refused, select, off]

theorem call_of_refused (refused : decorated.refused compiler = true) :
    decorated.call arguments compiler = (none, compiler) := by
  simp [Decorated.call, refused]

theorem call_of_enabled (on : compiler.enabled = true)
    (accepted : decorated.refused compiler = false) :
    decorated.call arguments compiler =
      (some ((compiler.compile decorated.key decorated.function).1 arguments),
        (compiler.compile decorated.key decorated.function).2) := by
  simp [Decorated.call, accepted, select, on]

theorem call_of_stored {stored : List V → R} (on : compiler.enabled = true)
    (found : compiler.compiled.lookup decorated.key = some stored) :
    decorated.call arguments compiler = (some (stored arguments), compiler) := by
  have accepted : decorated.refused compiler = false := by simp [Decorated.refused, found]
  rw [call_of_enabled on accepted]
  simp [compile, found]

theorem compile_enabled :
    (compiler.compile key function).2.enabled = compiler.enabled := by
  unfold compile
  cases compiler.compiled.lookup key <;> rfl

theorem call_enabled : (decorated.call arguments compiler).2.enabled = compiler.enabled := by
  cases on : compiler.enabled with
  | false => rw [call_of_disabled on, on]
  | true =>
      cases refused : decorated.refused compiler with
      | true => rw [call_of_refused refused, on]
      | false => rw [call_of_enabled on refused, compile_enabled, on]

/-! ### What stays stored -/

/-- Only clearing takes a compiled function away. -/
theorem lookup_change {event : Event V R} {stored : List V → R} (kept : event ≠ .clear)
    (found : compiler.compiled.lookup key = some stored) :
    (event.change compiler).compiled.lookup key = some stored := by
  cases event with
  | switch enabled => exact found
  | clear => exact absurd rfl kept
  | call decorated arguments =>
      cases on : compiler.enabled with
      | false =>
          simp only [Event.change, call_of_disabled on]
          exact found
      | true =>
          cases refused : decorated.refused compiler with
          | true =>
              simp only [Event.change, call_of_refused refused]
              exact found
          | false =>
              simp only [Event.change, call_of_enabled on refused]
              exact lookup_compile_of_stored found

theorem lookup_after {history : List (Event V R)} {stored : List V → R}
    (kept : Event.clear ∉ history) (found : compiler.compiled.lookup key = some stored) :
    (after history compiler).compiled.lookup key = some stored := by
  induction history generalizing compiler with
  | nil => exact found
  | cons event later ih =>
      rw [List.mem_cons, not_or] at kept
      exact ih kept.2 (lookup_change (Ne.symm kept.1) found)

/-- Until the store is cleared, the function that was called first under a key while the store was
enabled answers every call under that key. -/
theorem call_answers_first {between : List (Event V R)} {first : List V}
    (on : compiler.enabled = true) (new : compiler.compiled.lookup decorated.key = none)
    (fits : decorated.Fits) (kept : Event.clear ∉ between)
    (still : (after (.call decorated first :: between) compiler).enabled = true)
    (same : other.key = decorated.key) :
    (other.call arguments (after (.call decorated first :: between) compiler)).1 =
      some (decorated.function arguments) := by
  have accepted : decorated.refused compiler = false := by
    have fitting : positionsFit decorated.parameters decorated.key.fixedPositions = true := fits
    simp [Decorated.refused, fitting]
  have own : (compiler.compile decorated.key decorated.function).1 = decorated.function := by
    simp [compile, new]
  have stored : ((Event.call decorated first).change compiler).compiled.lookup decorated.key =
      some decorated.function := by
    simp only [Event.change, call_of_enabled on accepted]
    rw [lookup_compile_self, own]
  have found : (after (.call decorated first :: between) compiler).compiled.lookup other.key =
      some decorated.function := by
    rw [same]
    change (after between _).compiled.lookup decorated.key = _
    exact lookup_after kept stored
  rw [call_of_stored still found]

/-! ### Histories over a set of functions -/

/-- What is stored under the key of a member is the member's own function. -/
def Faithful (members : Set (Decorated V R)) (compiler : Compiler (List V → R)) : Prop :=
  ∀ decorated ∈ members, ∀ stored,
    compiler.compiled.lookup decorated.key = some stored → stored = decorated.function

variable {members : Set (Decorated V R)}

theorem faithful_empty (enabled : Bool) :
    Faithful members ⟨enabled, []⟩ := by
  intro decorated _ stored found
  cases found

/-- A call through a faithful store returns what the function returns and leaves the store
faithful. -/
theorem Faithful.call (faithful : Faithful members compiler) (arguments : List V)
    (member : decorated ∈ members) (fits : decorated.Fits)
    (agree : ∀ left ∈ members, ∀ right ∈ members, left.key = right.key →
      left.function = right.function) :
    (decorated.call arguments compiler).1 = some (decorated.function arguments) ∧
      Faithful members (decorated.call arguments compiler).2 := by
  cases on : compiler.enabled with
  | false =>
      rw [call_of_disabled on]
      exact ⟨rfl, faithful⟩
  | true =>
      have accepted : decorated.refused compiler = false := by
        have fitting : positionsFit decorated.parameters decorated.key.fixedPositions = true := fits
        simp [Decorated.refused, fitting]
      have chosen : (compiler.compile decorated.key decorated.function).1 =
          decorated.function := by
        unfold compile
        cases found : compiler.compiled.lookup decorated.key with
        | some stored => exact faithful decorated member stored found
        | none => rfl
      rw [call_of_enabled on accepted, chosen]
      refine ⟨rfl, ?_⟩
      intro left present stored found
      rcases lookup_compile_cases found with before | ⟨same, rfl⟩
      · exact faithful left present stored before
      · exact agree decorated member left present same.symm

theorem Faithful.answers (faithful : Faithful members compiler)
    (fit : ∀ decorated ∈ members, decorated.Fits)
    (agree : ∀ left ∈ members, ∀ right ∈ members, left.key = right.key →
      left.function = right.function)
    {history : List (Event V R)} (within : Within members history) :
    Compiler.answers history compiler = plainAnswers history := by
  induction history generalizing compiler with
  | nil => rfl
  | cons event later ih =>
      have rest : Within members later := fun decorated arguments present =>
        within decorated arguments (List.mem_cons_of_mem event present)
      cases event with
      | switch enabled =>
          have kept : Faithful members (compiler.switch enabled) := faithful
          exact ih kept rest
      | clear => exact ih (faithful_empty compiler.enabled) rest
      | call decorated arguments =>
          have member := within decorated arguments List.mem_cons_self
          obtain ⟨answer, kept⟩ := faithful.call arguments member (fit decorated member) agree
          simp only [Compiler.answers, plainAnswers, List.filterMap_cons]
          rw [answer, ih kept rest]
          rfl

/-- Calls of these functions return what the functions return, in every history, exactly if each
function has the positions it is compiled with and functions with one key are the same function.
Nothing else about a function enters its key. -/
theorem answers_plain_iff (members : Set (Decorated V R)) :
    (∀ history, Within members history → answers history {} = plainAnswers history) ↔
      (∀ decorated ∈ members, decorated.Fits) ∧
        ∀ left ∈ members, ∀ right ∈ members, left.key = right.key →
          left.function = right.function := by
  constructor
  · intro right
    have fit : ∀ decorated ∈ members, decorated.Fits := by
      intro decorated member
      by_contra unfit
      have refused : decorated.refused ({} : Compiler (List V → R)) = true := by
        simpa [Decorated.refused, Decorated.Fits] using unfit
      have once := right [.call decorated []] (by
        intro called arguments present
        cases List.mem_singleton.mp present
        exact member)
      simp [answers, plainAnswers, call_of_refused refused] at once
    refine ⟨fit, ?_⟩
    intro first present second member same
    funext arguments
    have twice := right [.call first arguments, .call second arguments] (by
      intro called given listed
      simp only [List.mem_cons, List.not_mem_nil, or_false] at listed
      rcases listed with listed | listed <;> cases listed <;> assumption)
    have reused : (second.call arguments (after [.call first arguments] {})).1 =
        some (first.function arguments) :=
      call_answers_first rfl rfl (fit first present) List.not_mem_nil call_enabled same.symm
    simp only [answers, plainAnswers, List.filterMap_cons, List.filterMap_nil,
      List.cons.injEq] at twice
    have last := twice.2.1
    rw [show (first.call arguments {}).2 = after [.call first arguments] {} from rfl,
      reused] at last
    exact Option.some.inj last
  · intro ⟨fit, agree⟩ history within
    exact (faithful_empty true).answers fit agree within

def sampleScale (factor : Int) : Decorated Int Int where
  key := ⟨"scaling.<locals>.scale", []⟩
  parameters := 1
  function arguments := factor * arguments.headD 0

def sampleHistory : List (Event Int Int) :=
  [.call (sampleScale 2) [5], .call (sampleScale 3) [5]]

/-- After the first of two such functions was called, the second returns what the first returns. -/
theorem sampleHistory_answers :
    (sampleScale 2).Fits ∧ (sampleScale 3).Fits ∧
      answers sampleHistory {} = [some 10, some 10] ∧
      plainAnswers sampleHistory = [some 10, some 15] := by
  refine ⟨rfl, rfl, ?_, ?_⟩
  · decide
  · decide

end Compiler

end ProximalSplitting

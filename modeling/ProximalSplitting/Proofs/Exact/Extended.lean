import ProximalSplitting.Proofs.Exact.Real

/-!
Exact numbers among values that stand for none. A scalar is read as a number, as infinite or as
undefined; numbers are added, subtracted, compared and rounded up exactly, and an undefined value
compares with nothing. So a scalar lies between two numbers only if it stands for one.
-/

namespace ProximalSplitting

class OrderedScalar (S : Type) extends
    ExactScalar S, LinearOrder S, IsStrictOrderedRing S, FloorRing S where
  atMost_iff : ∀ left right : S, Scalar.atMost left right = true ↔ left ≤ right
  ceiling_eq : ∀ number : S, Scalar.ceiling number = ⌈number⌉

instance : OrderedScalar ℚ where
  __ := (inferInstance : ExactScalar ℚ)
  __ := (inferInstance : LinearOrder ℚ)
  __ := (inferInstance : IsStrictOrderedRing ℚ)
  __ := (inferInstance : FloorRing ℚ)
  atMost_iff := fun _ _ => decide_eq_true_iff
  ceiling_eq := fun number => by
    have below : number.ceil < number + 1 := Rat.ceil_lt
    refine (Int.ceil_eq_iff.mpr ⟨?_, Rat.le_ceil⟩).symm
    linarith

noncomputable instance : OrderedScalar ℝ where
  __ := (inferInstance : RealScalar ℝ)
  __ := (inferInstance : FloorRing ℝ)
  ceiling_eq := fun _ => rfl

inductive Extended (F : Type) where
  | number (value : F)
  | infinite (negative : Bool)
  | undefined

namespace Extended

def atMost {F : Type} [LinearOrder F] : Extended F → Extended F → Bool
  | number left, number right => decide (left ≤ right)
  | number _, infinite negative => !negative
  | infinite negative, number _ => negative
  | infinite left, infinite right => left || !right
  | _, _ => false

end Extended

class ExtendedScalar (S : Type) (F : outParam Type) [Scalar S] [CommRing F] [LinearOrder F]
    [FloorRing F] where
  reading : S → Extended F
  eq_of_reading : ∀ {left right : S} {value : F}, reading left = .number value →
    reading right = .number value → left = right
  atMost_eq : ∀ left right : S, Scalar.atMost left right = (reading left).atMost (reading right)
  reading_ofInt : ∀ number : Int, reading (Scalar.ofInt number) = .number (number : F)
  reading_add : ∀ {left right : S} {first second : F}, reading left = .number first →
    reading right = .number second → reading (left + right) = .number (first + second)
  reading_sub : ∀ {left right : S} {first second : F}, reading left = .number first →
    reading right = .number second → reading (left - right) = .number (first - second)
  ceiling_eq : ∀ {scalar : S} {value : F}, reading scalar = .number value →
    Scalar.ceiling scalar = ⌈value⌉

instance {S : Type} [OrderedScalar S] : ExtendedScalar S S where
  reading := .number
  eq_of_reading := by
    rintro left right _ ⟨⟩ ⟨⟩
    rfl
  atMost_eq := fun left right => by
    rw [Bool.eq_iff_iff, OrderedScalar.atMost_iff, Extended.atMost, decide_eq_true_iff]
  reading_ofInt := fun number => congrArg Extended.number (ExactScalar.ofInt_eq number)
  reading_add := by
    rintro left right _ _ ⟨⟩ ⟨⟩
    rfl
  reading_sub := by
    rintro left right _ _ ⟨⟩ ⟨⟩
    rfl
  ceiling_eq := by
    rintro scalar _ ⟨⟩
    exact OrderedScalar.ceiling_eq scalar

namespace Scalar

variable {S F : Type} [Scalar S] [CommRing F] [LinearOrder F] [FloorRing F] [ExtendedScalar S F]

open ExtendedScalar

def Within (scalar : S) (bound : F) : Prop :=
  ∃ value, reading scalar = .number value ∧ 0 ≤ value ∧ value ≤ bound

theorem reading_zero : reading (Scalar.zero : S) = .number (0 : F) := by
  rw [Scalar.zero, reading_ofInt, Int.cast_zero]

theorem reading_one : reading (Scalar.one : S) = .number (1 : F) := by
  rw [Scalar.one, reading_ofInt, Int.cast_one]

theorem within_iff (scalar : S) (count : Nat) :
    (Scalar.atMost Scalar.zero scalar && Scalar.atMost scalar (Scalar.ofInt count)) = true ↔
      Within scalar (count : F) := by
  rw [Bool.and_eq_true, ExtendedScalar.atMost_eq, ExtendedScalar.atMost_eq, reading_zero,
    reading_ofInt, Int.cast_natCast]
  constructor
  · rintro ⟨low, high⟩
    cases read : reading scalar with
    | number value =>
        rw [read] at low high
        simp only [Extended.atMost, decide_eq_true_eq] at low high
        exact ⟨value, read, low, high⟩
    | infinite negative =>
        rw [read] at low high
        cases negative with
        | true => cases low
        | false => cases high
    | undefined =>
        rw [read] at low
        cases low
  · rintro ⟨value, read, low, high⟩
    rw [read]
    simp only [Extended.atMost, decide_eq_true_eq]
    exact ⟨low, high⟩

end Scalar

structure Scalar.CountsTo (S : Type) [Scalar S] (bound : Nat) : Prop where
  atMost : ∀ {left right : Nat}, left ≤ bound → right ≤ bound →
    (Scalar.atMost (Scalar.ofInt left : S) (Scalar.ofInt right) = true ↔ left ≤ right)
  ceiling : ∀ {number : Nat}, number ≤ bound → Scalar.ceiling (Scalar.ofInt number : S) = number
  restart : ∀ {number : Nat}, number ≤ bound →
    (Scalar.ofInt number - Scalar.ofInt number + Scalar.one : S) = Scalar.one

theorem ExtendedScalar.countsTo {S F : Type} [Scalar S] [CommRing F] [LinearOrder F]
    [IsStrictOrderedRing F] [FloorRing F] [ExtendedScalar S F] (bound : Nat) :
    Scalar.CountsTo S bound where
  atMost := by
    intro left right _ _
    rw [atMost_eq, reading_ofInt, reading_ofInt, Extended.atMost, decide_eq_true_iff]
    norm_cast
  ceiling := by
    intro number _
    rw [ceiling_eq (reading_ofInt number)]
    simp
  restart := by
    intro number _
    have counted := reading_ofInt (S := S) number
    refine eq_of_reading (reading_add (reading_sub counted counted) Scalar.reading_one) ?_
    rw [sub_self, zero_add, Scalar.reading_one]

namespace Extended

variable {F : Type} [OrderedScalar F]

def lift (operation : F → F) : Extended F → Extended F
  | number value => number (operation value)
  | _ => undefined

def lift₂ (operation : F → F → F) : Extended F → Extended F → Extended F
  | number left, number right => number (operation left right)
  | _, _ => undefined

def less : Extended F → Extended F → Bool
  | number left, number right => decide (left < right)
  | number _, infinite negative => !negative
  | infinite negative, number _ => negative
  | infinite left, infinite right => left && !right
  | _, _ => false

def opposite : Extended F → Extended F
  | number value => number (-value)
  | infinite negative => infinite !negative
  | undefined => undefined

def plus : Extended F → Extended F → Extended F
  | number left, number right => number (left + right)
  | infinite left, infinite right => if left = right then infinite left else undefined
  | infinite negative, number _ => infinite negative
  | number _, infinite negative => infinite negative
  | _, _ => undefined

def times : Extended F → Extended F → Extended F
  | number left, number right => number (left * right)
  | infinite left, infinite right => infinite (left != right)
  | infinite negative, number value =>
      if value = 0 then undefined else infinite (negative != decide (value < 0))
  | number value, infinite negative =>
      if value = 0 then undefined else infinite (negative != decide (value < 0))
  | _, _ => undefined

def quotient : Extended F → Extended F → Extended F
  | number left, number right =>
      if right ≠ 0 then number (left / right)
      else if left = 0 then undefined
      else infinite (decide (left < 0))
  | infinite negative, number value => infinite (negative != decide (value < 0))
  | number _, infinite _ => number 0
  | _, _ => undefined

def root : Extended F → Extended F
  | number value => if value < 0 then undefined else number (Scalar.sqrt value)
  | infinite false => infinite false
  | _ => undefined

def rounded (round : F → Int) : Extended F → Int
  | number value => round value
  | _ => 0

def written (text : F → String) : Extended F → String
  | number value => text value
  | infinite negative => if negative then "-inf" else "inf"
  | undefined => "nan"

instance : Scalar (Extended F) where
  add := plus
  sub := fun left right => plus left (opposite right)
  mul := times
  div := quotient
  neg := opposite
  ofInt := fun number => .number (Scalar.ofInt number)
  decimal := fun digits places => .number (Scalar.decimal digits places)
  sqrt := root
  sin := lift Scalar.sin
  cos := lift Scalar.cos
  arctan2 := lift₂ Scalar.arctan2
  power := lift₂ Scalar.power
  less := less
  atMost := atMost
  isNumber := fun | undefined => false | _ => true
  isFinite := fun | number _ => true | _ => false
  ceiling := rounded Scalar.ceiling
  truncate := rounded Scalar.truncate
  text := written Scalar.text
  brief := written Scalar.brief
  fixed := fun places => written (Scalar.fixed places)
  ofText? := fun text => (Scalar.ofText? text).map .number

instance : ExtendedScalar (Extended F) F where
  reading := id
  eq_of_reading := fun left right => left.trans right.symm
  atMost_eq := fun _ _ => rfl
  reading_ofInt := fun number => congrArg Extended.number (ExactScalar.ofInt_eq number)
  reading_add := by
    rintro _ _ _ _ rfl rfl
    rfl
  reading_sub := by
    rintro _ _ first second rfl rfl
    exact congrArg number (sub_eq_add_neg first second).symm
  ceiling_eq := by
    rintro _ value rfl
    exact OrderedScalar.ceiling_eq value

end Extended

end ProximalSplitting

/-!
The numbers that geometry and solvers compute with. Everything numeric in the library is written
over `Scalar`, so that the same definitions run on binary floating point numbers and can be read
over an exact field.

What is not a number compares with nothing, not even with itself; it wins every `maximum` and
`minimum` and is its own sign. `text` writes the shortest digits that read back as the number,
`brief` rounds to the digits of an array entry, and `fixed` to a number of decimal places.
-/

namespace ProximalSplitting

class Scalar (S : Type) extends Add S, Sub S, Mul S, Div S, Neg S where
  ofInt : Int → S
  decimal : (digits places : Nat) → S
  sqrt : S → S
  sin : S → S
  cos : S → S
  arctan2 : (ordinate abscissa : S) → S
  power : (base exponent : S) → S
  less : S → S → Bool
  atMost : S → S → Bool
  isNumber : S → Bool
  isFinite : S → Bool
  ceiling : S → Int
  truncate : S → Int
  text : S → String
  brief : S → String
  fixed : (places : Nat) → S → String
  ofText? : String → Option S

namespace Scalar

variable {S : Type} [Scalar S]

def zero : S := ofInt 0

def one : S := ofInt 1

def half : S := decimal 5 1

def same (left right : S) : Bool :=
  atMost left right && atMost right left

def abs (number : S) : S :=
  if less number zero then -number else number

def maximum (left right : S) : S :=
  if !isNumber left then left
  else if !isNumber right then right
  else if less left right then right else left

def minimum (left right : S) : S :=
  if !isNumber left then left
  else if !isNumber right then right
  else if less right left then right else left

def sign (number : S) : S :=
  if less zero number then one
  else if less number zero then -one
  else if isNumber number then zero else number

def square (number : S) : S := number * number

def total (numbers : List S) : S :=
  numbers.foldl (· + ·) zero

def firstSmallest (numbers : List S) : Nat :=
  match numbers.findIdx? (fun number => !isNumber number) with
  | some position => position
  | none => numbers.findIdx fun number => numbers.all (atMost number ·)

end Scalar

end ProximalSplitting

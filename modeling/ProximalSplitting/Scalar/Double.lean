import ProximalSplitting.Scalar
import ProximalSplitting.Decimal.Binary
import ProximalSplitting.Decimal.Reading

/-!
Binary floating point numbers as scalars: the numbers that programs run on.
-/

namespace ProximalSplitting

namespace Double

def infinity : Float := 1.0 / 0.0

def undefined : Float := 0.0 / 0.0

def ofDecimal (negative : Bool) (digits : Nat) (exponent : Int) : Float :=
  let magnitude := Float.ofScientific digits (exponent < 0) exponent.natAbs
  if negative then -magnitude else magnitude

def ofRealText : RealText → Float
  | .finite negative digits exponent => ofDecimal negative digits exponent
  | .infinite negative => if negative then -infinity else infinity
  | .undefined => undefined

def written (finite : Binary → String) (number : Float) : String :=
  match Binary.ofFloat? number with
  | some binary => finite binary
  | none => if number.isNaN then "nan" else if number < 0.0 then "-inf" else "inf"

def ceiling (number : Float) : Int :=
  match Binary.ofFloat? number with
  | none => 0
  | some binary =>
      if binary.negative then -(binary.numerator / binary.denominator : Nat)
      else ((binary.numerator + binary.denominator - 1) / binary.denominator : Nat)

def truncate (number : Float) : Int :=
  match Binary.ofFloat? number with
  | none => 0
  | some binary =>
      let magnitude : Int := (binary.numerator / binary.denominator : Nat)
      if binary.negative then -magnitude else magnitude

end Double

instance : Scalar Float where
  ofInt := Float.ofInt
  decimal := fun digits places => Float.ofScientific digits true places
  sqrt := Float.sqrt
  sin := Float.sin
  cos := Float.cos
  arctan2 := Float.atan2
  power := Float.pow
  less := fun left right => left < right
  atMost := fun left right => left ≤ right
  isNumber := fun number => !number.isNaN
  isFinite := Float.isFinite
  ceiling := Double.ceiling
  truncate := Double.truncate
  text := Double.written fun binary => binary.shortest.render .standard
  brief := Double.written fun binary => binary.brief.render .unsignedZero
  fixed := fun places => Double.written fun binary =>
    Decimal.renderPlaces places binary.negative (binary.places places)
  ofText? := fun text => (RealText.ofText? text).map Double.ofRealText

end ProximalSplitting

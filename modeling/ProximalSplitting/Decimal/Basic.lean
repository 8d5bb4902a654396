/-!
Decimal numerals: a sign, digits and a power of ten, and how they are written down. `NumeralFormat`
holds the decisions of a written form, `Decimal.render` writes a numeral in it.
-/

namespace ProximalSplitting

structure Decimal where
  negative : Bool
  digits : Nat
  exponent : Int
deriving DecidableEq

structure NumeralFormat where
  leastPlain : Int
  leastScaled : Int
  exponentWidth : Nat
  signedZero : Bool

def NumeralFormat.standard : NumeralFormat := ⟨-4, 16, 2, true⟩

def NumeralFormat.unsignedZero : NumeralFormat :=
  { NumeralFormat.standard with signedZero := false }

def roundedQuotient (numerator denominator : Nat) : Nat :=
  let floor := numerator / denominator
  let twice := 2 * (numerator % denominator)
  if twice < denominator then floor
  else if denominator < twice then floor + 1
  else if floor % 2 = 0 then floor else floor + 1

def digitCount (number : Nat) : Nat :=
  (Nat.toDigits 10 number).length

namespace Decimal

def dropZeros : List Char → Nat × List Char
  | '0' :: rest => let (count, kept) := dropZeros rest; (count + 1, kept)
  | kept => (0, kept)

def significant (decimal : Decimal) : List Char × Int :=
  let (count, kept) := dropZeros (Nat.toDigits 10 decimal.digits).reverse
  (kept.reverse, decimal.exponent + count)

def zeros (count : Int) : List Char :=
  List.replicate count.toNat '0'

def paddedNat (width number : Nat) : List Char :=
  let written := Nat.toDigits 10 number
  List.replicate (width - written.length) '0' ++ written

def plain (written : List Char) (whole : Int) : List Char :=
  if whole ≤ 0 then ['0', '.'] ++ zeros (-whole) ++ written
  else if written.length ≤ whole then
    written ++ zeros (whole - written.length) ++ ['.', '0']
  else written.take whole.toNat ++ '.' :: written.drop whole.toNat

def scaled (exponentWidth : Nat) (written : List Char) (power : Int) : List Char :=
  let fraction := match written with
    | first :: second :: rest => first :: '.' :: second :: rest
    | short => short
  fraction ++ 'e' :: (if power < 0 then '-' else '+') :: paddedNat exponentWidth power.natAbs

def render (format : NumeralFormat) (decimal : Decimal) : String :=
  if decimal.digits = 0 then
    if decimal.negative && format.signedZero then "-0.0" else "0.0"
  else
    let (written, lastPower) := decimal.significant
    let whole := lastPower + written.length
    let power := whole - 1
    let unsigned :=
      if format.leastPlain ≤ power && power < format.leastScaled then plain written whole
      else scaled format.exponentWidth written power
    String.ofList (if decimal.negative then '-' :: unsigned else unsigned)

def renderPlaces (places : Nat) (negative : Bool) (units : Nat) : String :=
  let written := paddedNat (places + 1) units
  let whole := written.length - places
  let unsigned := written.take whole ++ (if places = 0 then [] else '.' :: written.drop whole)
  String.ofList (if negative then '-' :: unsigned else unsigned)

end Decimal

example : Decimal.render .standard ⟨false, 25, -2⟩ = "0.25" := by decide
example : Decimal.render .standard ⟨true, 1, -5⟩ = "-1e-05" := by decide
example : Decimal.render .standard ⟨false, 1, 15⟩ = "1000000000000000.0" := by decide
example : Decimal.render .standard ⟨false, 125, 14⟩ = "1.25e+16" := by decide
example : Decimal.render .standard ⟨false, 1000, -4⟩ = "0.1" := by decide
example : Decimal.renderPlaces 3 false 500 = "0.500" := by decide

end ProximalSplitting

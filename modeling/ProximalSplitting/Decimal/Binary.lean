import ProximalSplitting.Decimal.Basic

/-!
The exact value of a binary floating point number, and three decimal numerals for it: the shortest
one that reads back as the number, the one rounded to nine digits, and the one with a fixed count of
places. All of them are computed in exact integer arithmetic.
-/

namespace ProximalSplitting

structure Binary where
  negative : Bool
  significand : Nat
  exponent : Int

namespace Binary

def ofFloat? (number : Float) : Option Binary :=
  let bits : Nat := number.toBits.toNat
  let negative := bits / Nat.pow 2 63 = 1
  let scale : Nat := bits / Nat.pow 2 52 % Nat.pow 2 11
  let fraction : Nat := bits % Nat.pow 2 52
  if scale = 2047 then none
  else if scale = 0 then some ⟨negative, fraction, -1074⟩
  else some ⟨negative, Nat.pow 2 52 + fraction, (scale : Int) - 1075⟩

def unit (binary : Binary) : Nat := Nat.pow 2 binary.exponent.toNat

def denominator (binary : Binary) : Nat := Nat.pow 2 (-binary.exponent).toNat

def numerator (binary : Binary) : Nat := binary.significand * binary.unit

def leadingPower (numerator denominator : Nat) : Int :=
  let guess : Int := digitCount numerator - digitCount denominator
  if denominator * Nat.pow 10 guess.toNat ≤ numerator * Nat.pow 10 (-guess).toNat then guess
  else guess - 1

/-- The distance from a double down to its neighbour is half the usual one at a power of two. -/
def atBoundary (binary : Binary) : Bool :=
  binary.significand = Nat.pow 2 52 && binary.exponent ≠ -1074

/--
The numeral with the given power of ten as its last place that reads back as the number, if there is
one: of the two grid points around the number the nearer one between the halfway points to the
neighbouring doubles. The halfway points themselves read back as the even significand.
-/
def readingBack? (binary : Binary) (power : Int) : Option Nat :=
  let scaleUp := Nat.pow 10 (-power).toNat
  let divisor := 4 * binary.denominator * Nat.pow 10 power.toNat
  let quarter := binary.unit * scaleUp
  let exact := 4 * binary.significand * quarter
  let low := exact - (if binary.atBoundary then 1 else 2) * quarter
  let high := exact + 2 * quarter
  let inside := fun candidate =>
    if binary.significand % 2 = 0 then low ≤ candidate * divisor && candidate * divisor ≤ high
    else low < candidate * divisor && candidate * divisor < high
  let nearest := roundedQuotient exact divisor
  let floor := exact / divisor
  let other := if nearest = floor then floor + 1 else floor
  if inside nearest then some nearest else if inside other then some other else none

def shortestFrom (binary : Binary) (leading : Int) : (attempts count : Nat) → Decimal
  | 0, count => ⟨binary.negative, 0, leading - count⟩
  | attempts + 1, count =>
      let power := leading - count + 1
      match binary.readingBack? power with
      | some digits => ⟨binary.negative, digits, power⟩
      | none => shortestFrom binary leading attempts (count + 1)

-- Seventeen digits always read back.
def shortest (binary : Binary) : Decimal :=
  if binary.significand = 0 then ⟨binary.negative, 0, 0⟩
  else shortestFrom binary (leadingPower binary.numerator binary.denominator) 17 1

def brief (binary : Binary) : Decimal :=
  let power :=
    if binary.numerator < binary.denominator then -9
    else leadingPower binary.numerator binary.denominator - 8
  let digits := roundedQuotient (binary.numerator * Nat.pow 10 (-power).toNat)
    (binary.denominator * Nat.pow 10 power.toNat)
  ⟨binary.negative, digits, power⟩

def places (binary : Binary) (count : Nat) : Nat :=
  roundedQuotient (binary.numerator * Nat.pow 10 count) binary.denominator

end Binary

example : Binary.shortest ⟨false, 3602879701896397, -55⟩ = ⟨false, 1, -1⟩ := by decide
example : Binary.shortest ⟨false, 1, -1074⟩ = ⟨false, 5, -324⟩ := by decide +kernel
example : Binary.brief ⟨true, 1, -1⟩ = ⟨true, 500000000, -9⟩ := by decide

end ProximalSplitting

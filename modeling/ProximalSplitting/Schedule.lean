import ProximalSplitting.Compute
import ProximalSplitting.Setting

/-!
Parameters that depend on the iteration. A raw setting that is no schedule stands for a constant.
-/

namespace ProximalSplitting

abbrev Schedule (S : Type) := Int → Compute S S

namespace Schedule

variable {S : Type} [Scalar S]

def constant (value : S) : Schedule S := fun _ => pure value

def inverse (dividend : S) : Schedule S := fun iteration =>
  liftM (Scalar.quotient? dividend (Scalar.ofInt iteration))

def position? (length : Nat) (index : Int) : Option Nat :=
  if 0 ≤ index then some index.toNat
  else if 0 ≤ index + length then some (index + length).toNat else none

def listed (values : List S) : Schedule S := fun iteration =>
  let index := min iteration values.length - 1
  Compute.expect .outsideList ((position? values.length index).bind fun position =>
    values[position]?)

def affine (offset slope : S) : Schedule S := fun iteration =>
  pure (offset + slope * Scalar.ofInt iteration)

def geometric (factor ratio : S) : Schedule S := fun iteration => do
  if Scalar.same ratio Scalar.zero && iteration < 0 then Compute.fail .divisionByZero
  let power := Scalar.power ratio (Scalar.ofInt iteration)
  if Scalar.isFinite ratio && Scalar.isNumber power && !Scalar.isFinite power then
    Compute.fail .numberOverflow
  return factor * power

def ofSetting : Schedule S ⊕ Value S → Except (Fault S) (Schedule S)
  | .inl schedule => .ok schedule
  | .inr setting => (Setting.number setting).map constant

end Schedule

end ProximalSplitting

import ProximalSplitting.Decimal.Reading
import ProximalSplitting.Fault

/-!
What raw settings stand for: numbers, whole numbers and points. Texts are read as numerals, nothing
and lists are no numbers.
-/

namespace ProximalSplitting

namespace Setting

variable {S : Type} [Scalar S]

def number (setting : Value S) : Except (Fault S) S :=
  match setting with
  | .text content =>
      match Scalar.ofText? content with
      | some number => .ok number
      | none => .error .invalidValue
  | other =>
      match other.number? with
      | some number =>
          if other.integer?.isSome && !Scalar.isFinite number then .error .numberOverflow
          else .ok number
      | none => .error .wrongType

def wholeNumber (setting : Value S) : Except (Fault S) Int :=
  match setting with
  | .text content =>
      match integerOfText? content with
      | some number => .ok number
      | none => .error .invalidValue
  | .real number =>
      if Scalar.isFinite number then .ok (Scalar.truncate number)
      else if Scalar.isNumber number then .error .numberOverflow
      else .error .invalidValue
  | other =>
      match other.integer? with
      | some number => .ok number
      | none => .error .wrongType

def isRectangular : List (Tensor S) → Bool
  | [] => true
  | first :: rest => rest.all fun slice => slice.shape = first.shape

mutual

def point : Value S → Except (Fault S) (Tensor S)
  | .list items => do
      let slices ← points items
      if isRectangular slices then return .stack slices else .error .invalidValue
  | other => (number other).map .scalar

def points : List (Value S) → Except (Fault S) (List (Tensor S))
  | [] => .ok []
  | first :: rest => do
      let point ← point first
      return point :: (← points rest)

end

end Setting

end ProximalSplitting

import ProximalSplitting.Scalar

/-!
Points and vectors: nested arrays of numbers. A tensor is a number or a list of slices of one shape.
Two tensors combine entry by entry after both are spread to a common shape, in which a missing
leading axis and an axis of extent one are repeated.
-/

namespace ProximalSplitting

inductive Tensor (S : Type) where
  | scalar (value : S)
  | stack (slices : List (Tensor S))

namespace Tensor

variable {S : Type}

def rank : Tensor S → Nat
  | scalar _ => 0
  | stack [] => 1
  | stack (first :: _) => rank first + 1

def shape : Tensor S → List Nat
  | scalar _ => []
  | stack [] => [0]
  | stack (first :: rest) => (rest.length + 1) :: shape first

mutual

def hasShape : Tensor S → List Nat → Bool
  | scalar _, [] => true
  | stack slices, extent :: inner => slices.length = extent && allHaveShape slices inner
  | _, _ => false

def allHaveShape : List (Tensor S) → List Nat → Bool
  | [], _ => true
  | first :: rest, inner => hasShape first inner && allHaveShape rest inner

end

mutual

def entries : Tensor S → List S
  | scalar value => [value]
  | stack slices => entriesOfAll slices

def entriesOfAll : List (Tensor S) → List S
  | [] => []
  | first :: rest => entries first ++ entriesOfAll rest

end

mutual

def map (change : S → S) : Tensor S → Tensor S
  | scalar value => scalar (change value)
  | stack slices => stack (mapAll change slices)

def mapAll (change : S → S) : List (Tensor S) → List (Tensor S)
  | [] => []
  | first :: rest => map change first :: mapAll change rest

end

mutual

def zipWith (combine : S → S → S) : Tensor S → Tensor S → Tensor S
  | scalar left, scalar right => scalar (combine left right)
  | stack left, stack right => stack (zipAll combine left right)
  | _, _ => stack []

def zipAll (combine : S → S → S) : List (Tensor S) → List (Tensor S) → List (Tensor S)
  | left :: lefts, right :: rights => zipWith combine left right :: zipAll combine lefts rights
  | _, _ => []

end

def constant (value : S) : List Nat → Tensor S
  | [] => scalar value
  | extent :: inner => stack (List.replicate extent (constant value inner))

def spread : List Nat → Tensor S → Tensor S
  | [], tensor => tensor
  | extent :: inner, tensor =>
      if tensor.rank ≤ inner.length then stack (List.replicate extent (spread inner tensor))
      else match tensor with
        | scalar value => scalar value
        | stack [only] => stack (List.replicate extent (spread inner only))
        | stack slices => stack (slices.map (spread inner))

def commonExtents? : List Nat → List Nat → Option (List Nat)
  | [], right => some right
  | left, [] => some left
  | left :: lefts, right :: rights =>
      if left = right || right = 1 then (commonExtents? lefts rights).map (left :: ·)
      else if left = 1 then (commonExtents? lefts rights).map (right :: ·)
      else none

def commonShape? (left right : List Nat) : Option (List Nat) :=
  (commonExtents? left.reverse right.reverse).map List.reverse

def combine? (combine : S → S → S) (left right : Tensor S) : Option (Tensor S) :=
  if left.shape = right.shape then some (zipWith combine left right)
  else (commonShape? left.shape right.shape).map fun common =>
    zipWith combine (spread common left) (spread common right)

def slices : Tensor S → List (Tensor S)
  | scalar _ => []
  | stack slices => slices

section Arithmetic

variable [Scalar S]

def zerosLike (tensor : Tensor S) : Tensor S :=
  tensor.map fun _ => Scalar.zero

def scale (factor : S) (tensor : Tensor S) : Tensor S :=
  tensor.map (factor * ·)

def divide (tensor : Tensor S) (divisor : S) : Tensor S :=
  tensor.map (· / divisor)

def negate (tensor : Tensor S) : Tensor S :=
  tensor.map (- ·)

def sum (tensor : Tensor S) : S :=
  Scalar.total tensor.entries

def length (tensor : Tensor S) : S :=
  Scalar.sqrt (tensor.map Scalar.square).sum

def isFinite (tensor : Tensor S) : Bool :=
  tensor.entries.all Scalar.isFinite

mutual

def rowSums : Tensor S → Tensor S
  | scalar value => scalar value
  | stack slices =>
      if (stack slices).rank = 1 then stack [scalar (Scalar.total (entriesOfAll slices))]
      else stack (rowSumsOfAll slices)

def rowSumsOfAll : List (Tensor S) → List (Tensor S)
  | [] => []
  | first :: rest => rowSums first :: rowSumsOfAll rest

end

def basisAt (position : Nat) (tensor : Tensor S) : Tensor S :=
  let blank := tensor.zerosLike
  stack (blank.slices.modify position fun slice => slice.map fun _ => Scalar.one)

end Arithmetic

end Tensor

abbrev Point (S : Type) := Tensor S

end ProximalSplitting

import ProximalSplitting.Compute

/-!
Arithmetic of tensors as computations that fail when shapes do not fit.
-/

namespace ProximalSplitting

namespace Tensor

variable {S : Type} [Scalar S]

def combine (operation : S → S → S) (left right : Tensor S) : Compute S (Tensor S) :=
  match combine? operation left right with
  | some combined => pure combined
  | none => Compute.fail (if left.rank = right.rank then .extentsDisagree else .invalidValue)

def plus (left right : Tensor S) : Compute S (Tensor S) := combine (· + ·) left right

def minus (left right : Tensor S) : Compute S (Tensor S) := combine (· - ·) left right

def times (left right : Tensor S) : Compute S (Tensor S) := combine (· * ·) left right

def dot (left right : Tensor S) : Compute S S := do
  return (← times left right).sum

/-- The slice at a position; a position beyond the last slice means the last slice. -/
def component (tensor : Tensor S) (position : Nat) : Compute S (Tensor S) :=
  Compute.expect .outsideList (tensor.slices[position]? <|> tensor.slices.getLast?)

def ofSlices (slices : List (Tensor S)) : Compute S (Tensor S) :=
  match slices with
  | [] => Compute.fail .invalidValue
  | first :: rest =>
      if rest.all fun slice => slice.shape = first.shape then pure (stack (first :: rest))
      else Compute.fail .invalidValue

def plusAll (tensors : List (Tensor S)) : Compute S (Tensor S) :=
  tensors.foldlM plus (scalar Scalar.zero)

end Tensor

end ProximalSplitting

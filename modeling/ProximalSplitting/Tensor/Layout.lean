import ProximalSplitting.Tensor.Basic

/-!
The written layout of a tensor: a number alone is written in full, the entries of an array are
rounded to nine digits. Numbers of a row stand on one line; the slices of an array of rank `r` are
divided by `r - 1` line ends and indented by the brackets that are open.
-/

namespace ProximalSplitting

namespace Tensor

variable {S : Type} [Scalar S]

mutual

def arrayLayout (openBrackets : Nat) : Tensor S → String
  | scalar value => Scalar.brief value
  | stack slices =>
      let rank := (stack slices).rank
      let divider :=
        if rank = 1 then " "
        else String.ofList (List.replicate (rank - 1) '\n' ++ List.replicate (openBrackets + 1) ' ')
      "[" ++ String.intercalate divider (sliceLayouts (openBrackets + 1) slices) ++ "]"

def sliceLayouts (openBrackets : Nat) : List (Tensor S) → List String
  | [] => []
  | first :: rest => arrayLayout openBrackets first :: sliceLayouts openBrackets rest

end

def layout : Tensor S → String
  | scalar value => Scalar.text value
  | array => arrayLayout 0 array

end Tensor

end ProximalSplitting

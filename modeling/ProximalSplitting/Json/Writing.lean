import ProximalSplitting.Text.Condensed
import ProximalSplitting.Value

/-!
Writing values as JSON text. Numbers are rounded to nine digits, also where they stand inside of
texts, and numbers that JSON cannot write become texts.
-/

namespace ProximalSplitting

namespace Json

def escaped (character : Char) : String :=
  if character = '"' then "\\\""
  else if character = '\\' then "\\\\"
  else if character = '\n' then "\\n"
  else if character = '\r' then "\\r"
  else if character = '\t' then "\\t"
  else if character.toNat < 0x20 then
    "\\u00" ++ String.ofList
      [Nat.digitChar (character.toNat / 16), Nat.digitChar (character.toNat % 16)]
  else character.toString

def writeText (content : String) : String :=
  "\"" ++ String.join ((condensed content).toList.map escaped) ++ "\""

section

variable {S : Type} [Scalar S]

def writeNumber (number : S) : String :=
  if Scalar.isFinite number then Scalar.brief number else "\"" ++ Scalar.brief number ++ "\""

def bracketed (items : List String) : String := "[" ++ String.intercalate "," items ++ "]"

mutual

def writeTensor : Tensor S → String
  | .scalar number => writeNumber number
  | .stack slices => bracketed (writeSlices slices)

def writeSlices : List (Tensor S) → List String
  | [] => []
  | first :: rest => writeTensor first :: writeSlices rest

end

mutual

def write : Value S → String
  | .null => "null"
  | .flag set => if set then "true" else "false"
  | .integer number => toString number
  | .real number => writeNumber number
  | .text content => writeText content
  | .list items => bracketed (writeItems items)
  | .tuple items => bracketed (writeItems items)
  | .table rows => "\x7b" ++ String.intercalate "," (writeRows rows) ++ "\x7d"
  | .array tensor => writeTensor tensor
  | .named name => writeText name

def writeItems : List (Value S) → List String
  | [] => []
  | first :: rest => write first :: writeItems rest

def writeRows : List (String × Value S) → List String
  | [] => []
  | (key, value) :: rest => (writeText key ++ ":" ++ write value) :: writeRows rest

end

end

end Json

end ProximalSplitting

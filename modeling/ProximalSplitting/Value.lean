import ProximalSplitting.Tensor.Layout
import ProximalSplitting.Text.Quoted

/-!
Values without a fixed kind: the raw settings that a caller passes, the fields of a solver's state
read by name, and what records hold. `Value.literal` is the form a value has inside messages,
`Value.shown` the form in which it is printed by itself. Only numbers and flags compare with whole
numbers; zero, the empty text and the empty collections count as not set.
-/

namespace ProximalSplitting

inductive Value (S : Type) where
  | null
  | flag (set : Bool)
  | integer (number : Int)
  | real (number : S)
  | text (content : String)
  | list (items : List (Value S))
  | tuple (items : List (Value S))
  | table (rows : List (String × Value S))
  | array (tensor : Tensor S)
  | named (name : String)

namespace Value

variable {S : Type}

def kindName : Value S → String
  | null => "<class 'NoneType'>"
  | flag _ => "<class 'bool'>"
  | integer _ => "<class 'int'>"
  | real _ => "<class 'float'>"
  | text _ => "<class 'str'>"
  | list _ => "<class 'list'>"
  | tuple _ => "<class 'tuple'>"
  | table _ => "<class 'dict'>"
  | array _ => "<class 'array'>"
  | named name => name

def lookup? (value : Value S) (name : String) : Option (Value S) :=
  match value with
  | table rows => rows.lookup name
  | _ => none

def present? (value : Value S) (name : String) : Option (Value S) :=
  match value.lookup? name with
  | some null => none
  | found => found

def text? : Value S → Option String
  | text content => some content
  | _ => none

def isTable : Value S → Bool
  | table _ => true
  | _ => false

def integer? : Value S → Option Int
  | flag set => some (if set then 1 else 0)
  | integer number => some number
  | _ => none

section Numbers

variable [Scalar S]

def number? : Value S → Option S
  | real number => some number
  | value => value.integer?.map Scalar.ofInt

def equalsInteger (value : Value S) (expected : Int) : Bool :=
  match value with
  | real number => Scalar.same number (Scalar.ofInt expected)
  | other => other.integer? = some expected

def below? (value : Value S) (bound : Int) : Option Bool :=
  match value with
  | real number => some (Scalar.less number (Scalar.ofInt bound))
  | other => other.integer?.map (· < bound)

def reachedBy? (value : Value S) (count : Int) : Option Bool :=
  match value with
  | real number => some (Scalar.atMost number (Scalar.ofInt count))
  | other => other.integer?.map (· ≤ count)

def isSet : Value S → Bool
  | null => false
  | flag set => set
  | integer number => number ≠ 0
  | real number => !Scalar.same number Scalar.zero
  | text content => content ≠ ""
  | list items => !items.isEmpty
  | tuple items => !items.isEmpty
  | table rows => !rows.isEmpty
  | _ => true

mutual

def literal : Value S → String
  | null => "None"
  | flag set => if set then "True" else "False"
  | integer number => toString number
  | real number => Scalar.text number
  | text content => quoted content
  | list items => "[" ++ String.intercalate ", " (literals items) ++ "]"
  | tuple [only] => "(" ++ literal only ++ ",)"
  | tuple items => "(" ++ String.intercalate ", " (literals items) ++ ")"
  | table rows => "\x7b" ++ String.intercalate ", " (rowLiterals rows) ++ "\x7d"
  | array tensor => tensor.layout
  | named name => name

def literals : List (Value S) → List String
  | [] => []
  | first :: rest => literal first :: literals rest

def rowLiterals : List (String × Value S) → List String
  | [] => []
  | (name, value) :: rest => (quoted name ++ ": " ++ literal value) :: rowLiterals rest

end

def shown : Value S → String
  | text content => content
  | value => value.literal

end Numbers

def ofIntegers (numbers : List Int) : Value S :=
  list (numbers.map integer)

end Value

end ProximalSplitting

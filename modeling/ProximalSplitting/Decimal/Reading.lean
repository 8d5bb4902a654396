/-!
Numbers written as text. A real number may have a sign, an underscore between two digits, a point, a
power of ten and blanks around it, or be one of the words for infinity and for a value that is not a
number. An integer has a sign and digits only.
-/

namespace ProximalSplitting

inductive RealText where
  | finite (negative : Bool) (digits : Nat) (exponent : Int)
  | infinite (negative : Bool)
  | undefined
deriving DecidableEq

namespace RealText

def isBlank (character : Char) : Bool :=
  character.isWhitespace || character = '\x0b' || character = '\x0c' ||
    ('\x1c' ≤ character && character ≤ '\x1f') || character = '\u0085' || character = '\u00a0' ||
    character = '\u1680' || ('\u2000' ≤ character && character ≤ '\u200a') ||
    character = '\u2028' || character = '\u2029' || character = '\u202f' ||
    character = '\u205f' || character = '\u3000'

def trimmed (text : String) : List Char :=
  ((text.toList.dropWhile isBlank).reverse.dropWhile isBlank).reverse

def digitValue (character : Char) : Nat := character.toNat - '0'.toNat

def digits : List Char → List Nat × List Char
  | [] => ([], [])
  | '_' :: next :: rest => ([], '_' :: next :: rest)
  | first :: '_' :: next :: rest =>
      if first.isDigit && next.isDigit then
        let (later, remaining) := digits (next :: rest)
        (digitValue first :: later, remaining)
      else if first.isDigit then ([digitValue first], '_' :: next :: rest)
      else ([], first :: '_' :: next :: rest)
  | first :: rest =>
      if first.isDigit then
        let (later, remaining) := digits rest
        (digitValue first :: later, remaining)
      else ([], first :: rest)

def ofDigits (written : List Nat) : Nat :=
  written.foldl (fun number digit => 10 * number + digit) 0

def signed : List Char → Bool × List Char
  | '-' :: rest => (true, rest)
  | '+' :: rest => (false, rest)
  | rest => (false, rest)

def exponent? : List Char → Option Int
  | [] => some 0
  | mark :: rest =>
      if mark = 'e' || mark = 'E' then
        let (negative, unsigned) := signed rest
        match digits unsigned with
        | ([], _) => none
        | (written, []) =>
            some (if negative then -(ofDigits written : Int) else ofDigits written)
        | _ => none
      else none

def fraction : List Char → List Nat × List Char
  | '.' :: rest => digits rest
  | rest => ([], rest)

def unsigned? (negative : Bool) (written : List Char) : Option RealText :=
  let word := String.ofList (written.map Char.toLower)
  if word = "inf" || word = "infinity" then some (.infinite negative)
  else if word = "nan" then some .undefined
  else
    let (whole, afterWhole) := digits written
    let (decimals, afterFraction) := fraction afterWhole
    if whole.isEmpty && decimals.isEmpty then none
    else (exponent? afterFraction).map fun power =>
      .finite negative (ofDigits (whole ++ decimals)) (power - decimals.length)

def ofText? (text : String) : Option RealText :=
  let (negative, unsigned) := signed (trimmed text)
  unsigned? negative unsigned

end RealText

def integerOfText? (text : String) : Option Int :=
  let (negative, unsigned) := RealText.signed (RealText.trimmed text)
  match RealText.digits unsigned with
  | ([], _) => none
  | (written, []) =>
      some (if negative then -(RealText.ofDigits written : Int) else RealText.ofDigits written)
  | _ => none

example : RealText.ofText? " 1e3 " = some (.finite false 1 3) := by decide
example : RealText.ofText? "-1_0.25" = some (.finite true 1025 (-2)) := by decide
example : RealText.ofText? "abc" = none := by decide
example : integerOfText? " -12 " = some (-12) := by decide
example : integerOfText? "2.5" = none := by decide

end ProximalSplitting

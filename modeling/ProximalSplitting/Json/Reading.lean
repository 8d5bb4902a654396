import ProximalSplitting.Decimal.Reading
import ProximalSplitting.Value

/-!
Reading values from JSON text. Members keep their order, and a number with a point or an exponent is
a real number even if it is whole. Every part of a text is shorter than the text, so the length of
the text bounds the steps.
-/

namespace ProximalSplitting

namespace Json

def isBlank (character : Char) : Bool :=
  character = ' ' || character = '\n' || character = '\r' || character = '\t'

def skipBlanks (text : List Char) : List Char := text.dropWhile isBlank

def hexadecimalDigit (character : Char) : Nat :=
  if character.isDigit then character.toNat - '0'.toNat
  else if 'a' ≤ character && character ≤ 'f' then character.toNat - 'a'.toNat + 10
  else character.toNat - 'A'.toNat + 10

def unitOf (digits : List Char) : Nat :=
  digits.foldl (fun value digit => 16 * value + hexadecimalDigit digit) 0

def pairedCharacter (high low : Nat) : Char :=
  Char.ofNat (0x10000 + (high - 0xD800) * 0x400 + (low - 0xDC00))

def isHighSurrogate (unit : Nat) : Bool := 0xD800 ≤ unit && unit < 0xDC00

def escaped? : List Char → Option (Char × List Char)
  | 'u' :: a :: b :: c :: d :: rest =>
      let unit := unitOf [a, b, c, d]
      match isHighSurrogate unit, rest with
      | true, '\\' :: 'u' :: e :: f :: g :: h :: rest =>
          some (pairedCharacter unit (unitOf [e, f, g, h]), rest)
      | _, _ => some (Char.ofNat unit, rest)
  | 'n' :: rest => some ('\n', rest)
  | 't' :: rest => some ('\t', rest)
  | 'r' :: rest => some ('\r', rest)
  | 'b' :: rest => some ('\x08', rest)
  | 'f' :: rest => some ('\x0c', rest)
  | character :: rest => some (character, rest)
  | [] => none

def readCharacters : (steps : Nat) → List Char → Option (List Char × List Char)
  | 0, _ => none
  | _ + 1, [] => none
  | _ + 1, '"' :: rest => some ([], rest)
  | steps + 1, '\\' :: rest => do
      let (character, rest) ← escaped? rest
      let (characters, rest) ← readCharacters steps rest
      return (character :: characters, rest)
  | steps + 1, character :: rest => do
      let (characters, rest) ← readCharacters steps rest
      return (character :: characters, rest)

def isNumeric (character : Char) : Bool :=
  character.isDigit || character = '+' || character = '-' || character = '.' ||
    character = 'e' || character = 'E'

def isReal (written : List Char) : Bool :=
  written.any fun character => character = '.' || character = 'e' || character = 'E'

section

variable {S : Type} [Scalar S]

def number? (written : List Char) : Option (Value S) :=
  if isReal written then (Scalar.ofText? (String.ofList written)).map .real
  else (integerOfText? (String.ofList written)).map .integer

mutual

def read : (steps : Nat) → List Char → Option (Value S × List Char)
  | 0, _ => none
  | steps + 1, text =>
      match skipBlanks text with
      | 'n' :: 'u' :: 'l' :: 'l' :: rest => some (.null, rest)
      | 't' :: 'r' :: 'u' :: 'e' :: rest => some (.flag true, rest)
      | 'f' :: 'a' :: 'l' :: 's' :: 'e' :: rest => some (.flag false, rest)
      | '"' :: rest => do
          let (content, rest) ← readCharacters steps rest
          return (.text (String.ofList content), rest)
      | '[' :: rest => do
          let (items, rest) ← readItems steps rest
          return (.list items, rest)
      | '{' :: rest => do
          let (rows, rest) ← readRows steps rest
          return (.table rows, rest)
      | rest => do
          let number ← number? (rest.takeWhile isNumeric)
          return (number, rest.dropWhile isNumeric)

def readItems : (steps : Nat) → List Char → Option (List (Value S) × List Char)
  | 0, _ => none
  | steps + 1, text =>
      match skipBlanks text with
      | ']' :: rest => some ([], rest)
      | ',' :: rest => readItems steps rest
      | rest => do
          let (item, rest) ← read steps rest
          let (items, rest) ← readItems steps rest
          return (item :: items, rest)

def readRows : (steps : Nat) → List Char → Option (List (String × Value S) × List Char)
  | 0, _ => none
  | steps + 1, text =>
      match skipBlanks text with
      | '}' :: rest => some ([], rest)
      | ',' :: rest => readRows steps rest
      | '"' :: rest => do
          let (key, rest) ← readCharacters steps rest
          match skipBlanks rest with
          | ':' :: rest =>
              let (value, rest) ← read steps rest
              let (rows, rest) ← readRows steps rest
              return ((String.ofList key, value) :: rows, rest)
          | _ => none
      | _ => none

end

def ofText? (text : String) : Option (Value S) :=
  (read (text.length + 1) text.toList).map Prod.fst

end

end Json

end ProximalSplitting

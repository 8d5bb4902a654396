import ProximalSplitting.Scalar.Double

/-!
Shorter texts for reports: a numeral with a point or a power of ten that shows more than twelve
significant digits is replaced by its value rounded to nine digits. Everything else stays.
-/

namespace ProximalSplitting

namespace Condensed

structure Token where
  negative : Bool
  whole : List Char
  fraction : List Char
  power : List Char
  rest : List Char

def fraction : List Char → List Char × List Char
  | '.' :: rest =>
      match rest.span Char.isDigit with
      | ([], _) => ([], '.' :: rest)
      | (digits, remaining) => (digits, remaining)
  | rest => ([], rest)

def power : List Char → List Char × List Char
  | 'e' :: rest =>
      let (sign, unsigned) := match rest with
        | '+' :: later => (['+'], later)
        | '-' :: later => (['-'], later)
        | later => ([], later)
      match unsigned.span Char.isDigit with
      | ([], _) => ([], 'e' :: rest)
      | (digits, remaining) => ('e' :: sign ++ digits, remaining)
  | rest => ([], rest)

def token? (text : List Char) : Option Token :=
  let (negative, unsigned) := match text with
    | '-' :: later => (true, later)
    | later => (false, later)
  match unsigned.span Char.isDigit with
  | ([], _) => none
  | (whole, afterWhole) =>
      let (decimals, afterFraction) := fraction afterWhole
      let (scale, rest) := power afterFraction
      some ⟨negative, whole, decimals, scale, rest⟩

def Token.written (token : Token) : List Char :=
  (if token.negative then ['-'] else []) ++ token.whole ++
    (if token.fraction.isEmpty then [] else '.' :: token.fraction) ++ token.power

def Token.isLong (token : Token) : Bool :=
  (!token.fraction.isEmpty || !token.power.isEmpty) &&
    12 < ((token.whole ++ token.fraction).dropWhile (· = '0')).length

def Token.condensed (token : Token) : List Char :=
  if token.isLong then
    match RealText.ofText? (String.ofList token.written) with
    | some number => (Scalar.brief (Double.ofRealText number)).toList
    | none => token.written
  else token.written

-- Every step consumes a character, so the length of the text bounds the steps.
def scan : (steps : Nat) → List Char → List Char
  | 0, text => text
  | _ + 1, [] => []
  | steps + 1, first :: rest =>
      match token? (first :: rest) with
      | some token => token.condensed ++ scan steps token.rest
      | none => first :: scan steps rest

end Condensed

def condensed (text : String) : String :=
  let characters := text.toList
  String.ofList (Condensed.scan characters.length characters)

end ProximalSplitting

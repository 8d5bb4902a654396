/-!
Texts in quotes, as they appear inside messages: single quotes unless the text holds a single quote
and no double one, a backslash before what would end or change the text, and numeric escapes for
characters that do not print.
-/

namespace ProximalSplitting

namespace Quoted

/-- Ranges of characters beyond the first 127 that do not print: controls, format characters,
blanks other than the space, surrogates, private and unassigned planes. -/
def hiddenRanges : List (Nat × Nat) :=
  [(0x7f, 0xa0), (0xad, 0xad), (0x600, 0x605), (0x61c, 0x61c), (0x6dd, 0x6dd), (0x70f, 0x70f),
   (0x1680, 0x1680), (0x180e, 0x180e), (0x2000, 0x200f), (0x2028, 0x202f), (0x205f, 0x206f),
   (0x3000, 0x3000), (0xd800, 0xf8ff), (0xfeff, 0xfeff), (0xfff0, 0xfffb), (0xfffe, 0xffff),
   (0xe0000, 0xe00ff), (0xe01f0, 0x10ffff)]

def prints (character : Char) : Bool :=
  32 ≤ character.toNat &&
    !hiddenRanges.any fun (first, last) => first ≤ character.toNat && character.toNat ≤ last

def hexadecimal (width number : Nat) : List Char :=
  let written := Nat.toDigits 16 number
  List.replicate (width - written.length) '0' ++ written

def escaped (quote character : Char) : List Char :=
  if character = quote || character = '\\' then ['\\', character]
  else if character = '\n' then ['\\', 'n']
  else if character = '\r' then ['\\', 'r']
  else if character = '\t' then ['\\', 't']
  else if prints character then [character]
  else
    let code := character.toNat
    if code < 0x100 then '\\' :: 'x' :: hexadecimal 2 code
    else if code < 0x10000 then '\\' :: 'u' :: hexadecimal 4 code
    else '\\' :: 'U' :: hexadecimal 8 code

def quoteFor (characters : List Char) : Char :=
  if characters.contains '\'' && !characters.contains '"' then '"' else '\''

end Quoted

def quoted (text : String) : String :=
  let quote := Quoted.quoteFor text.toList
  String.ofList (quote :: text.toList.flatMap (Quoted.escaped quote) ++ [quote])

example : quoted "it's" = "\"it's\"" := by decide
example : quoted "a\nb" = "'a\\nb'" := by decide

end ProximalSplitting

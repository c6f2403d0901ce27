import Understudy.Text.Printable

/-!
# Quoted texts

A quoted text stands between two quotes. Inside, the quote itself and the
backslash follow a backslash, the four control characters NUL, tab, carriage
return and line feed have an escape letter, and every other character that is
not printable is written by its code point, `\u` and lower-case hexadecimal
digits in braces. All other characters stand for themselves.
-/

namespace Understudy.Text

/-- The escape of a code point. -/
def codeEscape (c : Char) : List Char :=
  '\\' :: 'u' :: '{' :: (Nat.toDigits 16 c.toNat ++ ['}'])

/-- How a character is written between two quotes of the given kind. -/
def escaped (quote c : Char) : List Char :=
  if c = '\x00' then ['\\', '0']
  else if c = '\t' then ['\\', 't']
  else if c = '\r' then ['\\', 'r']
  else if c = '\n' then ['\\', 'n']
  else if c = '\\' ∨ c = quote then ['\\', c]
  else if isPrintable c then [c]
  else codeEscape c

/-- The characters between two quotes of the given kind. -/
def quotedWith (quote : Char) (cs : List Char) : List Char :=
  quote :: (cs.flatMap (escaped quote) ++ [quote])

/-- A string in double quotes. -/
def quotedString (s : String) : String := String.ofList (quotedWith '"' s.toList)

end Understudy.Text

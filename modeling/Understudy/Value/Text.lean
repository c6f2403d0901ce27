import Understudy.Numeric.Shortest
import Understudy.Text.Quoted
import Understudy.Value.Basic

/-!
# Texts of values

`Value.text` is how a value appears in a message: numbers plainly, characters
and strings quoted, bytes as `b[1, 2]` and lists in brackets. It does not show
the width of a number. `Value.form` names the kind and the width as well, as in
`I32(5)` or `List([Null])`, and `Value.formLines` spreads that form over lines with
one item a line.
-/

namespace Understudy

/-- Texts one after another, a comma and a blank between them. -/
def commaSeparated : List (List Char) → List Char
  | [] => []
  | [x] => x
  | x :: y :: rest => x ++ ',' :: ' ' :: commaSeparated (y :: rest)

namespace Value

/-- Bytes as decimal numbers in brackets. -/
def byteChars (bs : List UInt8) : List Char :=
  '[' :: (commaSeparated (bs.map fun b => (toString b.toNat).toList) ++ [']'])

mutual

/-- The characters of a value's text. -/
def chars : Value → List Char
  | null => "null".toList
  | unit => "()".toList
  | bool b => (if b then "true" else "false").toList
  | char c => Text.quotedWith '\'' [c]
  | int _ n => (toString n).toList
  | float t x => x.chars t.format
  | str s => Text.quotedWith '"' s.toList
  | bytes bs => 'b' :: byteChars bs
  | list items => '[' :: (commaSeparated (itemChars items) ++ [']'])

/-- The texts of the items of a list. -/
def itemChars : List Value → List (List Char)
  | [] => []
  | v :: vs => chars v :: itemChars vs

end

/-- The text of a value in messages. -/
def text (v : Value) : String := String.ofList v.chars

/-- Texts of several values, a comma and a blank between them. -/
def listText (vs : List Value) : String :=
  String.ofList (commaSeparated (vs.map chars))

end Value

/-- The name of an integer type as the head of a form. -/
def IntType.head (t : IntType) : String := t.name.capitalize

/-- The name of a floating-point type as the head of a form. -/
def FloatType.head (t : FloatType) : String := t.name.capitalize

namespace Value

mutual

/-- The form of a value on one line. -/
def form : Value → String
  | null => "Null"
  | unit => "Unit"
  | bool b => "Bool(" ++ (if b then "true" else "false") ++ ")"
  | char c => "Char(" ++ String.ofList (Text.quotedWith '\'' [c]) ++ ")"
  | int t n => t.head ++ "(" ++ toString n ++ ")"
  | float t x => t.head ++ "(" ++ x.text t.format ++ ")"
  | str s => "Str(" ++ Text.quotedString s ++ ")"
  | bytes bs => "Bytes(" ++ String.ofList (byteChars bs) ++ ")"
  | list items => "List([" ++ ", ".intercalate (itemForms items) ++ "])"

/-- The forms of the items of a list. -/
def itemForms : List Value → List String
  | [] => []
  | v :: vs => form v :: itemForms vs

end

/-- Lines moved one step to the right, the last of them with a comma. -/
def itemLines : List String → List String
  | [] => []
  | [l] => ["    " ++ l ++ ","]
  | l :: ls => ("    " ++ l) :: itemLines ls

/-- Bracketed items over lines, or a pair of brackets if there are none. -/
def bracketLines (items : List (List String)) : List String :=
  if items.isEmpty then ["[]"] else "[" :: items.flatMap itemLines ++ ["]"]

/-- A head applied to an operand that spreads over lines. -/
def headLines (head : String) (operand : List String) : List String :=
  (head ++ "(") :: itemLines operand ++ [")"]

mutual

/-- The lines of a value's spread form. -/
def formLines : Value → List String
  | null => ["Null"]
  | unit => ["Unit"]
  | bool b => headLines "Bool" [if b then "true" else "false"]
  | char c => headLines "Char" [String.ofList (Text.quotedWith '\'' [c])]
  | int t n => headLines t.head [toString n]
  | float t x => headLines t.head [x.text t.format]
  | str s => headLines "Str" [Text.quotedString s]
  | bytes bs => headLines "Bytes" (bracketLines (bs.map fun b => [toString b.toNat]))
  | list items => headLines "List" (bracketLines (itemsFormLines items))

/-- The lines of the spread forms of several values. -/
def itemsFormLines : List Value → List (List String)
  | [] => []
  | v :: vs => formLines v :: itemsFormLines vs

end

/-- The spread form of a value. -/
def spread (v : Value) : String := "\n".intercalate v.formLines

/-- The spread form of a bare list of values. -/
def spreadList (vs : List Value) : String := "\n".intercalate (bracketLines (itemsFormLines vs))

end Value

end Understudy

import Understudy.Numeric.Binary

/-!
# Reading decimal literals

An integer literal is digits with an optional sign.

A number literal is an optional sign followed by `inf`, `infinity` or `nan` in any case,
or by digits with an optional point and an optional exponent; at least one digit
must stand beside the point. Its exact value is rounded once to the format asked
for, so the result is the number of the format nearest to what was written.
-/

namespace Understudy

/-- The number `±digits · 10^exponent`. -/
structure Decimal where
  negative : Bool
  digits : Nat
  exponent : Int
deriving DecidableEq, Repr

namespace Decimal

/-- How many decimal digits a natural has; zero has none. -/
def digitCount (n : Nat) : Nat := if n = 0 then 0 else (Nat.toDigits 10 n).length

/-- The number of a format nearest to a decimal. Magnitudes from `10^400` up are beyond
every format, and those below `10^-400` round to zero in every format; neither is
multiplied out. -/
def toBinary (f : Format) (d : Decimal) : Binary :=
  let top : Int := d.exponent + digitCount d.digits
  if d.digits = 0 ∨ top < -400 then .finite d.negative 0 f.lowest
  else if 400 < top then .infinite d.negative
  else if 0 ≤ d.exponent then f.round d.negative (d.digits * Nat.pow 10 d.exponent.toNat) 1
  else f.round d.negative d.digits (Nat.pow 10 (-d.exponent).toNat)

/-- The natural written by the leading digits of a text, continuing from `n`, with the
number of those digits and what follows them. -/
def takeDigits (n count : Nat) : List Char → Nat × Nat × List Char
  | [] => (n, count, [])
  | c :: cs =>
    if c.isDigit then takeDigits (10 * n + (c.toNat - '0'.toNat)) (count + 1) cs
    else (n, count, c :: cs)

/-- A leading sign, if there is one, and what follows it. -/
def takeSign : List Char → Bool × List Char
  | '-' :: cs => (true, cs)
  | '+' :: cs => (false, cs)
  | cs => (false, cs)

/-- The integer written by digits with an optional sign. -/
def integer? (cs : List Char) : Option Int :=
  let (negative, cs) := takeSign cs
  match takeDigits 0 0 cs with
  | (n, _ + 1, []) => some (if negative then -(n : Int) else n)
  | _ => none

/-- The exponent part `e±digits` that ends a literal; an absent one is zero. -/
def exponent? : List Char → Option Int
  | [] => some 0
  | c :: cs => if c = 'e' ∨ c = 'E' then integer? cs else none

/-- The number written by digits with an optional point and an optional exponent. -/
def unsigned? (negative : Bool) (cs : List Char) : Option Decimal :=
  let (whole, wholeCount, rest) := takeDigits 0 0 cs
  let (all, allCount, rest) :=
    match rest with
    | '.' :: rest => takeDigits whole wholeCount rest
    | rest => (whole, wholeCount, rest)
  if allCount = 0 then none
  else (exponent? rest).map fun e => ⟨negative, all, e - ((allCount - wholeCount : Nat) : Int)⟩

end Decimal

/-- The number of a format that a literal denotes, or `none` if it is no literal. -/
def Binary.read? (f : Format) (s : String) : Option Binary :=
  let (negative, cs) := Decimal.takeSign s.toList
  let word := String.ofList (cs.map Char.toLower)
  if word = "nan" then some .nan
  else if word = "inf" ∨ word = "infinity" then some (.infinite negative)
  else (Decimal.unsigned? negative cs).map (Decimal.toBinary f)

end Understudy

import Understudy.Numeric.Decimal

/-!
# The shortest decimal text of a floating-point number

The text of a finite number has the fewest digits that read back as that number
in its own format, and of those the digits nearest to it, the upper ones where
two are equally near. `shortestOn` looks for such digits on the grids of
multiples of `10^k`, from coarse to fine: on each grid only the two neighbours
of the number need to be tried, since a grid point that reads back has one of
them between itself and the number.

`layout` then decides where the point goes: digits stand around it while the
number is at least `10^-4` and below `10^16`, and an exponent follows them
outside that range.
-/

namespace Understudy

/-- A decimal grid seen from a number: the number lies at `at / step` grid units, and the
numbers between `below / step` and `above / step` read back as it. The ends count if
`closed`. -/
structure Grid where
  step : Nat
  below : Nat
  «at» : Nat
  above : Nat
  closed : Bool

namespace Grid

/-- Whether the grid point `n` reads back as the number. -/
def holds (g : Grid) (n : Nat) : Bool :=
  if g.closed then g.below ≤ n * g.step && n * g.step ≤ g.above
  else g.below < n * g.step && n * g.step < g.above

/-- The grid point nearest to the number among the two around it that read back as it;
the upper one if both are equally near. -/
def nearest? (g : Grid) : Option Nat :=
  let n := g.at / g.step
  if g.holds n then
    if g.holds (n + 1) && (n + 1) * g.step - g.at ≤ g.at - n * g.step then some (n + 1)
    else some n
  else if g.holds (n + 1) then some (n + 1) else none

end Grid

namespace Shortest

/-- The grid of multiples of `10^k` around `m · 2^e`, a number of format `f`. Half a last
place on either side reads back as the number, but only a quarter below a power of two,
where the places become finer. -/
def gridOf (f : Format) (m : Nat) (e k : Int) : Grid :=
  -- At the bottom of the format the places below a power of two are no finer.
  let fine := m = Nat.pow 2 (f.precision - 1) ∧ f.lowest < e
  let scale := Nat.pow 10 (-k).toNat * Nat.pow 2 (e - 2).toNat
  { step := Nat.pow 10 k.toNat * Nat.pow 2 (2 - e).toNat
    below := (4 * m - if fine then 1 else 2) * scale
    «at» := 4 * m * scale
    above := (4 * m + 2) * scale
    closed := m % 2 = 0 }

/-- The exponent `k` with `10^k ≤ num / den < 10^(k+1)`, for positive `num` and `den`. -/
def decimalMagnitude (num den : Nat) : Int :=
  let k : Int := (Decimal.digitCount num : Int) - Decimal.digitCount den
  if den * Nat.pow 10 k.toNat ≤ num * Nat.pow 10 (-k).toNat then k else k - 1

/-- Digits and exponent of `m · 2^e`, looked for on the grid `10^k` and on `fuel` finer ones. -/
def shortestOn (f : Format) (m : Nat) (e : Int) : Nat → Int → Nat × Int
  | 0, k => let g := gridOf f m e k; (g.at / g.step, k)
  | fuel + 1, k =>
    match (gridOf f m e k).nearest? with
    | some n => (n, k)
    | none => shortestOn f m e fuel (k - 1)

/-- The shortest digits of a positive number; seventeen always suffice up to double precision. -/
def digits (f : Format) (m : Nat) (e : Int) : Nat × Int :=
  shortestOn f m e 17 (decimalMagnitude (m * Nat.pow 2 e.toNat) (Nat.pow 2 (-e).toNat))

/-- The digits of a text without the zeros that end it, and how many those were. -/
def stripZeros (ds : List Char) : List Char × Nat :=
  let kept := (ds.reverse.dropWhile (· = '0')).reverse
  (kept, ds.length - kept.length)

/-- The digits `ds` with the point after the one of weight `10^x` counted from the first:
around the point for `-4 ≤ x < 16`, and before an exponent otherwise. -/
def layout (ds : List Char) (x : Int) : List Char :=
  if 16 ≤ x ∨ x < -4 then
    let fraction := if ds.length ≤ 1 then [] else '.' :: ds.drop 1
    ds.take 1 ++ fraction ++ 'e' :: (toString x).toList
  else if x < 0 then
    '0' :: '.' :: (List.replicate (-x - 1).toNat '0' ++ ds)
  else
    let whole := x.toNat + 1
    let fraction := if ds.length ≤ whole then ['0'] else ds.drop whole
    ds.take whole ++ List.replicate (whole - ds.length) '0' ++ '.' :: fraction

/-- The text of the magnitude `m · 2^e`. -/
def magnitude (f : Format) (m : Nat) (e : Int) : List Char :=
  if m = 0 then "0.0".toList
  else
    let (n, k) := digits f m e
    let (ds, zeros) := stripZeros (Nat.toDigits 10 n)
    layout ds (k + zeros + ds.length - 1)

end Shortest

/-- The text of a number of format `f`. -/
def Binary.chars (f : Format) : Binary → List Char
  | .nan => "NaN".toList
  | .infinite negative => if negative then "-inf".toList else "inf".toList
  | .finite negative m e =>
    let text := Shortest.magnitude f m e
    if negative then '-' :: text else text

/-- The text of a number of format `f`. -/
def Binary.text (f : Format) (x : Binary) : String := String.ofList (x.chars f)

end Understudy

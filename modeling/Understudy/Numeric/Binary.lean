/-!
# Binary floating point, computed exactly

A floating-point number is `±m · 2^e` with a bounded significand `m`. Everything
here is integer arithmetic on `m` and `e`: comparison brings two numbers to the
same exponent, and every operation that can lose digits goes through one
rounding function, `Format.round`, which takes an exact quotient of naturals to
the nearest number of a format, ties to the even significand.

`divNearest_mul_le` and `le_divNearest_mul` say that rounding a quotient to an
integer moves it by at most half a unit.
-/

namespace Understudy

/-- A binary format: how many binary digits a significand has, and the exponents
of the last place of its smallest and of its largest numbers. -/
structure Format where
  precision : Nat
  lowest : Int
  highest : Int
deriving DecidableEq, Repr

namespace Format

/-- Single precision: 24 digits, in 32 bits. -/
def single : Format := ⟨24, -149, 104⟩

/-- Double precision: 53 digits, in 64 bits. -/
def double : Format := ⟨53, -1074, 971⟩

end Format

/-- A floating-point number of any binary format. `finite negative m e` is `±m · 2^e`. -/
inductive Binary where
  | nan
  | infinite (negative : Bool)
  | finite (negative : Bool) (significand : Nat) (exponent : Int)
deriving DecidableEq, Repr

/-- The quotient `num / den` rounded to the nearest integer, ties to the even one. -/
def divNearest (num den : Nat) : Nat :=
  let q := num / den
  let r := num % den
  if 2 * r < den then q
  else if den < 2 * r then q + 1
  else if q % 2 = 0 then q else q + 1

/-- Rounding up never adds more than half a unit. -/
theorem divNearest_mul_le (num den : Nat) (h : 0 < den) :
    2 * (divNearest num den * den) ≤ 2 * num + den := by
  have hq := Nat.div_add_mod num den
  have hr := Nat.mod_lt num h
  unfold divNearest
  simp only
  split
  · rw [Nat.mul_comm (num / den)]; omega
  · split
    · rw [Nat.add_mul, Nat.mul_comm (num / den)]; omega
    · split
      · rw [Nat.mul_comm (num / den)]; omega
      · rw [Nat.add_mul, Nat.mul_comm (num / den)]; omega

/-- Rounding down never takes away more than half a unit. -/
theorem le_divNearest_mul (num den : Nat) (h : 0 < den) :
    2 * num ≤ 2 * (divNearest num den * den) + den := by
  have hq := Nat.div_add_mod num den
  have hr := Nat.mod_lt num h
  unfold divNearest
  simp only
  split
  · rw [Nat.mul_comm (num / den)]; omega
  · split
    · rw [Nat.add_mul, Nat.mul_comm (num / den)]; omega
    · split
      · rw [Nat.mul_comm (num / den)]; omega
      · rw [Nat.add_mul, Nat.mul_comm (num / den)]; omega

/-- The quotient `num / den` measured in units of `2^e`, again as a quotient. -/
def inUnits (num den : Nat) (e : Int) : Nat × Nat :=
  if 0 ≤ e then (num, den * Nat.pow 2 e.toNat) else (num * Nat.pow 2 (-e).toNat, den)

/-- The exponent `g` with `2^g ≤ num / den < 2^(g+1)`, for positive `num` and `den`. -/
def binaryMagnitude (num den : Nat) : Int :=
  let g : Int := (num.log2 : Int) - den.log2
  let q := inUnits num den g
  if q.2 ≤ q.1 then g else g - 1

namespace Format

/-- The number of the format nearest to `±num / den`, ties to the even significand.
Quotients beyond the largest number become infinite. -/
def round (f : Format) (negative : Bool) (num den : Nat) : Binary :=
  if num = 0 then .finite negative 0 f.lowest
  else
    let e := max f.lowest (binaryMagnitude num den + 1 - f.precision)
    let q := inUnits num den e
    let m := divNearest q.1 q.2
    -- Rounding up can reach one digit too many, and then it reaches a power of two.
    let carried := m = Nat.pow 2 f.precision
    let m := if carried then m / 2 else m
    let e := if carried then e + 1 else e
    if f.highest < e then .infinite negative else .finite negative m e

/-- The number of the format nearest to an integer. -/
def ofInt (f : Format) (n : Int) : Binary := f.round (n < 0) n.natAbs 1

/-- The positive zero of the format. -/
def zero (f : Format) : Binary := .finite false 0 f.lowest

end Format

namespace Binary

/-- The integer `±m`. -/
def signed (negative : Bool) (m : Nat) : Int := if negative then -(m : Int) else m

/-- The significand of `±m · 2^e` once its last place is moved down to `2^low`. -/
def alignedTo (low : Int) (negative : Bool) (m : Nat) (e : Int) : Int :=
  signed negative m * (Nat.pow 2 (e - low).toNat : Nat)

/-- Where an infinite number lies: `-1` below and `1` above all finite ones, which are at `0`. -/
def side : Binary → Int
  | .infinite true => -1
  | .infinite false => 1
  | _ => 0

/-- The exact order of two numbers; nothing compares with a NaN, and the two zeros are equal. -/
def compare? : Binary → Binary → Option Ordering
  | .nan, _ => none
  | _, .nan => none
  | .finite s m e, .finite s' m' e' =>
    some (compare (alignedTo (min e e') s m e) (alignedTo (min e e') s' m' e'))
  | x, y => some (compare x.side y.side)

/-- The nearest number of another format. -/
def toFormat (f : Format) : Binary → Binary
  | .nan => .nan
  | .infinite s => .infinite s
  | .finite s m e =>
    if 0 ≤ e then f.round s (m * Nat.pow 2 e.toNat) 1 else f.round s m (Nat.pow 2 (-e).toNat)

/-- The magnitude of a number. -/
def abs : Binary → Binary
  | .nan => .nan
  | .infinite _ => .infinite false
  | .finite _ m e => .finite false m e

/-- The difference of two numbers, rounded once to the format. -/
def sub (f : Format) : Binary → Binary → Binary
  | .nan, _ => .nan
  | _, .nan => .nan
  | .infinite s, .infinite s' => if s = s' then .nan else .infinite s
  | .infinite s, .finite .. => .infinite s
  | .finite .., .infinite s => .infinite !s
  | .finite s m e, .finite s' m' e' =>
    let low := min e e'
    let d := alignedTo low s m e - alignedTo low s' m' e'
    if d = 0 then .finite (s && !s') 0 f.lowest
    else toFormat f (.finite (d < 0) d.natAbs low)

/-- Whether one number is at most another; false when either is a NaN. -/
def atMost (x y : Binary) : Bool :=
  match x.compare? y with
  | some .lt | some .eq => true
  | _ => false

end Binary

end Understudy

import Mathlib.Algebra.Order.Field.Power
import Mathlib.Algebra.Order.Ring.Rat
import Mathlib.Data.Prod.Lex
import Mathlib.Tactic.Positivity
import Mathlib.Tactic.Ring
import Understudy.Numeric.Binary

/-!
# The order of floating-point numbers, and the doubles nearest to integers

The two comparisons of floating-point numbers bring significands to one exponent, so each of them
sees its own pair of integers. What they agree on is the place of a number (`Binary.place`): the
side it lies on if it is infinite, and what it denotes if it is finite. `compare?_eq_iff` and
`atMost_iff` say that numbers compare as their places do, which makes the two relations an
equivalence and a preorder on everything but NaN.

The double nearest to an integer denotes an integer again, `rounded`. Rounding keeps the order of
integers (`rounded_mono`) but not their distinctness, except near zero: below `2^53` it changes
nothing (`rounded_of_small`).
-/

namespace Understudy

/-! ## Places -/

namespace Binary

variable {x y : Binary}

/-- What a finite number denotes. -/
def value : Binary → ℚ
  | finite s m e => signed s m * 2 ^ e
  | _ => 0

/-- Where a number lies among all numbers. A NaN lies nowhere. -/
def place : Binary → Option (ℤ ×ₗ ℚ)
  | nan => none
  | x => some (toLex (x.side, x.value))

theorem cast_signed (s : Bool) (m : Nat) : (signed s m : ℚ) = (if s then -1 else 1) * m := by
  cases s <;> simp [signed]

/-- Moving the last place down divides by the unit of the new one. -/
theorem cast_alignedTo {low e : ℤ} (h : low ≤ e) (s : Bool) (m : Nat) :
    (alignedTo low s m e : ℚ) = signed s m * 2 ^ e / 2 ^ low := by
  have hnat : ((e - low).toNat : ℤ) = e - low := by omega
  have hpow : ((Nat.pow 2 (e - low).toNat : Nat) : ℚ) = 2 ^ e / 2 ^ low := by
    rw [← zpow_sub₀ two_ne_zero, ← hnat, zpow_natCast]
    norm_cast
  rw [alignedTo, Int.cast_mul, Int.cast_natCast, hpow, mul_div_assoc]

/-- Finite numbers are equal if they denote the same. -/
theorem alignedTo_eq_iff (s s' : Bool) (m m' : Nat) (e e' : ℤ) :
    alignedTo (min e e') s m e = alignedTo (min e e') s' m' e' ↔
      (finite s m e).value = (finite s' m' e').value := by
  have hunit : (0 : ℚ) < 2 ^ (min e e') := by positivity
  rw [← Int.cast_inj (α := ℚ), cast_alignedTo (min_le_left e e'), cast_alignedTo (min_le_right e e'),
    div_left_inj' hunit.ne', value, value]

theorem alignedTo_le_iff (s s' : Bool) (m m' : Nat) (e e' : ℤ) :
    alignedTo (min e e') s m e ≤ alignedTo (min e e') s' m' e' ↔
      (finite s m e).value ≤ (finite s' m' e').value := by
  have hunit : (0 : ℚ) < 2 ^ (min e e') := by positivity
  rw [← Int.cast_le (R := ℚ), cast_alignedTo (min_le_left e e'), cast_alignedTo (min_le_right e e'),
    div_le_div_iff_of_pos_right hunit, value, value]

/-- Comparing integers in place of numbers gives the order of the integers. -/
theorem atMost_iff_of_compare? {i j : ℤ} (h : x.compare? y = some (compare i j)) :
    x.atMost y = true ↔ i ≤ j := by
  have hle : x.atMost y = (compare i j).isLE := by
    unfold atMost
    rw [h]
    cases compare i j <;> rfl
  rw [hle, Int.isLE_compare]

/-- Numbers are equal if they lie in the same place. -/
theorem compare?_eq_iff : x.compare? y = some .eq ↔ ∃ p, x.place = some p ∧ y.place = some p := by
  cases x with
  | nan => simp [compare?, place]
  | infinite s =>
    cases y with
    | nan => simp [compare?, place]
    | infinite s' => simpa [compare?, place, value] using eq_comm
    | finite s' m' e' => cases s <;> simp [compare?, place, side]
  | finite s m e =>
    cases y with
    | nan => simp [compare?, place]
    | infinite s' => cases s' <;> simp [compare?, place, side]
    | finite s' m' e' =>
      rw [compare?, Option.some.injEq, Int.compare_eq_eq, alignedTo_eq_iff]
      simp [place, side, eq_comm]

/-- A number is at most another if its place is. -/
theorem atMost_iff : x.atMost y = true ↔
    ∃ p q, x.place = some p ∧ y.place = some q ∧ p ≤ q := by
  -- Sides settle what is infinite. Two finite numbers are brought to a common exponent first.
  cases x with
  | nan => simp [atMost, compare?, place]
  | infinite s =>
    cases y with
    | nan => simp [atMost, compare?, place]
    | infinite s' =>
      rw [atMost_iff_of_compare? rfl]
      simpa [place, value, Prod.Lex.toLex_le_toLex] using Int.le_iff_lt_or_eq
    | finite s' m' e' =>
      rw [atMost_iff_of_compare? rfl]
      cases s <;> simp [place, side, Prod.Lex.toLex_le_toLex]
  | finite s m e =>
    cases y with
    | nan => simp [atMost, compare?, place]
    | infinite s' =>
      rw [atMost_iff_of_compare? rfl]
      cases s' <;> simp [place, side, Prod.Lex.toLex_le_toLex]
    | finite s' m' e' =>
      rw [atMost_iff_of_compare? rfl, alignedTo_le_iff]
      simp [place, side, Prod.Lex.toLex_le_toLex]

end Binary

/-! ## Rounding to an integer -/

variable {m n den : Nat}

theorem divNearest_mono (den : Nat) (h : m ≤ n) : divNearest m den ≤ divNearest n den := by
  have hq := Nat.div_le_div_right (c := den) h
  rcases Nat.lt_or_eq_of_le hq with hlt | heq
  · unfold divNearest
    dsimp only
    split_ifs <;> omega
  · -- In one and the same unit, the greater number has the greater rest.
    have hm := Nat.div_add_mod m den
    have hn := Nat.div_add_mod n den
    unfold divNearest
    dsimp only
    rw [heq] at hm ⊢
    split_ifs <;> omega

theorem divNearest_mul (k : Nat) (h : 0 < den) : divNearest (k * den) den = k := by
  unfold divNearest
  dsimp only
  rw [Nat.mul_mod_left, Nat.mul_div_left k h, if_pos (by omega)]

/-- The natural number that the double nearest to one denotes: it keeps the leading 53 digits. -/
def roundedNat (n : Nat) : Nat := divNearest n (2 ^ (n.log2 - 52)) * 2 ^ (n.log2 - 52)

theorem roundedNat_of_lt (h : n < 2 ^ 53) : roundedNat n = n := by
  have hlog : n.log2 - 52 = 0 := by
    by_cases h0 : n = 0
    · rw [h0]
      rfl
    · have := (Nat.log2_lt h0).mpr h
      omega
  rw [roundedNat, hlog, pow_zero, Nat.mul_one]
  simpa using divNearest_mul n Nat.one_pos

/-- Powers of two are doubles, and what lies on one side of them stays there. -/
theorem divNearest_two_pow {k e : Nat} (h : e ≤ k) :
    divNearest (2 ^ k) (2 ^ e) * 2 ^ e = 2 ^ k := by
  have hsplit : 2 ^ k = 2 ^ (k - e) * 2 ^ e := by
    rw [← pow_add, Nat.sub_add_cancel h]
  rw [hsplit, divNearest_mul _ (Nat.two_pow_pos e)]

theorem two_pow_le_roundedNat (h : n ≠ 0) : 2 ^ n.log2 ≤ roundedNat n := by
  calc 2 ^ n.log2 = divNearest (2 ^ n.log2) (2 ^ (n.log2 - 52)) * 2 ^ (n.log2 - 52) :=
        (divNearest_two_pow (Nat.sub_le ..)).symm
    _ ≤ roundedNat n := Nat.mul_le_mul_right _ (divNearest_mono _ (Nat.log2_self_le h))

theorem roundedNat_le_two_pow (n : Nat) : roundedNat n ≤ 2 ^ (n.log2 + 1) := by
  calc roundedNat n ≤ divNearest (2 ^ (n.log2 + 1)) (2 ^ (n.log2 - 52)) * 2 ^ (n.log2 - 52) :=
        Nat.mul_le_mul_right _ (divNearest_mono _ (Nat.le_of_lt Nat.lt_log2_self))
    _ = 2 ^ (n.log2 + 1) := divNearest_two_pow (by omega)

theorem roundedNat_mono (h : m ≤ n) : roundedNat m ≤ roundedNat n := by
  by_cases hm : m = 0
  · rw [hm, roundedNat_of_lt (by omega)]
    exact Nat.zero_le _
  · have hn : n ≠ 0 := by omega
    have hlog : m.log2 ≤ n.log2 := (Nat.le_log2 hn).mpr ((Nat.log2_self_le hm).trans h)
    rcases Nat.lt_or_eq_of_le hlog with hlt | heq
    · -- There is a power of two between them.
      calc roundedNat m ≤ 2 ^ (m.log2 + 1) := roundedNat_le_two_pow m
        _ ≤ 2 ^ n.log2 := Nat.pow_le_pow_right (by omega) hlt
        _ ≤ roundedNat n := two_pow_le_roundedNat hn
    · rw [roundedNat, roundedNat, heq]
      exact Nat.mul_le_mul_right _ (divNearest_mono _ h)

/-- The integer that the double nearest to one denotes. -/
def rounded (n : Int) : Int := Binary.signed (n < 0) (roundedNat n.natAbs)

theorem rounded_of_neg {n : Int} (h : n < 0) : rounded n = -(roundedNat n.natAbs : ℤ) := by
  simp [rounded, Binary.signed, h]

theorem rounded_of_nonneg {n : Int} (h : 0 ≤ n) : rounded n = roundedNat n.natAbs := by
  simp [rounded, Binary.signed, Int.not_lt.mpr h]

theorem rounded_mono {m n : Int} (h : m ≤ n) : rounded m ≤ rounded n := by
  rcases Int.lt_or_le n 0 with hn | hn
  · have hmagnitude := roundedNat_mono (show n.natAbs ≤ m.natAbs by omega)
    rw [rounded_of_neg (by omega), rounded_of_neg hn]
    omega
  · rcases Int.lt_or_le m 0 with hm | hm
    · rw [rounded_of_neg hm, rounded_of_nonneg hn]
      omega
    · have hmagnitude := roundedNat_mono (show m.natAbs ≤ n.natAbs by omega)
      rw [rounded_of_nonneg hm, rounded_of_nonneg hn]
      omega

theorem rounded_of_small {n : Int} (h : n.natAbs ≤ 2 ^ 53) : rounded n = n := by
  have hnat : roundedNat n.natAbs = n.natAbs := by
    rcases Nat.lt_or_eq_of_le h with hlt | heq
    · exact roundedNat_of_lt hlt
    · rw [heq, roundedNat, Nat.log2_two_pow]
      exact divNearest_two_pow (by omega)
  rcases Int.lt_or_le n 0 with hn | hn
  · rw [rounded_of_neg hn, hnat]
    omega
  · rw [rounded_of_nonneg hn, hnat]
    omega

/-- Below `2^53` no two integers fall together. -/
theorem eq_of_rounded_eq {m n : Int} (hn : n.natAbs < 2 ^ 53) (h : rounded m = rounded n) :
    m = n := by
  rcases Int.lt_trichotomy m n with hlt | heq | hgt
  · have hmono : rounded m ≤ rounded (n - 1) := rounded_mono (by omega)
    rw [h, rounded_of_small (by omega), rounded_of_small (by omega)] at hmono
    omega
  · exact heq
  · have hmono : rounded (n + 1) ≤ rounded m := rounded_mono (by omega)
    rw [h, rounded_of_small (by omega), rounded_of_small (by omega)] at hmono
    omega

/-! ## Converting integers -/

namespace Format

variable {e : ℤ}

/-- The magnitude of a positive integer is the place of its first digit. -/
theorem binaryMagnitude_one (h : n ≠ 0) : binaryMagnitude n 1 = n.log2 := by
  have hone : Nat.log2 1 = 0 := by decide
  unfold binaryMagnitude inUnits
  simp only [hone, Nat.cast_zero, Int.sub_zero, Int.toNat_natCast, Nat.one_mul, Nat.pow_eq]
  rw [if_pos (Int.natCast_nonneg _), if_pos (Nat.log2_self_le h)]

/-- A significand that got one digit too many denotes the same once it is halved. -/
theorem place_of_carry (s : Bool) (m : Nat) (he : e < double.highest) :
    (if double.highest < (if m = 2 ^ 53 then e + 1 else e) then Binary.infinite s
      else .finite s (if m = 2 ^ 53 then m / 2 else m) (if m = 2 ^ 53 then e + 1 else e)).place =
        some (toLex (0, (Binary.signed s m : ℚ) * 2 ^ e)) := by
  by_cases hm : m = 2 ^ 53
  · have hhalf : (Binary.signed s (2 ^ 53 / 2) : ℚ) * 2 ^ (e + 1) =
        Binary.signed s (2 ^ 53) * 2 ^ e := by
      rw [zpow_add_one₀ two_ne_zero, show 2 ^ 53 = 2 * (2 ^ 53 / 2) from rfl]
      cases s <;> simp [Binary.signed] <;> ring
    rw [hm, if_pos rfl, if_pos rfl, if_neg (by omega)]
    simp only [Binary.place, Binary.side, Binary.value, hhalf]
  · rw [if_neg hm, if_neg hm, if_neg (by omega)]
    simp only [Binary.place, Binary.side, Binary.value]

/-- What the significand of an integer denotes in its unit. -/
theorem significand_mul (n : Nat) :
    (divNearest (inUnits n 1 (n.log2 - 52)).1 (inUnits n 1 (n.log2 - 52)).2 : ℚ) *
      2 ^ ((n.log2 : ℤ) - 52) = roundedNat n := by
  unfold inUnits roundedNat
  by_cases hlog : 52 ≤ n.log2
  · have hexp : (n.log2 : ℤ) - 52 = ((n.log2 - 52 : Nat) : ℤ) := by omega
    rw [hexp, if_pos (Int.natCast_nonneg _), zpow_natCast, Int.toNat_natCast, Nat.pow_eq,
      Nat.one_mul]
    norm_cast
  · -- The unit is a fraction, and nothing is rounded.
    have hexp : (n.log2 : ℤ) - 52 = -((52 - n.log2 : Nat) : ℤ) := by omega
    have hzero : n.log2 - 52 = 0 := by omega
    have hexact (k : Nat) : divNearest k 1 = k := by simpa using divNearest_mul k Nat.one_pos
    rw [hexp, if_neg (by omega), Int.neg_neg, Int.toNat_natCast, Nat.pow_eq, hzero, pow_zero, hexact,
      hexact, zpow_neg, zpow_natCast]
    push_cast
    rw [mul_inv_cancel_right₀ (by positivity), mul_one]

/-- An integer is converted to what it is rounded to. -/
theorem place_round (s : Bool) (h : n.log2 ≤ 64) :
    (double.round s n 1).place = some (toLex (0, (Binary.signed s (roundedNat n) : ℚ))) := by
  by_cases h0 : n = 0
  · rw [round, if_pos h0, h0]
    cases s <;> simp [Binary.place, Binary.side, Binary.value, Binary.signed, roundedNat_of_lt]
  · have hexp : max double.lowest (binaryMagnitude n 1 + 1 - double.precision) =
        (n.log2 : ℤ) - 52 := by
      rw [binaryMagnitude_one h0]
      simp only [double]
      omega
    have hhighest : (n.log2 : ℤ) - 52 < double.highest := by
      simp only [double]
      omega
    rw [round, if_neg h0]
    simp only [hexp]
    refine (place_of_carry s _ hhighest).trans ?_
    rw [Binary.cast_signed, mul_assoc, significand_mul, ← Binary.cast_signed]

/-- Converting an integer finds the nearest double. -/
theorem place_ofInt {n : Int} (h : n.natAbs < 2 ^ 65) :
    (double.ofInt n).place = some (toLex (0, (rounded n : ℚ))) := by
  refine place_round _ ?_
  by_cases h0 : n.natAbs = 0
  · rw [h0]
    decide
  · have := (Nat.log2_lt h0).mpr h
    omega

end Format

end Understudy

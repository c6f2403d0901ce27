/-!
# Counting calls

An expectation accepts a number of calls between a minimum and a maximum, if it has
one. A counter counts the calls it answered; it has capacity while one more call
keeps within the maximum, and is satisfied once the minimum is reached. Bounds
whose minimum does not exceed their maximum are consistent, and then a counter
that is not satisfied has capacity (`hasCapacity_of_not_satisfied`).

A quantifier is what a test says about the count. The sides it leaves open are
filled in by `Quantifier.resolve`.
-/

namespace Understudy

/-- A minimum and, unless it is open, a maximum number of calls. -/
structure Bounds where
  min : Nat
  max : Option Nat
deriving DecidableEq, Repr

/-- A number of calls in words. -/
def callsText : Nat → String
  | 0 => "no calls"
  | 1 => "1 call"
  | n => toString n ++ " calls"

namespace Bounds

/-- The greatest count that fits in 64 bits. Products of counts stop here. -/
def limit : Nat := 18446744073709551615

/-- Exactly `n` calls. -/
def exactly (n : Nat) : Bounds := ⟨n, some n⟩

/-- At least `n` calls. -/
def atLeast (n : Nat) : Bounds := ⟨n, none⟩

/-- From `min` to `max` calls. -/
def between (min max : Nat) : Bounds := ⟨min, some max⟩

/-- A product of counts. -/
def product (a b : Nat) : Nat := Nat.min (a * b) limit

/-- The bounds of a block that runs `n` times. -/
def repeated (b : Bounds) (n : Nat) : Bounds := ⟨product b.min n, b.max.map (product · n)⟩

/-- Whether some count satisfies the bounds. -/
def consistent (b : Bounds) : Bool := b.max.all (b.min ≤ ·)

/-- The maximum, if it lies below the minimum. -/
def shortMax? (b : Bounds) : Option Nat := b.max.filter (· < b.min)

/-- Bounds are consistent exactly if their maximum is not too short. -/
theorem consistent_iff {b : Bounds} : b.consistent = true ↔ b.shortMax? = none := by
  obtain ⟨lo, hi⟩ := b
  cases hi <;> simp [consistent, shortMax?]

/-- Whether a count is beyond the maximum. -/
def exceededBy (b : Bounds) (n : Nat) : Bool := b.max.any (· < n)

/-- Whether a count lies within the bounds. -/
def admits (b : Bounds) (n : Nat) : Bool := b.min ≤ n && !b.exceededBy n

/-- Bounds in words. -/
def text (b : Bounds) : String :=
  match b.max with
  | none => "at least " ++ callsText b.min
  | some 0 => "no calls"
  | some max =>
    if b.min = max then "exactly " ++ callsText b.min
    else if b.min = 0 then "at most " ++ callsText max
    else "between " ++ toString b.min ++ " and " ++ callsText max

/-- Bounds as a record of their two sides. -/
def form (b : Bounds) : String :=
  let max := match b.max with
    | some n => "Some(" ++ toString n ++ ")"
    | none => "None"
  "CountBounds \x7b min: " ++ toString b.min ++ ", max: " ++ max ++ " \x7d"

/-- A count exceeds nothing if it keeps within the maximum, when there is one. -/
theorem exceededBy_eq_false_iff {b : Bounds} {n : Nat} :
    b.exceededBy n = false ↔ ∀ m, b.max = some m → n ≤ m := by
  cases hm : b.max <;> simp [exceededBy, hm]

/-- Fewer calls exceed nothing that more calls keep within. -/
theorem exceededBy_eq_false_of_le {b : Bounds} {m n : Nat} (h : b.exceededBy n = false)
    (hmn : m ≤ n) : b.exceededBy m = false :=
  exceededBy_eq_false_iff.mpr fun k hk => Nat.le_trans hmn (exceededBy_eq_false_iff.mp h k hk)

theorem admits_iff {b : Bounds} {n : Nat} :
    b.admits n = true ↔ b.min ≤ n ∧ b.exceededBy n = false := by
  simp [admits]

theorem product_le_product {a b : Nat} (h : a ≤ b) (n : Nat) : product a n ≤ product b n := by
  have := Nat.mul_le_mul_right n h
  simp only [product, Nat.min_def]
  split <;> split <;> omega

/-- Repeating a block keeps its bounds consistent, products at the limit included. -/
theorem consistent_repeated {b : Bounds} (h : b.consistent) (n : Nat) :
    (b.repeated n).consistent := by
  obtain ⟨lo, hi⟩ := b
  cases hi with
  | none => rfl
  | some hi =>
    simp only [consistent, Option.all_some, decide_eq_true_eq, repeated, Option.map_some] at h ⊢
    exact decide_eq_true (product_le_product h n)

end Bounds

/-- The bounds of an expectation and the number of calls it answered. -/
structure Counter where
  bounds : Bounds
  count : Nat := 0
deriving DecidableEq, Repr

namespace Counter

/-- Whether one more call keeps within the maximum. -/
def hasCapacity (c : Counter) : Bool := !c.bounds.exceededBy (c.count + 1)

/-- Whether the minimum is reached. -/
def satisfied (c : Counter) : Bool := c.bounds.min ≤ c.count

/-- The counter after one more call. -/
def tick (c : Counter) : Counter := { c with count := c.count + 1 }

/-- An expectation below its minimum can answer another call. -/
theorem hasCapacity_of_not_satisfied {c : Counter} (h : c.bounds.consistent)
    (hs : c.satisfied = false) : c.hasCapacity = true := by
  obtain ⟨⟨lo, hi⟩, n⟩ := c
  cases hi with
  | none => rfl
  | some hi =>
    simp only [Bounds.consistent, Option.all_some, decide_eq_true_eq, satisfied,
      decide_eq_false_iff_not, hasCapacity, Bounds.exceededBy, Option.any_some,
      Bool.not_eq_eq_eq_not, Bool.not_true] at h hs ⊢
    omega

end Counter

/-- What a test says about a count. Either side may be left open. -/
structure Quantifier where
  min : Option Nat := none
  max : Option Nat := none
deriving DecidableEq, Repr

namespace Quantifier

/-- Both sides at once. -/
def times (n : Nat) (_ : Quantifier) : Quantifier := ⟨some n, some n⟩

/-- The minimum alone. -/
def minTimes (n : Nat) (q : Quantifier) : Quantifier := { q with min := some n }

/-- The maximum alone. -/
def maxTimes (n : Nat) (q : Quantifier) : Quantifier := { q with max := some n }

/-- The bounds meant by a quantifier. A lone minimum leaves the maximum open, and a lone
maximum lowers the default minimum to itself. If nothing is said the default holds, raised
so that every one of `results` scripted results can be used. -/
def resolve (q : Quantifier) (default : Bounds) (results : Nat) : Bounds :=
  match q.min, q.max with
  | some min, some max => .between min max
  | some min, none => .atLeast min
  | none, some max => .between (Nat.min default.min max) max
  | none, none =>
    match default.max with
    | some max => if max < results then .between default.min results else default
    | none => default

end Quantifier

end Understudy

/-!
# Sets of characters as ranges of code points

A set is an ascending list of inclusive ranges, so a look-up stops at the first range
that ends at or after the character. The tables of this library are such lists, and
`Ranges.ofList` makes one of ranges in any order.

`mem_ofList` says that making a set of ranges changes no membership, `mem_compl` what
the complement of a set holds, and `isAscending_ofList` that sets stay ascending.
-/

namespace Understudy.Text

/-- An ascending list of inclusive ranges of code points. -/
abbrev Ranges := List (Nat × Nat)

/-- The greatest code point. -/
def lastCodePoint : Nat := 0x10ffff

namespace Ranges

/-- Whether a code point lies in one of the ranges. -/
def mem (n : Nat) : Ranges → Bool
  | [] => false
  | (low, high) :: rest => if high < n then mem n rest else low ≤ n

/-- A set of one code point. -/
def single (n : Nat) : Ranges := [(n, n)]

/-- Ranges in ascending order of their lower ends. -/
def byLow (rs : List (Nat × Nat)) : List (Nat × Nat) := rs.mergeSort fun a b => decide (a.1 ≤ b.1)

/-- The range from `low` to `high` with those that follow it in ascending order of their lower
ends; ranges that touch become one. -/
def joinFrom (low high : Nat) : List (Nat × Nat) → Ranges
  | [] => [(low, high)]
  | (a, b) :: rest =>
    if a ≤ high + 1 then joinFrom low (max high b) rest else (low, high) :: joinFrom a b rest

/-- Sorted ranges, those that touch joined. -/
def joined : List (Nat × Nat) → Ranges
  | [] => []
  | (low, high) :: rest => joinFrom low high rest

/-- The set of the code points in any of some ranges. -/
def ofList (rs : List (Nat × Nat)) : Ranges := joined (byLow rs)

/-- The code points from `next` on that are in none of the ranges. -/
def gapsFrom (next : Nat) : Ranges → Ranges
  | [] => if next ≤ lastCodePoint then [(next, lastCodePoint)] else []
  | (low, high) :: rest =>
    if next < low then (next, low - 1) :: gapsFrom (high + 1) rest else gapsFrom (high + 1) rest

/-- The code points outside a set. -/
def compl (a : Ranges) : Ranges := gapsFrom 0 a

/-- The code points in either set. -/
def union (a b : Ranges) : Ranges := ofList (a ++ b)

/-- The code points in both sets. -/
def inter (a b : Ranges) : Ranges := compl (union (compl a) (compl b))

/-- The code points in the first set but not in the second. -/
def diff (a b : Ranges) : Ranges := inter a (compl b)

/-- The code points in exactly one of two sets. -/
def symmDiff (a b : Ranges) : Ranges := union (diff a b) (diff b a)

/-! ## Membership -/

/-- Whether a range holds a code point. -/
def holds (n : Nat) (r : Nat × Nat) : Bool := decide (r.1 ≤ n ∧ n ≤ r.2)

/-- Ranges in ascending order that do not overlap. -/
def IsAscending : Ranges → Prop
  | [] => True
  | (low, high) :: rest => low ≤ high ∧ (∀ r ∈ rest, high < r.1) ∧ IsAscending rest

theorem byLow_perm (rs : List (Nat × Nat)) : (byLow rs).Perm rs := List.mergeSort_perm rs _

theorem byLow_sorted (rs : List (Nat × Nat)) : (byLow rs).Pairwise fun a b => a.1 ≤ b.1 := by
  refine (List.pairwise_mergeSort ?_ ?_ rs).imp fun h => of_decide_eq_true h
  · intro a b c h h'
    simp only [decide_eq_true_eq] at *
    omega
  · intro a b
    simp only [Bool.or_eq_true, decide_eq_true_eq]
    omega

/-- Joining ranges that touch changes no membership. -/
theorem mem_joinFrom (n : Nat) {low high : Nat} {rs : List (Nat × Nat)} (proper : low ≤ high)
    (above : ∀ r ∈ rs, low ≤ r.1) (properAll : ∀ r ∈ rs, r.1 ≤ r.2)
    (sorted : rs.Pairwise fun a b => a.1 ≤ b.1) :
    mem n (joinFrom low high rs) = (holds n (low, high) || rs.any (holds n)) := by
  induction rs generalizing low high with
  | nil =>
    simp only [joinFrom, mem, holds, List.any_nil, Bool.or_false]
    split <;> simp <;> omega
  | cons r rest ih =>
    obtain ⟨a, b⟩ := r
    have ha : low ≤ a := above (a, b) (by simp)
    have hab : a ≤ b := properAll (a, b) (by simp)
    have after : ∀ r ∈ rest, a ≤ r.1 := (List.pairwise_cons.1 sorted).1
    have tailProper : ∀ r ∈ rest, r.1 ≤ r.2 := fun r h => properAll r (by simp [h])
    have tailSorted := (List.pairwise_cons.1 sorted).2
    rw [joinFrom, List.any_cons]
    split
    · rw [ih (by omega) (fun r h => Nat.le_trans ha (after r h)) tailProper tailSorted,
        ← Bool.or_assoc]
      congr 1
      rw [Bool.eq_iff_iff]
      simp only [holds, decide_eq_true_eq, Bool.or_eq_true]
      omega
    · rw [mem]
      split
      · rw [ih hab after tailProper tailSorted]
        have : holds n (low, high) = false := by simp [holds]; omega
        simp [this]
      · have later : rest.any (holds n) = false := by
          rw [List.any_eq_false]
          intro r h
          have := after r h
          simp [holds]
          omega
        rw [later, Bool.eq_iff_iff]
        simp only [holds, Bool.or_false, decide_eq_true_eq, Bool.or_eq_true]
        omega

/-- Joined ranges are ascending and begin where the first of them begins. -/
theorem isAscending_joinFrom {low high : Nat} {rs : List (Nat × Nat)} (proper : low ≤ high)
    (above : ∀ r ∈ rs, low ≤ r.1) (properAll : ∀ r ∈ rs, r.1 ≤ r.2)
    (sorted : rs.Pairwise fun a b => a.1 ≤ b.1) :
    (joinFrom low high rs).IsAscending ∧ ∀ r ∈ joinFrom low high rs, low ≤ r.1 := by
  induction rs generalizing low high with
  | nil => simp [joinFrom, IsAscending, proper]
  | cons r rest ih =>
    obtain ⟨a, b⟩ := r
    have ha : low ≤ a := above (a, b) (by simp)
    have hab : a ≤ b := properAll (a, b) (by simp)
    have after : ∀ r ∈ rest, a ≤ r.1 := (List.pairwise_cons.1 sorted).1
    have tailProper : ∀ r ∈ rest, r.1 ≤ r.2 := fun r h => properAll r (by simp [h])
    have tailSorted := (List.pairwise_cons.1 sorted).2
    rw [joinFrom]
    split
    · exact ih (by omega) (fun r h => Nat.le_trans ha (after r h)) tailProper tailSorted
    · obtain ⟨ascending, fromA⟩ := ih hab after tailProper tailSorted
      refine ⟨⟨proper, fun r h => ?_, ascending⟩, fun r h => ?_⟩
      · have := fromA r h
        omega
      · rcases List.mem_cons.1 h with rfl | h
        · exact Nat.le_refl _
        · exact Nat.le_trans ha (fromA r h)

/-- A set of ranges holds what any of them holds. -/
theorem mem_ofList (n : Nat) {rs : List (Nat × Nat)} (proper : ∀ r ∈ rs, r.1 ≤ r.2) :
    mem n (ofList rs) = rs.any (holds n) := by
  have perm := byLow_perm rs
  have same : (byLow rs).any (holds n) = rs.any (holds n) := by
    rw [Bool.eq_iff_iff, List.any_eq_true, List.any_eq_true]
    exact ⟨fun ⟨r, h, hn⟩ => ⟨r, perm.mem_iff.1 h, hn⟩,
      fun ⟨r, h, hn⟩ => ⟨r, perm.mem_iff.2 h, hn⟩⟩
  have proper : ∀ r ∈ byLow rs, r.1 ≤ r.2 := fun r h => proper r (perm.mem_iff.1 h)
  have sorted := byLow_sorted rs
  rw [← same, ofList]
  cases h : byLow rs with
  | nil => rfl
  | cons r rest =>
    rw [h] at sorted proper
    exact mem_joinFrom n (proper r (by simp)) (List.pairwise_cons.1 sorted).1
      (fun r h => proper r (by simp [h])) (List.pairwise_cons.1 sorted).2

/-- A set of ranges is ascending. -/
theorem isAscending_ofList {rs : List (Nat × Nat)} (proper : ∀ r ∈ rs, r.1 ≤ r.2) :
    (ofList rs).IsAscending := by
  have proper : ∀ r ∈ byLow rs, r.1 ≤ r.2 := fun r h => proper r ((byLow_perm rs).mem_iff.1 h)
  have sorted := byLow_sorted rs
  rw [ofList]
  cases h : byLow rs with
  | nil => trivial
  | cons r rest =>
    rw [h] at sorted proper
    exact (isAscending_joinFrom (proper r (by simp)) (List.pairwise_cons.1 sorted).1
      (fun r h => proper r (by simp [h])) (List.pairwise_cons.1 sorted).2).1

/-- Gaps lie where they are looked for. -/
theorem mem_gapsFrom_of_lt {n next : Nat} {rs : Ranges} (ascending : rs.IsAscending)
    (above : ∀ r ∈ rs, next ≤ r.1) (h : n < next) : mem n (gapsFrom next rs) = false := by
  induction rs generalizing next with
  | nil =>
    rw [gapsFrom]
    split
    · simp only [mem]
      split <;> simp
      omega
    · rfl
  | cons r rest ih =>
    obtain ⟨low, high⟩ := r
    obtain ⟨proper, later, ascending⟩ := ascending
    have hlow : next ≤ low := above (low, high) (by simp)
    have tail := ih ascending (fun r h => later r h) (show n < high + 1 by omega)
    rw [gapsFrom]
    split
    · rw [mem, tail]
      simp
      omega
    · exact tail

/-- A code point lies in a gap exactly if no range holds it. -/
theorem mem_gapsFrom {n next : Nat} {rs : Ranges} (ascending : rs.IsAscending)
    (above : ∀ r ∈ rs, next ≤ r.1) (h : next ≤ n) (last : n ≤ lastCodePoint) :
    mem n (gapsFrom next rs) = !mem n rs := by
  induction rs generalizing next with
  | nil =>
    rw [gapsFrom, if_pos (by omega)]
    simp [mem]
    omega
  | cons r rest ih =>
    obtain ⟨low, high⟩ := r
    obtain ⟨proper, later, ascending⟩ := ascending
    have hlow : next ≤ low := above (low, high) (by simp)
    have tail : low ≤ n → mem n (gapsFrom (high + 1) rest) = !mem n ((low, high) :: rest) := by
      intro hn
      rw [mem]
      split
      · exact ih ascending (fun r h => later r h) (by omega)
      · rw [mem_gapsFrom_of_lt ascending (fun r h => later r h) (by omega)]
        simp [hn]
    rw [gapsFrom]
    split
    · rw [mem]
      split
      · exact tail (by omega)
      · rw [mem, if_neg (by omega)]
        simp [h]
        omega
    · exact tail (by omega)

/-- The complement of a set holds the other code points. -/
theorem mem_compl {n : Nat} {a : Ranges} (ascending : a.IsAscending) (last : n ≤ lastCodePoint) :
    mem n a.compl = !mem n a :=
  mem_gapsFrom ascending (fun _ _ => Nat.zero_le _) (Nat.zero_le n) last

end Ranges

end Understudy.Text

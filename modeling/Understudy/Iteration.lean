/-!
# Blocks that run several times

A block with iterations stands for its parts written out one round after another.
`writtenOut` is that list. A block without parts stays empty however often it runs,
and its rounds are not counted through.
-/

namespace Understudy

/-- `n` rounds of a list, one after another. -/
def writtenOut {α : Type} (n : Nat) (round : List α) : List α :=
  if round.isEmpty then [] else (List.replicate n round).flatten

theorem writtenOut_eq_flatten {α : Type} (n : Nat) (round : List α) :
    writtenOut n round = (List.replicate n round).flatten := by
  cases round <;> simp [writtenOut]

@[simp] theorem writtenOut_zero {α : Type} (round : List α) : writtenOut 0 round = [] := by
  simp [writtenOut_eq_flatten]

/-- One more round stands in front of the others. -/
theorem writtenOut_succ {α : Type} (n : Nat) (round : List α) :
    writtenOut (n + 1) round = round ++ writtenOut n round := by
  simp [writtenOut_eq_flatten, List.replicate_succ]

/-- It stands behind the others as well. -/
theorem writtenOut_succ' {α : Type} (n : Nat) (round : List α) :
    writtenOut (n + 1) round = writtenOut n round ++ round := by
  simp [writtenOut_eq_flatten, List.replicate_succ']

@[simp] theorem writtenOut_one {α : Type} (round : List α) : writtenOut 1 round = round := by
  simp [writtenOut_succ]

/-- What is done to every part is done round by round. -/
theorem map_writtenOut {α β : Type} (f : α → β) (n : Nat) (round : List α) :
    (writtenOut n round).map f = writtenOut n (round.map f) := by
  simp [writtenOut_eq_flatten]

theorem filterMap_writtenOut {α β : Type} (f : α → Option β) (n : Nat) (round : List α) :
    (writtenOut n round).filterMap f = writtenOut n (round.filterMap f) := by
  induction n with
  | zero => simp
  | succ n ih => rw [writtenOut_succ, writtenOut_succ, List.filterMap_append, ih]

theorem filter_writtenOut {α : Type} (p : α → Bool) (n : Nat) (round : List α) :
    (writtenOut n round).filter p = writtenOut n (round.filter p) := by
  rw [← List.filterMap_eq_filter, filterMap_writtenOut, List.filterMap_eq_filter]

/-- What is written out stands in the round. -/
theorem mem_of_mem_writtenOut {α : Type} {n : Nat} {round : List α} {x : α}
    (h : x ∈ writtenOut n round) : x ∈ round := by
  rw [writtenOut_eq_flatten] at h
  obtain ⟨xs, hxs, hx⟩ := List.mem_flatten.mp h
  exact List.eq_of_mem_replicate hxs ▸ hx

/-- Whatever stands in the round is written out, if it is written out at all. -/
theorem mem_writtenOut_iff {α : Type} {n : Nat} {round : List α} {x : α} (hn : n ≠ 0) :
    x ∈ writtenOut n round ↔ x ∈ round := by
  refine ⟨mem_of_mem_writtenOut, fun h => ?_⟩
  obtain ⟨m, rfl⟩ := Nat.exists_eq_succ_of_ne_zero hn
  rw [writtenOut_succ]
  exact List.mem_append_left _ h

@[simp] theorem length_writtenOut {α : Type} (n : Nat) (round : List α) :
    (writtenOut n round).length = n * round.length := by
  simp [writtenOut_eq_flatten]

end Understudy

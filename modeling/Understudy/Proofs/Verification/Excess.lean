import Understudy.Proofs.Verification.Passage

/-!
# What counts against a maximum

A slot with a run is charged with the run, and the last slot of a claim also with the calls
of the claim behind the first call of that slot's run, if nothing consumed them. A demand
whose charge exceeds its maximum in the latter way has an `overrun`.

What the second pass of a walk finds is said slot by slot: where all claims of a walk are
different every slot is a last one (`excesses_eq_nil_iff_of_nodup`), and in front of a round
that has every claim once more no slot is (`excesses_append_eq_nil_iff`).
-/

namespace Understudy

/-- Fewer calls than one exceed nothing. -/
@[simp] theorem Bounds.exceededBy_zero (b : Bounds) : b.exceededBy 0 = false :=
  exceededBy_eq_false_iff.mpr fun m _ => Nat.zero_le m

namespace Demand

variable {d : Demand} {consumed : List Nat} {run : List Located}

/-- The calls of a demand behind one of its calls that nothing consumed. -/
def trailing (d : Demand) (consumed : List Nat) (first : Located) : List Located :=
  d.calls.filter fun c => first.1 < c.1 && !consumed.contains c.1

/-- Whether a run and the calls trailing behind its first one are too many for a demand. A demand
without a run is charged with nothing. -/
def overrun (d : Demand) (consumed : List Nat) (run : List Located) : Bool :=
  run.head?.any fun first => d.bounds.exceededBy (run.length + (d.trailing consumed first).length)

/-- A run alone is not too much for a demand without an overrun. -/
theorem exceededBy_eq_false_of_overrun (h : d.overrun consumed run = false) :
    d.bounds.exceededBy run.length = false := by
  cases run with
  | nil => exact d.bounds.exceededBy_zero
  | cons first more => exact Bounds.exceededBy_eq_false_of_le h (Nat.le_add_right _ _)

end Demand

/-- The indices of the claims of a walk, slot by slot. -/
def indicesOf (w : Walked) : List Nat := w.filterMap fun entry => entry.1.claim?.map (·.1)

/-- The claims of a block are numbered from the first index on. -/
theorem indices_slotsOf {mode : Mode} {n i : Nat} {log : List Located} {items : List BlockItem} :
    (claimsOf (slotsOf mode n log i items)).map (·.1) =
      List.range' i (claimsAmong items).length := by
  induction items generalizing i with
  | nil => rfl
  | cons item rest ih =>
    cases item with
    | gap => exact ih
    | claim c => exact congrArg (i :: ·) ih

theorem indicesOf_zip {slots : List Slot} {passages : List Passage}
    (h : passages.length = slots.length) :
    indicesOf (slots.zip passages) = (claimsOf slots).map (·.1) := by
  have hslots : (slots.zip passages).map (·.1) = slots := List.map_fst_zip (Nat.le_of_eq h.symm)
  conv => rhs; rw [← hslots]
  rw [claimsOf, List.filterMap_map, List.map_filterMap]
  rfl

section Excess

variable {consumed : List Nat} {w early final : Walked} {i : Nat} {d : Demand} {p : Passage}

theorem isLastOf_iff : isLastOf i w = true ↔ i ∉ indicesOf w := by
  unfold isLastOf indicesOf
  rw [List.all_eq_true, List.mem_filterMap]
  constructor
  · rintro h ⟨⟨slot, p⟩, hmem, hi⟩
    obtain ⟨claim, hclaim, rfl⟩ := Option.map_eq_some_iff.mp hi
    have := h _ hmem
    rw [hclaim, Option.all_some, decide_eq_true_iff] at this
    exact this rfl
  · rintro h ⟨slot, p⟩ hmem
    cases hclaim : slot.claim? with
    | none => rfl
    | some claim =>
      rw [Option.all_some, decide_eq_true_iff]
      rintro rfl
      exact h ⟨_, hmem, by rw [hclaim]; rfl⟩

/-- What is found at the slot of a claim, and what is found at the others. -/
theorem excesses_claim_eq_nil_iff : excesses consumed ((.claim i d, p) :: w) = [] ↔
    (if isLastOf i w then d.overrun consumed p.run = false
      else d.bounds.exceededBy p.run.length = false) ∧ excesses consumed w = [] := by
  obtain ⟨run, finding⟩ := p
  cases run with
  | nil =>
    rw [excesses]
    · simp [Demand.overrun]
    · rintro _ _ _ _ _ ⟨⟩
  | cons first more =>
    rw [excesses]
    unfold callsCounted
    cases isLastOf i w with
    | true => simp [Demand.overrun, Demand.trailing]
    | false => simp

/-- All that is found are excesses. -/
theorem eq_tooMany_of_mem_excesses {m : Mismatch} (h : m ∈ excesses consumed w) :
    ∃ description bounds actual, m = .tooMany description bounds actual := by
  induction w with
  | nil => cases h
  | cons entry w ih =>
    obtain ⟨slot, run, finding⟩ := entry
    cases slot with
    | gap => exact ih h
    | claim i d =>
      cases run with
      | nil => exact ih h
      | cons first more =>
        rw [excesses] at h
        rcases List.mem_append.mp h with hhere | hrest
        · split at hhere
          · exact ⟨_, _, _, List.mem_singleton.mp hhere⟩
          · cases hhere
        · exact ih hrest

/-- Nothing is found only if no run is too long for its demand. -/
theorem exceededBy_of_excesses (h : excesses consumed w = []) :
    ∀ r ∈ runsOf w, r.1.bounds.exceededBy r.2.length = false := by
  induction w with
  | nil => exact fun _ => nofun
  | cons entry w ih =>
    obtain ⟨slot, p⟩ := entry
    cases slot with
    | gap => exact ih h
    | claim i d =>
      obtain ⟨hhere, hrest⟩ := excesses_claim_eq_nil_iff.mp h
      refine List.forall_mem_cons.mpr ⟨?_, ih hrest⟩
      split at hhere
      · exact Demand.exceededBy_eq_false_of_overrun hhere
      · exact hhere

/-- If all claims of a walk are different, every slot is charged in full. -/
theorem excesses_eq_nil_iff_of_nodup (hnodup : (indicesOf w).Nodup) : excesses consumed w = [] ↔
    ∀ r ∈ runsOf w, r.1.overrun consumed r.2 = false := by
  induction w with
  | nil => exact ⟨fun _ _ => nofun, fun _ => rfl⟩
  | cons entry w ih =>
    obtain ⟨slot, p⟩ := entry
    cases slot with
    | gap => exact ih hnodup
    | claim i d =>
      obtain ⟨hnot, hrest⟩ := List.nodup_cons.mp hnodup
      rw [excesses_claim_eq_nil_iff, if_pos (isLastOf_iff.mpr hnot), ih hrest, runsOf_claim,
        List.forall_mem_cons]

/-- In front of slots that have all the claims again, only the runs count. -/
theorem excesses_append_eq_nil_iff (hagain : ∀ i ∈ indicesOf early, i ∈ indicesOf final) :
    excesses consumed (early ++ final) = [] ↔
      (∀ r ∈ runsOf early, r.1.bounds.exceededBy r.2.length = false) ∧
        excesses consumed final = [] := by
  induction early with
  | nil => exact ⟨fun h => ⟨fun _ => nofun, h⟩, fun h => h.2⟩
  | cons entry early ih =>
    obtain ⟨slot, p⟩ := entry
    cases slot with
    | gap => exact ih hagain
    | claim i d =>
      obtain ⟨hi, hrest⟩ := List.forall_mem_cons.mp hagain
      -- The claim comes again behind, so this slot is not its last.
      have hlast : ¬ isLastOf i (early ++ final) = true := by
        rw [isLastOf_iff, indicesOf, List.filterMap_append, List.mem_append]
        exact fun hno => hno (Or.inr hi)
      rw [List.cons_append, excesses_claim_eq_nil_iff, if_neg hlast, ih hrest, ← and_assoc,
        runsOf_claim, List.forall_mem_cons]

end Excess

end Understudy

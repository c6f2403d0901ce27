import Understudy.Proofs.Replay.Resolution

/-!
# Whom a lenient type asks first

A lenient table asks its expectations in the order of a stable sort. `Precedes` is that order
said of places alone, given when each place answered last: a later answer precedes an earlier
one, whoever has answered precedes whoever has not, and among the latter the table order
counts. The comparison that is sorted by leaves two expectations open that never answered,
where only stability decides (`candidates_pairwise`), and two with the same number, which no
table has (`precedes_of_asksBefore`).

`Table.Selects` is what this means for a call, and `Table.selects` says it of every lenient table
whose numbers are distinct.
-/

namespace Understudy

/-- Whether place `i` comes before place `j`, `last` telling when each of them answered last. -/
def Precedes (last : Nat → Option Nat) (i j : Nat) : Prop :=
  match last i, last j with
  | some a, some b => b < a
  | some _, none => True
  | none, some _ => False
  | none, none => i < j

namespace Table

variable {t : Table} {c : Invocation} {i j : Nat} {d e : Expectation}

/-- The number of the last answer given at a place. -/
def mark? (t : Table) (i : Nat) : Option Nat := (t.expectations[i]?).bind (·.lastMatched)

theorem mark?_of_getElem? (h : t.expectations[i]? = some e) : t.mark? i = e.lastMatched := by
  rw [mark?, h]
  rfl

/-! ## The order of the candidates -/

/-- An expectation is asked before another one unless the other one answered later. -/
theorem asksBefore_iff {p q : Nat × Expectation} : asksBefore p q = true ↔
    ∀ n, q.2.lastMatched = some n → ∃ m, p.2.lastMatched = some m ∧ n ≤ m := by
  unfold asksBefore
  cases p.2.lastMatched with
  | none => cases q.2.lastMatched <;> simp
  | some m => cases q.2.lastMatched <;> simp

theorem asksBefore_trans (p q r : Nat × Expectation) (hpq : asksBefore p q = true)
    (hqr : asksBefore q r = true) : asksBefore p r = true := by
  rw [asksBefore_iff] at *
  intro n hn
  obtain ⟨k, hk, hnk⟩ := hqr n hn
  obtain ⟨m, hm, hkm⟩ := hpq k hk
  exact ⟨m, hm, Nat.le_trans hnk hkm⟩

theorem asksBefore_total (p q : Nat × Expectation) : (asksBefore p q || asksBefore q p) = true := by
  unfold asksBefore
  cases hp : p.2.lastMatched <;> cases hq : q.2.lastMatched <;> simp [Nat.le_total]

/-- The expectations are asked in ascending order, and those that compare alike in table order. -/
theorem candidates_pairwise (t : Table) :
    t.candidates.Pairwise fun p q =>
      asksBefore p q = true ∧ (asksBefore q p = true → p.1 ≤ q.1) := by
  rw [candidates, ← List.mergeSort_zipIdx, List.pairwise_map]
  -- A sort is stable if it sorts by position where elements compare alike.
  have hsorted := List.pairwise_mergeSort (List.zipIdxLE_trans asksBefore_trans)
    (List.zipIdxLE_total asksBefore_total) t.numbered.zipIdx
  refine hsorted.imp_of_mem ?_
  intro x y hx hy hxy
  have hposition : ∀ z ∈ t.numbered.zipIdx.mergeSort (List.zipIdxLE asksBefore), z.1.1 = z.2 := by
    intro z hz
    have hnum := List.mem_zipIdx_iff_getElem?.mp (List.mem_mergeSort.mp hz)
    rw [numbered, List.getElem?_map, List.getElem?_zipIdx, Option.map_map, Nat.zero_add] at hnum
    obtain ⟨e, -, heq⟩ := Option.map_eq_some_iff.mp hnum
    rw [← heq]
    rfl
  rw [hposition x hx, hposition y hy]
  unfold List.zipIdxLE at hxy
  split at hxy
  · next hle =>
    refine ⟨hle, ?_⟩
    intro hge
    rw [if_pos hge] at hxy
    exact of_decide_eq_true hxy
  · cases hxy

/-- No two places answered last under the same number. -/
def IsDistinct (t : Table) : Prop := ∀ i j m, t.mark? i = some m → t.mark? j = some m → i = j

/-- Of two places, the one that is asked first precedes the other. -/
theorem precedes_of_asksBefore (hdist : t.IsDistinct) (hne : i ≠ j)
    (hi : t.expectations[i]? = some e) (hj : t.expectations[j]? = some d)
    (hasks : asksBefore (i, e) (j, d) = true) (htie : asksBefore (j, d) (i, e) = true → i ≤ j) :
    Precedes t.mark? i j := by
  have hapart := hdist i j
  unfold Precedes
  rw [mark?_of_getElem? hi, mark?_of_getElem? hj] at hapart ⊢
  unfold asksBefore at hasks htie
  -- Only if neither was ever answered do the places decide.
  cases hm : e.lastMatched with
  | none =>
    cases hn : d.lastMatched with
    | none =>
      simp only [hm, hn] at htie ⊢
      have hle := htie trivial
      omega
    | some n =>
      simp only [hm, hn] at hasks
      cases hasks
  | some m =>
    cases hn : d.lastMatched with
    | none => trivial
    | some n =>
      simp only [hm, hn, decide_eq_true_eq] at hasks hapart ⊢
      have hmn : m ≠ n := fun h => hne (hapart m rfl (h ▸ rfl))
      omega

/-- What is found among the candidates precedes everything else that could be found. -/
theorem precedes_of_find? {P : Nat × Expectation → Bool} (hdist : t.IsDistinct)
    (h : t.candidates.find? P = some (i, e)) (hj : t.expectations[j]? = some d)
    (hP : P (j, d) = true) (hne : j ≠ i) : Precedes t.mark? i j := by
  obtain ⟨-, front, back, hsplit, hfront⟩ := List.find?_eq_some_iff_append.mp h
  have hi : t.expectations[i]? = some e :=
    mem_candidates_iff.mp (List.mem_of_find?_eq_some h)
  have hmem : (j, d) ∈ front ++ (i, e) :: back := hsplit ▸ mem_candidates_iff.mpr hj
  have hsorted := t.candidates_pairwise
  rw [hsplit] at hsorted
  rcases List.mem_append.mp hmem with hin | hin
  · have hnot := hfront _ hin
    rw [hP] at hnot
    cases hnot
  · rcases List.mem_cons.mp hin with heq | hin
    · cases heq
      exact absurd rfl hne
    · obtain ⟨hasks, htie⟩ :=
        (List.pairwise_cons.mp (List.pairwise_append.mp hsorted).2.1).1 (j, d) hin
      exact precedes_of_asksBefore hdist (Ne.symm hne) hi hj hasks htie

/-! ## What becomes of a call -/

/-- A lenient table picks the foremost expectation with room for a call; if there is none, it flags
the call for the foremost one that describes it; and if there is none either, it leaves the
call open. -/
inductive Selects (t : Table) (c : Invocation) (last : Nat → Option Nat) :
    Resolution × Table → Prop where
  | answered {i : Nat} {e : Expectation} (hroom : t.HasRoomFor c i e)
      (hforemost : ∀ j d, t.HasRoomFor c j d → j ≠ i → Precedes last i j) :
      Selects t c last (t.answer i)
  | flagged {i : Nat} {e : Expectation} (hnoRoom : ∀ j d, ¬ t.HasRoomFor c j d)
      (hplace : t.expectations[i]? = some e) (hdescribes : e.pattern.accepts c = .ok true)
      (hforemost : ∀ j, t.DescribesAt j c → j ≠ i → Precedes last i j) :
      Selects t c last (.unexpected e.exceeded, t)
  | passed (hnone : ∀ j, ¬ t.DescribesAt j c) : Selects t c last (.unmatched, t)

/-- It makes no difference how the order of the places is told. -/
theorem Selects.imp {last last' : Nat → Option Nat} {q : Resolution × Table}
    (h : t.Selects c last q) (hprecedes : ∀ i j, i ≠ j → Precedes last i j → Precedes last' i j) :
    t.Selects c last' q := by
  cases h with
  | answered hroom hforemost =>
    exact .answered hroom fun j d hd hne => hprecedes _ _ (Ne.symm hne) (hforemost j d hd hne)
  | flagged hnoRoom hplace hdescribes hforemost =>
    exact .flagged hnoRoom hplace hdescribes fun j hj hne =>
      hprecedes _ _ (Ne.symm hne) (hforemost j hj hne)
  | passed hnone => exact .passed hnone

/-- A lenient table selects by the numbers of its answers. -/
theorem selects (hdist : t.IsDistinct)
    (hok : ∀ e ∈ t.expectations, ∃ b, e.pattern.accepts c = .ok b) :
    ∃ q, t.resolveLenient c = .ok q ∧ t.Selects c t.mark? q := by
  have hall : ∀ i e, (i, e) ∈ t.candidates ↔ t.expectations[i]? = some e :=
    fun _ _ => mem_candidates_iff
  rw [resolveLenient]
  rcases findCoverage_cases hall hok with
    ⟨i, e, hcov, hroom, hfind⟩ | ⟨i, e, hcov, hnoRoom, hfind⟩ | ⟨hcov, hnone⟩
  · rw [hcov]
    refine ⟨_, rfl, .answered hroom ?_⟩
    intro j d hd hne
    refine precedes_of_find? hdist hfind hd.place ?_ hne
    rw [Pattern.describes_iff.mpr hd.describes, hd.capacity]
    rfl
  · -- No describing expectation has room, and the first in the order of recency is blamed.
    rw [hcov]
    obtain ⟨hdesc, -⟩ := List.find?_eq_some_iff_append.mp hfind
    refine ⟨_, rfl, .flagged hnoRoom (mem_candidates_iff.mp (List.mem_of_find?_eq_some hfind))
      (Pattern.describes_iff.mp hdesc) ?_⟩
    rintro j ⟨d, hd, hacc⟩ hne
    exact precedes_of_find? hdist hfind hd (Pattern.describes_iff.mpr hacc) hne
  · rw [hcov]
    exact ⟨_, rfl, .passed hnone⟩

end Table

end Understudy

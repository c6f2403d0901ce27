import Understudy.Proofs.Verification.Prepare
import Understudy.Proofs.Verification.Step

/-!
# What a silent walk has consumed

A walk without a finding has given every demand calls of its own: at least its minimum, from
the cursor on, and the cursor then stood behind the last of them. `Threads` says so about a
list of demands with the calls given to them; it is what the walk keeps at every slot
(`walk_threads`). Two facts follow from it alone, whatever calls the walk chose: calls
given to an earlier demand lie before all calls given to a later one (`Threads.pairwise`),
and a demand that allows no calls has none beyond the calls given before it
(`Threads.never`).
-/

namespace Understudy

/-- A demand as a log can put it: its calls are in log order, and its bounds consistent. -/
structure Demand.IsSound (d : Demand) : Prop where
  inLogOrder : d.calls.Pairwise (·.1 < ·.1)
  consistent : d.bounds.consistent = true

/-- The demands of a walk with the calls they consumed. -/
def runsOf (w : Walked) : List (Demand × List Located) :=
  w.filterMap fun entry => entry.1.claim?.map fun claim => (claim.2, entry.2.run)

theorem runsOf_append (front back : Walked) :
    runsOf (front ++ back) = runsOf front ++ runsOf back :=
  List.filterMap_append

theorem runsOf_claim (i : Nat) (d : Demand) (p : Passage) (w : Walked) :
    runsOf ((.claim i d, p) :: w) = (d, p.run) :: runsOf w := rfl

/-! ## One run -/

namespace Demand

variable {d : Demand} {cursor : Nat} {rest : List Slot}

/-- Calls of a demand that were given to it from a cursor on. -/
structure GivenFrom (d : Demand) (cursor : Nat) (run : List Located) : Prop where
  sublist : run.Sublist (d.ahead cursor)
  enough : d.bounds.min ≤ run.length
  never : d.bounds.max = some 0 → d.ahead cursor = []

theorem firstFrom?_le {p q : Nat} (h : d.firstFrom? p = some q) : p ≤ q := by
  obtain ⟨c, hc, rfl⟩ := Option.map_eq_some_iff.mp h
  simpa using List.find?_some hc

theorem IsSound.ahead (h : d.IsSound) (cursor : Nat) : (d.ahead cursor).Pairwise (·.1 < ·.1) :=
  h.inLogOrder.filter _

/-- The calls that a demand needs end before the position where the next one may take over. -/
theorem lt_requiredEnd (h : d.IsSound) (hmin : d.bounds.min ≤ (d.ahead cursor).length) :
    ∀ c ∈ (d.ahead cursor).take d.bounds.min, c.1 < d.requiredEnd cursor := by
  intro c hc
  obtain ⟨i, hi, hic⟩ := List.mem_iff_getElem.mp hc
  rw [List.length_take] at hi
  rw [List.getElem_take] at hic
  unfold requiredEnd
  cases hm : d.bounds.min with
  | zero => omega
  | succ m =>
    have hlt : m < (d.ahead cursor).length := by omega
    dsimp only
    rw [List.getElem?_eq_getElem hlt, Option.map_some, Option.getD_some, ← hic]
    -- The needed calls end with the one at `m`, and the calls ahead are in log order.
    rcases Nat.lt_or_ge i m with him | him
    · have := List.pairwise_iff_getElem.mp (h.ahead cursor) i m (by omega) hlt him
      omega
    · obtain rfl : i = m := by omega
      exact Nat.lt_succ_self _

/-- A demand consumes all the calls it needs. -/
theorem min_le_length_run (h : d.IsSound) (hmin : d.bounds.min ≤ (d.ahead cursor).length) :
    d.bounds.min ≤ (d.run cursor rest).length := by
  -- The boundary lies behind the needed calls, so none of them is cut off.
  have hkept : ((d.ahead cursor).take d.bounds.min).Sublist (d.run cursor rest) := by
    unfold Demand.run
    dsimp only
    refine List.sublist_filter_iff.mpr ⟨_, List.take_sublist d.bounds.min _, ?_⟩
    refine (List.filter_eq_self.mpr ?_).symm
    intro c hc
    have hc' := lt_requiredEnd h hmin c hc
    cases hb : (nextDemand? rest).bind (·.firstFrom? (d.requiredEnd cursor)) with
    | none => rfl
    | some q =>
      obtain ⟨next, -, hq⟩ := Option.bind_eq_some_iff.mp hb
      exact decide_eq_true (Nat.lt_of_lt_of_le hc' (firstFrom?_le hq))
  have hlen := hkept.length_le
  rwa [List.length_take, Nat.min_eq_left hmin] at hlen

theorem givenFrom_run (h : d.IsSound) (hmax : d.bounds.max ≠ some 0)
    (hmin : d.bounds.min ≤ (d.ahead cursor).length) : d.GivenFrom cursor (d.run cursor rest) where
  sublist := List.filter_sublist
  enough := min_le_length_run h hmin
  never := fun hno => absurd hno hmax

/-- A demand that allows no call and has none ahead needs none. -/
theorem givenFrom_nil (h : d.IsSound) (hmax : d.bounds.max = some 0)
    (hahead : d.ahead cursor = []) : d.GivenFrom cursor [] where
  sublist := List.nil_sublist _
  enough := by
    have hcons := h.consistent
    rw [Bounds.consistent, hmax, Option.all_some] at hcons
    exact of_decide_eq_true hcons
  never := fun _ => hahead

theorem GivenFrom.sublist_calls {run : List Located} (h : d.GivenFrom cursor run) :
    run.Sublist d.calls :=
  h.sublist.trans List.filter_sublist

theorem GivenFrom.cursor_le {run : List Located} (h : d.GivenFrom cursor run) :
    ∀ c ∈ run, cursor ≤ c.1 := by
  intro c hc
  simpa using (List.mem_filter.mp (h.sublist.subset hc)).2

end Demand

/-! ## The cursor -/

section Cursor

variable {cursor : Nat} {run : List Located}

/-- The cursor moves behind a run. -/
theorem lt_cursorAfter (h : run.Pairwise (·.1 < ·.1)) :
    ∀ c ∈ run, c.1 < cursorAfter cursor run := by
  intro c hc
  unfold cursorAfter
  cases hlast : run.getLast? with
  | none =>
    rw [List.getLast?_eq_none_iff.mp hlast] at hc
    cases hc
  | some last =>
    obtain ⟨front, rfl⟩ := List.getLast?_eq_some_iff.mp hlast
    rw [Option.map_some, Option.getD_some]
    rcases List.mem_append.mp hc with hin | hin
    · have := (List.pairwise_append.mp h).2.2 c hin last (List.mem_singleton_self last)
      omega
    · rw [List.mem_singleton.mp hin]
      exact Nat.lt_succ_self _

/-- The cursor never moves back. -/
theorem le_cursorAfter (h : ∀ c ∈ run, cursor ≤ c.1) : cursor ≤ cursorAfter cursor run := by
  unfold cursorAfter
  cases hlast : run.getLast? with
  | none => exact Nat.le_refl cursor
  | some last =>
    have := h last (List.mem_of_getLast? hlast)
    rw [Option.map_some, Option.getD_some]
    omega

/-- The cursor stands behind some call of the run, unless the run is empty. -/
theorem lt_or_le_of_lt_cursorAfter {p : Nat} (h : p < cursorAfter cursor run) :
    p < cursor ∨ ∃ c ∈ run, p ≤ c.1 := by
  unfold cursorAfter at h
  cases hlast : run.getLast? with
  | none =>
    rw [hlast] at h
    exact Or.inl h
  | some last =>
    rw [hlast, Option.map_some, Option.getD_some] at h
    exact Or.inr ⟨last, List.mem_of_getLast? hlast, Nat.le_of_lt_succ h⟩

end Cursor

/-! ## All runs -/

/-- Demands with the calls given to them one after another, from a cursor on. -/
inductive Threads : Nat → List (Demand × List Located) → Prop
  | nil (cursor : Nat) : Threads cursor []
  | cons {cursor : Nat} {d : Demand} {run : List Located} {rest : List (Demand × List Located)} :
    d.IsSound → d.GivenFrom cursor run → Threads (cursorAfter cursor run) rest →
      Threads cursor ((d, run) :: rest)

namespace Threads

variable {cursor : Nat} {runs : List (Demand × List Located)}

/-- No call before the cursor is given to anyone. -/
theorem cursor_le (h : Threads cursor runs) : ∀ r ∈ runs, ∀ c ∈ r.2, cursor ≤ c.1 := by
  induction h with
  | nil => exact fun _ => nofun
  | cons _ hgiven _ ih =>
    intro r hr c hc
    rcases List.mem_cons.mp hr with rfl | hin
    · exact hgiven.cursor_le c hc
    · exact Nat.le_trans (le_cursorAfter hgiven.cursor_le) (ih r hin c hc)

/-- Calls given to a demand lie before those given to later ones. -/
theorem pairwise (h : Threads cursor runs) :
    runs.Pairwise fun r s => ∀ p ∈ r.2, ∀ q ∈ s.2, p.1 < q.1 := by
  induction h with
  | nil => exact List.Pairwise.nil
  | cons hsound hgiven hrest ih =>
    refine List.pairwise_cons.mpr ⟨?_, ih⟩
    intro s hs p hp q hq
    have hrun := hsound.inLogOrder.sublist hgiven.sublist_calls
    exact Nat.lt_of_lt_of_le (lt_cursorAfter hrun p hp) (hrest.cursor_le s hs q hq)

theorem isSound (h : Threads cursor runs) : ∀ r ∈ runs, r.1.IsSound := by
  induction h with
  | nil => exact fun _ => nofun
  | cons hsound _ _ ih => exact List.forall_mem_cons.mpr ⟨hsound, ih⟩

theorem sublist_calls (h : Threads cursor runs) : ∀ r ∈ runs, r.2.Sublist r.1.calls := by
  induction h with
  | nil => exact fun _ => nofun
  | cons _ hgiven _ ih => exact List.forall_mem_cons.mpr ⟨hgiven.sublist_calls, ih⟩

theorem min_le (h : Threads cursor runs) : ∀ r ∈ runs, r.1.bounds.min ≤ r.2.length := by
  induction h with
  | nil => exact fun _ => nofun
  | cons _ hgiven _ ih => exact List.forall_mem_cons.mpr ⟨hgiven.enough, ih⟩

/-- A demand that allows no call has none beyond the cursor and the calls given before it. -/
theorem never (h : Threads cursor runs) : ∀ k (r : Demand × List Located), runs[k]? = some r →
    r.1.bounds.max = some 0 → ∀ p ∈ r.1.calls,
      p.1 < cursor ∨ ∃ q ∈ (runs.take k).flatMap (·.2), p.1 ≤ q.1 := by
  induction h with
  | nil => exact fun _ _ => nofun
  | @cons cursor d run rest hsound hgiven hrest ih =>
    intro k r hk hmax p hp
    cases k with
    | zero =>
      obtain rfl : (d, run) = r := Option.some.inj hk
      left
      by_cases hlt : p.1 < cursor
      · exact hlt
      · have hmem : p ∈ d.ahead cursor :=
          List.mem_filter.mpr ⟨hp, decide_eq_true (Nat.le_of_not_lt hlt)⟩
        rw [hgiven.never hmax] at hmem
        cases hmem
    | succ k =>
      rw [List.take_succ_cons, List.flatMap_cons]
      -- A call behind the cursor is behind what was before, or behind this run.
      rcases ih k r hk hmax p hp with hlt | ⟨q, hq, hpq⟩
      · rcases lt_or_le_of_lt_cursorAfter hlt with hcur | ⟨q, hq, hpq⟩
        · exact Or.inl hcur
        · exact Or.inr ⟨q, List.mem_append_left _ hq, hpq⟩
      · exact Or.inr ⟨q, List.mem_append_right _ hq, hpq⟩

end Threads

/-- A walk that finds nothing wrong gives every demand its calls. -/
theorem walk_threads : ∀ (slots : List Slot) (cursor : Nat) (consumed : List Nat),
    (∀ claim ∈ claimsOf slots, claim.2.IsSound) →
      walkMismatches (slots.zip (walk slots cursor consumed)) = [] →
        Threads cursor (runsOf (slots.zip (walk slots cursor consumed)))
  | [], cursor, _, _, _ => .nil cursor
  | .gap :: rest, cursor, consumed, hsound, hw => walk_threads rest cursor consumed hsound hw
  | .claim i d :: rest, cursor, consumed, hsound, hw => by
    have hd : d.IsSound := hsound (i, d) (List.mem_cons_self ..)
    have hrest : ∀ claim ∈ claimsOf rest, claim.2.IsSound :=
      fun claim hc => hsound claim (List.mem_cons_of_mem _ hc)
    rw [walk_claim] at hw ⊢
    -- The three ways a walk treats a claim; two of them may leave a finding.
    by_cases hmax : d.bounds.max = some 0
    · rw [Demand.passage_of_never hmax] at hw ⊢
      cases hahead : d.ahead cursor with
      | nil =>
        rw [hahead] at hw
        exact .cons hd (Demand.givenFrom_nil hd hmax hahead) (walk_threads rest _ _ hrest hw)
      | cons c cs =>
        rw [hahead] at hw
        cases hw
    · by_cases hmin : (d.ahead cursor).length < d.bounds.min
      · rw [Demand.passage_of_short hmax hmin] at hw
        cases hw
      · rw [Demand.passage_of_enough hmax hmin] at hw ⊢
        have hgiven : d.GivenFrom cursor (d.run cursor rest) :=
          Demand.givenFrom_run hd hmax (Nat.le_of_not_lt hmin)
        exact .cons hd hgiven (walk_threads rest _ _ hrest hw)

end Understudy

import Mathlib.Data.List.ReduceOption
import Understudy.Proofs.Verification.Gaps

/-!
# Calls that are missing

A check without order finds calls missing if their total is below the minimum of a claim. A
check in order decides by what lies ahead of its cursor and what lies behind it unconsumed, and
the cursor stands wherever the earlier claims have left it, with or without findings. If no
call belongs to two claims then the two agree: nothing but a claim itself consumes its calls, so
ahead and behind together are all of them (`Demand.behind_append_ahead`), wherever they are cut.

What lies in between the two verdicts is a claim with enough calls in the log and too few from
the cursor on. The check in order then says that they came out of order, and names the first
one (`Block.reports_agree`).
-/

namespace Understudy

/-- Whether a mismatch says that there are too few calls, or too few in order. -/
def Mismatch.isShortage : Mismatch → Bool
  | missing .. => true
  | unordered .. => true
  | _ => false

/-- What a walk found at each step. -/
def Walked.reports (w : Walked) : List (Option Mismatch) :=
  w.map fun entry => entry.1.claim?.bind fun claim => entry.2.finding.map (·.mismatch claim.2)

/-- What a check reports about the calls of each claim of a block without gaps that runs once, the
comparison of in-order runs with the maxima aside. -/
def Block.reports (b : Block) (mode : Mode) (log : List Located) : List (Option Mismatch) :=
  if mode.inOrder then (b.walked mode log).reports
  else b.claims.map fun c => (c.demand mode b.iterations log).countMismatch?

/-- What a check reports about the claim in a place. -/
def Block.report? (b : Block) (mode : Mode) (log : List Located) (k : Nat) : Option Mismatch :=
  (b.reports mode log)[k]?.join

/-! ## One claim -/

namespace Demand

variable {d : Demand} {cursor : Nat} {consumed : List Nat} {rest : List Slot}

/-- The calls behind a cursor and those ahead are all calls of a demand that had none of them
consumed. -/
theorem behind_append_ahead (cursor : Nat) (hd : d.IsSound)
    (hfree : ∀ p ∈ d.calls, p.1 ∉ consumed) :
    d.behind cursor consumed ++ d.ahead cursor = d.calls := by
  have hbehind : d.behind cursor consumed = d.calls.filter (·.1 < cursor) := by
    refine List.filter_congr ?_
    intro p hp
    have hnot : consumed.contains p.1 = false := by
      rw [← Bool.not_eq_true, List.contains_iff_mem]
      exact hfree p hp
    rw [hnot, Bool.not_false, Bool.and_true]
  rw [hbehind]
  exact filter_lt_append_filter_le hd.inLogOrder cursor

/-- If the calls are too few then they are missing. -/
theorem shortage_of_few (hd : d.IsSound) (hfree : ∀ p ∈ d.calls, p.1 ∉ consumed)
    (hfew : d.calls.length < d.bounds.min) :
    d.shortage cursor consumed = .missing (d.ahead cursor).length := by
  have hall := congrArg List.length (behind_append_ahead cursor hd hfree)
  rw [List.length_append] at hall
  unfold shortage
  dsimp only
  cases hbehind : d.behind cursor consumed with
  | nil => rfl
  | cons first more =>
    rw [hbehind, List.length_cons] at hall
    exact if_neg (by omega)

/-- If they are enough, but not from a cursor on, then the first of them came too early. -/
theorem shortage_of_enough (hd : d.IsSound) (hfree : ∀ p ∈ d.calls, p.1 ∉ consumed)
    (hshort : (d.ahead cursor).length < d.bounds.min) (henough : d.bounds.min ≤ d.calls.length) :
    ∃ first, d.calls.head? = some first ∧ d.shortage cursor consumed = .unordered first.2 := by
  have hall := behind_append_ahead cursor hd hfree
  unfold shortage
  dsimp only
  cases hbehind : d.behind cursor consumed with
  | nil =>
    rw [hbehind, List.nil_append] at hall
    rw [hall] at hshort
    omega
  | cons first more =>
    rw [hbehind] at hall
    have hlen := congrArg List.length hall
    rw [List.length_append, List.length_cons] at hlen
    refine ⟨first, ?_, if_pos (by omega)⟩
    rw [← hall]
    rfl

/-- Sound bounds that need a call allow one. -/
theorem IsSound.max_ne_zero (hd : d.IsSound) (hmin : 0 < d.bounds.min) :
    d.bounds.max ≠ some 0 := by
  intro hmax
  have hcons := hd.consistent
  rw [Bounds.consistent, hmax, Option.all_some, decide_eq_true_eq] at hcons
  omega

/-- A walk then finds the claim out of order. -/
theorem finding_of_enough (rest : List Slot) (hd : d.IsSound)
    (hfree : ∀ p ∈ d.calls, p.1 ∉ consumed) (hshort : (d.ahead cursor).length < d.bounds.min)
    (henough : d.bounds.min ≤ d.calls.length) :
    ∃ first, d.calls.head? = some first ∧
      (d.passage cursor consumed rest).finding = some (.unordered first.2) := by
  obtain ⟨first, hfirst, hshortage⟩ := shortage_of_enough hd hfree hshort henough
  refine ⟨first, hfirst, ?_⟩
  rw [passage_of_short (hd.max_ne_zero (by omega)) hshort, hshortage]

/-- A walk finds the calls of a claim missing exactly if they are too few altogether. -/
theorem isMissing_passage_iff (hd : d.IsSound) (hfree : ∀ p ∈ d.calls, p.1 ∉ consumed) :
    ((d.passage cursor consumed rest).finding.map (·.mismatch d)).any Mismatch.isMissing = true ↔
      d.calls.length < d.bounds.min := by
  have hahead : (d.ahead cursor).length ≤ d.calls.length := List.length_filter_le _ _
  by_cases hnever : d.bounds.max = some 0
  · -- No call is needed then, and nothing but an excess can be found.
    have hmin : ¬ 0 < d.bounds.min := fun hmin => hd.max_ne_zero hmin hnever
    rw [passage_of_never hnever]
    refine iff_of_false ?_ (by omega)
    dsimp only
    split <;> simp [Finding.mismatch, Mismatch.isMissing]
  · by_cases hshort : (d.ahead cursor).length < d.bounds.min
    · rw [passage_of_short hnever hshort]
      by_cases hfew : d.calls.length < d.bounds.min
      · rw [shortage_of_few hd hfree hfew]
        exact iff_of_true rfl hfew
      · obtain ⟨first, -, hfirst⟩ := shortage_of_enough hd hfree hshort (by omega)
        rw [hfirst]
        exact iff_of_false Bool.false_ne_true hfew
    · rw [passage_of_enough hnever hshort]
      exact iff_of_false Bool.false_ne_true (by omega)

/-- A count finds them missing in that case as well. -/
theorem isMissing_countMismatch?_iff :
    d.countMismatch?.any Mismatch.isMissing = true ↔ d.calls.length < d.bounds.min := by
  unfold countMismatch?
  dsimp only
  split
  · next hfew => exact iff_of_true rfl hfew
  · next henough =>
    refine iff_of_false ?_ henough
    split <;> simp [Mismatch.isMissing]

end Demand

/-! ## Where the reports go -/

section Checks

variable {b : Block} {mode : Mode} {declares : String → Bool} {entries : List Invocation}

/-- The mismatches of a walk are what it found at the claims. -/
theorem reduceOption_reports (w : Walked) : w.reports.reduceOption = walkMismatches w := by
  rw [List.reduceOption, Walked.reports, List.filterMap_map]
  refine List.filterMap_congr ?_
  rintro ⟨slot, p⟩ -
  cases slot <;> rfl

/-- The comparison with the maxima finds no shortage. -/
theorem filter_isShortage_excesses (consumed : List Nat) (w : Walked) :
    (excesses consumed w).filter Mismatch.isShortage = [] := by
  refine List.filter_eq_nil_iff.mpr fun m hm => ?_
  obtain ⟨description, bounds, actual, rfl⟩ := eq_tooMany_of_mem_excesses hm
  exact Bool.false_ne_true

/-- The mismatches of a check about too few calls are those of its reports. -/
theorem filter_isShortage_check (h : b.isWellFormed declares entries mode = true) :
    (b.check declares entries mode).mismatches.filter Mismatch.isShortage =
      (b.reports mode (locatedCalls entries)).reduceOption.filter Mismatch.isShortage := by
  obtain ⟨-, -, hslots⟩ := prepare_of_isWellFormed h
  -- Faults and strays are no shortages, so what is left are the reports of the claims.
  have hfailed (errors : List MatcherError) :
      (errors.map Mismatch.matcherEvaluation).filter Mismatch.isShortage = [] := by
    simp [Mismatch.isShortage]
  have hothers (calls : List Invocation) :
      (calls.map Mismatch.unverified).filter Mismatch.isShortage = [] := by
    simp [Mismatch.isShortage]
  unfold Block.check
  dsimp only
  rw [hslots]
  dsimp only
  rw [List.filter_append, hfailed, List.nil_append]
  cases hin : mode.inOrder with
  | true =>
    rw [if_pos rfl, checkInOrder]
    dsimp only
    rw [List.filter_append, List.filter_append, hothers, List.append_nil,
      filter_isShortage_excesses, List.append_nil, ← reduceOption_reports, Block.reports,
      if_pos hin]
    rfl
  | false =>
    rw [if_neg Bool.false_ne_true, checkCounts]
    dsimp only
    have hdemands : (claimsOf (slotsOf mode b.iterations (locatedCalls entries) 0 b.items)).map
        (·.2) = b.claims.map (·.demand mode b.iterations (locatedCalls entries)) := demands_slotsOf
    have hcounts := congrArg (List.filterMap Demand.countMismatch?) hdemands
    rw [List.filterMap_map, List.filterMap_map] at hcounts
    rw [List.filter_append, hothers, List.append_nil, Block.reports, hin,
      if_neg Bool.false_ne_true, List.reduceOption, List.filterMap_map]
    exact congrArg _ hcounts

end Checks

/-! ## Every claim -/

section Claims

variable {b : Block} {mode : Mode} {log : List Located} {k : Nat} {c : Claim}

/-- A block without gaps has the slots of its claims. -/
theorem steps_eq_map (mode : Mode) (hgaps : b.items.any BlockItem.isGap = false) :
    b.steps mode log = b.claims.map fun c => .claim 0 (c.demand mode 1 log) := by
  unfold Block.steps Block.claims claimsAmong
  generalize b.items = items at hgaps
  induction items with
  | nil => rfl
  | cons item items ih =>
    cases item with
    | gap => cases hgaps
    | claim c => exact congrArg (_ :: ·) (ih hgaps)

theorem reports_unnumbered (w : Walked) : w.unnumbered.reports = w.reports := by
  rw [Walked.reports, Walked.unnumbered, List.map_map]
  refine List.map_congr_left ?_
  rintro ⟨slot, p⟩ -
  cases slot <;> rfl

/-- Calls that a walk consumed before a place are calls of the demands there. -/
theorem mem_calls_of_consumed {front rest : List Slot} {p : Located} :
    ∀ {cursor : Nat} {consumed : List Nat},
      p ∈ consumedCalls (front.zip ((walk (front ++ rest) cursor consumed).take front.length)) →
        ∃ claim ∈ claimsOf front, p ∈ claim.2.calls := by
  induction front with
  | nil => exact fun h => nomatch h
  | cons slot front ih =>
    intro cursor consumed h
    cases slot with
    | gap => exact ih h
    | claim i d =>
      rw [List.cons_append, walk_claim, List.length_cons, List.take_succ_cons, List.zip_cons_cons,
        consumedCalls_cons] at h
      rcases List.mem_append.mp h with hrun | hlater
      · have hcall := (List.mem_filter.mp (Demand.run_passage_sublist.subset hrun)).1
        exact ⟨(i, d), List.mem_cons_self .., hcall⟩
      · obtain ⟨claim, hclaim, hcall⟩ := ih hlater
        exact ⟨claim, List.mem_cons_of_mem _ hclaim, hcall⟩

/-- What a walk leaves at the claim in a place. -/
theorem getElem?_walk (front rest : List Slot) (i : Nat) (d : Demand) :
    let before := front.zip ((walk (front ++ .claim i d :: rest) 0 []).take front.length)
    (walk (front ++ .claim i d :: rest) 0 [])[front.length]? =
      some (d.passage (Walked.reach before 0) (positions (consumedCalls before)) rest) := by
  intro before
  have hlength : ((walk (front ++ .claim i d :: rest) 0 []).take front.length).length =
      front.length := by simp
  rw [walk_append, List.getElem?_append_right (Nat.le_of_eq hlength), hlength, Nat.sub_self,
    walk_claim, List.append_nil]
  rfl

/-- What a check in order reports about a claim is what its walk found at the claim's cursor. -/
theorem report?_of_steps {front rest : List Slot} {d : Demand} (hin : mode.inOrder = true)
    (hone : b.iterations = 1) (hsteps : b.steps mode log = front ++ .claim 0 d :: rest) :
    b.report? mode log front.length =
      (d.passage ((b.walked mode log).cursorAt front.length)
        (positions (consumedCalls ((b.walked mode log).take front.length)))
          rest).finding.map (·.mismatch d) := by
  have hslot : (b.steps mode log)[front.length]? = some (.claim 0 d) := by
    rw [hsteps, List.getElem?_append_right (Nat.le_refl _), Nat.sub_self]
    rfl
  have hpassage := getElem?_walk front rest 0 d
  dsimp only at hpassage
  rw [← cursorAt_once hin hone hsteps, ← take_walked_once hin hone hsteps,
    consumedCalls_unnumbered, ← hsteps] at hpassage
  have hentry : ((b.steps mode log).zip (walk (b.steps mode log) 0 []))[front.length]? =
      some (.claim 0 d, _) := List.getElem?_zip_eq_some.mpr ⟨hslot, hpassage⟩
  unfold Block.report? Block.reports
  rw [if_pos hin, ← reports_unnumbered, walked_once hin hone, Walked.reports, List.getElem?_map,
    hentry]
  rfl

/-- The slots of a block without gaps are cut at a claim. -/
theorem exists_steps (mode : Mode) (log : List Located)
    (hgaps : b.items.any BlockItem.isGap = false) (hc : b.claims[k]? = some c) :
    ∃ front rest : List Slot, front.length = k ∧
      b.steps mode log = front ++ .claim 0 (c.demand mode 1 log) :: rest ∧
      ∀ claim ∈ claimsOf front, ∃ e ∈ b.claims.take k, claim.2 = e.demand mode 1 log := by
  obtain ⟨hk, rfl⟩ := List.getElem?_eq_some_iff.mp hc
  have hcut : b.claims = b.claims.take k ++ b.claims[k] :: b.claims.drop (k + 1) := by
    rw [← List.drop_eq_getElem_cons hk, List.take_append_drop]
  refine ⟨(b.claims.take k).map fun c => .claim 0 (c.demand mode 1 log),
    (b.claims.drop (k + 1)).map fun c => .claim 0 (c.demand mode 1 log), ?_, ?_, ?_⟩
  · rw [List.length_map, List.length_take]
    omega
  · rw [steps_eq_map mode hgaps]
    conv => lhs; rw [hcut, List.map_append, List.map_cons]
  · intro claim hclaim
    rw [claimsOf, List.filterMap_map] at hclaim
    obtain ⟨e, he, heq⟩ := List.mem_filterMap.mp hclaim
    exact ⟨e, he, (congrArg Prod.snd (Option.some.inj heq)).symm⟩

/-- No call of a claim is consumed before its place if it shares none with the other claims. -/
theorem not_mem_consumed {front rest : List Slot} (hin : mode.inOrder = true)
    (hone : b.iterations = 1) (hlog : log.Pairwise (·.1 < ·.1)) (hdistinct : Distinct b.claims log)
    (hc : b.claims[front.length]? = some c) (hsteps : b.steps mode log = front ++ rest)
    (hfront : ∀ claim ∈ claimsOf front,
      ∃ e ∈ b.claims.take front.length, claim.2 = e.demand mode 1 log) :
    ∀ p ∈ (c.demand mode 1 log).calls,
      p.1 ∉ positions (consumedCalls ((b.walked mode log).take front.length)) := by
  intro p hp hconsumed
  obtain ⟨q, hq, hqp⟩ := List.mem_map.mp hconsumed
  rw [← consumedCalls_unnumbered, take_walked_once hin hone hsteps] at hq
  obtain ⟨claim, hclaim, hcall⟩ := mem_calls_of_consumed hq
  obtain ⟨e, he, heq⟩ := hfront claim hclaim
  rw [heq] at hcall
  obtain ⟨hqlog, heq⟩ := Claim.mem_calls_demand.mp hcall
  obtain ⟨hplog, hcp⟩ := Claim.mem_calls_demand.mp hp
  -- The consumed call stands where the claim's own call does, so both claims describe it.
  obtain rfl := eq_of_position_eq hlog hqlog hplog hqp
  obtain ⟨i, hi, rfl⟩ := List.mem_iff_getElem.mp he
  obtain ⟨hk, rfl⟩ := List.getElem?_eq_some_iff.mp hc
  rw [List.length_take] at hi
  rw [List.getElem_take] at heq
  exact List.pairwise_iff_getElem.mp (hdistinct q hqlog) i front.length (by omega) hk (by omega)
    ⟨heq, hcp⟩

/-- Without order, a claim is reported by the number of its calls. -/
theorem report?_counts (hin : mode.inOrder = false) (hone : b.iterations = 1)
    (hc : b.claims[k]? = some c) :
    b.report? mode log k = (c.demand mode 1 log).countMismatch? := by
  unfold Block.report? Block.reports
  rw [hin, if_neg Bool.false_ne_true, List.getElem?_map, hc, hone]
  rfl

end Claims

/-! ## Both checks -/

section Agreement

variable {b : Block} {mode : Mode} {entries : List Invocation} {k : Nat} {c : Claim}

/-- Without order, calls are missing if there are too few of them, for numbers that can be
counted. -/
theorem isMissing_counts_iff (hin : mode.inOrder = false) (hone : b.iterations = 1)
    (hlog : entries.length < Bounds.limit) (hc : b.claims[k]? = some c) :
    (b.report? mode (locatedCalls entries) k).any Mismatch.isMissing = true ↔
      (c.matching (locatedCalls entries)).length < c.meant.min := by
  have hlength : (c.matching (locatedCalls entries)).length < Bounds.limit := by
    have hle : (c.matching (locatedCalls entries)).length ≤ (locatedCalls entries).length :=
      List.length_filter_le _ _
    rw [length_locatedCalls] at hle
    omega
  have hbounds : (c.demand mode 1 (locatedCalls entries)).bounds.min =
      Nat.min c.meant.min Bounds.limit := by
    show (c.demanded mode 1).min = _
    rw [Claim.demanded, hin, if_neg Bool.false_ne_true, Bounds.repeated, Bounds.product,
      Nat.mul_one]
  rw [report?_counts hin hone hc, Demand.isMissing_countMismatch?_iff, Claim.calls_demand, hbounds]
  exact ⟨fun h => Nat.lt_of_lt_of_le h (Nat.min_le_left _ _), fun h => Nat.lt_min.mpr ⟨h, hlength⟩⟩

variable (hgaps : b.items.any BlockItem.isGap = false) (hone : b.iterations = 1)
  (hdistinct : Distinct b.claims (locatedCalls entries))

include hgaps hone hdistinct

/-- What a check in order reports about a claim that shares no call with the others. -/
theorem exists_report (hin : mode.inOrder = true) (hc : b.claims[k]? = some c) :
    ∃ (consumed : List Nat) (rest : List Slot),
      b.report? mode (locatedCalls entries) k =
        ((c.demand mode 1 (locatedCalls entries)).passage
          ((b.walked mode (locatedCalls entries)).cursorAt k) consumed rest).finding.map
            (·.mismatch (c.demand mode 1 (locatedCalls entries))) ∧
      ∀ p ∈ (c.demand mode 1 (locatedCalls entries)).calls, p.1 ∉ consumed := by
  obtain ⟨front, rest, rfl, hsteps, hfront⟩ := exists_steps mode (locatedCalls entries) hgaps hc
  exact ⟨_, rest, report?_of_steps hin hone hsteps,
    not_mem_consumed hin hone (locatedCalls_pairwise entries) hdistinct hc hsteps hfront⟩

/-- In order, its calls are missing in the same case. -/
theorem isMissing_inOrder_iff (hin : mode.inOrder = true) (hcons : c.meant.consistent = true)
    (hc : b.claims[k]? = some c) :
    (b.report? mode (locatedCalls entries) k).any Mismatch.isMissing = true ↔
      (c.matching (locatedCalls entries)).length < c.meant.min := by
  obtain ⟨consumed, rest, hreport, hfree⟩ := exists_report hgaps hone hdistinct hin hc
  rw [hreport, Demand.isMissing_passage_iff (isSound_demand hin hcons) hfree, Claim.calls_demand,
    c.bounds_demand hin]

/-- If they are enough, but too few from the claim's cursor on, then they are out of order. -/
theorem report?_of_enough (hin : mode.inOrder = true) (hcons : c.meant.consistent = true)
    (hc : b.claims[k]? = some c)
    (hshort : ((c.matching (locatedCalls entries)).filter
      ((b.walked mode (locatedCalls entries)).cursorAt k ≤ ·.1)).length < c.meant.min)
    (henough : c.meant.min ≤ (c.matching (locatedCalls entries)).length) :
    ∃ first, (c.matching (locatedCalls entries)).head? = some first ∧
      b.report? mode (locatedCalls entries) k =
        some (.unordered c.pattern.description first.2) := by
  obtain ⟨consumed, rest, hreport, hfree⟩ := exists_report hgaps hone hdistinct hin hc
  rw [← c.calls_demand mode 1, ← c.bounds_demand hin 1 (locatedCalls entries)] at hshort henough
  obtain ⟨first, hfirst, hfinding⟩ :=
    Demand.finding_of_enough rest (isSound_demand hin hcons) hfree hshort henough
  rw [Claim.calls_demand] at hfirst
  refine ⟨first, hfirst, ?_⟩
  rw [hreport, hfinding]
  rfl

end Agreement

/-- If no call of a log belongs to two claims, a check in order finds the calls of a claim missing
exactly if a check without order does. If it finds too few of them from its cursor on, and the
other check does not call them missing, then it says that they are out of order, and names the
first of them in the log. -/
theorem Block.reports_agree {b : Block} {declares : String → Bool} {entries : List Invocation}
    {full : Bool} (hwell : b.isWellFormed declares entries ⟨false, full⟩ = true)
    (hone : b.iterations = 1) (hdistinct : Distinct b.claims (locatedCalls entries))
    (hlog : entries.length < Bounds.limit) :
    (∀ inOrder, (b.check declares entries ⟨inOrder, full⟩).mismatches.filter Mismatch.isShortage =
      (b.reports ⟨inOrder, full⟩ (locatedCalls entries)).reduceOption.filter
        Mismatch.isShortage) ∧
    ∀ k c, b.claims[k]? = some c →
      let log := locatedCalls entries
      ((b.report? ⟨true, full⟩ log k).any Mismatch.isMissing = true ↔
        (b.report? ⟨false, full⟩ log k).any Mismatch.isMissing = true) ∧
      (((c.matching log).filter ((b.walked ⟨true, full⟩ log).cursorAt k ≤ ·.1)).length <
          c.meant.min → ¬ (b.report? ⟨false, full⟩ log k).any Mismatch.isMissing = true →
        ∃ first, (c.matching log).head? = some first ∧
          b.report? ⟨true, full⟩ log k =
            some (.unordered c.pattern.description first.2)) := by
  obtain ⟨hiter, hvalid, -⟩ := prepare_of_isWellFormed hwell
  have hgaps := any_isGap_of_isWellFormed hwell
  constructor
  · intro inOrder
    exact filter_isShortage_check (isWellFormed_of_valid hiter (Or.inr hgaps) hvalid)
  · intro k c hc log
    have hcons := (hvalid c (List.mem_of_getElem? hc)).consistent
    -- A count is missing if the log has too few matches in all, wherever they are.
    have hcounts : (b.report? ⟨false, full⟩ log k).any Mismatch.isMissing = true ↔
        (c.matching log).length < c.meant.min := isMissing_counts_iff rfl hone hlog hc
    refine ⟨?_, ?_⟩
    · exact (isMissing_inOrder_iff hgaps hone hdistinct rfl hcons hc).trans hcounts.symm
    · intro hshort hpresent
      rw [hcounts, Nat.not_lt] at hpresent
      exact report?_of_enough hgaps hone hdistinct rfl hcons hc hshort hpresent

/-- A door that was closed before it was opened, and never rung. -/
theorem Block.reports_agree_doorLog :
    let b : Block := ⟨[.claim (.nullary "Door" "open" {}), .claim (.nullary "Door" "close" {}),
      .claim (.nullary "Door" "ring" ⟨some 1, none⟩)], 1⟩
    let log := locatedCalls (doorLog ["close", "open"])
    (b.report? ⟨true, false⟩ log 2).any Mismatch.isMissing = true ∧
      ∃ first, (Claim.matching (.nullary "Door" "close" {}) log).head? = some first ∧
        b.report? ⟨true, false⟩ log 1 = some (.unordered "Door.close() at here" first.2) := by
  intro b log
  have hagree := (@reports_agree b (· = "Door") (doorLog ["close", "open"]) false
    (by decide +kernel) rfl (by decide +kernel) (by decide +kernel)).2
  exact ⟨(hagree 2 _ rfl).1.mpr (by decide +kernel),
    (hagree 1 _ rfl).2 (by decide +kernel) (by decide +kernel)⟩

end Understudy

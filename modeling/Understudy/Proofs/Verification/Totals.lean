import Mathlib.Data.List.Count
import Understudy.Proofs.Replay.Unnumbered
import Understudy.Proofs.Verification.Counts
import Understudy.Proofs.Verification.Gaps

/-!
# Verification without order

A verification without order is about totals. What it asks of a log is written down in
`Block.Holds`, in plain numbers: the product of the iterations and a bound is taken as it is,
though the check computes it in 64 bits and stops at the greatest count. On a log that
can be counted in 64 bits there is no difference (`Bounds.admits_repeated_iff`).

A verification succeeds exactly if this holds, nothing is pending and the session is open
(`Session.passes_iff_holds`). Since a total is a number of calls, neither the order of the
claims nor that of the logged calls can be seen in it.
-/

namespace Understudy

/-- What a block claims of a log if the order does not matter. A full verification asks also that
every call on a type of the block is described by some claim. -/
structure Block.Holds (b : Block) (full : Bool) (log : List Located) : Prop where
  faultless : ∀ c ∈ b.claims, ∀ p ∈ log, (c.pattern.accepts p.2).isOk = true
  enough : ∀ c ∈ b.claims, b.iterations * c.meant.min ≤ (c.matching log).length
  notTooMany : ∀ c ∈ b.claims, ∀ max ∈ c.meant.max,
    (c.matching log).length ≤ b.iterations * max
  described : full = true → ∀ p ∈ log, b.mentions p.2 = true →
    ∃ c ∈ b.claims, c.pattern.describes p.2 = true

/-! ## Bounds -/

namespace Bounds

variable {n : Nat}

/-- Numbers below the limit are compared with a product as if there were no limit. -/
theorem product_le_iff (hn : n < limit) (a k : Nat) : product a k ≤ n ↔ k * a ≤ n := by
  rw [Nat.mul_comm k a]
  simp only [product, Nat.min_def]
  split <;> omega

theorem le_product_iff (hn : n < limit) (a k : Nat) : n ≤ product a k ↔ n ≤ k * a := by
  rw [Nat.mul_comm k a]
  simp only [product, Nat.min_def]
  split <;> omega

/-- So the bounds of a block that runs several times admit what the exact products do. -/
theorem admits_repeated_iff (hn : n < limit) (b : Bounds) (k : Nat) :
    (b.repeated k).admits n = true ↔ k * b.min ≤ n ∧ ∀ max ∈ b.max, n ≤ k * max := by
  rw [admits_iff, exceededBy_eq_false_iff]
  refine and_congr (product_le_iff hn b.min k) ?_
  show (∀ m, b.max.map (product · k) = some m → n ≤ m) ↔ _
  cases b.max with
  | none => simp
  | some max => simpa using le_product_iff hn max k

end Bounds

/-! ## Calls that are described -/

section Described

variable {b : Block} {mode : Mode} {entries : List Invocation} {n : Nat}

/-- A logged call is covered by the slots of a block if some claim describes it. -/
theorem covered_slotsOf_iff (mode : Mode) (n : Nat) {p : Located} (hp : p ∈ locatedCalls entries) :
    covered (claimsOf (slotsOf mode n (locatedCalls entries) 0 b.items)) p.1 = true ↔
      ∃ c ∈ b.claims, c.pattern.describes p.2 = true := by
  have hdemands : (claimsOf (slotsOf mode n (locatedCalls entries) 0 b.items)).map (·.2) =
      b.claims.map (·.demand mode n (locatedCalls entries)) := demands_slotsOf
  have hany := congrArg (List.any · fun d => d.calls.any fun c => decide (c.1 = p.1)) hdemands
  rw [List.any_map, List.any_map] at hany
  have hcovered : covered (claimsOf (slotsOf mode n (locatedCalls entries) 0 b.items)) p.1 = _ :=
    hany
  rw [hcovered, List.any_eq_true]
  refine exists_congr fun c => and_congr_right fun _ => ?_
  rw [Function.comp_apply, List.any_eq_true]
  constructor
  · rintro ⟨q, hq, hqp⟩
    obtain ⟨hqlog, hdescribes⟩ := Claim.mem_calls_demand.mp hq
    obtain rfl := eq_of_position_eq (locatedCalls_pairwise entries) hqlog hp (of_decide_eq_true hqp)
    exact hdescribes
  · intro hdescribes
    exact ⟨p, Claim.mem_calls_demand.mpr ⟨hp, hdescribes⟩, decide_eq_true rfl⟩

/-- No call is left over if every call on a type of the block is described. -/
theorem uncovered_eq_nil_iff :
    uncovered (claimsOf (slotsOf mode n (locatedCalls entries) 0 b.items))
        (locatedCalls entries) = [] ↔
      ∀ p ∈ locatedCalls entries, b.mentions p.2 = true →
        ∃ c ∈ b.claims, c.pattern.describes p.2 = true := by
  rw [uncovered, List.map_eq_nil_iff, List.filter_eq_nil_iff]
  refine forall₂_congr fun p hp => ?_
  rw [← covered_slotsOf_iff mode n hp, inScope_slotsOf]
  simp

end Described

/-! ## The order of claims and calls -/

section Order

variable {b : Block} {full : Bool} {items : List BlockItem} {entries entries' : List Invocation}

/-- What holds of the calls in a log, whatever their numbers and places. -/
theorem forall_locatedCalls_iff {P : Invocation → Prop}
    (hP : ∀ c d : Invocation, c.toCall = d.toCall → (P c ↔ P d)) :
    (∀ p ∈ locatedCalls entries, P p.2) ↔ ∀ call ∈ entries.map (·.toCall), P ⟨call, 0⟩ := by
  rw [List.forall_mem_map]
  conv => rhs; rw [← map_snd_locatedCalls entries]
  rw [List.forall_mem_map]
  exact forall₂_congr fun p _ => hP p.2 _ rfl

theorem Pattern.describes_congr {c d : Invocation} (h : c.toCall = d.toCall) (p : Pattern) :
    p.describes c = p.describes d := by
  unfold describes
  rw [p.accepts_congr h]

/-- How many calls a claim describes is a count of calls. -/
theorem length_matching (c : Claim) (entries : List Invocation) :
    (c.matching (locatedCalls entries)).length =
      (entries.map (·.toCall)).countP fun call => c.pattern.describes ⟨call, 0⟩ := by
  rw [Claim.matching, ← List.countP_eq_length_filter, List.countP_map]
  conv => rhs; rw [← map_snd_locatedCalls entries]
  rw [List.countP_map]
  refine List.countP_congr ?_
  intro p _
  have hcongr : c.pattern.describes p.2 = c.pattern.describes ⟨p.2.toCall, 0⟩ :=
    Pattern.describes_congr rfl c.pattern
  rw [hcongr]
  rfl

/-- A block keeps its claims if its items are put in another order. -/
theorem mem_claims_perm (h : items.Perm b.items) (c : Claim) :
    c ∈ ({ b with items := items } : Block).claims ↔ c ∈ b.claims :=
  (h.filterMap BlockItem.claim?).mem_iff

theorem mentions_perm (h : items.Perm b.items) :
    ({ b with items := items } : Block).mentions = b.mentions := by
  funext c
  exact (h.filterMap BlockItem.claim?).any_eq

/-- What a block claims holds whatever the order of its items and of the logged calls. -/
theorem Block.Holds.perm (h : b.Holds full (locatedCalls entries)) (hitems : items.Perm b.items)
    (hcalls : (entries'.map (·.toCall)).Perm (entries.map (·.toCall))) :
    ({ b with items := items } : Block).Holds full (locatedCalls entries') := by
  have hlength (c : Claim) : (c.matching (locatedCalls entries')).length =
      (c.matching (locatedCalls entries)).length := by
    rw [length_matching, length_matching]
    exact hcalls.countP_eq _
  -- What is asked of calls regardless of their places carries over to the other log.
  have hforall {P : Invocation → Prop}
      (hP : ∀ c d : Invocation, c.toCall = d.toCall → (P c ↔ P d))
      (hall : ∀ p ∈ locatedCalls entries, P p.2) : ∀ p ∈ locatedCalls entries', P p.2 := by
    rw [forall_locatedCalls_iff hP] at hall ⊢
    exact fun call hcall => hall call (hcalls.mem_iff.mp hcall)
  constructor
  · intro c hc
    refine hforall (P := fun d => (c.pattern.accepts d).isOk = true) ?_
      (h.faultless c ((mem_claims_perm hitems c).mp hc))
    intro d e hde
    rw [Pattern.accepts_congr hde c.pattern]
  · intro c hc
    rw [hlength]
    exact h.enough c ((mem_claims_perm hitems c).mp hc)
  · intro c hc
    rw [hlength]
    exact h.notTooMany c ((mem_claims_perm hitems c).mp hc)
  · intro hfull
    simp only [mentions_perm hitems, mem_claims_perm hitems]
    refine hforall (P := fun d => b.mentions d = true →
      ∃ c ∈ b.claims, c.pattern.describes d = true) ?_ (h.described hfull)
    intro d e hde
    have hmentions : b.mentions d = b.mentions e := by
      unfold Block.mentions
      rw [hde]
    simp only [hmentions, Pattern.describes_congr hde]

end Order

/-! ## Verifications -/

namespace Session

variable {s : Session} {b : Block} {full : Bool}

/-- What admits a well-formed block is an open session without discrepancies and matchers that do
not fail. -/
theorem admits_counts_iff
    (hwell : b.isWellFormed s.declares s.log.entries ⟨false, full⟩ = true) :
    s.Admits ⟨false, full⟩ b ↔ s.IsOpen ∧ s.pending = [] ∧
      ∀ c ∈ b.claims, ∀ p ∈ s.logged, (c.pattern.accepts p.2).isOk = true := by
  constructor
  · intro h
    refine ⟨h.isOpen, h.pending, ?_⟩
    intro c hc p hp
    obtain ⟨answer, ha⟩ := h.faultless c hc p hp
    rw [ha]
    rfl
  · rintro ⟨ho, hpending, hfaultless⟩
    exact admits_of_isWellFormed ho hpending rfl hwell hfaultless

/-- A verification of a well-formed block without order succeeds exactly if the session is open,
nothing is pending, and what the block claims holds of the log. -/
theorem passes_counts_eq_true_iff
    (hwell : b.isWellFormed s.declares s.log.entries ⟨false, full⟩ = true)
    (hlog : s.log.entries.length < Bounds.limit) :
    s.passes ⟨false, full⟩ b = true ↔ s.IsOpen ∧ s.pending = [] ∧ b.Holds full s.logged := by
  have htotals : (∀ c ∈ b.claims, (c.meant.repeated b.iterations).admits
      (c.matching s.logged).length = true) ↔ ∀ c ∈ b.claims,
        b.iterations * c.meant.min ≤ (c.matching s.logged).length ∧
          ∀ max ∈ c.meant.max, (c.matching s.logged).length ≤ b.iterations * max := by
    -- Products saturate only far above the length of the log.
    refine forall₂_congr fun c _ => Bounds.admits_repeated_iff ?_ c.meant b.iterations
    have hle : (c.matching s.logged).length ≤ s.logged.length := List.length_filter_le _ _
    rw [logged, length_locatedCalls] at hle
    exact Nat.lt_of_le_of_lt hle hlog
  have hcovered : uncovered (claimsOf (slotsOf ⟨false, full⟩ b.iterations s.logged 0 b.items))
      s.logged = [] ↔ ∀ p ∈ s.logged, b.mentions p.2 = true →
        ∃ c ∈ b.claims, c.pattern.describes p.2 = true := uncovered_eq_nil_iff
  rw [passes_iff, admits_counts_iff hwell, verdict_counts_iff, htotals, hcovered]
  constructor
  · rintro ⟨⟨ho, hpending, hfaultless⟩, hcounts, hdescribed⟩
    exact ⟨ho, hpending, hfaultless, fun c hc => (hcounts c hc).1, fun c hc => (hcounts c hc).2,
      hdescribed⟩
  · rintro ⟨ho, hpending, hholds⟩
    exact ⟨⟨ho, hpending, hholds.faultless⟩,
      fun c hc => ⟨hholds.enough c hc, hholds.notTooMany c hc⟩, hholds.described⟩

/-- A block with its items in another order is as well formed, over any log. -/
theorem isWellFormed_perm {declares : String → Bool} {entries entries' : List Invocation}
    {items : List BlockItem} (h : b.isWellFormed declares entries ⟨false, full⟩ = true)
    (hitems : items.Perm b.items) :
    ({ b with items := items } : Block).isWellFormed declares entries' ⟨false, full⟩ = true := by
  obtain ⟨hiter, hvalid, -⟩ := prepare_of_isWellFormed h
  refine isWellFormed_of_valid hiter (Or.inr (hitems.any_eq.trans (any_isGap_of_isWellFormed h))) ?_
  intro c hc
  exact hvalid c ((mem_claims_perm hitems c).mp hc)

/-- A verification without order succeeds exactly if the session is open, nothing is pending, and
what the block claims holds of the log in plain numbers. It comes to the same for the claims in
any order, and for any log with the same calls. -/
theorem passes_iff_holds
    (hwell : b.isWellFormed s.declares s.log.entries ⟨false, full⟩ = true)
    (hlog : s.log.entries.length < Bounds.limit) :
    (s.passes ⟨false, full⟩ b = true ↔ s.IsOpen ∧ s.pending = [] ∧ b.Holds full s.logged) ∧
    ∀ (items : List BlockItem) (log : Log), items.Perm b.items →
      (log.entries.map (·.toCall)).Perm (s.log.entries.map (·.toCall)) →
        ({ s with log := log } : Session).passes ⟨false, full⟩ { b with items := items } =
          s.passes ⟨false, full⟩ b := by
  refine ⟨passes_counts_eq_true_iff hwell hlog, ?_⟩
  intro items log hitems hcalls
  have hlength : log.entries.length < Bounds.limit := by
    have := hcalls.length_eq
    rw [List.length_map, List.length_map] at this
    rwa [this]
  have hpermuted := passes_counts_eq_true_iff (s := { s with log := log })
    (isWellFormed_perm hwell hitems) hlength
  -- Only the condition on claims and calls speaks of the block, and it does not see the order.
  rw [Bool.eq_iff_iff, hpermuted, passes_counts_eq_true_iff hwell hlog]
  refine and_congr Iff.rfl (and_congr Iff.rfl ?_)
  constructor
  · intro h
    exact h.perm hitems.symm hcalls.symm
  · intro h
    exact h.perm hitems hcalls

/-- Two visits at a door: each time it is opened, and a bell is rung at most once. -/
def visits : Block :=
  ⟨[.claim (.nullary "Door" "open" {}), .claim (.nullary "Door" "ring" ⟨some 0, some 1⟩)], 2⟩

/-- The calls of both visits, in one order and in the reverse one. -/
theorem passes_iff_holds_visits :
    let s := called "Door" ["open", "open", "ring"]
    let reversed : Log := { s.log with newestFirst := s.log.newestFirst.reverse }
    visits.Holds true s.logged ∧ s.passes ⟨false, true⟩ visits = true ∧
      ({ s with log := reversed } : Session).passes ⟨false, true⟩
        { visits with items := visits.items.reverse } = true := by
  intro s reversed
  have hpasses : s.passes ⟨false, true⟩ visits = true := by decide +kernel
  obtain ⟨hiff, hperm⟩ :=
    @passes_iff_holds s visits true (by decide +kernel) (by decide +kernel)
  have hcalls : (reversed.entries.map (·.toCall)).Perm (s.log.entries.map (·.toCall)) :=
    (List.reverse_perm s.log.entries).map _
  have hsame := hperm visits.items.reverse reversed (List.reverse_perm _) hcalls
  exact ⟨(hiff.mp hpasses).2.2, hpasses, hsame.trans hpasses⟩

/-- In a session that is over no verification succeeds, whatever holds of its log. -/
theorem not_passes_closed :
    let s := (called "Door" ["open", "open"]).finish.2
    visits.isWellFormed s.declares s.log.entries ⟨false, false⟩ = true ∧ s.pending = [] ∧
      visits.Holds false s.logged ∧ s.passes ⟨false, false⟩ visits = false := by
  intro s
  refine ⟨by decide +kernel, List.isEmpty_iff.mp (by decide +kernel), ?_, by decide +kernel⟩
  exact ⟨by decide +kernel, by decide +kernel, by decide +kernel, fun h => nomatch h⟩

end Session

end Understudy

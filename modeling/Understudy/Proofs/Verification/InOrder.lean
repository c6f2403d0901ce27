import Mathlib.Data.List.Forall2
import Understudy.Proofs.Nullary
import Understudy.Proofs.Verification.Excess

/-!
# What a successful in-order verification means

An in-order verification speaks about calls that it gives to the claims of its block, the
block being written out. `Follows` is what can be said of them without the cursor that found
them: every claim has calls that it describes, as many as its bounds admit, and those of a
claim come before those of the next. A verification succeeds only if calls can be given in
this way, for patterns that overlap in any manner.
-/

namespace Understudy

/-- Calls of a log that were given to claims, one list of calls to each claim. -/
structure Follows (log : List Located) (steps : List Claim) (given : List (List Located)) :
    Prop where
  /-- A claim is given logged calls that its pattern describes, each of them once. -/
  described : List.Forall₂ (fun c calls => calls.Sublist log ∧
    ∀ p ∈ calls, c.pattern.describes p.2 = true) steps given
  /-- Their number is within the bounds of the claim. -/
  within : List.Forall₂ (fun c calls => c.meant.admits calls.length = true) steps given
  /-- They lie before all calls that later claims are given. -/
  inOrder : given.Pairwise fun before after => ∀ p ∈ before, ∀ q ∈ after, p.1 < q.1
  /-- A claim that allows no calls describes none beyond the last one given before it. -/
  never : ∀ k (c : Claim), steps[k]? = some c → c.meant.max = some 0 →
    ∀ p ∈ log, c.pattern.describes p.2 = true → ∃ q ∈ (given.take k).flatten, p.1 ≤ q.1

section Runs

variable {mode : Mode} {n i : Nat} {log : List Located} {items : List BlockItem}

theorem Claim.demanded_of_inOrder (h : mode.inOrder = true) (c : Claim) (n : Nat) :
    c.demanded mode n = c.meant := by
  rw [Claim.demanded, if_pos h]

theorem Claim.bounds_demand (h : mode.inOrder = true) (c : Claim) (n : Nat) (log : List Located) :
    (c.demand mode n log).bounds = c.meant := c.demanded_of_inOrder h n

/-- The slots of a block hold the demands of its claims. -/
theorem demands_slotsOf : (claimsOf (slotsOf mode n log i items)).map (·.2) =
    (claimsAmong items).map (·.demand mode n log) := by
  induction items generalizing i with
  | nil => rfl
  | cons item rest ih =>
    cases item with
    | gap => exact ih
    | claim c => exact congrArg (c.demand mode n log :: ·) ih

/-- A demand that comes from a log is sound if its claim is valid. -/
theorem isSound_demand {c : Claim} {entries : List Invocation} (hin : mode.inOrder = true)
    (h : c.meant.consistent = true) : (c.demand mode n (locatedCalls entries)).IsSound where
  inLogOrder := (locatedCalls_pairwise entries).sublist (c.calls_demand_sublist mode n _)
  consistent := by
    rw [c.bounds_demand hin]
    exact h

/-- Every slot of a claim has its run. -/
theorem demands_runsOf {slots : List Slot} {passages : List Passage}
    (h : passages.length = slots.length) :
    (runsOf (slots.zip passages)).map (·.1) = (claimsOf slots).map (·.2) := by
  have hslots : (slots.zip passages).map (·.1) = slots := List.map_fst_zip (Nat.le_of_eq h.symm)
  conv => rhs; rw [← hslots]
  rw [claimsOf, List.filterMap_map, List.map_filterMap, runsOf, List.map_filterMap]
  refine List.filterMap_congr fun entry _ => ?_
  rw [Option.map_map]
  rfl

/-- The demands of a written-out block are those of its claims, round by round. -/
theorem demands_walkFromStart (k : Nat) :
    (runsOf (walkFromStart (writtenOut k (slotsOf mode n log i items)))).map (·.1) =
      (writtenOut k (claimsAmong items)).map (·.demand mode n log) := by
  rw [walkFromStart, demands_runsOf (length_walk ..), claimsOf, filterMap_writtenOut,
    map_writtenOut, ← claimsOf, demands_slotsOf, map_writtenOut]

end Runs

/-- What holds of every demand and its run holds of every claim and its calls. -/
theorem forall₂_of_runs (R : Demand → List Located → Prop) {mode : Mode} {n : Nat}
    {log : List Located} {steps : List Claim} {runs : List (Demand × List Located)}
    (hsteps : runs.map (·.1) = steps.map (·.demand mode n log)) (h : ∀ r ∈ runs, R r.1 r.2) :
    List.Forall₂ (fun c calls => R (c.demand mode n log) calls) steps (runs.map (·.2)) := by
  have hpairs : List.Forall₂ R (runs.map (·.1)) (runs.map (·.2)) := by
    rw [List.forall₂_map_left_iff, List.forall₂_map_right_iff, List.forall₂_same]
    exact h
  rw [hsteps] at hpairs
  exact List.forall₂_map_left_iff.mp hpairs

/-- Calls that a walk gave to the demands of claims, none of them too many, follow the claims. -/
theorem Threads.follows {mode : Mode} {n : Nat} {log : List Located} {steps : List Claim}
    {runs : List (Demand × List Located)} (h : Threads 0 runs) (hin : mode.inOrder = true)
    (hsteps : runs.map (·.1) = steps.map (·.demand mode n log))
    (hmax : ∀ r ∈ runs, r.1.bounds.exceededBy r.2.length = false) :
    Follows log steps (runs.map (·.2)) where
  described := by
    refine (forall₂_of_runs (fun d calls => calls.Sublist d.calls) hsteps h.sublist_calls).imp ?_
    intro c calls hsub
    refine ⟨hsub.trans (c.calls_demand_sublist mode n log), fun p hp => ?_⟩
    exact (Claim.mem_calls_demand.mp (hsub.subset hp)).2
  within := by
    have hadmits : ∀ r ∈ runs, r.1.bounds.admits r.2.length = true :=
      fun r hr => Bounds.admits_iff.mpr ⟨h.min_le r hr, hmax r hr⟩
    refine (forall₂_of_runs (fun d calls => d.bounds.admits calls.length = true) hsteps
      hadmits).imp ?_
    intro c calls hc
    rw [← c.demanded_of_inOrder hin n]
    exact hc
  inOrder := List.pairwise_map.mpr h.pairwise
  never := by
    intro k c hk hno p hp hdesc
    have hdemand : (runs.map (·.1))[k]? = some (c.demand mode n log) := by
      rw [hsteps, List.getElem?_map, hk, Option.map_some]
    rw [List.getElem?_map] at hdemand
    obtain ⟨r, hr, hrc⟩ := Option.map_eq_some_iff.mp hdemand
    have hcalls : p ∈ r.1.calls := hrc ▸ Claim.mem_calls_demand.mpr ⟨hp, hdesc⟩
    have hnever : r.1.bounds.max = some 0 := by
      rw [hrc]
      show (c.demanded mode n).max = some 0
      rw [c.demanded_of_inOrder hin n]
      exact hno
    rcases h.never k r hr hnever p hcalls with hlt | ⟨q, hq, hpq⟩
    · -- The walk began at the start of the log, so nothing lies before its first cursor.
      omega
    · refine ⟨q, ?_, hpq⟩
      rw [← List.map_take, ← List.flatMap_def]
      exact hq

/-! ## Verdicts -/

/-- The walk of an in-order block. -/
def Block.walked (b : Block) (mode : Mode) (log : List Located) : Walked :=
  walkFromStart (writtenOut b.iterations (slotsOf mode b.iterations log 0 b.items))

/-- The demands of an in-order block with the calls they consumed. -/
abbrev Block.runs (b : Block) (mode : Mode) (log : List Located) : List (Demand × List Located) :=
  runsOf (b.walked mode log)

/-- The calls that an in-order block leaves unverified though it must not. -/
def Block.unverified (b : Block) (mode : Mode) (log : List Located) : List Invocation :=
  let slots := slotsOf mode b.iterations log 0 b.items
  if slots.any Slot.isGap then strays (claimsOf slots) log (b.walked mode log)
  else if mode.full then uncovered (claimsOf slots) log
  else []

section Verdict

variable {b : Block} {mode : Mode} {log : List Located}

/-- Nothing is wrong with an in-order block if neither pass finds anything and no call is left. -/
theorem verdict_inOrder_iff (hin : mode.inOrder = true) : (b.verdict mode log).mismatches = [] ↔
    walkMismatches (b.walked mode log) = [] ∧
    excesses (positions (consumedCalls (b.walked mode log))) (b.walked mode log) = [] ∧
    b.unverified mode log = [] := by
  unfold Block.verdict
  dsimp only
  rw [if_pos hin, checkInOrder]
  dsimp only
  rw [List.append_eq_nil_iff, List.append_eq_nil_iff, List.map_eq_nil_iff, and_assoc]
  rfl

/-- No claim comes twice in the walk of a block that runs once. -/
theorem nodup_indicesOf_walked (hone : b.iterations = 1) :
    (indicesOf (b.walked mode log)).Nodup := by
  rw [Block.walked, walkFromStart, indicesOf_zip (length_walk ..), hone, writtenOut_one,
    indices_slotsOf]
  exact List.nodup_range'

/-- A block without gaps that runs once is in order if its walk finds nothing and no claim has an
overrun. -/
theorem verdict_once_iff (hgaps : b.items.any BlockItem.isGap = false) (hone : b.iterations = 1) :
    (b.verdict ⟨true, false⟩ log).mismatches = [] ↔
      walkMismatches (b.walked ⟨true, false⟩ log) = [] ∧
        ∀ r ∈ b.runs ⟨true, false⟩ log,
          r.1.overrun (positions (consumedCalls (b.walked ⟨true, false⟩ log))) r.2 = false := by
  have hnone : b.unverified ⟨true, false⟩ log = [] := by
    unfold Block.unverified
    dsimp only
    rw [any_isGap_slotsOf, hgaps, if_neg Bool.false_ne_true, if_neg Bool.false_ne_true]
  rw [verdict_inOrder_iff rfl, hnone, excesses_eq_nil_iff_of_nodup (nodup_indicesOf_walked hone)]
  simp

/-- The slots of a written-out block hold the demands of its claims. -/
theorem exists_demand_of_mem_slots {claim : Nat × Demand}
    (h : claim ∈ claimsOf (writtenOut b.iterations (slotsOf mode b.iterations log 0 b.items))) :
    ∃ c ∈ b.claims, c.demand mode b.iterations log = claim.2 := by
  rw [claimsOf, filterMap_writtenOut] at h
  have hmem := List.mem_map_of_mem (f := (·.2)) (mem_of_mem_writtenOut h)
  rw [← claimsOf, demands_slotsOf] at hmem
  exact List.mem_map.mp hmem

/-- The demands of a written-out block with valid claims are sound. -/
theorem isSound_of_valid {declares : String → Bool} {entries : List Invocation}
    (hin : mode.inOrder = true) (h : ∀ c ∈ b.claims, c.IsValid declares) :
    ∀ claim ∈ claimsOf (writtenOut b.iterations
        (slotsOf mode b.iterations (locatedCalls entries) 0 b.items)), claim.2.IsSound := by
  intro claim hclaim
  obtain ⟨c, hc, hdemand⟩ := exists_demand_of_mem_slots hclaim
  rw [← hdemand]
  exact isSound_demand hin (h c hc).consistent

end Verdict

/-- The walk of an in-order verification that succeeds. -/
theorem Session.threads_of_passes {s : Session} {b : Block} {mode : Mode}
    (hin : mode.inOrder = true) (h : s.passes mode b = true) :
    Threads 0 (b.runs mode s.logged) := by
  obtain ⟨hadm, hverdict⟩ := passes_iff.mp h
  have hwalk := ((verdict_inOrder_iff hin).mp hverdict).1
  exact walk_threads _ 0 [] (isSound_of_valid hin hadm.valid) hwalk

theorem Session.excesses_of_passes {s : Session} {b : Block} {mode : Mode}
    (hin : mode.inOrder = true) (h : s.passes mode b = true) :
    excesses (positions (consumedCalls (b.walked mode s.logged))) (b.walked mode s.logged) = [] :=
  ((verdict_inOrder_iff hin).mp (passes_iff.mp h).2).2.1

/-- If an in-order verification succeeds, full or not, then every claim of the written-out block
can be given calls of its own: calls that it describes, as many as it allows, before those of
all later claims. -/
theorem Session.follows_of_passes {s : Session} {b : Block} {full : Bool}
    (h : s.passes ⟨true, full⟩ b = true) :
    ∃ given, Follows s.logged (writtenOut b.iterations b.claims) given := by
  have hthreads := threads_of_passes rfl h
  have hmax := exceededBy_of_excesses (excesses_of_passes rfl h)
  exact ⟨_, hthreads.follows rfl (demands_walkFromStart _) hmax⟩

/-- A block about a door that is opened once and then closed once or twice. -/
def door : Block :=
  ⟨[.claim (.nullary "Door" "open" {}), .claim (.nullary "Door" "close" ⟨some 1, some 2⟩)], 1⟩

theorem follows_of_passes_door : ∃ given,
    Follows (Session.called "Door" ["open", "close", "open", "close", "close"]).logged
      (writtenOut 2 door.claims) given :=
  @Session.follows_of_passes (.called "Door" ["open", "close", "open", "close", "close"])
    { door with iterations := 2 } true (by decide +kernel)

end Understudy

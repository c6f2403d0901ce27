import Mathlib.Data.List.Nodup
import Mathlib.Data.List.Pairwise
import Mathlib.Data.List.Perm.Subperm
import Understudy.Proofs.Verification.InOrder

/-!
# In-order verifications and totals

An in-order verification counts less than a verification without order. What it gave to a
claim, and the calls of the claim behind the first of these that nothing consumed, keep
within the maximum; where no call belongs to two claims, these are all calls of the claim
from that first one on (`length_from_first_le`). Calls in front of it are not counted, and
of a claim that was given no call nothing is counted at all. So a log may pass in order and
fail without order, and the main theorem says when it does not.
-/

namespace Understudy

/-- The logged calls that a claim describes. -/
def Claim.matching (c : Claim) (log : List Located) : List Located :=
  log.filter fun p => c.pattern.describes p.2

theorem Claim.calls_demand (c : Claim) (mode : Mode) (n : Nat) (log : List Located) :
    (c.demand mode n log).calls = c.matching log := locate_calls c.pattern log

/-- No call of a log is described by two of the claims. -/
def Distinct (claims : List Claim) (log : List Located) : Prop :=
  ∀ p ∈ log, claims.Pairwise fun c d =>
    ¬ (c.pattern.describes p.2 = true ∧ d.pattern.describes p.2 = true)

/-- The calls of a claim from the first call on that it was given. A claim that was given none has
none of them. -/
def Claim.fromFirst (c : Claim) (log calls : List Located) : List Located :=
  (c.matching log).filter fun p => calls.head?.any (·.1 ≤ p.1)

instance (claims : List Claim) (log : List Located) : Decidable (Distinct claims log) :=
  inferInstanceAs (Decidable (∀ p ∈ log, _))

/-! ## What a walk consumed -/

/-- Only claims consume calls. -/
theorem consumedCalls_walk : ∀ (slots : List Slot) (cursor : Nat) (consumed : List Nat),
    consumedCalls (slots.zip (walk slots cursor consumed)) =
      (runsOf (slots.zip (walk slots cursor consumed))).flatMap (·.2)
  | [], _, _ => rfl
  | .gap :: rest, cursor, consumed => consumedCalls_walk rest cursor consumed
  | .claim i d :: rest, cursor, consumed => by
    rw [walk_claim]
    exact congrArg _ (consumedCalls_walk rest _ _)

theorem nodup_of_ascending {calls : List Located} (h : calls.Pairwise (·.1 < ·.1)) :
    calls.Nodup := by
  refine h.imp ?_
  rintro p q hlt rfl
  exact Nat.lt_irrefl _ hlt

/-- Positions tell calls of a log apart. -/
theorem eq_of_position_eq {log : List Located} (h : log.Pairwise (·.1 < ·.1)) {p q : Located}
    (hp : p ∈ log) (hq : q ∈ log) (hpq : p.1 = q.1) : p = q := by
  have hnodup : (log.map (·.1)).Nodup :=
    List.pairwise_map.mpr (h.imp fun hlt => Nat.ne_of_lt hlt)
  exact List.inj_on_of_nodup_map hnodup hp hq hpq

theorem Demand.IsSound.nodup {d : Demand} (h : d.IsSound) : d.calls.Nodup :=
  nodup_of_ascending h.inLogOrder

section Runs

variable {log : List Located} {runs : List (Demand × List Located)}

/-- A call of a demand that was consumed was given to this demand, if no other demand has it. -/
theorem Threads.mem_run (h : Threads 0 runs) (hlog : log.Pairwise (·.1 < ·.1))
    (hcalls : ∀ r ∈ runs, r.1.calls.Sublist log)
    (hdistinct : runs.Pairwise fun r s => ∀ p ∈ r.1.calls, p ∉ s.1.calls)
    {r : Demand × List Located} (hr : r ∈ runs) {p : Located} (hp : p ∈ r.1.calls)
    (hcons : p.1 ∈ positions (runs.flatMap (·.2))) : p ∈ r.2 := by
  obtain ⟨q, hq, hqp⟩ := List.mem_map.mp hcons
  obtain ⟨s, hs, hqs⟩ := List.mem_flatMap.mp hq
  -- Some demand was given a call in this place, so it was given this call.
  have hqcalls : q ∈ s.1.calls := (h.sublist_calls s hs).subset hqs
  obtain rfl : q = p := eq_of_position_eq hlog ((hcalls s hs).subset hqcalls)
    ((hcalls r hr).subset hp) hqp
  by_cases hrs : r = s
  · exact hrs ▸ hqs
  · have hsymm : Std.Symm fun r s : Demand × List Located => ∀ p ∈ r.1.calls, p ∉ s.1.calls :=
      ⟨fun a b hab p hpb hpa => hab p hpa hpb⟩
    exact absurd hqcalls (hdistinct.forall hr hs hrs q hp)

/-- The calls of a demand from its first given call on are the given ones and those trailing
behind it. -/
theorem length_from_first_le {d : Demand} {run : List Located} {consumed : List Nat}
    {first : Located} (hd : d.IsSound) (hfirst : first.1 ∈ consumed)
    (hown : ∀ p ∈ d.calls, p.1 ∈ consumed → p ∈ run) :
    (d.calls.filter (first.1 ≤ ·.1)).length ≤ run.length + (d.trailing consumed first).length := by
  have hgiven : ((d.calls.filter (first.1 ≤ ·.1)).filter (consumed.contains ·.1)).length ≤
      run.length := by
    refine (List.Nodup.subperm ((hd.nodup.filter _).filter _) ?_).length_le
    intro p hp
    obtain ⟨hp, hcons⟩ := List.mem_filter.mp hp
    exact hown p (List.mem_filter.mp hp).1 (List.contains_iff_mem.mp hcons)
  have hrest : (d.calls.filter (first.1 ≤ ·.1)).filter (!consumed.contains ·.1) =
      d.trailing consumed first := by
    rw [Demand.trailing, List.filter_filter]
    refine List.filter_congr fun p _ => ?_
    by_cases hcons : consumed.contains p.1 = true
    · rw [hcons, Bool.not_true, Bool.false_and, Bool.and_false]
    · -- The first call itself was consumed.
      have hne : p.1 ≠ first.1 := fun heq => hcons (List.contains_iff_mem.mpr (heq ▸ hfirst))
      have hle : decide (first.1 ≤ p.1) = decide (first.1 < p.1) :=
        decide_eq_decide.mpr ⟨fun h => Nat.lt_of_le_of_ne h hne.symm, Nat.le_of_lt⟩
      rw [hle, Bool.and_comm]
  rw [List.length_eq_length_filter_add (consumed.contains ·.1), hrest]
  exact Nat.add_le_add_right hgiven _

/-- A demand without an overrun that consumed all its consumed calls itself has no more calls than
allowed from the first of them on. -/
theorem exceededBy_from_first {d : Demand} {run : List Located} {consumed : List Nat}
    (hd : d.IsSound) (hrun : ∀ p ∈ run, p.1 ∈ consumed)
    (hown : ∀ p ∈ d.calls, p.1 ∈ consumed → p ∈ run) (hover : d.overrun consumed run = false) :
    d.bounds.exceededBy (d.calls.filter fun p => run.head?.any (·.1 ≤ p.1)).length = false := by
  cases run with
  | nil =>
    have hnone : d.calls.filter (fun p => ([] : List Located).head?.any (·.1 ≤ p.1)) = [] :=
      List.filter_eq_nil_iff.mpr fun _ _ => Bool.false_ne_true
    rw [hnone]
    exact d.bounds.exceededBy_zero
  | cons first more =>
    exact Bounds.exceededBy_eq_false_of_le hover
      (length_from_first_le hd (hrun first (List.mem_cons_self ..)) hown)

end Runs

/-! ## The two verdicts -/

theorem Demand.countMismatch?_eq_none_iff {d : Demand} :
    d.countMismatch? = none ↔ d.bounds.admits d.calls.length = true := by
  unfold Demand.countMismatch?
  dsimp only
  rw [Bounds.admits_iff]
  split
  · next hmin => exact ⟨nofun, fun h => absurd h.1 (Nat.not_le_of_lt hmin)⟩
  · next hmin =>
    split
    · next hmax => exact ⟨nofun, fun h => absurd hmax (Bool.eq_false_iff.mp h.2)⟩
    · next hmax =>
      exact ⟨fun _ => ⟨Nat.le_of_not_lt hmin, Bool.eq_false_iff.mpr hmax⟩, fun _ => rfl⟩

/-- Without order, a block is in order if the total of every claim is, and if no call is left that
it must account for. -/
theorem verdict_counts_iff {b : Block} {log : List Located} {full : Bool} :
    (b.verdict ⟨false, full⟩ log).mismatches = [] ↔
      (∀ c ∈ b.claims, (c.meant.repeated b.iterations).admits (c.matching log).length = true) ∧
        (full = true →
          uncovered (claimsOf (slotsOf ⟨false, full⟩ b.iterations log 0 b.items)) log = []) := by
  have hverdict : (b.verdict ⟨false, full⟩ log).mismatches =
      ((claimsOf (slotsOf ⟨false, full⟩ b.iterations log 0 b.items)).map (·.2)).filterMap
          Demand.countMismatch? ++
        (if full then uncovered (claimsOf (slotsOf ⟨false, full⟩ b.iterations log 0 b.items)) log
          else []).map .unverified := by
    rw [List.filterMap_map]
    rfl
  rw [hverdict, List.append_eq_nil_iff, List.map_eq_nil_iff, demands_slotsOf, List.filterMap_map,
    List.filterMap_eq_nil_iff]
  refine and_congr (forall₂_congr fun c hc => ?_) ?_
  · rw [Function.comp_apply, Demand.countMismatch?_eq_none_iff, Claim.calls_demand]
    rfl
  · cases full <;> simp

/-- In a single iteration the bounds are as they were, for numbers that can be counted. -/
theorem Bounds.admits_repeated_one {b : Bounds} {n : Nat} (hmin : b.min ≤ n) (hn : n ≤ limit) :
    (b.repeated 1).admits n = true ↔ b.exceededBy n = false := by
  have hproduct : ∀ a, product a 1 = Nat.min a limit := fun a => by rw [product, Nat.mul_one]
  rw [admits_iff, exceededBy_eq_false_iff, exceededBy_eq_false_iff]
  constructor
  · rintro ⟨-, hmax⟩ m hm
    have hle := hmax (product m 1) (by rw [repeated, hm, Option.map_some])
    rw [hproduct] at hle
    exact Nat.le_trans hle (Nat.min_le_left m limit)
  · intro hmax
    refine ⟨?_, ?_⟩
    · show product b.min 1 ≤ n
      rw [hproduct]
      exact Nat.le_trans (Nat.min_le_left _ _) hmin
    · intro m hm
      obtain ⟨m', hm', rfl⟩ := Option.map_eq_some_iff.mp hm
      rw [hproduct]
      exact Nat.le_min.mpr ⟨hmax m' hm', hn⟩

namespace Session

variable {s : Session} {b : Block} {full : Bool}

/-- A block without gaps that an in-order verification admits is admitted without order. -/
theorem Admits.unordered (h : s.Admits ⟨true, full⟩ b)
    (hgaps : b.items.any BlockItem.isGap = false) : s.Admits ⟨false, false⟩ b where
  isOpen := h.isOpen
  pending := h.pending
  length := rfl
  iterations := h.iterations
  gaps := Or.inr hgaps
  valid := h.valid
  faultless := h.faultless

/-- The claims of a block that runs once, as its walk met them. -/
theorem demands_walked (s : Session) (full : Bool) (hone : b.iterations = 1) :
    (b.runs ⟨true, full⟩ s.logged).map (·.1) =
      b.claims.map (·.demand ⟨true, full⟩ b.iterations s.logged) := by
  rw [Block.runs, Block.walked, demands_walkFromStart, hone, writtenOut_one]
  rfl

/-- In a block that runs once no claim is charged with too many calls. -/
theorem overrun_of_passes (h : s.passes ⟨true, full⟩ b = true) (hone : b.iterations = 1) :
    ∀ r ∈ b.runs ⟨true, full⟩ s.logged,
      r.1.overrun (positions ((b.runs ⟨true, full⟩ s.logged).flatMap (·.2))) r.2 = false := by
  have hconsumed : consumedCalls (b.walked ⟨true, full⟩ s.logged) =
      (b.runs ⟨true, full⟩ s.logged).flatMap (·.2) := consumedCalls_walk _ 0 []
  rw [← hconsumed]
  exact (excesses_eq_nil_iff_of_nodup (nodup_indicesOf_walked hone)).mp (excesses_of_passes rfl h)

theorem pairwise_demands (mode : Mode) (n : Nat) {log : List Located} {claims : List Claim}
    (h : Distinct claims log) : (claims.map (·.demand mode n log)).Pairwise
      fun d e => ∀ p ∈ d.calls, p ∉ e.calls := by
  rw [List.pairwise_map, List.pairwise_iff_getElem]
  intro i j hi hj hij p hpi hpj
  obtain ⟨hp, hdi⟩ := Claim.mem_calls_demand.mp hpi
  obtain ⟨-, hdj⟩ := Claim.mem_calls_demand.mp hpj
  exact List.pairwise_iff_getElem.mp (h p hp) i j hi hj hij ⟨hdi, hdj⟩

/-- From the first call on that a claim was given, its calls keep within its maximum. -/
theorem fromFirst_of_passes (h : s.passes ⟨true, full⟩ b = true) (hone : b.iterations = 1)
    (hdistinct : Distinct b.claims s.logged) :
    List.Forall₂ (fun c calls =>
      c.meant.exceededBy (c.fromFirst s.logged calls).length = false) b.claims
        ((b.runs ⟨true, full⟩ s.logged).map (·.2)) := by
  have hthreads := threads_of_passes rfl h
  have hdemands := demands_walked s full hone
  -- No two demands share a call, so each of them consumed its consumed calls itself.
  have hpairwise := pairwise_demands ⟨true, full⟩ b.iterations hdistinct
  rw [← hdemands, List.pairwise_map] at hpairwise
  have hcalls : ∀ r ∈ b.runs ⟨true, full⟩ s.logged, r.1.calls.Sublist s.logged := by
    intro r hr
    have hmem := List.mem_map_of_mem (f := (·.1)) hr
    rw [hdemands] at hmem
    obtain ⟨c, -, hc⟩ := List.mem_map.mp hmem
    exact hc ▸ c.calls_demand_sublist _ _ s.logged
  have hcounted : ∀ r ∈ b.runs ⟨true, full⟩ s.logged, r.1.bounds.exceededBy
      (r.1.calls.filter fun p => r.2.head?.any (·.1 ≤ p.1)).length = false := by
    intro r hr
    refine exceededBy_from_first (hthreads.isSound r hr) ?_ ?_ (overrun_of_passes h hone r hr)
    · exact fun p hp => List.mem_map_of_mem (List.mem_flatMap.mpr ⟨r, hr, hp⟩)
    · intro p hp hcons
      exact hthreads.mem_run (locatedCalls_pairwise _) hcalls hpairwise hr hp hcons
  refine (forall₂_of_runs (fun d calls => d.bounds.exceededBy
    (d.calls.filter fun p => calls.head?.any (·.1 ≤ p.1)).length = false) hdemands hcounted).imp ?_
  intro c calls hc
  rw [Claim.calls_demand] at hc
  show (c.demanded ⟨true, full⟩ b.iterations).exceededBy _ = false
  exact hc

/-- An in-order verification that succeeds has found the minima, so without order it comes to the
maxima of the totals. -/
theorem passes_counts_iff (h : s.passes ⟨true, full⟩ b = true)
    (hgaps : b.items.any BlockItem.isGap = false) (hone : b.iterations = 1)
    (hlog : s.logged.length ≤ Bounds.limit) : s.passes ⟨false, false⟩ b = true ↔
      ∀ c ∈ b.claims, c.meant.exceededBy (c.matching s.logged).length = false := by
  have hadmits := (passes_iff.mp h).1.unordered hgaps
  rw [passes_iff, verdict_counts_iff, and_iff_left (fun hfull => nomatch hfull), hone,
    and_iff_right hadmits]
  refine forall₂_congr fun c hc => Bounds.admits_repeated_one ?_ ?_
  · have hmem : c.demand ⟨true, full⟩ b.iterations s.logged ∈
        (b.runs ⟨true, full⟩ s.logged).map (·.1) := by
      rw [demands_walked s full hone]
      exact List.mem_map_of_mem hc
    obtain ⟨r, hr, hrc⟩ := List.mem_map.mp hmem
    have hmin := (threads_of_passes rfl h).min_le r hr
    have hlen := ((threads_of_passes rfl h).sublist_calls r hr).length_le
    rw [hrc] at hmin hlen
    rw [Claim.calls_demand] at hlen
    show (c.demanded ⟨true, full⟩ b.iterations).min ≤ _
    exact Nat.le_trans hmin hlen
  · exact Nat.le_trans (List.length_filter_le _ _) hlog

/-- What an in-order verification that succeeds has counted: from the first call on that a claim was
given, its calls keep within its maximum. The totals do so as well if there were no calls before,
and a verification without order comes to nothing but the totals. -/
theorem counts_of_passes (h : s.passes ⟨true, full⟩ b = true)
    (hgaps : b.items.any BlockItem.isGap = false) (hone : b.iterations = 1)
    (hdistinct : Distinct b.claims s.logged) (hlog : s.logged.length ≤ Bounds.limit) :
    ∃ given, Follows s.logged b.claims given ∧
      List.Forall₂ (fun c calls =>
        c.meant.exceededBy (c.fromFirst s.logged calls).length = false) b.claims given ∧
      (s.passes ⟨false, false⟩ b = true ↔
        ∀ c ∈ b.claims, c.meant.exceededBy (c.matching s.logged).length = false) ∧
      (List.Forall₂ (fun c calls => c.fromFirst s.logged calls = c.matching s.logged)
        b.claims given → s.passes ⟨false, false⟩ b = true) := by
  have hmax := exceededBy_of_excesses (excesses_of_passes rfl h)
  have hfollows := (threads_of_passes rfl h).follows rfl (demands_walked s full hone) hmax
  have hcounted := fromFirst_of_passes h hone hdistinct
  have htotals := passes_counts_iff h hgaps hone hlog
  refine ⟨_, hfollows, hcounted, htotals, fun hall => htotals.mpr ?_⟩
  have hpairs : List.Forall₂ (fun c calls =>
      c.meant.exceededBy (c.matching s.logged).length = false ∧
        c.fromFirst s.logged calls = c.matching s.logged) b.claims
        ((b.runs ⟨true, full⟩ s.logged).map (·.2)) :=
    List.Forall₂.mp (fun c calls hc heq => ⟨heq ▸ hc, heq⟩) hcounted hall
  exact ((List.forall₂_and_left _ _).mp hpairs).1

theorem counts_of_passes_door : ∃ given,
    Follows (called "Door" ["open", "close"]).logged door.claims given ∧
      List.Forall₂ (fun c calls => c.meant.exceededBy
        (c.fromFirst (called "Door" ["open", "close"]).logged calls).length = false)
          door.claims given ∧
      ((called "Door" ["open", "close"]).passes ⟨false, false⟩ door = true ↔
        ∀ c ∈ door.claims, c.meant.exceededBy
          (c.matching (called "Door" ["open", "close"]).logged).length = false) ∧
      (List.Forall₂ (fun c calls => c.fromFirst (called "Door" ["open", "close"]).logged calls =
          c.matching (called "Door" ["open", "close"]).logged) door.claims given →
        (called "Door" ["open", "close"]).passes ⟨false, false⟩ door = true) :=
  @counts_of_passes (called "Door" ["open", "close"]) door false (by decide +kernel) rfl rfl
    (by decide +kernel) (by decide +kernel)

/-- A log that passes in order and fails without: a claim of no calls looks only behind the calls
given before it, and here the call it forbids came first. -/
theorem passes_inOrder_only :
    let s := called "Door" ["close", "open"]
    let b : Block := ⟨[.claim (.nullary "Door" "open" {}),
      .claim (.nullary "Door" "close" ⟨some 0, some 0⟩)], 1⟩
    b.items.any BlockItem.isGap = false ∧ b.iterations = 1 ∧ Distinct b.claims s.logged ∧
      s.passes ⟨true, false⟩ b = true ∧ s.passes ⟨false, false⟩ b = false := by
  decide +kernel

end Session

end Understudy

import Understudy.Proofs.Verification.Counts

/-!
# In-order verification of separated calls

`Session.follows_of_passes` says what a successful in-order verification has found. This module is
about the other direction: when there is something to be found, is it found? A walk is
greedy. A claim takes all of its calls that lie before the first one of the next claim, and
the next claim is whichever comes next in the block that allows calls at all. So a walk can
go wrong by taking too much or too little only where the calls of two claims are mixed.

Where they are not, that is where all calls of a claim lie before those of the later ones, every
claim consumes exactly its own calls, however many it has, and a verification succeeds if each
number is within its bounds (`Session.passes_of_separated`). The walk keeps one invariant
(`walk_separated`): no call of a claim still to come lies before the cursor.
-/

namespace Understudy

/-- The calls of every claim lie before those of the later claims. No call belongs to two claims
then. -/
def Separated (claims : List Claim) (log : List Located) : Prop :=
  claims.Pairwise fun c d => ∀ p ∈ c.matching log, ∀ q ∈ d.matching log, p.1 < q.1

instance (claims : List Claim) (log : List Located) : Decidable (Separated claims log) :=
  inferInstanceAs (Decidable (List.Pairwise _ _))

/-! ## Boundaries -/

/-- The next demand is one of those that follow. -/
theorem mem_of_nextDemand? {slots : List Slot} {d : Demand} (h : nextDemand? slots = some d) :
    ∃ claim ∈ claimsOf slots, claim.2 = d := by
  induction slots with
  | nil => cases h
  | cons slot rest ih =>
    cases slot with
    | gap => exact ih h
    | claim i e =>
      rw [nextDemand?] at h
      split at h
      · obtain ⟨claim, hclaim, heq⟩ := ih h
        exact ⟨claim, List.mem_cons_of_mem _ hclaim, heq⟩
      · exact ⟨(i, e), List.mem_cons_self .., Option.some.inj h⟩

namespace Demand

variable {d : Demand} {cursor : Nat} {consumed : List Nat} {rest : List Slot}

/-- A boundary stands at a call of the next demand. -/
theorem mem_of_firstFrom? {p q : Nat} (h : d.firstFrom? p = some q) :
    ∃ c ∈ d.calls, c.1 = q := by
  obtain ⟨c, hc, hq⟩ := Option.map_eq_some_iff.mp h
  exact ⟨c, List.mem_of_find?_eq_some hc, hq⟩

/-- All calls of a demand lie ahead if none lies before the cursor. -/
theorem ahead_eq_calls (h : ∀ p ∈ d.calls, cursor ≤ p.1) : d.ahead cursor = d.calls :=
  List.filter_eq_self.mpr fun p hp => decide_eq_true (h p hp)

/-- No boundary cuts a run off whose calls lie before those of all later demands. -/
theorem run_eq_ahead
    (h : ∀ claim ∈ claimsOf rest, ∀ p ∈ d.calls, ∀ q ∈ claim.2.calls, p.1 < q.1) :
    d.run cursor rest = d.ahead cursor := by
  unfold run
  dsimp only
  refine List.filter_eq_self.mpr ?_
  intro c hc
  cases hb : (nextDemand? rest).bind (·.firstFrom? (d.requiredEnd cursor)) with
  | none => rfl
  | some q =>
    obtain ⟨next, hnext, hq⟩ := Option.bind_eq_some_iff.mp hb
    obtain ⟨claim, hclaim, rfl⟩ := mem_of_nextDemand? hnext
    obtain ⟨p, hp, rfl⟩ := mem_of_firstFrom? hq
    exact decide_eq_true (h claim hclaim c (List.mem_filter.mp hc).1 p hp)

/-- A claim whose calls all lie ahead, before those of the later claims and within its bounds,
consumes them. -/
theorem passage_of_separated (hahead : ∀ p ∈ d.calls, cursor ≤ p.1)
    (hlater : ∀ claim ∈ claimsOf rest, ∀ p ∈ d.calls, ∀ q ∈ claim.2.calls, p.1 < q.1)
    (hadmits : d.bounds.admits d.calls.length = true) :
    d.passage cursor consumed rest = { run := d.calls } := by
  obtain ⟨hmin, hmax⟩ := Bounds.admits_iff.mp hadmits
  have hall := ahead_eq_calls hahead
  by_cases hnever : d.bounds.max = some 0
  · -- No call is within such bounds, so there is none to be consumed.
    have hlen := Bounds.exceededBy_eq_false_iff.mp hmax 0 hnever
    have hnone : d.calls = [] := List.length_eq_zero_iff.mp (by omega)
    rw [passage_of_never hnever, hall, hnone]
    rfl
  · rw [passage_of_enough hnever (by rw [hall]; omega), run_eq_ahead hlater, hall]

/-- A demand that consumed all of its calls has nothing trailing behind. -/
theorem trailing_eq_nil {first : Located} (h : ∀ p ∈ d.calls, p.1 ∈ consumed) :
    d.trailing consumed first = [] := by
  refine List.filter_eq_nil_iff.mpr ?_
  intro p hp
  simp [h p hp]

end Demand

/-! ## Walks -/

/-- A walk gives separated claims their calls, if every number of calls is within its bounds. -/
theorem walk_separated : ∀ (slots : List Slot) (cursor : Nat) (consumed : List Nat),
    (∀ claim ∈ claimsOf slots, claim.2.IsSound) →
    (claimsOf slots).Pairwise (fun c d => ∀ p ∈ c.2.calls, ∀ q ∈ d.2.calls, p.1 < q.1) →
    (∀ claim ∈ claimsOf slots, ∀ p ∈ claim.2.calls, cursor ≤ p.1) →
    (∀ claim ∈ claimsOf slots, claim.2.bounds.admits claim.2.calls.length = true) →
      walkMismatches (slots.zip (walk slots cursor consumed)) = [] ∧
      runsOf (slots.zip (walk slots cursor consumed)) =
        (claimsOf slots).map fun claim => (claim.2, claim.2.calls)
  | [], _, _, _, _, _, _ => ⟨rfl, rfl⟩
  | .gap :: rest, cursor, consumed, hsound, hsep, hahead, hadmits =>
    walk_separated rest cursor consumed hsound hsep hahead hadmits
  | .claim i d :: rest, cursor, consumed, hsound, hsep, hahead, hadmits => by
    obtain ⟨hd, hsound⟩ := List.forall_mem_cons.mp hsound
    obtain ⟨hlater, hsep⟩ := List.pairwise_cons.mp hsep
    obtain ⟨hhere, hahead⟩ := List.forall_mem_cons.mp hahead
    obtain ⟨had, hadmits⟩ := List.forall_mem_cons.mp hadmits
    have hpassage : d.passage cursor consumed rest = { run := d.calls } :=
      Demand.passage_of_separated hhere hlater had
    -- The cursor stands behind some call of this claim now, so before all calls to come.
    have hnext : ∀ claim ∈ claimsOf rest, ∀ q ∈ claim.2.calls,
        cursorAfter cursor d.calls ≤ q.1 := by
      intro claim hclaim q hq
      apply Nat.le_of_not_lt
      intro hlt
      rcases lt_or_le_of_lt_cursorAfter hlt with hcur | ⟨p, hp, hqp⟩
      · have := hahead claim hclaim q hq
        omega
      · have := hlater claim hclaim p hp q hq
        omega
    rw [walk_claim, hpassage]
    obtain ⟨hsilent, hruns⟩ := walk_separated rest (cursorAfter cursor d.calls)
      (positions d.calls ++ consumed) hsound hsep hnext hadmits
    exact ⟨hsilent, congrArg ((d, d.calls) :: ·) hruns⟩

/-! ## Verifications -/

section Blocks

variable {b : Block} {mode : Mode} {log : List Located}

/-- The demands of a block that runs once are those of its claims. -/
theorem demands_of_once (hone : b.iterations = 1) :
    (claimsOf (writtenOut b.iterations (slotsOf mode b.iterations log 0 b.items))).map (·.2) =
      b.claims.map (·.demand mode b.iterations log) := by
  rw [hone, writtenOut_one, demands_slotsOf]
  rfl

/-- Demands are separated if their claims are. -/
theorem pairwise_of_separated (hone : b.iterations = 1) (h : Separated b.claims log) :
    (claimsOf (writtenOut b.iterations (slotsOf mode b.iterations log 0 b.items))).Pairwise
      fun c d => ∀ p ∈ c.2.calls, ∀ q ∈ d.2.calls, p.1 < q.1 := by
  have hdemands : (b.claims.map (·.demand mode b.iterations log)).Pairwise
      fun d e => ∀ p ∈ d.calls, ∀ q ∈ e.calls, p.1 < q.1 := by
    rw [List.pairwise_map]
    refine h.imp ?_
    intro c d hcd
    rw [Claim.calls_demand, Claim.calls_demand]
    exact hcd
  rw [← demands_of_once hone] at hdemands
  exact List.pairwise_map.mp hdemands

end Blocks

namespace Session

variable {s : Session} {b : Block}

/-- The walk of separated claims with the right numbers of calls finds nothing, and every claim
consumes its calls. -/
theorem walked_of_separated (h : s.Admits ⟨true, false⟩ b) (hone : b.iterations = 1)
    (hsep : Separated b.claims s.logged)
    (hadmits : ∀ c ∈ b.claims, c.meant.admits (c.matching s.logged).length = true) :
    walkMismatches (b.walked ⟨true, false⟩ s.logged) = [] ∧
      b.runs ⟨true, false⟩ s.logged = b.claims.map fun c =>
        (c.demand ⟨true, false⟩ b.iterations s.logged, c.matching s.logged) := by
  have hbounds : ∀ claim ∈ claimsOf (writtenOut b.iterations
      (slotsOf ⟨true, false⟩ b.iterations s.logged 0 b.items)),
      claim.2.bounds.admits claim.2.calls.length = true := by
    intro claim hclaim
    obtain ⟨c, hc, hdemand⟩ := exists_demand_of_mem_slots hclaim
    rw [← hdemand, Claim.calls_demand]
    exact hadmits c hc
  have hsound : ∀ claim ∈ claimsOf (writtenOut b.iterations
      (slotsOf ⟨true, false⟩ b.iterations s.logged 0 b.items)), claim.2.IsSound :=
    isSound_of_valid rfl h.valid
  -- Separated claims are walked without looking back, each taking all of its calls.
  obtain ⟨hsilent, hruns⟩ := walk_separated _ 0 [] hsound (pairwise_of_separated hone hsep)
    (fun _ _ p _ => Nat.zero_le p.1) hbounds
  refine ⟨hsilent, ?_⟩
  show runsOf (walkFromStart _) = _
  rw [walkFromStart, hruns]
  have hcalls : (fun claim : Nat × Demand => (claim.2, claim.2.calls)) =
      (fun d : Demand => (d, d.calls)) ∘ (·.2) := rfl
  rw [hcalls, ← List.map_map, demands_of_once hone, List.map_map]
  refine List.map_congr_left ?_
  intro c _
  show (_, (c.demand _ _ _).calls) = _
  rw [Claim.calls_demand]

/-- If the calls of every claim lie before those of the later ones, and their numbers are within the
bounds of the claims, then an in-order verification of the claims succeeds, and each of them
consumes exactly its calls. -/
theorem passes_of_separated (h : s.Admits ⟨true, false⟩ b)
    (hgaps : b.items.any BlockItem.isGap = false) (hone : b.iterations = 1)
    (hsep : Separated b.claims s.logged)
    (hadmits : ∀ c ∈ b.claims, c.meant.admits (c.matching s.logged).length = true) :
    s.passes ⟨true, false⟩ b = true ∧
      (b.runs ⟨true, false⟩ s.logged).map (·.2) = b.claims.map (·.matching s.logged) := by
  obtain ⟨hsilent, hruns⟩ := walked_of_separated h hone hsep hadmits
  refine ⟨passes_iff.mpr ⟨h, (verdict_once_iff hgaps hone).mpr ⟨hsilent, ?_⟩⟩, ?_⟩
  · intro r hr
    have hconsumed : consumedCalls (b.walked ⟨true, false⟩ s.logged) =
        (b.runs ⟨true, false⟩ s.logged).flatMap (·.2) := consumedCalls_walk _ 0 []
    -- The calls of a claim are all consumed, so none is left to count as excess.
    have hmine : ∀ p ∈ r.2, p.1 ∈ positions ((b.runs ⟨true, false⟩ s.logged).flatMap (·.2)) :=
      fun p hp => List.mem_map_of_mem (List.mem_flatMap.mpr ⟨r, hr, hp⟩)
    rw [hconsumed]
    rw [hruns] at hr
    obtain ⟨c, hc, rfl⟩ := List.mem_map.mp hr
    have hcalls : (c.demand ⟨true, false⟩ b.iterations s.logged).calls = c.matching s.logged :=
      c.calls_demand _ _ _
    unfold Demand.overrun
    cases hfirst : (c.matching s.logged).head? with
    | none => rfl
    | some first =>
      rw [Option.any_some, Demand.trailing_eq_nil (fun p hp => hmine p (hcalls ▸ hp))]
      exact (Bounds.admits_iff.mp (hadmits c hc)).2
  · rw [hruns, List.map_map]
    rfl

/-- A visit in which a knock is optional and the bell must not be rung. -/
def politeVisit : Block :=
  ⟨[.claim (.nullary "Door" "knock" ⟨some 0, none⟩), .claim (.nullary "Door" "ring" ⟨none, some 0⟩),
    .claim (.nullary "Door" "open" ⟨none, some 2⟩), .claim (.nullary "Door" "close" {})], 1⟩

/-- Nobody knocks, and a window that the block does not mention is opened in between. -/
theorem passes_of_separated_politeVisit :
    let s := called "Door" ["open", "window", "open", "close"]
    Separated politeVisit.claims s.logged ∧
      (∀ c ∈ politeVisit.claims, c.meant.admits (c.matching s.logged).length = true) ∧
      s.passes ⟨true, false⟩ politeVisit = true ∧
      (politeVisit.runs ⟨true, false⟩ s.logged).map (·.2) =
        politeVisit.claims.map (·.matching s.logged) := by
  intro s
  have hadm : s.Admits ⟨true, false⟩ politeVisit :=
    admits_of_isWellFormed (by decide +kernel) (List.isEmpty_iff.mp (by decide +kernel))
      (by decide) (by decide +kernel) (by decide +kernel)
  have hsep : Separated politeVisit.claims s.logged := by decide +kernel
  have hadmits : ∀ c ∈ politeVisit.claims,
      c.meant.admits (c.matching s.logged).length = true := by decide +kernel
  exact ⟨hsep, hadmits, passes_of_separated hadm rfl rfl hsep hadmits⟩

end Session

end Understudy

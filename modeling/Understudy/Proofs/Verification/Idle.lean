import Understudy.Proofs.Verification.Rounds

/-!
# Claims that need no calls and have none

A claim that needs no calls and has none in a log is idle: at its own step a walk consumes
nothing and finds nothing wrong (`Demand.IsIdle.passage`). One would expect that such a claim can
be put anywhere into a block, or left out, without a difference. It is not so. The step
before it ends where the next claim has its first call, and if the next claim is the idle
one then it does not end at all: it takes all of its calls to the end of the log, past the
calls of the claims that follow. Idle claims that allow no calls do no such harm, for a walk
passes them over when it looks for the next claim.

So an idle claim makes no difference exactly if there is nothing left to be taken at its
place (`Block.spendsAt`): the last step that could consume calls has consumed all that lay
ahead of it, or has found too few. `take_walk_idle_iff` says so of walks, by induction on the steps
before the place, and `Session.passes_inserting` of verifications. Both a block that passes
and one that fails can be turned around in the other case.
-/

namespace Understudy

/-- The last step of a walk at which calls can be consumed. -/
def lastStep? : Walked → Option (Demand × Passage)
  | [] => none
  | (.gap, _) :: rest => lastStep? rest
  | (.claim _ d, p) :: rest =>
    (lastStep? rest).or (if d.bounds.max = some 0 then none else some (d, p))

/-- Whether the last step of a walk that could consume calls left none of its calls from a cursor
on. One that found too few consumed nothing and could not have done otherwise. -/
def Walked.spends (w : Walked) (cursor : Nat) : Bool :=
  (lastStep? w).all fun (d, p) => p.finding.isSome || (d.ahead cursor).isEmpty

/-- Whether a walk through a block has left nothing to be taken when it comes to a place. -/
def Block.spendsAt (b : Block) (mode : Mode) (log : List Located) (k : Nat) : Bool :=
  Walked.spends ((b.walked mode log).take k) ((b.walked mode log).cursorAt k)

/-- A block with one more claim at a place. -/
def Block.inserting (b : Block) (k : Nat) (c : Claim) : Block :=
  { b with items := b.items.take k ++ .claim c :: b.items.drop k }

/-- A demand for no calls that has none. -/
structure Demand.IsIdle (d : Demand) : Prop where
  calls : d.calls = []
  min : d.bounds.min = 0

/-! ## Runs -/

namespace Demand

variable {d x : Demand} {cursor : Nat} {consumed : List Nat} {rest : List Slot}

/-- A walk leaves nothing at an idle claim. -/
theorem IsIdle.passage (hx : x.IsIdle) : x.passage cursor consumed rest = {} := by
  have hahead : x.ahead cursor = [] := by simp [ahead, hx.calls]
  by_cases hmax : x.bounds.max = some 0
  · rw [passage_of_never hmax, hahead]
    rfl
  · rw [passage_of_enough hmax (by simp [hx.min])]
    simp [run, hahead]

/-- A step that consumes nothing does not look at the slots behind it. -/
theorem passage_of_done {rest' : List Slot}
    (h : d.bounds.max = some 0 ∨ (d.ahead cursor).length < d.bounds.min) :
    d.passage cursor consumed rest = d.passage cursor consumed rest' := by
  by_cases hnever : d.bounds.max = some 0
  · rw [passage_of_never hnever, passage_of_never hnever]
  · have hshort := h.resolve_left hnever
    rw [passage_of_short hnever hshort, passage_of_short hnever hshort]

/-- If its claim allows calls then it complains. -/
theorem finding_of_done (h : d.bounds.max = some 0 ∨ (d.ahead cursor).length < d.bounds.min) :
    d.bounds.max = some 0 ∨ (d.passage cursor consumed rest).finding.isSome = true := by
  by_cases hnever : d.bounds.max = some 0
  · exact Or.inl hnever
  · rw [passage_of_short hnever (h.resolve_left hnever)]
    exact Or.inr rfl

/-- In front of an idle claim a run has no boundary. -/
theorem IsIdle.run_before (hx : x.IsIdle) (h : nextDemand? rest = some x) :
    d.run cursor rest = d.ahead cursor := by
  simp [run, h, firstFrom?, hx.calls]

/-- A run has taken all calls ahead if none is left behind it. -/
theorem run_eq_ahead_iff (hd : d.IsSound) : d.run cursor rest = d.ahead cursor ↔
    d.ahead (cursorAfter cursor (d.run cursor rest)) = [] := by
  have hfrom : ∀ c ∈ d.ahead cursor, cursor ≤ c.1 := by
    intro c hc
    simpa using (List.mem_filter.mp hc).2
  constructor
  · intro hall
    rw [hall]
    refine List.eq_nil_iff_forall_not_mem.mpr ?_
    intro c hc
    obtain ⟨hcall, hbehind⟩ := List.mem_filter.mp hc
    have hle := le_cursorAfter hfrom
    simp only [decide_eq_true_eq] at hbehind
    have hmem : c ∈ d.ahead cursor :=
      List.mem_filter.mpr ⟨hcall, decide_eq_true (by omega)⟩
    have hlt : c.1 < cursorAfter cursor (d.ahead cursor) := lt_cursorAfter (hd.ahead cursor) c hmem
    omega
  · intro hnone
    conv at hnone => lhs; unfold ahead
    unfold run at hnone ⊢
    dsimp only at hnone ⊢
    refine List.filter_eq_self.mpr ?_
    intro c hc
    cases hb : (nextDemand? rest).bind (·.firstFrom? (d.requiredEnd cursor)) with
    | none => rfl
    | some q =>
      rw [hb] at hnone
      refine decide_eq_true (Nat.lt_of_not_le fun hqc => ?_)
      -- Cut off, this call would lie behind the cursor the run has moved.
      have hlt : c.1 <
          cursorAfter cursor ((d.ahead cursor).filter fun c => (some q).all (c.1 < ·)) :=
        Nat.lt_of_not_le fun hle =>
          List.filter_eq_nil_iff.mp hnone c (List.mem_filter.mp hc).1 (decide_eq_true hle)
      rcases lt_or_le_of_lt_cursorAfter hlt with hcur | ⟨e, he, hce⟩
      · have := hfrom c hc
        omega
      · have heq := (List.mem_filter.mp he).2
        simp only [Option.all_some, decide_eq_true_eq] at heq
        omega

end Demand

/-! ## Walks -/

section Walks

variable {i cursor : Nat} {consumed : List Nat} {x : Demand} {front rest : List Slot}

/-- There is such a last step if there is a claim that allows calls. -/
theorem lastStep?_eq_none_iff {slots : List Slot} {passages : List Passage}
    (h : passages.length = slots.length) :
    lastStep? (slots.zip passages) = none ↔ nextDemand? slots = none := by
  induction slots generalizing passages with
  | nil => simp [lastStep?, nextDemand?]
  | cons slot rest ih =>
    cases passages with
    | nil => cases h
    | cons p passages =>
      have hrest := ih (Nat.succ.inj h)
      cases slot with
      | gap => exact hrest
      | claim i d =>
        rw [List.zip_cons_cons, lastStep?, nextDemand?, Option.or_eq_none_iff, hrest]
        split <;> simp

/-- Claims that allow no calls consume none. -/
theorem consumedCalls_of_never (h : nextDemand? front = none) :
    ∀ (cursor : Nat) (consumed : List Nat), consumedCalls
      (front.zip ((walk (front ++ rest) cursor consumed).take front.length)) = [] := by
  induction front with
  | nil => exact fun _ _ => rfl
  | cons slot front ih =>
    intro cursor consumed
    cases slot with
    | gap => exact ih h cursor consumed
    | claim i d =>
      rw [nextDemand?] at h
      split at h
      · next hmax =>
        rw [List.cons_append, walk_claim, Demand.passage_of_never hmax]
        exact ih h cursor consumed
      · cases h

theorem reach_cons (slot : Slot) (p : Passage) (w : Walked) (cursor : Nat) :
    Walked.reach ((slot, p) :: w) cursor = w.reach (cursorAfter cursor p.run) :=
  cursorAfter_append ..

/-- A step that consumed nothing, and could not have done otherwise, does not matter. -/
theorem spends_cons_of_done {d : Demand} {p : Passage} {w : Walked}
    (h : d.bounds.max = some 0 ∨ p.finding.isSome = true) :
    Walked.spends ((.claim i d, p) :: w) cursor = w.spends cursor := by
  unfold Walked.spends
  rw [lastStep?]
  cases lastStep? w with
  | some last => rfl
  | none =>
    rcases h with hmax | hfound
    · rw [if_pos hmax]
      rfl
    · split <;> simp [hfound]

/-- Nor does a step with a later one that can consume calls. -/
theorem spends_cons_of_later {d : Demand} {p : Passage} {w : Walked} (h : lastStep? w ≠ none) :
    Walked.spends ((.claim i d, p) :: w) cursor = w.spends cursor := by
  unfold Walked.spends
  rw [lastStep?]
  cases hlast : lastStep? w with
  | some last => rfl
  | none => exact absurd hlast h

/-- The last step that can consume calls is the one that matters. -/
theorem spends_cons_of_last {d : Demand} {p : Passage} {w : Walked} (hnever : d.bounds.max ≠ some 0)
    (h : lastStep? w = none) : Walked.spends ((.claim i d, p) :: w) cursor =
      (p.finding.isSome || (d.ahead cursor).isEmpty) := by
  unfold Walked.spends
  rw [lastStep?, h, if_neg hnever]
  rfl

theorem spends_of_none {w : Walked} (h : lastStep? w = none) : w.spends cursor = true := by
  unfold Walked.spends
  rw [h]
  rfl

/-- If an idle claim comes next, a step with enough calls leaves the same as without it exactly if
it takes all of them. -/
theorem passage_idle_iff {d : Demand} (i : Nat) (consumed : List Nat) (rest : List Slot)
    (hd : d.IsSound) (hx : x.IsIdle) (hmax : x.bounds.max ≠ some 0) (hnever : d.bounds.max ≠ some 0)
    (henough : ¬ (d.ahead cursor).length < d.bounds.min) (hnext : nextDemand? front = none) :
    d.passage cursor consumed (front ++ .claim i x :: rest) =
        d.passage cursor consumed (front ++ rest) ↔
      d.ahead (cursorAfter cursor (d.passage cursor consumed (front ++ rest)).run) = [] := by
  have hrun : d.run cursor (front ++ .claim i x :: rest) = d.ahead cursor := by
    apply hx.run_before
    rw [nextDemand?_append, hnext, Option.none_or, nextDemand?, if_neg hmax]
  rw [Demand.passage_of_enough hnever henough, Demand.passage_of_enough hnever henough, hrun,
    ← Demand.run_eq_ahead_iff hd, Passage.mk.injEq, and_iff_left rfl]
  exact eq_comm

/-- If nothing is left at a place, an idle claim there changes nothing about the steps before it,
and only then. -/
theorem take_walk_idle_iff (hx : x.IsIdle) (hmax : x.bounds.max ≠ some 0) :
    ∀ (front : List Slot) (cursor : Nat) (consumed : List Nat),
      (∀ claim ∈ claimsOf front, claim.2.IsSound) →
      let before := (walk (front ++ rest) cursor consumed).take front.length
      ((walk (front ++ .claim i x :: rest) cursor consumed).take front.length = before ↔
        Walked.spends (front.zip before) (Walked.reach (front.zip before) cursor) = true)
  | [], _, _, _ => by simp [Walked.spends, lastStep?]
  | .gap :: front, cursor, consumed, hsound => by
    have ih := take_walk_idle_iff hx hmax front cursor consumed hsound
    dsimp only at ih ⊢
    rw [List.cons_append, List.cons_append, walk_gap, walk_gap, List.length_cons,
      List.take_succ_cons, List.take_succ_cons, List.zip_cons_cons, List.cons.injEq,
      and_iff_right rfl, ih]
    rfl
  | .claim j d :: front, cursor, consumed, hsound => by
    obtain ⟨hd, hsound⟩ := List.forall_mem_cons.mp hsound
    have ih (p : Passage) := take_walk_idle_iff hx hmax front (cursorAfter cursor p.run)
      (positions p.run ++ consumed) hsound
    have hlength (p : Passage) : ((walk (front ++ rest) (cursorAfter cursor p.run)
        (positions p.run ++ consumed)).take front.length).length = front.length := by simp
    dsimp only at ih ⊢
    rw [List.cons_append, List.cons_append, walk_claim, walk_claim, List.length_cons,
      List.take_succ_cons, List.take_succ_cons, List.zip_cons_cons, List.cons.injEq, reach_cons]
    by_cases hdone : d.bounds.max = some 0 ∨ (d.ahead cursor).length < d.bounds.min
    · -- Such a step does not look at the slots behind it.
      rw [spends_cons_of_done (Demand.finding_of_done hdone), Demand.passage_of_done hdone,
        and_iff_right rfl]
      exact ih _
    · obtain ⟨hnever, henough⟩ := not_or.mp hdone
      cases hnext : nextDemand? front with
      | some e =>
        have hsame : d.passage cursor consumed (front ++ .claim i x :: rest) =
            d.passage cursor consumed (front ++ rest) :=
          Demand.passage_congr (by rw [nextDemand?_append, nextDemand?_append, hnext]; rfl)
        have hlater : lastStep? (front.zip ((walk (front ++ rest)
            (cursorAfter cursor (d.passage cursor consumed (front ++ rest)).run)
            (positions (d.passage cursor consumed (front ++ rest)).run ++ consumed)).take
              front.length)) ≠ none := by
          rw [ne_eq, lastStep?_eq_none_iff (hlength _), hnext]
          exact Option.some_ne_none e
        rw [spends_cons_of_later hlater, hsame, and_iff_right rfl]
        exact ih _
      | none =>
        -- This is the last step that can consume calls, and the idle claim comes next.
        have hlast (p : Passage) : lastStep? (front.zip ((walk (front ++ rest)
            (cursorAfter cursor p.run) (positions p.run ++ consumed)).take front.length)) = none :=
          (lastStep?_eq_none_iff (hlength p)).mpr hnext
        have hpassage := passage_idle_iff i consumed rest hd hx hmax hnever henough hnext
        have hsilent : (d.passage cursor consumed (front ++ rest)).finding.isSome = false := by
          rw [Demand.passage_of_enough hnever henough]
          rfl
        rw [spends_cons_of_last hnever (hlast _), hsilent, Bool.false_or, List.isEmpty_iff,
          Walked.reach, consumedCalls_of_never hnext, cursorAfter_nil, ← hpassage]
        constructor
        · intro h
          exact h.1
        · intro hsame
          rw [hsame]
          exact ⟨rfl, (ih _).mpr (spends_of_none (hlast _))⟩

/-- An idle claim changes nothing about the steps before it exactly if it allows no calls or nothing
is left at its place. -/
theorem take_walk_eq_iff (i : Nat) (rest : List Slot) (cursor : Nat) (consumed : List Nat)
    (hx : x.IsIdle) (hsound : ∀ claim ∈ claimsOf front, claim.2.IsSound) :
    let before := (walk (front ++ rest) cursor consumed).take front.length
    ((walk (front ++ .claim i x :: rest) cursor consumed).take front.length = before ↔
      x.bounds.max = some 0 ∨
        Walked.spends (front.zip before) (Walked.reach (front.zip before) cursor) = true) := by
  intro before
  by_cases hmax : x.bounds.max = some 0
  · rw [eq_true (Or.inl hmax), iff_true]
    apply take_walk_congr
    rw [nextDemand?, if_pos hmax]
  · rw [or_iff_right hmax]
    exact take_walk_idle_iff hx hmax front cursor consumed hsound

/-- What changes nothing about the steps before it changes nothing about those behind it either. -/
theorem exists_walk_idle (hx : x.IsIdle)
    (h : (walk (front ++ .claim i x :: rest) cursor consumed).take front.length =
      (walk (front ++ rest) cursor consumed).take front.length) :
    ∃ before after : List Passage, before.length = front.length ∧
      walk (front ++ rest) cursor consumed = before ++ after ∧
      walk (front ++ .claim i x :: rest) cursor consumed = before ++ {} :: after := by
  have hwith := walk_append front (.claim i x :: rest) cursor consumed
  dsimp only at hwith
  rw [h, walk_claim, hx.passage] at hwith
  exact ⟨_, _, by simp, walk_append front rest cursor consumed, hwith⟩

/-- So an idle claim changes nothing about any step but its own exactly in that case. -/
theorem eraseIdx_walk_iff (hx : x.IsIdle) :
    (walk (front ++ .claim i x :: rest) cursor consumed).eraseIdx front.length =
        walk (front ++ rest) cursor consumed ↔
      (walk (front ++ .claim i x :: rest) cursor consumed).take front.length =
        (walk (front ++ rest) cursor consumed).take front.length := by
  constructor
  · intro h
    rw [← h, List.eraseIdx_eq_take_drop_succ, List.take_append_of_le_length (by simp),
      List.take_take, Nat.min_self]
  · intro h
    obtain ⟨before, after, hlength, hwithout, hwith⟩ := exists_walk_idle hx h
    rw [hwithout, hwith, ← hlength, List.eraseIdx_append_of_length_le (Nat.le_refl _),
      Nat.sub_self, List.eraseIdx_cons_zero]

end Walks

/-! ## Blocks -/

section Blocks

variable {b : Block} {mode : Mode} {log : List Located} {k : Nat} {x : Claim}

/-- The slots of a block are cut where a claim is put in. -/
theorem steps_inserting (mode : Mode) (log : List Located) (x : Claim) (hk : k ≤ b.items.length) :
    ∃ front rest : List Slot, front.length = k ∧ b.steps mode log = front ++ rest ∧
    (b.inserting k x).steps mode log = front ++ .claim 0 (x.demand mode 1 log) :: rest ∧
    ∀ claim ∈ claimsOf front, ∃ c ∈ b.claims, c.demand mode 1 log = claim.2 := by
  refine ⟨(b.items.take k).map (BlockItem.slot mode log),
    (b.items.drop k).map (BlockItem.slot mode log), by simp [hk], ?_, ?_, ?_⟩
  · rw [Block.steps, ← List.map_append, List.take_append_drop]
  · rw [Block.steps, Block.inserting, List.map_append, List.map_cons]
    rfl
  · intro claim hclaim
    obtain ⟨slot, hslot, hclaim⟩ := List.mem_filterMap.mp hclaim
    obtain ⟨item, hitem, rfl⟩ := List.mem_map.mp hslot
    cases item with
    | gap => cases hclaim
    | claim c =>
      have hmem : c ∈ b.claims :=
        List.mem_filterMap.mpr ⟨.claim c, List.mem_of_mem_take hitem, rfl⟩
      exact ⟨c, hmem, by rw [← Option.some.inj hclaim]⟩

theorem lastStep?_unnumbered (w : Walked) : lastStep? w.unnumbered = lastStep? w := by
  induction w with
  | nil => rfl
  | cons entry w ih =>
    obtain ⟨slot, p⟩ := entry
    cases slot with
    | gap => exact ih
    | claim i d =>
      have hrest : lastStep? (Walked.unnumbered w) = lastStep? w := ih
      show lastStep? ((.claim 0 d, p) :: Walked.unnumbered w) = _
      rw [lastStep?, lastStep?, hrest]

/-- What a block that runs once leaves at a place is seen in its slots in front of it. -/
theorem spendsAt_once {front rest : List Slot} (hin : mode.inOrder = true)
    (hone : b.iterations = 1) (hsteps : b.steps mode log = front ++ rest) :
    let before := (walk (front ++ rest) 0 []).take front.length
    b.spendsAt mode log front.length =
      Walked.spends (front.zip before) (Walked.reach (front.zip before) 0) := by
  intro before
  unfold Block.spendsAt Walked.spends
  rw [cursorAt_once hin hone hsteps, ← lastStep?_unnumbered, take_walked_once hin hone hsteps]

/-- Whether a walk found nothing and gave no claim too many calls. -/
def Walked.isSilent (w : Walked) : Prop :=
  walkMismatches w = [] ∧
    ∀ r ∈ runsOf w, r.1.overrun (positions (consumedCalls w)) r.2 = false

/-- A step at which nothing happened is not heard. -/
theorem isSilent_idle (front back : Walked) (i : Nat) (d : Demand) :
    Walked.isSilent (front ++ (.claim i d, {}) :: back) ↔ Walked.isSilent (front ++ back) := by
  have hfound : walkMismatches (front ++ (.claim i d, {}) :: back) =
      walkMismatches (front ++ back) := by
    simp [walkMismatches]
  have hconsumed : consumedCalls (front ++ (.claim i d, {}) :: back) =
      consumedCalls (front ++ back) := by
    simp [consumedCalls]
  have hnone (consumed : List Nat) : d.overrun consumed [] = false := rfl
  unfold Walked.isSilent
  rw [hfound, hconsumed, runsOf_append, runsOf_append, runsOf_claim]
  simp only [List.mem_append, List.mem_cons, or_imp, forall_and, forall_eq, hnone, true_and]

/-- The verdict on a block that runs once, its numbers aside. -/
theorem verdict_isSilent_iff (hgaps : b.items.any BlockItem.isGap = false)
    (hone : b.iterations = 1) : (b.verdict ⟨true, false⟩ log).mismatches = [] ↔
      Walked.isSilent (b.walked ⟨true, false⟩ log).unnumbered := by
  unfold Walked.isSilent
  rw [verdict_once_iff hgaps hone, walkMismatches_unnumbered, runsOf_unnumbered,
    consumedCalls_unnumbered]

/-- An idle claim in a block changes nothing about the passages of the other claims exactly if it
allows no calls or nothing is left at its place, and then nothing about the verdict. -/
theorem verdict_inserting_iff (hgaps : b.items.any BlockItem.isGap = false)
    (hone : b.iterations = 1) (hk : k ≤ b.items.length)
    (hsound : ∀ c ∈ b.claims, (c.demand ⟨true, false⟩ 1 log).IsSound)
    (hx : (x.demand ⟨true, false⟩ 1 log).IsIdle) :
    ((((b.inserting k x).walked ⟨true, false⟩ log).map (·.2)).eraseIdx k =
        (b.walked ⟨true, false⟩ log).map (·.2) ↔
      x.meant.max = some 0 ∨ b.spendsAt ⟨true, false⟩ log k = true) ∧
    (x.meant.max = some 0 ∨ b.spendsAt ⟨true, false⟩ log k = true →
      (((b.inserting k x).verdict ⟨true, false⟩ log).mismatches = [] ↔
        (b.verdict ⟨true, false⟩ log).mismatches = [])) := by
  obtain ⟨front, rest, rfl, hsteps, hsteps', hclaims⟩ :=
    steps_inserting ⟨true, false⟩ log x hk
  -- What the walk needs of the block holds of the longer one as well.
  have hone' : (b.inserting front.length x).iterations = 1 := hone
  have hgaps' : (b.inserting front.length x).items.any BlockItem.isGap = false := by
    rw [Block.inserting, List.any_append, List.any_cons, ← hgaps]
    conv => rhs; rw [← List.take_append_drop front.length b.items, List.any_append]
    rfl
  have hfront : ∀ claim ∈ claimsOf front, claim.2.IsSound := by
    intro claim hclaim
    obtain ⟨c, hc, hdemand⟩ := hclaims claim hclaim
    exact hdemand ▸ hsound c hc
  have hiff := take_walk_eq_iff 0 rest 0 [] hx hfront
  dsimp only at hiff
  rw [x.bounds_demand rfl, ← spendsAt_once rfl hone hsteps] at hiff
  refine ⟨?_, fun hcond => ?_⟩
  · rw [passages_once rfl hone, passages_once rfl hone', hsteps, hsteps', eraseIdx_walk_iff hx]
    exact hiff
  · -- With the condition, the two walks differ by one idle passage, which stays silent.
    obtain ⟨before, after, hlength, hwithout, hwith⟩ := exists_walk_idle hx (hiff.mpr hcond)
    rw [verdict_isSilent_iff hgaps hone, verdict_isSilent_iff hgaps' hone', walked_once rfl hone,
      walked_once rfl hone', hsteps, hsteps', hwithout, hwith, List.zip_append hlength.symm,
      List.zip_append hlength.symm, List.zip_cons_cons]
    exact isSilent_idle ..

/-- The claims of the longer block. -/
theorem mem_claims_inserting {c : Claim} : c ∈ (b.inserting k x).claims ↔ c = x ∨ c ∈ b.claims := by
  have hclaims : b.claims = claimsAmong (b.items.take k) ++ claimsAmong (b.items.drop k) := by
    rw [claimsAmong, claimsAmong, ← List.filterMap_append, List.take_append_drop]
    rfl
  have hmore : (b.inserting k x).claims =
      claimsAmong (b.items.take k) ++ x :: claimsAmong (b.items.drop k) :=
    List.filterMap_append
  rw [hmore, hclaims, List.mem_append, List.mem_append, List.mem_cons]
  exact or_left_comm

/-- A claim that needs no calls and describes none of a log is idle there. -/
theorem isIdle_demand (hin : mode.inOrder = true) (hmin : x.meant.min = 0)
    (hidle : ∀ p ∈ log, x.pattern.describes p.2 = false) (n : Nat) :
    (x.demand mode n log).IsIdle where
  calls := by
    rw [Claim.demand, locate_calls]
    exact List.filter_eq_nil_iff.mpr fun p hp => Bool.eq_false_iff.mp (hidle p hp)
  min := by
    rw [x.bounds_demand hin]
    exact hmin

end Blocks

namespace Session

variable {s : Session} {b : Block} {k : Nat} {x : Claim}

/-- A block is admitted with a well-formed claim that fails on no call as it is without. -/
theorem admits_inserting_iff
    (hwell : (b.inserting k x).isWellFormed s.declares s.log.entries ⟨true, false⟩ = true)
    (hlength : (b.inserting k x).isTooLong ⟨true, false⟩ = false)
    (hanswers : ∀ p ∈ s.logged, ∃ answer, x.pattern.accepts p.2 = .ok answer) :
    s.Admits ⟨true, false⟩ (b.inserting k x) ↔ s.Admits ⟨true, false⟩ b := by
  obtain ⟨hiter, hvalid, -⟩ := prepare_of_isWellFormed hwell
  -- Without the claim the block is shorter, so it is not too long either.
  have hshorter : b.items.length ≤ (b.inserting k x).items.length := by
    simp only [Block.inserting, List.length_append, List.length_take, List.length_cons,
      List.length_drop]
    omega
  have hshort : b.isTooLong ⟨true, false⟩ = false := by
    simp only [Block.isTooLong, Bool.true_and, decide_eq_false_iff_not, Nat.not_lt] at hlength ⊢
    exact Nat.le_trans (Nat.mul_le_mul_right b.iterations hshorter) hlength
  constructor
  · intro h
    exact ⟨h.isOpen, h.pending, hshort, hiter, Or.inl rfl,
      fun c hc => hvalid c (mem_claims_inserting.mpr (Or.inr hc)),
      fun c hc => h.faultless c (mem_claims_inserting.mpr (Or.inr hc))⟩
  · intro h
    refine ⟨h.isOpen, h.pending, hlength, hiter, Or.inl rfl, hvalid, ?_⟩
    intro c hc
    rcases mem_claims_inserting.mp hc with rfl | hmem
    · exact hanswers
    · exact h.faultless c hmem

/-- A claim that needs no calls and has none is put into a block. What the other claims consume, and
what is found at them, stays the same exactly if the claim allows no calls or nothing is left at
its place. The verdict then stays the same as well. -/
theorem passes_inserting
    (hwell : (b.inserting k x).isWellFormed s.declares s.log.entries ⟨true, false⟩ = true)
    (hlength : (b.inserting k x).isTooLong ⟨true, false⟩ = false)
    (hgaps : b.items.any BlockItem.isGap = false) (hone : b.iterations = 1)
    (hk : k ≤ b.items.length) (hmin : x.meant.min = 0)
    (hidle : ∀ p ∈ s.logged, x.pattern.accepts p.2 = .ok false) :
    ((((b.inserting k x).walked ⟨true, false⟩ s.logged).map (·.2)).eraseIdx k =
        (b.walked ⟨true, false⟩ s.logged).map (·.2) ↔
      x.meant.max = some 0 ∨ b.spendsAt ⟨true, false⟩ s.logged k = true) ∧
    (x.meant.max = some 0 ∨ b.spendsAt ⟨true, false⟩ s.logged k = true →
      (s.passes ⟨true, false⟩ (b.inserting k x) = true ↔ s.passes ⟨true, false⟩ b = true)) := by
  have hsound : ∀ c ∈ b.claims, (c.demand ⟨true, false⟩ 1 s.logged).IsSound := by
    intro c hc
    have hc : c.IsValid s.declares :=
      (prepare_of_isWellFormed hwell).2.1 c (mem_claims_inserting.mpr (Or.inr hc))
    exact isSound_demand rfl hc.consistent
  have hnone : ∀ p ∈ s.logged, x.pattern.describes p.2 = false := by
    intro p hp
    unfold Pattern.describes
    rw [hidle p hp]
  -- A claim that nothing in the log matches, and that asks for nothing, is idle.
  have hx : (x.demand ⟨true, false⟩ 1 s.logged).IsIdle := isIdle_demand rfl hmin hnone 1
  obtain ⟨hpassages, hverdict⟩ := verdict_inserting_iff hgaps hone hk hsound hx
  refine ⟨hpassages, fun hcond => ?_⟩
  rw [passes_iff, passes_iff, hverdict hcond,
    admits_inserting_iff hwell hlength fun p hp => ⟨false, hidle p hp⟩]

/-- An entrance that may be opened often and is closed once. -/
def entrance : Block :=
  ⟨[.claim (.nullary "Door" "open" ⟨some 1, none⟩), .claim (.nullary "Door" "close" {})], 1⟩

/-- Knocks that may come or not. -/
def knocking : Claim := .nullary "Door" "knock" ⟨some 0, none⟩

/-- Nobody knocks, and the door is not opened again after it was closed. -/
theorem passes_inserting_knocking :
    let s := called "Door" ["open", "open", "close"]
    entrance.spendsAt ⟨true, false⟩ s.logged 1 = true ∧
      (s.passes ⟨true, false⟩ (entrance.inserting 1 knocking) = true ↔
        s.passes ⟨true, false⟩ entrance = true) := by
  intro s
  have hspends : entrance.spendsAt ⟨true, false⟩ s.logged 1 = true := by decide +kernel
  exact ⟨hspends, (passes_inserting (by decide +kernel) (by decide) (by decide) rfl (by decide) rfl
    (by decide +kernel)).2 (Or.inr hspends)⟩

/-- The door is opened again after it was closed. Without a claim about knocks the run of the first
claim ends where the door is closed; with one it goes on to the end, and the close lies behind. -/
theorem not_passes_inserting_knocking :
    let s := called "Door" ["open", "close", "open"]
    (entrance.inserting 1 knocking).isWellFormed s.declares s.log.entries ⟨true, false⟩ = true ∧
      entrance.items.any BlockItem.isGap = false ∧ entrance.iterations = 1 ∧
      knocking.meant.min = 0 ∧ (∀ p ∈ s.logged, knocking.pattern.accepts p.2 = .ok false) ∧
      s.passes ⟨true, false⟩ entrance = true ∧
      s.passes ⟨true, false⟩ (entrance.inserting 1 knocking) = false := by
  decide +kernel

/-- The other way round: a second close is one too many, and with a claim about knocks both of them
lie behind a cursor that a claim of at most one close does not mind. -/
example :
    let s := called "Door" ["open", "close", "open", "close"]
    let b : Block := ⟨[.claim (.nullary "Door" "open" ⟨some 1, none⟩),
      .claim (.nullary "Door" "close" ⟨some 0, some 1⟩)], 1⟩
    s.passes ⟨true, false⟩ b = false ∧ s.passes ⟨true, false⟩ (b.inserting 1 knocking) = true := by
  decide +kernel

end Session

end Understudy

import Understudy.Proofs.Session.Telling
import Understudy.Proofs.Verification.Gaps

/-!
# What the handlers of a block see

A claim may ask to see the calls that it accounts for (`Claim.observed`); its handler is then run
on them, whether or not the check found anything wrong. `Block.Owes` says which calls those are:
if the order does not matter, all that the claim describes, and in an in-order block the ones
that its steps consumed, over all iterations.

The walk of an in-order block never goes back, so what it consumes is in log order and no call
is consumed twice, wherever it fails (`consumed_walk`). Hence what one claim consumed is in log
order as well, and no two claims share a call (`disjoint_consumedBy`).

One kind of verification runs no handler at all: an in-order block that is well formed but has too
many slots to be written out panics. `handsOver_iff` says that nothing else stands between a
handler and its calls, and `not_handsOver_longWatch` is a block whose handler is not run.
-/

namespace Understudy

/-- Calls that are owed to the handler of a claim, which has the given index: calls of the log that
the claim describes, in the order of the log and each once. If the order does not matter they are
all such calls; in an in-order block they are those that the steps of the claim consumed. -/
structure Block.Owes (b : Block) (mode : Mode) (log : List Located) (i : Nat) (c : Claim)
    (given : List Located) : Prop where
  ascending : given.Pairwise (·.1 < ·.1)
  described : ∀ p ∈ given, p ∈ log ∧ c.pattern.describes p.2 = true
  counted : mode.inOrder = false → ∀ p ∈ log, c.pattern.describes p.2 = true → p ∈ given
  consumed : mode.inOrder = true → ∀ p, p ∈ given ↔
    ∃ d passage, (Slot.claim i d, passage) ∈ b.walked mode log ∧ p ∈ passage.run

/-- The calls that a block accounts for with the claim that has the given index. -/
def Block.accounted (b : Block) (mode : Mode) (log : List Located) (i : Nat) : List Located :=
  if mode.inOrder then consumedBy i (b.walked mode log)
  else ((b.claims[i]?).map (·.matching log)).getD []

namespace Session

/-- The calls that the handler of a claim is run on in a verification, the claim having the given
index. -/
def seenBy (s : Session) (mode : Mode) (b : Block) (i : Nat) : List Invocation :=
  match (s.verify mode b).1 with
  | .ok verdict => (verdict.handed.filter (·.1 = i)).flatMap (·.2)
  | .error _ => []

/-- The handlers of a verification are run on the calls they are owed, and in an in-order block no
call goes to two of them. -/
def HandsOver (s : Session) (mode : Mode) (b : Block) : Prop :=
  ∃ given : Nat → List Located,
    (∀ i c, b.claims[i]? = some c → c.observed = true →
      b.Owes mode s.logged i c (given i) ∧ s.seenBy mode b i = (given i).map (·.2)) ∧
    (mode.inOrder = true → ∀ i j, i ≠ j → (given i).Disjoint (given j))

end Session

variable {mode : Mode} {n i : Nat} {log : List Located} {b : Block} {c : Claim}

/-! ## The claims of a block and their slots -/

/-- The slots of a block hold its claims in their order. -/
theorem claimsOf_slotsOf (items : List BlockItem) (i : Nat) :
    claimsOf (slotsOf mode n log i items) =
      ((claimsAmong items).zipIdx i).map fun (c, k) => (k, c.demand mode n log) := by
  induction items generalizing i with
  | nil => rfl
  | cons item rest ih =>
    cases item with
    | gap => exact ih i
    | claim c => exact congrArg ((i, c.demand mode n log) :: ·) (ih (i + 1))

/-- A slot with a certain index holds the claim with that index. -/
theorem mem_claimsOf_slotsOf {d : Demand} :
    (i, d) ∈ claimsOf (slotsOf mode n log 0 b.items) ↔
      ∃ c, b.claims[i]? = some c ∧ c.demand mode n log = d := by
  rw [claimsOf_slotsOf, List.mem_map]
  constructor
  · rintro ⟨⟨c, k⟩, hmem, heq⟩
    cases heq
    exact ⟨c, List.mem_zipIdx_iff_getElem?.mp hmem, rfl⟩
  · rintro ⟨c, hc, rfl⟩
    exact ⟨(c, i), List.mem_zipIdx_iff_getElem?.mpr hc, rfl⟩

/-- No two claims of a block have the same index. -/
theorem nodup_indices_slotsOf (items : List BlockItem) :
    ((claimsOf (slotsOf mode n log 0 items)).map (·.1)).Nodup := by
  rw [indices_slotsOf]
  exact List.nodup_range'

/-- An index tells one claim from all others. -/
theorem filter_index_eq {claims : List (Nat × Demand)} {d : Demand}
    (hnodup : (claims.map (·.1)).Nodup) (hmem : (i, d) ∈ claims) :
    claims.filter (·.1 = i) = [(i, d)] := by
  induction claims with
  | nil => cases hmem
  | cons claim claims ih =>
    obtain ⟨hnew, hrest⟩ := List.nodup_cons.mp hnodup
    rcases List.mem_cons.mp hmem with rfl | hin
    · rw [List.filter_cons_of_pos (by simp)]
      refine congrArg _ (List.filter_eq_nil_iff.mpr fun other hother hsame => hnew ?_)
      exact List.mem_map.mpr ⟨other, hother, of_decide_eq_true hsame⟩
    · have hne : claim.1 ≠ i := fun heq => hnew (List.mem_map.mpr ⟨(i, d), hin, heq.symm⟩)
      rw [List.filter_cons_of_neg (by simpa using hne)]
      exact ih hrest hin

/-- The calls that are handed over under an index are those of the claim with that index. -/
theorem filter_handOver {claims : List (Nat × Demand)} {calls : Nat × Demand → List Located}
    {d : Demand} (hnodup : (claims.map (·.1)).Nodup) (hmem : (i, d) ∈ claims)
    (hobserved : d.observed = true) :
    (handOver claims calls).filter (·.1 = i) = [(i, (calls (i, d)).map (·.2))] := by
  have hone : (claims.filter (·.2.observed)).filter (·.1 = i) = [(i, d)] := by
    rw [List.filter_comm, filter_index_eq hnodup hmem]
    exact List.filter_cons_of_pos hobserved
  rw [handOver, List.filter_map]
  exact congrArg _ hone

/-! ## What a claim consumes -/

/-- What one claim consumed is part of what was consumed. -/
theorem consumedBy_sublist (i : Nat) (w : Walked) : (consumedBy i w).Sublist (consumedCalls w) := by
  induction w with
  | nil => exact List.Sublist.slnil
  | cons entry w ih =>
    obtain ⟨slot, passage⟩ := entry
    refine List.Sublist.append ?_ ih
    dsimp only
    split
    · exact List.Sublist.refl _
    · exact List.nil_sublist _

/-- A claim consumed what its slots did. -/
theorem mem_consumedBy_iff {w : Walked} {p : Located} : p ∈ consumedBy i w ↔
    ∃ d passage, (Slot.claim i d, passage) ∈ w ∧ p ∈ passage.run := by
  rw [consumedBy, List.mem_flatMap]
  constructor
  · rintro ⟨⟨slot, passage⟩, hmem, hp⟩
    cases slot with
    | gap => cases hp
    | claim j d =>
      by_cases hj : j = i
      · subst hj
        exact ⟨d, passage, hmem, by simpa [Slot.claim?] using hp⟩
      · simp [Slot.claim?, hj] at hp
  · rintro ⟨d, passage, hmem, hp⟩
    exact ⟨_, hmem, by simpa [Slot.claim?] using hp⟩

/-- No call is consumed by two claims if none is consumed twice. -/
theorem disjoint_consumedBy {w : Walked} (h : (consumedCalls w).Nodup) {i j : Nat} (hij : i ≠ j) :
    (consumedBy i w).Disjoint (consumedBy j w) := by
  intro p hi hj
  obtain ⟨d, passage, hd, hp⟩ := mem_consumedBy_iff.mp hi
  obtain ⟨e, passage', he, hq⟩ := mem_consumedBy_iff.mp hj
  have hne : (Slot.claim i d, passage) ≠ (Slot.claim j e, passage') := by
    intro heq
    cases heq
    exact hij rfl
  have hsymm : Std.Symm (Function.onFun List.Disjoint fun entry : Slot × Passage => entry.2.run) :=
    ⟨fun _ _ hab => fun _ hb ha => hab ha hb⟩
  exact (List.nodup_flatMap.mp h).2.forall hd he hne hp hq

/-- A claim consumes calls of its own. -/
theorem mem_calls_of_run {slots : List Slot} {cursor : Nat} {consumed : List Nat} {d : Demand}
    {passage : Passage} (h : (Slot.claim i d, passage) ∈ slots.zip (walk slots cursor consumed)) :
    passage.run.Sublist d.calls := by
  induction slots generalizing cursor consumed with
  | nil => cases h
  | cons slot slots ih =>
    cases slot with
    | gap =>
      rcases List.mem_cons.mp h with heq | hin
      · cases heq
      · exact ih hin
    | claim j e =>
      rw [walk_claim, List.zip_cons_cons] at h
      rcases List.mem_cons.mp h with heq | hin
      · cases heq
        exact Demand.run_passage_sublist.trans List.filter_sublist
      · exact ih hin

/-- The calls that a claim consumed are calls of the log that it describes. -/
theorem described_of_mem_consumedBy (hc : b.claims[i]? = some c) {p : Located}
    (hp : p ∈ consumedBy i (b.walked mode log)) : p ∈ log ∧ c.pattern.describes p.2 = true := by
  obtain ⟨d, passage, hmem, hrun⟩ := mem_consumedBy_iff.mp hp
  have hslot : Slot.claim i d ∈ slotsOf mode b.iterations log 0 b.items :=
    mem_of_mem_writtenOut (List.of_mem_zip hmem).1
  have hclaim : (i, d) ∈ claimsOf (slotsOf mode b.iterations log 0 b.items) :=
    List.mem_filterMap.mpr ⟨_, hslot, rfl⟩
  obtain ⟨c', hc', rfl⟩ := mem_claimsOf_slotsOf.mp hclaim
  cases hc.symm.trans hc'
  exact Claim.mem_calls_demand.mp ((mem_calls_of_run hmem).subset hrun)

/-- A claim that needs no call takes what is left if it comes last, so a walk that consumed nothing
had no calls for it. -/
theorem calls_eq_nil_of_consumedCalls {front : List Slot} {d : Demand} (hmin : d.bounds.min = 0)
    (hmax : d.bounds.max ≠ some 0)
    (h : consumedCalls (walkFromStart (front ++ [.claim i d])) = []) : d.calls = [] := by
  have hwalk := walk_append front [.claim i d] 0 []
  have hlength : ((walk (front ++ [.claim i d]) 0 []).take front.length).length =
      front.length := by
    rw [List.length_take, length_walk, List.length_append]
    omega
  dsimp only at hwalk
  generalize (walk (front ++ [.claim i d]) 0 []).take front.length = before at hwalk hlength
  rw [walkFromStart, hwalk, List.zip_append hlength.symm, consumedCalls, List.flatMap_append] at h
  obtain ⟨hfront, hlast⟩ := List.append_eq_nil_iff.mp h
  -- Nothing was consumed in front, so the cursor still stands at the start of the log.
  have hreach : Walked.reach (front.zip before) 0 = 0 := by
    rw [Walked.reach, consumedCalls, hfront, cursorAfter_nil]
  have henough : ¬ (d.ahead 0).length < d.bounds.min := by
    rw [hmin]
    exact Nat.not_lt_zero _
  rw [hreach, walk_claim, Demand.passage_of_enough hmax henough] at hlast
  have hrun : d.run 0 [] = d.calls := by
    simp [Demand.run, Demand.ahead, nextDemand?]
  rw [← hrun]
  exact (List.append_eq_nil_iff.mp hlast).1

/-- However often such a claim is written out alone, it consumes calls if it has any. -/
theorem calls_eq_nil_of_consumedBy {d : Demand} (hn : n ≠ 0) (hmin : d.bounds.min = 0)
    (hmax : d.bounds.max ≠ some 0)
    (h : consumedBy i (walkFromStart (writtenOut n [.claim i d])) = []) : d.calls = [] := by
  have hone : consumedBy i (walkFromStart (writtenOut n [.claim i d])) =
      consumedCalls (walkFromStart (writtenOut n [.claim i d])) := by
    refine List.flatMap_congr fun entry hentry => if_pos ?_
    have hslot := mem_of_mem_writtenOut (List.of_mem_zip hentry).1
    rw [List.mem_singleton.mp hslot]
    exact decide_eq_true rfl
  obtain ⟨m, rfl⟩ := Nat.exists_eq_succ_of_ne_zero hn
  rw [hone, writtenOut_succ'] at h
  exact calls_eq_nil_of_consumedCalls hmin hmax h

/-! ## What is handed over -/

/-- What a block accounts for with a claim is owed to its handler. -/
theorem owes_accounted {declares : String → Bool} {entries : List Invocation}
    (h : b.isWellFormed declares entries mode = true) (hc : b.claims[i]? = some c) :
    b.Owes mode (locatedCalls entries) i c (b.accounted mode (locatedCalls entries) i) := by
  cases hin : mode.inOrder with
  | true =>
    have hvalid := (prepare_of_isWellFormed h).2.1
    rw [Block.accounted, if_pos hin]
    exact
      { ascending := (ascending_walked entries hin hvalid).sublist (consumedBy_sublist i _)
        described := fun p hp => described_of_mem_consumedBy hc hp
        counted := fun hout => absurd (hin.symm.trans hout) nofun
        consumed := fun _ p => mem_consumedBy_iff }
  | false =>
    rw [Block.accounted, if_neg (by simp [hin]), hc, Option.map_some, Option.getD_some]
    exact
      { ascending := (locatedCalls_pairwise entries).filter _
        described := fun p hp => List.mem_filter.mp hp
        counted := fun _ p hp hd => List.mem_filter.mpr ⟨hp, hd⟩
        consumed := fun hin' => absurd (hin.symm.trans hin') nofun }

/-- A check hands over what it accounts for, whatever it found. -/
theorem handed_check {declares : String → Bool} {entries : List Invocation}
    (h : b.isWellFormed declares entries mode = true) (hc : b.claims[i]? = some c)
    (hobserved : c.observed = true) :
    (b.check declares entries mode).handed.filter (·.1 = i) =
      [(i, (b.accounted mode (locatedCalls entries) i).map (·.2))] := by
  obtain ⟨-, -, hslots⟩ := prepare_of_isWellFormed h
  have hmem : (i, c.demand mode b.iterations (locatedCalls entries)) ∈
      claimsOf (slotsOf mode b.iterations (locatedCalls entries) 0 b.items) :=
    mem_claimsOf_slotsOf.mpr ⟨c, hc, rfl⟩
  unfold Block.check
  dsimp only
  rw [hslots]
  dsimp only
  cases hin : mode.inOrder with
  | true =>
    rw [if_pos rfl, Block.accounted, if_pos hin]
    exact filter_handOver (nodup_indices_slotsOf _) hmem hobserved
  | false =>
    rw [if_neg Bool.false_ne_true, Block.accounted, if_neg (by simp [hin]), hc, Option.map_some,
      Option.getD_some, ← c.calls_demand mode b.iterations]
    exact filter_handOver (nodup_indices_slotsOf _) hmem hobserved

namespace Session

variable {s : Session}

/-- The handlers of a block that is not too long are run on what it accounts for. -/
theorem seenBy_of_isOpen (ho : s.IsOpen)
    (hwell : b.isWellFormed s.declares s.log.entries mode = true)
    (hshort : b.isTooLong mode = false) (hc : b.claims[i]? = some c)
    (hobserved : c.observed = true) :
    s.seenBy mode b i = (b.accounted mode s.logged i).map (·.2) := by
  unfold seenBy
  rw [verify_of_isOpen ho, hshort, Bool.false_and, if_neg Bool.false_ne_true]
  dsimp only
  rw [handed_check hwell hc hobserved]
  exact List.append_nil _

/-- If it is too long, none of them is run. -/
theorem seenBy_of_isTooLong (ho : s.IsOpen)
    (hwell : b.isWellFormed s.declares s.log.entries mode = true)
    (hlong : b.isTooLong mode = true) (i : Nat) : s.seenBy mode b i = [] := by
  unfold seenBy
  rw [verify_of_isOpen ho, hlong, hwell, Bool.and_self, if_pos rfl]

theorem inOrder_of_isTooLong (h : b.isTooLong mode = true) : mode.inOrder = true :=
  (Bool.and_eq_true_iff.mp h).1

/-- In a verification of a well-formed block, whether or not it succeeds, every handler is run on
the calls it is owed, unless the block is too long to be written out; then none is run, which
matters if an observed claim would have consumed calls. -/
theorem handsOver_iff (ho : s.IsOpen)
    (hwell : b.isWellFormed s.declares s.log.entries mode = true) :
    s.HandsOver mode b ↔ (b.isTooLong mode = true → ∀ i c, b.claims[i]? = some c →
      c.observed = true → consumedBy i (b.walked mode s.logged) = []) := by
  constructor
  · rintro ⟨given, hgiven, -⟩ hlong i c hc hobserved
    obtain ⟨howes, hseen⟩ := hgiven i c hc hobserved
    -- A block that is too long panics before its handlers run, so they see nothing.
    rw [seenBy_of_isTooLong ho hwell hlong] at hseen
    have hnone : given i = [] := List.map_eq_nil_iff.mp hseen.symm
    refine List.eq_nil_iff_forall_not_mem.mpr fun p hp => ?_
    have hgave := (howes.consumed (inOrder_of_isTooLong hlong) p).mpr (mem_consumedBy_iff.mp hp)
    rw [hnone] at hgave
    cases hgave
  · intro h
    refine ⟨b.accounted mode s.logged, ?_, ?_⟩
    · intro i c hc hobserved
      refine ⟨owes_accounted hwell hc, ?_⟩
      cases hlong : b.isTooLong mode with
      | false => exact seenBy_of_isOpen ho hwell hlong hc hobserved
      | true =>
        rw [seenBy_of_isTooLong ho hwell hlong, Block.accounted,
          if_pos (inOrder_of_isTooLong hlong), h hlong i c hc hobserved, List.map_nil]
    · intro hin i j hij
      have hwalk := ascending_walked s.log.entries hin (prepare_of_isWellFormed hwell).2.1
      rw [Block.accounted, Block.accounted, if_pos hin, if_pos hin]
      exact disjoint_consumedBy (nodup_of_ascending hwalk) hij

/-- A claim about the calls of a method of a door, which the test wants to see. -/
def watching (method : String) (q : Quantifier) : Claim :=
  { Claim.nullary "Door" method q with observed := true }

/-- Twice the door is opened and knocked on, as often as anyone likes to. -/
def watch : Block where
  items := [.claim (watching "open" {}), .claim (watching "knock" ⟨some 0, none⟩)]
  iterations := 2

/-- The check fails for want of a second opening, and the handlers see what was consumed. -/
theorem handsOver_iff_watch :
    (called "Door" ["knock", "open", "knock"]).HandsOver ⟨true, false⟩ watch ∧
    (called "Door" ["knock", "open", "knock"]).passes ⟨true, false⟩ watch = false ∧
    ((called "Door" ["knock", "open", "knock"]).seenBy ⟨true, false⟩ watch 0).map (·.seq) = [1] ∧
    ((called "Door" ["knock", "open", "knock"]).seenBy ⟨true, false⟩ watch 1).map (·.seq) =
      [2] := by
  have hwell : watch.isWellFormed (called "Door" ["knock", "open", "knock"]).declares
      (called "Door" ["knock", "open", "knock"]).log.entries ⟨true, false⟩ = true := by
    decide +kernel
  refine ⟨(handsOver_iff (by decide +kernel) hwell).mpr ?_, ?_, ?_, ?_⟩
  · intro hlong
    exact absurd hlong (by decide)
  · decide +kernel
  · decide +kernel
  · decide +kernel

/-- A block that allows a door to be opened once in each of a great many rounds. -/
def longWatch : Block where
  items := [.claim (watching "open" ⟨some 0, some 1⟩)]
  iterations := 1152921504606846976

/-- The block is well formed and the door was opened, but the handler does not see it. -/
theorem not_handsOver_longWatch : (called "Door" ["open"]).IsOpen ∧
    longWatch.isWellFormed (called "Door" ["open"]).declares
      (called "Door" ["open"]).log.entries ⟨true, false⟩ = true ∧
    (called "Door" ["open"]).seenBy ⟨true, false⟩ longWatch 0 = [] ∧
    ¬ (called "Door" ["open"]).HandsOver ⟨true, false⟩ longWatch := by
  have ho : (called "Door" ["open"]).IsOpen := by decide +kernel
  have hwell : longWatch.isWellFormed (called "Door" ["open"]).declares
      (called "Door" ["open"]).log.entries ⟨true, false⟩ = true := by decide +kernel
  have hlong : longWatch.isTooLong ⟨true, false⟩ = true := by decide
  refine ⟨ho, hwell, seenBy_of_isTooLong ho hwell hlong 0, fun h => ?_⟩
  have hnone := (handsOver_iff ho hwell).mp h hlong 0 _ rfl rfl
  have hcalls := calls_eq_nil_of_consumedBy (by decide) rfl (by decide) hnone
  have hopened : (Claim.matching (watching "open" ⟨some 0, some 1⟩)
      (called "Door" ["open"]).logged).length = 1 := by decide +kernel
  rw [Claim.calls_demand] at hcalls
  rw [hcalls] at hopened
  cases hopened

end Session

end Understudy

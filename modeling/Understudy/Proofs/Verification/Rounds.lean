import Understudy.Proofs.Verification.InOrder

/-!
# Iterations and blocks that are spelled out

A block that runs several times is checked like the block that has its items as many times
in a row, but for one thing: in the block that is spelled out every claim is the last of its
own, and is charged with the calls that trail behind its run; in the block that iterates only
the claims of the last round are. The main theorem says exactly what is lost: the spelled-out
block passes if and only if the iterated one does and no claim of an earlier round has an
overrun (`Demand.overrun`). There are logs on which the two differ.

Slots of the two blocks differ in nothing but their numbers, and no part of a walk but the
second pass looks at those; `unnumbered` forgets them. Without them the places of a walk through
a block that runs once are the places of the block (`walked_once`).
-/

namespace Understudy

/-- A slot without the number of its claim. -/
def Slot.unnumbered : Slot → Slot
  | .gap => .gap
  | .claim _ d => .claim 0 d

/-- A walk without the numbers of its claims. -/
def Walked.unnumbered (w : Walked) : Walked := w.map fun entry => (entry.1.unnumbered, entry.2)

/-! ## What does not depend on the numbers -/

theorem nextDemand?_unnumbered (slots : List Slot) :
    nextDemand? (slots.map Slot.unnumbered) = nextDemand? slots := by
  induction slots with
  | nil => rfl
  | cons slot rest ih =>
    cases slot with
    | gap => exact ih
    | claim i d =>
      rw [List.map_cons, Slot.unnumbered, nextDemand?, nextDemand?, ih]

theorem walk_unnumbered (slots : List Slot) (cursor : Nat) (consumed : List Nat) :
    walk (slots.map Slot.unnumbered) cursor consumed = walk slots cursor consumed := by
  induction slots generalizing cursor consumed with
  | nil => rfl
  | cons slot rest ih =>
    cases slot with
    | gap => exact congrArg _ (ih cursor consumed)
    | claim i d =>
      simp only [List.map_cons, Slot.unnumbered, walk, ih, Demand.run, nextDemand?_unnumbered]

theorem walkFromStart_unnumbered (slots : List Slot) :
    walkFromStart (slots.map Slot.unnumbered) = Walked.unnumbered (walkFromStart slots) := by
  rw [walkFromStart, walk_unnumbered, List.zip_map_left]
  rfl

section Unnumbered

variable (w : Walked)

theorem runsOf_unnumbered : runsOf w.unnumbered = runsOf w := by
  induction w with
  | nil => rfl
  | cons entry w ih =>
    obtain ⟨slot, p⟩ := entry
    cases slot with
    | gap => exact ih
    | claim i d => exact congrArg ((d, p.run) :: ·) ih

theorem walkMismatches_unnumbered : walkMismatches w.unnumbered = walkMismatches w := by
  rw [walkMismatches, Walked.unnumbered, List.filterMap_map]
  refine List.filterMap_congr fun entry _ => ?_
  obtain ⟨slot, p⟩ := entry
  cases slot <;> rfl

theorem consumedCalls_unnumbered : consumedCalls w.unnumbered = consumedCalls w := by
  rw [consumedCalls, Walked.unnumbered, List.flatMap_map]
  rfl

theorem stretches_unnumbered : stretches w.unnumbered = stretches w := by
  induction w with
  | nil => rfl
  | cons entry w ih =>
    obtain ⟨slot, p⟩ := entry
    cases slot with
    | gap => exact congrArg ([] :: ·) ih
    | claim i d =>
      -- A claim lengthens the first stretch of the rest.
      have hrest : stretches (Walked.unnumbered w) = stretches w := ih
      show stretches ((.claim 0 d, p) :: Walked.unnumbered w) = _
      rw [stretches, stretches, hrest]

end Unnumbered

/-! ## Writing out a block -/

/-- The block with its items as many times in a row as it iterates. -/
def Block.spelledOut (b : Block) : Block := { items := writtenOut b.iterations b.items }

section SpelledOut

variable {mode : Mode} {n i : Nat} {log : List Located} {items : List BlockItem}

theorem claimsAmong_writtenOut (n : Nat) (items : List BlockItem) :
    claimsAmong (writtenOut n items) = writtenOut n (claimsAmong items) :=
  filterMap_writtenOut BlockItem.claim? n items

theorem any_writtenOut {α : Type} {p : α → Bool} {n : Nat} {round : List α} (hn : n ≠ 0) :
    (writtenOut n round).any p = round.any p := by
  rw [Bool.eq_iff_iff, List.any_eq_true, List.any_eq_true]
  exact exists_congr fun x => and_congr_left' (mem_writtenOut_iff hn)

/-- The slot that an item stands for, its number aside. -/
def BlockItem.slot (mode : Mode) (log : List Located) : BlockItem → Slot
  | .gap => .gap
  | .claim c => .claim 0 (c.demand mode 1 log)

theorem Claim.demand_of_inOrder (hin : mode.inOrder = true) (c : Claim) (m n : Nat) :
    c.demand mode m log = c.demand mode n log := by
  unfold Claim.demand
  rw [c.demanded_of_inOrder hin, c.demanded_of_inOrder hin]

/-- In order, how often a block iterates is not seen in its slots. -/
theorem slotsOf_unnumbered (hin : mode.inOrder = true) (n i : Nat) (items : List BlockItem) :
    (slotsOf mode n log i items).map Slot.unnumbered = items.map (BlockItem.slot mode log) := by
  induction items generalizing i with
  | nil => rfl
  | cons item rest ih =>
    cases item with
    | gap => exact congrArg (Slot.gap :: ·) (ih i)
    | claim c =>
      rw [slotsOf, List.map_cons, ih, Slot.unnumbered, c.demand_of_inOrder hin n 1]
      rfl

/-- The walks of the two blocks are the same but for the numbers. -/
theorem walked_spelledOut (hin : mode.inOrder = true) (b : Block) :
    (b.spelledOut.walked mode log).unnumbered = (b.walked mode log).unnumbered := by
  unfold Block.walked
  rw [← walkFromStart_unnumbered, ← walkFromStart_unnumbered, map_writtenOut, map_writtenOut,
    slotsOf_unnumbered hin, slotsOf_unnumbered hin]
  show walkFromStart (writtenOut 1 ((writtenOut b.iterations b.items).map _)) = _
  rw [writtenOut_one, map_writtenOut]

theorem consumedCalls_spelledOut (hin : mode.inOrder = true) (b : Block) :
    consumedCalls (b.spelledOut.walked mode log) = consumedCalls (b.walked mode log) := by
  rw [← consumedCalls_unnumbered, walked_spelledOut hin, consumedCalls_unnumbered]

/-- Both blocks name the same types and cover the same calls. -/
theorem any_demands_spelledOut (hin : mode.inOrder = true) {b : Block} (hn : b.iterations ≠ 0)
    (p : Demand → Bool) :
    (claimsOf (slotsOf mode 1 log 0 b.spelledOut.items)).any (fun claim => p claim.2) =
      (claimsOf (slotsOf mode b.iterations log 0 b.items)).any (fun claim => p claim.2) := by
  have hany : ∀ claims : List (Nat × Demand),
      (claims.any fun claim => p claim.2) = (claims.map (·.2)).any p :=
    fun claims => List.any_map.symm
  have hdemands : b.claims.map (·.demand mode b.iterations log) =
      b.claims.map (·.demand mode 1 log) :=
    List.map_congr_left fun c _ => c.demand_of_inOrder hin _ _
  rw [hany, hany, demands_slotsOf, demands_slotsOf, Block.spelledOut, claimsAmong_writtenOut,
    map_writtenOut, any_writtenOut hn]
  exact congrArg (List.any · p) hdemands.symm

/-- The two blocks leave the same calls unverified. -/
theorem unverified_spelledOut (hin : mode.inOrder = true) {b : Block} (hn : b.iterations ≠ 0) :
    b.spelledOut.unverified mode log = b.unverified mode log := by
  have hstretches : stretches (b.spelledOut.walked mode log) = stretches (b.walked mode log) := by
    rw [← stretches_unnumbered, walked_spelledOut hin, stretches_unnumbered]
  have hscope : inScope (claimsOf (slotsOf mode 1 log 0 b.spelledOut.items)) =
      inScope (claimsOf (slotsOf mode b.iterations log 0 b.items)) :=
    funext fun c => any_demands_spelledOut hin hn fun d => d.typeName = c.target.typeName
  have hcovered : covered (claimsOf (slotsOf mode 1 log 0 b.spelledOut.items)) =
      covered (claimsOf (slotsOf mode b.iterations log 0 b.items)) :=
    funext fun k => any_demands_spelledOut hin hn fun d => d.calls.any fun c => c.1 = k
  have hgaps : b.spelledOut.items.any BlockItem.isGap = b.items.any BlockItem.isGap :=
    any_writtenOut hn
  have hone : b.spelledOut.iterations = 1 := rfl
  unfold Block.unverified strays uncovered
  dsimp only
  rw [any_isGap_slotsOf, any_isGap_slotsOf, hgaps, hone, consumedCalls_spelledOut hin,
    hstretches, hscope, hcovered]

end SpelledOut

/-! ## Blocks that run once -/

section Once

variable {b : Block} {mode : Mode} {log : List Located} {front rest : List Slot}

/-- The slots of a block in which every claim comes once, their numbers aside. -/
def Block.steps (b : Block) (mode : Mode) (log : List Located) : List Slot :=
  b.items.map (BlockItem.slot mode log)

/-- The walk of a block that runs once, its numbers aside. -/
theorem walked_once (hin : mode.inOrder = true) (hone : b.iterations = 1) :
    (b.walked mode log).unnumbered = (b.steps mode log).zip (walk (b.steps mode log) 0 []) := by
  rw [Block.walked, ← walkFromStart_unnumbered, hone, writtenOut_one, slotsOf_unnumbered hin]
  rfl

/-- Its passages. -/
theorem passages_once (hin : mode.inOrder = true) (hone : b.iterations = 1) :
    (b.walked mode log).map (·.2) = walk (b.steps mode log) 0 [] := by
  have hmap : (b.walked mode log).map (·.2) = (b.walked mode log).unnumbered.map (·.2) := by
    simp [Walked.unnumbered]
  rw [hmap, walked_once hin hone, List.map_snd_zip (by simp)]

/-- The part of it before a place. -/
theorem take_walked_once (hin : mode.inOrder = true) (hone : b.iterations = 1)
    (hsteps : b.steps mode log = front ++ rest) :
    Walked.unnumbered ((b.walked mode log).take front.length) =
      front.zip ((walk (front ++ rest) 0 []).take front.length) := by
  have htake : Walked.unnumbered ((b.walked mode log).take front.length) =
      (b.walked mode log).unnumbered.take front.length := List.map_take
  rw [htake, walked_once hin hone, hsteps, List.zip_eq_zipWith, List.take_zipWith, List.take_left]
  rfl

/-- The cursor at a place. -/
theorem cursorAt_once (hin : mode.inOrder = true) (hone : b.iterations = 1)
    (hsteps : b.steps mode log = front ++ rest) : (b.walked mode log).cursorAt front.length =
      Walked.reach (front.zip ((walk (front ++ rest) 0 []).take front.length)) 0 := by
  unfold Walked.cursorAt Walked.reach
  rw [← take_walked_once hin hone hsteps, consumedCalls_unnumbered]

end Once

/-! ## What is lost -/

/-- The part of a walk before its last round. -/
def Block.earlierRounds (b : Block) (mode : Mode) (log : List Located) : Walked :=
  (b.walked mode log).take ((b.iterations - 1) * b.items.length)

section Lost

variable {mode : Mode} {n i : Nat} {log : List Located} {consumed : List Nat} {b : Block}

/-- Spelled out, every claim is charged in full. -/
theorem excesses_spelledOut_iff (hin : mode.inOrder = true) :
    excesses consumed (b.spelledOut.walked mode log) = [] ↔
      ∀ r ∈ runsOf (b.walked mode log), r.1.overrun consumed r.2 = false := by
  have hnodup : (indicesOf (b.spelledOut.walked mode log)).Nodup := nodup_indicesOf_walked rfl
  rw [excesses_eq_nil_iff_of_nodup hnodup, ← runsOf_unnumbered, walked_spelledOut hin,
    runsOf_unnumbered]

@[simp] theorem length_slotsOf (mode : Mode) (n : Nat) (log : List Located) (i : Nat)
    (items : List BlockItem) : (slotsOf mode n log i items).length = items.length := by
  induction items generalizing i with
  | nil => rfl
  | cons item rest ih =>
    cases item with
    | gap => exact congrArg Nat.succ (ih i)
    | claim c => exact congrArg Nat.succ (ih (i + 1))

/-- A walk is its earlier rounds and a last one. -/
theorem walked_eq_append (mode : Mode) (log : List Located) (hn : b.iterations ≠ 0) :
    ∃ front back : List Passage,
      front.length = (b.iterations - 1) * b.items.length ∧ back.length = b.items.length ∧
      b.earlierRounds mode log =
        (writtenOut (b.iterations - 1) (slotsOf mode b.iterations log 0 b.items)).zip front ∧
      b.walked mode log = b.earlierRounds mode log ++
        (slotsOf mode b.iterations log 0 b.items).zip back := by
  obtain ⟨m, hm⟩ : ∃ m, b.iterations = m + 1 := Nat.exists_eq_succ_of_ne_zero hn
  have hwalked : b.walked mode log =
      (writtenOut m (slotsOf mode b.iterations log 0 b.items) ++
        slotsOf mode b.iterations log 0 b.items).zip
        (walk (writtenOut b.iterations (slotsOf mode b.iterations log 0 b.items)) 0 []) := by
    rw [← writtenOut_succ', ← hm]
    rfl
  have hlength : (walk (writtenOut b.iterations (slotsOf mode b.iterations log 0 b.items)) 0
      []).length = m * b.items.length + b.items.length := by
    rw [length_walk, length_writtenOut, length_slotsOf, hm, Nat.succ_mul]
  -- What the walk found does not matter here, only where the last round begins in it.
  generalize walk (writtenOut b.iterations (slotsOf mode b.iterations log 0 b.items)) 0 [] =
    passages at hwalked hlength
  have hfront : (passages.take (m * b.items.length)).length = m * b.items.length := by
    rw [List.length_take, hlength]
    omega
  have hback : (passages.drop (m * b.items.length)).length = b.items.length := by
    rw [List.length_drop, hlength]
    omega
  have hsplit : b.walked mode log =
      (writtenOut m (slotsOf mode b.iterations log 0 b.items)).zip
        (passages.take (m * b.items.length)) ++
        (slotsOf mode b.iterations log 0 b.items).zip (passages.drop (m * b.items.length)) := by
    rw [hwalked, ← List.zip_append (by rw [hfront, length_writtenOut, length_slotsOf]),
      List.take_append_drop]
  have hearlier : b.earlierRounds mode log =
      (writtenOut m (slotsOf mode b.iterations log 0 b.items)).zip
        (passages.take (m * b.items.length)) := by
    rw [Block.earlierRounds, hsplit, hm]
    refine List.take_left' ?_
    rw [List.length_zip, hfront, length_writtenOut, length_slotsOf, Nat.min_self]
    rfl
  refine ⟨passages.take (m * b.items.length), passages.drop (m * b.items.length), ?_, hback, ?_,
    hearlier ▸ hsplit⟩
  · rw [hm]
    exact hfront
  · rw [hearlier, hm]
    rfl

/-- The iterated block charges its last round in full, and before it only the runs. -/
theorem excesses_walked_iff (hn : b.iterations ≠ 0) :
    (excesses consumed (b.walked mode log) = [] ∧
      ∀ r ∈ runsOf (b.earlierRounds mode log), r.1.overrun consumed r.2 = false) ↔
      ∀ r ∈ runsOf (b.walked mode log), r.1.overrun consumed r.2 = false := by
  obtain ⟨front, back, hfront, hback, hearlier, hwalked⟩ := walked_eq_append mode log hn
  have hlast : indicesOf ((slotsOf mode b.iterations log 0 b.items).zip back) =
      List.range' 0 b.claims.length := by
    rw [indicesOf_zip (by rw [hback, length_slotsOf]), indices_slotsOf]
    rfl
  -- The claims of the earlier rounds all come again in the last one.
  have hagain : ∀ i ∈ indicesOf (b.earlierRounds mode log),
      i ∈ indicesOf ((slotsOf mode b.iterations log 0 b.items).zip back) := by
    rw [hlast, hearlier, indicesOf_zip (by rw [hfront, length_writtenOut, length_slotsOf]),
      claimsOf, filterMap_writtenOut, map_writtenOut, ← claimsOf, indices_slotsOf]
    exact fun i hi => mem_of_mem_writtenOut hi
  have hnodup : (indicesOf ((slotsOf mode b.iterations log 0 b.items).zip back)).Nodup :=
    hlast ▸ List.nodup_range'
  have hruns : runsOf (b.walked mode log) = runsOf (b.earlierRounds mode log) ++
      runsOf ((slotsOf mode b.iterations log 0 b.items).zip back) := by
    rw [hwalked, runsOf_append]
  rw [hruns, List.forall_mem_append, hwalked, excesses_append_eq_nil_iff hagain,
    excesses_eq_nil_iff_of_nodup hnodup]
  constructor
  · rintro ⟨⟨-, hfull⟩, hover⟩
    exact ⟨hover, hfull⟩
  · rintro ⟨hover, hfull⟩
    exact ⟨⟨fun r hr => Demand.exceededBy_eq_false_of_overrun (hover r hr), hfull⟩, hover⟩

/-- Spelling a block out costs the earlier rounds their calls that trail behind. -/
theorem verdict_spelledOut_iff (hin : mode.inOrder = true) (hn : b.iterations ≠ 0) :
    (b.spelledOut.verdict mode log).mismatches = [] ↔
      (b.verdict mode log).mismatches = [] ∧
        ∀ r ∈ runsOf (b.earlierRounds mode log),
          r.1.overrun (positions (consumedCalls (b.walked mode log))) r.2 = false := by
  have hfindings : walkMismatches (b.spelledOut.walked mode log) =
      walkMismatches (b.walked mode log) := by
    rw [← walkMismatches_unnumbered, walked_spelledOut hin, walkMismatches_unnumbered]
  rw [verdict_inOrder_iff hin, verdict_inOrder_iff hin, hfindings, consumedCalls_spelledOut hin,
    excesses_spelledOut_iff hin, unverified_spelledOut hin hn, ← excesses_walked_iff hn]
  constructor
  · rintro ⟨hw, ⟨hexc, hover⟩, hrest⟩
    exact ⟨⟨hw, hexc, hrest⟩, hover⟩
  · rintro ⟨⟨hw, hexc, hrest⟩, hover⟩
    exact ⟨hw, ⟨hexc, hover⟩, hrest⟩

end Lost

namespace Session

variable {s : Session} {b : Block} {full : Bool}

/-- A block and its spelled-out form are admitted alike. -/
theorem admits_spelledOut_iff (hn : b.iterations ≠ 0) :
    s.Admits ⟨true, full⟩ b.spelledOut ↔ s.Admits ⟨true, full⟩ b := by
  have hclaims : ∀ c, c ∈ b.spelledOut.claims ↔ c ∈ b.claims := by
    intro c
    rw [Block.claims, Block.spelledOut, claimsAmong_writtenOut]
    exact mem_writtenOut_iff hn
  have hlength : b.spelledOut.isTooLong ⟨true, full⟩ = b.isTooLong ⟨true, full⟩ := by
    unfold Block.isTooLong
    rw [Block.spelledOut, length_writtenOut, Nat.mul_one, Nat.mul_comm]
  constructor
  · intro h
    exact ⟨h.isOpen, h.pending, hlength ▸ h.length, hn, Or.inl rfl,
      fun c hc => h.valid c ((hclaims c).mpr hc), fun c hc => h.faultless c ((hclaims c).mpr hc)⟩
  · intro h
    exact ⟨h.isOpen, h.pending, hlength ▸ h.length, Nat.one_ne_zero, Or.inl rfl,
      fun c hc => h.valid c ((hclaims c).mp hc), fun c hc => h.faultless c ((hclaims c).mp hc)⟩

/-- Verifying a block in order comes to verifying it spelled out, unless a claim of an earlier
round has an overrun: the spelled-out block then fails, and the other may pass. -/
theorem passes_spelledOut_iff (hn : b.iterations ≠ 0) :
    s.passes ⟨true, full⟩ b.spelledOut = true ↔
      s.passes ⟨true, full⟩ b = true ∧
        ∀ r ∈ runsOf (b.earlierRounds ⟨true, full⟩ s.logged), r.1.overrun
          (positions (consumedCalls (b.walked ⟨true, full⟩ s.logged))) r.2 = false := by
  rw [passes_iff, passes_iff, admits_spelledOut_iff hn, verdict_spelledOut_iff rfl hn, and_assoc]

/-- Two rounds of a knock and two answers. -/
def knocks : Block :=
  ⟨[.claim (.nullary "Door" "knock" {}), .claim (.nullary "Door" "answer" ⟨some 2, some 2⟩)], 2⟩

theorem passes_spelledOut_iff_knocks :
    (called "Door" ["knock", "answer", "answer"]).passes ⟨true, true⟩ knocks.spelledOut = true ↔
      (called "Door" ["knock", "answer", "answer"]).passes ⟨true, true⟩ knocks = true ∧
        ∀ r ∈ runsOf (knocks.earlierRounds ⟨true, true⟩
            (called "Door" ["knock", "answer", "answer"]).logged),
          r.1.overrun (positions (consumedCalls (knocks.walked ⟨true, true⟩
            (called "Door" ["knock", "answer", "answer"]).logged))) r.2 = false :=
  passes_spelledOut_iff (b := knocks) (by decide)

/-- In the first round the answers stand around a second knock. Only the spelled-out block charges
it to the first one. -/
theorem passes_iterated_only :
    let s := called "Door" ["knock", "answer", "knock", "answer", "knock", "answer", "answer"]
    knocks.iterations ≠ 0 ∧ s.passes ⟨true, false⟩ knocks = true ∧
      s.passes ⟨true, false⟩ knocks.spelledOut = false := by
  decide +kernel

end Session

end Understudy

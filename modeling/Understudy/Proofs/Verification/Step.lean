import Understudy.Verification.Check

/-!
# One step of a walk

A walk treats a claim in one of three ways, and goes on from there alike: with the cursor behind
what the claim consumed, if it consumed anything. `Demand.passage` is what it leaves at a
claim, and `walk_claim` the step. Everything later modules say about a place in the middle of
a walk comes from `walk_append`: a walk goes through the slots behind that place as it would
alone, from the cursor it has reached there (`Walked.reach`), and what it did before depends
on the slots behind by no more than the next demand among them (`take_walk_congr`).
-/

namespace Understudy

namespace Demand

variable {d : Demand} {cursor : Nat} {consumed : List Nat} {rest : List Slot}

/-- What a walk leaves at a claim, the slots `rest` following it. -/
def passage (d : Demand) (cursor : Nat) (consumed : List Nat) (rest : List Slot) : Passage :=
  if d.bounds.max = some 0 then
    { finding :=
        if (d.ahead cursor).isEmpty then none else some (.tooMany (d.ahead cursor).length) }
  else if (d.ahead cursor).length < d.bounds.min then
    { finding := some (d.shortage cursor consumed) }
  else { run := d.run cursor rest }

/-- A claim that allows no calls complains of any call ahead. -/
theorem passage_of_never (h : d.bounds.max = some 0) : d.passage cursor consumed rest =
    { finding := if (d.ahead cursor).isEmpty then none
        else some (.tooMany (d.ahead cursor).length) } := by
  rw [passage, if_pos h]

/-- A claim with too few calls ahead consumes none of them. -/
theorem passage_of_short (h : d.bounds.max ≠ some 0)
    (hshort : (d.ahead cursor).length < d.bounds.min) :
    d.passage cursor consumed rest = { finding := some (d.shortage cursor consumed) } := by
  rw [passage, if_neg h, if_pos hshort]

/-- A claim with enough calls ahead has its run. -/
theorem passage_of_enough (h : d.bounds.max ≠ some 0)
    (henough : ¬ (d.ahead cursor).length < d.bounds.min) :
    d.passage cursor consumed rest = { run := d.run cursor rest } := by
  rw [passage, if_neg h, if_neg henough]

/-- The slots behind a claim matter by the next demand among them. -/
theorem passage_congr {rest' : List Slot} (h : nextDemand? rest = nextDemand? rest') :
    d.passage cursor consumed rest = d.passage cursor consumed rest' := by
  simp only [passage, run, h]

/-- What a claim consumes are calls of its own from the cursor on. -/
theorem run_passage_sublist : (d.passage cursor consumed rest).run.Sublist (d.ahead cursor) := by
  unfold passage
  split
  · exact List.nil_sublist _
  · split
    · exact List.nil_sublist _
    · exact List.filter_sublist

end Demand

/-! ## The cursor -/

@[simp] theorem cursorAfter_nil (cursor : Nat) : cursorAfter cursor [] = cursor := rfl

/-- A cursor moves behind two runs by moving behind one and then the other. -/
theorem cursorAfter_append (cursor : Nat) (front back : List Located) :
    cursorAfter cursor (front ++ back) = cursorAfter (cursorAfter cursor front) back := by
  unfold cursorAfter
  rw [List.getLast?_append]
  cases back.getLast? with
  | none => rfl
  | some last => rfl

/-- Where a walk that began at a cursor has got to. -/
def Walked.reach (w : Walked) (cursor : Nat) : Nat := cursorAfter cursor (consumedCalls w)

/-- Where the cursor of a walk from the start of a log stands at a place. -/
def Walked.cursorAt (w : Walked) (k : Nat) : Nat := Walked.reach (w.take k) 0

/-! ## Steps -/

section Steps

variable {i : Nat} {d : Demand} {cursor : Nat} {consumed : List Nat} {front rest : List Slot}

theorem walk_gap : walk (.gap :: rest) cursor consumed = {} :: walk rest cursor consumed := rfl

/-- A walk goes on behind what a claim consumed. -/
theorem walk_claim : walk (.claim i d :: rest) cursor consumed =
    d.passage cursor consumed rest ::
      walk rest (cursorAfter cursor (d.passage cursor consumed rest).run)
        (positions (d.passage cursor consumed rest).run ++ consumed) := by
  rw [walk]
  dsimp only
  by_cases hmax : d.bounds.max = some 0
  · rw [if_pos hmax, Demand.passage_of_never hmax]
    rfl
  · rw [if_neg hmax]
    by_cases hshort : (d.ahead cursor).length < d.bounds.min
    · rw [if_pos hshort, Demand.passage_of_short hmax hshort]
      rfl
    · rw [if_neg hshort, Demand.passage_of_enough hmax hshort]

/-- The consumed positions matter as a set. -/
theorem walk_congr {consumed' : List Nat} (h : ∀ p, p ∈ consumed ↔ p ∈ consumed') :
    walk rest cursor consumed = walk rest cursor consumed' := by
  induction rest generalizing cursor consumed consumed' with
  | nil => rfl
  | cons slot rest ih =>
    cases slot with
    | gap => rw [walk_gap, walk_gap, ih h]
    | claim i d =>
      have hcontains : ∀ p, consumed.contains p = consumed'.contains p := by
        intro p
        rw [Bool.eq_iff_iff, List.contains_iff_mem, List.contains_iff_mem]
        exact h p
      have hpassage : d.passage cursor consumed rest = d.passage cursor consumed' rest := by
        simp only [Demand.passage, Demand.shortage, Demand.behind, hcontains]
      rw [walk_claim, walk_claim, hpassage]
      congr 1
      apply ih
      intro p
      rw [List.mem_append, List.mem_append, h p]

theorem consumedCalls_cons (slot : Slot) (p : Passage) (w : Walked) :
    consumedCalls ((slot, p) :: w) = p.run ++ consumedCalls w := rfl

/-- A walk through two parts is one through the first and then one through the second, from where
the first one ended. -/
theorem walk_append (front rest : List Slot) (cursor : Nat) (consumed : List Nat) :
    let before := (walk (front ++ rest) cursor consumed).take front.length
    walk (front ++ rest) cursor consumed = before ++
      walk rest (Walked.reach (front.zip before) cursor)
        (positions (consumedCalls (front.zip before)) ++ consumed) := by
  induction front generalizing cursor consumed with
  | nil => rfl
  | cons slot front ih =>
    cases slot with
    | gap => exact congrArg ({} :: ·) (ih cursor consumed)
    | claim i d =>
      dsimp only
      rw [List.cons_append, walk_claim, List.length_cons, List.take_succ_cons, List.zip_cons_cons,
        List.cons_append, Walked.reach, consumedCalls_cons, cursorAfter_append]
      congr 1
      conv => lhs; rw [ih]
      congr 1
      -- Which positions are consumed matters to the rest, but not in which order they are listed.
      apply walk_congr
      intro p
      simp only [positions, List.map_append, List.mem_append]
      rw [or_assoc]
      exact or_left_comm

/-- The next demand is in front, if there is one. -/
theorem nextDemand?_append : nextDemand? (front ++ rest) =
    (nextDemand? front).or (nextDemand? rest) := by
  induction front with
  | nil => rfl
  | cons slot front ih =>
    cases slot with
    | gap => exact ih
    | claim i d =>
      rw [List.cons_append, nextDemand?, nextDemand?, ih]
      split <;> rfl

/-- What a walk does before a place depends on what follows by the next demand there. -/
theorem take_walk_congr {rest' : List Slot} (h : nextDemand? rest = nextDemand? rest') :
    (walk (front ++ rest) cursor consumed).take front.length =
      (walk (front ++ rest') cursor consumed).take front.length := by
  have hnext (front : List Slot) : nextDemand? (front ++ rest) = nextDemand? (front ++ rest') := by
    rw [nextDemand?_append, nextDemand?_append, h]
  induction front generalizing cursor consumed with
  | nil => rfl
  | cons slot front ih =>
    cases slot with
    | gap => exact congrArg ({} :: ·) ih
    | claim i d =>
      simp only [List.cons_append, walk_claim, List.length_cons, List.take_succ_cons,
        Demand.passage_congr (hnext front), ih]

end Steps

end Understudy

import Understudy.Verification.Block

/-!
# Walking a log in the order of a block

An in-order block is checked by walking the log once. Every claim consumes calls of
its own from a cursor on: at least the ones it needs, and beyond them those that come
before the next claim can have what it needs. The cursor then stands behind the last
consumed call. `walk` gives for every slot the calls it consumed (`Passage.run`) and
what was wrong there (`Passage.finding`).

`excesses` compares the runs with the maxima afterwards, when all consumed calls are
known: a call that no claim consumed, and that comes after a claim's first call, counts
against the last slot of that claim.

When a block has gaps, the slots between two gaps form a stretch, and `strays` finds
the calls that stand inside a stretch without being consumed. The first stretch
reaches back to the start of the log and the last one on to its end.
-/

namespace Understudy

/-- What is wrong with the calls of a claim. -/
inductive Finding where
  | tooMany (actual : Nat)
  /-- The calls are there but came too early; the first of them is named. -/
  | unordered (first : Invocation)
  | missing (actual : Nat)

/-- A finding as a mismatch of a demand. -/
def Finding.mismatch (d : Demand) : Finding → Mismatch
  | tooMany actual => .tooMany d.description d.bounds actual
  | unordered first => .unordered d.description first
  | missing actual => .missing d.description d.bounds actual

/-- What a slot consumed, and what was wrong there. -/
structure Passage where
  run : List Located := []
  finding : Option Finding := none

/-- The positions of located calls. -/
def positions (calls : List Located) : List Nat := calls.map (·.1)

/-- The first demand among the slots that allows any call at all. -/
def nextDemand? : List Slot → Option Demand
  | [] => none
  | .gap :: rest => nextDemand? rest
  | .claim _ d :: rest => if d.bounds.max = some 0 then nextDemand? rest else some d

namespace Demand

/-- The calls of a demand from a cursor on. -/
def ahead (d : Demand) (cursor : Nat) : List Located := d.calls.filter (cursor ≤ ·.1)

/-- The calls of a demand before a cursor that nothing consumed. -/
def behind (d : Demand) (cursor : Nat) (consumed : List Nat) : List Located :=
  d.calls.filter fun c => c.1 < cursor && !consumed.contains c.1

/-- What is wrong if too few calls lie ahead. -/
def shortage (d : Demand) (cursor : Nat) (consumed : List Nat) : Finding :=
  let ahead := d.ahead cursor
  match d.behind cursor consumed with
  | [] => .missing ahead.length
  | first :: more =>
    if d.bounds.min ≤ more.length + 1 + ahead.length then .unordered first.2
    else .missing ahead.length

/-- The position behind the calls that a demand needs. -/
def requiredEnd (d : Demand) (cursor : Nat) : Nat :=
  match d.bounds.min with
  | 0 => cursor
  | n + 1 => ((d.ahead cursor)[n]?.map (·.1 + 1)).getD cursor

/-- The first call of a demand from a position on. -/
def firstFrom? (d : Demand) (p : Nat) : Option Nat := (d.calls.find? (p ≤ ·.1)).map (·.1)

/-- The calls that a demand consumes from a cursor on, the slots `rest` following it. -/
def run (d : Demand) (cursor : Nat) (rest : List Slot) : List Located :=
  -- The next demand takes over at its first call beyond the part this one needs.
  let boundary := (nextDemand? rest).bind (·.firstFrom? (d.requiredEnd cursor))
  (d.ahead cursor).filter fun c => boundary.all (c.1 < ·)

end Demand

/-- The position behind the last call of a run, or the cursor if the run is empty. -/
def cursorAfter (cursor : Nat) (run : List Located) : Nat :=
  (run.getLast?.map (·.1 + 1)).getD cursor

/-- Walks the log through the slots of a block from a cursor on, given the positions consumed
so far. -/
def walk : List Slot → Nat → List Nat → List Passage
  | [], _, _ => []
  | .gap :: rest, cursor, consumed => {} :: walk rest cursor consumed
  | .claim _ d :: rest, cursor, consumed =>
    let ahead := d.ahead cursor
    -- A claim that allows no call consumes none; it only looks ahead.
    if d.bounds.max = some 0 then
      let finding := if ahead.isEmpty then none else some (.tooMany ahead.length)
      { finding } :: walk rest cursor consumed
    else if ahead.length < d.bounds.min then
      { finding := some (d.shortage cursor consumed) } :: walk rest cursor consumed
    else
      let run := d.run cursor rest
      { run } :: walk rest (cursorAfter cursor run) (positions run ++ consumed)

/-- Every slot has its passage. -/
@[simp] theorem length_walk (slots : List Slot) (cursor : Nat) (consumed : List Nat) :
    (walk slots cursor consumed).length = slots.length := by
  induction slots generalizing cursor consumed with
  | nil => rfl
  | cons s rest ih =>
    cases s with
    | gap => simp [walk, ih]
    | claim i d =>
      simp only [walk]
      split
      · simp [ih]
      · split <;> simp [ih]

/-- The slots of a block with their passages. -/
abbrev Walked := List (Slot × Passage)

/-- All consumed calls. -/
def consumedCalls (w : Walked) : List Located := w.flatMap (·.2.run)

/-- The mismatches found while walking. -/
def walkMismatches (w : Walked) : List Mismatch :=
  w.filterMap fun (slot, passage) =>
    match slot with
    | .gap => none
    | .claim _ d => passage.finding.map (·.mismatch d)

/-- Whether a claim has no slot among the given ones. -/
def isLastOf (index : Nat) (rest : Walked) : Bool :=
  rest.all fun w => w.1.claim?.all (·.1 ≠ index)

/-- How many calls count against a slot with a run that starts with `first`. -/
def callsCounted (consumed : List Nat) (index : Nat) (d : Demand) (first : Located)
    (more : List Located) (rest : Walked) : Nat :=
  let trailing :=
    if isLastOf index rest then
      (d.calls.filter fun c => first.1 < c.1 && !consumed.contains c.1).length
    else 0
  more.length + 1 + trailing

/-- The mismatches of claims with more calls than their maximum, given all consumed
positions. -/
def excesses (consumed : List Nat) : Walked → List Mismatch
  | [] => []
  | (.claim index d, ⟨first :: more, _⟩) :: rest =>
    let actual := callsCounted consumed index d first more rest
    let here := if d.bounds.exceededBy actual then [.tooMany d.description d.bounds actual] else []
    here ++ excesses consumed rest
  | _ :: rest => excesses consumed rest

/-! ## Gaps -/

/-- The consumed calls of the stretches between gaps. There is always a first stretch. -/
def stretches : Walked → List (List Located)
  | [] => [[]]
  | (.gap, _) :: rest => [] :: stretches rest
  | (.claim .., passage) :: rest =>
    match stretches rest with
    | [] => [passage.run]
    | stretch :: more => (passage.run ++ stretch) :: more

/-- The positions a stretch reaches over, if it consumed anything: from its first call to behind
its last, or to the ends of the log if no gap shields it there. -/
def extent (logLength : Nat) (isFirst isLast : Bool) (stretch : List Located) :
    Option (Nat × Nat) := do
  let low ← (positions stretch).min?
  let high ← (positions stretch).max?
  return (if isFirst then 0 else low, if isLast then logLength else high + 1)

/-- The calls inside the stretches that nothing consumed, in log order. -/
def straysFrom (log : List Located) (logLength : Nat) (isStray : Located → Bool) :
    Bool → List (List Located) → List Invocation
  | _, [] => []
  | isFirst, stretch :: rest =>
    let here := match extent logLength isFirst rest.isEmpty stretch with
      | none => []
      | some (low, high) =>
        (log.filter fun c => low ≤ c.1 && c.1 < high && isStray c).map (·.2)
    here ++ straysFrom log logLength isStray false rest

end Understudy

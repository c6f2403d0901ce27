import Understudy.Iteration
import Understudy.Verification.Walk

/-!
# Checking a block against a log

`Block.check` is the whole verification of a block: it depends on the block, the mode,
the declared types and the log, and on nothing else of a session. A malformed block
is told as a misuse and checked no further.

An in-order check walks the log; then either the stretches between gaps must be free
of other calls or, in a full check without gaps, every call on a type of the block must
belong to some claim. A check without order compares the number of calls of each
claim with its bounds.
-/

namespace Understudy

/-- What a verification found, and the calls it hands over: for each claim that is observed,
by its index, the calls it accounts for. -/
structure Verdict where
  mismatches : List Mismatch := []
  handed : List (Nat × List Invocation) := []

/-- Whether a block names the type of a call. -/
def inScope (claims : List (Nat × Demand)) (c : Invocation) : Bool :=
  claims.any fun claim => claim.2.typeName = c.target.typeName

/-- Whether a call belongs to some claim. -/
def covered (claims : List (Nat × Demand)) (position : Nat) : Bool :=
  claims.any fun claim => claim.2.calls.any fun c => c.1 = position

/-- The calls on types of the block that belong to none of its claims. -/
def uncovered (claims : List (Nat × Demand)) (log : List Located) : List Invocation :=
  (log.filter fun c => inScope claims c.2 && !covered claims c.1).map (·.2)

/-- The mismatch of a claim whose number of calls is out of bounds. -/
def Demand.countMismatch? (d : Demand) : Option Mismatch :=
  let actual := d.calls.length
  if actual < d.bounds.min then some (.missing d.description d.bounds actual)
  else if d.bounds.exceededBy actual then some (.tooMany d.description d.bounds actual)
  else none

/-- The claims among slots. -/
def claimsOf (slots : List Slot) : List (Nat × Demand) := slots.filterMap Slot.claim?

/-- The calls that a claim consumed over all of its slots. -/
def consumedBy (index : Nat) (w : Walked) : List Located :=
  w.flatMap fun (slot, passage) =>
    if slot.claim?.any (·.1 = index) then passage.run else []

/-- The calls handed over for the observed claims, `calls` giving those of each claim. -/
def handOver (claims : List (Nat × Demand)) (calls : Nat × Demand → List Located) :
    List (Nat × List Invocation) :=
  (claims.filter (·.2.observed)).map fun claim => (claim.1, (calls claim).map (·.2))

/-- Walks a log through slots from its start. -/
def walkFromStart (slots : List Slot) : Walked := slots.zip (walk slots 0 [])

/-- The calls that gaps do not excuse. -/
def strays (claims : List (Nat × Demand)) (log : List Located) (w : Walked) : List Invocation :=
  let consumed := positions (consumedCalls w)
  straysFrom log log.length (fun c => inScope claims c.2 && !consumed.contains c.1) true
    (stretches w)

/-- Checks a prepared in-order block; `slots` is one round of it. -/
def checkInOrder (slots : List Slot) (n : Nat) (full : Bool) (log : List Located) : Verdict :=
  let claims := claimsOf slots
  let w := walkFromStart (writtenOut n slots)
  let others :=
    if slots.any Slot.isGap then strays claims log w
    else if full then uncovered claims log
    else []
  { mismatches := walkMismatches w ++ excesses (positions (consumedCalls w)) w
      ++ others.map .unverified
    handed := handOver claims fun claim => consumedBy claim.1 w }

/-- Checks a prepared block in which the order does not matter. -/
def checkCounts (slots : List Slot) (full : Bool) (log : List Located) : Verdict :=
  let claims := claimsOf slots
  let others := if full then uncovered claims log else []
  { mismatches := claims.filterMap (·.2.countMismatch?) ++ others.map .unverified
    handed := handOver claims (·.2.calls) }

/-- Verifies a block against a log. -/
def Block.check (b : Block) (declares : String → Bool) (log : List Invocation) (mode : Mode) :
    Verdict :=
  let log := locatedCalls log
  let (errors, slots) := b.prepare declares log mode
  let failed := errors.map Mismatch.matcherEvaluation
  match slots with
  | .error e => { mismatches := failed ++ [.misuse e] }
  | .ok slots =>
    let verdict :=
      if mode.inOrder then checkInOrder slots b.iterations mode.full log
      else checkCounts slots mode.full log
    { verdict with mismatches := failed ++ verdict.mismatches }

end Understudy

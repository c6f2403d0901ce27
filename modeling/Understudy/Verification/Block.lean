import Understudy.Pattern

/-!
# Verification blocks

A verification block lists claims about the log: each names a pattern and says how
many calls of the log it describes. Gaps between the claims of an in-order block
mark where calls may have happened that the block does not verify.

Before a block is checked, each claim is turned into a `Demand`: its bounds, and the
calls of the log that its pattern describes. From there on patterns and matchers play
no part. `locate` finds those calls, and collects the matchers that failed on the way.
-/

namespace Understudy

/-- A claim of a verification block: how many calls of a pattern the log holds. `observed` says
whether the test wants to see those calls. -/
structure Claim where
  pattern : Pattern
  quantifier : Quantifier := {}
  observed : Bool := false

/-- A claim, or a place where other calls may have happened. -/
inductive BlockItem where
  | claim (c : Claim)
  | gap

/-- A verification block, to be checked as if written out `iterations` times. -/
structure Block where
  items : List BlockItem := []
  iterations : Nat := 1

/-- How a block is checked: whether the order of its claims matters, and whether its claims must
account for every call on the types they name. -/
structure Mode where
  inOrder : Bool
  full : Bool
deriving DecidableEq, Repr

/-- A logged call with its position in the log. -/
abbrev Located := Nat × Invocation

/-- What a claim demands of a log: how many calls, and which calls count. -/
structure Demand where
  description : String
  typeName : String
  bounds : Bounds
  /-- The calls that the claim describes, in log order. -/
  calls : List Located
  observed : Bool

/-- A step of a checked block. A claim is known by its index in the block. -/
inductive Slot where
  | claim (index : Nat) (d : Demand)
  | gap

/-- The calls of a log with their positions. -/
def locatedCalls (log : List Invocation) : List Located := log.zipIdx.map fun (c, i) => (i, c)

/-- The calls that a pattern describes, and the errors of matchers that failed. -/
def locate (p : Pattern) : List Located → List Located × List MatcherError
  | [] => ([], [])
  | (i, c) :: rest =>
    let (calls, errors) := locate p rest
    match p.accepts c with
    | .ok true => ((i, c) :: calls, errors)
    | .ok false => (calls, errors)
    | .error e => (calls, e :: errors)

namespace Claim

/-- The bounds of a claim about which nothing is said: exactly one call. -/
def defaultBounds : Bounds := .exactly 1

/-- The bounds a claim puts on the log, for a block of `n` iterations. The claims of an in-order
block are written out instead of multiplied. -/
def bounds (c : Claim) (mode : Mode) (n : Nat) : Except SessionError Bounds := do
  c.pattern.check
  let b ← c.pattern.resolveBounds c.quantifier defaultBounds 0
  return if mode.inOrder then b else b.repeated n

end Claim

/-- The slots of one round of a block, the first claim having the given index, with the errors
of matchers that failed; or the errors up to the first malformed claim, and what is wrong
with it. -/
def slotsFrom (declares : String → Bool) (log : List Located) (mode : Mode) (n : Nat) :
    Nat → List BlockItem → List MatcherError × Except SessionError (List Slot)
  | _, [] => ([], .ok [])
  | index, .gap :: rest =>
    let (errors, slots) := slotsFrom declares log mode n index rest
    (errors, slots.map (.gap :: ·))
  | index, .claim c :: rest =>
    let target := c.pattern.target
    if !declares target.typeName then ([], .error (.undeclaredTarget target))
    else match c.bounds mode n with
      | .error e => ([], .error e)
      | .ok bounds =>
        let (calls, here) := locate c.pattern log
        let (errors, slots) := slotsFrom declares log mode n (index + 1) rest
        let d : Demand :=
          ⟨c.pattern.description, target.typeName, bounds, calls, c.observed⟩
        (here ++ errors, slots.map (.claim index d :: ·))

namespace BlockItem

/-- Whether an item is a gap. -/
def isGap : BlockItem → Bool
  | gap => true
  | claim _ => false

end BlockItem

namespace Slot

/-- Whether a slot is a gap. -/
def isGap : Slot → Bool
  | gap => true
  | claim .. => false

/-- The claim in a slot. -/
def claim? : Slot → Option (Nat × Demand)
  | gap => none
  | claim i d => some (i, d)

end Slot

/-- The slots of one round of a block. -/
def Block.prepare (b : Block) (declares : String → Bool) (log : List Located) (mode : Mode) :
    List MatcherError × Except SessionError (List Slot) :=
  if b.iterations = 0 then ([], .error .invalidIterations)
  else if !mode.inOrder && b.items.any BlockItem.isGap then ([], .error .unverifiedOutsideOrder)
  else slotsFrom declares log mode b.iterations 0 b.items

/-- Whether nothing is wrong with a block. -/
def Block.isWellFormed (b : Block) (declares : String → Bool) (log : List Invocation)
    (mode : Mode) : Bool :=
  (b.prepare declares (locatedCalls log) mode).2.isOk

/-- The greatest number of slots that fit into an address space of 63 bits, at sixteen bytes
each. -/
def slotLimit : Nat := 576460752303423487

/-- Whether a block has more slots than can be written out. Only in-order blocks are. -/
def Block.isTooLong (b : Block) (mode : Mode) : Bool :=
  mode.inOrder && slotLimit < b.items.length * b.iterations

end Understudy

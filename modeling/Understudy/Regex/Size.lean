import Understudy.Regex.Expr
import Understudy.Text.Encoded

/-!
# How large the program of an expression is

An expression is turned into two programs over the bytes of a text, one that reads
forwards and one that reads backwards, and neither may be larger than `sizeLimit`.
A program is a graph of states. A state takes 32 bytes; one that branches on the next
byte takes 8 more for each of its branches, and one with several successors takes 4
more for each of them. A repetition with counts is written out, so its size grows
with the counts.

A set beyond ASCII is read byte by byte. Forwards, its byte runs share all ends they
have in common (`forwardSetSize`); backwards, they share their starts
(`backwardSetSize`). Captures take room in the forward program only.
-/

namespace Understudy.Regex

/-- Which way a program reads. -/
inductive Direction where
  | forward
  | backward
deriving DecidableEq, Repr

/-- The greatest size of a program in bytes. -/
def sizeLimit : Nat := 10485760

/-- The size of a state. -/
def stateSize : Nat := 32

/-- The size of a state with several successors. -/
def forkSize (successors : Nat) : Nat := stateSize + 4 * successors

/-- The size of a state that branches on the next byte. -/
def branchSize (branches : Nat) : Nat := stateSize + 8 * branches

/-! ## Sets -/

/-- How many steps two runs have in common at their start. -/
def commonStart : List Text.ByteRange → List Text.ByteRange → Nat
  | a :: as, b :: bs => if a = b then commonStart as bs + 1 else 0
  | _, _ => 0

/-- How many steps are left when each run shares its start with the run before it. -/
def stepsAfter (before : List Text.ByteRange) : List (List Text.ByteRange) → Nat
  | [] => 0
  | run :: runs => run.length - commonStart before run + stepsAfter run runs

/-- The size of a set in a program that reads backwards: a state for every step, and one each
where the runs begin and end. -/
def backwardSetSize (runs : List (List Text.ByteRange)) : Nat :=
  forkSize runs.length + stateSize * stepsAfter [] runs + stateSize

/-- The runs without their first steps, grouped by those. -/
def afterFirst (runs : List (List Text.ByteRange)) : List (List (List Text.ByteRange)) :=
  let groups := runs.splitBy fun a b => a.head? == b.head?
  (groups.map fun group => group.map List.tail).filter fun group => group.all (!·.isEmpty)

/-- What runs may look like behind their first step, their second step and so on, the runs
themselves included. -/
def tails : Nat → List (List Text.ByteRange) → List (List (List Text.ByteRange))
  | 0, runs => [runs]
  | depth + 1, runs => runs :: (afterFirst runs).flatMap (tails depth)

/-- The size of a set in a program that reads forwards: a state for every way to go on, and one
where the runs end. -/
def forwardSetSize (runs : List (List Text.ByteRange)) : Nat :=
  let states := (tails 3 runs).eraseDups
  states.foldl (fun size runs => size + branchSize (runs.map List.head?).eraseDups.length) stateSize

/-- The size of a set. A single character is written out byte by byte. -/
def setSize (d : Direction) (s : CharSet) : Nat :=
  match s with
  | [] => stateSize
  | [(low, high)] =>
    if low = high then stateSize * Text.encodedLength low
    else classSize s
  | _ => classSize s
where
  /-- The size of a set of several characters. -/
  classSize (s : CharSet) : Nat :=
    if s.all (·.2 ≤ 0x7f) then stateSize + branchSize s.length
    else match d with
      | .forward => forwardSetSize s.byteRuns
      | .backward => backwardSetSize s.byteRuns

/-! ## Expressions -/

/-- Branches that are tried one after another: how many, and their total size. `chars` is their
union if all of them are single characters, which it says, or all of them classes. -/
structure Branches where
  count : Nat
  total : Nat
  chars : Option (Bool × CharSet) := none

namespace Branches

/-- A single branch. -/
def one (size : Nat) : Branches := { count := 1, total := size }

/-- The branches of both. -/
def join (a b : Branches) : Branches where
  count := a.count + b.count
  total := a.total + b.total
  chars := do
    let (single, s) ← a.chars
    let (single', t) ← b.chars
    if single = single' then some (single, s.union t) else none

/-- The size of all branches together. Characters are read as one set. -/
def size (d : Direction) (b : Branches) : Nat :=
  if b.count = 1 then b.total
  else match b.chars with
    | some (_, s) => setSize d s
    | none => forkSize b.count + b.total + stateSize

end Branches

namespace Expr

/-- The size of `n` copies of a part. -/
def copiesSize (n size : Nat) : Nat := if n = 0 then stateSize else n * size

/-- The size of a repetition whose body has a size. `advances` says whether the body does. -/
def repeatedSize (advances : Bool) (size least : Nat) : Option Nat → Nat
  | none =>
    match least with
    | 0 =>
      if advances then forkSize 2 + size
      else forkSize 2 + forkSize 2 + stateSize + size
    | n + 1 => forkSize 2 + (n + 1) * size
  | some most =>
    if most = least then copiesSize least size
    else if least = 0 ∧ most = 1 then forkSize 2 + size + stateSize
    else copiesSize least size + stateSize + (most - least) * (forkSize 2 + size)

/-- The size of an expression, as the branches it has. -/
def branches (d : Direction) : Expr → Branches
  | empty | assert _ => .one stateSize
  | one s => { count := 1, total := setSize d s, chars := some (isSingle s, s) }
  | seq a b => .one ((a.branches d).size d + (b.branches d).size d)
  | alt a b => (a.branches d).join (b.branches d)
  | repeated a least most => .one (repeatedSize a.advances ((a.branches d).size d) least most)
  | captured a =>
    let size := (a.branches d).size d
    match d with
    | .forward => .one (size + 2 * stateSize)
    | .backward => .one size
where
  /-- Whether a set has one member. -/
  isSingle : CharSet → Bool
    | [(low, high)] => low = high
    | _ => false

/-- Whether every match of an expression lies at an end of the text: at the start if it is read
forwards, at the end if it is read backwards. -/
def isAnchored (d : Direction) : Expr → Bool
  | assert .textStart => d = .forward
  | assert .textEnd => d = .backward
  | empty | one _ | assert _ => false
  | seq a b =>
    match d with
    | .forward => a.isAnchored d || a.isZeroWidth && b.isAnchored d
    | .backward => b.isAnchored d || b.isZeroWidth && a.isAnchored d
  | alt a b => a.isAnchored d && b.isAnchored d
  | repeated a least _ => least != 0 && a.isAnchored d
  | captured a => a.isAnchored d

/-- The size of the program of an expression. In front of an expression that is not anchored the
program passes over any bytes. -/
def programSize (d : Direction) (e : Expr) : Nat :=
  let start := if e.isAnchored d then stateSize else forkSize 2 + stateSize + branchSize 1
  let whole := match d with
    | .forward => 2 * stateSize
    | .backward => 0
  start + whole + (e.branches d).size d + stateSize

/-- Whether a program of an expression is too large. -/
def isTooLarge (e : Expr) : Bool :=
  sizeLimit < e.programSize .forward || sizeLimit < e.programSize .backward

end Expr

end Understudy.Regex

import Understudy.Regex.Expr
import Understudy.Regex.Fault

/-!
# Patterns as trees

The tree of a pattern shows how it is put together, before flags have told what its
parts mean. Every node knows its span, and a group, a class, a repetition, a sequence and
an alternative each add a level. `Tree.overdeep?` finds the first node, in reading
order, below more levels than are allowed.
-/

namespace Understudy.Regex

/-- How a class combines what stands left and right of an operator. -/
inductive SetOp where
  | inter
  | diff
  | symmDiff
deriving DecidableEq, Repr

/-- A character that stands for itself, or an escape of one. -/
structure Literal where
  span : Span
  code : Nat
  /-- Whether it is written as a byte, with two hexadecimal digits. -/
  isByte : Bool := false
deriving DecidableEq, Repr

/-- What stands between the brackets of a class. -/
inductive ClassTree where
  /-- An operand that was left out. -/
  | empty (span : Span)
  | literal (l : Literal)
  | range (low high : Literal)
  /-- A set with an escape of its own, or its complement. -/
  | set (span : Span) (negated : Bool) (set : CharSet)
  /-- A set with a name, such as `[:alpha:]`. -/
  | named (span : Span) (negated : Bool) (set : CharSet)
  | bracketed (span : Span) (negated : Bool) (body : ClassTree)
  | union (span : Span) (items : List ClassTree)
  | combined (span : Span) (op : SetOp) (left right : ClassTree)

/-- The span of what a class lists. -/
def ClassTree.span : ClassTree → Span
  | literal l => l.span
  | range low high => ⟨low.span.start, high.span.stop⟩
  | empty s | set s .. | named s .. | bracketed s .. | union s _ | combined s .. => s

/-- What can be switched on and off for a part of a pattern. -/
inductive Flag where
  /-- Case does not matter. -/
  | caseless
  /-- The ends of lines count as the ends of the text. -/
  | lines
  /-- The dot stands for the ends of lines too. -/
  | dotAll
  /-- Lines may also end with a carriage return. -/
  | anyLineEnd
  /-- Blanks and comments are passed over. -/
  | verbose
  /-- Which match is found first. This changes nothing here. -/
  | lazily
  /-- Classes reach over all of Unicode, and not over ASCII alone. -/
  | unicode
deriving DecidableEq, Repr

/-- Flags in the order written, each switched on or off. -/
abbrev FlagChanges := List (Flag × Bool)

/-- A pattern as a tree. -/
inductive Tree where
  | empty (span : Span)
  | literal (l : Literal)
  | dot (span : Span)
  /-- A set with an escape of its own, or its complement. -/
  | set (span : Span) (negated : Bool) (set : CharSet)
  | assertion (span : Span) (a : Assertion)
  | bracketed (span : Span) (negated : Bool) (body : ClassTree)
  /-- Flags for the rest of the enclosing group. -/
  | setting (span : Span) (changes : FlagChanges)
  | repeated (span : Span) (body : Tree) (least : Nat) (most : Option Nat)
  | group (span : Span) (captures : Bool) (changes : FlagChanges) (body : Tree)
  | alternatives (span : Span) (ts : List Tree)
  | sequence (span : Span) (ts : List Tree)

namespace Tree

/-- The span of a tree. -/
def span : Tree → Span
  | literal l => l.span
  | empty s | dot s | set s .. | assertion s _ | bracketed s .. | setting s _
  | repeated s .. | group s .. | alternatives s _ | sequence s _ => s

/-- The tree of some items in sequence. A single item stands for itself. -/
def ofItems (span : Span) : List Tree → Tree
  | [] => .empty span
  | [t] => t
  | ts => .sequence span ts

end Tree

/-! ## Levels -/

/-- Goes down one of the levels that are left, or names the node that has none. -/
def descend (left : Nat) (span : Span) (below : Nat → Option Span) : Option Span :=
  match left with
  | 0 => some span
  | left + 1 => below left

mutual

/-- The first node of a class for which no level is left. -/
def ClassTree.overdeep? (left : Nat) : ClassTree → Option Span
  | .empty _ | .literal _ | .range .. | .set .. | .named .. => none
  | .bracketed span _ body => descend left span fun left => body.overdeep? left
  | .union span items => descend left span fun left => ClassTree.overdeepAmong? left items
  | .combined span _ l r =>
    descend left span fun left => (l.overdeep? left).or (r.overdeep? left)

/-- The first node among several for which no level is left. -/
def ClassTree.overdeepAmong? (left : Nat) : List ClassTree → Option Span
  | [] => none
  | t :: ts =>
    match t.overdeep? left with
    | some span => some span
    | none => ClassTree.overdeepAmong? left ts

end

mutual

/-- The first node of a pattern for which no level is left. -/
def Tree.overdeep? (left : Nat) : Tree → Option Span
  | .empty _ | .literal .. | .dot _ | .set .. | .assertion .. | .setting .. => none
  | .bracketed span _ body => descend left span fun left => body.overdeep? left
  | .repeated span body .. => descend left span fun left => body.overdeep? left
  | .group span _ _ body => descend left span fun left => body.overdeep? left
  | .alternatives span ts => descend left span fun left => Tree.overdeepAmong? left ts
  | .sequence span ts => descend left span fun left => Tree.overdeepAmong? left ts

/-- The first node among several for which no level is left. -/
def Tree.overdeepAmong? (left : Nat) : List Tree → Option Span
  | [] => none
  | t :: ts =>
    match t.overdeep? left with
    | some span => some span
    | none => Tree.overdeepAmong? left ts

end

/-- How many levels a pattern may have. -/
def levelLimit : Nat := 250

/-- Refuses a tree with too many levels. -/
def Tree.checkLevels (t : Tree) : Except PatternError Unit :=
  match t.overdeep? levelLimit with
  | some span => .error (.faulty .nestedTooDeep span)
  | none => .ok ()

end Understudy.Regex

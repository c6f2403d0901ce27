import Understudy.Regex.Tree
import Understudy.Text.Fold

/-!
# From trees to expressions

The meaning of a part of a pattern depends on the flags in force there. A setting of
flags reaches to the end of its group, over the bars too, and a group begins with the
flags around it, as changed in its opening. `Tree.meaning` carries the flags along and
gives the expression.

Without Unicode, sets hold ASCII characters only. A set that would reach beyond them
could match a part of an encoded character and is refused.
-/

namespace Understudy.Regex

/-- The flags that change what a pattern matches. -/
structure Flags where
  caseless : Bool := false
  lines : Bool := false
  dotAll : Bool := false
  anyLineEnd : Bool := false
  unicode : Bool := true
deriving DecidableEq, Repr

/-- The characters of ASCII. -/
def asciiSet : CharSet := [(0x0, 0x7f)]

namespace Flags

/-- The flags after a change. -/
def change (f : Flags) : Flag × Bool → Flags
  | (.caseless, on) => { f with caseless := on }
  | (.lines, on) => { f with lines := on }
  | (.dotAll, on) => { f with dotAll := on }
  | (.anyLineEnd, on) => { f with anyLineEnd := on }
  | (.unicode, on) => { f with unicode := on }
  | (.verbose, _) | (.lazily, _) => f

/-- The flags after some changes. -/
def changes (f : Flags) (cs : FlagChanges) : Flags := cs.foldl change f

/-- A set as far as it is in force. -/
def reach (f : Flags) (s : CharSet) : CharSet := if f.unicode then s else s.inter asciiSet

/-- A set with the case variants of its members, if case does not matter. -/
def fold (f : Flags) (s : CharSet) : CharSet := if f.caseless then f.reach s.folded else s

/-- Refuses a set that may match a part of a character. -/
def checkSet (f : Flags) (span : Span) (s : CharSet) : Except PatternError CharSet :=
  if f.unicode || s.all (·.2 ≤ 0x7f) then .ok s else .error (.faulty .invalidUtf8 span)

/-- A set, or its complement. -/
def negate (f : Flags) (span : Span) (negated : Bool) (s : CharSet) :
    Except PatternError CharSet :=
  f.checkSet span (if negated then s.compl else s)

/-- A set with brackets around it. Case is dealt with before the set is negated. -/
def bracket (f : Flags) (span : Span) (negated : Bool) (s : CharSet) :
    Except PatternError CharSet :=
  f.negate span negated (f.fold s)

/-- Refuses a byte that is no character. -/
def checkLiteral (f : Flags) (l : Literal) : Except PatternError Unit :=
  if !f.unicode && l.isByte && 0x7f < l.code then .error (.faulty .invalidUtf8 l.span) else .ok ()

/-- The set of a single character. Without Unicode, other characters than those of ASCII have no
case. -/
def literal (f : Flags) (l : Literal) : Except PatternError CharSet := do
  f.checkLiteral l
  return if f.unicode || l.code ≤ 0x7f then f.fold (.single l.code) else .single l.code

/-- A character that a class lists. -/
def classLiteral (f : Flags) (l : Literal) : Except PatternError Nat := do
  f.checkLiteral l
  if f.unicode || l.code ≤ 0x7f then return l.code else .error (.faulty .unicodeNotAllowed l.span)

/-- What the dot stands for. -/
def dot (f : Flags) (span : Span) : Except PatternError CharSet :=
  let ends : CharSet :=
    if f.dotAll then []
    else if f.anyLineEnd then [('\n'.toNat, '\n'.toNat), ('\r'.toNat, '\r'.toNat)]
    else .single '\n'.toNat
  f.checkSet span ends.compl

/-- An assertion as it reads under the flags. -/
def assertion (f : Flags) : Assertion → Assertion
  | .lineStart =>
    if !f.lines then .textStart else if f.anyLineEnd then .anyLineStart else .lineStart
  | .lineEnd =>
    if !f.lines then .textEnd else if f.anyLineEnd then .anyLineEnd else .lineEnd
  | .word a chars => .word a (f.reach chars)
  | a => a

end Flags

/-! ## Classes -/

/-- What an operator of a class makes of two sets. -/
def SetOp.apply : SetOp → CharSet → CharSet → CharSet
  | inter, a, b => a.inter b
  | diff, a, b => a.diff b
  | symmDiff, a, b => a.symmDiff b

mutual

/-- The set of what a class lists. -/
def ClassTree.meaning (f : Flags) : ClassTree → Except PatternError CharSet
  | .empty _ => .ok []
  | .literal l => return .single (← f.classLiteral l)
  | .range low high => return [(← f.classLiteral low, ← f.classLiteral high)]
  | .set span negated s => f.negate span negated (f.reach s)
  | .named span negated s => f.bracket span negated s
  | .bracketed span negated body => do f.bracket span negated (← body.meaning f)
  | .union _ items => return .ofList (← ClassTree.meanings f items)
  | .combined _ op left right => do
    let l ← left.meaning f
    let r ← right.meaning f
    return op.apply (f.fold l) (f.fold r)

/-- The ranges of several items. -/
def ClassTree.meanings (f : Flags) : List ClassTree → Except PatternError (List (Nat × Nat))
  | [] => .ok []
  | t :: ts => return (← t.meaning f) ++ (← ClassTree.meanings f ts)

end

/-! ## Expressions -/

namespace Expr

/-- Expressions in sequence; empty ones have no part in it. -/
def sequence : List Expr → Expr
  | [] => .empty
  | .empty :: es => sequence es
  | e :: es =>
    match sequence es with
    | .empty => e
    | rest => .seq e rest

/-- Alternatives. -/
def alternatives : List Expr → Expr
  | [] => .empty
  | [e] => e
  | e :: es => .alt e (alternatives es)

/-- A repetition. An expression of zero width need not be repeated more than once. -/
def repetition (e : Expr) (least : Nat) (most : Option Nat) : Expr :=
  let (least, most) :=
    if e.isZeroWidth then (min least 1, some (min (most.getD 1) 1)) else (least, most)
  if most = some 0 then .empty
  else if least = 1 ∧ most = some 1 then e
  else .repeated e least most

end Expr

mutual

/-- The expression a tree stands for, and the flags after it. -/
def Tree.meaning (f : Flags) : Tree → Except PatternError (Expr × Flags)
  | .empty _ => .ok (.empty, f)
  | .literal l => return (.one (← f.literal l), f)
  | .dot span => return (.one (← f.dot span), f)
  | .set span negated s => return (.one (← f.negate span negated (f.reach s)), f)
  | .assertion _ a => .ok (.assert (f.assertion a), f)
  | .bracketed span negated body => do
    return (.one (← f.bracket span negated (← body.meaning f)), f)
  | .setting _ changes => .ok (.empty, f.changes changes)
  | .repeated _ body least most => do
    let (e, _) ← body.meaning f
    return (.repetition e least most, f)
  | .group _ captures changes body => do
    let (e, _) ← body.meaning (f.changes changes)
    return (if captures then .captured e else e, f)
  | .alternatives _ ts => do
    let (es, f) ← Tree.meanings f ts
    return (.alternatives es, f)
  | .sequence _ ts => do
    let (es, f) ← Tree.meanings f ts
    return (.sequence es, f)

/-- The expressions of several trees, each read under the flags after the one before. -/
def Tree.meanings (f : Flags) : List Tree → Except PatternError (List Expr × Flags)
  | [] => .ok ([], f)
  | t :: ts => do
    let (e, f) ← t.meaning f
    let (es, f) ← Tree.meanings f ts
    return (e :: es, f)

end

end Understudy.Regex

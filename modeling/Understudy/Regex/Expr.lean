import Understudy.Text.Class

/-!
# Regular expressions and where they match

An expression is built from sets of characters, assertions about a position, sequence,
alternative and repetition. Its meaning on a text is a function on sets of positions:
`Expr.reach` takes the positions where a match may start to the positions
where it may end. Repetition follows only positions not seen before, and there are
finitely many, so every search ends.

Whether a repetition is greedy or not decides which match is found, never
whether there is one; expressions therefore do not record it. Nothing asks for the
text that a group captured either; a capture is kept because it takes room in the
program of the expression.
-/

namespace Understudy.Regex

/-- A set of characters, given by their code points. -/
abbrev CharSet := Text.Ranges

/-- A condition on the two sides of a position, in terms of words. -/
inductive WordAssertion where
  | boundary
  | noBoundary
  | start
  | stop
  /-- Not after a word character. -/
  | startHalf
  /-- Not before a word character. -/
  | stopHalf
deriving DecidableEq, Repr

/-- Whether an assertion about words holds between two places, of which it is told whether a word
character stands there. -/
def WordAssertion.holds (before after : Bool) : WordAssertion → Bool
  | boundary => before != after
  | noBoundary => before == after
  | start => !before && after
  | stop => before && !after
  | startHalf => !before
  | stopHalf => !after

/-- A condition on a position of a text. -/
inductive Assertion where
  | textStart
  | textEnd
  | lineStart
  | lineEnd
  /-- Like `lineStart`, for lines that end with a line feed, a carriage return or both. -/
  | anyLineStart
  | anyLineEnd
  /-- Words are made of the characters of a set. -/
  | word (a : WordAssertion) (chars : CharSet)
deriving DecidableEq, Repr

/-- Whether an assertion holds between two neighbouring characters, either of which is
missing at an end of the text. -/
def Assertion.holds (before after : Option Char) : Assertion → Bool
  | textStart => before.isNone
  | textEnd => after.isNone
  | lineStart => before.isNone || before = some '\n'
  | lineEnd => after.isNone || after = some '\n'
  | anyLineStart => before.isNone || before = some '\n' || before = some '\r' && after != some '\n'
  | anyLineEnd => after.isNone || after = some '\r' || after = some '\n' && before != some '\r'
  | word a chars =>
    a.holds (before.any fun c => chars.mem c.toNat) (after.any fun c => chars.mem c.toNat)

/-- A regular expression. -/
inductive Expr where
  | empty
  | one (set : CharSet)
  | assert (a : Assertion)
  | seq (a b : Expr)
  | alt (a b : Expr)
  | repeated (a : Expr) (least : Nat) (most : Option Nat)
  | captured (a : Expr)
deriving Repr

/-- Whether an expression can match nothing but the empty text. -/
def Expr.isZeroWidth : Expr → Bool
  | empty | assert _ => true
  | one _ => false
  | seq a b | alt a b => a.isZeroWidth && b.isZeroWidth
  | repeated a .. | captured a => a.isZeroWidth

/-- Whether every match of an expression is longer than the empty text. -/
def Expr.advances : Expr → Bool
  | empty | assert _ => false
  | one s => !s.isEmpty
  | seq a b => a.advances || b.advances
  | alt a b => a.advances && b.advances
  | repeated a least _ => least != 0 && a.advances
  | captured a => a.advances

/-- A set of positions of a text: one mark for each position, the end included. -/
abbrev Marks := List Bool

/-- The positions in either set. -/
def Marks.join (a b : Marks) : Marks := List.zipWith (· || ·) a b

/-- The positions in the first set but not in the second. -/
def Marks.without (a b : Marks) : Marks := List.zipWith (fun x y => x && !y) a b

/-- What is reached from `new` in at most `fuel` rounds of `f`, together with `seen`. Each round
goes on from the positions that were reached for the first time. -/
def gather (f : Marks → Marks) : Nat → Marks → Marks → Marks
  | 0, seen, _ => seen
  | fuel + 1, seen, new =>
    let found := (f new).without seen
    if found.any id then gather f fuel (seen.join found) found else seen

/-- A function applied `n` times. Once it changes nothing more it need not be applied again. -/
def times {α : Type} [DecidableEq α] (f : α → α) : Nat → α → α
  | 0, x => x
  | n + 1, x =>
    let y := f x
    if y = x then x else times f n y

/-- Stopping early makes no difference. -/
theorem times_eq_repeat {α : Type} [DecidableEq α] (f : α → α) (n : Nat) (x : α) :
    times f n x = Nat.repeat f n x := by
  have shift : ∀ (n : Nat) (x : α), Nat.repeat f (n + 1) x = Nat.repeat f n (f x) := by
    intro n
    induction n with
    | zero => intro x; rfl
    | succ n ih => intro x; exact congrArg f (ih x)
  induction n generalizing x with
  | zero => rfl
  | succ n ih =>
    rw [times, shift]
    split
    · rename_i h
      rw [h]
      clear ih
      induction n with
      | zero => rfl
      | succ n ih => rw [shift, h, ← ih]
    · exact ih (f x)

/-- The two neighbours of every position of a text, the character before each being given for
the first position. -/
def neighbours (before : Option Char) : List Char → List (Option Char × Option Char)
  | [] => [(before, none)]
  | c :: cs => (before, some c) :: neighbours (some c) cs

/-- Where matches that start at the marked positions may end. -/
def Expr.reach (text : List Char) : Expr → Marks → Marks
  | empty, m => m
  | one set, m => false :: List.zipWith (fun b c => b && set.mem c.toNat) m text
  | assert a, m => List.zipWith (fun b p => b && a.holds p.1 p.2) m (neighbours none text)
  | seq a b, m => b.reach text (a.reach text m)
  | alt a b, m => (a.reach text m).join (b.reach text m)
  | repeated a least most, m =>
    let start := times (a.reach text) least m
    let rounds := match most with
      | some most => most - least
      | none => text.length + 1
    gather (a.reach text) rounds start start
  | captured a, m => a.reach text m

/-- Whether an expression matches somewhere in a text. -/
def Expr.occursIn (e : Expr) (text : List Char) : Bool :=
  (e.reach text (List.replicate (text.length + 1) true)).any id

end Understudy.Regex

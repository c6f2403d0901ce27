import Understudy.Criterion
import Understudy.Regex.Pattern

/-!
# Matchers

A matcher is a constraint on one argument: a literal, anything, a range, or a
predicate. Predicates are functions and cannot be compared, so each carries a
key; two predicates are the same one exactly when their keys agree, and whoever
makes predicates gives different ones different keys.

A predicate that fails to answer is an error of the test, never a mismatch:
`Matcher.accepts` then gives a `MatcherError` that names the matcher and the value.
Whoever asks why a value was rejected has no such protection. The explanation of a
predicate may panic, and nothing stops that panic on its way to the caller.
-/

namespace Understudy

/-- Why a predicate gave no answer: it raised an error, or it panicked, with a message or
without one. -/
inductive PredicateFault where
  | raised (message : String)
  | panicked (message : Option String)
deriving DecidableEq, Repr

/-- The wording of a fault. -/
def PredicateFault.message : PredicateFault → String
  | raised message => message
  | panicked (some message) => "panicked: " ++ message
  | panicked none => "panicked"

/-- The end of an operation that was torn down by a panic. -/
structure Panic where
  message : String
deriving DecidableEq, Repr

/-- A condition on values, with the text that stands for it in messages. -/
structure Predicate where
  key : Nat
  description : String
  holds : Value → Except PredicateFault Bool
  /-- Why a value was rejected, if there is anything to say. It may panic. -/
  explain : Value → Except Panic (Option String) := fun _ => .ok none

/-- A constraint on one argument. -/
inductive Matcher where
  | exact (v : Value)
  | any
  /-- The values from `lo` to `hi`, both included. -/
  | range (lo hi : Value)
  | predicate (p : Predicate)

/-- A predicate that failed to answer, the value it failed on, and its message. -/
structure MatcherError where
  matcher : String
  value : String
  message : String
deriving DecidableEq, Repr

/-- The wording of a matcher error. -/
def MatcherError.text (e : MatcherError) : String :=
  "matcher " ++ e.matcher ++ " failed while evaluating " ++ e.value ++ ": " ++ e.message

/-- What keeps a question about rejected arguments from an answer: a matcher fails, or an
explanation panics. -/
inductive Breakdown where
  | failed (e : MatcherError)
  | panicked (p : Panic)
deriving DecidableEq, Repr

instance : MonadLift (Except MatcherError) (Except Breakdown) := ⟨Except.mapError .failed⟩

instance : MonadLift (Except Panic) (Except Breakdown) := ⟨Except.mapError .panicked⟩

namespace Matcher

/-- The characters of a matcher's text. -/
def chars : Matcher → List Char
  | exact v => v.chars
  | any => ['_']
  | range lo hi => lo.chars ++ "..=".toList ++ hi.chars
  | predicate p => p.description.toList

/-- How a matcher appears in messages. -/
def text (m : Matcher) : String := String.ofList m.chars

/-- Whether a matcher accepts a value. -/
def accepts (m : Matcher) (v : Value) : Except MatcherError Bool :=
  match m with
  | exact expected => .ok (expected.same v)
  | any => .ok true
  | range lo hi => .ok (lo.atMost v && v.atMost hi)
  | predicate p => (p.holds v).mapError fun fault => ⟨p.description, v.text, fault.message⟩

/-- What a matcher has to say about a value that it rejected. -/
def explain (m : Matcher) (v : Value) : Except Panic (Option String) :=
  match m with
  | predicate p => p.explain v
  | exact _ | any | range .. => .ok none

/-- Whether two matchers accept the same values as far as can be told without running a
predicate. -/
def equivalent : Matcher → Matcher → Bool
  | exact a, exact b => a.same b
  | any, any => true
  | range lo hi, range lo' hi' => lo.same lo' && hi.same hi'
  | predicate p, predicate q => p.key = q.key
  | _, _ => false

/-- The literal values a matcher names. -/
def literals : Matcher → List Value
  | exact v => [v]
  | range lo hi => [lo, hi]
  | any | predicate _ => []

end Matcher

/-! ## Stock predicates -/

/-- Whether a list occurs in another as a run of neighbours. -/
def occursIn (needle : List Char) : List Char → Bool
  | [] => needle.isEmpty
  | c :: cs => needle.isPrefixOf (c :: cs) || occursIn needle cs

namespace Predicate

/-- A predicate that always answers. -/
def total (key : Nat) (description : String) (holds : Value → Bool) : Predicate :=
  { key, description, holds := fun v => .ok (holds v) }

/-- A predicate on strings, false of all other values. -/
def onString (key : Nat) (description : String) (holds : List Char → Bool) : Predicate :=
  total key description fun v => v.string?.any fun s => holds s.toList

/-- The values other than `v`. -/
def differs (key : Nat) (v : Value) : Predicate :=
  total key ("ne(" ++ v.text ++ ")") fun a => !a.same v

/-- Null alone. -/
def isNull (key : Nat) : Predicate := total key "null" Value.isNull

/-- Everything but null. -/
def isPresent (key : Nat) : Predicate := total key "not_null" fun v => !v.isNull

/-- The numbers at most `delta` away from `x`, measured in doubles. -/
def near (key : Nat) (x delta : Binary) : Predicate :=
  total key ("approx(" ++ x.text .double ++ ", " ++ delta.text .double ++ ")") fun v =>
    v.toDouble?.any fun a => (Binary.sub .double a x).abs.atMost delta

/-- The strings that contain a text. -/
def contains (key : Nat) (needle : String) : Predicate :=
  onString key ("contains(" ++ Text.quotedString needle ++ ")") (occursIn needle.toList)

/-- The strings that start with a text. -/
def startsWith (key : Nat) (start : String) : Predicate :=
  onString key ("starts_with(" ++ Text.quotedString start ++ ")") (start.toList.isPrefixOf ·)

/-- The strings that end with a text. -/
def endsWith (key : Nat) (ending : String) : Predicate :=
  onString key ("ends_with(" ++ Text.quotedString ending ++ ")") (ending.toList.isSuffixOf ·)

/-- The strings in which a regular expression matches somewhere. A pattern that cannot be read
makes the predicate fail on every value. -/
def matchesPattern (key : Nat) (pattern : String) : Predicate :=
  let description := "matches(" ++ Text.quotedString pattern ++ ")"
  match Regex.Expr.read pattern with
  | .ok e => onString key description e.occursIn
  | .error e => { key, description, holds := fun _ => .error (.raised (e.report pattern)) }

/-- The values that meet a criterion; a rejected value is explained by its case tree. -/
def ofCriterion (key : Nat) (c : Criterion) : Predicate :=
  { key
    description := c.text
    holds := fun v => .ok (c.holds v)
    explain := fun v => .ok ((c.findCase false v).map CaseTree.render) }

end Predicate

end Understudy

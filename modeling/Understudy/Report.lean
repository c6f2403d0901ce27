import Understudy.Count
import Understudy.Log
import Understudy.Matcher

/-!
# What went wrong, and how it is told

Two kinds of things go wrong. A `SessionError` is a misuse of the session, told at
once to whoever caused it. A `Mismatch` is a discrepancy between what a test
expects and what happened; mismatches are collected and told together.

Each of them is data, and its wording is a function of it.
-/

namespace Understudy

/-- The stages in the life of a session. -/
inductive Phase where
  /-- Types are declared, and nothing was recorded or called yet. -/
  | declared
  /-- A record block is open. -/
  | recording
  /-- Calls are answered. -/
  | replaying
  /-- A verification was run. -/
  | verifying
  /-- The session is over. -/
  | closed
deriving DecidableEq, Repr

/-- The word for a phase. -/
def Phase.text : Phase → String
  | declared => "declared"
  | recording => "recording"
  | replaying => "replaying"
  | verifying => "verifying"
  | closed => "closed"

/-- A misuse of a session, or a matcher that failed to answer. -/
inductive SessionError where
  /-- A call or pattern names a type that was never declared. -/
  | undeclaredTarget (target : Target)
  /-- The arguments given are more or fewer than the parameters. -/
  | arityMismatch (subject : String) (expected actual : Nat)
  /-- An argument does not fit its parameter. -/
  | argumentType (subject : String) (index : Nat) (expected : ValueType) (actual : Value)
  /-- The minimum exceeds the maximum. -/
  | invalidBounds (subject : String) (min max : Nat)
  /-- A block is to run zero times. -/
  | invalidIterations
  /-- A gap stands in a block that does not check the order. -/
  | unverifiedOutsideOrder
  /-- The phase does not allow the operation. -/
  | invalidPhase (operation : String) (phase : Phase)
  /-- The session is over. -/
  | sessionClosed
  /-- A type is declared again with other options. -/
  | conflictingDeclaration (typeName : String) (existing requested : Options)
  /-- A predicate failed while a call was matched. -/
  | matcherEvaluation (e : MatcherError)

/-- The wording of a session error. -/
def SessionError.text : SessionError → String
  | undeclaredTarget target => target.text ++ " is not a declared mock target"
  | arityMismatch subject expected actual =>
    subject ++ ": expected " ++ toString expected ++ " arguments, got " ++ toString actual
  | argumentType subject index expected actual =>
    subject ++ ": argument #" ++ toString index ++ " of type " ++ actual.typeName
      ++ " does not fit parameter type " ++ expected.text
  | invalidBounds subject min max =>
    subject ++ ": minimum of " ++ toString min ++ " calls exceeds maximum of " ++ toString max
  | invalidIterations => "a block must run at least one iteration"
  | unverifiedOutsideOrder =>
    "unverified invocations can only be placed in an in-order verification block"
  | invalidPhase operation phase =>
    "cannot " ++ operation ++ " while the session is " ++ phase.text
  | sessionClosed => "the mock session is closed"
  | conflictingDeclaration typeName existing requested =>
    typeName ++ " is already declared as " ++ existing.text ++ ", cannot redeclare it as "
      ++ requested.text
  | matcherEvaluation e => e.text

/-! ## Rejected arguments -/

/-- The kinds of constraint that reject an argument. -/
inductive RejectionKind where
  | equality
  | range
  | predicate
deriving DecidableEq, Repr

/-- An argument that a matcher rejected: which one, why, and both texts. -/
structure Rejection where
  argument : Nat
  kind : RejectionKind
  actual : String
  expected : String
  explanation : Option String := none
deriving DecidableEq, Repr

/-- The rejected arguments of a call, each with the place of the expectation in its table. -/
abbrev Rejections := List (Nat × Rejection)

/-- What stands in front of a rejection. -/
def RejectionKind.heading : RejectionKind → String
  | equality => "Equality mismatch for "
  | range => "Range mismatch for "
  | predicate => "Predicate mismatch for "

/-- What stands below the heading of a rejection. -/
def Rejection.detail (r : Rejection) : String :=
  match r.kind with
  | .equality =>
    if r.actual = r.expected then
      "Actual value did not equal expected value, but their representations are identical: "
        ++ r.actual
    else "  actual: " ++ r.actual ++ "\nexpected: " ++ r.expected
  | .range => r.actual ++ " is outside " ++ r.expected
  | .predicate =>
    r.actual ++ " rejected by " ++ r.expected ++
      match r.explanation with
      | some explanation => "\n" ++ explanation
      | none => ""

namespace Rejections

/-- Whether all rejections are of one expectation. -/
def ofOneExpectation (rs : Rejections) : Bool :=
  match rs with
  | [] => true
  | (i, _) :: rest => rest.all fun r => r.1 = i

/-- The rejections one below the other. The expectation is numbered unless it is the only
one. -/
def text (rs : Rejections) : String :=
  String.join <| rs.map fun (i, r) =>
    let place := "argument #" ++ toString r.argument
    let place :=
      if ofOneExpectation rs then place else "expectation #" ++ toString i ++ ", " ++ place
    let sides :=
      if r.kind = .equality ∧ r.actual ≠ r.expected then " (actual / expected)" else ""
    "\n" ++ r.kind.heading ++ place ++ sides ++ ":\n" ++ r.detail

end Rejections

/-! ## Discrepancies -/

/-- Why a call on a strict or exhausted expectation was flagged. -/
inductive Reason where
  /-- Some expectation matches and has capacity, but it is not its turn. The text names the
  expectation whose turn it is. -/
  | outOfOrder (expected : String)
  /-- Every matching expectation has used up its maximum; the first of them is named. -/
  | exceededMaxTimes (expectation : String) (bounds : Bounds)
  /-- No expectation accepts the arguments. -/
  | noMatch (rejections : Rejections)

/-- A discrepancy between the expectations of a test and the calls that were made. -/
inductive Mismatch where
  /-- A call was flagged when it was made. -/
  | unexpected (call : Invocation) (reason : Reason)
  /-- An expectation saw too few calls. -/
  | missing (expectation : String) (bounds : Bounds) (actual : Nat)
  /-- A verified expectation saw too many calls. -/
  | tooMany (expectation : String) (bounds : Bounds) (actual : Nat)
  /-- A verified expectation has its calls, but they came too early. -/
  | unordered (expectation : String) (call : Invocation)
  /-- A predicate failed while a call was matched. -/
  | matcherEvaluation (e : MatcherError)
  /-- A full verification found a call that no expectation accounts for. -/
  | unverified (call : Invocation)
  /-- A verification or a change of bounds was malformed. -/
  | misuse (e : SessionError)

/-- The wording of a reason, for a call. -/
def Reason.text (call : Invocation) : Reason → String
  | outOfOrder expected =>
    "Unexpected invocation " ++ call.text ++ ": called out of order. Expected a call matching "
      ++ expected ++ "."
  | exceededMaxTimes expectation bounds =>
    "Unexpected invocation " ++ call.text ++ ": " ++ expectation ++ " allows " ++ bounds.text
      ++ ", and was already satisfied."
  | noMatch rejections =>
    "Unexpected invocation " ++ call.text ++ ": no matching expectations." ++ rejections.text

/-- The wording of a mismatch. -/
def Mismatch.text : Mismatch → String
  | unexpected call reason => reason.text call
  | missing expectation bounds actual =>
    "Missing invocation of " ++ expectation ++ ": expected " ++ bounds.text ++ ", but got "
      ++ callsText actual ++ "."
  | tooMany expectation bounds actual =>
    "Unexpected invocations of " ++ expectation ++ ": expected " ++ bounds.text ++ ", but got "
      ++ callsText actual ++ "."
  | unordered expectation call =>
    "Unordered invocation of " ++ expectation ++ ": its matching call " ++ call.text
      ++ " happened before the preceding verified calls."
  | matcherEvaluation e => "Matcher evaluation error: " ++ e.text
  | unverified call => "Unverified invocation " ++ call.text ++ "."
  | misuse e => "Invalid verification: " ++ e.text

/-- Whether a mismatch says that calls are missing. -/
def Mismatch.isMissing : Mismatch → Bool
  | missing .. => true
  | _ => false

/-- Mismatches numbered from one, each on a new line. -/
def numbered : Nat → List Mismatch → String
  | _, [] => ""
  | n, m :: ms => "\n" ++ toString n ++ ". " ++ m.text ++ numbered (n + 1) ms

/-- The report of a check that found mismatches. -/
def failureText (ms : List Mismatch) : String :=
  let heading :=
    if ms.length = 1 then "Mock verification failed:"
    else "Mock verification failed with " ++ toString ms.length ++ " errors:"
  heading ++ numbered 1 ms

end Understudy

import Understudy.Script

/-!
# Patterns and expectations

A pattern describes calls: a target, a method, and one matcher for each argument.
`Pattern.accepts` tries the arguments from left to right and stops at the first one
that is rejected. `Pattern.rejections` tries all of them and explains each rejection, to
tell a reader what is wrong with a call; it therefore runs into faults of matchers that
`accepts` never reaches, and into explanations that panic.

An expectation is a pattern with a script, a counter, and what is known about its
turn.
-/

namespace Understudy

/-- A description of calls. `site` says where it was written. -/
structure Pattern where
  target : Target
  signature : Signature
  args : List Matcher
  site : String

/-- Whether every matcher accepts the argument in its place, tried from left to right up to the
first rejection. -/
def acceptsEach : List Matcher → List Value → Except MatcherError Bool
  | m :: ms, v :: vs => do
    if ← m.accepts v then acceptsEach ms vs else return false
  | _, _ => .ok true

/-- The report of a matcher that rejected an argument, with what it has to say about it. -/
def Matcher.rejection (m : Matcher) (index : Nat) (v : Value) (explanation : Option String) :
    Rejection :=
  { argument := index
    kind := match m with
      | .exact _ => .equality
      | .range .. => .range
      | .any | .predicate _ => .predicate
    actual := v.text
    expected := m.text
    explanation }

/-- The rejected arguments, all of them, the first argument having the given index. -/
def rejectionsFrom (index : Nat) : List Matcher → List Value → Except Breakdown (List Rejection)
  | m :: ms, v :: vs => do
    if ← m.accepts v then rejectionsFrom (index + 1) ms vs
    else
      let explanation ← m.explain v
      let rest ← rejectionsFrom (index + 1) ms vs
      return m.rejection index v explanation :: rest
  | _, _ => .ok []

namespace Pattern

/-- The target, the method's name, the matchers, and where the pattern was written. -/
def description (p : Pattern) : String :=
  String.ofList (p.target.text.toList ++ '.' :: (p.signature.name.toList ++ '(' ::
    (commaSeparated (p.args.map Matcher.chars) ++ ')' :: " at ".toList ++ p.site.toList)))

/-- Whether a call goes to the target and the method of the pattern, whatever its arguments. -/
def targets (p : Pattern) (c : Invocation) : Bool :=
  p.target.covers c.target && p.signature.sameMethod c.signature

/-- Whether the pattern describes a call. -/
def accepts (p : Pattern) (c : Invocation) : Except MatcherError Bool :=
  if p.targets c && p.args.length = c.args.length then acceptsEach p.args c.args
  else .ok false

/-- The arguments of a call that the pattern rejects. -/
def rejections (p : Pattern) (c : Invocation) : Except Breakdown (List Rejection) :=
  if p.targets c && p.args.length = c.args.length then rejectionsFrom 0 p.args c.args
  else .ok []

/-- Whether two patterns have the same target, the same method and equivalent matchers. -/
def identical (p q : Pattern) : Bool :=
  p.target = q.target && p.signature.sameMethod q.signature && p.args.length = q.args.length
    && (List.zipWith Matcher.equivalent p.args q.args).all id

/-- The first argument whose literals do not all fit its parameter, with that parameter and the
first literal that does not. -/
def misfit? (index : Nat) : List ValueType → List Matcher → Option (Nat × ValueType × Value)
  | t :: ts, m :: ms =>
    match m.literals.find? fun v => !t.admits v with
    | some v => some (index, t, v)
    | none => misfit? (index + 1) ts ms
  | _, _ => none

/-- A pattern is well formed if it has one matcher for each parameter and its literals fit their
parameters. -/
def check (p : Pattern) : Except SessionError Unit :=
  let arity := p.signature.arity
  if arity ≠ p.args.length then .error (.arityMismatch p.description arity p.args.length)
  else match misfit? 0 p.signature.params p.args with
    | some (index, type, v) => .error (.argumentType p.description index type v)
    | none => .ok ()

/-- The bounds meant for a pattern by a quantifier, unless they contradict each other. -/
def resolveBounds (p : Pattern) (q : Quantifier) (default : Bounds) (results : Nat) :
    Except SessionError Bounds :=
  let b := q.resolve default results
  match b.shortMax? with
  | some max => .error (.invalidBounds p.description b.min max)
  | none => .ok b

/-- Bounds are accepted as they are meant, provided that they are consistent. -/
theorem resolveBounds_eq_ok_iff {p : Pattern} {q : Quantifier} {default : Bounds} {results : Nat}
    {b : Bounds} : p.resolveBounds q default results = .ok b ↔
      (q.resolve default results).consistent = true ∧ b = q.resolve default results := by
  rw [Bounds.consistent_iff]
  unfold resolveBounds
  dsimp only
  cases (q.resolve default results).shortMax? with
  | some max =>
    constructor
    · intro h
      cases h
    · rintro ⟨h, -⟩
      cases h
  | none =>
    constructor
    · intro h
      exact ⟨rfl, (Except.ok.inj h).symm⟩
    · rintro ⟨-, rfl⟩
      rfl

end Pattern

/-- A recorded pattern with its results. -/
structure Expectation where
  pattern : Pattern
  script : Script
  counter : Counter
  /-- Whether the expectation has a place in the recorded order. -/
  ordered : Bool
  /-- The number of the last answer given, among all answers of the table. -/
  lastMatched : Option Nat := none

namespace Expectation

/-- Whether the expectation may answer one more call. -/
def hasCapacity (e : Expectation) : Bool := e.counter.hasCapacity

/-- Whether the expectation has had enough calls. -/
def satisfied (e : Expectation) : Bool := e.counter.satisfied

/-- Whether the expectation answers a call: it has capacity, and then its pattern accepts. -/
def answers (e : Expectation) (c : Invocation) : Except MatcherError Bool :=
  if e.hasCapacity then e.pattern.accepts c else .ok false

/-- The same pattern, script and bounds with no call counted yet. -/
def rearmed (e : Expectation) : Expectation :=
  { e with counter := ⟨e.counter.bounds, 0⟩, lastMatched := none }

/-- The scripted action for the call of index `i`; an empty script returns the default value of
the pattern's result type. -/
def actionAt (e : Expectation) (i : Nat) : Action :=
  (e.script.actionAt i).getD (.returns e.pattern.signature.returns.defaultValue)

/-- The expectation after one more call, whose number among the table's answers is given. -/
def counted (e : Expectation) (number : Nat) : Expectation :=
  { e with counter := e.counter.tick, lastMatched := some number }

/-- The mismatch of an expectation that was called too rarely. -/
def deficit? (e : Expectation) : Option Mismatch :=
  if e.satisfied then none
  else some (.missing e.pattern.description e.counter.bounds e.counter.count)

end Expectation

end Understudy

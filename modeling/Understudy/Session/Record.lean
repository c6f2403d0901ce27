import Understudy.Iteration
import Understudy.Session.Basic

/-!
# Recording expectations

A record block is a list of drafts and a number of iterations. It is checked as a
whole before anything is added: `Session.commit` either adds every expectation of the
block or gives the first error and adds none.

Iterations repeat the ordered drafts as a sequence and multiply the bounds of the
others. The first round stands in the order of the block; the further rounds follow
it with the ordered expectations alone.
-/

namespace Understudy

/-- An expectation as it is written in a record block. -/
structure Draft where
  pattern : Pattern
  script : Script := []
  quantifier : Quantifier := {}
  /-- Whether the expectation is exempt from the recorded order. -/
  unordered : Bool := false

namespace Draft

/-- One more scripted result. -/
def action (a : Action) (d : Draft) : Draft := { d with script := d.script ++ [a] }

/-- One more value to return. -/
def returns (v : Value) (d : Draft) : Draft := d.action (.returns v)

/-- Several more values to return. -/
def returnsEach (vs : List Value) (d : Draft) : Draft := vs.foldl (fun d v => d.returns v) d

/-- Exactly `n` calls. -/
def times (n : Nat) (d : Draft) : Draft := { d with quantifier := d.quantifier.times n }

/-- At least `n` calls. -/
def minTimes (n : Nat) (d : Draft) : Draft := { d with quantifier := d.quantifier.minTimes n }

/-- At most `n` calls. -/
def maxTimes (n : Nat) (d : Draft) : Draft := { d with quantifier := d.quantifier.maxTimes n }

/-- No calls. -/
def never (d : Draft) : Draft := d.times 0

/-- Exempt from the recorded order. -/
def inAnyOrder (d : Draft) : Draft := { d with unordered := true }

/-- Whether a draft has a place in the recorded order of a type. -/
def isOrdered (d : Draft) (o : Options) : Bool := o.strictness = .strict && !d.unordered

/-- The bounds of a draft about which nothing else is said. -/
def defaultBounds (ordered : Bool) : Bounds := if ordered then .exactly 1 else .atLeast 0

/-- The expectation that a draft stands for in a block of `n` iterations. -/
def expectation (d : Draft) (o : Options) (n : Nat) : Except SessionError Expectation := do
  d.pattern.check
  let ordered := d.isOrdered o
  let bounds ← d.pattern.resolveBounds d.quantifier (defaultBounds ordered) d.script.length
  let bounds := if ordered then bounds else bounds.repeated n
  return { pattern := d.pattern, script := d.script, counter := ⟨bounds, 0⟩, ordered }

end Draft

/-- A record block. -/
structure Recording where
  drafts : List Draft := []
  iterations : Nat := 1

namespace Session

/-- The expectations that drafts stand for, each with the type it belongs to. -/
def assembleDrafts (s : Session) (n : Nat) :
    List Draft → Except SessionError (List (String × Expectation))
  | [] => .ok []
  | d :: ds => do
    match s.table? d.pattern.target.typeName with
    | none => .error (.undeclaredTarget d.pattern.target)
    | some t =>
      let e ← d.expectation t.options n
      let rest ← assembleDrafts s n ds
      return (d.pattern.target.typeName, e) :: rest

/-- The ordered expectations of a round, once more. -/
def nextRound (es : List (String × Expectation)) : List (String × Expectation) :=
  (es.filter fun e => e.2.ordered).map fun e => (e.1, e.2.rearmed)

/-- All expectations of a block, in the order they are added. -/
def assemble (s : Session) (r : Recording) : Except SessionError (List (String × Expectation)) :=
  if r.iterations = 0 then .error .invalidIterations
  else do
    let first ← s.assembleDrafts r.iterations r.drafts
    return first ++ writtenOut (r.iterations - 1) (nextRound first)

/-- The expectations that belong to a type, in their order. -/
def ofType (typeName : String) (es : List (String × Expectation)) : List Expectation :=
  es.filterMap fun e => if e.1 = typeName then some e.2 else none

/-- Adds expectations to the tables of their types. -/
def addExpectations (s : Session) (es : List (String × Expectation)) : Session :=
  { s with tables := s.tables.map fun (n, t) => (n, t.addAll (ofType n es)) }

/-- Adds all expectations of a block, or none if the block is rejected. -/
def commit (s : Session) (r : Recording) : Except SessionError Session :=
  (s.assemble r).map s.addExpectations

/-- Closes a record block: its expectations are added or its error is told, and from then on
calls are answered. -/
def closeRecord (s : Session) (r : Recording) : Except SessionError Unit × Session :=
  match s.commit r with
  | .ok s => (.ok (), s.endRecord)
  | .error e => (.error e, s.endRecord)

/-- Records a block. -/
def record (s : Session) (r : Recording) : Except SessionError Unit × Session :=
  match s.beginRecord with
  | .ok s => s.closeRecord r
  | .error e => (.error e, s)

/-- Each table gets the expectations of its type. -/
theorem table?_addExpectations (s : Session) (es : List (String × Expectation))
    (typeName : String) :
    (s.addExpectations es).table? typeName =
      (s.table? typeName).map (·.addAll (ofType typeName es)) := by
  simp only [table?, addExpectations]
  induction s.tables with
  | nil => simp
  | cons entry rest ih =>
    obtain ⟨n, t⟩ := entry
    rw [List.map_cons, lookup_entry, lookup_entry, ih]
    by_cases h : typeName = n <;> simp [h]

end Session

end Understudy

import Understudy.Pattern

/-!
# The table of a declared type

A table holds the expectations of one type and decides which of them answers a
call. What it decides is a `Resolution`; answering counts the call and is the only
resolution that changes the table.

On a strict type the ordered expectations form a sequence with a cursor at the last
one that answered. A call goes to the first expectation from the cursor on that
answers it, passing over satisfied ones only; if there is none, to the first
unordered one. On a lenient type the expectation that answered most recently is
asked first, and those that never answered come last, in table order.
-/

namespace Understudy

/-- The expectations of a declared type. -/
structure Table where
  options : Options
  expectations : List Expectation := []
  /-- The place of the ordered expectation that answered last. -/
  cursor : Option Nat := none
  /-- How many calls were answered. -/
  answered : Nat := 0

/-- What a table makes of a call. -/
inductive Resolution where
  /-- The expectation at `index` answers; `callIndex` counts the calls it answered before. -/
  | matched (index callIndex : Nat) (bounds : Bounds) (action : Action)
  /-- No expectation of a lenient type matches. -/
  | unmatched
  | unexpected (reason : Reason)

/-- How far the recorded sequence goes along with a call. -/
inductive Turn where
  /-- The expectation at this place answers. -/
  | answers (index : Nat)
  /-- The expectation at this place must have its calls first. -/
  | blocked (index : Nat)
  /-- Every expectation up to the end is satisfied, and none answers. -/
  | passed

/-- Follows the recorded sequence, the first expectation being at `index`. -/
def findTurn (c : Invocation) : Nat → List Expectation → Except MatcherError Turn
  | _, [] => .ok .passed
  | index, e :: es =>
    if e.ordered then do
      if ← e.answers c then return .answers index
      else if e.satisfied then findTurn c (index + 1) es
      else return .blocked index
    else findTurn c (index + 1) es

/-- The first unordered expectation that answers a call. -/
def findUnordered (c : Invocation) : Nat → List Expectation → Except MatcherError (Option Nat)
  | _, [] => .ok none
  | index, e :: es =>
    if e.ordered then findUnordered c (index + 1) es
    else do
      if ← e.answers c then return some index else findUnordered c (index + 1) es

/-- What the expectations that match a call say about it: the first of them to have capacity,
or else the first of them. -/
inductive Coverage where
  | available (index : Nat) (e : Expectation)
  | exhausted (index : Nat) (e : Expectation)
  | none

/-- Looks for a matching expectation with capacity among numbered ones, remembering the first
matching one without. -/
def findCoverage (c : Invocation) (first : Option (Nat × Expectation)) :
    List (Nat × Expectation) → Except MatcherError Coverage
  | [] => .ok <| match first with
    | some (index, e) => .exhausted index e
    | none => .none
  | (index, e) :: es => do
    if ← e.pattern.accepts c then
      if e.hasCapacity then return .available index e
      else findCoverage c (first.or (some (index, e))) es
    else findCoverage c first es

/-- The rejected arguments of a call over all expectations for its target and method. -/
def collectRejections (c : Invocation) :
    List (Nat × Expectation) → Except Breakdown Rejections
  | [] => .ok []
  | (index, e) :: es => do
    let here ← if e.pattern.targets c then e.pattern.rejections c else .ok []
    let rest ← collectRejections c es
    return here.map (index, ·) ++ rest

/-- An exhausted expectation as the reason for flagging a call. -/
def Expectation.exceeded (e : Expectation) : Reason :=
  .exceededMaxTimes e.pattern.description e.counter.bounds

namespace Table

/-- The expectations with their places in the table. -/
def numbered (t : Table) : List (Nat × Expectation) :=
  t.expectations.zipIdx.map fun (e, i) => (i, e)

/-- The order in which a lenient type asks its expectations: the latest answer first, and those
that never answered last. -/
def asksBefore (a b : Nat × Expectation) : Bool :=
  match a.2.lastMatched, b.2.lastMatched with
  | some m, some n => n ≤ m
  | some _, none => true
  | none, some _ => false
  | none, none => true

/-- The expectations of a lenient type in the order they are asked. -/
def candidates (t : Table) : List (Nat × Expectation) := t.numbered.mergeSort asksBefore

/-- Has the expectation at a place answer a call. -/
def answer (t : Table) (index : Nat) : Resolution × Table :=
  match t.expectations[index]? with
  | some e =>
    let number := t.answered + 1
    let call := e.counter.count
    (.matched index call e.counter.bounds (e.actionAt call),
      { t with
        expectations := t.expectations.set index (e.counted number)
        answered := number })
  | none => (.unmatched, t)

/-- The place the recorded sequence has come to. -/
def position (t : Table) : Nat := t.cursor.getD 0

/-- Why no expectation of a strict type answers a call. `blocker` is the place of the
expectation whose turn it is. -/
def classify (t : Table) (c : Invocation) (blocker : Option Nat) : Except Breakdown Reason := do
  match ← findCoverage c none t.numbered with
  | .available .. =>
    return .outOfOrder <| match blocker.bind (t.expectations[·]?) with
      | some e => e.pattern.description
      | none => "nothing further, the recorded sequence is complete"
  | .exhausted _ e => return e.exceeded
  | .none => return .noMatch (← collectRejections c t.numbered)

/-- What a strict type makes of a call. -/
def resolveStrict (t : Table) (c : Invocation) : Except Breakdown (Resolution × Table) := do
  let turn ← findTurn c t.position (t.expectations.drop t.position)
  match turn with
  -- The sequence has come to the answering expectation and never goes back.
  | .answers index => return ({ t with cursor := some index } : Table).answer index
  | turn =>
    match ← findUnordered c 0 t.expectations with
    -- An unordered expectation leaves the sequence where it is.
    | some index => return t.answer index
    | none =>
      let blocker := match turn with
        | .blocked index => some index
        | _ => none
      return (.unexpected (← t.classify c blocker), t)

/-- What a lenient type makes of a call. -/
def resolveLenient (t : Table) (c : Invocation) : Except Breakdown (Resolution × Table) := do
  match ← findCoverage c none t.candidates with
  | .available index _ => return t.answer index
  | .exhausted _ e => return (.unexpected e.exceeded, t)
  | .none => return (.unmatched, t)

/-- What the table makes of a call, and the table afterwards. -/
def resolve (t : Table) (c : Invocation) : Except Breakdown (Resolution × Table) :=
  match t.options.strictness with
  | .strict => t.resolveStrict c
  | .lenient => t.resolveLenient c

/-- Replaces the first element that satisfies a condition, if there is one. -/
def replaceFirst? {α : Type} (p : α → Bool) (new : α) : List α → Option (List α)
  | [] => none
  | x :: xs => if p x then some (new :: xs) else (replaceFirst? p new xs).map (x :: ·)

/-- Adds a recorded expectation at the end. On a lenient type it takes the place of an identical
earlier one instead. -/
def add (t : Table) (e : Expectation) : Table :=
  let replaced :=
    match t.options.strictness with
    | .strict => none
    | .lenient =>
      replaceFirst? (fun old : Expectation => old.pattern.identical e.pattern) e t.expectations
  { t with expectations := replaced.getD (t.expectations ++ [e]) }

/-- Adds recorded expectations one after another. On a strict type they all go to the end. -/
def addAll (t : Table) (es : List Expectation) : Table :=
  match t.options.strictness with
  | .strict => { t with expectations := t.expectations ++ es }
  | .lenient => es.foldl add t

/-- Gives the expectation at a place other bounds, unless they contradict each other. A place
that is not in the table changes nothing. -/
def setBounds (t : Table) (index : Nat) (b : Bounds) : Except SessionError Table :=
  match t.expectations[index]? with
  | none => .ok t
  | some e =>
    match b.shortMax? with
    | some max => .error (.invalidBounds e.pattern.description b.min max)
    | none => .ok { t with expectations := t.expectations.set index { e with counter.bounds := b } }

/-- The expectations that were called too rarely, in table order. -/
def deficits (t : Table) : List Mismatch := t.expectations.filterMap Expectation.deficit?

@[simp] theorem add_options (t : Table) (e : Expectation) : (t.add e).options = t.options := rfl

/-- Adding expectations together is adding them one after another. -/
theorem addAll_eq_foldl (t : Table) (es : List Expectation) : t.addAll es = es.foldl add t := by
  unfold addAll
  split
  · rename_i strict
    induction es generalizing t with
    | nil => simp
    | cons e es ih =>
      rw [List.foldl_cons, ← ih (t.add e) (by simpa using strict)]
      simp [add, strict]
  · rfl

end Table

end Understudy

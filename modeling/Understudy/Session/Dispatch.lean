import Understudy.Session.Basic

/-!
# Answering calls

A call is answered in at most three steps. `Session.enter` logs it and asks the
table of its type; this settles every call but those answered by a delegate. A
delegate then runs outside the table, with the bounds as they were when the call was
resolved. At last `Session.applyBounds` sets the bounds the delegate asked for.

A call gets its number before the table is asked and its place in the log after that.
A table that is to explain a call runs explanations of predicates, and if one of them
panics in between, the call is torn down: its number is gone and the log never has it.

A delegate may make further calls, which are answered in the same way before it goes
on. How deep they may nest is up to the stack of the program, and `Session.dispatch`
is given that depth.
-/

namespace Understudy

/-- A call is well formed if it has one argument for each parameter and each of them fits. -/
def Call.misfit? (index : Nat) : List ValueType → List Value → Option (Nat × ValueType × Value)
  | t :: ts, v :: vs => if t.admits v then misfit? (index + 1) ts vs else some (index, t, v)
  | _, _ => none

/-- The target and the whole signature of a call. -/
def Call.subject (c : Call) : String := c.target.text ++ "." ++ c.signature.text

/-- Checks the arguments of a call against its signature. -/
def Call.check (c : Call) : Except SessionError Unit :=
  if c.args.length ≠ c.signature.arity then
    .error (.arityMismatch c.subject c.signature.arity c.args.length)
  else match Call.misfit? 0 c.signature.params c.args with
    | some (index, type, v) => .error (.argumentType c.subject index type v)
    | none => .ok ()

/-- What has become of a call that entered a session. -/
inductive Entered where
  /-- Nothing is left to do. -/
  | settled (reply : Reply)
  /-- An explanation panicked before the call was logged. -/
  | torn (p : Panic)
  /-- A delegate of the expectation at `index` answers. -/
  | delegated (index : Nat) (d : Delegate) (call : DelegateCall)

namespace Session

/-- What follows from a resolution. -/
def settle (s : Session) (policy : Policy) (c : Invocation) : Resolution → Entered × Session
  | .matched index callIndex bounds action =>
    match action with
    | .returns v => (.settled (.ok (.returned v)), s)
    | .throws e => (.settled (.ok (.thrown e)), s)
    | .callsReal => (.settled (.ok .callReal), s)
    | .delegates d => (.delegated index d ⟨c, callIndex + 1, bounds⟩, s)
  | .unmatched =>
    match policy with
    | .partially => (.settled (.ok .callReal), s)
    | .total => (.settled (.ok (.returned c.signature.returns.defaultValue)), s)
  | .unexpected reason =>
    let m := Mismatch.unexpected c reason
    (.settled (.ok (.unexpected m)), s.push m)

/-- Gives a call its number. -/
def observe (s : Session) (c : Call) : Invocation × Session :=
  let (i, log) := s.log.observe c
  (i, { s with log })

/-- Appends a numbered call to the log. -/
def append (s : Session) (i : Invocation) : Session := { s with log := s.log.append i }

/-- Logs a call. -/
def logCall (s : Session) (c : Call) : Invocation × Session :=
  let (i, s) := s.observe c
  (i, s.append i)

/-- Has the table of its type resolve a call, and logs it. A panic comes before the log. -/
def resolve (s : Session) (t : Table) (c : Call) : Entered × Session :=
  let (i, s) := s.observe c
  match t.resolve i with
  | .ok (r, t) => ((s.append i).setTable c.target.typeName t).settle t.options.policy i r
  | .error (.failed e) =>
    (.settled (.error (.matcherEvaluation e)), (s.append i).push (.matcherEvaluation e))
  | .error (.panicked p) => (.torn p, s)

/-- Lets a call in, logs it and resolves it. A call that no table is asked about is logged all the
same. -/
def enter (s : Session) (c : Call) : Entered × Session :=
  match s.beginDispatch with
  | .error e => (.settled (.error e), s)
  | .ok s =>
    match s.table? c.target.typeName with
    | none =>
      match s.config.fallback with
      | .refuse => (.settled (.error (.undeclaredTarget c.target)), (s.logCall c).2)
      | .callReal => (.settled (.ok .callReal), (s.logCall c).2)
    | some t =>
      match c.check with
      | .error e => (.settled (.error e), (s.logCall c).2)
      | .ok () => s.resolve t c

/-- Sets the bounds that a delegate asked for. Bounds that contradict each other are dropped and
remembered as a misuse. -/
def applyBounds (s : Session) (typeName : String) (index : Nat) (b : Bounds) : Session :=
  match s.table? typeName with
  | none => s
  | some t =>
    match t.setBounds index b with
    | .ok t => s.setTable typeName t
    | .error e => s.push (.misuse e)

/-- Applies the changes a delegate asked for, if any, to the expectation it answered for. -/
def applyChanges (s : Session) (index : Nat) (call : DelegateCall) (changes : List BoundChange) :
    Session :=
  match requestedBounds call.bounds changes with
  | some b => s.applyBounds call.invocation.target.typeName index b
  | none => s

/-- A way to have a call answered. -/
abbrev Dispatcher := Call → Session → Except Panic Reply × Session

/-- Runs a delegate to its end, its own calls being answered by `nested`. A panic in one of them
tears it down. -/
def follow (nested : Dispatcher) :
    Run → Session → Except Panic (List BoundChange × Except Thrown Value) × Session
  | .finished changes outcome, s => (.ok (changes, outcome), s)
  | .panicked message, s => (.error ⟨message⟩, s)
  | .calls c resume, s =>
    match nested c s with
    | (.ok reply, s) => follow nested (resume reply) s
    | (.error p, s) => (.error p, s)

/-- The decision that stands for the outcome of a delegate. -/
def decisionOf : Except Thrown Value → Decision
  | .ok v => .returned v
  | .error e => .thrown e

/-- Answers a call, the calls that its delegate makes being answered by `nested`. -/
def dispatchWith (nested : Dispatcher) : Dispatcher := fun c s =>
  match s.enter c with
  | (.settled reply, s) => (.ok reply, s)
  | (.torn p, s) => (.error p, s)
  | (.delegated index d call, s) =>
    match follow nested (d.answer call) s with
    | (.ok (changes, outcome), s) =>
      (.ok (.ok (decisionOf outcome)), s.applyChanges index call changes)
    | (.error p, s) => (.error p, s)

/-- What a call comes to that the stack has no room for. -/
def noRoom : Dispatcher := fun _ s => (.error ⟨"calls are nested too deeply"⟩, s)

/-- Answers a call whose delegate may make calls nested up to a depth. -/
def dispatchNested : Nat → Dispatcher
  | 0 => dispatchWith noRoom
  | depth + 1 => dispatchWith (dispatchNested depth)

/-- Answers a call, with room on the stack for calls nested up to a depth. -/
def dispatch (s : Session) (depth : Nat) (c : Call) : Except Panic Reply × Session :=
  dispatchNested depth c s

end Session

end Understudy

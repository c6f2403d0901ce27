import Understudy.Session.Dispatch
import Understudy.Session.Verify

/-!
# Handles and proxies

A session is reached through handles: the first one and its clones. They all act
alike until they end. Dropping a clone does nothing. Dropping the first handle runs the
final check and panics with its report, provided that it happens where the check can
be trusted: on the thread that made the session, and after all clones are gone.

A proxy makes calls for a stand-in. It turns what the session says into what the
stand-in gives its caller: misuse panics at once, and so does a flagged call if the
session is set to fail fast; otherwise a flagged call gets a default answer and is
told later.
-/

namespace Understudy

/-- Where and when a handle is dropped. -/
structure Departure where
  /-- Whether it is the first handle of its session. -/
  isFirst : Bool
  /-- How many other handles of the session are left. -/
  others : Nat
  thread : Thread := .home
  /-- Whether a panic is under way on this thread. -/
  unwinding : Bool := false

namespace Session

/-- The first handle was dropped while clones were left. -/
def clonesAlive : Panic :=
  ⟨"Mocks cannot verify calls, because the original instance got dropped while there are clones still alive."⟩

/-- The first handle was dropped on a thread that did not make the session. -/
def wrongThread : Panic :=
  ⟨"Original Mocks instance destroyed on a different thread than the one it was created on. To solve this, clone the object before sending it to the other thread."⟩

/-- What dropping a handle does to the session. -/
def drop (s : Session) (d : Departure) : Except Panic Unit × Session :=
  if !d.isFirst then (.ok (), s)
  else if !s.config.verifyOnDrop || d.unwinding then (.ok (), s.close)
  else if d.others ≠ 0 then (.error clonesAlive, s)
  else if d.thread ≠ .home then (.error wrongThread, s)
  else match s.finish with
    | ([], s) => (.ok (), s)
    | (ms, s) => (.error ⟨failureText ms⟩, s)

/-- The last handle was dropped on a thread other than the one that owns some delegate. -/
def delegateElsewhere : Panic := ⟨"destructor of fragile object ran on wrong thread"⟩

/-- Lets go of the whole session, which happens when its last handle is gone. The delegates bound
to a thread can only be let go of there. -/
def release (s : Session) (t : Thread) : Except Panic Unit :=
  if s.tables.any fun table => table.2.expectations.any fun e => e.script.isForeignTo t then
    .error delegateElsewhere
  else .ok ()

/-- Drops a handle, and lets go of the session with the last one. -/
def depart (s : Session) (d : Departure) : Except Panic Unit × Session :=
  match s.drop d with
  | (.ok (), s) => (if d.others = 0 then s.release d.thread else .ok (), s)
  | (.error p, s) => (.error p, s)

/-- What a proxy passes on to its caller, and whether the real method gave it. -/
structure Passed where
  outcome : Except Thrown Value
  ranReal : Bool := false

/-- A proxy was told to run a real method and has none. -/
def noRealMethod (c : Call) : Panic :=
  ⟨c.subject ++ " cannot call the real method as there is no function available to call."⟩

/-- What a proxy makes of a reply. `real` is the real method, if there is one. -/
def passOn (s : Session) (c : Call) (real : Option (List Value → Except Thrown Value)) :
    Reply → Except Panic Passed
  | .ok (.returned v) => .ok { outcome := .ok v }
  | .ok (.thrown e) => .ok { outcome := .error e }
  | .ok .callReal =>
    match real with
    | some real => .ok { outcome := real c.args, ranReal := true }
    | none => .error (noRealMethod c)
  | .ok (.unexpected m) =>
    if s.config.failFast then .error ⟨m.text⟩
    else .ok { outcome := .ok c.signature.returns.defaultValue }
  | .error e => .error ⟨e.text⟩

/-- Makes a call through a proxy. -/
def callThrough (s : Session) (depth : Nat) (c : Call)
    (real : Option (List Value → Except Thrown Value)) : Except Panic Passed × Session :=
  match s.dispatch depth c with
  | (.ok reply, s) => (s.passOn c real reply, s)
  | (.error p, s) => (.error p, s)

end Session

end Understudy

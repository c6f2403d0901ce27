import Understudy.Report

/-!
# Scripted results

An expectation answers its calls from a script, one action a call, and repeats the
last action once the script runs out (`Script.actionAt`). An action returns a value,
throws an error, hands the call on to the real method, or runs a delegate.

A delegate is a program of the test. What it does with one call is a tree of
type `Run`: it may make further calls on the session and go on with their replies, and
in the end it returns or throws, or it panics. It may also ask for other bounds of the
expectation that answered; the changes are applied after it has finished, all
together, and a delegate that panics asks for none.
-/

namespace Understudy

/-- An error thrown at the place of a call: a bare message, or an error of a type of the
test's own, which brings its form along. -/
inductive Thrown where
  | message (text : String)
  | typed (text form : String)
deriving DecidableEq, Repr

namespace Thrown

/-- The wording of an error. -/
def text : Thrown → String
  | message t => t
  | typed t _ => t

/-- The form of an error, which shows its type. -/
def form : Thrown → String
  | message t => "Thrown(ThrownMessage(" ++ Text.quotedString t ++ "))"
  | typed _ f => "Thrown(" ++ f ++ ")"

end Thrown

/-- What is to be done with a call. -/
inductive Decision where
  | returned (v : Value)
  | thrown (e : Thrown)
  /-- The real method is to run. -/
  | callReal
  /-- The call was flagged. -/
  | unexpected (m : Mismatch)

/-- What a session says to a call: a decision, or an error. -/
abbrev Reply := Except SessionError Decision

/-- What a delegate sees of the call it answers: the call itself, which one it is of those the
expectation answered, counting from one, and the bounds of the expectation. -/
structure DelegateCall where
  invocation : Invocation
  number : Nat
  bounds : Bounds

/-- A change of one side of the bounds. -/
inductive BoundChange where
  | min (n : Nat)
  | max (n : Nat)
deriving DecidableEq, Repr

/-- The bounds after one change. -/
def BoundChange.apply (b : Bounds) : BoundChange → Bounds
  | min n => { b with min := n }
  | max n => { b with max := some n }

/-- The bounds a delegate asks for, starting from those it saw; `none` if it asks for no
change. -/
def requestedBounds (seen : Bounds) (changes : List BoundChange) : Option Bounds :=
  if changes.isEmpty then none else some (changes.foldl BoundChange.apply seen)

/-- What a delegate does with one call. -/
inductive Run where
  | finished (changes : List BoundChange) (outcome : Except Thrown Value)
  | panicked (message : String)
  /-- Makes a call on the same session and goes on with what it is told. -/
  | calls (c : Call) (resume : Reply → Run)

/-- A program that answers calls. It may be bound to the thread that owns it. -/
structure Delegate where
  run : DelegateCall → Run
  owner : Option Thread := none

namespace Delegate

/-- What a delegate does with a call. A bound one runs on the thread that owns it only; a call
made on any other thread throws instead. -/
def answer (d : Delegate) (c : DelegateCall) : Run :=
  if d.owner.all (· = c.invocation.thread) then d.run c
  else .finished [] (.error (.message
    (c.invocation.text ++ ": thread-bound delegate called from a different thread")))

/-- Whether a delegate is bound to another thread. -/
def isForeignTo (d : Delegate) (t : Thread) : Bool := d.owner.any (· ≠ t)

end Delegate

/-- One scripted result. -/
inductive Action where
  | returns (v : Value)
  | throws (e : Thrown)
  | delegates (d : Delegate)
  | callsReal

/-- An action on one line. -/
def Action.form : Action → String
  | returns v => "Return(" ++ v.text ++ ")"
  | throws e => "Throw(" ++ e.text ++ ")"
  | delegates _ => "Delegate"
  | callsReal => "CallReal"

/-- The results of an expectation, in the order of its calls. -/
abbrev Script := List Action

namespace Script

/-- Whether a script holds a delegate that is bound to another thread. -/
def isForeignTo (s : Script) (t : Thread) : Bool :=
  s.any fun
    | .delegates d => d.isForeignTo t
    | _ => false

/-- The action for the call of index `i`: the one in that place, or the last one past the end of
the script, or none at all in an empty script. -/
def actionAt (s : Script) (i : Nat) : Option Action := s[i]?.or s.getLast?

/-- Past its end a script answers with its last action. -/
theorem actionAt_eq_getElem_min (s : Script) (i : Nat) :
    s.actionAt i = s[min i (s.length - 1)]? := by
  unfold actionAt
  by_cases h : i < s.length
  · rw [List.getElem?_eq_getElem h, Option.some_or]
    have : min i (s.length - 1) = i := by omega
    rw [this, List.getElem?_eq_getElem h]
  · rw [List.getElem?_eq_none (by omega), Option.none_or, List.getLast?_eq_getElem?]
    congr 1
    omega

end Script

end Understudy

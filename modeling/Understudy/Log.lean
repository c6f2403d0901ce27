import Understudy.Target

/-!
# The log of calls

Every call that reaches an open session is observed, which gives it the next
sequence number, and then appended to the log. Between the two steps other calls
may be observed and appended, so `Log.append` puts a call at the place of its
number: the entries are always in ascending order of their numbers, and the log
holds each appended call once (`entries_append_perm`).
-/

namespace Understudy

/-- Where a call was made: on the thread that made the session, or on another one. -/
inductive Thread where
  | home
  | worker (id : Nat)
deriving DecidableEq, Repr

/-- A call: the target, the method, the arguments, and the thread it is made on. -/
structure Call where
  target : Target
  signature : Signature
  args : List Value
  thread : Thread := .home

/-- A call that was given a sequence number. -/
structure Invocation extends Call where
  seq : Nat

namespace Invocation

/-- The characters of an invocation's text. -/
def chars (i : Invocation) : List Char :=
  i.target.text.toList ++ '.' :: (i.signature.name.toList ++ '(' ::
    (commaSeparated (i.args.map Value.chars) ++ [')']))

/-- An invocation as the target, the method's name and the arguments. -/
def text (i : Invocation) : String := String.ofList i.chars

end Invocation

/-- All appended calls, the latest first, and the number the next observed call gets. -/
structure Log where
  nextSeq : Nat := 0
  newestFirst : List Invocation := []

namespace Log

/-- Gives a call the next sequence number. -/
def observe (log : Log) (c : Call) : Invocation × Log :=
  ({ toCall := c, seq := log.nextSeq }, { log with nextSeq := log.nextSeq + 1 })

/-- Puts an invocation in front of the first entry with a smaller number. -/
def insert (i : Invocation) : List Invocation → List Invocation
  | [] => [i]
  | e :: es => if e.seq < i.seq then i :: e :: es else e :: insert i es

/-- Appends an observed call. -/
def append (log : Log) (i : Invocation) : Log :=
  { log with newestFirst := insert i log.newestFirst }

/-- Observes a call and appends it at once. -/
def enter (log : Log) (c : Call) : Invocation × Log :=
  let (i, log) := log.observe c
  (i, log.append i)

/-- The logged calls in order. -/
def entries (log : Log) : List Invocation := log.newestFirst.reverse

/-- How many calls are logged. -/
def length (log : Log) : Nat := log.newestFirst.length

theorem insert_perm (i : Invocation) (es : List Invocation) : (insert i es).Perm (i :: es) := by
  induction es with
  | nil => exact .refl _
  | cons e es ih =>
    simp only [insert]
    split
    · exact .refl _
    · exact (ih.cons e).trans (.swap i e es)

/-- Appending adds the one call and nothing else. -/
theorem entries_append_perm (log : Log) (i : Invocation) :
    (log.append i).entries.Perm (i :: log.entries) :=
  (List.reverse_perm _).trans <|
    (insert_perm i log.newestFirst).trans ((List.reverse_perm _).symm.cons i)

@[simp] theorem length_append (log : Log) (i : Invocation) :
    (log.append i).length = log.length + 1 := (insert_perm i log.newestFirst).length_eq

end Log

end Understudy

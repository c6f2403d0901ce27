import Understudy.Session.Basic
import Understudy.Verification.Check

/-!
# Verifying a session

A verification first tells all discrepancies that were pending, and then what the
check of its block finds in the log. It changes nothing but the phase. In a phase that
allows no verification it tells only that.

An in-order block is written out before it is checked. One that is well formed but too
long to be written out makes the verification panic; the discrepancies that were
pending are then lost.
-/

namespace Understudy

namespace Session

/-- A block was too long to be written out. -/
def blockTooLong : Panic := ⟨"capacity overflow"⟩

/-- Verifies a block. -/
def verify (s : Session) (mode : Mode) (b : Block) : Except Panic Verdict × Session :=
  match s.beginVerify with
  | .error e => (.ok { mismatches := [.misuse e] }, s)
  | .ok s =>
    let log := s.log.entries
    if b.isTooLong mode && b.isWellFormed s.declares log mode then
      (.error blockTooLong, s.drained)
    else
      let verdict := b.check s.declares log mode
      (.ok { verdict with mismatches := s.pending ++ verdict.mismatches }, s.drained)

/-- The types with unmet minima, type by type in ascending order of names. -/
def deficits (s : Session) : List Mismatch := s.tables.flatMap fun t => t.2.deficits

/-- Ends the session with its final check: the pending discrepancies, and the expectations that
were called too rarely. A session that is over is not checked again. -/
def finish (s : Session) : List Mismatch × Session :=
  if s.phase = .closed then ([], s)
  else (s.pending ++ s.deficits, s.drained.inPhase .closed)

/-- Ends the session without a check. -/
def close (s : Session) : Session := s.inPhase .closed

/-- A finished session is closed. -/
@[simp] theorem finish_phase (s : Session) : s.finish.2.phase = .closed := by
  unfold finish
  split <;> simp_all

end Session

end Understudy

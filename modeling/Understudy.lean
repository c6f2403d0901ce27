import Understudy.Proofs.Replay.Language
import Understudy.Proofs.Verification.Counts
import Understudy.Proofs.Verification.Rounds
import Understudy.Scenario
import Understudy.Proofs.Recording.Assembly
import Understudy.Proofs.Replay.Resolution
import Understudy.Proofs.Replay.Event
import Understudy.Proofs.Replay.Operation
import Understudy.Proofs.Replay.Tally
import Understudy.Proofs.Session.Telling
import Understudy.Proofs.Session.Closing
import Understudy.Proofs.Log.Callers
import Understudy.Proofs.Replay.Flight
import Understudy.Proofs.Session.Reopening
import Understudy.Proofs.Session.Logging
import Understudy.Proofs.Session.Types
import Understudy.Proofs.Session.Departing
import Understudy.Proofs.Verification.Gaps
import Understudy.Proofs.Verification.Separated
import Understudy.Proofs.Verification.Idle
import Understudy.Proofs.Verification.Missing
import Understudy.Proofs.Verification.Totals
import Understudy.Proofs.Replay.Classification
import Understudy.Proofs.Replay.Selection
import Understudy.Proofs.Replay.Recency
import Understudy.Proofs.Replay.Told
import Understudy.Proofs.Replay.Reordering
import Understudy.Proofs.Verification.Handlers
import Understudy.Proofs.Replay.Unanswered
import Understudy.Proofs.Replay.Sides
import Understudy.Proofs.Reporting
import Understudy.Proofs.Replay.Explaining
import Understudy.Proofs.Recording.Iterations
import Understudy.Proofs.Recording.Uniqueness
import Understudy.Proofs.Replay.Consistency
import Understudy.Proofs.Numeric.Rounding
import Understudy.Proofs.Value.Doubles
import Understudy.Proofs.Recording.Replacement
import Understudy.Proofs.Value.Reading
import Understudy.Proofs.Value.Ordering
import Understudy.Proofs.Replay.Cursor

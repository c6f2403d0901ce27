import Understudy.Proofs.Replay.Sequence
import Understudy.Session.Dispatch

/-!
# Runs of a session

A run is a list of calls that enter a session one after another. Entering is the atomic
part of answering a call: it has the table of its type resolve the call, and logs it. What
a delegate does afterwards happens outside the tables, and the calls it makes enter the
session like any other, so a run lists them behind the call that the delegate answers.
`dispatch_enters` says so for whole dispatches whose delegates ask for no other bounds.

`enterAll_onType` projects a run to one declared type: the table of the type sees exactly
the well-formed calls on the type, in their order, as `Table.replay` has it. The other calls
of the run do not touch it.
-/

namespace Understudy

/-- One call of a run: what the table of its type makes of it, and what came of it. -/
structure Exchange where
  call : Invocation
  resolution : Option (Except Breakdown Resolution)
  outcome : Entered

/-- Whether a caller is told that a call is unexpected, or that a matcher failed on it. -/
def Reply.isFlagged : Reply → Bool
  | .ok (.unexpected _) => true
  | .error (.matcherEvaluation _) => true
  | _ => false

/-- Whether a call was flagged when it entered, or torn down. One that a delegate answers was
not. -/
def Entered.isFlagged : Entered → Bool
  | .settled reply => Reply.isFlagged reply
  | .torn _ => true
  | .delegated .. => false

/-- Whether a call was torn down before it was logged. -/
def Entered.isTorn : Entered → Bool
  | .torn _ => true
  | .settled _ | .delegated .. => false

/-- Whether a call goes to the table of a type: it is on the type and well formed. -/
def Exchange.goesTo (typeName : String) (a : Exchange) : Bool :=
  a.call.target.typeName = typeName && a.call.check.isOk

namespace Session

/-- What a session says to a call. -/
def exchange (s : Session) (c : Call) : Exchange :=
  { call := (s.logCall c).1
    resolution := (s.table? c.target.typeName).map fun t => (t.step (s.logCall c).1).1
    outcome := (s.enter c).1 }

/-- Has calls enter a session one after another. -/
def enterAll (s : Session) : List Call → List Exchange × Session
  | [] => ([], s)
  | c :: cs => (s.exchange c :: ((s.enter c).2.enterAll cs).1, ((s.enter c).2.enterAll cs).2)

variable {s : Session} {c : Call} {T : String} {t : Table}

/-- Settling a call changes nothing but what is remembered. -/
theorem settle_frame (policy : Policy) (i : Invocation) (r : Resolution) :
    (s.settle policy i r).2 = { s with pending := (s.settle policy i r).2.pending } := by
  cases r with
  | matched index n b a => cases a <;> rfl
  | unmatched => cases policy <;> rfl
  | unexpected reason => rfl

@[simp] theorem settle_tables (policy : Policy) (i : Invocation) (r : Resolution) :
    (s.settle policy i r).2.tables = s.tables := by
  rw [settle_frame]

@[simp] theorem settle_phase (policy : Policy) (i : Invocation) (r : Resolution) :
    (s.settle policy i r).2.phase = s.phase := by
  rw [settle_frame]

/-- A call that has a resolution is not torn down. -/
theorem settle_isTorn (policy : Policy) (i : Invocation) (r : Resolution) :
    (s.settle policy i r).1.isTorn = false := by
  cases r with
  | matched index n b a => cases a <;> rfl
  | unmatched => cases policy <;> rfl
  | unexpected reason => rfl

/-- Settling flags the unexpected calls and no others. -/
theorem settle_isFlagged (policy : Policy) (i : Invocation) (r : Resolution) :
    (s.settle policy i r).1.isFlagged = true ↔ ∃ reason, r = .unexpected reason := by
  cases r with
  | matched index n b a => cases a <;> simp [settle, Entered.isFlagged, Reply.isFlagged]
  | unmatched => cases policy <;> simp [settle, Entered.isFlagged, Reply.isFlagged]
  | unexpected reason => simp [settle, Entered.isFlagged, Reply.isFlagged]

/-- The three ways in which the resolution of a call ends. -/
theorem resolve_eq (s : Session) (t : Table) (c : Call) : s.resolve t c =
    match t.resolve (s.logCall c).1 with
    | .ok (r, t') =>
      ((s.logCall c).2.setTable c.target.typeName t').settle t'.options.policy (s.logCall c).1 r
    | .error (.failed e) =>
      (.settled (.error (.matcherEvaluation e)), (s.logCall c).2.push (.matcherEvaluation e))
    | .error (.panicked p) => (.torn p, (s.observe c).2) := rfl

theorem resolve_of_ok {r : Resolution} {t' : Table} (h : t.resolve (s.logCall c).1 = .ok (r, t')) :
    s.resolve t c = ((s.logCall c).2.setTable c.target.typeName t').settle t'.options.policy
      (s.logCall c).1 r := by
  rw [resolve_eq, h]

theorem resolve_of_failed {e : MatcherError} (h : t.resolve (s.logCall c).1 = .error (.failed e)) :
    s.resolve t c =
      (.settled (.error (.matcherEvaluation e)), (s.logCall c).2.push (.matcherEvaluation e)) := by
  rw [resolve_eq, h]

theorem resolve_of_panicked {p : Panic} (h : t.resolve (s.logCall c).1 = .error (.panicked p)) :
    s.resolve t c = (.torn p, (s.observe c).2) := by
  rw [resolve_eq, h]

/-- Only the table of its type changes when a call is resolved, and it makes a step. -/
theorem table?_resolve (ht : s.table? c.target.typeName = some t) :
    (s.resolve t c).2.table? T =
      if T = c.target.typeName then some (t.step (s.logCall c).1).2 else s.table? T := by
  cases hr : t.resolve (s.logCall c).1 with
  | ok p =>
    obtain ⟨r, t'⟩ := p
    have hkept : (s.logCall c).2.table? c.target.typeName = some t := ht
    rw [resolve_of_ok hr, Table.step_of_ok hr, table?, settle_tables, ← table?, table?_setTable]
    split
    · next hT => rw [hT, hkept]; rfl
    · rfl
  | error b =>
    -- However the resolution broke down, the tables are as they were.
    have hsame : (s.resolve t c).2.table? T = s.table? T := by
      cases b with
      | failed err => rw [resolve_of_failed hr]; rfl
      | panicked p => rw [resolve_of_panicked hr]; rfl
    rw [hsame, Table.step_of_error hr]
    split
    · next hT => rw [hT]; exact ht
    · rfl

/-- Resolving a call changes a table, the log and what is remembered. -/
theorem resolve_frame (t : Table) (c : Call) : (s.resolve t c).2 =
    { s with
      tables := (s.resolve t c).2.tables
      log := (s.resolve t c).2.log
      pending := (s.resolve t c).2.pending } := by
  cases hr : t.resolve (s.logCall c).1 with
  | ok p =>
    obtain ⟨r, t'⟩ := p
    rw [resolve_of_ok hr, settle_frame]
    rfl
  | error b =>
    cases b with
    | failed err => rw [resolve_of_failed hr]; rfl
    | panicked p => rw [resolve_of_panicked hr]; rfl

/-- A call that is resolved is logged, unless it is torn down; then it has its number and nothing
else. -/
theorem resolve_log (t : Table) (c : Call) : (s.resolve t c).2.log =
    if (s.resolve t c).1.isTorn then (s.log.observe c).2 else (s.log.enter c).2 := by
  cases hr : t.resolve (s.logCall c).1 with
  | ok p =>
    obtain ⟨r, t'⟩ := p
    rw [resolve_of_ok hr, settle_isTorn, settle_frame]
    rfl
  | error b =>
    cases b with
    | failed err => rw [resolve_of_failed hr]; rfl
    | panicked p => rw [resolve_of_panicked hr]; rfl

@[simp] theorem resolve_phase (t : Table) (c : Call) : (s.resolve t c).2.phase = s.phase := by
  rw [resolve_frame]

/-- Only a panic tears a resolved call down. -/
theorem resolve_isTorn_iff : (s.resolve t c).1.isTorn = true ↔
    ∃ p, t.resolve (s.logCall c).1 = .error (.panicked p) := by
  cases hr : t.resolve (s.logCall c).1 with
  | ok q =>
    rw [resolve_of_ok hr, settle_isTorn]
    constructor
    · intro h
      cases h
    · rintro ⟨p, hp⟩
      cases hp
  | error b =>
    cases b with
    | failed e =>
      rw [resolve_of_failed hr]
      constructor
      · intro h
        cases h
      · rintro ⟨p, hp⟩
        cases hp
    | panicked p =>
      rw [resolve_of_panicked hr]
      exact iff_of_true rfl ⟨p, rfl⟩

/-- A caller who is told that a call is unexpected is told the reason that the table gives. -/
theorem resolve_eq_unexpected {m : Mismatch}
    (h : (s.resolve t c).1 = .settled (.ok (.unexpected m))) :
    ∃ reason t', m = .unexpected (s.logCall c).1 reason ∧
      t.resolve (s.logCall c).1 = .ok (.unexpected reason, t') := by
  cases hr : t.resolve (s.logCall c).1 with
  | ok p =>
    obtain ⟨r, t'⟩ := p
    rw [resolve_of_ok hr] at h
    have hflagged := congrArg Entered.isFlagged h
    obtain ⟨reason, rfl⟩ := (settle_isFlagged ..).mp hflagged
    cases h
    exact ⟨reason, t', rfl, rfl⟩
  | error b =>
    cases b with
    | failed e =>
      rw [resolve_of_failed hr] at h
      cases h
    | panicked p =>
      rw [resolve_of_panicked hr] at h
      cases h

/-- An open session numbers a call, whatever becomes of it. -/
theorem enter_of_isOpen (ho : s.IsOpen) :
    s.enter c =
      match s.table? c.target.typeName with
      | none =>
        match s.config.fallback with
        | .refuse =>
          (.settled (.error (.undeclaredTarget c.target)), ((s.inPhase .replaying).logCall c).2)
        | .callReal => (.settled (.ok .callReal), ((s.inPhase .replaying).logCall c).2)
      | some t =>
        match c.check with
        | .error e => (.settled (.error e), ((s.inPhase .replaying).logCall c).2)
        | .ok () => (s.inPhase .replaying).resolve t c := by
  have hbegin : s.beginDispatch = .ok (s.inPhase .replaying) :=
    enterPhase_eq_ok_iff.mpr ⟨ho, rfl⟩
  rw [enter, hbegin]
  rfl

/-- A well-formed call on a declared type goes to the table of the type. -/
theorem enter_of_wellFormed (ho : s.IsOpen) (ht : s.table? c.target.typeName = some t)
    (hc : c.check = .ok ()) :
    s.enter c = (s.inPhase .replaying).resolve t c := by
  rw [enter_of_isOpen ho, ht, hc]

/-- Beyond that, a call that enters is numbered, and the session replays. -/
theorem enter_frame (ho : s.IsOpen) : (s.enter c).2 =
    { s with
      phase := .replaying
      log := (s.enter c).2.log
      tables := (s.enter c).2.tables
      pending := (s.enter c).2.pending } := by
  rw [enter_of_isOpen ho]
  split
  · split <;> rfl
  · split
    · rfl
    · rw [resolve_frame]
      rfl

/-- A call that is let in is logged unless it is torn down. -/
theorem enter_log (ho : s.IsOpen) : (s.enter c).2.log =
    if (s.enter c).1.isTorn then (s.log.observe c).2 else (s.log.enter c).2 := by
  rw [enter_of_isOpen ho]
  split
  · split <;> rfl
  · split
    · rfl
    · exact resolve_log ..

theorem IsOpen.enter (ho : s.IsOpen) : (s.enter c).2.IsOpen := by
  rw [enter_frame ho]
  exact ⟨nofun, nofun⟩

/-- A call goes to a table if it is on the type and nothing is wrong with its arguments. -/
theorem exchange_goesTo_iff :
    (s.exchange c).goesTo T = true ↔ c.target.typeName = T ∧ c.check = .ok () := by
  have hcall : (s.exchange c).call.toCall = c := rfl
  rw [Exchange.goesTo, hcall, Bool.and_eq_true, decide_eq_true_iff]
  cases c.check <;> simp [Except.isOk, Except.toBool]

/-- A call that does not go to a table leaves it alone. -/
theorem table?_enter_of_not_goesTo (ho : s.IsOpen) (h : ¬ (s.exchange c).goesTo T = true) :
    (s.enter c).2.table? T = s.table? T := by
  rw [enter_of_isOpen ho]
  split
  · split <;> rfl
  · next t ht =>
    split
    · rfl
    · next hc =>
      rw [table?_resolve (s := s.inPhase .replaying) ht]
      exact if_neg fun hT => h (exchange_goesTo_iff.mpr ⟨hT.symm, hc⟩)

/-- A well-formed call makes the table of its type take a step. -/
theorem table?_enter_of_wellFormed (ho : s.IsOpen) (ht : s.table? c.target.typeName = some t)
    (hc : c.check = .ok ()) :
    (s.enter c).2.table? c.target.typeName = some (t.step (s.logCall c).1).2 := by
  rw [enter_of_wellFormed ho ht hc, table?_resolve (s := s.inPhase .replaying) ht]
  exact if_pos rfl

/-! ## The run as one type sees it -/

end Session

end Understudy

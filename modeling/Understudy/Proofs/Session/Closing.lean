import Understudy.Proofs.Session.History

/-!
# A closed session

A session that is over should stay so. `Moment.Rests` says what that means for one operation,
and `ClosedIsFinal` for all operations after the first point at which the session is over.

Every operation rests on a closed session but one (`Happens.rests`): a record block that
completes starts replaying in whatever phase it finds the session. If its own closure ended
the session, through another handle, the session is alive again, as in
`not_closedIsFinal_finishInside`. `closedIsFinal_iff` says that there is no other way.
-/

namespace Understudy

/-- The answer to a call that is not let in. -/
def CallAnswer.TurnedAway (a : CallAnswer) : Prop :=
  a = .replied (.error .sessionClosed) ∨ a = .panicked SessionError.sessionClosed.text

/-- What an operation may come to once the session is over: no block opens, no call and no
verification is let in, and nobody is given the report of a final check. -/
def Occasion.TurnedAway : Occasion → Prop
  | opened => False
  | refused e => e = .sessionClosed
  | completed _ => True
  | verified outcome => outcome = .ok { mismatches := [.misuse .sessionClosed] }
  | called answers => ∀ a ∈ answers, a.TurnedAway
  | finished report => report = []
  | dropped outcome => outcome = .ok () ∨ outcome = .error Session.clonesAlive ∨
      outcome = .error Session.wrongThread
  | other => True

/-- An operation finds the session closed and leaves it closed, with nothing logged. -/
structure Moment.Rests (m : Moment) : Prop where
  before : m.before.phase = .closed
  after : m.after.phase = .closed
  log : m.after.log = m.before.log
  turnedAway : m.occasion.TurnedAway

/-- A moment that completes a record block. -/
def Moment.Completes (m : Moment) : Prop := ∃ r, m.occasion = .completed r

/-- Once the session is over, at whatever point of a history, everything later finds it over and
leaves it so. -/
def ClosedIsFinal (s : Session) (history : List Moment) : Prop :=
  ∀ earlier later, history = earlier ++ later → (sessionAfter s earlier).phase = .closed →
    ∀ m ∈ later, m.Rests

/-! ## Operations that are not let in -/

/-- The answer to a call that an error keeps out. -/
def CallAnswer.Tells (a : CallAnswer) (e : SessionError) : Prop :=
  a = .replied (.error e) ∨ a = .panicked e.text

namespace Session

variable {s : Session} {e : SessionError}

theorem dispatch_of_error (h : s.beginDispatch = .error e) (depth : Nat) (c : Call) :
    s.dispatch depth c = (.ok (.error e), s) := by
  have henter : s.enter c = (.settled (.error e), s) := by
    unfold enter
    rw [h]
  have hsettled : (s.enter c).1 = .settled (.error e) := by rw [henter]
  rw [dispatch_of_settled hsettled, henter]

theorem callThrough_of_error (h : s.beginDispatch = .error e) (depth : Nat) (c : Call)
    (real : Option (List Value → Except Thrown Value)) :
    s.callThrough depth c real = (.error ⟨e.text⟩, s) := by
  unfold callThrough
  rw [dispatch_of_error h]
  rfl

theorem verify_of_error (h : s.beginVerify = .error e) (mode : Mode) (b : Block) :
    s.verify mode b = (.ok { mismatches := [.misuse e] }, s) := by
  unfold verify
  rw [h]

end Session

namespace World

variable {w : World} {e : SessionError}

theorem callOnce_of_error (h : w.session.beginDispatch = .error e) (kind : CallKind) (c : Call) :
    (w.callOnce kind c).1.Tells e ∧ (w.callOnce kind c).2.session = w.session := by
  constructor
  · unfold callOnce
    cases kind with
    | dispatch =>
      dsimp only
      rw [Session.dispatch_of_error h]
      exact Or.inl rfl
    | proxy =>
      dsimp only
      rw [Session.callThrough_of_error h]
      exact Or.inr rfl
    | proxyOrReal real =>
      dsimp only
      rw [Session.callThrough_of_error h]
      exact Or.inr rfl
  · rw [callOnce_session, Session.dispatch_of_error h]

theorem callEach_of_error (kind : CallKind) : ∀ (cs : List Call) {w : World},
    w.session.beginDispatch = .error e →
      (∀ a ∈ (w.callEach kind cs).1, a.Tells e) ∧ (w.callEach kind cs).2.session = w.session
  | [], _, _ => ⟨fun _ => nofun, rfl⟩
  | c :: cs, w, h => by
    obtain ⟨htells, hsame⟩ := callOnce_of_error h kind c
    have hnext : (w.callOnce kind c).2.session.beginDispatch = .error e := hsame ▸ h
    obtain ⟨hrest, hsame'⟩ := callEach_of_error kind cs hnext
    rw [callEach]
    refine ⟨?_, hsame'.trans hsame⟩
    rw [List.forall_mem_cons]
    exact ⟨htells, hrest⟩

end World

/-! ## Operations on a closed session -/

namespace Session

variable {s : Session}

theorem enterPhase_of_closed (h : s.phase = .closed) (operation : String) (p : Phase) :
    s.enterPhase operation p = .error .sessionClosed := by
  unfold enterPhase
  rw [h]

theorem finish_of_closed (h : s.phase = .closed) : s.finish = ([], s) := by
  unfold finish
  rw [if_pos h]

end Session

namespace Session

variable {s : Session}

/-- Dropping a handle of a closed session ends before the check, or finds nothing to report. -/
theorem drop_of_closed (h : s.phase = .closed) (d : Departure) :
    Occasion.TurnedAway (.dropped (s.drop d).1) ∧ (s.drop d).2.phase = .closed ∧
      (s.drop d).2.log = s.log := by
  unfold drop
  rw [finish_of_closed h]
  split
  · exact ⟨Or.inl rfl, h, rfl⟩
  split
  · exact ⟨Or.inl rfl, rfl, rfl⟩
  split
  · exact ⟨Or.inr (Or.inl rfl), h, rfl⟩
  split
  · exact ⟨Or.inr (Or.inr rfl), h, rfl⟩
  · exact ⟨Or.inl rfl, h, rfl⟩

end Session

/-! ## Closed is final -/

/-- A completed block leaves the session replaying. -/
theorem Happens.phase_of_completed {s s' : Session} {r : Recording}
    (h : Happens s (.completed r) s') : s'.phase = .replaying := by
  cases h with
  | completes =>
    unfold Session.closeRecord
    split <;> rfl

/-- All else rests on a closed session. -/
theorem Happens.rests {s s' : Session} {o : Occasion} (h : Happens s o s')
    (hclosed : s.phase = .closed) (ho : ∀ r, o ≠ .completed r) : (⟨s, o, s'⟩ : Moment).Rests := by
  -- Of everything that can happen, only the end of a record block would reopen the session.
  cases h with
  | opens hbegin =>
    unfold Session.beginRecord at hbegin
    rw [Session.enterPhase_of_closed hclosed] at hbegin
    cases hbegin
  | refuses hbegin =>
    unfold Session.beginRecord at hbegin
    rw [Session.enterPhase_of_closed hclosed] at hbegin
    exact ⟨hclosed, hclosed, rfl, (Except.error.inj hbegin).symm⟩
  | completes _ r => exact absurd rfl (ho r)
  | verifies _ mode b =>
    rw [Session.verify_of_error (Session.enterPhase_of_closed hclosed ..)]
    exact ⟨hclosed, hclosed, rfl, rfl⟩
  | calls w kind cs =>
    obtain ⟨haway, hsame⟩ :=
      World.callEach_of_error kind cs (Session.enterPhase_of_closed hclosed ..)
    rw [hsame]
    exact ⟨hclosed, hclosed, rfl, haway⟩
  | finishes =>
    rw [Session.finish_of_closed hclosed]
    exact ⟨hclosed, hclosed, rfl, rfl⟩
  | drops _ d =>
    obtain ⟨haway, hphase, hlog⟩ := Session.drop_of_closed hclosed d
    exact ⟨hclosed, hphase, hlog, haway⟩
  | declares _ typeName options =>
    rw [Session.after_declares_frame]
    exact ⟨hclosed, hclosed, rfl, trivial⟩
  | makesInstance _ of =>
    rw [Session.after_makesInstance_frame]
    exact ⟨hclosed, hclosed, rfl, trivial⟩

/-- From a closed session on everything rests, if no block is completed on a closed session. -/
theorem Traces.rests {s s' : Session} {ms : List Moment} (h : Traces s ms s')
    (hclosed : s.phase = .closed) (hc : ∀ m ∈ ms, m.Completes → m.before.phase ≠ .closed) :
    ∀ m ∈ ms, m.Rests := by
  induction h with
  | nil s => exact fun _ => nofun
  | @cons m ms s' hm _ ih =>
    rw [List.forall_mem_cons] at hc ⊢
    -- The first moment finds the session closed, so it is no completion, and leaves it closed.
    have hrests : m.Rests := hm.rests hclosed fun r hr => hc.1 ⟨r, hr⟩ hclosed
    exact ⟨hrests, ih hrests.after hc.2⟩

/-- Closed is final in the history of a scenario, unless a record block is completed on a closed
session; and if one is, it is not. -/
theorem closedIsFinal_iff (w : World) (steps : List Step) :
    ClosedIsFinal w.session (w.history steps) ↔
      ∀ m ∈ w.history steps, m.Completes → m.before.phase ≠ .closed := by
  obtain ⟨s', htraces⟩ := w.history_traces steps
  constructor
  · intro hfinal m hm hcompletes hclosed
    obtain ⟨earlier, later, hcut⟩ := List.append_of_mem hm
    rw [hcut] at htraces
    obtain ⟨-, hlater⟩ := htraces.split
    generalize hs : sessionAfter w.session earlier = s at hlater
    cases hlater with
    | cons hhappens _ =>
      have hrests : m.Rests := hfinal earlier (m :: later) hcut (hs ▸ hclosed) m
        (List.mem_cons_self ..)
      -- The completion itself has left the phase in which everything rests.
      obtain ⟨r, hr⟩ := hcompletes
      rw [hr] at hhappens
      have hphase := hhappens.phase_of_completed
      rw [hrests.after] at hphase
      cases hphase
  · intro hc earlier later hcut hclosed
    rw [hcut] at htraces hc
    exact htraces.split.2.rests hclosed fun m hm => hc m (List.mem_append_right _ hm)

/-- A record block whose closure finishes the session through a clone. -/
def finishInside : List Step :=
  [.clone "m" "c", .record "m" [.steps [.finish "c"]]]

/-- When the block is completed, the session is no longer over. -/
theorem not_closedIsFinal_finishInside : ¬ ClosedIsFinal (Scenario.start {} 0).session
    ((Scenario.start {} 0).history finishInside) := by
  intro hfinal
  have hcut : (Scenario.start {} 0).history finishInside =
      ((Scenario.start {} 0).history finishInside).take 2 ++
        ((Scenario.start {} 0).history finishInside).drop 2 := (List.take_append_drop ..).symm
  have hrests := (hfinal _ _ hcut rfl _ (List.mem_cons_self ..)).after
  cases hrests

end Understudy

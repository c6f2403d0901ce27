import Understudy.Proofs.Session.Closing

/-!
# What a record block leaves behind

A record block is opened before its closure runs and completed after it has returned. As long
as the block is open, everything that needs a phase is rejected. `accepting_after_record` says
when that ends: the session accepts operations after the block exactly if the closure returned,
or ended the session. A rejected block has returned as well, so it does no harm.

A closure that panics leaves the block open, and nothing completes it later. Then every
operation is rejected from there on, until the session is over. `unfinished_steps` is the one
induction over scenarios: on a session that is not open, no step completes a block.
-/

namespace Understudy

/-- No operation is rejected because a record block is open: whatever is not let in finds the
session over. -/
structure Session.Accepting (s : Session) : Prop where
  phase : s.phase ≠ .recording
  dispatches : ∀ e, s.beginDispatch = .error e → e = .sessionClosed
  verifies : ∀ e, s.beginVerify = .error e → e = .sessionClosed
  records : ∀ e, s.beginRecord = .error e → e = .sessionClosed

/-- What an operation comes to while a record block is open: nothing that needs a phase is let
in, and no block is completed. -/
def Occasion.Rejected : Occasion → Prop
  | opened => False
  | refused e => e = .invalidPhase "open a record block" .recording
  | completed _ => False
  | verified outcome =>
    outcome = .ok { mismatches := [.misuse (.invalidPhase "verify" .recording)] }
  | called answers => ∀ a ∈ answers, a.Tells (.invalidPhase "dispatch a call" .recording)
  | finished _ | dropped _ | other => True

/-- An operation finds a record block open, is rejected, and leaves the block open or ends the
session. -/
structure Moment.Stuck (m : Moment) : Prop where
  before : m.before.phase = .recording
  after : m.after.phase = .recording ∨ m.after.phase = .closed
  log : m.after.log = m.before.log
  rejected : m.occasion.Rejected

/-- What the closure of a record block does, once the block is open. -/
def World.recordRun (w : World) (items : List Item) : BlockRun :=
  carryOutItems { world := w.withSession (w.session.inPhase .recording) } items

namespace Session

variable {s : Session}

theorem enterPhase_of_recording (h : s.phase = .recording) (operation : String) (p : Phase) :
    s.enterPhase operation p = .error (.invalidPhase operation .recording) := by
  unfold enterPhase
  rw [h]

theorem not_isOpen_iff : ¬ s.IsOpen ↔ s.phase = .recording ∨ s.phase = .closed := by
  unfold IsOpen
  cases s.phase <;> decide

/-- Only an open record block keeps a session from accepting operations. -/
theorem accepting_iff : s.Accepting ↔ s.phase ≠ .recording := by
  constructor
  · intro h
    exact h.phase
  · intro h
    have hentered (operation : String) (p : Phase) (e : SessionError)
        (he : s.enterPhase operation p = .error e) : e = .sessionClosed := by
      by_cases hclosed : s.phase = .closed
      · rw [enterPhase_of_closed hclosed] at he
        exact (Except.error.inj he).symm
      · have hopen : s.enterPhase operation p = .ok (s.inPhase p) :=
          enterPhase_eq_ok_iff.mpr ⟨⟨h, hclosed⟩, rfl⟩
        rw [hopen] at he
        cases he
    exact ⟨h, hentered _ _, hentered _ _, hentered _ _⟩

theorem finish_log (s : Session) : s.finish.2.log = s.log := by
  unfold finish
  split <;> rfl

end Session

/-! ## While the block is open -/

/-- Whatever is no completion gets stuck on an open record block. -/
theorem Happens.stuck {s s' : Session} {o : Occasion} (h : Happens s o s')
    (hrec : s.phase = .recording) (ho : ∀ r, o ≠ .completed r) : (⟨s, o, s'⟩ : Moment).Stuck := by
  -- A session that records lets nothing in, but it can be ended.
  cases h with
  | opens hbegin =>
    unfold Session.beginRecord at hbegin
    rw [Session.enterPhase_of_recording hrec] at hbegin
    cases hbegin
  | refuses hbegin =>
    unfold Session.beginRecord at hbegin
    rw [Session.enterPhase_of_recording hrec] at hbegin
    exact ⟨hrec, Or.inl hrec, rfl, (Except.error.inj hbegin).symm⟩
  | completes _ r => exact absurd rfl (ho r)
  | verifies _ mode b =>
    rw [Session.verify_of_error (Session.enterPhase_of_recording hrec ..)]
    exact ⟨hrec, Or.inl hrec, rfl, rfl⟩
  | calls w kind cs =>
    obtain ⟨htells, hsame⟩ :=
      World.callEach_of_error kind cs (Session.enterPhase_of_recording hrec ..)
    rw [hsame]
    exact ⟨hrec, Or.inl hrec, rfl, htells⟩
  | finishes => exact ⟨hrec, Or.inr s.finish_phase, s.finish_log, trivial⟩
  | drops _ d =>
    rcases s.drop_cases d with hsame | hclosed | hfinished
    · rw [hsame]
      exact ⟨hrec, Or.inl hrec, rfl, trivial⟩
    · rw [hclosed]
      exact ⟨hrec, Or.inr rfl, rfl, trivial⟩
    · rw [hfinished]
      exact ⟨hrec, Or.inr s.finish_phase, s.finish_log, trivial⟩
  | declares _ typeName options =>
    rw [Session.after_declares_frame]
    exact ⟨hrec, Or.inl hrec, rfl, trivial⟩
  | makesInstance _ of =>
    rw [Session.after_makesInstance_frame]
    exact ⟨hrec, Or.inl hrec, rfl, trivial⟩

/-- A history without completions never leaves a session that is not open: each operation gets
stuck on the block, or finds the session over. -/
theorem Traces.stuck {s s' : Session} {ms : List Moment} (h : Traces s ms s')
    (hs : ¬ s.IsOpen) (hc : ∀ m ∈ ms, ¬ m.Completes) :
    (∀ m ∈ ms, m.Stuck ∨ m.Rests) ∧ ¬ s'.IsOpen := by
  induction h with
  | nil s => exact ⟨fun _ => nofun, hs⟩
  | @cons m ms s' hm _ ih =>
    rw [List.forall_mem_cons] at hc ⊢
    have hno : ∀ r, m.occasion ≠ .completed r := fun r hr => hc.1 ⟨r, hr⟩
    rcases Session.not_isOpen_iff.mp hs with hrec | hclosed
    · have hstuck : m.Stuck := hm.stuck hrec hno
      obtain ⟨hrest, hend⟩ := ih (Session.not_isOpen_iff.mpr hstuck.after) hc.2
      exact ⟨⟨Or.inl hstuck, hrest⟩, hend⟩
    · have hrests : m.Rests := hm.rests hclosed hno
      obtain ⟨hrest, hend⟩ := ih (Session.not_isOpen_iff.mpr (Or.inr hrests.after)) hc.2
      exact ⟨⟨Or.inr hrests, hrest⟩, hend⟩

mutual

theorem Step.unfinished {w : World} (h : ¬ w.session.IsOpen) :
    ∀ step : Step, ∀ m ∈ step.moments w, ¬ m.Completes
  | .record on items => by
    rw [Step.moments]
    cases hb : w.session.beginRecord with
    | error e => exact List.forall_mem_singleton.mpr nofun
    -- The block inside would need the session open, and it is not.
    | ok s => exact absurd (Session.enterPhase_eq_ok_iff.mp hb).1 h
  | .verify on mode items => by
    rw [Step.moments, List.forall_mem_append]
    refine ⟨unfinished_items h items, ?_⟩
    unfold BlockRun.verification
    split
    · exact fun _ => nofun
    · exact List.forall_mem_singleton.mpr nofun
  | .newInstance on of name => by
    rw [Step.moments]
    unfold World.instanceMoments
    split
    · exact List.forall_mem_singleton.mpr nofun
    · exact fun _ => nofun
  | .call .. | .finish _ | .drop .. | .declare .. => by
    rw [Step.moments]
    exact List.forall_mem_singleton.mpr nofun
  | .foreign .. | .compare .. | .invocations _ | .phase _ | .clone .. => by
    rw [Step.moments]
    exact fun _ => nofun

/-- On a session that is not open, no step completes a record block. -/
theorem unfinished_steps {w : World} (h : ¬ w.session.IsOpen) :
    ∀ steps : List Step, ∀ m ∈ momentsOfSteps w steps, ¬ m.Completes
  | [] => by
    rw [momentsOfSteps]
    exact fun _ => nofun
  | step :: steps => by
    rw [momentsOfSteps]
    by_cases hknown : (w.handles.lookup step.handle).isSome = true
    · rw [if_pos hknown, List.forall_mem_append]
      have hfirst := Step.unfinished h step
      have hnext := ((step.traces w).stuck h hfirst).2
      exact ⟨hfirst, unfinished_steps hnext steps⟩
    · rw [if_neg hknown]
      exact unfinished_steps h steps

theorem Item.unfinished {b : BlockRun} (h : ¬ b.world.session.IsOpen) :
    ∀ item : Item, ∀ m ∈ item.moments b, ¬ m.Completes
  | .steps ss => by
    rw [Item.moments]
    exact unfinished_steps h ss
  | .expect _ | .iterations _ | .gap | .panic _ => by
    rw [Item.moments]
    · exact fun _ => nofun
    · exact nofun

theorem unfinished_items {b : BlockRun} (h : ¬ b.world.session.IsOpen) :
    ∀ items : List Item, ∀ m ∈ momentsOfItems b items, ¬ m.Completes
  | [] => by
    rw [momentsOfItems]
    exact fun _ => nofun
  | item :: items => by
    rw [momentsOfItems, List.forall_mem_append]
    have hfirst := Item.unfinished h item
    refine ⟨hfirst, ?_⟩
    split
    · exact fun _ => nofun
    · have hnext := ((item.traces b).stuck h hfirst).2
      exact unfinished_items hnext items

end

/-! ## After the block -/

namespace World

variable {w : World} {items : List Item}

/-- The closure runs on a session that is not open, and leaves it so. -/
theorem not_isOpen_recordRun (w : World) (items : List Item) :
    ¬ (w.recordRun items).world.session.IsOpen := by
  have hopened : ¬ (w.session.inPhase .recording).IsOpen :=
    Session.not_isOpen_iff.mpr (Or.inl rfl)
  have htraces := traces_items { world := w.withSession (w.session.inPhase .recording) } items
  exact (htraces.stuck hopened (unfinished_items hopened items)).2

/-- A record block that is let in is completed if its closure returned, and stays open if it
did not. -/
theorem phase_after_record (h : w.session.IsOpen) (on : String) (items : List Item) :
    ((Step.record on items).carryOut w).2.session.phase =
      if (w.recordRun items).ended.isSome then (w.recordRun items).world.session.phase
      else .replaying := by
  have hbegin : w.session.beginRecord = .ok (w.session.inPhase .recording) :=
    Session.enterPhase_eq_ok_iff.mpr ⟨h, rfl⟩
  rw [Step.carryOut, hbegin]
  dsimp only
  split
  · next a hended => rw [recordRun, if_pos (Option.isSome_iff_exists.mpr ⟨a, hended⟩)]
  · next hended =>
    rw [recordRun, hended]
    exact (Happens.completes _ _).phase_of_completed

/-- A record call on an open session leaves it accepting operations exactly if its closure
returned or ended the session. Otherwise every operation is rejected from then on, until the
session is over. -/
theorem accepting_after_record (h : w.session.IsOpen) (on : String) (items : List Item) :
    (((Step.record on items).carryOut w).2.session.Accepting ↔
      (w.recordRun items).ended = none ∨ (w.recordRun items).world.session.phase = .closed) ∧
    (¬ ((Step.record on items).carryOut w).2.session.Accepting → ∀ later,
      ∀ m ∈ momentsOfSteps ((Step.record on items).carryOut w).2 later, m.Stuck ∨ m.Rests) := by
  have hphase := phase_after_record h on items
  -- While the block runs, the session records or is closed. It leaves the first only by completion.
  have hrun := Session.not_isOpen_iff.mp (not_isOpen_recordRun w items)
  constructor
  · rw [Session.accepting_iff, hphase]
    cases hended : (w.recordRun items).ended with
    | none => exact ⟨fun _ => Or.inl rfl, fun _ => nofun⟩
    | some a =>
      rw [if_pos Option.isSome_some]
      constructor
      · intro hleft
        exact Or.inr (hrun.resolve_left hleft)
      · rintro (hnone | hclosed)
        · cases hnone
        · rw [hclosed]
          exact nofun
  · intro hnot later
    have hrec : ((Step.record on items).carryOut w).2.session.phase = .recording := by
      rwa [Session.accepting_iff, not_not] at hnot
    have hshut := Session.not_isOpen_iff.mpr (Or.inl hrec)
    exact ((traces_steps _ later).stuck hshut (unfinished_steps hshut later)).1

/-- A closure that panics. -/
def interrupted : List Item := [.panic "boom"]

/-- A rejected block lets a session go on. After a closure that panicked, a verification and
another block are rejected. -/
theorem accepting_after_record_start :
    (Scenario.start {} 0).session.IsOpen ∧
    ((Step.record "m" [.iterations 0]).carryOut (Scenario.start {} 0)).2.session.Accepting ∧
    ∀ m ∈ momentsOfSteps ((Step.record "m" interrupted).carryOut (Scenario.start {} 0)).2
      [.verify "m" ⟨false, false⟩ [], .record "m" []], m.Stuck ∨ m.Rests := by
  have ho : (Scenario.start {} 0).session.IsOpen := by decide
  refine ⟨ho, (accepting_after_record ho "m" [.iterations 0]).1.mpr (Or.inl rfl), ?_⟩
  refine (accepting_after_record ho "m" interrupted).2 ?_ _
  rw [(accepting_after_record ho "m" interrupted).1]
  rintro (hnone | hclosed)
  · cases hnone
  · cases hclosed

/-- A panic in the closure leaves the session recording, for good. -/
theorem not_accepting_after_panic :
    (Scenario.start {} 0).session.IsOpen ∧
    ¬ ((Step.record "m" interrupted).carryOut (Scenario.start {} 0)).2.session.Accepting := by
  refine ⟨by decide, ?_⟩
  rw [Session.accepting_iff]
  exact not_not_intro rfl

end World

end Understudy

import Mathlib.Data.List.Forall2
import Understudy.Proofs.Nullary
import Understudy.Proofs.Replay.Event

/-!
# Every discrepancy is told once

What a session finds wrong with the calls it answers is remembered until a verification or
the final check tells it. Along a run, `Session.found` lists the discrepancies in the order
they are found, read off the replies and the changes of bounds that delegates ask for, and
never off what is remembered. `Session.TellsAll` says that the reports of the run begin with
stretches of that list which together are the list.

The invariant behind it is `Calm.pending_doing`: what a deed finds is what it adds to the pending
discrepancies, and an accepted verification takes all of them. One kind of verification
takes them and gives no report: an in-order block that is well formed but has too many slots
to be written out panics. `tellsAll_iff` says that nothing else is ever lost, and
`not_tellsAll_longBlock` is a run that loses a discrepancy.
-/

namespace Understudy

/-- Something that a test does with a session, in closures that do not use it themselves. Record
blocks may also be opened and closed apart, for what other threads do meanwhile. A call is
dispatched with room on the stack for calls nested up to a depth. -/
inductive Deed where
  | declare (typeName : String) (options : Options)
  | newInstance (of : Target)
  | record (r : Recording)
  | openRecord
  | closeRecord (r : Recording)
  | dispatch (depth : Nat) (c : Call)
  | verify (mode : Mode) (b : Block)

/-- A delegate that returns without making calls. -/
def Delegate.Returns (d : Delegate) : Prop :=
  ∀ call, ∃ changes outcome, d.run call = .finished changes outcome

/-- Called on another thread than its own, it returns as well. -/
theorem Delegate.Returns.answer {d : Delegate} (h : d.Returns) (call : DelegateCall) :
    ∃ changes outcome, d.answer call = .finished changes outcome := by
  unfold Delegate.answer
  split
  · exact h call
  · exact ⟨_, _, rfl⟩

/-- The drafts that a deed may record. -/
def Deed.drafts : Deed → List Draft
  | record r | closeRecord r => r.drafts
  | _ => []

/-- A deed records no delegates but those that return. -/
def Deed.Calm (d : Deed) : Prop :=
  ∀ draft ∈ d.drafts, ∀ f, Action.delegates f ∈ draft.script → f.Returns

/-- A deed that answers no call and verifies nothing. -/
def Deed.IsQuiet (d : Deed) : Prop :=
  (∀ depth c, d ≠ .dispatch depth c) ∧ ∀ mode b, d ≠ .verify mode b

/-- A verification, and the session that it was asked of. -/
structure Inquiry where
  session : Session
  mode : Mode
  block : Block

namespace Inquiry

/-- What came of a verification. -/
def outcome (q : Inquiry) : Except Panic Verdict := (q.session.verify q.mode q.block).1

/-- A verification reports its share of the discrepancies that were found before. If the session is
open, the report goes on with the check of the block; if not, the report is that the session is
not open, and the share is empty. -/
def Tells (q : Inquiry) (share : List Mismatch) : Prop :=
  ∃ verdict, q.outcome = .ok verdict ∧
    ((q.session.IsOpen ∧ verdict.mismatches = share ++
        (q.block.check q.session.declares q.session.log.entries q.mode).mismatches) ∨
      (¬ q.session.IsOpen ∧ share = [] ∧ ∃ e, verdict.mismatches = [.misuse e]))

/-- An open session is asked to verify a well-formed block that is too long to be written out. -/
def Overflows (q : Inquiry) : Prop :=
  q.session.IsOpen ∧ q.block.isTooLong q.mode = true ∧
    q.block.isWellFormed q.session.declares q.session.log.entries q.mode = true

end Inquiry

namespace Session

/-- What is wrong with the bounds that a delegate asked for, if anything. -/
def misusedBounds? (s : Session) (index : Nat) (call : DelegateCall)
    (changes : List BoundChange) : Option Mismatch := do
  let b ← requestedBounds call.bounds changes
  let e ← s.expectation? call.invocation.target.typeName index
  let max ← b.shortMax?
  return .misuse (.invalidBounds e.pattern.description b.min max)

/-- What is wrong with the bounds that the delegate asks for that answers a call, if one does. -/
def misuse? (s : Session) (c : Call) : Option Mismatch :=
  match s.enter c with
  | (.settled _, _) | (.torn _, _) => none
  | (.delegated index d call, s') =>
    match d.answer call with
    | .finished changes _ => s'.misusedBounds? index call changes
    | _ => none

/-- The session after a deed. -/
def doing (s : Session) : Deed → Session
  | .declare typeName options => s.after (.declares typeName options)
  | .newInstance of => s.after (.makesInstance of)
  | .record r => (s.record r).2
  | .openRecord => s.after .opensRecord
  | .closeRecord r => (s.closeRecord r).2
  | .dispatch depth c => (s.dispatch depth c).2
  | .verify mode b => (s.verify mode b).2

/-- The discrepancies that a deed finds: those that the reply to a call tells of, and bounds that
contradict each other. -/
def finds (s : Session) : Deed → List Mismatch
  | .dispatch depth c =>
    ((s.dispatch depth c).1.toOption.map Reply.found).getD [] ++ (s.misuse? c).toList
  | _ => []

/-- The session after a run. -/
def doingAll : Session → List Deed → Session
  | s, [] => s
  | s, d :: ds => (s.doing d).doingAll ds

/-- The discrepancies that a run finds. -/
def found : Session → List Deed → List Mismatch
  | _, [] => []
  | s, d :: ds => s.finds d ++ (s.doing d).found ds

/-- The verifications of a run. -/
def inquiries : Session → List Deed → List Inquiry
  | _, [] => []
  | s, .verify mode b :: ds => ⟨s, mode, b⟩ :: (s.doing (.verify mode b)).inquiries ds
  | s, d :: ds => (s.doing d).inquiries ds

/-- The reports of a run and of the final check after it tell what was found, each its share, and
every discrepancy once. -/
def TellsAll (s : Session) (deeds : List Deed) : Prop :=
  ∃ shares last, List.Forall₂ Inquiry.Tells (s.inquiries deeds) shares ∧
    shares.flatten ++ last = s.found deeds ∧
    (s.doingAll deeds).finish.1 = last ++ (s.doingAll deeds).deficits

variable {s : Session} {d : Deed}

/-! ## What stays of a session -/

/-- The session is not over, and its delegates return. -/
structure Calm (s : Session) : Prop where
  notClosed : s.phase ≠ .closed
  delegates : s.EachDelegate Delegate.Returns

theorem calm_new (config : Config) : ({ config } : Session).Calm where
  notClosed := nofun
  delegates := by
    intro T i e he
    cases he

theorem enter_phase (h : s.phase ≠ .closed) (c : Call) : (s.enter c).2.phase ≠ .closed := by
  by_cases ho : s.IsOpen
  · exact (ho.enter (c := c)).2
  · obtain ⟨e, -, -, henter⟩ := enter_of_not_isOpen (c := c) ho
    rw [henter]
    exact h

theorem applyBounds_phase (s : Session) (T : String) (i : Nat) (b : Bounds) :
    (s.applyBounds T i b).phase = s.phase := by
  unfold applyBounds
  split
  · rfl
  · split <;> rfl

/-- All is over with a call when it has entered, unless a delegate answers it. -/
theorem misuse?_eq_none {c : Call} (h : ∀ i f call, (s.enter c).1 ≠ .delegated i f call) :
    s.misuse? c = none := by
  unfold misuse?
  split
  · rfl
  · rfl
  · next i f call s' hent => exact absurd (congrArg Prod.fst hent) (h i f call)

theorem misuse?_of_delegated {c : Call} {i : Nat} {f : Delegate} {call : DelegateCall}
    {changes : List BoundChange} {outcome : Except Thrown Value}
    (hent : (s.enter c).1 = .delegated i f call)
    (hrun : f.answer call = .finished changes outcome) :
    s.misuse? c = (s.enter c).2.misusedBounds? i call changes := by
  have henter : s.enter c = (.delegated i f call, (s.enter c).2) := Prod.ext hent rfl
  unfold misuse?
  rw [henter]
  dsimp only
  rw [hrun]

/-- A call of a calm session is over at once, or a delegate answers it that returns. -/
theorem Calm.dispatch_cases (h : s.Calm) (depth : Nat) (c : Call) :
    (∃ out, s.dispatch depth c = (out, (s.enter c).2) ∧
      (out.toOption.map Reply.found).getD [] = (s.enter c).1.found ∧ s.misuse? c = none) ∨
    ∃ i f call changes outcome, (s.enter c).1 = .delegated i f call ∧
      f.answer call = .finished changes outcome ∧
      s.dispatch depth c =
        (.ok (.ok (decisionOf outcome)), (s.enter c).2.applyChanges i call changes) := by
  cases hent : (s.enter c).1 with
  | settled reply =>
    refine Or.inl ⟨.ok reply, dispatch_of_settled hent, rfl, misuse?_eq_none ?_⟩
    rw [hent]
    exact fun _ _ _ => nofun
  | torn p =>
    refine Or.inl ⟨.error p, dispatch_of_torn hent, rfl, misuse?_eq_none ?_⟩
    rw [hent]
    exact fun _ _ _ => nofun
  | delegated i f call =>
    obtain ⟨changes, outcome, hrun⟩ := (h.delegates.delegated hent).answer call
    exact Or.inr ⟨i, f, call, changes, outcome, rfl, hrun, dispatch_of_delegated hent hrun⟩

theorem Calm.enter (h : s.Calm) (c : Call) : (s.enter c).2.Calm where
  notClosed := enter_phase h.notClosed c
  delegates := h.delegates.enter c

theorem Calm.applyChanges (h : s.Calm) (index : Nat) (call : DelegateCall)
    (changes : List BoundChange) : (s.applyChanges index call changes).Calm := by
  rcases applyChanges_cases s index call changes with hsame | ⟨b, hset⟩
  · rw [hsame]
    exact h
  · rw [hset]
    refine ⟨?_, h.delegates.after nofun⟩
    show (s.applyBounds _ index b).phase ≠ .closed
    rw [applyBounds_phase]
    exact h.notClosed

theorem Calm.dispatch (h : s.Calm) (depth : Nat) (c : Call) : (s.dispatch depth c).2.Calm := by
  rcases h.dispatch_cases depth c with ⟨out, hd, -⟩ | ⟨i, f, call, changes, outcome, -, -, hd⟩
  · rw [hd]
    exact h.enter c
  · rw [hd]
    exact (h.enter c).applyChanges i call changes

theorem Calm.inPhase (h : s.Calm) {p : Phase} (hp : p ≠ .closed) : (s.inPhase p).Calm where
  notClosed := hp
  delegates := h.delegates

/-! ## Verifications -/

/-- A session that is not open takes no notice of a verification. -/
theorem verify_of_not_isOpen (ho : ¬ s.IsOpen) (mode : Mode) (b : Block) :
    ∃ e, s.verify mode b = (.ok { mismatches := [.misuse e] }, s) := by
  unfold verify
  cases hb : s.beginVerify with
  | error e => exact ⟨e, rfl⟩
  | ok s' => exact absurd (enterPhase_eq_ok_iff.mp hb).1 ho

/-- An open session tells what is pending and goes on with the check of the block, unless the block
is too long to be written out. -/
theorem verify_of_isOpen (ho : s.IsOpen) (mode : Mode) (b : Block) :
    s.verify mode b =
      (if (b.isTooLong mode && b.isWellFormed s.declares s.log.entries mode) = true then
          .error blockTooLong
        else
          let verdict := b.check s.declares s.log.entries mode
          .ok { verdict with mismatches := s.pending ++ verdict.mismatches },
        (s.inPhase .verifying).drained) := by
  have hbegin : s.beginVerify = .ok (s.inPhase .verifying) := enterPhase_eq_ok_iff.mpr ⟨ho, rfl⟩
  unfold verify
  rw [hbegin]
  dsimp only
  by_cases hlong : (b.isTooLong mode && b.isWellFormed s.declares s.log.entries mode) = true
  · rw [if_pos hlong]
    exact if_pos hlong
  · rw [if_neg hlong]
    exact if_neg hlong

theorem Calm.verify (h : s.Calm) (mode : Mode) (b : Block) : (s.verify mode b).2.Calm := by
  by_cases ho : s.IsOpen
  · have hverifying : (s.inPhase .verifying).Calm := h.inPhase nofun
    rw [verify_of_isOpen ho]
    exact ⟨hverifying.notClosed, hverifying.delegates⟩
  · obtain ⟨e, he⟩ := verify_of_not_isOpen ho mode b
    rw [he]
    exact h

/-! ## What is found is remembered -/

theorem pending_applyChanges (s : Session) (index : Nat) (call : DelegateCall)
    (changes : List BoundChange) : (s.applyChanges index call changes).pending =
      s.pending ++ (s.misusedBounds? index call changes).toList := by
  unfold applyChanges misusedBounds?
  cases requestedBounds call.bounds changes with
  | none => exact (List.append_nil _).symm
  | some b =>
    show (s.applyBounds _ index b).pending = s.pending ++ Option.toList
      ((s.expectation? call.invocation.target.typeName index).bind fun e =>
        b.shortMax?.bind fun max => some (.misuse (.invalidBounds e.pattern.description b.min max)))
    unfold applyBounds expectation?
    cases s.table? call.invocation.target.typeName with
    | none => exact (List.append_nil _).symm
    | some t =>
      -- From here on both sides ask the same: is there an expectation, and do the bounds agree?
      unfold Table.setBounds
      dsimp only [Option.bind_some]
      cases t.expectations[index]? with
      | none => exact (List.append_nil _).symm
      | some e =>
        dsimp only [Option.bind_some]
        cases b.shortMax? with
        | none => exact (List.append_nil _).symm
        | some max => rfl

theorem Calm.pending_dispatch (h : s.Calm) (depth : Nat) (c : Call) :
    (s.dispatch depth c).2.pending = s.pending ++ s.finds (.dispatch depth c) := by
  rcases h.dispatch_cases depth c with
    ⟨out, hd, hfound, hmisuse⟩ | ⟨i, f, call, changes, outcome, hent, hrun, hd⟩
  · rw [finds, hd, hmisuse, pending_enter, hfound]
    exact congrArg (s.pending ++ ·) (List.append_nil _).symm
  · -- The reply of a delegate tells of nothing, so only its changes can.
    have hnone : Reply.found (.ok (decisionOf outcome)) = [] := by
      cases outcome <;> rfl
    rw [finds, hd, misuse?_of_delegated hent hrun]
    dsimp only
    rw [pending_applyChanges, pending_enter, hent]
    show s.pending ++ [] ++ _ = s.pending ++ (Reply.found (.ok (decisionOf outcome)) ++ _)
    rw [hnone, List.append_nil, List.nil_append]

/-! ## Deeds -/

/-- A quiet deed finds nothing and tells nothing, and does not end a session. -/
theorem doing_of_isQuiet (h : s.phase ≠ .closed) (hd : d.IsQuiet) :
    (s.doing d).pending = s.pending ∧ s.finds d = [] ∧ (s.doing d).phase ≠ .closed := by
  -- The end of a block, which occurs twice: on its own and as part of a whole record.
  have hclose (s : Session) (r : Recording) :
      (s.closeRecord r).2.pending = s.pending ∧ (s.closeRecord r).2.phase ≠ .closed := by
    rcases closeRecord_cases s r with ⟨es, -, hc⟩ | ⟨e, -, hc⟩
    · rw [hc]
      exact ⟨rfl, nofun⟩
    · rw [hc]
      exact ⟨rfl, nofun⟩
  cases d with
  | declare typeName options =>
    show (s.after _).pending = s.pending ∧ [] = [] ∧ (s.after _).phase ≠ .closed
    rw [after_declares_frame]
    exact ⟨rfl, rfl, h⟩
  | newInstance of =>
    show (s.after _).pending = s.pending ∧ [] = [] ∧ (s.after _).phase ≠ .closed
    rw [after_makesInstance_frame]
    exact ⟨rfl, rfl, h⟩
  | openRecord =>
    show (s.after _).pending = s.pending ∧ [] = [] ∧ (s.after _).phase ≠ .closed
    rcases after_opensRecord s with hsame | hopen
    · rw [hsame]
      exact ⟨rfl, rfl, h⟩
    · rw [hopen]
      exact ⟨rfl, rfl, nofun⟩
  | record r =>
    show (s.record r).2.pending = s.pending ∧ [] = [] ∧ (s.record r).2.phase ≠ .closed
    rcases record_cases s r with ⟨-, hrecord⟩ | ⟨-, e, hrefused⟩
    · rw [hrecord]
      exact ⟨(hclose _ r).1, rfl, (hclose _ r).2⟩
    · rw [hrefused]
      exact ⟨rfl, rfl, h⟩
  | closeRecord r => exact ⟨(hclose s r).1, rfl, (hclose s r).2⟩
  | dispatch depth c => exact absurd rfl (hd.1 depth c)
  | verify mode b => exact absurd rfl (hd.2 mode b)

theorem EachDelegate.closeRecord {P : Delegate → Prop} (h : s.EachDelegate P) {r : Recording}
    (hr : ∀ draft ∈ r.drafts, ∀ f, Action.delegates f ∈ draft.script → P f) :
    (s.closeRecord r).2.EachDelegate P := by
  refine EachDelegate.after (v := .closesRecord r) h ?_
  intro r' heq
  cases heq
  exact hr

/-- A record block brings no delegates but its own. -/
theorem EachDelegate.record {P : Delegate → Prop} (h : s.EachDelegate P) {r : Recording}
    (hr : ∀ draft ∈ r.drafts, ∀ f, Action.delegates f ∈ draft.script → P f) :
    (s.record r).2.EachDelegate P := by
  rcases record_cases s r with ⟨-, hrecord⟩ | ⟨-, e, hrefused⟩
  · rw [hrecord]
    exact EachDelegate.closeRecord (s := s.inPhase .recording) h hr
  · rw [hrefused]
    exact h

/-- Every deed of a calm run leaves a calm session. -/
theorem Calm.doing (h : s.Calm) (hd : d.Calm) : (s.doing d).Calm := by
  have hquiet (hq : d.IsQuiet) : (s.doing d).phase ≠ .closed :=
    (doing_of_isQuiet h.notClosed hq).2.2
  cases d with
  | declare typeName options => exact ⟨hquiet ⟨nofun, nofun⟩, h.delegates.after nofun⟩
  | newInstance of => exact ⟨hquiet ⟨nofun, nofun⟩, h.delegates.after nofun⟩
  | openRecord => exact ⟨hquiet ⟨nofun, nofun⟩, h.delegates.after nofun⟩
  | closeRecord r => exact ⟨hquiet ⟨nofun, nofun⟩, h.delegates.closeRecord hd⟩
  | record r => exact ⟨hquiet ⟨nofun, nofun⟩, h.delegates.record hd⟩
  | dispatch depth c => exact h.dispatch depth c
  | verify mode b => exact h.verify mode b

/-- What a deed finds is what it adds to the pending discrepancies. -/
theorem Calm.pending_doing (h : s.Calm) (hd : ∀ mode b, d ≠ .verify mode b) :
    (s.doing d).pending = s.pending ++ s.finds d := by
  by_cases hc : ∃ depth c, d = .dispatch depth c
  · obtain ⟨depth, c, rfl⟩ := hc
    exact h.pending_dispatch depth c
  · obtain ⟨hpending, hfinds, -⟩ :=
      doing_of_isQuiet h.notClosed (d := d) ⟨fun depth c heq => hc ⟨depth, c, heq⟩, hd⟩
    rw [hpending, hfinds, List.append_nil]

/-! ## Runs -/

/-- The verifications of a run that begins with something else are those of the rest. -/
theorem inquiries_cons (hd : ∀ mode b, d ≠ .verify mode b) (ds : List Deed) :
    s.inquiries (d :: ds) = (s.doing d).inquiries ds := by
  cases d with
  | verify mode b => exact absurd rfl (hd mode b)
  | _ => rfl

/-- A session that is not over gives its pending discrepancies to the final check. -/
theorem finish_of_notClosed (h : s.phase ≠ .closed) : s.finish.1 = s.pending ++ s.deficits := by
  unfold finish
  rw [if_neg h]

/-- A verification that does not overflow tells what is pending, if the session is open; if not, it
leaves that to a later one. -/
theorem tells_of_not_overflows {mode : Mode} {b : Block}
    (hq : ¬ (⟨s, mode, b⟩ : Inquiry).Overflows) : ∃ share,
      (⟨s, mode, b⟩ : Inquiry).Tells share ∧
        share ++ (s.doing (.verify mode b)).pending = s.pending := by
  show ∃ share, _ ∧ share ++ (s.verify mode b).2.pending = s.pending
  by_cases ho : s.IsOpen
  · have hlong : ¬ (b.isTooLong mode && b.isWellFormed s.declares s.log.entries mode) = true := by
      intro h
      exact hq ⟨ho, Bool.and_eq_true_iff.mp h⟩
    have hverify := verify_of_isOpen ho mode b
    rw [if_neg hlong] at hverify
    refine ⟨s.pending, ⟨_, congrArg Prod.fst hverify, Or.inl ⟨ho, rfl⟩⟩, ?_⟩
    rw [hverify]
    exact List.append_nil _
  · obtain ⟨e, he⟩ := verify_of_not_isOpen ho mode b
    refine ⟨[], ⟨_, congrArg Prod.fst he, Or.inr ⟨ho, rfl, e, rfl⟩⟩, ?_⟩
    rw [he]
    rfl

/-- A run tells what was pending before it and what it finds, if none of its verifications
overflows. -/
theorem Calm.tells (h : s.Calm) (deeds : List Deed) (hcalm : ∀ d ∈ deeds, d.Calm)
    (hq : ∀ q ∈ s.inquiries deeds, ¬ q.Overflows) :
    ∃ shares last, List.Forall₂ Inquiry.Tells (s.inquiries deeds) shares ∧
      shares.flatten ++ last = s.pending ++ s.found deeds ∧
      (s.doingAll deeds).finish.1 = last ++ (s.doingAll deeds).deficits := by
  induction deeds generalizing s with
  | nil =>
    refine ⟨[], s.pending, .nil, ?_, finish_of_notClosed h.notClosed⟩
    rw [found, List.append_nil]
    rfl
  | cons d ds ih =>
    rw [List.forall_mem_cons] at hcalm
    have hnext := h.doing hcalm.1
    by_cases hv : ∃ mode b, d = .verify mode b
    · obtain ⟨mode, b, rfl⟩ := hv
      rw [inquiries, List.forall_mem_cons] at hq
      -- Its share and what it leaves pending make up what was pending before it.
      obtain ⟨share, htells, hshare⟩ := tells_of_not_overflows hq.1
      obtain ⟨shares, last, hall, hflat, hfinish⟩ := ih hnext hcalm.2 hq.2
      refine ⟨share :: shares, last, .cons htells hall, ?_, hfinish⟩
      show share ++ shares.flatten ++ last = s.pending ++ ([] ++ _)
      rw [List.append_assoc, hflat, ← List.append_assoc, hshare, List.nil_append]
    · -- Any other deed adds what it finds to what the rest of the run has to tell.
      have hother : ∀ mode b, d ≠ .verify mode b := fun mode b heq => hv ⟨mode, b, heq⟩
      rw [inquiries_cons hother] at hq ⊢
      obtain ⟨shares, last, hall, hflat, hfinish⟩ := ih hnext hcalm.2 hq
      refine ⟨shares, last, hall, ?_, hfinish⟩
      rw [hflat, h.pending_doing hother, found, List.append_assoc]

/-- A verification that overflows gives no report. -/
theorem not_tells_of_overflows {q : Inquiry} {share : List Mismatch} (hq : q.Overflows) :
    ¬ q.Tells share := by
  rintro ⟨verdict, houtcome, -⟩
  obtain ⟨ho, hlong, hwell⟩ := hq
  unfold Inquiry.outcome at houtcome
  rw [verify_of_isOpen ho, hlong, hwell] at houtcome
  cases houtcome

theorem exists_tells {qs : List Inquiry} {shares : List (List Mismatch)}
    (h : List.Forall₂ Inquiry.Tells qs shares) : ∀ q ∈ qs, ∃ share, q.Tells share := by
  induction h with
  | nil => exact fun _ => nofun
  | cons htells _ ih =>
    rw [List.forall_mem_cons]
    exact ⟨⟨_, htells⟩, ih⟩

/-- In a run whose delegates return, every discrepancy is told exactly once, unless a verification
panics over a block that is too long to be written out. -/
theorem tellsAll_iff (config : Config) (deeds : List Deed) (hcalm : ∀ d ∈ deeds, d.Calm) :
    ({ config } : Session).TellsAll deeds ↔
      ∀ q ∈ ({ config } : Session).inquiries deeds, ¬ q.Overflows := by
  constructor
  · rintro ⟨shares, last, hall, -, -⟩ q hmem hq
    obtain ⟨share, htells⟩ := exists_tells hall q hmem
    exact not_tells_of_overflows hq htells
  · intro hq
    obtain ⟨shares, last, hall, hflat, hfinish⟩ := (calm_new config).tells deeds hcalm hq
    exact ⟨shares, last, hall, hflat, hfinish⟩

/-- A delegate that asks for bounds which contradict each other, whatever it is asked. -/
def contrary : Delegate := ⟨fun _ => .finished [.min 2, .max 1] (.ok .unit), none⟩

/-- A knock is answered by the contrary delegate, a ring is not expected, and the log is checked. -/
def knockAndRing : List Deed :=
  [.declare "Door" ⟨.strict, .total⟩,
    .record { drafts := [{ pattern := .nullary "Door" "knock", script := [.delegates contrary] }] },
    .dispatch 0 (.nullary "Door" "knock"), .openRecord,
    .verify ⟨true, true⟩ { items := [.claim (.nullary "Door" "knock" {})] },
    .closeRecord {}, .dispatch 0 (.nullary "Door" "ring"),
    .verify ⟨false, false⟩ { items := [.claim (.nullary "Door" "knock" {})] }]

theorem calm_knockAndRing : ∀ d ∈ knockAndRing, d.Calm := by
  intro d hd draft hdraft f hf
  have hone : d = .record
      { drafts := [{ pattern := .nullary "Door" "knock", script := [.delegates contrary] }] } := by
    simp only [knockAndRing, List.mem_cons, List.not_mem_nil, or_false] at hd
    rcases hd with rfl | rfl | rfl | rfl | rfl | rfl | rfl | rfl
    · cases hdraft
    · rfl
    all_goals cases hdraft
  subst hone
  obtain rfl := List.mem_singleton.mp hdraft
  cases List.mem_singleton.mp hf
  exact fun call => ⟨_, _, rfl⟩

/-- Both discrepancies of the run are told, by the verification that is let in. -/
theorem tellsAll_iff_knockAndRing :
    ({} : Session).TellsAll knockAndRing ∧ (({} : Session).found knockAndRing).length = 2 := by
  refine ⟨(tellsAll_iff {} knockAndRing calm_knockAndRing).mpr ?_, rfl⟩
  intro q hq hover
  have hshort : q.block.isTooLong q.mode = false := by
    rcases List.mem_cons.mp hq with rfl | hq
    · rfl
    · obtain rfl := List.mem_singleton.mp hq
      rfl
  rw [hover.2.1] at hshort
  cases hshort

/-- An unexpected knock, and an in-order block with one claim that is written out too often. -/
def longBlock : List Deed :=
  [.declare "Door" ⟨.strict, .total⟩, .dispatch 0 (.nullary "Door" "knock"),
    .verify ⟨true, false⟩
      { items := [.claim (.nullary "Door" "open" ⟨some 0, some 0⟩)]
        iterations := 1152921504606846976 }]

/-- The unexpected knock is found and never told. -/
theorem not_tellsAll_longBlock : ¬ ({} : Session).TellsAll longBlock ∧
    (({} : Session).found longBlock).length = 1 ∧
    (({} : Session).doingAll longBlock).finish.1 = [] := by
  refine ⟨?_, rfl, rfl⟩
  rintro ⟨shares, last, hall, -, -⟩
  obtain ⟨share, htells⟩ := exists_tells hall _ (List.mem_cons_self ..)
  obtain ⟨verdict, houtcome, -⟩ := htells
  cases houtcome

end Session

end Understudy

import Understudy.Proofs.Replay.Told
import Understudy.Proofs.Session.Types

/-!
# Calls that are not answered leave no trace

A table changes when it answers a call and at no other time (`Table.step_of_not_isAnswer`),
so the calls of a run that nothing answered can be deleted from it. For the tables this is
`Table.replay_of_answeredCalls`.

For the callers there is more to it, because delegates see numbers: the number of the call that
they answer, and those in the replies to their own calls. A delegate that looks at them sees
whether calls were deleted (`numbers_leave_a_trace`). `Session.Mirrors` relates two sessions that
differ in numbers, and in what they remember, but whose delegates do not look at numbers. The
keystone is `dispatchNested_mirrors`: such sessions answer a call alike, however deep it nests,
and mirror each other afterwards. A call that is not answered leaves a session that mirrors the
one before, and so it can be deleted (`deletes_unanswered`).
-/

namespace Understudy

/-! ## Tables -/

namespace Table

variable {t : Table} {c : Invocation} {cs ds : List Invocation}

/-- Whether an expectation answered a call. -/
def isAnswer : Except Breakdown Resolution → Bool
  | .ok (.matched ..) => true
  | _ => false

/-- A table stays as it was when it does not answer. -/
theorem step_of_not_isAnswer (h : isAnswer (t.step c).1 = false) : (t.step c).2 = t := by
  cases hr : t.resolve c with
  | error err => rw [step_of_error hr]
  | ok p =>
    obtain ⟨r, t'⟩ := p
    rw [step_of_ok hr] at h ⊢
    rcases resolve_cases hr with ⟨hsame, -⟩ | ⟨i, e, -, -, rfl, -⟩
    · exact hsame
    · cases h

/-- The calls of a run that a table answers. -/
def answeredCalls (t : Table) : List Invocation → List Invocation
  | [] => []
  | c :: cs =>
    if isAnswer (t.step c).1 then c :: (t.step c).2.answeredCalls cs
    else (t.step c).2.answeredCalls cs

/-- A table replays calls whatever their numbers. -/
theorem replay_congr (h : cs.map (·.toCall) = ds.map (·.toCall)) : t.replay cs = t.replay ds := by
  induction cs generalizing t ds with
  | nil =>
    rw [List.map_nil, eq_comm, List.map_eq_nil_iff] at h
    rw [h]
  | cons c cs ih =>
    obtain ⟨d, ds, rfl, hd, hds⟩ := List.map_eq_cons_iff.mp h.symm
    rw [replay, replay, step_congr hd.symm, ih hds.symm]

/-- A table makes the same of the calls that it answers if it sees no others. -/
theorem replay_of_answeredCalls (h : ds.map (·.toCall) = (t.answeredCalls cs).map (·.toCall)) :
    t.replay ds = ((t.replay cs).1.filter isAnswer, (t.replay cs).2) := by
  rw [replay_congr h]
  clear h
  induction cs generalizing t with
  | nil => rfl
  | cons c cs ih =>
    rw [answeredCalls, replay]
    cases hc : isAnswer (t.step c).1 with
    | true => rw [if_pos rfl, replay, ih, List.filter_cons_of_pos hc]
    | false =>
      rw [if_neg Bool.false_ne_true, List.filter_cons_of_neg (Bool.not_eq_true _ ▸ hc), ← ih,
        step_of_not_isAnswer hc]

end Table

/-! ## Delegates that do not look at numbers -/

/-- What a delegate sees of the call it answers, but for the number in the log. -/
def DelegateCall.unnumbered (call : DelegateCall) : DelegateCall :=
  { call with invocation := { call.invocation with seq := 0 } }

/-- Two runs of delegates that come to the same if they are told the same, numbers apart. -/
inductive Run.Same : Run → Run → Prop where
  | finished (changes : List BoundChange) (outcome : Except Thrown Value) :
      Same (.finished changes outcome) (.finished changes outcome)
  | panicked (message : String) : Same (.panicked message) (.panicked message)
  | calls (c : Call) {resume resume' : Reply → Run}
      (h : ∀ reply reply', Reply.unnumbered reply = Reply.unnumbered reply' →
        Same (resume reply) (resume' reply')) : Same (.calls c resume) (.calls c resume')

/-- What a delegate does with a call does not depend on the number of any call. -/
def Delegate.IgnoresNumbers (d : Delegate) : Prop :=
  ∀ call call', call.unnumbered = call'.unnumbered → (d.run call).Same (d.run call')

theorem DelegateCall.eq_of_unnumbered {call call' : DelegateCall}
    (h : call.unnumbered = call'.unnumbered) :
    call.invocation.toCall = call'.invocation.toCall ∧ call.bounds = call'.bounds := by
  have hcall := congrArg (fun call : DelegateCall => call.invocation.toCall) h
  have hbounds := congrArg DelegateCall.bounds h
  exact ⟨hcall, hbounds⟩

/-- Being called on another thread does not depend on it either. -/
theorem Delegate.IgnoresNumbers.answer {d : Delegate} (h : d.IgnoresNumbers)
    {call call' : DelegateCall} (hsame : call.unnumbered = call'.unnumbered) :
    (d.answer call).Same (d.answer call') := by
  have hcall := (DelegateCall.eq_of_unnumbered hsame).1
  have hrefused : call.invocation.text = call'.invocation.text := by
    unfold Invocation.text Invocation.chars
    rw [hcall]
  unfold Delegate.answer
  rw [hcall, hrefused]
  split
  · exact h call call' hsame
  · exact .finished _ _

/-- What becomes of two calls when they enter is the same, numbers apart. -/
inductive Entered.Same : Entered → Entered → Prop where
  | settled {reply reply' : Reply} (h : Reply.unnumbered reply = Reply.unnumbered reply') :
      Same (.settled reply) (.settled reply')
  | torn (p : Panic) : Same (.torn p) (.torn p)
  | delegated {i : Nat} {d : Delegate} {call call' : DelegateCall}
      (h : call.unnumbered = call'.unnumbered) : Same (.delegated i d call) (.delegated i d call')

namespace Entered

variable {a b : Entered}

/-- Two calls that are over when they enter come to the same if their callers are told the same. -/
theorem same_of_told? {out : Except Panic Reply} (ha : a.told? = some out)
    (hb : b.told? = some out) : a.Same b := by
  cases a with
  | settled reply =>
    cases ha
    cases b with
    | settled reply' => exact .settled (Except.ok.inj (Option.some.inj hb)).symm
    | torn p => cases hb
    | delegated i d call => cases hb
  | torn p =>
    cases ha
    cases b with
    | settled reply' => cases hb
    | torn p' =>
      cases hb
      exact .torn p
    | delegated i d call => cases hb
  | delegated i d call => cases ha

/-- Only a delegate leaves open what the caller is told. -/
theorem delegated_of_told? (ha : a.told? = none) : ∃ i d call, a = .delegated i d call := by
  cases a with
  | settled reply => cases ha
  | torn p => cases ha
  | delegated i d call => exact ⟨i, d, call, rfl⟩

end Entered

namespace Session

variable {s s' : Session} {depth : Nat} {c : Call} {cs : List Call} {T : String}

/-! ## Sessions that mirror each other -/

/-- All types see the same of two sessions, and no delegate looks at numbers. -/
structure Mirrors (s s' : Session) : Prop where
  alike : ∀ T, s.Alike T s'
  ignores : s.EachDelegate Delegate.IgnoresNumbers

theorem Alike.answersAt (h : s.Alike c.target.typeName s') (T : String) (i : Nat) :
    s'.answersAt T i c = s.answersAt T i c := by
  have hsame : (s'.logCall c).1.toCall = (s.logCall c).1.toCall := rfl
  unfold Session.answersAt Exchange.answerer? exchange
  rw [h.table]
  simp only [Table.step_congr hsame]

/-- Sessions that are alike to the type of a call have it enter alike. -/
theorem Alike.enter_same (h : s.Alike c.target.typeName s') :
    (s.enter c).1.Same (s'.enter c).1 := by
  have htold := h.told?_enter
  cases hopen : (s.enter c).1.told? with
  | some out => exact Entered.same_of_told? hopen (htold.trans hopen)
  | none =>
    obtain ⟨i, d, call, hent⟩ := Entered.delegated_of_told? hopen
    obtain ⟨i', d', call', hent'⟩ := Entered.delegated_of_told? (htold.trans hopen)
    rw [hent, hent']
    obtain ⟨e, hserves, haction, rfl⟩ := enter_delegated hent
    obtain ⟨e', hserves', haction', rfl⟩ := enter_delegated hent'
    -- The call is answered at the same place, where the same expectation stands.
    have hplace : (s.inPhase .replaying).Alike c.target.typeName (s'.inPhase .replaying) :=
      ⟨h.table, h.config, Or.inl rfl⟩
    obtain ⟨-, rfl⟩ := (hserves.answersAt _ _).mp
      ((hplace.answersAt _ _).symm.trans ((hserves'.answersAt _ _).mpr ⟨rfl, rfl⟩))
    have hsame := expectation?_congr (i := i') hplace.table
    obtain rfl : e' = e := Option.some.inj (hserves'.place.symm.trans (hsame.trans hserves.place))
    cases haction.symm.trans haction'
    exact .delegated rfl

theorem Mirrors.refl (h : s.EachDelegate Delegate.IgnoresNumbers) : s.Mirrors s :=
  ⟨fun T => .refl T s, h⟩

theorem Mirrors.enter (h : s.Mirrors s') (c : Call) : (s.enter c).2.Mirrors (s'.enter c).2 := by
  refine ⟨fun T => ?_, h.ignores.enter c⟩
  by_cases hT : c.target.typeName = T
  · exact (h.alike T).enter hT
  · exact (alike_enter hT).symm.trans ((h.alike T).trans (alike_enter hT))

theorem Mirrors.applyBounds (h : s.Mirrors s') (U : String) (i : Nat) (b : Bounds) :
    (s.applyBounds U i b).Mirrors (s'.applyBounds U i b) := by
  refine ⟨fun T => ?_, h.ignores.after (v := .setsBounds U i b) nofun⟩
  have hT := h.alike T
  unfold Session.applyBounds
  rw [(h.alike U).table]
  cases s.table? U with
  | none => exact hT
  | some t =>
    dsimp only
    cases t.setBounds i b with
    | error e => exact ⟨hT.table, hT.config, hT.phase⟩
    | ok t' =>
      refine ⟨?_, hT.config, hT.phase⟩
      rw [table?_setTable, table?_setTable, hT.table]

/-- The changes that a delegate asks for depend on what it saw, but not on the number. -/
theorem Mirrors.applyChanges (h : s.Mirrors s') (i : Nat) {call call' : DelegateCall}
    (hcall : call.unnumbered = call'.unnumbered) (changes : List BoundChange) :
    (s.applyChanges i call changes).Mirrors (s'.applyChanges i call' changes) := by
  obtain ⟨htarget, hbounds⟩ := DelegateCall.eq_of_unnumbered hcall
  unfold Session.applyChanges
  rw [hbounds, htarget]
  split
  · exact h.applyBounds _ _ _
  · exact h

/-- A way to answer calls that sessions which mirror each other have in common. -/
def Dispatcher.Mirrors (nested : Dispatcher) : Prop := ∀ c s s', Session.Mirrors s s' →
  (nested c s).1.map Reply.unnumbered = (nested c s').1.map Reply.unnumbered ∧
    (nested c s).2.Mirrors (nested c s').2

/-- Delegates that do not look at numbers do the same in both sessions. -/
theorem follow_mirrors {nested : Dispatcher} (hn : nested.Mirrors) {run run' : Run}
    (hrun : run.Same run') (h : s.Mirrors s') :
    (follow nested run s).1 = (follow nested run' s').1 ∧
      (follow nested run s).2.Mirrors (follow nested run' s').2 := by
  -- The induction is on how the two runs are the same, and the sessions go along.
  induction hrun generalizing s s' with
  | finished changes outcome => exact ⟨rfl, h⟩
  | panicked message => exact ⟨rfl, h⟩
  | calls c hresume ih =>
    obtain ⟨hreply, hnext⟩ := hn c s s' h
    rw [follow, follow]
    cases hr : nested c s with
    | mk out u =>
      cases hr' : nested c s' with
      | mk out' u' =>
        rw [hr, hr'] at hreply hnext
        cases out with
        | ok reply =>
          cases out' with
          | ok reply' => exact ih reply reply' (Except.ok.inj hreply) hnext
          | error p' => cases hreply
        | error p =>
          cases out' with
          | ok reply' => cases hreply
          | error p' =>
            cases hreply
            exact ⟨rfl, hnext⟩

theorem dispatchWith_mirrors {nested : Dispatcher} (hn : nested.Mirrors) :
    Dispatcher.Mirrors (dispatchWith nested) := by
  intro c s s' h
  have hsame := (h.alike c.target.typeName).enter_same
  have hnext := h.enter c
  have heach {i : Nat} {d : Delegate} {call : DelegateCall}
      (hent : (s.enter c).1 = .delegated i d call) : d.IgnoresNumbers := h.ignores.delegated hent
  unfold dispatchWith
  cases hent : s.enter c with
  | mk entered u =>
    cases hent' : s'.enter c with
    | mk entered' u' =>
      rw [hent, hent'] at hsame hnext
      rw [hent] at heach
      -- Both calls come to the same when they enter, so only three of nine cases are left.
      cases hsame with
      | settled hreply => exact ⟨congrArg Except.ok hreply, hnext⟩
      | torn p => exact ⟨rfl, hnext⟩
      | @delegated i d call call' hcall =>
        dsimp only
        obtain ⟨hout, hend⟩ := follow_mirrors hn ((heach rfl).answer hcall) hnext
        cases hf : follow nested (d.answer call) u with
        | mk out v =>
          cases hf' : follow nested (d.answer call') u' with
          | mk out' v' =>
            rw [hf, hf'] at hout hend
            obtain rfl : out = out' := hout
            cases out with
            | ok p => exact ⟨rfl, hend.applyChanges i hcall p.1⟩
            | error p => exact ⟨rfl, hend⟩

theorem dispatchNested_mirrors : ∀ depth, Dispatcher.Mirrors (dispatchNested depth)
  | 0 => dispatchWith_mirrors fun _ _ _ h => ⟨rfl, h⟩
  | depth + 1 => dispatchWith_mirrors (dispatchNested_mirrors depth)

/-! ## Runs -/

/-- Whether an expectation answers a call. -/
def answers (s : Session) (c : Call) : Bool :=
  decide s.IsOpen && c.check.isOk &&
    (s.table? c.target.typeName).any fun t => Table.isAnswer (t.step (s.logCall c).1).1

/-- The calls of a run that expectations answer, with what their callers are told. -/
def toldAnswered (s : Session) (depth : Nat) : List Call → List (Call × Except Panic Reply)
  | [] => []
  | c :: cs =>
    if s.answers c then
      (c, (s.dispatch depth c).1.map Reply.unnumbered) ::
        (s.dispatch depth c).2.toldAnswered depth cs
    else (s.dispatch depth c).2.toldAnswered depth cs

/-- The calls of a run that expectations answer. -/
def answeredOf (s : Session) (depth : Nat) (cs : List Call) : List Call :=
  (s.toldAnswered depth cs).map (·.1)

/-- All is over with a call that is not answered when it has entered, and every table stays as it
was. -/
theorem enter_of_not_answers (h : s.answers c = false) :
    (∃ out, (s.enter c).1.told? = some out) ∧ ∀ T, (s.enter c).2.table? T = s.table? T := by
  by_cases ho : s.IsOpen
  · cases ht : s.table? c.target.typeName with
    | none =>
      -- Nobody declared the type, so there is no table to change.
      rw [enter_of_isOpen ho, ht]
      cases s.config.fallback with
      | refuse => exact ⟨⟨_, rfl⟩, fun T => rfl⟩
      | callReal => exact ⟨⟨_, rfl⟩, fun T => rfl⟩
    | some t =>
      cases hc : c.check with
      | error err =>
        rw [enter_of_isOpen ho, ht, hc]
        exact ⟨⟨_, rfl⟩, fun T => rfl⟩
      | ok u =>
        have hno : Table.isAnswer (t.step (s.logCall c).1).1 = false := by
          rw [answers, decide_eq_true ho, hc, ht] at h
          exact h
        have hsame : (⟨c, 0⟩ : Invocation).toCall = (s.logCall c).1.toCall := rfl
        constructor
        · -- Only an answer can leave open what the caller is told.
          rw [told?_enter ho ht hc, Table.step_congr hsame]
          refine Entered.exists_told?_ofResult _ _ fun i n b a hr => ?_
          rw [hr] at hno
          cases hno
        · intro T
          rw [enter_of_wellFormed ho ht hc]
          refine (table?_resolve (s := s.inPhase .replaying) ht).trans ?_
          rw [show ((s.inPhase .replaying).logCall c).1 = (s.logCall c).1 from rfl,
            Table.step_of_not_isAnswer hno]
          split
          · next hT => rw [hT]; exact ht.symm
          · rfl
  · obtain ⟨e, -, -, henter⟩ := enter_of_not_isOpen (c := c) ho
    rw [henter]
    exact ⟨⟨_, rfl⟩, fun T => rfl⟩

/-- No type sees anything of it. -/
theorem alike_of_not_answers (h : s.answers c = false) (T : String) :
    s.Alike T (s.dispatch depth c).2 := by
  obtain ⟨⟨out, hout⟩, hsame⟩ := enter_of_not_answers h
  rw [(dispatch_of_told? depth hout).2]
  refine ⟨hsame T, enter_config s c, ?_⟩
  by_cases ho : s.IsOpen
  · exact Or.inr ⟨ho, ho.enter⟩
  · obtain ⟨e, -, -, henter⟩ := enter_of_not_isOpen (c := c) ho
    rw [henter]
    exact Or.inl rfl

/-- Of two sessions that mirror each other, the second need not see the calls that the first does
not answer. -/
theorem Mirrors.told_answeredOf (h : s.Mirrors s') (cs : List Call) :
    s'.told depth (s.answeredOf depth cs) = s.toldAnswered depth cs ∧
      (s.dispatchAll depth cs).Mirrors (s'.dispatchAll depth (s.answeredOf depth cs)) := by
  unfold answeredOf
  induction cs generalizing s s' with
  | nil => exact ⟨rfl, h⟩
  | cons c cs ih =>
    rw [toldAnswered]
    cases hc : s.answers c with
    | true =>
      have hboth : (s.dispatch depth c).1.map Reply.unnumbered =
          (s'.dispatch depth c).1.map Reply.unnumbered ∧
          (s.dispatch depth c).2.Mirrors (s'.dispatch depth c).2 :=
        dispatchNested_mirrors depth c s s' h
      obtain ⟨hreply, hnext⟩ := hboth
      obtain ⟨htold, hend⟩ := ih hnext
      rw [if_pos rfl, List.map_cons, told, hreply]
      exact ⟨congrArg _ htold, hend⟩
    | false =>
      have halike (T : String) : s.Alike T (s.dispatch depth c).2 := alike_of_not_answers hc T
      -- The second session waits while the first one has a call that it does not answer.
      have hnext : (s.dispatch depth c).2.Mirrors s' := by
        refine ⟨fun T => (halike T).symm.trans (h.alike T), ?_⟩
        intro T i e he
        exact h.ignores T i e ((expectation?_congr (halike T).table).symm.trans he)
      rw [if_neg nofun]
      exact ih hnext

/-- If delegates do not look at numbers, the calls that nothing answers can be deleted from a run:
the callers of the others are told the same, and the same deficits are left. -/
theorem deletes_unanswered (h : s.EachDelegate Delegate.IgnoresNumbers) (cs : List Call) :
    s.told depth (s.answeredOf depth cs) = s.toldAnswered depth cs ∧
      ∀ T, (s.dispatchAll depth (s.answeredOf depth cs)).deficitsOf T =
        (s.dispatchAll depth cs).deficitsOf T := by
  obtain ⟨htold, hend⟩ := (Mirrors.refl h).told_answeredOf cs
  refine ⟨htold, fun T => ?_⟩
  rw [deficitsOf, deficitsOf, (hend.alike T).table]

/-- A table does not change unless it answers. Hence the calls that nothing answers can be deleted
from a run, provided that no delegate looks at numbers. -/
theorem unanswered_leave_no_trace :
    (∀ (t : Table) (c : Invocation), Table.isAnswer (t.step c).1 = false → (t.step c).2 = t) ∧
    ∀ (s : Session) (depth : Nat) (cs : List Call), s.EachDelegate Delegate.IgnoresNumbers →
      s.told depth (s.answeredOf depth cs) = s.toldAnswered depth cs ∧
        ∀ T, (s.dispatchAll depth (s.answeredOf depth cs)).deficitsOf T =
          (s.dispatchAll depth cs).deficitsOf T :=
  ⟨fun _ _ h => Table.step_of_not_isAnswer h, fun _ _ cs h => deletes_unanswered h cs⟩

/-- A delegate that opens a door rings, and asks to be called once more. -/
def ringingDelegate : Delegate :=
  { run := fun _ => .calls (.nullary "Door" "ring") fun _ => .finished [.max 2] (.ok .unit) }

/-- A session with a door that such a delegate opens. Nothing answers the ring. -/
def ringingDoor : Session :=
  { tables := [("Door",
      { options := ⟨.strict, .total⟩
        expectations :=
          [⟨.nullary "Door" "open", [.delegates ringingDelegate], ⟨.exactly 1, 0⟩, true, none⟩,
            ⟨.nullary "Door" "close", [], ⟨.between 1 2, 0⟩, true, none⟩] })] }

/-- The door is closed too early, and it is opened once too often. -/
def hastyCalls : List Call :=
  [.nullary "Door" "close", .nullary "Door" "open", .nullary "Door" "open",
    .nullary "Door" "open", .nullary "Door" "close"]

theorem unanswered_leave_no_trace_hastyCalls :
    ringingDoor.EachDelegate Delegate.IgnoresNumbers ∧
    ringingDoor.told 1 [.nullary "Door" "open", .nullary "Door" "open", .nullary "Door" "close"] =
      ringingDoor.toldAnswered 1 hastyCalls := by
  have hignores : ringingDoor.EachDelegate Delegate.IgnoresNumbers := by
    intro T i e he d hd
    obtain ⟨t, ht, hat⟩ := Option.bind_eq_some_iff.mp he
    rw [table?, ringingDoor, lookup_entry] at ht
    split at ht
    · cases ht
      rcases i with _ | _ | i
      · cases hat
        cases List.mem_singleton.mp hd
        exact fun _ _ _ => .calls _ fun _ _ _ => .finished _ _
      · cases hat
        cases hd
      · cases hat
    · cases ht
  have hkept : ringingDoor.answeredOf 1 hastyCalls =
      [.nullary "Door" "open", .nullary "Door" "open", .nullary "Door" "close"] := rfl
  have hrun := (unanswered_leave_no_trace.2 ringingDoor 1 hastyCalls hignores).1
  rw [hkept] at hrun
  exact ⟨hignores, hrun⟩

/-- A delegate that tells the number of the call, and asks to be called more often than that. -/
def countingDelegate : Delegate :=
  { run := fun call =>
      .finished [.min (call.invocation.seq + 1)] (.ok (.int .u64 call.invocation.seq)) }

/-- A door at which such a delegate answers knocks, and nothing answers a ring. -/
def countingDoor : Session :=
  { tables := [("Door",
      { options := ⟨.strict, .total⟩
        expectations :=
          [⟨.nullary "Door" "knock", [.delegates countingDelegate], ⟨⟨0, none⟩, 0⟩, true,
            none⟩] })] }

/-- Without the ring, the knock has another number. Its caller is told so, and one knock is no
longer too few. -/
theorem numbers_leave_a_trace :
    countingDoor.answeredOf 0 [.nullary "Door" "ring", .nullary "Door" "knock"] =
      [.nullary "Door" "knock"] ∧
    countingDoor.told 0 [.nullary "Door" "knock"] ≠
      countingDoor.toldAnswered 0 [.nullary "Door" "ring", .nullary "Door" "knock"] ∧
    (countingDoor.dispatchAll 0 [.nullary "Door" "knock"]).deficitsOf "Door" ≠
      (countingDoor.dispatchAll 0 [.nullary "Door" "ring", .nullary "Door" "knock"]).deficitsOf
        "Door" := by
  have hkept : countingDoor.told 0 [.nullary "Door" "knock"] =
      [(.nullary "Door" "knock", .ok (.ok (.returned (.int .u64 0))))] := rfl
  have hall : countingDoor.toldAnswered 0 [.nullary "Door" "ring", .nullary "Door" "knock"] =
      [(.nullary "Door" "knock", .ok (.ok (.returned (.int .u64 1))))] := rfl
  refine ⟨rfl, ?_, ?_⟩
  · rw [hkept, hall]
    intro h
    cases h
  · have hfew : (countingDoor.dispatchAll 0 [.nullary "Door" "knock"]).deficitsOf "Door" = [] := rfl
    have hone : ((countingDoor.dispatchAll 0
        [.nullary "Door" "ring", .nullary "Door" "knock"]).deficitsOf "Door").length = 1 := rfl
    intro h
    rw [← h, hfew] at hone
    cases hone

end Session

end Understudy

import Understudy.Proofs.Replay.Event
import Understudy.Session.Handle

/-!
# Operations are events

Every operation on a session comes down to events in a row. For a dispatch these are the
call itself, the calls that its delegate makes, however deep they nest, and the bounds that
delegates ask for (`dispatch_leads`).
-/

namespace Understudy

namespace Session

variable {s s' s'' : Session}

/-- Events lead from one session to another. -/
def Leads (s s' : Session) : Prop := ∃ events, s.afterAll events = s'

theorem Leads.refl (s : Session) : s.Leads s := ⟨[], rfl⟩

theorem Leads.trans (h : s.Leads s') (h' : s'.Leads s'') : s.Leads s'' := by
  obtain ⟨first, rfl⟩ := h
  obtain ⟨second, rfl⟩ := h'
  exact ⟨first ++ second, List.foldl_append ..⟩

theorem leads_after (s : Session) (v : Event) : s.Leads (s.after v) := ⟨[v], rfl⟩

theorem after_opensRecord_of_ok (h : s.beginRecord = .ok s') : s.after .opensRecord = s' := by
  show s.beginRecord.toOption.getD s = s'
  rw [h]
  rfl

theorem after_admits_of_isOpen (ho : s.IsOpen) : s.after .admits = s.inPhase .replaying := by
  have hbegin : s.beginDispatch = .ok (s.inPhase .replaying) := enterPhase_eq_ok_iff.mpr ⟨ho, rfl⟩
  show s.beginDispatch.toOption.getD s = s.inPhase .replaying
  rw [hbegin]
  rfl

theorem enter_leads (s : Session) (c : Call) : s.Leads (s.enter c).2 := by
  rcases enter_cases s c with ⟨-, reply, -, henter⟩ | ⟨ho, reply, -, henter⟩ | ⟨ho, -, hq⟩
  · rw [henter]
    exact .refl s
  · rw [henter]
    refine (leads_after s .admits).trans ?_
    rw [after_admits_of_isOpen ho]
    exact leads_after _ (.logs c)
  · refine (leads_after s .admits).trans ?_
    have hresolves : (s.inPhase .replaying).after (.resolves c) = (s.enter c).2 := by
      show (((s.inPhase .replaying).resolveCall c).map (·.2)).getD (s.inPhase .replaying) = _
      rw [hq]
      rfl
    rw [after_admits_of_isOpen ho, ← hresolves]
    exact leads_after _ (.resolves c)

theorem applyChanges_leads (s : Session) (index : Nat) (call : DelegateCall)
    (changes : List BoundChange) : s.Leads (s.applyChanges index call changes) := by
  rcases applyChanges_cases s index call changes with hsame | ⟨b, hset⟩
  · rw [hsame]
    exact .refl s
  · rw [hset]
    exact leads_after s _

/-- A way to answer calls that comes down to events. -/
def Dispatcher.Leads (nested : Dispatcher) : Prop := ∀ c s, Session.Leads s (nested c s).2

theorem follow_leads {nested : Dispatcher} (hn : nested.Leads) :
    ∀ (run : Run) (s : Session), s.Leads (follow nested run s).2
  | .finished changes outcome, s => .refl s
  | .panicked message, s => .refl s
  | .calls c resume, s => by
    have hcall := hn c s
    rw [follow]
    split
    · next reply s' hreply =>
      -- The delegate goes on from the session that the nested call left.
      rw [hreply] at hcall
      exact hcall.trans (follow_leads hn (resume reply) s')
    · next p s' hpanic =>
      rw [hpanic] at hcall
      exact hcall

theorem dispatchWith_leads {nested : Dispatcher} (hn : nested.Leads) :
    Dispatcher.Leads (dispatchWith nested) := by
  intro c s
  have henter := enter_leads s c
  unfold dispatchWith
  split
  · next reply s' hent =>
    rw [hent] at henter
    exact henter
  · next p s' hent =>
    rw [hent] at henter
    exact henter
  · next i d call s' hent =>
    rw [hent] at henter
    -- The delegate makes its calls first, and then its bounds are set.
    have hfollow := follow_leads hn (d.answer call) s'
    split
    · next changes outcome s'' hf =>
      rw [hf] at hfollow
      exact (henter.trans hfollow).trans (applyChanges_leads s'' i call changes)
    · next p s'' hf =>
      rw [hf] at hfollow
      exact henter.trans hfollow

theorem dispatchNested_leads : ∀ depth, Dispatcher.Leads (dispatchNested depth)
  | 0 => dispatchWith_leads fun _ s => .refl s
  | depth + 1 => dispatchWith_leads (dispatchNested_leads depth)

/-- Answering a call comes down to events, the calls and the changes of its delegate included. -/
theorem dispatch_leads (s : Session) (depth : Nat) (c : Call) : s.Leads (s.dispatch depth c).2 :=
  dispatchNested_leads depth c s

/-- Dropping a handle leaves the session as it is, or ends it, with the final check or without. -/
theorem drop_cases (s : Session) (d : Departure) :
    (s.drop d).2 = s ∨ (s.drop d).2 = s.close ∨ (s.drop d).2 = s.finish.2 := by
  unfold drop
  -- The checks are made one after another, and each of them can end the matter.
  by_cases hfirst : (!d.isFirst) = true
  · rw [if_pos hfirst]
    exact Or.inl rfl
  rw [if_neg hfirst]
  by_cases hquiet : (!s.config.verifyOnDrop || d.unwinding) = true
  · rw [if_pos hquiet]
    exact Or.inr (Or.inl rfl)
  rw [if_neg hquiet]
  by_cases hothers : d.others ≠ 0
  · rw [if_pos hothers]
    exact Or.inl rfl
  rw [if_neg hothers]
  by_cases hthread : d.thread ≠ .home
  · rw [if_pos hthread]
    exact Or.inl rfl
  rw [if_neg hthread]
  split
  · next s' hf =>
    rw [hf]
    exact Or.inr (Or.inr rfl)
  · next ms s' hf =>
    rw [hf]
    exact Or.inr (Or.inr rfl)

theorem drop_leads (s : Session) (d : Departure) : s.Leads (s.drop d).2 := by
  rcases s.drop_cases d with hsame | hclosed | hfinished
  · rw [hsame]
    exact .refl s
  · rw [hclosed]
    exact leads_after s .closes
  · rw [hfinished]
    exact leads_after s .finishes

end Session

end Understudy

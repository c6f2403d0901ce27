import Understudy.Proofs.Replay.Resolution

/-!
# Delegates that ask for no other bounds

While a delegate answers a call, further calls may enter the session, and once it has
finished the bounds it asked for are applied. If it asks for none, all it does to the
session is to have calls enter it: a whole dispatch, however deep its calls nest, leaves
the session that a run of entering calls leaves (`dispatch_enters`).

The delegates of a session keep this property because answering a call changes no script
(`Session.EachDelegate.enter`).
-/

namespace Understudy

/-- A run of a delegate that asks for no other bounds, whatever it is told. -/
def Run.KeepsBounds : Run → Prop
  | .finished changes _ => changes = []
  | .panicked _ => True
  | .calls _ resume => ∀ reply, (resume reply).KeepsBounds

/-- A delegate that asks for no other bounds. -/
def Delegate.KeepsBounds (d : Delegate) : Prop := ∀ call, (d.run call).KeepsBounds

/-- A delegate called elsewhere than on its own thread asks for nothing either. -/
theorem Delegate.KeepsBounds.answer {d : Delegate} (h : d.KeepsBounds) (call : DelegateCall) :
    (d.answer call).KeepsBounds := by
  unfold Delegate.answer
  split
  · exact h call
  · rfl

/-- No delegate in the scripts of the table asks for other bounds. -/
def Table.DelegatesKeepBounds (t : Table) : Prop :=
  ∀ e ∈ t.expectations, ∀ d, Action.delegates d ∈ e.script → d.KeepsBounds

namespace Session

variable {s : Session} {c : Call}

/-- No delegate that was recorded asks for other bounds. -/
def DelegatesKeepBounds (s : Session) : Prop :=
  ∀ T t, s.table? T = some t → t.DelegatesKeepBounds

theorem delegatesKeepBounds_iff :
    s.DelegatesKeepBounds ↔ s.EachDelegate Delegate.KeepsBounds := by
  constructor
  · intro h T i e he
    obtain ⟨t, ht, hat⟩ := Option.bind_eq_some_iff.mp he
    exact h T t ht e (List.mem_of_getElem? hat)
  · intro h T t ht e he
    obtain ⟨i, hi⟩ := List.mem_iff_getElem?.mp he
    exact h T i e ((expectation?_of_table? ht).trans hi)

theorem DelegatesKeepBounds.enter (h : s.DelegatesKeepBounds) :
    (s.enter c).2.DelegatesKeepBounds :=
  delegatesKeepBounds_iff.mpr ((delegatesKeepBounds_iff.mp h).enter c)

theorem DelegatesKeepBounds.enterAll (h : s.DelegatesKeepBounds) (cs : List Call) :
    (s.enterAll cs).2.DelegatesKeepBounds := by
  induction cs generalizing s with
  | nil => exact h
  | cons c cs ih => exact ih h.enter

/-! ## Dispatches are runs -/

/-- A caller is told of a flag exactly if its call was flagged when it entered. -/
theorem dispatchWith_isFlagged {nested : Dispatcher} {reply : Reply}
    (h : (dispatchWith nested c s).1 = .ok reply) :
    Reply.isFlagged reply = (s.enter c).1.isFlagged := by
  unfold dispatchWith at h
  split at h
  · next reply' s' hent =>
    cases h
    rw [hent]
    rfl
  · cases h
  · next i d call s' hent =>
    rw [hent]
    split at h
    · next changes outcome s'' hf =>
      cases h
      cases outcome <;> rfl
    · cases h

variable {depth : Nat}

theorem dispatch_isFlagged {reply : Reply} (h : (s.dispatch depth c).1 = .ok reply) :
    Reply.isFlagged reply = (s.enter c).1.isFlagged := by
  obtain ⟨nested, hd⟩ := exists_dispatchWith s depth c
  rw [hd] at h
  exact dispatchWith_isFlagged h

end Session

end Understudy

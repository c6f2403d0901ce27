import Understudy.Proofs.Replay.Language
import Understudy.Proofs.Replay.Unnumbered

/-!
# What the callers of a run are told

`Session.told` lists the calls of a run with what their callers are told, the numbers of the
calls left out. If some calls of a run make no difference to the others, they can be deleted
from it: `told_filter` asks for a relation between the session of the whole run and that of
the shorter one which the kept calls preserve with equal replies, and the deleted calls by
themselves.

On a type without delegates all is over with a call when it has entered, and its caller is told
what its table makes of it, whether the resolution breaks down or not (`dispatch_of_step`).
-/

namespace Understudy

/-- A table keeps its options. -/
@[simp] theorem Table.step_options (t : Table) (c : Invocation) :
    (t.step c).2.options = t.options := by
  cases hr : t.resolve c with
  | error e => rw [step_of_error hr]
  | ok p =>
    obtain ⟨r, t'⟩ := p
    rw [step_of_ok hr]
    rcases resolve_cases hr with ⟨rfl, -⟩ | ⟨i, e, -, -, -, hoptions, -⟩
    · rfl
    · exact hoptions

/-- What a call comes to by what its table makes of it. -/
def Entered.ofResult (policy : Policy) (c : Invocation) : Except Breakdown Resolution → Entered
  | .ok r => (({} : Session).settle policy c r).1
  | .error (.failed e) => .settled (.error (.matcherEvaluation e))
  | .error (.panicked p) => .torn p

/-- All is over with a call that no expectation answers. -/
theorem Entered.exists_told?_ofResult (policy : Policy) (i : Invocation)
    {r : Except Breakdown Resolution} (h : ∀ j n b a, r ≠ .ok (.matched j n b a)) :
    ∃ out, (Entered.ofResult policy i r).told? = some out := by
  cases r with
  | ok r =>
    obtain ⟨reply, hreply, -⟩ := Session.settle_unmatched (s := {}) policy i fun j n b a hr =>
      h j n b a (congrArg Except.ok hr)
    rw [Entered.ofResult, hreply]
    exact ⟨_, rfl⟩
  | error b =>
    cases b with
    | failed e => exact ⟨_, rfl⟩
    | panicked p => exact ⟨_, rfl⟩

/-- No expectation of a table has a delegate. -/
def Table.DelegateFree (t : Table) : Prop :=
  ∀ e ∈ t.expectations, ∀ d, Action.delegates d ∉ e.script

namespace Session

variable {s s' : Session} {c : Call} {t : Table}

/-- The calls of a run, with what their callers are told. -/
def told (s : Session) (depth : Nat) : List Call → List (Call × Except Panic Reply)
  | [] => []
  | c :: cs =>
    (c, (s.dispatch depth c).1.map Reply.unnumbered) :: (s.dispatch depth c).2.told depth cs

/-- Calls that make no difference can be left out of a run. -/
theorem told_filter (depth : Nat) {R : Session → Session → Prop} {P : Call → Prop}
    (keep : Call → Bool)
    (hkeep : ∀ s s' c, R s s' → P c → keep c = true →
      (s.dispatch depth c).1.map Reply.unnumbered = (s'.dispatch depth c).1.map Reply.unnumbered ∧
        R (s.dispatch depth c).2 (s'.dispatch depth c).2)
    (hdrop : ∀ s s' c, R s s' → P c → keep c = false → R (s.dispatch depth c).2 s')
    {cs : List Call} (hcs : ∀ c ∈ cs, P c) (h : R s s') :
    (s.told depth cs).filter (fun p => keep p.1) = s'.told depth (cs.filter keep) ∧
      R (s.dispatchAll depth cs) (s'.dispatchAll depth (cs.filter keep)) := by
  -- The relation between the two sessions is what is kept from call to call.
  induction cs generalizing s s' with
  | nil => exact ⟨rfl, h⟩
  | cons c cs ih =>
    obtain ⟨hc, hrest⟩ := List.forall_mem_cons.mp hcs
    cases hk : keep c with
    | true =>
      obtain ⟨hreply, hnext⟩ := hkeep s s' c h hc hk
      obtain ⟨htold, hend⟩ := ih hrest hnext
      have hfirst : (s.told depth (c :: cs)).filter (fun p => keep p.1) =
          (c, (s.dispatch depth c).1.map Reply.unnumbered) ::
            ((s.dispatch depth c).2.told depth cs).filter (fun p => keep p.1) :=
        List.filter_cons_of_pos hk
      rw [hfirst, htold, hreply, List.filter_cons_of_pos hk]
      exact ⟨rfl, hend⟩
    | false =>
      obtain ⟨htold, hend⟩ := ih hrest (hdrop s s' c h hc hk)
      have hfirst : (s.told depth (c :: cs)).filter (fun p => keep p.1) =
          ((s.dispatch depth c).2.told depth cs).filter (fun p => keep p.1) :=
        List.filter_cons_of_neg (Bool.not_eq_true _ ▸ hk)
      rw [hfirst, List.filter_cons_of_neg (Bool.not_eq_true _ ▸ hk)]
      exact ⟨htold, hend⟩

/-- Without delegates, a caller is told at once what a table makes of the call. -/
theorem exists_told?_of_delegateFree (hfree : t.DelegateFree) (i : Invocation) :
    ∃ out, (Entered.ofResult t.options.policy i (t.step i).1).told? = some out := by
  cases hres : t.resolve i with
  | ok p =>
    obtain ⟨r, t'⟩ := p
    rw [Table.step_of_ok hres]
    rcases Table.resolve_cases hres with ⟨-, hno⟩ | ⟨j, e, he, -, rfl, -⟩
    · exact Entered.exists_told?_ofResult _ i fun j n b a hr => hno j n b a (Except.ok.inj hr)
    · rw [Entered.ofResult, settle_matched]
      -- Only a delegate leaves open what the caller is told.
      rcases (e.actionAt e.counter.count).entered_cases j
        ⟨i, e.counter.count + 1, e.counter.bounds⟩ with ⟨reply, hreply⟩ | ⟨d, hd⟩
      · rw [hreply]
        exact ⟨_, rfl⟩
      · exact absurd (Expectation.delegates_mem_script hd) (hfree e (List.mem_of_getElem? he) d)
  | error b =>
    rw [Table.step_of_error hres]
    exact Entered.exists_told?_ofResult _ i fun j n b' a hr => by cases hr

/-- What becomes of a well-formed call when it enters is what its table makes of it. -/
theorem told?_enter (ho : s.IsOpen) (ht : s.table? c.target.typeName = some t)
    (hc : c.check = .ok ()) :
    (s.enter c).1.told? = (Entered.ofResult t.options.policy ⟨c, 0⟩ (t.step ⟨c, 0⟩).1).told? := by
  have hsame : (⟨c, 0⟩ : Invocation).toCall = (s.logCall c).1.toCall := rfl
  rw [enter_of_wellFormed ho ht hc]
  cases hres : t.resolve ⟨c, 0⟩ with
  | ok p =>
    obtain ⟨r, t'⟩ := p
    have hoptions : t'.options = t.options := by
      rw [← t.step_options ⟨c, 0⟩, Table.step_of_ok hres]
    have hres' : t.resolve (s.logCall c).1 = .ok (r, t') := (t.resolve_congr hsame).symm.trans hres
    rw [resolve_of_ok (s := s.inPhase .replaying) hres', Table.step_of_ok hres, hoptions]
    exact settle_told?_congr hsame.symm ..
  | error b =>
    have hres' : t.resolve (s.logCall c).1 = .error b := (t.resolve_congr hsame).symm.trans hres
    rw [Table.step_of_error hres]
    cases b with
    | failed e => rw [resolve_of_failed (s := s.inPhase .replaying) hres']; rfl
    | panicked p => rw [resolve_of_panicked (s := s.inPhase .replaying) hres']; rfl

/-- Without delegates, a dispatched call has its table make a step, and the caller is told what
comes of it. -/
theorem dispatch_of_step (depth : Nat) (ho : s.IsOpen) (ht : s.table? c.target.typeName = some t)
    (hc : c.check = .ok ()) (hfree : t.DelegateFree) :
    (s.dispatch depth c).2.IsOpen ∧
      (s.dispatch depth c).2.table? c.target.typeName = some (t.step ⟨c, 0⟩).2 ∧
      (Entered.ofResult t.options.policy ⟨c, 0⟩ (t.step ⟨c, 0⟩).1).told? =
        some ((s.dispatch depth c).1.map Reply.unnumbered) := by
  obtain ⟨out, hout⟩ := exists_told?_of_delegateFree hfree ⟨c, 0⟩
  obtain ⟨hreply, hsession⟩ :=
    dispatch_of_told? depth ((told?_enter ho ht hc).trans hout)
  have hsame : (s.logCall c).1.toCall = (⟨c, 0⟩ : Invocation).toCall := rfl
  rw [hsession, hreply, table?_enter_of_wellFormed ho ht hc, Table.step_congr hsame]
  exact ⟨ho.enter, rfl, hout⟩

end Session

end Understudy

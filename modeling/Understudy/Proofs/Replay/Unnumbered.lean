import Understudy.Proofs.Replay.Resolution

/-!
# Calls are resolved whatever their numbers

A table looks at the target, the method and the arguments of a call, and never at the number
that the log gave it. One lemma says so for each scan of a table, and `Table.resolve_congr` for
all of them: two calls that differ in their numbers are resolved alike.

The number comes back in one place only. A call that is flagged is part of the discrepancy that
its caller is told of (`Reply.unnumbered`). `Entered.told?` is what a caller is told as soon as
the call has entered, the number left out, and a table has the callers in any two sessions told
the same (`resolve_told?_congr`).
-/

namespace Understudy

variable {c d : Invocation}

/-! ## Scans -/

theorem Pattern.targets_congr (h : c.toCall = d.toCall) (p : Pattern) :
    p.targets c = p.targets d := by
  unfold targets
  rw [h]

theorem Pattern.accepts_congr (h : c.toCall = d.toCall) (p : Pattern) :
    p.accepts c = p.accepts d := by
  unfold accepts
  rw [p.targets_congr h, h]

theorem Pattern.rejections_congr (h : c.toCall = d.toCall) (p : Pattern) :
    p.rejections c = p.rejections d := by
  unfold rejections
  rw [p.targets_congr h, h]

theorem Expectation.answers_congr (h : c.toCall = d.toCall) (e : Expectation) :
    e.answers c = e.answers d := by
  unfold answers
  rw [e.pattern.accepts_congr h]

theorem findTurn_congr (h : c.toCall = d.toCall) (i : Nat) (es : List Expectation) :
    findTurn c i es = findTurn d i es := by
  induction es generalizing i with
  | nil => rfl
  | cons e es ih => rw [findTurn, findTurn, e.answers_congr h, ih]

theorem findUnordered_congr (h : c.toCall = d.toCall) (i : Nat) (es : List Expectation) :
    findUnordered c i es = findUnordered d i es := by
  induction es generalizing i with
  | nil => rfl
  | cons e es ih => rw [findUnordered, findUnordered, e.answers_congr h, ih]

theorem findCoverage_congr (h : c.toCall = d.toCall) (first : Option (Nat × Expectation))
    (es : List (Nat × Expectation)) : findCoverage c first es = findCoverage d first es := by
  induction es generalizing first with
  | nil => rfl
  | cons entry es ih => simp only [findCoverage, entry.2.pattern.accepts_congr h, ih]

theorem collectRejections_congr (h : c.toCall = d.toCall) (es : List (Nat × Expectation)) :
    collectRejections c es = collectRejections d es := by
  induction es with
  | nil => rfl
  | cons entry es ih =>
    rw [collectRejections, collectRejections, entry.2.pattern.targets_congr h,
      entry.2.pattern.rejections_congr h, ih]

/-! ## Tables -/

namespace Table

theorem classify_congr (h : c.toCall = d.toCall) (t : Table) (blocker : Option Nat) :
    t.classify c blocker = t.classify d blocker := by
  unfold classify
  rw [findCoverage_congr h, collectRejections_congr h]

theorem resolve_congr (h : c.toCall = d.toCall) (t : Table) : t.resolve c = t.resolve d := by
  unfold resolve resolveStrict resolveLenient
  simp only [findTurn_congr h, findUnordered_congr h, findCoverage_congr h, classify_congr h]

theorem step_congr (h : c.toCall = d.toCall) (t : Table) : t.step c = t.step d := by
  unfold step
  rw [resolve_congr h]

end Table

/-! ## Replies -/

namespace Mismatch

/-- A discrepancy without the number of the call that it is about. -/
def unnumbered : Mismatch → Mismatch
  | unexpected c reason => unexpected { c with seq := 0 } reason
  | unordered expectation c => unordered expectation { c with seq := 0 }
  | unverified c => unverified { c with seq := 0 }
  | m => m

end Mismatch

namespace Reply

/-- A reply without the number of the call. -/
def unnumbered : Reply → Reply
  | .ok (.unexpected m) => .ok (.unexpected m.unnumbered)
  | reply => reply

end Reply

/-- What the caller of a call is told unless a delegate answers it, the number left out. -/
def Entered.told? : Entered → Option (Except Panic Reply)
  | .settled reply => some (.ok reply.unnumbered)
  | .torn p => some (.error p)
  | .delegated .. => none

namespace Session

variable {s s' : Session} {t : Table}

/-- Two calls that differ in their numbers are settled alike, in whatever sessions. -/
theorem settle_told?_congr (h : c.toCall = d.toCall) (policy : Policy) (r : Resolution) :
    (s.settle policy c r).1.told? = (s'.settle policy d r).1.told? := by
  cases r with
  | matched i n b a => cases a <;> rfl
  | unmatched =>
    unfold settle
    rw [h]
    cases policy <;> rfl
  | unexpected reason =>
    show some (Except.ok (Reply.unnumbered (.ok (.unexpected (.unexpected ⟨c.toCall, 0⟩ reason))))) = _
    rw [h]
    rfl

variable {c : Call}

/-- A call is settled or torn down alike in two sessions that have the same table resolve it. -/
theorem resolve_told?_congr : (s.resolve t c).1.told? = (s'.resolve t c).1.told? := by
  have hsame : (s.logCall c).1.toCall = (s'.logCall c).1.toCall := rfl
  cases hr : t.resolve (s.logCall c).1 with
  | ok p =>
    obtain ⟨r, t'⟩ := p
    rw [resolve_of_ok hr, resolve_of_ok ((t.resolve_congr hsame).symm.trans hr)]
    exact settle_told?_congr hsame ..
  | error b =>
    have hr' := (t.resolve_congr hsame).symm.trans hr
    cases b with
    | failed e => rw [resolve_of_failed hr, resolve_of_failed hr']
    | panicked p => rw [resolve_of_panicked hr, resolve_of_panicked hr']

/-- Unless a delegate answers a call, all is over with it when it has entered. -/
theorem dispatch_of_told? (depth : Nat) {out : Except Panic Reply}
    (h : (s.enter c).1.told? = some out) :
    (s.dispatch depth c).1.map Reply.unnumbered = out ∧ (s.dispatch depth c).2 = (s.enter c).2 := by
  cases hent : (s.enter c).1 with
  | settled reply =>
    rw [hent] at h
    rw [dispatch_of_settled hent]
    exact ⟨Option.some.inj h, rfl⟩
  | torn p =>
    rw [hent] at h
    rw [dispatch_of_torn hent]
    exact ⟨Option.some.inj h, rfl⟩
  | delegated i d call =>
    rw [hent] at h
    cases h

end Session

end Understudy

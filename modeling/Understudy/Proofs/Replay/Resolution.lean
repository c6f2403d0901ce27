import Understudy.Proofs.Matching
import Understudy.Proofs.Replay.Run

/-!
# What a table makes of a call, strict or lenient

`Table.resolve_cases` is the one place where the resolution of a call by any table is taken
apart: an expectation that has capacity answers, and is counted, or the table stays as it
was. `Table.resolve_exceeded` leads back from there for a call that nothing but an exhausted
expectation describes: tables of either strictness flag it.

`Session.resolveCall` is what the lock of a table covers: a call is resolved and logged.
`resolveCall_cases` says all that comes of it for the expectations of a session, and
`enter_cases` leads every call that enters back to it.
-/

namespace Understudy

variable {c : Invocation} {i : Nat} {e : Expectation} {first : Option (Nat × Expectation)}
variable {es : List (Nat × Expectation)}

/-! ## Asking for coverage -/

theorem findCoverage_rejecting (ha : e.pattern.accepts c = .ok false) :
    findCoverage c first ((i, e) :: es) = findCoverage c first es := by
  rw [findCoverage, ha]
  rfl

theorem findCoverage_spent (ha : e.pattern.accepts c = .ok true) (hc : e.hasCapacity = false) :
    findCoverage c first ((i, e) :: es) = findCoverage c (first.or (some (i, e))) es := by
  rw [findCoverage, ha]
  simp only [hc]
  rfl

theorem findCoverage_answering (ha : e.pattern.accepts c = .ok true) (hc : e.hasCapacity = true) :
    findCoverage c first ((i, e) :: es) = .ok (.available i e) := by
  rw [findCoverage, ha]
  simp only [hc]
  rfl

theorem findCoverage_error {err : MatcherError} (ha : e.pattern.accepts c = .error err) :
    findCoverage c first ((i, e) :: es) = .error err := by
  rw [findCoverage, ha]
  rfl

/-- An available expectation is one of those asked, and answers the call. -/
theorem answers_of_available :
    ∀ {es : List (Nat × Expectation)} {first : Option (Nat × Expectation)},
    findCoverage c first es = .ok (.available i e) → (i, e) ∈ es ∧ e.answers c = .ok true
  | [], first, h => by
    cases first <;> cases h
  | (j, d) :: es, first, h => by
    -- Wherever the scan goes on, an answer found there is one of the whole list.
    have hlater {first' : Option (Nat × Expectation)}
        (h' : findCoverage c first' es = .ok (.available i e)) :
        (i, e) ∈ (j, d) :: es ∧ e.answers c = .ok true := by
      obtain ⟨hmem, hans⟩ := answers_of_available h'
      exact ⟨List.mem_cons_of_mem _ hmem, hans⟩
    cases ha : d.pattern.accepts c with
    | error err =>
      rw [findCoverage_error ha] at h
      cases h
    | ok b =>
      cases b with
      | false =>
        rw [findCoverage_rejecting ha] at h
        exact hlater h
      | true =>
        cases hc : d.hasCapacity with
        | false =>
          rw [findCoverage_spent ha hc] at h
          exact hlater h
        | true =>
          rw [findCoverage_answering ha hc] at h
          cases h
          exact ⟨List.mem_cons_self .., Expectation.answers_eq_true_iff.mpr ⟨hc, ha⟩⟩

/-- If nothing but one exhausted expectation describes a call, it is what the scan finds. -/
theorem findCoverage_exhausted (hacc : e.pattern.accepts c = .ok true)
    (hcap : e.hasCapacity = false) : ∀ {es : List (Nat × Expectation)}
      {first : Option (Nat × Expectation)},
      (∀ p ∈ es, p = (i, e) ∨ p.2.pattern.accepts c = .ok false) →
      (first = some (i, e) ∨ (first = none ∧ (i, e) ∈ es)) →
      findCoverage c first es = .ok (.exhausted i e)
  | [], first, _, hfirst => by
    rcases hfirst with rfl | ⟨-, hmem⟩
    · rfl
    · cases hmem
  | p :: es, first, hes, hfirst => by
    have hrest : ∀ q ∈ es, q = (i, e) ∨ q.2.pattern.accepts c = .ok false :=
      fun q hq => hes q (List.mem_cons_of_mem _ hq)
    rcases hes p (List.mem_cons_self ..) with rfl | hrej
    · rw [findCoverage_spent hacc hcap]
      refine findCoverage_exhausted hacc hcap hrest (Or.inl ?_)
      rcases hfirst with rfl | ⟨rfl, -⟩
      · rfl
      · rfl
    · rw [findCoverage_rejecting hrej]
      refine findCoverage_exhausted hacc hcap hrest (hfirst.imp_right fun h => ⟨h.1, ?_⟩)
      -- The expectation itself does not reject the call.
      rcases List.mem_cons.mp h.2 with rfl | hin
      · rw [hacc] at hrej
        cases hrej
      · exact hin

/-- What the foremost of some expectations say about a call: the first that describes it and has
capacity, or else the first that describes it. `first` is one that was met before them. -/
def foremost (c : Invocation) (first : Option (Nat × Expectation)) (es : List (Nat × Expectation)) :
    Coverage :=
  match es.find? fun p => p.2.pattern.describes c && p.2.hasCapacity with
  | some p => .available p.1 p.2
  | none =>
    match first.or (es.find? fun p => p.2.pattern.describes c) with
    | some p => .exhausted p.1 p.2
    | none => .none

/-- The scan finds the foremost expectation if no matcher fails. -/
theorem findCoverage_eq_foremost :
    ∀ {es : List (Nat × Expectation)} {first : Option (Nat × Expectation)},
      (∀ p ∈ es, ∃ b, p.2.pattern.accepts c = .ok b) →
      findCoverage c first es = .ok (foremost c first es)
  | [], first, _ => by cases first <;> rfl
  | (j, d) :: es, first, hok => by
    have ha := Pattern.accepts_eq_describes (hok (j, d) (List.mem_cons_self ..))
    have hrest : ∀ p ∈ es, ∃ b, p.2.pattern.accepts c = .ok b :=
      fun p hp => hok p (List.mem_cons_of_mem _ hp)
    cases hd : d.pattern.describes c with
    | false =>
      rw [hd] at ha
      rw [findCoverage_rejecting ha, findCoverage_eq_foremost hrest]
      simp [foremost, hd]
    | true =>
      rw [hd] at ha
      cases hc : d.hasCapacity with
      | true =>
        rw [findCoverage_answering ha hc]
        simp [foremost, hd, hc]
      | false =>
        -- The scan remembers the first match it passes, in case that none has room.
        rw [findCoverage_spent ha hc, findCoverage_eq_foremost hrest]
        simp [foremost, hd, hc]

/-! ## Tables -/

namespace Table

variable {t t' : Table} {r : Resolution}

theorem mem_numbered_iff : (i, e) ∈ t.numbered ↔ t.expectations[i]? = some e := by
  rw [numbered, List.mem_map]
  constructor
  · rintro ⟨⟨d, j⟩, hmem, heq⟩
    cases heq
    exact List.mem_zipIdx_iff_getElem?.mp hmem
  · intro h
    exact ⟨(e, i), List.mem_zipIdx_iff_getElem?.mpr h, rfl⟩

/-- A lenient table asks all of its expectations, in whatever order. -/
theorem mem_candidates_iff : (i, e) ∈ t.candidates ↔ t.expectations[i]? = some e := by
  rw [candidates, List.mem_mergeSort, mem_numbered_iff]

/-- The expectation at a place describes a call and may answer one more. -/
structure HasRoomFor (t : Table) (c : Invocation) (i : Nat) (e : Expectation) : Prop where
  place : t.expectations[i]? = some e
  describes : e.pattern.accepts c = .ok true
  capacity : e.hasCapacity = true

/-- All that a scan of the whole table can find, `es` being the expectations in whatever order. -/
theorem findCoverage_cases (hes : ∀ i e, (i, e) ∈ es ↔ t.expectations[i]? = some e)
    (hok : ∀ e ∈ t.expectations, ∃ b, e.pattern.accepts c = .ok b) :
    (∃ i e, findCoverage c none es = .ok (.available i e) ∧ t.HasRoomFor c i e ∧
      es.find? (fun p => p.2.pattern.describes c && p.2.hasCapacity) = some (i, e)) ∨
    (∃ i e, findCoverage c none es = .ok (.exhausted i e) ∧ (∀ j d, ¬ t.HasRoomFor c j d) ∧
      es.find? (fun p => p.2.pattern.describes c) = some (i, e)) ∨
    (findCoverage c none es = .ok .none ∧ ∀ i, ¬ t.DescribesAt i c) := by
  -- No matcher fails, so the scan is two searches: for room, and then for any match.
  rw [findCoverage_eq_foremost fun p hp => hok p.2 (List.mem_of_getElem? ((hes _ _).mp hp)),
    foremost]
  cases hroom : es.find? fun p => p.2.pattern.describes c && p.2.hasCapacity with
  | some p =>
    obtain ⟨hP, -⟩ := List.find?_eq_some_iff_append.mp hroom
    obtain ⟨hdesc, hcap⟩ := Bool.and_eq_true_iff.mp hP
    have hplace := (hes p.1 p.2).mp (List.mem_of_find?_eq_some hroom)
    exact Or.inl ⟨p.1, p.2, rfl, ⟨hplace, Pattern.describes_iff.mp hdesc, hcap⟩, rfl⟩
  | none =>
    have hnoRoom : ∀ j d, ¬ t.HasRoomFor c j d := by
      intro j d hd
      refine List.find?_eq_none.mp hroom (j, d) ((hes j d).mpr hd.place) ?_
      rw [Pattern.describes_iff.mpr hd.describes, hd.capacity]
      rfl
    rw [Option.none_or]
    cases hdesc : es.find? fun p => p.2.pattern.describes c with
    | some p => exact Or.inr (Or.inl ⟨p.1, p.2, rfl, hnoRoom, rfl⟩)
    | none =>
      refine Or.inr (Or.inr ⟨rfl, ?_⟩)
      rintro j ⟨d, hd, hacc⟩
      exact List.find?_eq_none.mp hdesc (j, d) ((hes j d).mpr hd) (Pattern.describes_iff.mpr hacc)

/-- All that a table can do with a call: it stays as it is, or an expectation with capacity answers
from its script and is counted. -/
theorem resolve_cases (h : t.resolve c = .ok (r, t')) :
    (t' = t ∧ ∀ i n b a, r ≠ .matched i n b a) ∨
    ∃ i e, t.expectations[i]? = some e ∧ e.answers c = .ok true ∧
      r = .matched i e.counter.count e.counter.bounds (e.actionAt e.counter.count) ∧
      t'.options = t.options ∧ t'.answered = t.answered + 1 ∧
      t'.expectations = t.expectations.set i (e.counted (t.answered + 1)) := by
  have hunexpected (reason : Reason) :
      ∀ i n b a, Resolution.unexpected reason ≠ .matched i n b a := by
    intro i n b a heq
    cases heq
  have hunmatched : ∀ i n b a, Resolution.unmatched ≠ .matched i n b a := by
    intro i n b a heq
    cases heq
  -- However the table searches, it changes only by letting an expectation answer.
  cases hs : t.options.strictness with
  | strict =>
    rw [resolve, hs] at h
    rcases resolveStrict_cases h with ⟨i, e, he, heq⟩ | ⟨i, e, he, heq⟩ | ⟨reason, rfl, rfl, -⟩
    · have hat : ({ t with cursor := some i } : Table).expectations[i]? = some e := he.place
      rw [answer_of_getElem? hat] at heq
      cases heq
      exact Or.inr ⟨i, e, he.place, he.takesTurn.2, rfl, rfl, rfl, rfl⟩
    · rw [answer_of_getElem? he.place] at heq
      cases heq
      exact Or.inr ⟨i, e, he.place, he.stepsIn.2, rfl, rfl, rfl, rfl⟩
    · exact Or.inl ⟨rfl, hunexpected reason⟩
  | lenient =>
    rw [resolve, hs] at h
    dsimp only at h
    unfold resolveLenient at h
    cases hcov : findCoverage c none t.candidates with
    | error err =>
      rw [hcov] at h
      cases h
    | ok coverage =>
      rw [hcov] at h
      cases coverage with
      | available i e =>
        obtain ⟨hmem, hans⟩ := answers_of_available hcov
        have heq : t.answer i = (r, t') := Except.ok.inj h
        rw [answer_of_getElem? (mem_candidates_iff.mp hmem)] at heq
        cases heq
        exact Or.inr ⟨i, e, mem_candidates_iff.mp hmem, hans, rfl, rfl, rfl, rfl⟩
      | exhausted i e =>
        cases h
        exact Or.inl ⟨rfl, hunexpected _⟩
      | none =>
        cases h
        exact Or.inl ⟨rfl, hunmatched⟩

/-- A call that nothing but an exhausted expectation describes is flagged for exceeding it. -/
theorem resolve_exceeded (he : t.expectations[i]? = some e) (hcap : e.hasCapacity = false)
    (hacc : e.pattern.accepts c = .ok true)
    (hothers : ∀ j d, j ≠ i → t.expectations[j]? = some d → d.pattern.accepts c = .ok false) :
    t.resolve c = .ok (.unexpected e.exceeded, t) := by
  have hone : ∀ p : Nat × Expectation, t.expectations[p.1]? = some p.2 →
      p = (i, e) ∨ p.2.pattern.accepts c = .ok false := by
    rintro ⟨j, d⟩ hd
    by_cases hj : j = i
    · subst hj
      rw [he] at hd
      cases hd
      exact Or.inl rfl
    · exact Or.inr (hothers j d hj hd)
  cases hs : t.options.strictness with
  | lenient =>
    have hcov : findCoverage c none t.candidates = .ok (.exhausted i e) :=
      findCoverage_exhausted hacc hcap (fun p hp => hone p (mem_candidates_iff.mp hp))
        (Or.inr ⟨rfl, mem_candidates_iff.mpr he⟩)
    rw [resolve, hs]
    dsimp only
    rw [resolveLenient, hcov]
    rfl
  | strict =>
    -- No expectation answers: one has no capacity, and the others reject the call.
    have hnone : ∀ d ∈ t.expectations, d.answers c = .ok false := by
      intro d hd
      obtain ⟨j, hj⟩ := List.mem_iff_getElem?.mp hd
      rcases hone (j, d) hj with heq | hrej
      · cases heq
        rw [Expectation.answers, hcap]
        rfl
      · exact Expectation.answers_eq_false_of_rejected hrej
    have hcov : findCoverage c none t.numbered = .ok (.exhausted i e) :=
      findCoverage_exhausted hacc hcap (fun p hp => hone p (mem_numbered_iff.mp hp))
        (Or.inr ⟨rfl, mem_numbered_iff.mpr he⟩)
    obtain ⟨turn, hturn, hno⟩ := findTurn_of_not_answers (k := t.position) fun d hd _ =>
      hnone d (List.mem_of_mem_drop hd)
    rw [resolve, hs]
    dsimp only
    rw [resolveStrict_of_not_answers hturn hno,
      findUnordered_eq_none_iff.mpr fun d hd _ => hnone d hd]
    have hreason : t.classify c turn.blocker? = .ok e.exceeded := by
      rw [classify, hcov]
      rfl
    dsimp only
    rw [hreason]
    rfl

end Table

/-! ## Sessions -/

/-- The place of the expectation that the table of a type has answer a call. -/
def Exchange.answerer? (a : Exchange) : Option Nat :=
  match a.resolution with
  | some (.ok (.matched index ..)) => some index
  | _ => none

/-- What a call comes to when the expectation at a place answers it by an action. -/
def Action.entered (index : Nat) (call : DelegateCall) : Action → Entered
  | returns v => .settled (.ok (.returned v))
  | throws e => .settled (.ok (.thrown e))
  | callsReal => .settled (.ok .callReal)
  | delegates d => .delegated index d call

/-- A delegate that a script gives for some call stands in the script. -/
theorem Expectation.delegates_mem_script {e : Expectation} {n : Nat} {d : Delegate}
    (h : e.actionAt n = .delegates d) : Action.delegates d ∈ e.script := by
  unfold actionAt at h
  cases hs : e.script.actionAt n with
  | none =>
    rw [hs] at h
    cases h
  | some a =>
    rw [hs] at h
    obtain rfl : a = .delegates d := h
    rw [Script.actionAt_eq_getElem_min] at hs
    exact List.mem_of_getElem? hs

/-- The discrepancy that a reply tells of. -/
def Reply.found : Reply → List Mismatch
  | .ok (.unexpected m) => [m]
  | .error (.matcherEvaluation e) => [.matcherEvaluation e]
  | _ => []

/-- The discrepancy that a call leaves behind when it enters. One that is torn down leaves none. -/
def Entered.found : Entered → List Mismatch
  | .settled reply => Reply.found reply
  | .torn _ | .delegated .. => []

/-- All actions but a delegate settle their call. -/
theorem Action.entered_cases (a : Action) (i : Nat) (call : DelegateCall) :
    (∃ reply, a.entered i call = .settled reply) ∨ ∃ d, a = .delegates d := by
  cases a with
  | returns v => exact Or.inl ⟨_, rfl⟩
  | throws e => exact Or.inl ⟨_, rfl⟩
  | callsReal => exact Or.inl ⟨_, rfl⟩
  | delegates d => exact Or.inr ⟨d, rfl⟩

/-- There is nothing to remember of a call that an action answers. -/
theorem Action.found_entered (a : Action) (i : Nat) (call : DelegateCall) :
    (a.entered i call).found = [] := by
  cases a <;> rfl

/-- The error of a malformed call is not that of a matcher. -/
theorem Call.found_of_check {c : Call} {err : SessionError} (h : c.check = .error err) :
    Reply.found (.error err) = [] := by
  unfold check at h
  split at h
  · cases h
    rfl
  · split at h
    · cases h
      rfl
    · cases h

namespace Session

variable {s s' : Session} {c : Call} {T : String} {t : Table} {q : Entered × Session}

/-- Has the table of its type resolve a call and logs it, if there is such a table. -/
def resolveCall (s : Session) (c : Call) : Option (Entered × Session) :=
  (s.table? c.target.typeName).map fun t => s.resolve t c

/-- The expectation that a session holds at a place of the table of a type. -/
def expectation? (s : Session) (typeName : String) (index : Nat) : Option Expectation :=
  (s.table? typeName).bind (·.expectations[index]?)

/-- Whether the expectation at a place answers a call when it is resolved. -/
def answersAt (s : Session) (typeName : String) (index : Nat) (c : Call) : Bool :=
  c.target.typeName = typeName && (s.exchange c).answerer? = some index

theorem expectation?_of_table? (ht : s.table? T = some t) :
    s.expectation? T i = t.expectations[i]? := by
  rw [expectation?, ht]
  rfl

theorem expectation?_congr (h : s'.table? T = s.table? T) :
    s'.expectation? T i = s.expectation? T i := by
  rw [expectation?, h]
  rfl

theorem answersAt_iff (ht : s.table? c.target.typeName = some t) :
    s.answersAt T i c = true ↔ T = c.target.typeName ∧
      ∃ n b a, (t.step (s.logCall c).1).1 = .ok (.matched i n b a) := by
  rw [answersAt, Bool.and_eq_true, decide_eq_true_iff, decide_eq_true_iff, eq_comm (b := T)]
  refine and_congr_right fun _ => ?_
  unfold Exchange.answerer? exchange
  rw [ht]
  dsimp only [Option.map_some]
  constructor
  · intro h
    split at h
    · next index n b a heq =>
      cases h
      exact ⟨n, b, a, Option.some.inj heq⟩
    · cases h
  · rintro ⟨n, b, a, h⟩
    rw [h]

/-- Nothing answers for a type that was never declared. -/
theorem answersAt_of_not_declared (h : s.table? c.target.typeName = none) :
    s.answersAt T i c = false := by
  unfold answersAt Exchange.answerer? exchange
  rw [h]
  exact Bool.and_false _

/-- A call is answered at one place. -/
theorem answersAt_unique {j : Nat} (hi : s.answersAt T i c = true) (hj : s.answersAt T j c = true) :
    i = j := by
  have hat := of_decide_eq_true (Bool.and_eq_true_iff.mp hi).2
  exact Option.some.inj (hat.symm.trans (of_decide_eq_true (Bool.and_eq_true_iff.mp hj).2))

/-- An expectation answers a call: it gives the action whose turn it is and is counted, and every
other one stays as it was. -/
structure Serves (s : Session) (c : Call) (i : Nat) (e : Expectation) (q : Entered × Session) :
    Prop where
  place : s.expectation? c.target.typeName i = some e
  answers : e.answers (s.logCall c).1 = .ok true
  entered : q.1 = (e.actionAt e.counter.count).entered i
    ⟨(s.logCall c).1, e.counter.count + 1, e.counter.bounds⟩
  pending : q.2.pending = s.pending
  counted : ∃ n, q.2.expectation? c.target.typeName i = some (e.counted n)
  others : ∀ T j, ¬ (T = c.target.typeName ∧ j = i) → q.2.expectation? T j = s.expectation? T j
  answersAt : ∀ T j, s.answersAt T j c = true ↔ T = c.target.typeName ∧ j = i

/-- No expectation answers a call: it is settled, or torn down, and what there is to remember, the
caller is told. -/
structure Spurns (s : Session) (c : Call) (q : Entered × Session) : Prop where
  entered : ∀ i d call, q.1 ≠ .delegated i d call
  pending : q.2.pending = s.pending ++ q.1.found
  places : ∀ T j, q.2.expectation? T j = s.expectation? T j
  answersAt : ∀ T j, s.answersAt T j c = false

theorem settle_matched (policy : Policy) (inv : Invocation) (i n : Nat) (b : Bounds) (a : Action) :
    s.settle policy inv (.matched i n b a) = (a.entered i ⟨inv, n + 1, b⟩, s) := by
  cases a <;> rfl

/-- Unless an expectation answers, a resolution settles the call. -/
theorem settle_unmatched (policy : Policy) (inv : Invocation) {r : Resolution}
    (hr : ∀ i n b a, r ≠ .matched i n b a) :
    ∃ reply, (s.settle policy inv r).1 = .settled reply ∧
      (s.settle policy inv r).2.pending = s.pending ++ reply.found := by
  cases r with
  | matched i n b a => exact absurd rfl (hr i n b a)
  | unmatched => cases policy <;> exact ⟨_, rfl, (List.append_nil _).symm⟩
  | unexpected reason => exact ⟨_, rfl, rfl⟩

/-- All that can become of a call that is resolved: an expectation answers it, or none does. -/
theorem resolveCall_cases (h : s.resolveCall c = some q) :
    (∃ i e, s.Serves c i e q) ∨ s.Spurns c q := by
  obtain ⟨t, ht, rfl⟩ := Option.map_eq_some_iff.mp h
  have htable (T : String) : (s.resolve t c).2.table? T =
      if T = c.target.typeName then some (t.step (s.logCall c).1).2 else s.table? T :=
    table?_resolve ht
  have helsewhere (T : String) (j : Nat) (hT : T ≠ c.target.typeName) :
      (s.resolve t c).2.expectation? T j = s.expectation? T j := by
    refine expectation?_congr ?_
    rw [htable, if_neg hT]
  have hhere (j : Nat) : (s.resolve t c).2.expectation? c.target.typeName j =
      (t.step (s.logCall c).1).2.expectations[j]? := by
    refine expectation?_of_table? ?_
    rw [htable, if_pos rfl]
  -- A table that stays as it was answers nothing.
  have hspurned (hstep : (t.step (s.logCall c).1).2 = t)
      (hno : ∀ i n b a, (t.step (s.logCall c).1).1 ≠ .ok (.matched i n b a))
      (hentered : ∀ i d call, (s.resolve t c).1 ≠ .delegated i d call)
      (hpending : (s.resolve t c).2.pending = s.pending ++ (s.resolve t c).1.found) :
      s.Spurns c (s.resolve t c) := by
    refine ⟨hentered, hpending, ?_, ?_⟩
    · intro T j
      by_cases hT : T = c.target.typeName
      · rw [hT, hhere, hstep, expectation?_of_table? ht]
      · exact helsewhere T j hT
    · intro T j
      rw [← Bool.not_eq_true, answersAt_iff ht]
      rintro ⟨-, n, b, a, hmatched⟩
      exact hno j n b a hmatched
  cases hr : t.resolve (s.logCall c).1 with
  | error b =>
    have hstep := Table.step_of_error hr
    have hno : ∀ i n b a, (t.step (s.logCall c).1).1 ≠ .ok (.matched i n b a) := by
      rw [hstep]
      exact fun _ _ _ _ => nofun
    refine Or.inr (hspurned (by rw [hstep]) hno ?_ ?_)
    · cases b with
      | failed err => rw [resolve_of_failed hr]; exact fun _ _ _ => nofun
      | panicked p => rw [resolve_of_panicked hr]; exact fun _ _ _ => nofun
    · cases b with
      | failed err => rw [resolve_of_failed hr]; rfl
      | panicked p => rw [resolve_of_panicked hr]; exact (List.append_nil _).symm
  | ok p =>
    obtain ⟨r, t'⟩ := p
    have hstep := Table.step_of_ok hr
    have hres := resolve_of_ok hr
    rcases Table.resolve_cases hr with ⟨rfl, hnone⟩ | ⟨i, e, he, hans, rfl, -, -, hexp⟩
    · obtain ⟨reply, hentered, hpending⟩ := settle_unmatched
        (s := (s.logCall c).2.setTable c.target.typeName t') t'.options.policy (s.logCall c).1 hnone
      rw [← hres] at hentered hpending
      refine Or.inr (hspurned (by rw [hstep]) ?_ ?_ (by rw [hentered]; exact hpending))
      · rw [hstep]
        exact fun i n b a heq => hnone i n b a (Except.ok.inj heq)
      · rw [hentered]
        exact fun _ _ _ => nofun
    · have hlt : i < t.expectations.length := (List.getElem?_eq_some_iff.mp he).1
      rw [settle_matched] at hres
      refine Or.inl ⟨i, e, ?_⟩
      exact {
        place := (expectation?_of_table? ht).trans he
        answers := hans
        entered := by rw [hres]
        pending := by rw [hres]; rfl
        counted := by
          refine ⟨t.answered + 1, ?_⟩
          rw [hhere, hstep, hexp]
          exact List.getElem?_set_self hlt
        others := by
          intro T j hne
          by_cases hT : T = c.target.typeName
          · have hij : i ≠ j := fun hij => hne ⟨hT, hij.symm⟩
            rw [hT, hhere, hstep, hexp, expectation?_of_table? ht]
            exact List.getElem?_set_ne hij
          · exact helsewhere T j hT
        answersAt := by
          intro T j
          rw [answersAt_iff ht, hstep]
          refine and_congr_right fun _ => ?_
          constructor
          · rintro ⟨n', b, a, hmatched⟩
            cases hmatched
            rfl
          · rintro rfl
            exact ⟨_, _, _, rfl⟩ }

/-! ## Calls that enter a session -/

/-- A session that is not open takes no notice of a call. -/
theorem enter_of_not_isOpen (ho : ¬ s.IsOpen) :
    ∃ e, Reply.found (.error e) = [] ∧ s.beginDispatch = .error e ∧
      s.enter c = (.settled (.error e), s) := by
  unfold enter beginDispatch enterPhase
  split
  · exact ⟨_, rfl, rfl, rfl⟩
  · exact ⟨_, rfl, rfl, rfl⟩
  · next hrec hclo => exact absurd ⟨hrec, hclo⟩ ho

/-- All that can become of a call that enters: the session refuses it, or logs it; then it is dealt
with outside the tables, or the table of its type resolves it. -/
theorem enter_cases (s : Session) (c : Call) :
    (¬ s.IsOpen ∧ ∃ reply, Reply.found reply = [] ∧ s.enter c = (.settled reply, s)) ∨
    (s.IsOpen ∧ ∃ reply, Reply.found reply = [] ∧
      s.enter c = (.settled reply, ((s.inPhase .replaying).logCall c).2)) ∨
    (s.IsOpen ∧ c.check = .ok () ∧ (s.inPhase .replaying).resolveCall c = some (s.enter c)) := by
  -- The checks come in this order: the phase, the type, the arguments.
  by_cases ho : s.IsOpen
  · right
    cases ht : s.table? c.target.typeName with
    | none =>
      left
      refine ⟨ho, ?_⟩
      rw [enter_of_isOpen ho, ht]
      cases s.config.fallback with
      | refuse => exact ⟨_, rfl, rfl⟩
      | callReal => exact ⟨_, rfl, rfl⟩
    | some t =>
      cases hc : c.check with
      | ok u =>
        refine Or.inr ⟨ho, rfl, ?_⟩
        rw [enter_of_wellFormed ho ht hc, resolveCall]
        exact congrArg (Option.map _) ht
      | error err =>
        refine Or.inl ⟨ho, .error err, Call.found_of_check hc, ?_⟩
        rw [enter_of_isOpen ho, ht, hc]
  · obtain ⟨e, hfound, -, henter⟩ := enter_of_not_isOpen (c := c) ho
    exact Or.inl ⟨ho, _, hfound, henter⟩

/-- Whatever is remembered of a call, its caller is told. -/
theorem pending_enter (s : Session) (c : Call) :
    (s.enter c).2.pending = s.pending ++ (s.enter c).1.found := by
  rcases enter_cases s c with ⟨-, reply, hfound, henter⟩ | ⟨-, reply, hfound, henter⟩ | ⟨-, -, h⟩
  · rw [henter, Entered.found, hfound, List.append_nil]
  · rw [henter, Entered.found, hfound, List.append_nil]
    rfl
  · rcases resolveCall_cases h with ⟨i, e, hserves⟩ | hspurns
    · rw [hserves.entered, Action.found_entered, List.append_nil]
      exact hserves.pending
    · exact hspurns.pending

/-- A delegate that is to answer a call comes from the script of an expectation that was counted
for it. -/
theorem resolveCall_delegated {d : Delegate} {call : DelegateCall}
    (h : s.resolveCall c = some (.delegated i d call, s')) :
    ∃ e, s.Serves c i e (.delegated i d call, s') ∧
      e.actionAt e.counter.count = .delegates d ∧
      call = ⟨(s.logCall c).1, e.counter.count + 1, e.counter.bounds⟩ := by
  rcases resolveCall_cases h with ⟨j, e, hserves⟩ | hspurns
  · have hentered := hserves.entered.symm
    rcases Action.entered_cases (e.actionAt e.counter.count) j
      ⟨(s.logCall c).1, e.counter.count + 1, e.counter.bounds⟩ with ⟨reply, hsettled⟩ | ⟨d', hd'⟩
    · cases hsettled.symm.trans hentered
    · rw [hd'] at hentered
      cases hentered
      exact ⟨e, hserves, hd', rfl⟩
  · exact absurd rfl (hspurns.entered i d call)

theorem enter_delegated {d : Delegate} {call : DelegateCall}
    (h : (s.enter c).1 = .delegated i d call) :
    ∃ e, (s.inPhase .replaying).Serves c i e (s.enter c) ∧
      e.actionAt e.counter.count = .delegates d ∧
      call = ⟨(s.logCall c).1, e.counter.count + 1, e.counter.bounds⟩ := by
  rcases enter_cases s c with ⟨-, reply, -, henter⟩ | ⟨-, reply, -, henter⟩ | ⟨-, -, hres⟩
  · rw [henter] at h
    cases h
  · rw [henter] at h
    cases h
  · have hentered : s.enter c = (.delegated i d call, (s.enter c).2) := Prod.ext h rfl
    rw [hentered] at hres ⊢
    exact resolveCall_delegated hres

/-! ## What holds of every delegate -/

/-- Every delegate that a session may have answer a call has a property. -/
def EachDelegate (P : Delegate → Prop) (s : Session) : Prop :=
  ∀ T i e, s.expectation? T i = some e → ∀ d, Action.delegates d ∈ e.script → P d

variable {P : Delegate → Prop}

/-- Calls bring no new delegates. -/
theorem EachDelegate.enter (h : s.EachDelegate P) (c : Call) : (s.enter c).2.EachDelegate P := by
  rcases enter_cases s c with ⟨-, reply, -, henter⟩ | ⟨-, reply, -, henter⟩ | ⟨-, -, hres⟩
  · rw [henter]
    exact h
  · rw [henter]
    exact h
  · intro T j e' he'
    rcases resolveCall_cases hres with ⟨i, e, hserves⟩ | hspurns
    · by_cases hj : T = c.target.typeName ∧ j = i
      · obtain ⟨rfl, rfl⟩ := hj
        obtain ⟨n, hn⟩ := hserves.counted
        cases hn.symm.trans he'
        exact h _ _ e hserves.place
      · exact h T j e' ((hserves.others T j hj).symm.trans he')
    · exact h T j e' ((hspurns.places T j).symm.trans he')

/-- A delegate that is to answer a call is one of them. -/
theorem EachDelegate.delegated (h : s.EachDelegate P) {d : Delegate} {call : DelegateCall}
    (hd : (s.enter c).1 = .delegated i d call) : P d := by
  obtain ⟨e, hserves, haction, -⟩ := enter_delegated hd
  exact h _ _ e hserves.place d (Expectation.delegates_mem_script haction)

/-! ## Dispatched calls -/

variable {depth : Nat}

theorem exists_dispatchWith (s : Session) (depth : Nat) (c : Call) :
    ∃ nested, s.dispatch depth c = dispatchWith nested c s := by
  rw [dispatch]
  cases depth with
  | zero => exact ⟨_, rfl⟩
  | succ depth => exact ⟨_, rfl⟩

/-- A call that is settled when it enters is answered by that. -/
theorem dispatch_of_settled {reply : Reply} (h : (s.enter c).1 = .settled reply) :
    s.dispatch depth c = (.ok reply, (s.enter c).2) := by
  obtain ⟨nested, hd⟩ := exists_dispatchWith s depth c
  rw [hd, dispatchWith]
  cases he : s.enter c with
  | mk entered s' =>
    rw [he] at h
    obtain rfl : entered = .settled reply := h
    rfl

/-- A panic that tears a call down when it enters goes on to the caller. -/
theorem dispatch_of_torn {p : Panic} (h : (s.enter c).1 = .torn p) :
    s.dispatch depth c = (.error p, (s.enter c).2) := by
  obtain ⟨nested, hd⟩ := exists_dispatchWith s depth c
  rw [hd, dispatchWith]
  cases he : s.enter c with
  | mk entered s' =>
    rw [he] at h
    obtain rfl : entered = .torn p := h
    rfl

/-- A delegate that returns at once answers the call, and its changes are applied. -/
theorem dispatch_of_delegated {d : Delegate} {call : DelegateCall} {changes : List BoundChange}
    {outcome : Except Thrown Value} (h : (s.enter c).1 = .delegated i d call)
    (hrun : d.answer call = .finished changes outcome) :
    s.dispatch depth c =
      (.ok (.ok (decisionOf outcome)), (s.enter c).2.applyChanges i call changes) := by
  obtain ⟨nested, hd⟩ := exists_dispatchWith s depth c
  rw [hd, dispatchWith]
  cases he : s.enter c with
  | mk entered s' =>
    rw [he] at h
    obtain rfl : entered = .delegated i d call := h
    dsimp only
    rw [hrun]
    rfl

end Session

end Understudy

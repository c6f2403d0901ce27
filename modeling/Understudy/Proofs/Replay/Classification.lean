import Understudy.Proofs.Replay.Language

/-!
# Why a strict type answers a call with no expectation

A strict table looks for an answer in two scans, along the recorded sequence and over the
unordered expectations. If both come back with nothing, it looks over the whole table a third
time to say why. The third scan knows neither of the other two, except for the place that the
sequence waits for, so it has to be shown that its verdict fits them: whatever has capacity for
the call is an ordered expectation that the sequence has left behind or cannot get to
(`isOutOfTurn_of_held`).

`Table.Classifies` is what the verdict means. A table gives such a verdict on every call that it
does not answer (`Table.resolveStrict_unanswered`), and the caller is told
(`Session.dispatch_unanswered`).
-/

namespace Understudy

variable {c : Invocation}

namespace Expectation

variable {e : Expectation}

/-- An expectation fails on a call only if its pattern does. -/
theorem exists_answers_eq_ok (h : ∃ b, e.pattern.accepts c = .ok b) :
    ∃ b, e.answers c = .ok b := by
  unfold answers
  split
  · exact h
  · exact ⟨false, rfl⟩

end Expectation

/-- The search among unordered expectations ends if no matcher fails. -/
theorem exists_findUnordered_eq_ok : ∀ {es : List Expectation} {k : Nat},
    (∀ e ∈ es, ∃ b, e.answers c = .ok b) → ∃ spare, findUnordered c k es = .ok spare
  | [], _, _ => ⟨none, rfl⟩
  | e :: es, k, hok => by
    have ih := exists_findUnordered_eq_ok (k := k + 1) fun d hd => hok d (List.mem_cons_of_mem _ hd)
    cases ho : e.ordered with
    | true => rw [findUnordered_ordered ho]; exact ih
    | false =>
      obtain ⟨b, ha⟩ := hok e (List.mem_cons_self ..)
      cases b with
      | true => exact ⟨some k, findUnordered_answering ho ha⟩
      | false => rw [findUnordered_rejecting ho ha]; exact ih

namespace Table

variable {t : Table} {i : Nat} {e : Expectation} {blocker : Option Nat}

/-! ## What the reasons mean -/

/-- The first expectation of the table that describes a call. -/
structure IsFirstFor (t : Table) (c : Invocation) (i : Nat) (e : Expectation) : Prop where
  place : t.expectations[i]? = some e
  describes : e.pattern.accepts c = .ok true
  first : ∀ j < i, ¬ t.DescribesAt j c

/-- The expectation at a place belongs to the recorded sequence, and cannot have its turn there: it
lies before the cursor, or behind one that is below its minimum. -/
def IsOutOfTurn (t : Table) (i : Nat) (e : Expectation) : Prop :=
  e.ordered = true ∧
    (i < t.position ∨ ∃ j d, t.position ≤ j ∧ j < i ∧ t.expectations[j]? = some d ∧
      d.ordered = true ∧ d.satisfied = false)

/-- From the cursor on, the first expectation of the recorded sequence that is below its
minimum. -/
structure IsDue (t : Table) (i : Nat) (e : Expectation) : Prop where
  place : t.expectations[i]? = some e
  ahead : t.position ≤ i
  ordered : e.ordered = true
  unsatisfied : e.satisfied = false
  first : ∀ j d, t.position ≤ j → j < i → t.expectations[j]? = some d → d.ordered = true →
    d.satisfied = true

/-- A text names the expectation that is due, or says that there is none. -/
def NamesDue (t : Table) (text : String) : Prop :=
  (∃ i e, t.IsDue i e ∧ text = e.pattern.description) ∨
    ((∀ i e, ¬ t.IsDue i e) ∧ text = "nothing further, the recorded sequence is complete")

/-- What the reason for flagging a call says about the table. -/
structure Classifies (t : Table) (c : Invocation) (reason : Reason) : Prop where
  outOfOrder_iff : (∃ text, reason = .outOfOrder text) ↔ ∃ i e, t.HasRoomFor c i e
  outOfTurn : ∀ i e, t.HasRoomFor c i e → t.IsOutOfTurn i e
  namesDue : ∀ text, reason = .outOfOrder text → t.NamesDue text
  exceeded : (∀ i e, ¬ t.HasRoomFor c i e) → (∃ i, t.DescribesAt i c) →
    ∃ i e, t.IsFirstFor c i e ∧ reason = e.exceeded
  noMatch : (∀ i, ¬ t.DescribesAt i c) → ∃ rejections, reason = .noMatch rejections

/-! ## Where the recorded sequence stands -/

/-- The sequence goes along with a call as far as a place, or to its end if there is none, and
nothing in it answers. -/
def HeldAt (t : Table) (c : Invocation) : Option Nat → Prop
  | some k => t.position ≤ k ∧ (∃ e, t.expectations[k]? = some e ∧ e.HoldsUp c) ∧
      ∀ j d, t.position ≤ j → j < k → t.expectations[j]? = some d → d.LetsPass c
  | none => ∀ j d, t.position ≤ j → t.expectations[j]? = some d → d.LetsPass c

/-- The sequence is held somewhere if it does not go on and no matcher fails. -/
theorem exists_heldAt (hok : ∀ e ∈ t.expectations, ∃ b, e.answers c = .ok b)
    (hnext : ∀ i e, ¬ t.IsNext c i e) :
    ∃ turn, findTurn c t.position (t.expectations.drop t.position) = .ok turn ∧
      (∀ i, turn ≠ .answers i) ∧ t.HeldAt c turn.blocker? := by
  -- The scan finds an answer, or it stops at an unsatisfied expectation, or it runs through.
  rcases findTurn_cases (k := t.position) fun d hd => hok d (List.mem_of_mem_drop hd) with
    ⟨i, hans⟩ | ⟨n, e, hblocked, hstops⟩ | ⟨hpassed, hall⟩
  · obtain ⟨e, he⟩ := findTurn_position_iff.mp hans
    exact absurd he (hnext i e)
  · refine ⟨_, hblocked, fun _ => nofun, Nat.le_add_right .., ⟨e, ?_, hstops.stops⟩, ?_⟩
    · -- The scan counts from the cursor.
      rw [← List.getElem?_drop]
      exact hstops.place
    · intro j d hj hjn hd
      refine hstops.passed (j - t.position) (by omega) d ?_
      rw [List.getElem?_drop, Nat.add_sub_cancel' hj]
      exact hd
  · refine ⟨_, hpassed, fun _ => nofun, ?_⟩
    intro j d hj hd
    refine hall d (List.mem_of_getElem? (i := j - t.position) ?_)
    rw [List.getElem?_drop, Nat.add_sub_cancel' hj]
    exact hd

/-- The place where the sequence is held is the one that is due. -/
theorem namesDue_of_held (h : t.HeldAt c blocker) :
    t.NamesDue (match blocker.bind (t.expectations[·]?) with
      | some e => e.pattern.description
      | none => "nothing further, the recorded sequence is complete") := by
  cases blocker with
  | some k =>
    obtain ⟨hk, ⟨e, he, hholds⟩, hpass⟩ := h
    have hdue : t.IsDue k e :=
      ⟨he, hk, hholds.1, hholds.2.2, fun j d hj hjk hd ho => (hpass j d hj hjk hd ho).2⟩
    rw [Option.bind_some, he]
    exact Or.inl ⟨k, e, hdue, rfl⟩
  | none =>
    refine Or.inr ⟨?_, rfl⟩
    intro i e hdue
    have hsat := (h i e hdue.ahead hdue.place hdue.ordered).2
    rw [hdue.unsatisfied] at hsat
    cases hsat

/-- An expectation with capacity for a call that neither scan has answer it is out of turn. -/
theorem isOutOfTurn_of_held (h : t.HeldAt c blocker) (hout : ∀ d ∈ t.expectations, d.StaysOut c)
    (hroom : t.HasRoomFor c i e) : t.IsOutOfTurn i e := by
  have hans : e.answers c = .ok true :=
    Expectation.answers_eq_true_iff.mpr ⟨hroom.capacity, hroom.describes⟩
  have ho : e.ordered = true := by
    by_contra hun
    have hstays := hout e (List.mem_of_getElem? hroom.place) (Bool.not_eq_true _ ▸ hun)
    rw [hans] at hstays
    cases hstays
  refine ⟨ho, ?_⟩
  -- The sequence does not pass over an expectation that answers.
  have hstops : ¬ e.LetsPass c := by
    intro hpass
    have hfalse := (hpass ho).1
    rw [hans] at hfalse
    cases hfalse
  by_cases hi : i < t.position
  · exact Or.inl hi
  · right
    have hi : t.position ≤ i := by omega
    cases blocker with
    | none => exact absurd (h i e hi hroom.place) hstops
    | some k =>
      obtain ⟨hk, ⟨d, hd, hholds⟩, hpass⟩ := h
      refine ⟨k, d, hk, ?_, hd, hholds.1, hholds.2.2⟩
      by_contra hki
      rcases Nat.lt_or_eq_of_le (Nat.le_of_not_lt hki) with hlt | rfl
      · exact hstops (hpass i e hi hlt hroom.place)
      · -- The sequence is not held at an expectation that answers, either.
        rw [hroom.place] at hd
        cases hd
        have hfalse := hholds.2.1
        rw [hans] at hfalse
        cases hfalse

/-! ## The verdict -/

theorem getElem?_numbered (t : Table) (i : Nat) :
    t.numbered[i]? = (t.expectations[i]?).map (i, ·) := by
  rw [numbered, List.getElem?_map, List.getElem?_zipIdx, Option.map_map, Nat.zero_add]
  rfl

/-- What is found among the expectations of the table is the first one in table order. -/
theorem find?_numbered_eq_some {P : Nat × Expectation → Bool}
    (h : t.numbered.find? P = some (i, e)) :
    t.expectations[i]? = some e ∧ P (i, e) = true ∧
      ∀ j < i, ∀ d, t.expectations[j]? = some d → P (j, d) = false := by
  obtain ⟨hP, k, hk, hat, hbefore⟩ := List.find?_eq_some_iff_getElem.mp h
  have hnum : t.numbered[k]? = some (i, e) := by rw [List.getElem?_eq_getElem hk, hat]
  have hplace := mem_numbered_iff.mp (List.mem_of_getElem? hnum)
  rw [getElem?_numbered] at hnum
  obtain ⟨d, -, hd⟩ := Option.map_eq_some_iff.mp hnum
  obtain rfl : k = i := congrArg Prod.fst hd
  refine ⟨hplace, hP, ?_⟩
  intro j hj d hd
  have hnumj : t.numbered[j]? = some (j, d) := by rw [getElem?_numbered, hd]; rfl
  have hnot := hbefore j hj
  rw [(List.getElem?_eq_some_iff.mp hnumj).2] at hnot
  exact (Bool.not_eq_true' _).mp hnot

/-- The first expectation found to describe a call is the first in the table that does. -/
theorem isFirstFor_of_find?
    (h : t.numbered.find? (fun p => p.2.pattern.describes c) = some (i, e)) :
    t.IsFirstFor c i e := by
  obtain ⟨hplace, hP, hbefore⟩ := find?_numbered_eq_some h
  refine ⟨hplace, Pattern.describes_iff.mp hP, ?_⟩
  rintro j hj ⟨d, hd, hacc⟩
  have hnot := hbefore j hj d hd
  rw [Pattern.describes_iff.mpr hacc] at hnot
  cases hnot

/-- If nothing has room for the call, the reason depends on whether anything describes it. -/
theorem classifies_of_noRoom {reason : Reason} (hnot : ∀ text, reason ≠ .outOfOrder text)
    (hnoRoom : ∀ i e, ¬ t.HasRoomFor c i e)
    (hexceeded : (∃ i, t.DescribesAt i c) → ∃ i e, t.IsFirstFor c i e ∧ reason = e.exceeded)
    (hnoMatch : (∀ i, ¬ t.DescribesAt i c) → ∃ rejections, reason = .noMatch rejections) :
    t.Classifies c reason where
  outOfOrder_iff := by
    constructor
    · rintro ⟨text, htext⟩
      exact absurd htext (hnot text)
    · rintro ⟨i, e, hroom⟩
      exact absurd hroom (hnoRoom i e)
  outOfTurn := fun i e hroom => absurd hroom (hnoRoom i e)
  namesDue := fun text htext => absurd htext (hnot text)
  exceeded := fun _ => hexceeded
  noMatch := hnoMatch

/-- The third scan classifies a call that the other two have nothing answer. -/
theorem classify_of_held (hfault : ∀ e ∈ t.expectations, e.pattern.FaultlessOn c)
    (h : t.HeldAt c blocker) (hout : ∀ d ∈ t.expectations, d.StaysOut c) :
    ∃ reason, t.classify c blocker = .ok reason ∧ t.Classifies c reason := by
  have hall : ∀ i e, (i, e) ∈ t.numbered ↔ t.expectations[i]? = some e :=
    fun _ _ => mem_numbered_iff
  rw [classify]
  -- A match with room is out of order, and one without room is exceeded. Rejections are collected
  -- only if there is no match at all.
  rcases findCoverage_cases hall fun e he => (hfault e he).accepts with
    ⟨i, e, hcov, hroom, -⟩ | ⟨i, e, hcov, hnoRoom, hfind⟩ | ⟨hcov, hnone⟩
  · rw [hcov]
    refine ⟨_, rfl, ?_⟩
    exact {
      outOfOrder_iff := ⟨fun _ => ⟨i, e, hroom⟩, fun _ => ⟨_, rfl⟩⟩
      outOfTurn := fun j d => isOutOfTurn_of_held h hout
      namesDue := by
        intro text htext
        cases htext
        exact namesDue_of_held h
      exceeded := fun hnoRoom _ => absurd hroom (hnoRoom i e)
      noMatch := fun hnone => absurd ⟨e, hroom.place, hroom.describes⟩ (hnone i) }
  · rw [hcov]
    have hfirst := isFirstFor_of_find? hfind
    refine ⟨_, rfl, classifies_of_noRoom ?_ hnoRoom ?_ ?_⟩
    · intro text htext
      cases htext
    · exact fun _ => ⟨i, e, hfirst, rfl⟩
    · exact fun hnone => absurd ⟨e, hfirst.place, hfirst.describes⟩ (hnone i)
  · have hnumbered : ∀ p ∈ t.numbered, p.2.pattern.FaultlessOn c :=
      fun p hp => hfault p.2 (List.mem_of_getElem? ((hall p.1 p.2).mp hp))
    obtain ⟨rejections, hrej⟩ := collectRejections_of_faultless hnumbered
    have hnoRoom : ∀ j d, ¬ t.HasRoomFor c j d :=
      fun j d hroom => hnone j ⟨d, hroom.place, hroom.describes⟩
    rw [hcov]
    refine ⟨.noMatch rejections, ?_, classifies_of_noRoom ?_ hnoRoom ?_ ?_⟩
    · show (collectRejections c t.numbered).bind _ = _
      rw [hrej]
      rfl
    · intro text htext
      cases htext
    · rintro ⟨j, hj⟩
      exact absurd hj (hnone j)
    · exact fun _ => ⟨rejections, rfl⟩

/-- A strict table classifies every call that none of its expectations answers. -/
theorem resolveStrict_unanswered (hfault : ∀ e ∈ t.expectations, e.pattern.FaultlessOn c)
    (hno : ∀ i n b a t', t.resolveStrict c ≠ .ok (.matched i n b a, t')) :
    ∃ reason, t.resolveStrict c = .ok (.unexpected reason, t) ∧ t.Classifies c reason := by
  have hok : ∀ e ∈ t.expectations, ∃ b, e.answers c = .ok b :=
    fun e he => Expectation.exists_answers_eq_ok (hfault e he).accepts
  obtain ⟨turn, hturn, hnotAnswers, hheld⟩ := exists_heldAt hok fun i e hnext => by
    have hat : ({ t with cursor := some i } : Table).expectations[i]? = some e := hnext.place
    have hres := resolveStrict_of_isNext hnext
    rw [answer_of_getElem? hat] at hres
    exact hno _ _ _ _ _ hres
  obtain ⟨spare, hspare⟩ := exists_findUnordered_eq_ok (k := 0) hok
  -- An unordered expectation that accepts the call would have answered it.
  cases spare with
  | some i =>
    obtain ⟨e, he⟩ := findUnordered_zero_iff.mp hspare
    have hres := resolveStrict_of_isSpare he hturn hnotAnswers
    rw [answer_of_getElem? he.place] at hres
    exact absurd hres (hno _ _ _ _ _)
  | none =>
    obtain ⟨reason, hreason, hclass⟩ :=
      classify_of_held hfault hheld (findUnordered_eq_none_iff.mp hspare)
    refine ⟨reason, ?_, hclass⟩
    rw [resolveStrict_of_not_answers hturn hnotAnswers, hspare]
    dsimp only
    rw [hreason]
    rfl

end Table

/-! ## Sessions -/

namespace Session

variable {s : Session} {depth : Nat} {c : Call} {t : Table}

/-- A call that no expectation of its strict type answers is flagged for a reason that says where
the table stands. -/
theorem dispatch_unanswered (ho : s.IsOpen) (ht : s.table? c.target.typeName = some t)
    (hs : t.options.strictness = .strict) (hc : c.check = .ok ())
    (hfault : ∀ e ∈ t.expectations, e.pattern.FaultlessOn (s.logCall c).1)
    (hno : ∀ i, s.answersAt c.target.typeName i c = false) :
    ∃ reason,
      (s.dispatch depth c).1 = .ok (.ok (.unexpected (.unexpected (s.logCall c).1 reason))) ∧
      t.Classifies (s.logCall c).1 reason := by
  have hstrict : t.resolve (s.logCall c).1 = t.resolveStrict (s.logCall c).1 := by
    rw [Table.resolve, hs]
  obtain ⟨reason, hres, hclass⟩ := Table.resolveStrict_unanswered hfault fun i n b a t' hmatched => by
    refine Bool.false_ne_true ((hno i).symm.trans ((answersAt_iff ht).mpr ⟨rfl, n, b, a, ?_⟩))
    rw [Table.step_of_ok (hstrict.trans hmatched)]
  refine ⟨reason, ?_, hclass⟩
  have hsettled : (s.enter c).1 =
      .settled (.ok (.unexpected (.unexpected (s.logCall c).1 reason))) := by
    rw [enter_of_wellFormed ho ht hc,
      resolve_of_ok (s := s.inPhase .replaying) (hstrict.trans hres)]
    rfl
  rw [dispatch_of_settled hsettled]

/-- A door that is closed before it was opened. -/
theorem dispatch_unanswered_closing :
    ∃ reason, (withDoor.dispatch 0 (.nullary "Door" "close")).1 =
        .ok (.ok (.unexpected (.unexpected (withDoor.logCall (.nullary "Door" "close")).1 reason))) ∧
      doorTable.Classifies (withDoor.logCall (.nullary "Door" "close")).1 reason := by
  refine dispatch_unanswered (by decide) table?_withDoor rfl rfl ?_ ?_
  · intro e he _ i m v hm
    obtain ⟨method, hpattern, -⟩ := mem_doorTable he
    rw [hpattern] at hm
    cases hm
  · intro i
    rw [← Bool.not_eq_true, answersAt_iff table?_withDoor]
    rintro ⟨-, n, b, a, h⟩
    cases h

end Session

end Understudy

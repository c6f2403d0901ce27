import Understudy.Table

/-!
# Whose turn it is

The two scans of a strict table, and what a strict table can do with a call. Both scans
walk over expectations until one answers; where they stop, and what they passed over on
the way, is a `StopsAt`, and each scan is pinned down by one equivalence
(`findTurn_eq_answers_iff`, `findUnordered_eq_some_iff`).

`resolveStrict_cases` is the one place where the resolution of a call is taken apart:
a call goes to the next expectation of the recorded sequence (`Table.IsNext`), or to a
spare unordered one (`Table.IsSpare`), or it is flagged and the table stays as it was.
`resolveStrict_of_isNext` and `resolveStrict_of_isSpare` lead back from there.
-/

namespace Understudy

variable {c : Invocation} {k : Nat} {e : Expectation} {es : List Expectation}

namespace Expectation

/-- An expectation answers what its pattern accepts, for as long as it has capacity. -/
theorem answers_eq_true_iff :
    e.answers c = .ok true ↔ e.hasCapacity = true ∧ e.pattern.accepts c = .ok true := by
  unfold answers
  by_cases h : e.hasCapacity = true
  · simp [h]
  · simp [h]

/-- An expectation whose pattern rejects a call does not answer it. -/
theorem answers_eq_false_of_rejected (h : e.pattern.accepts c = .ok false) :
    e.answers c = .ok false := by
  unfold answers
  rw [h]
  split <;> rfl

/-- The sequence stops at an expectation that answers. -/
def TakesTurn (c : Invocation) (e : Expectation) : Prop :=
  e.ordered = true ∧ e.answers c = .ok true

/-- The sequence goes on past an expectation that has its calls and does not answer. -/
def LetsPass (c : Invocation) (e : Expectation) : Prop :=
  e.ordered = true → e.answers c = .ok false ∧ e.satisfied = true

/-- The sequence cannot go on before an expectation has its calls. -/
def HoldsUp (c : Invocation) (e : Expectation) : Prop :=
  e.ordered = true ∧ e.answers c = .ok false ∧ e.satisfied = false

/-- An unordered expectation answers. -/
def StepsIn (c : Invocation) (e : Expectation) : Prop :=
  e.ordered = false ∧ e.answers c = .ok true

/-- No unordered expectation answers here. -/
def StaysOut (c : Invocation) (e : Expectation) : Prop :=
  e.ordered = false → e.answers c = .ok false

end Expectation

open Expectation

/-- The place of the expectation that the sequence waits for. -/
def Turn.blocker? : Turn → Option Nat
  | blocked i => some i
  | _ => none

/-! ## Where a scan stops -/

/-- A scan stops at place `n`: it passes over everything before, and `e` stands there. -/
structure StopsAt (passes stops : Expectation → Prop) (es : List Expectation) (n : Nat)
    (e : Expectation) : Prop where
  place : es[n]? = some e
  stops : stops e
  passed : ∀ j < n, ∀ d, es[j]? = some d → passes d

section StopsAt

variable {passes stops : Expectation → Prop} {d : Expectation} {n i : Nat}

/-- A scan that does not stop at the head passes over it. -/
theorem stopsAt_cons_succ_iff :
    StopsAt passes stops (d :: es) (n + 1) e ↔ passes d ∧ StopsAt passes stops es n e := by
  constructor
  · intro h
    refine ⟨h.passed 0 (Nat.succ_pos n) d rfl, h.place, h.stops, ?_⟩
    intro j hj x hx
    exact h.passed (j + 1) (Nat.succ_lt_succ hj) x hx
  · rintro ⟨hd, h⟩
    refine ⟨h.place, h.stops, ?_⟩
    intro j hj x hx
    cases j with
    | zero => cases hx; exact hd
    | succ j => exact h.passed j (Nat.lt_of_succ_lt_succ hj) x hx

/-- A scan that numbers its places from `k` on stops at the head, or later on. -/
theorem exists_stopsAt_cons_iff :
    (∃ n e, i = k + n ∧ StopsAt passes stops (d :: es) n e) ↔
      (i = k ∧ stops d) ∨ (passes d ∧ ∃ n e, i = k + 1 + n ∧ StopsAt passes stops es n e) := by
  constructor
  · rintro ⟨n, e, hi, h⟩
    cases n with
    | zero =>
      cases h.place
      exact Or.inl ⟨hi, h.stops⟩
    | succ n =>
      obtain ⟨hd, h'⟩ := stopsAt_cons_succ_iff.mp h
      exact Or.inr ⟨hd, n, e, by omega, h'⟩
  · rintro (⟨hi, h⟩ | ⟨hd, n, e, hi, h⟩)
    · exact ⟨0, d, hi, rfl, h, fun j hj => absurd hj (Nat.not_lt_zero j)⟩
    · exact ⟨n + 1, e, by omega, stopsAt_cons_succ_iff.mpr ⟨hd, h⟩⟩

end StopsAt

/-! ## The recorded sequence -/

theorem findTurn_unordered (ho : e.ordered = false) :
    findTurn c k (e :: es) = findTurn c (k + 1) es := by
  rw [findTurn, ho]
  rfl

theorem findTurn_answering (ho : e.ordered = true) (ha : e.answers c = .ok true) :
    findTurn c k (e :: es) = .ok (.answers k) := by
  rw [findTurn, ho, ha]
  rfl

theorem findTurn_satisfied (ho : e.ordered = true) (ha : e.answers c = .ok false)
    (hs : e.satisfied = true) : findTurn c k (e :: es) = findTurn c (k + 1) es := by
  rw [findTurn, ho, ha, hs]
  rfl

theorem findTurn_blocked (ho : e.ordered = true) (ha : e.answers c = .ok false)
    (hs : e.satisfied = false) : findTurn c k (e :: es) = .ok (.blocked k) := by
  rw [findTurn, ho, ha, hs]
  rfl

theorem findTurn_error (ho : e.ordered = true) {err : MatcherError}
    (ha : e.answers c = .error err) : findTurn c k (e :: es) = .error err := by
  rw [findTurn, ho, ha]
  rfl

/-- The sequence has come to the first expectation that answers, provided that everything ordered
before it lets the scan pass. -/
theorem findTurn_eq_answers_iff {i : Nat} : ∀ {es : List Expectation} {k : Nat},
    findTurn c k es = .ok (.answers i) ↔
      ∃ n e, i = k + n ∧ StopsAt (LetsPass c) (TakesTurn c) es n e
  | [], k => by
    constructor
    · intro h
      cases h
    · rintro ⟨n, e, -, h⟩
      cases h.place
  | d :: es, k => by
    -- One case for each way the scan treats its head.
    rw [exists_stopsAt_cons_iff]
    cases ho : d.ordered with
    | false =>
      rw [findTurn_unordered ho, findTurn_eq_answers_iff]
      simp [TakesTurn, LetsPass, ho]
    | true =>
      cases ha : d.answers c with
      | error err =>
        rw [findTurn_error ho ha]
        simp [TakesTurn, LetsPass, ho, ha]
      | ok b =>
        cases b with
        | true =>
          rw [findTurn_answering ho ha]
          simp only [TakesTurn, LetsPass, ho, ha]
          simpa using eq_comm
        | false =>
          cases hs : d.satisfied with
          | true =>
            rw [findTurn_satisfied ho ha hs, findTurn_eq_answers_iff]
            simp [TakesTurn, LetsPass, ho, ha, hs]
          | false =>
            rw [findTurn_blocked ho ha hs]
            simp [TakesTurn, LetsPass, ho, ha, hs]

/-- If no ordered expectation answers, the scan ends without an answer and without a fault. -/
theorem findTurn_of_not_answers : ∀ {es : List Expectation} {k : Nat},
    (∀ d ∈ es, d.ordered = true → d.answers c = .ok false) →
      ∃ turn, findTurn c k es = .ok turn ∧ ∀ i, turn ≠ .answers i
  | [], _, _ => ⟨.passed, rfl, fun _ h => by cases h⟩
  | e :: es, k, hnone => by
    have ih := findTurn_of_not_answers (k := k + 1) fun d hd => hnone d (List.mem_cons_of_mem _ hd)
    cases ho : e.ordered with
    | false => rw [findTurn_unordered ho]; exact ih
    | true =>
      have ha := hnone e (List.mem_cons_self ..) ho
      cases hs : e.satisfied with
      | true => rw [findTurn_satisfied ho ha hs]; exact ih
      | false =>
        rw [findTurn_blocked ho ha hs]
        exact ⟨.blocked k, rfl, fun _ h => by cases h⟩

/-- All that the scan can come to if no matcher fails: an expectation answers, one holds it up, or
all of them let it pass. -/
theorem findTurn_cases : ∀ {es : List Expectation} {k : Nat},
    (∀ d ∈ es, ∃ b, d.answers c = .ok b) →
      (∃ i, findTurn c k es = .ok (.answers i)) ∨
      (∃ n e, findTurn c k es = .ok (.blocked (k + n)) ∧
        StopsAt (LetsPass c) (HoldsUp c) es n e) ∨
      (findTurn c k es = .ok .passed ∧ ∀ d ∈ es, d.LetsPass c)
  | [], k, _ => by
    refine Or.inr (Or.inr ⟨rfl, ?_⟩)
    intro d hd
    cases hd
  | e :: es, k, hok => by
    -- A head that lets the scan pass shifts the place where it stops.
    have hpassing (hlets : e.LetsPass c) (hrest : findTurn c k (e :: es) = findTurn c (k + 1) es) :
        (∃ i, findTurn c k (e :: es) = .ok (.answers i)) ∨
        (∃ n d, findTurn c k (e :: es) = .ok (.blocked (k + n)) ∧
          StopsAt (LetsPass c) (HoldsUp c) (e :: es) n d) ∨
        (findTurn c k (e :: es) = .ok .passed ∧ ∀ d ∈ e :: es, d.LetsPass c) := by
      rw [hrest]
      rcases findTurn_cases (k := k + 1) fun d hd => hok d (List.mem_cons_of_mem _ hd) with
        hans | ⟨n, d, hblocked, hstops⟩ | ⟨hpassed, hall⟩
      · exact Or.inl hans
      · refine Or.inr (Or.inl ⟨n + 1, d, ?_, stopsAt_cons_succ_iff.mpr ⟨hlets, hstops⟩⟩)
        rw [hblocked, Nat.add_assoc, Nat.add_comm 1 n]
      · exact Or.inr (Or.inr ⟨hpassed, List.forall_mem_cons.mpr ⟨hlets, hall⟩⟩)
    cases ho : e.ordered with
    | false =>
      refine hpassing ?_ (findTurn_unordered ho)
      intro h
      rw [ho] at h
      cases h
    | true =>
      obtain ⟨b, ha⟩ := hok e (List.mem_cons_self ..)
      cases b with
      | true => exact Or.inl ⟨k, findTurn_answering ho ha⟩
      | false =>
        cases hs : e.satisfied with
        | true => exact hpassing (fun _ => ⟨ha, hs⟩) (findTurn_satisfied ho ha hs)
        | false =>
          refine Or.inr (Or.inl ⟨0, e, findTurn_blocked ho ha hs, rfl, ⟨ho, ha, hs⟩, ?_⟩)
          intro j hj
          exact absurd hj (Nat.not_lt_zero j)

/-! ## The unordered expectations -/

theorem findUnordered_ordered (ho : e.ordered = true) :
    findUnordered c k (e :: es) = findUnordered c (k + 1) es := by
  rw [findUnordered, ho]
  rfl

theorem findUnordered_answering (ho : e.ordered = false) (ha : e.answers c = .ok true) :
    findUnordered c k (e :: es) = .ok (some k) := by
  rw [findUnordered, ho, ha]
  rfl

theorem findUnordered_rejecting (ho : e.ordered = false) (ha : e.answers c = .ok false) :
    findUnordered c k (e :: es) = findUnordered c (k + 1) es := by
  rw [findUnordered, ho, ha]
  rfl

theorem findUnordered_error (ho : e.ordered = false) {err : MatcherError}
    (ha : e.answers c = .error err) : findUnordered c k (e :: es) = .error err := by
  rw [findUnordered, ho, ha]
  rfl

/-- The first unordered expectation that answers is found, provided that none before it fails. -/
theorem findUnordered_eq_some_iff {i : Nat} : ∀ {es : List Expectation} {k : Nat},
    findUnordered c k es = .ok (some i) ↔
      ∃ n e, i = k + n ∧ StopsAt (StaysOut c) (StepsIn c) es n e
  | [], k => by
    constructor
    · intro h
      cases h
    · rintro ⟨n, e, -, h⟩
      cases h.place
  | d :: es, k => by
    rw [exists_stopsAt_cons_iff]
    -- An ordered expectation is passed over unasked, so that its matchers cannot fail here.
    cases ho : d.ordered with
    | true =>
      rw [findUnordered_ordered ho, findUnordered_eq_some_iff]
      simp [StepsIn, StaysOut, ho]
    | false =>
      cases ha : d.answers c with
      | error err =>
        rw [findUnordered_error ho ha]
        simp [StepsIn, StaysOut, ho, ha]
      | ok b =>
        cases b with
        | true =>
          rw [findUnordered_answering ho ha]
          simp only [StepsIn, StaysOut, ho, ha]
          simpa using eq_comm
        | false =>
          rw [findUnordered_rejecting ho ha, findUnordered_eq_some_iff]
          simp [StepsIn, StaysOut, ho, ha]

/-- None is found exactly if no unordered expectation answers. -/
theorem findUnordered_eq_none_iff : ∀ {es : List Expectation} {k : Nat},
    findUnordered c k es = .ok none ↔ ∀ d ∈ es, d.StaysOut c
  | [], k => by
    constructor
    · intro _ d hd
      cases hd
    · intro _
      rfl
  | e :: es, k => by
    rw [List.forall_mem_cons]
    cases ho : e.ordered with
    | true =>
      rw [findUnordered_ordered ho, findUnordered_eq_none_iff]
      simp [StaysOut, ho]
    | false =>
      cases ha : e.answers c with
      | error err =>
        rw [findUnordered_error ho ha]
        simp [StaysOut, ho, ha]
      | ok b =>
        cases b with
        | true =>
          rw [findUnordered_answering ho ha]
          simp [StaysOut, ho, ha]
        | false =>
          rw [findUnordered_rejecting ho ha, findUnordered_eq_none_iff]
          simp [StaysOut, ho, ha]

/-! ## What a strict table does with a call -/

namespace Table

variable {t t' : Table} {i : Nat} {r : Resolution}

/-- The recorded sequence goes on at place `i`: from the cursor on, `e` is the first ordered
expectation that answers, and the ones before it have their calls. -/
structure IsNext (t : Table) (c : Invocation) (i : Nat) (e : Expectation) : Prop where
  place : t.expectations[i]? = some e
  ahead : t.position ≤ i
  takesTurn : e.TakesTurn c
  passed : ∀ j d, t.position ≤ j → j < i → t.expectations[j]? = some d → d.LetsPass c

/-- Outside the recorded sequence, `e` at place `i` is the first unordered expectation that
answers. -/
structure IsSpare (t : Table) (c : Invocation) (i : Nat) (e : Expectation) : Prop where
  place : t.expectations[i]? = some e
  stepsIn : e.StepsIn c
  passed : ∀ j < i, ∀ d, t.expectations[j]? = some d → d.StaysOut c

/-- An expectation that answers a call is counted once more, under the next number. -/
theorem answer_of_getElem? (h : t.expectations[i]? = some e) :
    t.answer i = (.matched i e.counter.count e.counter.bounds (e.actionAt e.counter.count),
      { t with
        expectations := t.expectations.set i (e.counted (t.answered + 1))
        answered := t.answered + 1 }) := by
  rw [answer, h]

/-- The scan from the cursor on, told by places of the table. -/
theorem findTurn_position_iff :
    findTurn c t.position (t.expectations.drop t.position) = .ok (.answers i) ↔
      ∃ e, t.IsNext c i e := by
  rw [findTurn_eq_answers_iff]
  constructor
  · rintro ⟨n, e, rfl, h⟩
    -- Place `n` behind the cursor is place `position + n` of the table.
    have hplace := h.place
    rw [List.getElem?_drop] at hplace
    refine ⟨e, hplace, Nat.le_add_right .., h.stops, ?_⟩
    intro j d hj hjn hd
    refine h.passed (j - t.position) (by omega) d ?_
    rw [List.getElem?_drop, Nat.add_sub_cancel' hj]
    exact hd
  · rintro ⟨e, h⟩
    refine ⟨i - t.position, e, by have := h.ahead; omega, ?_, h.takesTurn, ?_⟩
    · rw [List.getElem?_drop, Nat.add_sub_cancel' h.ahead]
      exact h.place
    · intro j hj d hd
      rw [List.getElem?_drop] at hd
      exact h.passed _ d (Nat.le_add_right ..) (by omega) hd

theorem findUnordered_zero_iff :
    findUnordered c 0 t.expectations = .ok (some i) ↔ ∃ e, t.IsSpare c i e := by
  rw [findUnordered_eq_some_iff]
  constructor
  · rintro ⟨n, e, hi, h⟩
    rw [Nat.zero_add] at hi
    subst hi
    exact ⟨e, h.place, h.stops, h.passed⟩
  · rintro ⟨e, h⟩
    exact ⟨i, e, (Nat.zero_add i).symm, h.place, h.stepsIn, h.passed⟩

/-- A call for which the sequence goes on is answered there, and the cursor follows. -/
theorem resolveStrict_of_isNext (h : t.IsNext c i e) :
    t.resolveStrict c = .ok (({ t with cursor := some i } : Table).answer i) := by
  have hturn := findTurn_position_iff.mpr ⟨e, h⟩
  rw [resolveStrict, hturn]
  rfl

/-- A matcher that fails while the sequence is followed makes the resolution fail. -/
theorem resolveStrict_of_error {err : MatcherError}
    (hturn : findTurn c t.position (t.expectations.drop t.position) = .error err) :
    t.resolveStrict c = .error (.failed err) := by
  rw [resolveStrict, hturn]
  rfl

/-- If the sequence does not go on, the unordered expectations are asked, and then the call is
flagged. -/
theorem resolveStrict_of_not_answers {turn : Turn}
    (hturn : findTurn c t.position (t.expectations.drop t.position) = .ok turn)
    (hno : ∀ i, turn ≠ .answers i) :
    t.resolveStrict c = match findUnordered c 0 t.expectations with
      | .ok (some i) => .ok (t.answer i)
      | .ok none => (t.classify c turn.blocker?).map fun reason => (.unexpected reason, t)
      | .error err => .error (.failed err) := by
  rw [resolveStrict, hturn]
  cases turn with
  | answers i => exact absurd rfl (hno i)
  | blocked | passed => rcases findUnordered c 0 t.expectations with err | _ | i <;> rfl

/-- A call for which the sequence does not go on is answered by a spare expectation, and the
cursor stays. -/
theorem resolveStrict_of_isSpare {turn : Turn} (h : t.IsSpare c i e)
    (hturn : findTurn c t.position (t.expectations.drop t.position) = .ok turn)
    (hno : ∀ i, turn ≠ .answers i) : t.resolveStrict c = .ok (t.answer i) := by
  rw [resolveStrict_of_not_answers hturn hno, findUnordered_zero_iff.mpr ⟨e, h⟩]

/-- All that a strict table can do with a call: the next expectation of the sequence answers and
takes the cursor along, a spare one answers, or the call is flagged for a reason that is found in
the table, and nothing changes. -/
theorem resolveStrict_cases (h : t.resolveStrict c = .ok (r, t')) :
    (∃ i e, t.IsNext c i e ∧ (r, t') = ({ t with cursor := some i } : Table).answer i) ∨
    (∃ i e, t.IsSpare c i e ∧ (r, t') = t.answer i) ∨
    (∃ reason, r = .unexpected reason ∧ t' = t ∧ ∃ blocker, t.classify c blocker = .ok reason) := by
  cases hturn : findTurn c t.position (t.expectations.drop t.position) with
  | error err =>
    rw [resolveStrict, hturn] at h
    cases h
  | ok turn =>
    by_cases hans : ∃ i, turn = .answers i
    · obtain ⟨i, rfl⟩ := hans
      obtain ⟨e, he⟩ := findTurn_position_iff.mp hturn
      rw [resolveStrict_of_isNext he] at h
      exact Or.inl ⟨i, e, he, (Except.ok.inj h).symm⟩
    · -- The sequence does not go on, so the unordered expectations decide.
      rw [resolveStrict_of_not_answers hturn (not_exists.mp hans)] at h
      cases hspare : findUnordered c 0 t.expectations with
      | error err =>
        rw [hspare] at h
        cases h
      | ok spare =>
        rw [hspare] at h
        cases spare with
        | some i =>
          obtain ⟨e, he⟩ := findUnordered_zero_iff.mp hspare
          exact Or.inr (Or.inl ⟨i, e, he, (Except.ok.inj h).symm⟩)
        | none =>
          dsimp only at h
          cases hreason : t.classify c turn.blocker? with
          | error err =>
            rw [hreason] at h
            cases h
          | ok reason =>
            rw [hreason] at h
            cases h
            exact Or.inr (Or.inr ⟨reason, rfl, rfl, _, hreason⟩)

end Table

end Understudy

import Understudy.Proofs.Replay.Reordering

/-!
# The two sides of a strict table

The expectations of a strict table are ordered or unordered, and these are its two sides. They
share one table, one numbering of answers, and every scan, but one side knows nothing of the
other: `Table.seenFrom` forgets what the other side has answered, and the keystone is that a
call which the other side rejects is resolved by what is left (`Table.step_seenFrom`). A call
that the side itself rejects changes nothing of it (`Table.seenFrom_step_of_rejects`).

So if every call is described on one side at most, a side answers its calls in a run as it
does without those of the other side (`Session.told_side`).
-/

namespace Understudy

/-! ## Expectations -/

namespace Expectation

variable {side : Bool} {e : Expectation} {c : Invocation}

/-- What is known of an expectation on a side: those of the other side may have answered any number
of calls, and the numbers of the answers are the table's business. -/
def seenFrom (side : Bool) (e : Expectation) : Expectation :=
  if e.ordered = side then { e with lastMatched := none } else e.rearmed

@[simp] theorem seenFrom_pattern (side : Bool) (e : Expectation) :
    (e.seenFrom side).pattern = e.pattern := by
  unfold seenFrom
  split <;> rfl

@[simp] theorem seenFrom_script (side : Bool) (e : Expectation) :
    (e.seenFrom side).script = e.script := by
  unfold seenFrom
  split <;> rfl

@[simp] theorem seenFrom_ordered (side : Bool) (e : Expectation) :
    (e.seenFrom side).ordered = e.ordered := by
  unfold seenFrom
  split <;> rfl

@[simp] theorem seenFrom_bounds (side : Bool) (e : Expectation) :
    (e.seenFrom side).counter.bounds = e.counter.bounds := by
  unfold seenFrom
  split <;> rfl

theorem seenFrom_counter (h : e.ordered = side) : (e.seenFrom side).counter = e.counter := by
  rw [seenFrom, if_pos h]

@[simp] theorem seenFrom_exceeded (side : Bool) (e : Expectation) :
    (e.seenFrom side).exceeded = e.exceeded := by
  rw [exceeded, exceeded, seenFrom_pattern, seenFrom_bounds]

@[simp] theorem seenFrom_actionAt (side : Bool) (e : Expectation) (n : Nat) :
    (e.seenFrom side).actionAt n = e.actionAt n := by
  rw [actionAt, actionAt, seenFrom_pattern, seenFrom_script]

@[simp] theorem seenFrom_seenFrom (side : Bool) (e : Expectation) :
    (e.seenFrom side).seenFrom side = e.seenFrom side := by
  by_cases h : e.ordered = side
  · rw [seenFrom, if_pos ((seenFrom_ordered side e).trans h), seenFrom, if_pos h]
  · rw [seenFrom, if_neg fun h' => h ((seenFrom_ordered side e).symm.trans h'), seenFrom, if_neg h]
    rfl

/-- What the other side rejects is answered as if nothing were known of it. -/
theorem seenFrom_answers (h : e.ordered = !side → e.pattern.accepts c = .ok false) :
    (e.seenFrom side).answers c = e.answers c := by
  by_cases ho : e.ordered = side
  · rw [answers, answers, hasCapacity, hasCapacity, seenFrom_counter ho, seenFrom_pattern]
  · have hrej := h (Bool.eq_not.mpr ho)
    rw [answers_eq_false_of_rejected hrej, answers_eq_false_of_rejected]
    rw [seenFrom_pattern]
    exact hrej

/-- An answer counts on the side of the expectation. -/
theorem seenFrom_counted (h : e.ordered = side) (m n : Nat) :
    ((e.seenFrom side).counted m).seenFrom side = (e.counted n).seenFrom side := by
  have hcounted : (e.counted n).ordered = side := h
  have hseen : ((e.seenFrom side).counted m).ordered = side := (seenFrom_ordered side e).trans h
  rw [seenFrom, if_pos hseen, seenFrom, if_pos h, seenFrom, if_pos hcounted]
  rfl

/-- It is not seen from the other side. -/
theorem seenFrom_counted_of_ne (h : e.ordered ≠ side) (n : Nat) :
    (e.counted n).seenFrom side = e.seenFrom side := by
  have hcounted : (e.counted n).ordered ≠ side := h
  rw [seenFrom, if_neg hcounted, seenFrom, if_neg h]
  rfl

end Expectation

/-! ## Scans of changed expectations -/

section Scans

variable {c : Invocation} {f : Expectation → Expectation}

theorem findTurn_map : ∀ {es : List Expectation} {k : Nat},
    (∀ e ∈ es, (f e).ordered = e.ordered) → (∀ e ∈ es, (f e).answers c = e.answers c) →
      (∀ e ∈ es, e.ordered = true → (f e).satisfied = e.satisfied) →
      findTurn c k (es.map f) = findTurn c k es
  | [], _, _, _, _ => rfl
  | e :: es, k, hord, hans, hsat => by
    obtain ⟨ho, hord⟩ := List.forall_mem_cons.mp hord
    obtain ⟨ha, hans⟩ := List.forall_mem_cons.mp hans
    obtain ⟨hs, hsat⟩ := List.forall_mem_cons.mp hsat
    rw [List.map_cons, findTurn, findTurn, ho, ha, findTurn_map hord hans hsat]
    cases hoe : e.ordered with
    | false => rfl
    | true => rw [hs hoe]

theorem findUnordered_map : ∀ {es : List Expectation} {k : Nat},
    (∀ e ∈ es, (f e).ordered = e.ordered) → (∀ e ∈ es, (f e).answers c = e.answers c) →
      findUnordered c k (es.map f) = findUnordered c k es
  | [], _, _, _ => rfl
  | e :: es, k, hord, hans => by
    obtain ⟨ho, hord⟩ := List.forall_mem_cons.mp hord
    obtain ⟨ha, hans⟩ := List.forall_mem_cons.mp hans
    rw [List.map_cons, findUnordered, findUnordered, ho, ha, findUnordered_map hord hans]

/-- What a scan for coverage found, the expectation changed. -/
def Coverage.map (f : Expectation → Expectation) : Coverage → Coverage
  | available i e => .available i (f e)
  | exhausted i e => .exhausted i (f e)
  | none => .none

theorem findCoverage_map : ∀ {es : List (Nat × Expectation)} {first : Option (Nat × Expectation)},
    (∀ p ∈ es, (f p.2).pattern = p.2.pattern) →
      (∀ p ∈ es, p.2.pattern.accepts c = .ok true → (f p.2).hasCapacity = p.2.hasCapacity) →
      findCoverage c (first.map (Prod.map id f)) (es.map (Prod.map id f)) =
        (findCoverage c first es).map (Coverage.map f)
  | [], first, _, _ => by cases first <;> rfl
  | (i, e) :: es, first, hpat, hcap => by
    -- Capacities must agree only where the call is accepted, as the scan asks for no others.
    obtain ⟨hp, hpat⟩ := List.forall_mem_cons.mp hpat
    obtain ⟨hc, hcap⟩ := List.forall_mem_cons.mp hcap
    rw [List.map_cons, Prod.map_apply]
    cases ha : e.pattern.accepts c with
    | error err =>
      rw [findCoverage_error ha, findCoverage_error ((congrArg (·.accepts c) hp).trans ha)]
      rfl
    | ok b =>
      have ha' : (f e).pattern.accepts c = .ok b := (congrArg (·.accepts c) hp).trans ha
      cases b with
      | false =>
        rw [findCoverage_rejecting ha, findCoverage_rejecting ha', findCoverage_map hpat hcap]
      | true =>
        cases hce : e.hasCapacity with
        | true =>
          rw [findCoverage_answering ha hce, findCoverage_answering ha' ((hc ha).trans hce)]
          rfl
        | false =>
          rw [findCoverage_spent ha hce, findCoverage_spent ha' ((hc ha).trans hce),
            ← findCoverage_map hpat hcap]
          cases first <;> rfl

theorem collectRejections_map : ∀ {es : List (Nat × Expectation)},
    (∀ p ∈ es, (f p.2).pattern = p.2.pattern) →
      collectRejections c (es.map (Prod.map id f)) = collectRejections c es
  | [], _ => rfl
  | (i, e) :: es, hpat => by
    obtain ⟨hp, hpat⟩ := List.forall_mem_cons.mp hpat
    have hp' : (f e).pattern = e.pattern := hp
    rw [List.map_cons, Prod.map_apply, collectRejections, collectRejections, hp',
      collectRejections_map hpat]
    rfl

end Scans

/-! ## Tables -/

namespace Table

variable {side : Bool} {t t' : Table} {c : Invocation} {i : Nat} {e : Expectation}

/-- What is known of a table on a side. -/
def seenFrom (side : Bool) (t : Table) : Table :=
  { t with
    expectations := t.expectations.map (Expectation.seenFrom side)
    cursor := if side then t.cursor else none
    answered := 0 }

/-- All expectations of a side reject a call. -/
def Rejects (t : Table) (side : Bool) (c : Invocation) : Prop :=
  ∀ e ∈ t.expectations, e.ordered = side → e.pattern.accepts c = .ok false

/-- What answers a call is not on the side that rejects it. -/
theorem Rejects.ordered_ne (h : t.Rejects side c) (he : t.expectations[i]? = some e)
    (ha : e.answers c = .ok true) : e.ordered ≠ side := by
  intro ho
  rw [Expectation.answers_eq_false_of_rejected (h e (List.mem_of_getElem? he) ho)] at ha
  cases ha

@[simp] theorem seenFrom_seenFrom (side : Bool) (t : Table) :
    (t.seenFrom side).seenFrom side = t.seenFrom side := by
  unfold seenFrom
  cases side <;> simp

theorem getElem?_seenFrom (side : Bool) (t : Table) (i : Nat) :
    (t.seenFrom side).expectations[i]? = (t.expectations[i]?).map (Expectation.seenFrom side) :=
  List.getElem?_map ..

theorem numbered_seenFrom (side : Bool) (t : Table) :
    (t.seenFrom side).numbered = t.numbered.map (Prod.map id (Expectation.seenFrom side)) := by
  unfold numbered seenFrom
  rw [List.zipIdx_map, List.map_map, List.map_map]
  rfl

/-- An answer on a side is seen from there. -/
theorem seenFrom_answer (he : t.expectations[i]? = some e) (ho : e.ordered = side) :
    ((t.seenFrom side).answer i).1 = (t.answer i).1 ∧
      ((t.seenFrom side).answer i).2.seenFrom side = (t.answer i).2.seenFrom side := by
  have he' : (t.seenFrom side).expectations[i]? = some (e.seenFrom side) := by
    rw [getElem?_seenFrom, he, Option.map_some]
  rw [answer_of_getElem? he, answer_of_getElem? he']
  constructor
  · dsimp only
    rw [Expectation.seenFrom_counter ho, Expectation.seenFrom_actionAt]
  · unfold seenFrom
    simp only [List.map_set, List.map_map, Expectation.seenFrom_counted ho _ (t.answered + 1)]
    cases side <;> simp [Function.comp_def]

/-- The scan for coverage finds the same, for what covers the call is on the side. -/
theorem findCoverage_seenFrom (hrej : t.Rejects (!side) c) :
    findCoverage c none (t.seenFrom side).numbered =
      (findCoverage c none t.numbered).map (Coverage.map (Expectation.seenFrom side)) := by
  rw [numbered_seenFrom]
  show findCoverage c (Option.map (Prod.map id (Expectation.seenFrom side)) none) _ = _
  refine findCoverage_map (fun p _ => Expectation.seenFrom_pattern side p.2) ?_
  rintro ⟨i, e⟩ hmem hacc
  by_cases ho : e.ordered = side
  · exact congrArg Counter.hasCapacity (Expectation.seenFrom_counter ho)
  · have hin := List.mem_of_getElem? (mem_numbered_iff.mp hmem)
    rw [hrej e hin (Bool.eq_not.mpr ho)] at hacc
    cases hacc

/-- A call that the other side rejects is flagged as if nothing were known of it. Which expectation
of the sequence is in the way matters only if the call is out of turn. -/
theorem classify_seenFrom (hrej : t.Rejects (!side) c) {b b' : Option Nat}
    (hb : b' = b ∨ ∀ e ∈ t.expectations, e.answers c = .ok false) :
    (t.seenFrom side).classify c b' = t.classify c b := by
  have hrejections : collectRejections c (t.seenFrom side).numbered =
      collectRejections c t.numbered := by
    rw [numbered_seenFrom]
    exact collectRejections_map fun p _ => Expectation.seenFrom_pattern side p.2
  rw [classify, classify, findCoverage_seenFrom hrej, hrejections]
  cases hfound : findCoverage c none t.numbered with
  | error err => rfl
  | ok coverage =>
    cases coverage with
    | available i e =>
      rcases hb with rfl | hnone
      · show Except.ok _ = Except.ok _
        congr 2
        cases b' with
        | none => rfl
        | some j =>
          rw [Option.bind_some, Option.bind_some, getElem?_seenFrom]
          cases t.expectations[j]? with
          | none => rfl
          | some d => exact congrArg Pattern.description (Expectation.seenFrom_pattern side d)
      · -- Nothing answers the call, so it is not out of turn.
        obtain ⟨hmem, hans⟩ := answers_of_available hfound
        rw [hnone e (List.mem_of_getElem? (mem_numbered_iff.mp hmem))] at hans
        cases hans
    | exhausted i e => exact congrArg Except.ok (Expectation.seenFrom_exceeded side e)
    | none => rfl

theorem answers_seenFrom (hrej : t.Rejects (!side) c) :
    ∀ e ∈ t.expectations, (e.seenFrom side).answers c = e.answers c :=
  fun e he => Expectation.seenFrom_answers (hrej e he)

/-- The scan of the sequence sees all there is to see on the ordered side. -/
theorem findTurn_seenFrom (hrej : t.Rejects false c) :
    findTurn c (t.seenFrom true).position
        ((t.seenFrom true).expectations.drop (t.seenFrom true).position) =
      findTurn c t.position (t.expectations.drop t.position) := by
  show findTurn c t.position ((t.expectations.map (Expectation.seenFrom true)).drop t.position) = _
  rw [← List.map_drop]
  refine findTurn_map (fun e _ => Expectation.seenFrom_ordered true e)
    (fun e he => answers_seenFrom hrej e (List.mem_of_mem_drop he)) fun e _ ho => ?_
  exact congrArg Counter.satisfied (Expectation.seenFrom_counter ho)

/-- If the sequence does not go on, a call that the other side rejects is answered or flagged as if
nothing were known of it. -/
theorem resolveStrict_seenFrom_aside (hrej : t.Rejects (!side) c) {turn turn' : Turn}
    (hturn : findTurn c t.position (t.expectations.drop t.position) = .ok turn)
    (hno : ∀ i, turn ≠ .answers i)
    (hturn' : findTurn c (t.seenFrom side).position
      ((t.seenFrom side).expectations.drop (t.seenFrom side).position) = .ok turn')
    (hno' : ∀ i, turn' ≠ .answers i)
    (hturns : turn' = turn ∨ ∀ e ∈ t.expectations, e.ordered = true → e.answers c = .ok false) :
    ((t.seenFrom side).resolveStrict c).map (Prod.map id (seenFrom side)) =
      (t.resolveStrict c).map (Prod.map id (seenFrom side)) := by
  have hspare : findUnordered c 0 (t.seenFrom side).expectations =
      findUnordered c 0 t.expectations :=
    findUnordered_map (fun e _ => Expectation.seenFrom_ordered side e) (answers_seenFrom hrej)
  rw [resolveStrict_of_not_answers hturn hno, resolveStrict_of_not_answers hturn' hno', hspare]
  cases hfound : findUnordered c 0 t.expectations with
  | error err => rfl
  | ok spare =>
    cases spare with
    | some i =>
      obtain ⟨e, he⟩ := findUnordered_zero_iff.mp hfound
      -- The other side rejects the call, so the expectation that steps in is on this one.
      have ho : e.ordered = side := Bool.not_eq_not.mp (hrej.ordered_ne he.place he.stepsIn.2)
      obtain ⟨hres, htab⟩ := seenFrom_answer he.place ho
      exact congrArg Except.ok (Prod.ext hres htab)
    | none =>
      have hstays := findUnordered_eq_none_iff.mp hfound
      have hreason : (t.seenFrom side).classify c turn'.blocker? = t.classify c turn.blocker? := by
        refine classify_seenFrom hrej (hturns.imp (congrArg Turn.blocker?) fun hnone e he => ?_)
        cases ho : e.ordered with
        | true => exact hnone e he ho
        | false => exact hstays e he ho
      simp only [hreason]
      cases t.classify c turn.blocker? with
      | error err => rfl
      | ok reason => exact congrArg Except.ok (Prod.ext rfl (seenFrom_seenFrom side t))

/-- A call that the other side rejects is resolved as if nothing were known of it, and as far as a
side sees the table is left alike. -/
theorem resolveStrict_seenFrom (hrej : t.Rejects (!side) c) :
    ((t.seenFrom side).resolveStrict c).map (Prod.map id (seenFrom side)) =
      (t.resolveStrict c).map (Prod.map id (seenFrom side)) := by
  cases side with
  | true =>
    -- The cursor is known on this side, and so is all that the sequence has answered.
    have hturn := findTurn_seenFrom hrej
    cases hfound : findTurn c t.position (t.expectations.drop t.position) with
    | error err =>
      rw [resolveStrict_of_error hfound, resolveStrict_of_error (hturn.trans hfound)]
    | ok turn =>
      by_cases hturns : ∃ i, turn = .answers i
      · obtain ⟨i, rfl⟩ := hturns
        obtain ⟨e, he⟩ := findTurn_position_iff.mp hfound
        obtain ⟨e', he'⟩ := findTurn_position_iff.mp (hturn.trans hfound)
        rw [resolveStrict_of_isNext he, resolveStrict_of_isNext he']
        have hat : ({ t with cursor := some i } : Table).expectations[i]? = some e := he.place
        obtain ⟨hres, htab⟩ := seenFrom_answer hat he.takesTurn.1
        exact congrArg Except.ok (Prod.ext hres htab)
      · exact resolveStrict_seenFrom_aside hrej hfound (not_exists.mp hturns)
          (hturn.trans hfound) (not_exists.mp hturns) (Or.inl rfl)
  | false =>
    -- Nothing of the sequence answers, wherever it has come to.
    have hnone : ∀ e ∈ t.expectations, e.ordered = true → e.answers c = .ok false :=
      fun e he ho => Expectation.answers_eq_false_of_rejected (hrej e he ho)
    have hnone' : ∀ e ∈ (t.seenFrom false).expectations, e.ordered = true →
        e.answers c = .ok false := by
      intro d hd ho
      obtain ⟨e, he, rfl⟩ := List.mem_map.mp hd
      rw [Expectation.seenFrom_ordered] at ho
      exact (answers_seenFrom hrej e he).trans (hnone e he ho)
    obtain ⟨turn, hturn, hno⟩ := findTurn_of_not_answers (k := t.position)
      fun e he => hnone e (List.mem_of_mem_drop he)
    obtain ⟨turn', hturn', hno'⟩ := findTurn_of_not_answers (k := (t.seenFrom false).position)
      fun e he => hnone' e (List.mem_of_mem_drop he)
    exact resolveStrict_seenFrom_aside hrej hturn hno hturn' hno' (Or.inr hnone)

/-- A strict table resolves a call that the other side rejects by what is known of it, and as far as
that goes it is left alike. -/
theorem step_seenFrom (hs : t.options.strictness = .strict) (hrej : t.Rejects (!side) c) :
    ((t.seenFrom side).step c).1 = (t.step c).1 ∧
      ((t.seenFrom side).step c).2.seenFrom side = (t.step c).2.seenFrom side := by
  have hsame := resolveStrict_seenFrom hrej
  have hres : t.resolve c = t.resolveStrict c := by rw [resolve, hs]
  have hres' : (t.seenFrom side).resolve c = (t.seenFrom side).resolveStrict c := by
    rw [resolve, seenFrom, hs]
  rw [← hres, ← hres'] at hsame
  -- The two tables fail together or answer together.
  cases hr : t.resolve c with
  | error err =>
    cases hr' : (t.seenFrom side).resolve c with
    | error err' =>
      rw [hr, hr'] at hsame
      cases hsame
      rw [step_of_error hr, step_of_error hr']
      exact ⟨rfl, seenFrom_seenFrom side t⟩
    | ok p' =>
      rw [hr, hr'] at hsame
      cases hsame
  | ok p =>
    cases hr' : (t.seenFrom side).resolve c with
    | error err' =>
      rw [hr, hr'] at hsame
      cases hsame
    | ok p' =>
      rw [hr, hr'] at hsame
      obtain ⟨hfst, hsnd⟩ := Prod.ext_iff.mp (Except.ok.inj hsame)
      rw [step_of_ok hr, step_of_ok hr']
      exact ⟨congrArg Except.ok hfst, hsnd⟩

/-- Nothing is seen of a call on the side that rejects it. -/
theorem seenFrom_step_of_rejects (hs : t.options.strictness = .strict) (hrej : t.Rejects side c) :
    (t.step c).2.seenFrom side = t.seenFrom side := by
  cases hr : t.resolve c with
  | error err => rw [step_of_error hr]
  | ok p =>
    obtain ⟨r, t'⟩ := p
    rw [step_of_ok hr]
    rcases resolve_strict_cases hs hr with ⟨i, d, n, b, a, rfl, hans⟩ | ⟨reason, -, hsame⟩
    · have ho : d.ordered ≠ side := hrej.ordered_ne hans.place hans.answers
      obtain ⟨hlt, hd⟩ := List.getElem?_eq_some_iff.mp hans.place
      have hexp : t'.expectations.map (Expectation.seenFrom side) =
          t.expectations.map (Expectation.seenFrom side) := by
        rw [hans.expectations, List.map_set, Expectation.seenFrom_counted_of_ne ho, ← hd,
          ← List.map_set, List.set_getElem_self]
      have hcur : (if side then t'.cursor else none) = if side then t.cursor else none := by
        cases side with
        | true => rw [hans.cursor, Bool.eq_false_iff.mpr ho]; rfl
        | false => rfl
      rw [seenFrom, seenFrom, hexp, hcur, hans.options]
    · rw [hsame]

/-- Two tables that are seen alike make the same of a call that the other side rejects, and are seen
alike afterwards. -/
theorem step_of_seenFrom_eq (hs : t.options.strictness = .strict)
    (hs' : t'.options.strictness = .strict) (hrej : t.Rejects (!side) c)
    (hrej' : t'.Rejects (!side) c) (h : t'.seenFrom side = t.seenFrom side) :
    (t'.step c).1 = (t.step c).1 ∧ (t'.step c).2.seenFrom side = (t.step c).2.seenFrom side := by
  obtain ⟨hres, hseen⟩ := step_seenFrom hs hrej
  obtain ⟨hres', hseen'⟩ := step_seenFrom hs' hrej'
  rw [h] at hres' hseen'
  exact ⟨hres'.symm.trans hres, hseen'.symm.trans hseen⟩

/-- Whether an expectation of a side describes a call. -/
def describesOn (t : Table) (side : Bool) (c : Call) : Bool :=
  t.expectations.any fun e => e.ordered = side && e.pattern.describes ⟨c, 0⟩

/-- A well-formed call on a type that is described on one side of its table at most. No matcher of
the table fails on it. -/
structure TakesSides (t : Table) (T : String) (c : Call) : Prop where
  type : c.target.typeName = T
  wellFormed : c.check = .ok ()
  accepts : ∀ e ∈ t.expectations, ∃ b, e.pattern.accepts ⟨c, 0⟩ = .ok b
  oneSide : t.describesOn true c = false ∨ t.describesOn false c = false

theorem TakesSides.rejects {T : String} {c : Call} (h : t.TakesSides T c)
    (hside : t.describesOn side c = false) : t.Rejects side ⟨c, 0⟩ := by
  intro e he ho
  have hnot := List.any_eq_false.mp hside e he
  rw [Pattern.accepts_eq_describes (h.accepts e he)]
  rw [decide_eq_true ho, Bool.true_and, Bool.not_eq_true] at hnot
  rw [hnot]

/-- What describes a call on one side leaves it to that side. -/
theorem TakesSides.eq_false {T : String} {c : Call} (h : t.TakesSides T c)
    (hside : t.describesOn (!side) c = true) : t.describesOn side c = false := by
  rcases h.oneSide with hno | hno
  · cases side with
    | true => exact hno
    | false => cases hno.symm.trans hside
  · cases side with
    | true => cases hno.symm.trans hside
    | false => exact hno

/-- Answers change no pattern. -/
theorem Counted.rejects {t₀ : Table} {n : Nat → Nat} (h : t₀.Counted n t)
    (hrej : t₀.Rejects side c) :
    t.Rejects side c := by
  intro d hd ho
  obtain ⟨i, hi⟩ := List.mem_iff_getElem?.mp hd
  obtain ⟨e, last, he, rfl⟩ := h.source hi
  exact hrej e (List.mem_of_getElem? he) ho

end Table

/-! ## Runs of calls -/

namespace Session

variable {s s' : Session} {T : String} {t : Table} {side : Bool} {depth : Nat} {c : Call}
variable {cs : List Call}

/-- The table of a type has come from `t` in two sessions, and is seen alike from a side. -/
structure SeenAlike (side : Bool) (T : String) (t : Table) (s s' : Session) : Prop where
  first : ∃ n, s.Counts T t n
  second : ∃ n, s'.Counts T t n
  seen : (s'.table? T).map (Table.seenFrom side) = (s.table? T).map (Table.seenFrom side)

/-- A dispatched call has the table of its type make a step. -/
theorem Counts.dispatch_step {n : Nat → Nat} (h : s.Counts T t n) (depth : Nat)
    (hfree : t.DelegateFree) (hc : t.TakesSides T c) : ∃ u, s.table? T = some u ∧ t.Counted n u ∧
      (s.dispatch depth c).2.table? T = some (u.step ⟨c, 0⟩).2 ∧
      (∃ m, (s.dispatch depth c).2.Counts T t m) ∧
      (Entered.ofResult t.options.policy ⟨c, 0⟩ (u.step ⟨c, 0⟩).1).told? =
        some ((s.dispatch depth c).1.map Reply.unnumbered) := by
  obtain ⟨ho, u, hu, hcounted⟩ := h
  obtain rfl := hc.type
  obtain ⟨ho', hu', hreply⟩ :=
    dispatch_of_step depth ho hu hc.wellFormed (hcounted.delegateFree hfree)
  rw [hcounted.options] at hreply
  obtain ⟨m, hm⟩ := hcounted.step ⟨c, 0⟩
  exact ⟨u, hu, hcounted, hu', ⟨m, ho', _, hu', hm⟩, hreply⟩

/-- A call that the other side rejects is answered alike. -/
theorem SeenAlike.dispatch (h : SeenAlike side T t s s') (hs : t.options.strictness = .strict)
    (hfree : t.DelegateFree) (hc : t.TakesSides T c) (hrej : t.Rejects (!side) ⟨c, 0⟩) :
    (s.dispatch depth c).1.map Reply.unnumbered = (s'.dispatch depth c).1.map Reply.unnumbered ∧
      SeenAlike side T t (s.dispatch depth c).2 (s'.dispatch depth c).2 := by
  obtain ⟨n, hn⟩ := h.first
  obtain ⟨n', hn'⟩ := h.second
  obtain ⟨u, hu, hcounted, hnext, hfirst, htold⟩ := hn.dispatch_step depth hfree hc
  obtain ⟨u', hu', hcounted', hnext', hsecond, htold'⟩ :=
    hn'.dispatch_step depth hfree hc
  have hseen := h.seen
  rw [hu, hu', Option.map_some, Option.map_some, Option.some.injEq] at hseen
  obtain ⟨hres, hstep⟩ := Table.step_of_seenFrom_eq
    (by rw [hcounted.options, hs]) (by rw [hcounted'.options, hs])
    (hcounted.rejects hrej) (hcounted'.rejects hrej) hseen
  rw [hres] at htold'
  refine ⟨Option.some.inj (htold.symm.trans htold'), hfirst, hsecond, ?_⟩
  rw [hnext, hnext', Option.map_some, Option.map_some, hstep]

/-- A call that the side rejects can be left out. -/
theorem SeenAlike.skip (h : SeenAlike side T t s s') (hs : t.options.strictness = .strict)
    (hfree : t.DelegateFree) (hc : t.TakesSides T c) (hrej : t.Rejects side ⟨c, 0⟩) :
    SeenAlike side T t (s.dispatch depth c).2 s' := by
  obtain ⟨n, hn⟩ := h.first
  obtain ⟨u, hu, hcounted, hnext, hfirst, -⟩ := hn.dispatch_step depth hfree hc
  refine ⟨hfirst, h.second, ?_⟩
  rw [h.seen, hu, hnext, Option.map_some, Option.map_some, Table.seenFrom_step_of_rejects
    (by rw [hcounted.options, hs]) (hcounted.rejects hrej)]

/-- The counters of the side stand alike. -/
theorem SeenAlike.counter? (h : SeenAlike side T t s s') {i : Nat} (hi : t.isOrderedAt i = side) :
    (s.expectation? T i).map (·.counter) = (s'.expectation? T i).map (·.counter) := by
  obtain ⟨n, -, u, hu, hcounted⟩ := h.first
  obtain ⟨n', -, u', hu', hcounted'⟩ := h.second
  have hseen := h.seen
  rw [hu, hu', Option.map_some, Option.map_some, Option.some.injEq] at hseen
  have hat : (u'.seenFrom side).expectations[i]? = (u.seenFrom side).expectations[i]? := by
    rw [hseen]
  rw [Table.getElem?_seenFrom, Table.getElem?_seenFrom] at hat
  rw [expectation?_of_table? hu, expectation?_of_table? hu']
  cases he : t.expectations[i]? with
  | none =>
    have hlen := List.getElem?_eq_none_iff.mp he
    rw [List.getElem?_eq_none (hcounted.length ▸ hlen),
      List.getElem?_eq_none (hcounted'.length ▸ hlen)]
  | some e =>
    obtain ⟨last, hlast⟩ := hcounted.place i e he
    obtain ⟨last', hlast'⟩ := hcounted'.place i e he
    have ho : e.ordered = side := (Table.isOrderedAt_of_getElem? he).symm.trans hi
    rw [hlast, hlast', Option.map_some, Option.map_some, Option.some.injEq] at hat
    rw [hlast, hlast', Option.map_some, Option.map_some]
    -- The counter of an expectation on the side is part of what is seen of it.
    have hcount := congrArg Expectation.counter hat
    have ho₁ : (e.counting (n i) last).ordered = side := ho
    have ho₂ : (e.counting (n' i) last').ordered = side := ho
    rw [Expectation.seenFrom_counter ho₁, Expectation.seenFrom_counter ho₂] at hcount
    rw [hcount]

/-- From the ordered side the cursor is seen. -/
theorem SeenAlike.cursor? (h : SeenAlike true T t s s') :
    (s.table? T).map (·.cursor) = (s'.table? T).map (·.cursor) := by
  have hseen := congrArg (Option.map Table.cursor) h.seen
  rw [Option.map_map, Option.map_map] at hseen
  exact hseen.symm

/-- If no call is described on both sides of a strict table, the calls that the other side describes
can be deleted from a run: all others are answered as before, the counters of the side end up
the same, and so does the cursor on the ordered side. -/
theorem told_side (side : Bool) (ho : s.IsOpen) (ht : s.table? T = some t)
    (hs : t.options.strictness = .strict) (hfree : t.DelegateFree)
    (hcs : ∀ c ∈ cs, t.TakesSides T c) :
    (s.told depth cs).filter (fun p => !t.describesOn (!side) p.1) =
        s.told depth (cs.filter fun c => !t.describesOn (!side) c) ∧
      (∀ i, t.isOrderedAt i = side →
        ((s.dispatchAll depth cs).expectation? T i).map (·.counter) =
          ((s.dispatchAll depth (cs.filter fun c => !t.describesOn (!side) c)).expectation? T i).map
            (·.counter)) ∧
      (side = true → ((s.dispatchAll depth cs).table? T).map (·.cursor) =
        ((s.dispatchAll depth (cs.filter fun c => !t.describesOn (!side) c)).table? T).map (·.cursor)) := by
  have hstart : SeenAlike side T t s s := ⟨exists_counts ho ht, exists_counts ho ht, rfl⟩
  have hrun := told_filter depth (R := SeenAlike side T t)
    (fun c => !t.describesOn (!side) c) ?_ ?_ hcs hstart
  · obtain ⟨htold, hend⟩ := hrun
    refine ⟨htold, fun i hi => hend.counter? hi, ?_⟩
    rintro rfl
    exact hend.cursor?
  · intro s s' c h hc hkeep
    exact h.dispatch hs hfree hc (hc.rejects (Bool.not_eq_true' _ ▸ hkeep))
  · intro s s' c h hc hdrop
    exact h.skip hs hfree hc (hc.rejects (hc.eq_false (Bool.not_eq_false' _ ▸ hdrop)))

/-- A door that is opened and then closed, with a bell that may ring at any time. -/
def bellDoor : Table :=
  { options := ⟨.strict, .total⟩
    expectations :=
      [⟨.nullary "Door" "open", [], ⟨.exactly 1, 0⟩, true, none⟩,
        ⟨.nullary "Door" "ring", [], ⟨.between 0 2, 0⟩, false, none⟩,
        ⟨.nullary "Door" "close", [], ⟨.exactly 1, 0⟩, true, none⟩] }

/-- The ringing makes no difference to the door. It is opened once too often, and the bell rings
once too often. -/
theorem told_side_bellDoor :
    (({ tables := [("Door", bellDoor)] } : Session).told 0
        [.nullary "Door" "ring", .nullary "Door" "open", .nullary "Door" "ring",
          .nullary "Door" "open", .nullary "Door" "ring", .nullary "Door" "close"]).filter
        (fun p => !bellDoor.describesOn false p.1) =
      ({ tables := [("Door", bellDoor)] } : Session).told 0
        [.nullary "Door" "open", .nullary "Door" "open", .nullary "Door" "close"] := by
  have hmem : ∀ e ∈ bellDoor.expectations, ∃ method, e.pattern = .nullary "Door" method ∧
      e.script = [] := by
    simp [bellDoor]
  have hfree : bellDoor.DelegateFree := by
    intro e he d hd
    obtain ⟨-, -, hscript⟩ := hmem e he
    rw [hscript] at hd
    cases hd
  have hsides (method : String)
      (hone : bellDoor.describesOn true (.nullary "Door" method) = false ∨
        bellDoor.describesOn false (.nullary "Door" method) = false) :
      bellDoor.TakesSides "Door" (.nullary "Door" method) := by
    refine ⟨rfl, rfl, fun e he => ?_, hone⟩
    obtain ⟨m, hpattern, -⟩ := hmem e he
    rw [hpattern]
    exact ⟨_, Pattern.accepts_nullary "Door" m _⟩
  refine (told_side (T := "Door") (t := bellDoor) true (by decide) rfl rfl hfree ?_).1
  simp only [List.forall_mem_cons, List.not_mem_nil, false_implies, implies_true, and_true]
  have hring := hsides "ring" (Or.inl rfl)
  have hopen := hsides "open" (Or.inr rfl)
  exact ⟨hring, hopen, hring, hopen, hring, hsides "close" (Or.inr rfl)⟩

end Session

end Understudy

import Understudy.Proofs.Nullary
import Understudy.Proofs.Recording.Assembly

/-!
# A record block and its rounds written out

A block of `n` iterations repeats its ordered drafts and multiplies the bounds of the others.
`assemble_of_takes` says what a valid block comes to: one expectation for each draft, and then
the ordered ones once more for each further round. What a table gets of that is read off with
`ofType`.

Writing the block out `n` times and recording it once gives a strict type the same sequence of
ordered expectations. The other drafts are recorded once with their bounds multiplied in the one
block, and once for each round in the other, so only blocks whose drafts are all ordered come to
the same in every respect (`record_iterations`).
-/

namespace Understudy

namespace Draft

variable {d : Draft} {o : Options} {n : Nat}

/-- What is recorded of an ordered draft does not depend on the number of iterations. -/
theorem recorded_of_ordered (h : d.isOrdered o = true) (m n : Nat) :
    d.recorded o m = d.recorded o n := by
  simp [recorded, h]

/-- The bounds of any other draft are multiplied by it. -/
theorem recorded_of_unordered (h : d.isOrdered o = false) (n : Nat) :
    d.recorded o n = { pattern := d.pattern, script := d.script,
                       counter := ⟨(d.meant o).repeated n, 0⟩, ordered := false } := by
  simp [recorded, h]

end Draft

/-- The recorded sequence of a table. -/
def Table.sequence (t : Table) : List Expectation := t.expectations.filter (·.ordered)

/-- The expectations of a table that are exempt from the sequence. -/
def Table.loose (t : Table) : List Expectation := t.expectations.filter fun e => !e.ordered

theorem Table.sequence_addAll {t : Table} (h : t.options.strictness = .strict)
    (es : List Expectation) : (t.addAll es).sequence = t.sequence ++ es.filter (·.ordered) := by
  simp [addAll, sequence, h]

theorem Table.loose_addAll {t : Table} (h : t.options.strictness = .strict)
    (es : List Expectation) : (t.addAll es).loose = t.loose ++ es.filter fun e => !e.ordered := by
  simp [addAll, loose, h]

/-- The expectations that the drafts for a type stand for in a block of `n` iterations. -/
def recordedFor (T : String) (o : Options) (n : Nat) (ds : List Draft) : List Expectation :=
  (ds.filter fun d => d.pattern.target.typeName = T).map (·.recorded o n)

/-- The new expectations of the drafts for a type that are not ordered, each with its bounds
multiplied by `n`. -/
def multipliedFor (T : String) (o : Options) (n : Nat) (ds : List Draft) : List Expectation :=
  (ds.filter fun d => d.pattern.target.typeName = T ∧ d.isOrdered o = false).map fun d =>
    { pattern := d.pattern, script := d.script, counter := ⟨(d.meant o).repeated n, 0⟩,
      ordered := false }

variable {T : String} {o : Options} {ds : List Draft} {m n : Nat}

theorem recordedFor_writtenOut (T : String) (o : Options) (m n : Nat) (ds : List Draft) :
    recordedFor T o m (writtenOut n ds) = writtenOut n (recordedFor T o m ds) := by
  induction n with
  | zero => simp [recordedFor]
  | succ n ih =>
    rw [writtenOut_succ, writtenOut_succ, ← ih]
    simp [recordedFor]

/-- The ordered expectations of a round are the same in blocks of any number of iterations. -/
theorem filter_ordered_recordedFor (T : String) (o : Options) (m n : Nat) (ds : List Draft) :
    (recordedFor T o m ds).filter (·.ordered) = (recordedFor T o n ds).filter (·.ordered) := by
  induction ds with
  | nil => rfl
  | cons d ds ih =>
    unfold recordedFor at ih ⊢
    by_cases hT : d.pattern.target.typeName = T
    · rw [List.filter_cons_of_pos (by simpa using hT), List.map_cons, List.map_cons]
      cases hd : d.isOrdered o with
      | true => rw [Draft.recorded_of_ordered hd m n, List.filter_cons, List.filter_cons, ih]
      | false =>
        rw [Draft.recorded_of_unordered hd, Draft.recorded_of_unordered hd]
        simpa using ih
    · rw [List.filter_cons_of_neg (by simpa using hT)]
      exact ih

/-- The other expectations of a round are recorded with their bounds multiplied. -/
theorem filter_loose_recordedFor (T : String) (o : Options) (n : Nat) (ds : List Draft) :
    (recordedFor T o n ds).filter (fun e => !e.ordered) = multipliedFor T o n ds := by
  induction ds with
  | nil => rfl
  | cons d ds ih =>
    unfold recordedFor multipliedFor at ih ⊢
    by_cases hT : d.pattern.target.typeName = T
    · cases hd : d.isOrdered o with
      | true => simpa [hT, hd, Draft.recorded] using ih
      | false => simpa [hT, hd, Draft.recorded_of_unordered hd] using ih
    · simpa [hT] using ih

theorem filter_ordered_multipliedFor (T : String) (o : Options) (n : Nat) (ds : List Draft) :
    (multipliedFor T o n ds).filter (·.ordered) = [] := by
  refine List.filter_eq_nil_iff.mpr fun e he => ?_
  obtain ⟨d, -, rfl⟩ := List.mem_map.mp he
  exact Bool.false_ne_true

/-- On a lenient type no draft is ordered. -/
theorem recordedFor_of_lenient (h : o.strictness = .lenient) (n : Nat) (ds : List Draft) :
    recordedFor T o n ds = multipliedFor T o n ds := by
  have hloose (d : Draft) : d.isOrdered o = false := by simp [Draft.isOrdered, h]
  simp [recordedFor, multipliedFor, hloose, Draft.recorded_of_unordered (hloose _)]

namespace Session

variable {s : Session} {t : Table}

/-! ## What a valid block comes to -/

/-- The options of the type of a draft. -/
def optionsFor (s : Session) (d : Draft) : Options :=
  ((s.table? d.pattern.target.typeName).map (·.options)).getD s.defaultOptions

/-- Whether a draft has a place in the recorded order of its type. -/
def orders (s : Session) (d : Draft) : Bool := d.isOrdered (s.optionsFor d)

/-- What a draft becomes in a block of `n` iterations, given that it can be recorded. -/
def drafted (s : Session) (n : Nat) (d : Draft) : String × Expectation :=
  (d.pattern.target.typeName, d.recorded (s.optionsFor d) n)

theorem optionsFor_of_table? {d : Draft} (ht : s.table? d.pattern.target.typeName = some t) :
    s.optionsFor d = t.options := by
  rw [optionsFor, ht]
  rfl

theorem becomes_drafted {d : Draft} (h : s.Takes d) (n : Nat) : s.Becomes n d (s.drafted n d) := by
  obtain ⟨t, ht, hsound⟩ := h
  exact ⟨t, ht, hsound, by rw [drafted, optionsFor_of_table? ht]⟩

/-- The drafts of a valid block all become expectations. -/
theorem forall₂_drafted (h : ∀ d ∈ ds, s.Takes d) (n : Nat) :
    List.Forall₂ (s.Becomes n) ds (ds.map (s.drafted n)) := by
  rw [List.forall₂_map_right_iff, List.forall₂_same]
  exact fun d hd => becomes_drafted (h d hd) n

/-- The next round of a block has the ordered ones of its expectations, which are new again. -/
theorem nextRound_drafted (s : Session) (n : Nat) (ds : List Draft) :
    nextRound (ds.map (s.drafted n)) = (ds.filter s.orders).map (s.drafted n) := by
  unfold nextRound
  rw [List.filter_map, List.map_map]
  rfl

/-- A valid block is assembled into one expectation for each draft, and the ordered ones again for
each further round. -/
theorem assemble_of_takes (hn : n ≠ 0) (h : ∀ d ∈ ds, s.Takes d) :
    s.assemble ⟨ds, n⟩ = .ok (ds.map (s.drafted n) ++
      writtenOut (n - 1) ((ds.filter s.orders).map (s.drafted n))) := by
  refine assemble_eq_ok_iff.mpr ⟨hn, _, forall₂_drafted h n, ?_⟩
  rw [nextRound_drafted]

/-- If all drafts of a block are ordered, it is assembled into all of its rounds. -/
theorem assemble_of_orders (hn : n ≠ 0) (h : ∀ d ∈ ds, s.Takes d)
    (hord : ∀ d ∈ ds, s.orders d = true) :
    s.assemble ⟨ds, n⟩ = s.assemble ⟨writtenOut n ds, 1⟩ := by
  have hsame : ds.map (s.drafted n) = ds.map (s.drafted 1) := by
    refine List.map_congr_left fun d hd => ?_
    rw [drafted, drafted, Draft.recorded_of_ordered (hord d hd) n 1]
  obtain ⟨k, rfl⟩ : ∃ k, n = k + 1 := ⟨n - 1, by omega⟩
  rw [assemble_of_takes hn h, assemble_of_takes Nat.one_ne_zero
    fun d hd => h d (mem_of_mem_writtenOut hd)]
  rw [List.filter_eq_self.mpr hord, hsame, map_writtenOut, Nat.add_sub_cancel, Nat.sub_self,
    writtenOut_zero, List.append_nil, writtenOut_succ]

/-! ## What the tables get of it -/

theorem ofType_append (T : String) (es es' : List (String × Expectation)) :
    ofType T (es ++ es') = ofType T es ++ ofType T es' := by
  simp [ofType]

theorem ofType_drafted (ht : s.table? T = some t) (n : Nat) (ds : List Draft) :
    ofType T (ds.map (s.drafted n)) = recordedFor T t.options n ds := by
  induction ds with
  | nil => rfl
  | cons d ds ih =>
    unfold ofType recordedFor at ih ⊢
    by_cases hT : d.pattern.target.typeName = T
    · have ho : s.optionsFor d = t.options := optionsFor_of_table? (hT ▸ ht)
      simpa [drafted, hT, ho] using ih
    · simpa [drafted, hT] using ih

/-- The ordered expectations of a block belong to a type if they are ordered there. -/
theorem ofType_ordered (ht : s.table? T = some t) (n : Nat) (ds : List Draft) :
    ofType T ((ds.filter s.orders).map (s.drafted n)) =
      (recordedFor T t.options n ds).filter (·.ordered) := by
  rw [ofType_drafted ht]
  induction ds with
  | nil => rfl
  | cons d ds ih =>
    unfold recordedFor at ih ⊢
    by_cases hT : d.pattern.target.typeName = T
    · have ho : s.orders d = d.isOrdered t.options := by
        rw [orders, optionsFor_of_table? (hT ▸ ht)]
      cases hd : d.isOrdered t.options with
      | true => simpa [ho, hd, hT, Draft.recorded] using ih
      | false => simpa [ho, hd, hT, Draft.recorded] using ih
    · cases hd : s.orders d with
      | true => simpa [hd, hT] using ih
      | false => simpa [hd, hT] using ih

/-- Closing a valid block gives each table the expectations of its drafts, and the ordered ones
again for each further round. -/
theorem closeRecord_of_takes (hn : n ≠ 0) (h : ∀ d ∈ ds, s.Takes d) :
    (s.closeRecord ⟨ds, n⟩).1 = .ok () ∧ ∀ T t, s.table? T = some t →
      (s.closeRecord ⟨ds, n⟩).2.table? T = some (t.addAll (recordedFor T t.options n ds ++
        writtenOut (n - 1) ((recordedFor T t.options n ds).filter (·.ordered)))) := by
  rcases closeRecord_cases s ⟨ds, n⟩ with ⟨es, ha, hc⟩ | ⟨e, ha, -⟩
  · have hes := Except.ok.inj (ha.symm.trans (assemble_of_takes hn h))
    rw [hc]
    refine ⟨rfl, fun T t ht => ?_⟩
    have htable : (s.addExpectations es).table? T = some (t.addAll (ofType T es)) := by
      rw [table?_addExpectations, ht]
      rfl
    have hof : ofType T es = recordedFor T t.options n ds ++
        writtenOut (n - 1) ((recordedFor T t.options n ds).filter (·.ordered)) := by
      rw [hes, ofType_append, ofType_drafted ht, ← ofType_ordered ht]
      exact congrArg _ (filterMap_writtenOut ..)
    rw [← hof]
    exact htable
  · cases ha.symm.trans (assemble_of_takes hn h)

/-- So does recording it. Opening the block changes the phase, which drafts do not see. -/
theorem record_of_takes (ho : s.IsOpen) (hn : n ≠ 0) (h : ∀ d ∈ ds, s.Takes d) :
    (s.record ⟨ds, n⟩).1 = .ok () ∧ ∀ T t, s.table? T = some t →
      (s.record ⟨ds, n⟩).2.table? T = some (t.addAll (recordedFor T t.options n ds ++
        writtenOut (n - 1) ((recordedFor T t.options n ds).filter (·.ordered)))) := by
  rcases record_cases s ⟨ds, n⟩ with ⟨-, hrecord⟩ | ⟨hclosed, -⟩
  · rw [hrecord]
    exact closeRecord_of_takes (s := s.inPhase .recording) hn h
  · exact absurd ho hclosed

/-- Only valid blocks are closed without an error. -/
theorem takes_of_closeRecord {r : Recording} (h : (s.closeRecord r).1 = .ok ()) :
    r.iterations ≠ 0 ∧ ∀ d ∈ r.drafts, s.Takes d := by
  rcases closeRecord_cases s r with ⟨es, ha, -⟩ | ⟨e, -, hc⟩
  · exact assemble_isOk_iff.mp ⟨es, ha⟩
  · rw [hc] at h
    cases h

/-! ## The two blocks side by side -/

/-- A block of `n` iterations leads to the sequence of the block written out `n` times. -/
theorem filter_ordered_rounds (hn : n ≠ 0) (T : String) (o : Options) (ds : List Draft) :
    (recordedFor T o n ds ++ writtenOut (n - 1) ((recordedFor T o n ds).filter (·.ordered))).filter
      (·.ordered) = writtenOut n ((recordedFor T o 1 ds).filter (·.ordered)) := by
  obtain ⟨k, rfl⟩ : ∃ k, n = k + 1 := ⟨n - 1, by omega⟩
  rw [List.filter_append, filter_writtenOut, List.filter_filter]
  simp only [Bool.and_self]
  rw [filter_ordered_recordedFor T o (k + 1) 1, Nat.add_sub_cancel, writtenOut_succ]

/-- Its further rounds bring nothing but ordered expectations. -/
theorem filter_loose_rounds (n : Nat) (T : String) (o : Options) (ds : List Draft) :
    (recordedFor T o n ds ++ writtenOut (n - 1) ((recordedFor T o n ds).filter (·.ordered))).filter
      (fun e => !e.ordered) = multipliedFor T o n ds := by
  rw [List.filter_append, filter_loose_recordedFor, filter_writtenOut, List.filter_filter]
  simp [writtenOut]

/-- Recording a block with iterations is recording it written out, as far as the recorded sequences
go; all other drafts are recorded once, with their bounds multiplied. If there are no others, the
two blocks come to the same. -/
theorem record_iterations (ho : s.IsOpen) (hn : n ≠ 0) (hvalid : ∀ d ∈ ds, s.Takes d) :
    (s.record ⟨ds, n⟩).1 = .ok () ∧ (s.record ⟨writtenOut n ds, 1⟩).1 = .ok () ∧
    (∀ T t, s.table? T = some t → ∃ iterated spelled,
      (s.record ⟨ds, n⟩).2.table? T = some iterated ∧
      (s.record ⟨writtenOut n ds, 1⟩).2.table? T = some spelled ∧
      (t.options.strictness = .strict →
        iterated.sequence = spelled.sequence ∧
        spelled.sequence =
          t.sequence ++ writtenOut n ((recordedFor T t.options 1 ds).filter (·.ordered)) ∧
        iterated.loose = t.loose ++ multipliedFor T t.options n ds) ∧
      (t.options.strictness = .lenient →
        iterated = t.addAll (multipliedFor T t.options n ds))) ∧
    ((∀ d ∈ ds, s.orders d = true) → s.record ⟨ds, n⟩ = s.record ⟨writtenOut n ds, 1⟩) := by
  have hspelled : ∀ d ∈ writtenOut n ds, s.Takes d :=
    fun d hd => hvalid d (mem_of_mem_writtenOut hd)
  obtain ⟨hok, htables⟩ := record_of_takes ho hn hvalid
  obtain ⟨hok', htables'⟩ := record_of_takes ho Nat.one_ne_zero hspelled
  refine ⟨hok, hok', fun T t ht => ⟨_, _, htables T t ht, htables' T t ht, ?_, ?_⟩, ?_⟩
  · -- Written out, all rounds are recorded at once. Iterated, the first one goes ahead.
    intro hstrict
    have hseq : (t.addAll (recordedFor T t.options 1 (writtenOut n ds) ++ writtenOut (1 - 1)
        ((recordedFor T t.options 1 (writtenOut n ds)).filter (·.ordered)))).sequence =
        t.sequence ++ writtenOut n ((recordedFor T t.options 1 ds).filter (·.ordered)) := by
      rw [Table.sequence_addAll hstrict, Nat.sub_self, writtenOut_zero, List.append_nil,
        recordedFor_writtenOut, filter_writtenOut]
    refine ⟨?_, hseq, ?_⟩
    · rw [hseq, Table.sequence_addAll hstrict, filter_ordered_rounds hn]
    · rw [Table.loose_addAll hstrict, filter_loose_rounds]
  · intro hlenient
    rw [recordedFor_of_lenient hlenient, filter_ordered_multipliedFor]
    simp [writtenOut]
  · -- Without loose entries nothing is multiplied, and the two blocks assemble to the same.
    intro hord
    have hsame := assemble_of_orders (s := s.inPhase .recording) hn hvalid hord
    rcases record_cases s ⟨ds, n⟩ with ⟨-, hrecord⟩ | ⟨hclosed, -⟩
    · rcases record_cases s ⟨writtenOut n ds, 1⟩ with ⟨-, hrecord'⟩ | ⟨hclosed, -⟩
      · rw [hrecord, hrecord', closeRecord, closeRecord, commit, commit, hsame]
      · exact absurd ho hclosed
    · exact absurd ho hclosed

/-- A knock, an answer at any time, and two rings. -/
def visit : List Draft :=
  [{ pattern := .nullary "Door" "knock" },
    ({ pattern := .nullary "Door" "answer", unordered := true } : Draft).times 2,
    ({ pattern := .nullary "Bell" "ring" } : Draft).times 2]

/-- A lenient bell and a strict door that is to be opened first. -/
def house : Session :=
  (({ tables := [("Bell", { options := ⟨.lenient, .total⟩ }),
      ("Door", { options := ⟨.strict, .total⟩ })] } : Session).record
    { drafts := [{ pattern := .nullary "Door" "open" }] }).2

theorem takes_visit : ∀ d ∈ visit, house.Takes d := by
  have hfits : Pattern.LiteralsFit [] [] := by
    intro i type m ht
    cases ht
  simp only [visit, List.forall_mem_cons]
  refine ⟨⟨_, rfl, rfl, hfits, by decide⟩, ⟨_, rfl, rfl, hfits, by decide⟩,
    ⟨_, rfl, rfl, hfits, by decide⟩, nofun⟩

/-- After the door was opened, three visits are three knocks in a row, and six answers. -/
theorem record_iterations_visit : house.IsOpen ∧ (∀ d ∈ visit, house.Takes d) ∧
    (house.record ⟨visit, 3⟩).1 = .ok () ∧
    ∃ iterated spelled, (house.record ⟨visit, 3⟩).2.table? "Door" = some iterated ∧
      (house.record ⟨writtenOut 3 visit, 1⟩).2.table? "Door" = some spelled ∧
      iterated.sequence = spelled.sequence ∧ iterated.sequence.length = 4 ∧
      iterated.loose.map (·.counter) = [⟨.exactly 6, 0⟩] := by
  obtain ⟨hok, -, htables, -⟩ := record_iterations (s := house) (n := 3) (by decide) (by decide)
    takes_visit
  obtain ⟨iterated, spelled, hi, hs, hstrict, -⟩ := htables "Door" _ rfl
  obtain ⟨hseq, hspelled, hloose⟩ := hstrict rfl
  refine ⟨by decide, takes_visit, hok, iterated, spelled, hi, hs, hseq, ?_, ?_⟩
  · rw [hseq, hspelled]
    rfl
  · rw [hloose]
    rfl

end Session

end Understudy

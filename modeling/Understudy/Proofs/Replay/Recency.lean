import Understudy.Proofs.Nullary
import Understudy.Proofs.Replay.Event
import Understudy.Proofs.Replay.Selection

/-!
# The most recent answer is asked first

A lenient table goes by the numbers of its answers. Whether that is the same as going by the
times of its answers is a matter of the whole history: recording takes numbers away, and
replaced expectations start without one. `Session.lastAnswer` reads the times off a list of
events, by looking at the resolutions only.

Numbers and times are noted by one and the same rule, once by the clock of the table and once by
that of the history (`mark?_after`). The invariant `Noted` says that the two clocks agree on the
order of any two places, and `Noted.after` keeps it through every event. So a lenient type
selects by recency, whatever happened before (`goesByRecency_of_events`).
-/

namespace Understudy

namespace Table

variable {t t' : Table}

/-! ## How many calls a table answered -/

theorem answered_addAll (t : Table) (es : List Expectation) :
    (t.addAll es).answered = t.answered := by
  induction es generalizing t with
  | nil => rw [addAll_nil]
  | cons e es ih =>
    rw [addAll_cons, ih]
    rfl

theorem answered_setBounds {i : Nat} {b : Bounds} (h : t.setBounds i b = .ok t') :
    t'.answered = t.answered := by
  unfold setBounds at h
  split at h
  · cases h
    rfl
  · split at h
    · cases h
    · cases h
      rfl

theorem answered_step_le (t : Table) (c : Invocation) : t.answered ≤ (t.step c).2.answered := by
  cases hr : t.resolve c with
  | error err =>
    have hsame : (t.step c).2 = t := congrArg Prod.snd (step_of_error hr)
    exact Nat.le_of_eq (congrArg Table.answered hsame.symm)
  | ok p =>
    obtain ⟨r, t'⟩ := p
    rw [step_of_ok hr]
    rcases resolve_cases hr with ⟨rfl, -⟩ | ⟨j, e, -, -, -, -, hnumber, -⟩
    · exact Nat.le_refl _
    · exact hnumber ▸ Nat.le_succ _

/-- A table that answers a call gives it the next number. -/
theorem step_of_matched {c : Invocation} {i n : Nat} {b : Bounds} {a : Action}
    (h : (t.step c).1 = .ok (.matched i n b a)) : ∃ e, t.expectations[i]? = some e ∧
      (t.step c).2.answered = t.answered + 1 ∧
      (t.step c).2.expectations = t.expectations.set i (e.counted (t.answered + 1)) := by
  cases hr : t.resolve c with
  | error err =>
    rw [step_of_error hr] at h
    cases h
  | ok p =>
    obtain ⟨r, t'⟩ := p
    rw [step_of_ok hr] at h ⊢
    rcases resolve_cases hr with ⟨-, hno⟩ | ⟨j, e, he, -, rfl, -, hnumber, hexp⟩
    · exact absurd (Except.ok.inj h) (hno i n b a)
    · cases h
      exact ⟨e, he, hnumber, hexp⟩

end Table

namespace Session

variable {s : Session} {T : String} {i j now : Nat} {last : Nat → Option Nat} {c : Call} {t : Table}

/-! ## Two clocks -/

/-- When the expectation at a place answered last, if an event happens at a time. A new expectation
has not answered yet. -/
def note (s : Session) (T : String) (i now : Nat) (last : Option Nat) : Event → Option Nat
  | .resolves c => if s.answersAt T i c then some now else last
  | .closesRecord r => if s.recordsAt r T i then none else last
  | _ => last

/-- The same after events in a row, the first of which happens at a time. -/
def lastAnswerFrom (T : String) (i : Nat) : Session → Nat → Option Nat → List Event → Option Nat
  | _, _, last, [] => last
  | s, now, last, v :: vs => lastAnswerFrom T i (s.after v) (now + 1) (s.note T i now last v) vs

/-- Which of the events was the last call that the expectation at a place answered, since it was
recorded. -/
def lastAnswer (s : Session) (T : String) (events : List Event) (i : Nat) : Option Nat :=
  lastAnswerFrom T i s 0 none events

/-- The number of the last answer given at a place of the table of a type. -/
def mark? (s : Session) (T : String) (i : Nat) : Option Nat :=
  (s.expectation? T i).bind (·.lastMatched)

/-- How many calls the table of a type answered. -/
def answeredBy (s : Session) (T : String) : Nat := ((s.table? T).map (·.answered)).getD 0

theorem mark?_of_table? (ht : s.table? T = some t) : s.mark? T = t.mark? := by
  funext i
  rw [mark?, expectation?_of_table? ht, Table.mark?]

theorem answeredBy_of_table? (ht : s.table? T = some t) : s.answeredBy T = t.answered := by
  rw [answeredBy, ht]
  rfl

/-- An event is noted as an answer at a place, makes it forget, or passes it by. -/
theorem note_cases (s : Session) (T : String) (i : Nat) (v : Event) :
    (∃ c, v = .resolves c ∧ s.answersAt T i c = true ∧
      ∀ now last, s.note T i now last v = some now) ∨
    (∀ now last, s.note T i now last v = none) ∨ (∀ now last, s.note T i now last v = last) := by
  cases v with
  | resolves c =>
    by_cases hans : s.answersAt T i c = true
    · exact Or.inl ⟨c, rfl, hans, fun now last => if_pos hans⟩
    · exact Or.inr (Or.inr fun now last => if_neg hans)
  | closesRecord r =>
    by_cases hrec : s.recordsAt r T i = true
    · exact Or.inr (Or.inl fun now last => if_pos hrec)
    · exact Or.inr (Or.inr fun now last => if_neg hrec)
  | _ => exact Or.inr (Or.inr fun now last => rfl)

/-! ## The clock of the table -/

/-- The table that answers a call takes a step. -/
theorem step_of_answersAt (hans : s.answersAt T i c = true) : ∃ t e, s.table? T = some t ∧
    (s.after (.resolves c)).table? T = some (t.step (s.logCall c).1).2 ∧
    t.expectations[i]? = some e ∧ (t.step (s.logCall c).1).2.answered = t.answered + 1 ∧
    (t.step (s.logCall c).1).2.expectations =
      t.expectations.set i (e.counted (t.answered + 1)) := by
  obtain rfl : c.target.typeName = T := of_decide_eq_true (Bool.and_eq_true_iff.mp hans).1
  cases ht : s.table? c.target.typeName with
  | none =>
    rw [answersAt_of_not_declared ht] at hans
    cases hans
  | some t =>
    obtain ⟨-, n, b, a, hmatched⟩ := (answersAt_iff ht).mp hans
    obtain ⟨e, he, hnumber, hexp⟩ := Table.step_of_matched hmatched
    refine ⟨t, e, rfl, ?_, he, hnumber, hexp⟩
    show (((s.resolveCall c).map (·.2)).getD s).table? c.target.typeName = _
    rw [resolveCall, ht]
    exact (table?_resolve ht).trans (if_pos rfl)

/-- The clock of a table never goes back. -/
theorem answeredBy_after (s : Session) (v : Event) (T : String) :
    s.answeredBy T ≤ (s.after v).answeredBy T := by
  have hfate := tableFate_after s v T
  unfold answeredBy
  generalize (s.after v).table? T = out at hfate ⊢
  cases hfate with
  | declared ht =>
    rw [ht]
    exact Nat.zero_le _
  | @recorded r es t ha ht =>
    rw [ht]
    exact Nat.le_of_eq (Table.answered_addAll t (ofType T es)).symm
  | @resolved c t hc ht =>
    rw [ht]
    exact t.answered_step_le (s.logCall c).1
  | rebound ht hset =>
    rw [ht]
    exact Nat.le_of_eq (Table.answered_setBounds hset).symm
  | kept hrec hans => exact Nat.le_refl _

/-- It goes on with every answer. -/
theorem answeredBy_of_answersAt (hans : s.answersAt T i c = true) :
    (s.after (.resolves c)).answeredBy T = s.answeredBy T + 1 := by
  obtain ⟨t, e, ht, htable, -, hnumber, -⟩ := step_of_answersAt hans
  rw [answeredBy_of_table? htable, answeredBy_of_table? ht, hnumber]

/-- What neither answers nor records at a place is not noted there. -/
theorem note_of_kept {v : Event} (hrec : ∀ r, v = .closesRecord r → s.recordsAt r T i = false)
    (hans : ∀ c, v = .resolves c → s.answersAt T i c = false) (now : Nat) (last : Option Nat) :
    s.note T i now last v = last := by
  unfold note
  split
  · next c => rw [if_neg (Bool.eq_false_iff.mp (hans c rfl))]
  · next r => rw [if_neg (Bool.eq_false_iff.mp (hrec r rfl))]
  · rfl

/-- The numbers are noted like times, by the clock of the table. -/
theorem mark?_after (s : Session) (v : Event) (T : String) (i : Nat) :
    (s.after v).mark? T i = s.note T i (s.answeredBy T + 1) (s.mark? T i) v := by
  by_cases hanswers : ∃ c, v = .resolves c ∧ s.answersAt T i c = true
  · obtain ⟨c, rfl, hans⟩ := hanswers
    obtain ⟨t, e, ht, htable, he, -, hexp⟩ := step_of_answersAt hans
    have hlt : i < t.expectations.length := (List.getElem?_eq_some_iff.mp he).1
    rw [mark?, expectation?_of_table? htable, hexp, List.getElem?_set_self hlt, note, if_pos hans,
      answeredBy_of_table? ht]
    rfl
  · -- Without an answer the mark changes only where an expectation takes the place anew.
    have hfate := fate_after s v T i
    unfold mark?
    generalize (s.after v).expectation? T i = out at hfate ⊢
    cases hfate with
    | recorded hrec hnew =>
      obtain ⟨d, -, t, -, -, heq⟩ := hnew
      cases heq
      rw [note, if_pos hrec]
      rfl
    | served hans hq hserves => exact absurd ⟨_, rfl, hans⟩ hanswers
    | rebound he hb =>
      rw [he]
      rfl
    | kept hrec hans => rw [note_of_kept hrec hans]

/-! ## The clocks agree -/

/-- At a time, the numbers of the answers are in the order of their times. -/
structure Noted (s : Session) (T : String) (now : Nat) (last : Nat → Option Nat) : Prop where
  past : ∀ i a, last i = some a → a < now
  bounded : ∀ i m, s.mark? T i = some m → m ≤ s.answeredBy T
  agrees : ∀ i, s.mark? T i = none ↔ last i = none
  ordered : ∀ i j m n a b, i ≠ j → s.mark? T i = some m → s.mark? T j = some n →
    last i = some a → last j = some b → (m < n ∧ a < b) ∨ (n < m ∧ b < a)

/-- In a new session nothing has answered. -/
theorem noted_new (config : Config) : ({ config } : Session).Noted T 0 fun _ => none where
  past := nofun
  bounded := nofun
  agrees := fun _ => Iff.rfl
  ordered := nofun

/-- Every event keeps the clocks in agreement. -/
theorem Noted.after (h : s.Noted T now last) (v : Event) :
    (s.after v).Noted T (now + 1) fun i => s.note T i now (last i) v where
  past := by
    intro i a ha
    rcases note_cases s T i v with ⟨c, -, -, hnote⟩ | hnote | hnote
    · rw [hnote] at ha
      cases ha
      exact Nat.lt_succ_self _
    · rw [hnote] at ha
      cases ha
    · rw [hnote] at ha
      exact Nat.lt_succ_of_lt (h.past i a ha)
  bounded := by
    intro i m hm
    rw [mark?_after] at hm
    rcases note_cases s T i v with ⟨c, rfl, hans, hnote⟩ | hnote | hnote
    · rw [hnote] at hm
      cases hm
      exact Nat.le_of_eq (answeredBy_of_answersAt hans).symm
    · rw [hnote] at hm
      cases hm
    · rw [hnote] at hm
      exact Nat.le_trans (h.bounded i m hm) (answeredBy_after s v T)
  agrees := by
    intro i
    rw [mark?_after]
    rcases note_cases s T i v with ⟨c, -, -, hnote⟩ | hnote | hnote
    · rw [hnote, hnote]
      exact ⟨nofun, nofun⟩
    · rw [hnote, hnote]
    · rw [hnote, hnote]
      exact h.agrees i
  ordered := by
    intro i j m n a b hne hm hn ha hb
    rw [mark?_after] at hm hn
    rcases note_cases s T i v with ⟨c, rfl, hans, hi⟩ | hi | hi
    · rcases note_cases s T j (.resolves c) with ⟨c', hc, hans', -⟩ | hj | hj
      · cases hc
        exact absurd (answersAt_unique hans hans') hne
      · rw [hj] at hn
        cases hn
      · -- The answer at `i` is the latest by both clocks.
        rw [hi] at hm ha
        rw [hj] at hn hb
        cases hm
        cases ha
        exact Or.inr ⟨Nat.lt_succ_of_le (h.bounded j n hn), h.past j b hb⟩
    · rw [hi] at hm
      cases hm
    · rw [hi] at hm ha
      rcases note_cases s T j v with ⟨c, rfl, -, hj⟩ | hj | hj
      · rw [hj] at hn hb
        cases hn
        cases hb
        exact Or.inl ⟨Nat.lt_succ_of_le (h.bounded i m hm), h.past i a ha⟩
      · rw [hj] at hn
        cases hn
      · rw [hj] at hn hb
        exact h.ordered i j m n a b hne hm hn ha hb

/-- A whole run keeps them in agreement. -/
theorem Noted.afterAll (h : s.Noted T now last) (events : List Event) :
    ∃ later, (s.afterAll events).Noted T later fun i =>
      lastAnswerFrom T i s now (last i) events := by
  induction events generalizing s now last with
  | nil => exact ⟨now, h⟩
  | cons v vs ih => exact ih (h.after v)

theorem Noted.exists_time (h : s.Noted T now last) {m : Nat} (hm : s.mark? T i = some m) :
    ∃ a, last i = some a := by
  refine Option.ne_none_iff_exists'.mp fun hnone => ?_
  rw [(h.agrees i).mpr hnone] at hm
  cases hm

/-- Two answers of a table have different numbers. -/
theorem Noted.isDistinct (h : s.Noted T now last) (ht : s.table? T = some t) : t.IsDistinct := by
  intro i j m hi hj
  rw [← mark?_of_table? ht] at hi hj
  by_contra hne
  obtain ⟨a, ha⟩ := h.exists_time hi
  obtain ⟨b, hb⟩ := h.exists_time hj
  have := h.ordered i j m m a b hne hi hj ha hb
  omega

/-- One place precedes another by its number only if it does so by its time. -/
theorem Noted.precedes (h : s.Noted T now last) (hne : i ≠ j) (hp : Precedes (s.mark? T) i j) :
    Precedes last i j := by
  unfold Precedes at hp ⊢
  cases hm : s.mark? T i with
  | none =>
    rw [(h.agrees i).mp hm]
    cases hn : s.mark? T j with
    | none =>
      rw [(h.agrees j).mp hn]
      rw [hm, hn] at hp
      exact hp
    | some n =>
      rw [hm, hn] at hp
      cases hp
  | some m =>
    obtain ⟨a, ha⟩ := h.exists_time hm
    -- Marks and times put two answered expectations in the same order.
    rw [ha]
    cases hn : s.mark? T j with
    | none =>
      rw [(h.agrees j).mp hn]
      trivial
    | some n =>
      obtain ⟨b, hb⟩ := h.exists_time hn
      rw [hm, hn] at hp
      rw [hb]
      have := h.ordered i j m n a b hne hm hn ha hb
      dsimp only at hp ⊢
      omega

/-! ## What becomes of a call -/

/-- A lenient type goes by recency, `last` telling when each of its places answered last. `t` is its
table. -/
structure GoesByRecency (s : Session) (t : Table) (last : Nat → Option Nat) (c : Call) : Prop where
  /-- The expectation with room for the call that answered last, or else the earliest, answers. -/
  answered : (∃ i e, t.HasRoomFor (s.logCall c).1 i e) →
    ∃ i e, t.HasRoomFor (s.logCall c).1 i e ∧
      (∀ j d, t.HasRoomFor (s.logCall c).1 j d → j ≠ i → Precedes last i j) ∧
      s.Serves c i e (s.enter c)
  /-- If there is none, the call is flagged for the same one among those that describe it. -/
  flagged : (∀ i e, ¬ t.HasRoomFor (s.logCall c).1 i e) → (∃ i, t.DescribesAt i (s.logCall c).1) →
    ∃ i e, t.expectations[i]? = some e ∧ t.DescribesAt i (s.logCall c).1 ∧
      (∀ j, t.DescribesAt j (s.logCall c).1 → j ≠ i → Precedes last i j) ∧
      ∀ depth, (s.dispatch depth c).1 =
        .ok (.ok (.unexpected (.unexpected (s.logCall c).1 e.exceeded)))
  /-- If there is none either, the policy decides, and the table stays as it was. -/
  passed : (∀ i, ¬ t.DescribesAt i (s.logCall c).1) → ∀ depth,
    (s.dispatch depth c).1 = .ok (.ok (match t.options.policy with
      | .total => .returned c.signature.returns.defaultValue
      | .partially => .callReal)) ∧
    (s.dispatch depth c).2.pending = s.pending ∧
    (s.dispatch depth c).2.table? c.target.typeName = some t

/-- An expectation that answers a call when it is resolved serves it when it enters. -/
theorem serves_of_answersAt (ho : s.IsOpen) (hc : c.check = .ok ())
    (ht : s.table? c.target.typeName = some t) {e : Expectation} (he : t.expectations[i]? = some e)
    (hans : s.answersAt c.target.typeName i c = true) : s.Serves c i e (s.enter c) := by
  have hq : (s.inPhase .replaying).resolveCall c = some (s.enter c) := by
    unfold resolveCall
    rw [enter_of_wellFormed ho ht hc]
    exact congrArg (Option.map _) ht
  rcases resolveCall_cases hq with ⟨j, d, hserves⟩ | hspurns
  · obtain rfl : i = j := ((hserves.answersAt _ _).mp hans).2
    obtain rfl : e = d :=
      Option.some.inj (((expectation?_of_table? ht).trans he).symm.trans hserves.place)
    exact ⟨hserves.place, hserves.answers, hserves.entered, hserves.pending, hserves.counted,
      hserves.others, hserves.answersAt⟩
  · cases hans.symm.trans (hspurns.answersAt _ i)

/-- What a lenient table selects is what becomes of the call. -/
theorem goesByRecency_of_selects (ho : s.IsOpen) (hc : c.check = .ok ())
    (ht : s.table? c.target.typeName = some t) {q : Resolution × Table}
    (hres : t.resolve (s.logCall c).1 = .ok q) (hq : t.Selects (s.logCall c).1 last q) :
    s.GoesByRecency t last c := by
  have henter := enter_of_wellFormed ho ht hc
  rw [resolve_of_ok (s := s.inPhase .replaying) hres] at henter
  -- Whichever way the table went, the conditions of the other two ways fail.
  cases hq with
  | @answered i e hroom hforemost =>
    have hans : s.answersAt c.target.typeName i c = true := by
      rw [Table.answer_of_getElem? hroom.place] at hres
      refine (answersAt_iff ht).mpr ⟨rfl, e.counter.count, e.counter.bounds,
        e.actionAt e.counter.count, ?_⟩
      rw [Table.step_of_ok hres]
    exact {
      answered := fun _ => ⟨i, e, hroom, hforemost, serves_of_answersAt ho hc ht hroom.place hans⟩
      flagged := fun hnoRoom => absurd hroom (hnoRoom i e)
      passed := fun hnone => absurd ⟨e, hroom.place, hroom.describes⟩ (hnone i) }
  | @flagged i e hnoRoom hplace hdescribes hforemost =>
    exact {
      answered := fun ⟨j, d, hroom⟩ => absurd hroom (hnoRoom j d)
      flagged := by
        intro _ _
        refine ⟨i, e, hplace, ⟨e, hplace, hdescribes⟩, hforemost, fun depth => ?_⟩
        rw [dispatch_of_settled (congrArg Prod.fst henter)]
        rfl
      passed := fun hnone => absurd ⟨e, hplace, hdescribes⟩ (hnone i) }
  | passed hnone =>
    exact {
      answered := fun ⟨j, d, hroom⟩ => absurd ⟨d, hroom.place, hroom.describes⟩ (hnone j)
      flagged := fun _ ⟨j, hj⟩ => absurd hj (hnone j)
      passed := by
        intro _ depth
        have hsettled : s.enter c = (.settled (.ok (match t.options.policy with
            | .total => .returned c.signature.returns.defaultValue
            | .partially => .callReal)),
            ((s.inPhase .replaying).logCall c).2.setTable c.target.typeName t) := by
          rw [henter]
          cases t.options.policy <;> rfl
        rw [dispatch_of_settled (congrArg Prod.fst hsettled), hsettled]
        refine ⟨rfl, rfl, ?_⟩
        rw [table?_setTable, if_pos rfl]
        show (s.table? c.target.typeName).map _ = some t
        rw [ht]
        rfl }

/-- Whatever happened to a new session, in whatever order, its lenient types go by recency. -/
theorem goesByRecency_of_events (config : Config) (events : List Event)
    (hs : ({ config } : Session).afterAll events = s) (ho : s.IsOpen)
    (ht : s.table? c.target.typeName = some t) (hl : t.options.strictness = .lenient)
    (hc : c.check = .ok ())
    (hok : ∀ e ∈ t.expectations, ∃ b, e.pattern.accepts (s.logCall c).1 = .ok b) :
    s.GoesByRecency t (({ config } : Session).lastAnswer c.target.typeName events) c := by
  obtain ⟨now, hnoted⟩ := (noted_new config (T := c.target.typeName)).afterAll events
  rw [hs] at hnoted
  obtain ⟨q, hres, hq⟩ := Table.selects (hnoted.isDistinct ht) hok
  refine goesByRecency_of_selects ho hc ht (by rw [Table.resolve, hl]; exact hres) (hq.imp ?_)
  intro i j hne hp
  rw [← mark?_of_table? ht] at hp
  exact hnoted.precedes hne hp

/-- A door expects knocks at its first instance and at any. There is one at no instance. -/
def oneKnock : List Event :=
  [.declares "Door" ⟨.lenient, .total⟩,
    .closesRecord
      { drafts := [{ pattern := { Pattern.nullary "Door" "knock" with target := ⟨"Door", some 1⟩ } },
          { pattern := .nullary "Door" "knock" }] },
    .resolves (.nullary "Door" "knock")]

/-- The door before the knock. -/
def recordedDoor : Table :=
  { options := ⟨.lenient, .total⟩
    expectations :=
      [⟨{ Pattern.nullary "Door" "knock" with target := ⟨"Door", some 1⟩ }, [], ⟨⟨0, none⟩, 0⟩, false,
          none⟩,
        ⟨.nullary "Door" "knock", [], ⟨⟨0, none⟩, 0⟩, false, none⟩] }

/-- The door after the knock, which its second expectation answered. -/
def knockedDoor : Table :=
  { options := ⟨.lenient, .total⟩
    expectations :=
      [⟨{ Pattern.nullary "Door" "knock" with target := ⟨"Door", some 1⟩ }, [], ⟨⟨0, none⟩, 0⟩, false,
          none⟩,
        ⟨.nullary "Door" "knock", [], ⟨⟨0, none⟩, 1⟩, false, some 1⟩]
    answered := 1 }

/-- A knock at the first instance, which both expectations describe. -/
def instanceKnock : Call := { Call.nullary "Door" "knock" with target := ⟨"Door", some 1⟩ }

theorem table?_oneKnock :
    (({} : Session).afterAll oneKnock).table? "Door" = some knockedDoor := by
  -- Nothing was answered yet when the knock came, so the places were asked in their order.
  have hcandidates : recordedDoor.candidates = recordedDoor.numbered :=
    List.mergeSort_of_pairwise (by decide)
  have hresolve : recordedDoor.resolve ⟨.nullary "Door" "knock", 0⟩ =
      .ok (.matched 1 0 ⟨0, none⟩ (.returns .unit), knockedDoor) := by
    show recordedDoor.resolveLenient _ = _
    unfold Table.resolveLenient
    rw [hcandidates]
    rfl
  have hstep := congrArg Prod.snd (Table.step_of_ok hresolve)
  show (((({} : Session).afterAll (oneKnock.take 2)).after
    (.resolves (.nullary "Door" "knock"))).table? "Door") = _
  rw [table?_after_resolves]
  exact congrArg some hstep

theorem isOpen_oneKnock : (({} : Session).afterAll oneKnock).IsOpen := by
  have hphase : (({} : Session).afterAll oneKnock).phase = .replaying :=
    phase_after_resolves (({} : Session).afterAll (oneKnock.take 2)) (.nullary "Door" "knock")
  rw [IsOpen, hphase]
  decide

/-- The second place has answered, and the first one has not. -/
theorem not_precedes_oneKnock : ¬ Precedes (({} : Session).lastAnswer "Door" oneKnock) 0 1 := by
  obtain ⟨now, hnoted⟩ := (noted_new {} (T := "Door")).afterAll oneKnock
  have hmark := mark?_of_table? table?_oneKnock
  have hfirst : ({} : Session).lastAnswer "Door" oneKnock 0 = none :=
    (hnoted.agrees 0).mp (congrFun hmark 0)
  obtain ⟨a, ha⟩ := hnoted.exists_time (congrFun hmark 1)
  have hsecond : ({} : Session).lastAnswer "Door" oneKnock 1 = some a := ha
  unfold Precedes
  rw [hfirst, hsecond]
  exact not_false

/-- The second expectation answers again, as the first one has not answered yet. -/
theorem goesByRecency_of_events_oneKnock : ∃ e,
    (({} : Session).afterAll oneKnock).Serves instanceKnock 1 e
    ((({} : Session).afterAll oneKnock).enter instanceKnock) := by
  have hrecency := goesByRecency_of_events {} oneKnock rfl isOpen_oneKnock (c := instanceKnock)
    table?_oneKnock rfl rfl ?_
  · have hroom : knockedDoor.HasRoomFor
        ((({} : Session).afterAll oneKnock).logCall instanceKnock).1 1
        ⟨.nullary "Door" "knock", [], ⟨⟨0, none⟩, 1⟩, false, some 1⟩ := ⟨rfl, rfl, rfl⟩
    obtain ⟨i, e, hi, hforemost, hserves⟩ := hrecency.answered ⟨1, _, hroom⟩
    rcases i with _ | _ | i
    · exact absurd (hforemost 1 _ hroom Nat.one_ne_zero) not_precedes_oneKnock
    · exact ⟨e, hserves⟩
    · cases hi.place
  · intro e he
    rcases List.mem_cons.mp he with rfl | he
    · exact ⟨true, rfl⟩
    · obtain rfl := List.mem_singleton.mp he
      exact ⟨true, rfl⟩

end Session

end Understudy

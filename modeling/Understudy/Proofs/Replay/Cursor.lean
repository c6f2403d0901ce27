import Understudy.Proofs.Recording.Uniqueness
import Understudy.Proofs.Replay.Told

/-!
# What the cursor of a strict type tells

The cursor of a strict table is written in one place: when the recorded sequence goes on, it moves
to the expectation that answers. It still tells about all ordered expectations, those before it and
those after it, in every later state (`Table.CursorTells`). The step lemma is `CursorTells.next`:
the ordered expectations that the scan passes over have their calls, and those after the place that
it comes to have answered none. Unordered answers and recorded blocks leave the ordered expectations
that are there as they are (`CursorTells.of_orderedAt`, `CursorTells.addAll`).

So every state that events lead to has a cursor that tells, as long as no delegate changes bounds,
and the final check reports ordered expectations from the cursor on only (`cursor_of_events`).
-/

namespace Understudy

namespace Table

variable {t t' : Table} {c : Invocation} {i k : Nat} {e : Expectation} {es : List Expectation}

/-- An ordered expectation stands at a place. -/
structure OrderedAt (t : Table) (i : Nat) (e : Expectation) : Prop where
  place : t.expectations[i]? = some e
  ordered : e.ordered = true

theorem orderedAt_congr (h : t'.expectations[i]? = t.expectations[i]?) :
    t'.OrderedAt i e ↔ t.OrderedAt i e :=
  ⟨fun he => ⟨h.symm.trans he.place, he.ordered⟩, fun he => ⟨h.trans he.place, he.ordered⟩⟩

/-- What the cursor of a strict table tells about the ordered expectations. -/
structure CursorTells (t : Table) : Prop where
  /-- It stands at one that has answered. -/
  stands : ∀ k, t.cursor = some k → ∃ e, t.OrderedAt k e ∧ 0 < e.counter.count
  /-- Those before it have reached their minima. -/
  passed : ∀ k, t.cursor = some k → ∀ i < k, ∀ e, t.OrderedAt i e → e.satisfied = true
  /-- Those after it have answered nothing. -/
  ahead : ∀ k, t.cursor = some k → ∀ i e, k < i → t.OrderedAt i e → e.counter.count = 0
  /-- As long as there is no cursor, none has answered anything. -/
  idle : t.cursor = none → ∀ i e, t.OrderedAt i e → e.counter.count = 0

/-- A table is at least as far in its sequence as another. -/
def IsAhead (t' t : Table) : Prop := ∀ k, t.cursor = some k → ∃ k', t'.cursor = some k' ∧ k ≤ k'

theorem IsAhead.of_cursor_eq (h : t'.cursor = t.cursor) : t'.IsAhead t :=
  fun k hk => ⟨k, h.trans hk, Nat.le_refl k⟩

theorem IsAhead.trans {t'' : Table} (h : t''.IsAhead t') (h' : t'.IsAhead t) : t''.IsAhead t := by
  intro k hk
  obtain ⟨k', hk', hle⟩ := h' k hk
  obtain ⟨k'', hk'', hle'⟩ := h k' hk'
  exact ⟨k'', hk'', Nat.le_trans hle hle'⟩

/-! ## Where nothing is ordered yet -/

theorem cursorTells_of_empty (hexp : t.expectations = []) (hcursor : t.cursor = none) :
    t.CursorTells := by
  have hnone (i : Nat) (e : Expectation) (h : t.OrderedAt i e) : False := by
    have hplace := h.place
    rw [hexp] at hplace
    cases hplace
  exact {
    stands := fun k hk => by cases hcursor.symm.trans hk
    passed := fun k hk => by cases hcursor.symm.trans hk
    ahead := fun k hk => by cases hcursor.symm.trans hk
    idle := fun _ i e h => absurd h (hnone i e) }

/-! ## Calls -/

/-- What the ordered expectations of a table tell goes for tables with the same ones. -/
theorem CursorTells.of_orderedAt (h : t.CursorTells) (hcursor : t'.cursor = t.cursor)
    (hsame : ∀ i e, t'.OrderedAt i e ↔ t.OrderedAt i e) : t'.CursorTells where
  stands := by
    intro k hk
    obtain ⟨e, he, hcount⟩ := h.stands k (hcursor.symm.trans hk)
    exact ⟨e, (hsame k e).mpr he, hcount⟩
  passed k hk i hi e he := h.passed k (hcursor.symm.trans hk) i hi e ((hsame i e).mp he)
  ahead k hk i e hi he := h.ahead k (hcursor.symm.trans hk) i e hi ((hsame i e).mp he)
  idle hnone i e he := h.idle (hcursor.symm.trans hnone) i e ((hsame i e).mp he)

/-- An ordered expectation before the next one of the sequence has its calls, whether the scan
started before it or after it. -/
theorem CursorTells.satisfied_of_isNext (h : t.CursorTells) (he : t.IsNext c i e) {j : Nat}
    {d : Expectation} (hj : j < i) (hd : t.OrderedAt j d) : d.satisfied = true := by
  rcases Nat.lt_or_ge j t.position with hbefore | hfrom
  · cases hk : t.cursor with
    | none =>
      rw [position, hk] at hbefore
      cases hbefore
    | some k =>
      rw [position, hk] at hbefore
      exact h.passed k hk j hbefore d hd
  · exact (he.passed j d hfrom hj hd.place hd.ordered).2

/-- One after it has answered nothing. -/
theorem CursorTells.count_of_isNext (h : t.CursorTells) (he : t.IsNext c i e) {j : Nat}
    {d : Expectation} (hj : i < j) (hd : t.OrderedAt j d) : d.counter.count = 0 := by
  cases hk : t.cursor with
  | none => exact h.idle hk j d hd
  | some k =>
    have hki : k ≤ i := by
      have hahead := he.ahead
      rw [position, hk] at hahead
      exact hahead
    exact h.ahead k hk j d (Nat.lt_of_le_of_lt hki hj) hd

/-- The sequence goes on. -/
theorem CursorTells.next (h : t.CursorTells) (he : t.IsNext c i e) :
    (({ t with cursor := some i } : Table).answer i).2.CursorTells := by
  have hat : ({ t with cursor := some i } : Table).expectations[i]? = some e := he.place
  have hlt : i < t.expectations.length := (List.getElem?_eq_some_iff.mp he.place).1
  rw [answer_of_getElem? hat]
  -- Everywhere else the table is as it was.
  have hothers {j : Nat} {d : Expectation} (hj : i ≠ j)
      (hd : OrderedAt { t with
        expectations := t.expectations.set i (e.counted (t.answered + 1))
        cursor := some i
        answered := t.answered + 1 } j d) : t.OrderedAt j d :=
    (orderedAt_congr (List.getElem?_set_ne hj)).mp hd
  exact {
    stands := by
      rintro k ⟨⟩
      exact ⟨e.counted (t.answered + 1), ⟨List.getElem?_set_self hlt, he.takesTurn.1⟩,
        Nat.succ_pos _⟩
    passed := by
      rintro k ⟨⟩ j hj d hd
      exact h.satisfied_of_isNext he hj (hothers (Nat.ne_of_gt hj) hd)
    ahead := by
      rintro k ⟨⟩ j d hj hd
      exact h.count_of_isNext he hj (hothers (Nat.ne_of_lt hj) hd)
    idle := by
      intro hnone
      cases hnone }

/-- A spare expectation answers, which is not ordered. -/
theorem CursorTells.spare (h : t.CursorTells) (he : t.IsSpare c i e) :
    (t.answer i).2.CursorTells := by
  have hlt : i < t.expectations.length := (List.getElem?_eq_some_iff.mp he.place).1
  have hunordered : e.ordered ≠ true := by
    rw [he.stepsIn.1]
    decide
  rw [answer_of_getElem? he.place]
  refine h.of_orderedAt rfl fun j d => ?_
  by_cases hj : i = j
  · subst hj
    constructor
    · intro hd
      cases Option.some.inj (hd.place.symm.trans (List.getElem?_set_self hlt))
      exact absurd hd.ordered hunordered
    · intro hd
      cases hd.place.symm.trans he.place
      exact absurd hd.ordered hunordered
  · exact orderedAt_congr (List.getElem?_set_ne hj)

/-- Whatever a strict table makes of a call, its cursor tells. -/
theorem CursorTells.step (h : t.CursorTells) (hs : t.options.strictness = .strict)
    (c : Invocation) : (t.step c).2.CursorTells := by
  cases hr : t.resolve c with
  | error err =>
    rw [step_of_error hr]
    exact h
  | ok p =>
    obtain ⟨r, t'⟩ := p
    rw [step_of_ok hr]
    rw [resolve, hs] at hr
    rcases resolveStrict_cases hr with ⟨i, e, he, heq⟩ | ⟨i, e, he, heq⟩ | ⟨-, -, rfl, -⟩
    · rw [show t' = _ from congrArg Prod.snd heq]
      exact h.next he
    · rw [show t' = _ from congrArg Prod.snd heq]
      exact h.spare he
    · exact h

/-- The cursor never goes back. -/
theorem isAhead_step (hs : t.options.strictness = .strict) (c : Invocation) :
    (t.step c).2.IsAhead t := by
  cases hr : t.resolve c with
  | error err =>
    rw [step_of_error hr]
    exact .of_cursor_eq rfl
  | ok p =>
    obtain ⟨r, t'⟩ := p
    rw [step_of_ok hr]
    rcases resolve_strict_cases hs hr with ⟨i, d, -, -, -, -, hans⟩ | ⟨-, -, rfl⟩
    · cases ho : d.ordered with
      | false => exact .of_cursor_eq (by rw [hans.cursor, ho]; rfl)
      | true =>
        intro k hk
        have hahead := hans.ahead ho
        rw [position, hk] at hahead
        exact ⟨i, by rw [hans.cursor, ho]; rfl, hahead⟩
    · exact .of_cursor_eq rfl

/-! ## Recorded blocks and other bounds -/

theorem addAll_of_strict (hs : t.options.strictness = .strict) (es : List Expectation) :
    t.addAll es = { t with expectations := t.expectations ++ es } := by
  rw [Table.addAll, hs]

/-- Expectations that are appended have answered nothing yet. -/
theorem CursorTells.addAll (h : t.CursorTells) (hs : t.options.strictness = .strict)
    (hes : ∀ e ∈ es, e.counter.count = 0) : (t.addAll es).CursorTells := by
  rw [addAll_of_strict hs]
  have hcases {i : Nat} {e : Expectation}
      (he : OrderedAt { t with expectations := t.expectations ++ es } i e) :
      t.OrderedAt i e ∨ (t.expectations.length ≤ i ∧ e.counter.count = 0) := by
    rcases Nat.lt_or_ge i t.expectations.length with hlt | hge
    · exact Or.inl ((orderedAt_congr (List.getElem?_append_left hlt)).mp he)
    · have hplace := he.place
      rw [List.getElem?_append_right hge] at hplace
      exact Or.inr ⟨hge, hes e (List.mem_of_getElem? hplace)⟩
  exact {
    stands := by
      intro k hk
      obtain ⟨e, he, hcount⟩ := h.stands k hk
      have hlt := (List.getElem?_eq_some_iff.mp he.place).1
      exact ⟨e, (orderedAt_congr (List.getElem?_append_left hlt)).mpr he, hcount⟩
    passed := by
      intro k hk i hi e he
      rcases hcases he with hold | ⟨hnew, -⟩
      · exact h.passed k hk i hi e hold
      · -- The cursor stands in front of all that is appended.
        obtain ⟨d, hd, -⟩ := h.stands k hk
        have hlt := (List.getElem?_eq_some_iff.mp hd.place).1
        omega
    ahead := by
      intro k hk i e hi he
      rcases hcases he with hold | ⟨-, hcount⟩
      · exact h.ahead k hk i e hi hold
      · exact hcount
    idle := by
      intro hnone i e he
      rcases hcases he with hold | ⟨-, hcount⟩
      · exact h.idle hnone i e hold
      · exact hcount }

theorem cursor_setBounds {b : Bounds} (h : t.setBounds i b = .ok t') : t'.cursor = t.cursor := by
  unfold setBounds at h
  split at h
  · cases h
    rfl
  · split at h
    · cases h
    · cases h
      rfl

/-! ## The final check -/

/-- What there is to report of a table if no ordered expectation before a place is missing. -/
def deficitsFrom (t : Table) (k : Nat) : List Mismatch :=
  ((t.expectations.take k).filter (!·.ordered)).filterMap Expectation.deficit? ++
    (t.expectations.drop k).filterMap Expectation.deficit?

theorem CursorTells.deficit?_eq_none (h : t.CursorTells) (hk : t.cursor = some k) (hi : i < k)
    (he : t.OrderedAt i e) : e.deficit? = none :=
  if_pos (h.passed k hk i hi e he)

/-- Of ordered expectations, none before the cursor is reported. -/
theorem CursorTells.deficits_eq (h : t.CursorTells) (hk : t.cursor = some k) :
    t.deficits = t.deficitsFrom k := by
  have htake : (t.expectations.take k).filterMap Expectation.deficit? =
      ((t.expectations.take k).filter (!·.ordered)).filterMap Expectation.deficit? := by
    rw [List.filterMap_filter]
    refine List.filterMap_congr fun e he => ?_
    split
    · rfl
    · next ho =>
      obtain ⟨i, hi⟩ := List.mem_iff_getElem?.mp he
      rw [List.getElem?_take] at hi
      split at hi
      · next hlt => exact h.deficit?_eq_none hk hlt ⟨hi, by simpa using ho⟩
      · cases hi
  rw [deficits, deficitsFrom, ← htake, ← List.filterMap_append, List.take_append_drop]

end Table

namespace Session

variable {s : Session} {T : String} {t : Table} {v : Event}

/-- The cursor of a type tells, if the type is strict. -/
def CursorTellsFor (T : String) (s : Session) : Prop :=
  ∀ t, s.table? T = some t → t.options.strictness = .strict → t.CursorTells

/-- Every event but other bounds lets the cursor of a strict type tell. -/
theorem CursorTellsFor.after (h : s.CursorTellsFor T) (hv : ∀ i b, v ≠ .setsBounds T i b) :
    (s.after v).CursorTellsFor T := by
  intro t' ht' hs
  have hfate := tableFate_after s v T
  rw [ht'] at hfate
  generalize hout : some t' = out at hfate
  cases hfate with
  | declared =>
    cases hout
    exact Table.cursorTells_of_empty rfl rfl
  | @recorded r es t ha ht =>
    cases hout
    rw [Table.addAll_options] at hs
    refine (h t ht hs).addAll hs fun e he => ?_
    obtain ⟨d, -, hd⟩ := mem_assemble ha _ (mem_ofType.mp he)
    exact hd.count_eq_zero
  | @resolved c t hc ht =>
    cases hout
    rw [Table.step_options] at hs
    exact (h t ht hs).step hs _
  -- New bounds can take back what the cursor promises, which is why they are excluded.
  | @rebound i b => exact absurd rfl (hv i b)
  | kept => exact h t' hout.symm hs

theorem CursorTellsFor.afterAll (h : s.CursorTellsFor T) {events : List Event}
    (hevents : ∀ i b, .setsBounds T i b ∉ events) : (s.afterAll events).CursorTellsFor T := by
  induction events generalizing s with
  | nil => exact h
  | cons v vs ih =>
    refine ih (h.after ?_) fun i b hin => hevents i b (List.mem_cons_of_mem _ hin)
    rintro i b rfl
    exact hevents i b (List.mem_cons_self ..)

theorem cursorTellsFor_new (config : Config) (T : String) :
    ({ config } : Session).CursorTellsFor T := by
  intro t ht
  cases ht

/-- Whatever happens, a strict type stays, and its cursor does not go back. -/
theorem isAhead_after (ht : s.table? T = some t) (hs : t.options.strictness = .strict)
    (v : Event) : ∃ t', (s.after v).table? T = some t' ∧ t'.options.strictness = .strict ∧
      t'.IsAhead t := by
  have hfate := tableFate_after s v T
  generalize (s.after v).table? T = out at hfate ⊢
  -- Only a call that the table answers moves the cursor.
  cases hfate with
  | declared hnew => cases ht.symm.trans hnew
  | @recorded r es t₀ ha ht₀ =>
    cases ht.symm.trans ht₀
    refine ⟨_, rfl, (congrArg Options.strictness (t.addAll_options _)).trans hs, ?_⟩
    exact .of_cursor_eq (by rw [Table.addAll_of_strict hs])
  | @resolved c t₀ hc ht₀ =>
    cases ht.symm.trans ht₀
    exact ⟨_, rfl, (congrArg Options.strictness (t.step_options _)).trans hs,
      Table.isAhead_step hs _⟩
  | @rebound i b t₀ t' ht₀ hset =>
    cases ht.symm.trans ht₀
    exact ⟨t', rfl, (congrArg Options.strictness (Table.patterns_setBounds hset).1).trans hs,
      .of_cursor_eq (Table.cursor_setBounds hset)⟩
  | kept => exact ⟨t, ht, hs, .of_cursor_eq rfl⟩

theorem isAhead_afterAll (ht : s.table? T = some t) (hs : t.options.strictness = .strict)
    (events : List Event) : ∃ t', (s.afterAll events).table? T = some t' ∧ t'.IsAhead t := by
  induction events generalizing s t with
  | nil => exact ⟨t, ht, .of_cursor_eq rfl⟩
  | cons v vs ih =>
    obtain ⟨t', ht', hs', hahead⟩ := isAhead_after ht hs v
    obtain ⟨t'', ht'', hahead'⟩ := ih ht' hs'
    exact ⟨t'', ht'', hahead'.trans hahead⟩

/-- The final check reports the deficits of a type among those of the others. -/
theorem finish_of_table? (ho : s.phase ≠ .closed) (ht : s.table? T = some t) :
    ∃ earlier later, s.tables = earlier ++ (T, t) :: later ∧
      s.finish.1 = s.pending ++ (earlier.flatMap fun p => p.2.deficits) ++ t.deficits ++
        later.flatMap fun p => p.2.deficits := by
  obtain ⟨earlier, later, htables, -⟩ := List.lookup_eq_some_iff.mp ht
  refine ⟨earlier, later, htables, ?_⟩
  rw [finish, if_neg ho, deficits, htables, List.flatMap_append, List.flatMap_cons]
  simp only [List.append_assoc]

/-- Whatever happened to a new session, in whatever order, the cursor of a strict type tells which
of its ordered expectations have answered and which have their calls, unless a delegate changed
bounds of the type. It never goes back, and the final check reports ordered expectations from it on
only. -/
theorem cursor_of_events (config : Config) (events : List Event)
    (hevents : ∀ i b, .setsBounds T i b ∉ events)
    (hs : ({ config } : Session).afterAll events = s) (ht : s.table? T = some t)
    (hstrict : t.options.strictness = .strict) :
    t.CursorTells ∧
    (∀ more, ∃ t', (s.afterAll more).table? T = some t' ∧ t'.IsAhead t) ∧
    ∀ k, t.cursor = some k →
      (∀ i e m, t.OrderedAt i e → e.deficit? = some m → k ≤ i) ∧
      (s.phase ≠ .closed → ∃ earlier later, s.tables = earlier ++ (T, t) :: later ∧
        s.finish.1 = s.pending ++ (earlier.flatMap fun p => p.2.deficits) ++ t.deficitsFrom k ++
          later.flatMap fun p => p.2.deficits) := by
  have htells : t.CursorTells :=
    (cursorTellsFor_new config T).afterAll hevents t (hs.symm ▸ ht) hstrict
  refine ⟨htells, isAhead_afterAll ht hstrict, fun k hk => ⟨fun i e m he hm => ?_, fun ho => ?_⟩⟩
  · refine Nat.le_of_not_lt fun hlt => ?_
    cases (htells.deficit?_eq_none hk hlt he).symm.trans hm
  · rw [← htells.deficits_eq hk]
    exact finish_of_table? ho ht

/-- A door expects a knock, a ring and a pull, and a look through the window at any time. There is a
look, a knock and a ring. -/
def rung : List Event :=
  [.declares "Door" ⟨.strict, .total⟩,
    .closesRecord
      { drafts := [{ pattern := .nullary "Door" "knock" },
          { pattern := .nullary "Door" "look", unordered := true },
          { pattern := .nullary "Door" "ring" }, { pattern := .nullary "Door" "pull" }] },
    .resolves (.nullary "Door" "look"), .resolves (.nullary "Door" "knock"),
    .resolves (.nullary "Door" "ring")]

/-- The door after the ring. -/
def rungDoor : Table :=
  { options := ⟨.strict, .total⟩
    expectations :=
      [⟨.nullary "Door" "knock", [], ⟨.exactly 1, 1⟩, true, some 2⟩,
        ⟨.nullary "Door" "look", [], ⟨⟨0, none⟩, 1⟩, false, some 1⟩,
        ⟨.nullary "Door" "ring", [], ⟨.exactly 1, 1⟩, true, some 3⟩,
        ⟨.nullary "Door" "pull", [], ⟨.exactly 1, 0⟩, true, none⟩]
    cursor := some 2
    answered := 3 }

theorem table?_rung : (({} : Session).afterAll rung).table? "Door" = some rungDoor := rfl

/-- The cursor stands at the ring, later rings do not move it back, and the pull is missing. -/
theorem cursor_of_events_rung :
    rungDoor.CursorTells ∧
    (∃ t', ((({} : Session).afterAll rung).afterAll [.resolves (.nullary "Door" "ring")]).table?
      "Door" = some t' ∧ t'.IsAhead rungDoor) ∧
    (∀ i e m, rungDoor.OrderedAt i e → e.deficit? = some m → 2 ≤ i) ∧
    .missing (Pattern.nullary "Door" "pull").description (.exactly 1) 0 ∈
      (({} : Session).afterAll rung).finish.1 := by
  have hevents : ∀ i b, .setsBounds "Door" i b ∉ rung := by
    intro i b h
    simp [rung] at h
  have hphase : (({} : Session).afterAll rung).phase = .replaying := rfl
  obtain ⟨htells, hahead, hcursor⟩ := cursor_of_events {} rung hevents rfl table?_rung rfl
  obtain ⟨hmissing, hfinish⟩ := hcursor 2 rfl
  obtain ⟨earlier, later, -, hreport⟩ := hfinish (by rw [hphase]; decide)
  refine ⟨htells, hahead _, hmissing, ?_⟩
  rw [hreport]
  refine List.mem_append_left _ (List.mem_append_right _ ?_)
  rw [show rungDoor.deficitsFrom 2 = [.missing (Pattern.nullary "Door" "pull").description
    (.exactly 1) 0] from rfl]
  exact List.mem_singleton_self _

end Session

end Understudy

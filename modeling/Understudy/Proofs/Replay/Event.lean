import Understudy.Proofs.Recording.Places
import Understudy.Session.Verify

/-!
# What can happen to a session, piece by piece

An `Event` is a change of a session that nothing can interrupt: what one lock covers. Every
operation comes down to events in a row, and whatever other threads do between them is
events as well, so what holds after every list of events holds however operations
interleave. In particular `Event.resolves` asks for no phase: between the moment a call was
let in and the moment it is resolved, a record block may have been opened, or the session
may be over.

`Fate` and `TableFate` are the two places where events are taken apart. The first says what
becomes of the expectation at a place, the second what becomes of a whole table, and later
proofs go by their cases.
-/

namespace Understudy

/-- A change of a session in one piece. -/
inductive Event where
  | declares (typeName : String) (options : Options)
  | makesInstance (of : Target)
  | opensRecord
  /-- A record block ends, with the expectations that it wrote. -/
  | closesRecord (r : Recording)
  /-- A call is let in. -/
  | admits
  /-- A call is logged that no table is asked about. -/
  | logs (c : Call)
  /-- A call is resolved by the table of its type and logged, or torn down. -/
  | resolves (c : Call)
  /-- The bounds that a delegate asked for are set. -/
  | setsBounds (typeName : String) (index : Nat) (b : Bounds)
  | verifies (mode : Mode) (b : Block)
  | finishes
  | closes

/-- Whether an event has nothing to do with what stands in the tables. -/
def Event.looksOn : Event → Bool
  | declares .. | closesRecord _ | resolves _ | setsBounds .. => false
  | _ => true

namespace Session

/-- The session after an event. What is refused changes nothing. -/
def after (s : Session) : Event → Session
  | .declares typeName options => ((s.declare typeName options).toOption.map (·.2)).getD s
  | .makesInstance of => ((s.newInstance of).toOption.map (·.2)).getD s
  | .opensRecord => s.beginRecord.toOption.getD s
  | .closesRecord r => (s.closeRecord r).2
  | .admits => s.beginDispatch.toOption.getD s
  | .logs c => (s.logCall c).2
  | .resolves c => ((s.resolveCall c).map (·.2)).getD s
  | .setsBounds typeName index b => s.applyBounds typeName index b
  | .verifies mode b => (s.verify mode b).2
  | .finishes => s.finish.2
  | .closes => s.close

/-- The session after events in a row. -/
def afterAll (s : Session) (events : List Event) : Session := events.foldl after s

variable {s : Session} {T : String} {i : Nat}

/-- An operation that needs a phase changes nothing else. -/
theorem enterPhase_getD (s : Session) (operation : String) (p : Phase) :
    (s.enterPhase operation p).toOption.getD s = s ∨
      (s.enterPhase operation p).toOption.getD s = s.inPhase p := by
  unfold enterPhase
  split
  · exact Or.inl rfl
  · exact Or.inl rfl
  · exact Or.inr rfl

theorem after_opensRecord (s : Session) :
    s.after .opensRecord = s ∨ s.after .opensRecord = s.inPhase .recording :=
  enterPhase_getD s _ _

theorem after_admits (s : Session) : s.after .admits = s ∨ s.after .admits = s.inPhase .replaying :=
  enterPhase_getD s _ _

/-- Declaring changes a session only if the type is new. -/
theorem after_declares (s : Session) (typeName : String) (options : Options) :
    s.after (.declares typeName options) = s ∨ (s.table? typeName = none ∧
      s.after (.declares typeName options) =
        { s with tables := insertType typeName { options } s.tables }) := by
  show ((s.declare typeName options).toOption.map (·.2)).getD s = s ∨ _ ∧
    ((s.declare typeName options).toOption.map (·.2)).getD s = _
  unfold declare
  cases ht : s.table? typeName with
  | some t =>
    left
    dsimp only
    by_cases ho : t.options = options
    · rw [if_pos ho]
      rfl
    · rw [if_neg ho]
      rfl
  | none => exact Or.inr ⟨rfl, rfl⟩

theorem after_makesInstance (s : Session) (of : Target) : s.after (.makesInstance of) = s ∨
    s.after (.makesInstance of) = { s with nextInstance := s.nextInstance + 1 } := by
  show ((s.newInstance of).toOption.map (·.2)).getD s = s ∨
    ((s.newInstance of).toOption.map (·.2)).getD s = _
  unfold newInstance
  by_cases hd : s.declares of.typeName = true
  · rw [if_pos hd]
    exact Or.inr rfl
  · rw [if_neg hd]
    exact Or.inl rfl

/-- Declaring a type writes to the tables and to nothing else. -/
theorem after_declares_frame (s : Session) (typeName : String) (options : Options) :
    s.after (.declares typeName options) =
      { s with tables := (s.after (.declares typeName options)).tables } := by
  rcases after_declares s typeName options with hsame | ⟨-, hnew⟩
  · rw [hsame]
  · rw [hnew]

theorem after_makesInstance_frame (s : Session) (of : Target) :
    s.after (.makesInstance of) =
      { s with nextInstance := (s.after (.makesInstance of)).nextInstance } := by
  rcases after_makesInstance s of with hsame | hnew
  · rw [hsame]
  · rw [hnew]

theorem applyChanges_cases (s : Session) (index : Nat) (call : DelegateCall)
    (changes : List BoundChange) : s.applyChanges index call changes = s ∨
      ∃ b, s.applyChanges index call changes =
        s.after (.setsBounds call.invocation.target.typeName index b) := by
  unfold applyChanges
  split
  · next b _ => exact Or.inr ⟨b, rfl⟩
  · exact Or.inl rfl

/-! ## One place of one table -/

/-- What an event makes of the expectation at a place. -/
inductive Fate (s : Session) (T : String) (i : Nat) : Event → Option Expectation → Prop where
  /-- A new one is recorded. -/
  | recorded {r : Recording} {e : Expectation} (hrec : s.recordsAt r T i = true)
      (hnew : ∃ d ∈ r.drafts, s.Becomes r.iterations d (T, e)) :
      Fate s T i (.closesRecord r) (some e)
  /-- It answers a call and is counted. -/
  | served {c : Call} {e : Expectation} {n : Nat} {q : Entered × Session}
      (hans : s.answersAt T i c = true) (hq : s.resolveCall c = some q)
      (hserves : s.Serves c i e q) : Fate s T i (.resolves c) (some (e.counted n))
  /-- It gets other bounds. -/
  | rebound {b : Bounds} {e : Expectation} (he : s.expectation? T i = some e)
      (hb : b.consistent = true) :
      Fate s T i (.setsBounds T i b) (some { e with counter.bounds := b })
  /-- It stays as it was. -/
  | kept {v : Event} (hrec : ∀ r, v = .closesRecord r → s.recordsAt r T i = false)
      (hans : ∀ c, v = .resolves c → s.answersAt T i c = false) : Fate s T i v (s.expectation? T i)

theorem fate_of_tables {v : Event} (hv : (∀ r, v ≠ .closesRecord r) ∧ ∀ c, v ≠ .resolves c)
    (htables : (s.after v).tables = s.tables) : s.Fate T i v ((s.after v).expectation? T i) := by
  have hsame : (s.after v).expectation? T i = s.expectation? T i := by
    rw [expectation?, table?, htables]
    rfl
  rw [hsame]
  exact .kept (fun r h => absurd h (hv.1 r)) (fun c h => absurd h (hv.2 c))

/-- A newly declared type has no expectations. -/
theorem expectation?_declares (typeName : String) (options : Options) :
    (s.after (.declares typeName options)).expectation? T i = s.expectation? T i := by
  rcases after_declares s typeName options with hsame | ⟨ht, hnew⟩
  · rw [hsame]
  · rw [hnew]
    unfold expectation? table?
    rw [lookup_insertType _ _ _ _ ht]
    split
    · next hT =>
      have hnone : s.tables.lookup T = none := hT ▸ ht
      rw [hnone]
      rfl
    · rfl

/-- Consistent bounds are set at one place, if something stands there. -/
theorem expectation?_applyBounds (s : Session) (U : String) (j : Nat) (b : Bounds) (T : String)
    (i : Nat) : (s.applyBounds U j b).expectation? T i =
      if T = U ∧ i = j ∧ b.consistent = true then
        (s.expectation? T i).map fun e => { e with counter.bounds := b }
      else s.expectation? T i := by
  unfold applyBounds
  cases ht : s.table? U with
  | none =>
    dsimp only
    split
    · next h =>
      obtain ⟨rfl, -⟩ := h
      rw [expectation?, ht]
      rfl
    · rfl
  | some t =>
    dsimp only
    unfold Table.setBounds
    cases he : t.expectations[j]? with
    | none =>
      have hsame : (s.setTable U t).table? T = s.table? T := by
        rw [table?_setTable]
        split
        · next hT => rw [hT, ht]; rfl
        · rfl
      dsimp only
      rw [expectation?_congr hsame]
      split
      · next h =>
        obtain ⟨rfl, rfl, -⟩ := h
        rw [expectation?_of_table? ht, he]
        rfl
      · rfl
    | some e =>
      dsimp only
      -- Contradictory bounds are rejected before anything is written.
      cases hb : b.shortMax? with
      | some max =>
        have hinconsistent : b.consistent ≠ true := by
          intro h
          cases hb.symm.trans (Bounds.consistent_iff.mp h)
        rw [if_neg fun h => hinconsistent h.2.2]
        rfl
      | none =>
        have hconsistent : b.consistent = true := Bounds.consistent_iff.mpr hb
        have htable : (s.setTable U
            { t with expectations := t.expectations.set j { e with counter.bounds := b } }).table? T =
            if T = U then (s.table? T).map fun _ =>
              { t with expectations := t.expectations.set j { e with counter.bounds := b } }
            else s.table? T := table?_setTable ..
        -- One place of one table is written.
        by_cases hT : T = U
        · subst hT
          rw [if_pos rfl, ht] at htable
          dsimp only
          rw [expectation?_of_table? htable, expectation?_of_table? ht]
          by_cases hj : i = j
          · subst hj
            have hlt : i < t.expectations.length := (List.getElem?_eq_some_iff.mp he).1
            dsimp only
            rw [if_pos ⟨rfl, rfl, hconsistent⟩, List.getElem?_set_self hlt, he]
            rfl
          · dsimp only
            rw [if_neg fun h => hj h.2.1, List.getElem?_set_ne (Ne.symm hj)]
        · rw [if_neg hT] at htable
          dsimp only
          rw [expectation?_congr htable, if_neg fun h => hT h.1]

theorem fate_setsBounds (U : String) (j : Nat) (b : Bounds) :
    s.Fate T i (.setsBounds U j b) ((s.after (.setsBounds U j b)).expectation? T i) := by
  have hkept : s.Fate T i (.setsBounds U j b) (s.expectation? T i) := .kept nofun nofun
  show s.Fate T i (.setsBounds U j b) ((s.applyBounds U j b).expectation? T i)
  rw [expectation?_applyBounds]
  split
  · next h =>
    obtain ⟨rfl, rfl, hb⟩ := h
    cases he : s.expectation? T i with
    | none =>
      rw [he] at hkept
      exact hkept
    | some e => exact .rebound he hb
  · exact hkept

theorem fate_resolves (c : Call) :
    s.Fate T i (.resolves c) ((s.after (.resolves c)).expectation? T i) := by
  show s.Fate T i (.resolves c) ((((s.resolveCall c).map (·.2)).getD s).expectation? T i)
  have hkept (h : s.answersAt T i c = false) : s.Fate T i (.resolves c) (s.expectation? T i) := by
    refine .kept nofun ?_
    intro c' hc
    cases hc
    exact h
  cases hq : s.resolveCall c with
  | none =>
    exact hkept (answersAt_of_not_declared (Option.map_eq_none_iff.mp hq))
  | some q =>
    show s.Fate T i (.resolves c) (q.2.expectation? T i)
    -- Either one place serves the call, or none does. All others stay as they were.
    rcases resolveCall_cases hq with ⟨j, e, hserves⟩ | hspurns
    · by_cases hj : T = c.target.typeName ∧ i = j
      · obtain ⟨rfl, rfl⟩ := hj
        obtain ⟨n, hn⟩ := hserves.counted
        rw [hn]
        exact .served ((hserves.answersAt _ _).mpr ⟨rfl, rfl⟩) hq hserves
      · rw [hserves.others T i hj]
        refine hkept ?_
        rw [← Bool.not_eq_true, hserves.answersAt]
        exact hj
    · rw [hspurns.places T i]
      exact hkept (hspurns.answersAt T i)

/-- Most events leave every table as it is. -/
theorem tables_after_of_looksOn {v : Event} (h : v.looksOn = true) :
    (s.after v).tables = s.tables := by
  -- Such an event writes the phase, the log or what is pending.
  cases v with
  | declares typeName options => cases h
  | makesInstance of =>
    rw [after_makesInstance_frame]
  | opensRecord =>
    rcases after_opensRecord s with hsame | hopen
    · rw [hsame]
    · rw [hopen, inPhase_tables]
  | closesRecord r => cases h
  | admits =>
    rcases after_admits s with hsame | hin
    · rw [hsame]
    · rw [hin, inPhase_tables]
  | logs c => rfl
  | resolves c => cases h
  | setsBounds U j b => cases h
  | verifies mode b =>
    show (s.verify mode b).2.tables = s.tables
    unfold verify
    split
    · rfl
    · next s' hb =>
      obtain ⟨-, rfl⟩ := enterPhase_eq_ok_iff.mp hb
      dsimp only
      split <;> rfl
  | finishes =>
    show s.finish.2.tables = s.tables
    unfold finish
    split <;> rfl
  | closes => rfl

/-- Whatever happens, one of four things becomes of the expectation at a place. -/
theorem fate_after (s : Session) (v : Event) (T : String) (i : Nat) :
    s.Fate T i v ((s.after v).expectation? T i) := by
  cases v with
  | declares typeName options =>
    rw [expectation?_declares]
    exact .kept nofun nofun
  | closesRecord r =>
    rcases expectation?_closeRecord s r T i with ⟨hrec, e, hnew, he⟩ | ⟨hrec, hsame⟩
    · show s.Fate T i (.closesRecord r) ((s.closeRecord r).2.expectation? T i)
      rw [he]
      exact .recorded hrec hnew
    · show s.Fate T i (.closesRecord r) ((s.closeRecord r).2.expectation? T i)
      rw [hsame]
      refine .kept ?_ nofun
      intro r' hr
      cases hr
      exact hrec
  | resolves c => exact fate_resolves c
  | setsBounds U j b => exact fate_setsBounds U j b
  -- The others do not write to tables.
  | makesInstance of => exact fate_of_tables ⟨nofun, nofun⟩ (tables_after_of_looksOn rfl)
  | opensRecord => exact fate_of_tables ⟨nofun, nofun⟩ (tables_after_of_looksOn rfl)
  | admits => exact fate_of_tables ⟨nofun, nofun⟩ (tables_after_of_looksOn rfl)
  | logs c => exact fate_of_tables ⟨nofun, nofun⟩ (tables_after_of_looksOn rfl)
  | verifies mode b => exact fate_of_tables ⟨nofun, nofun⟩ (tables_after_of_looksOn rfl)
  | finishes => exact fate_of_tables ⟨nofun, nofun⟩ (tables_after_of_looksOn rfl)
  | closes => exact fate_of_tables ⟨nofun, nofun⟩ (tables_after_of_looksOn rfl)

/-! ## One table -/

/-- What an event makes of the table of a type. -/
inductive TableFate (s : Session) (T : String) : Event → Option Table → Prop where
  /-- The type is new. -/
  | declared {o : Options} (ht : s.table? T = none) :
      TableFate s T (.declares T o) (some { options := o })
  /-- A block is recorded. -/
  | recorded {r : Recording} {es : List (String × Expectation)} {t : Table}
      (ha : s.assemble r = .ok es) (ht : s.table? T = some t) :
      TableFate s T (.closesRecord r) (some (t.addAll (ofType T es)))
  /-- It resolves a call. -/
  | resolved {c : Call} {t : Table} (hc : c.target.typeName = T) (ht : s.table? T = some t) :
      TableFate s T (.resolves c) (some (t.step (s.logCall c).1).2)
  /-- One of its expectations gets other bounds. -/
  | rebound {i : Nat} {b : Bounds} {t t' : Table} (ht : s.table? T = some t)
      (hset : t.setBounds i b = .ok t') : TableFate s T (.setsBounds T i b) (some t')
  /-- It stays as it was. -/
  | kept {v : Event} (hrec : ∀ r, v = .closesRecord r → ∀ i, s.recordsAt r T i = false)
      (hans : ∀ c, v = .resolves c → ∀ i, s.answersAt T i c = false) : TableFate s T v (s.table? T)

theorem tableFate_declares (s : Session) (U : String) (o : Options) (T : String) :
    s.TableFate T (.declares U o) ((s.after (.declares U o)).table? T) := by
  rcases after_declares s U o with hsame | ⟨ht, hnew⟩
  · rw [hsame]
    exact .kept nofun nofun
  · have htable : (s.after (.declares U o)).table? T =
        if T = U then some { options := o } else s.table? T := by
      rw [hnew]
      exact lookup_insertType _ _ _ _ ht
    rw [htable]
    split
    · next hT =>
      subst hT
      exact .declared ht
    · exact .kept nofun nofun

theorem tableFate_closesRecord (s : Session) (r : Recording) (T : String) :
    s.TableFate T (.closesRecord r) ((s.after (.closesRecord r)).table? T) := by
  have hkept (h : ∀ i, s.recordsAt r T i = false) :
      s.TableFate T (.closesRecord r) (s.table? T) := by
    refine .kept ?_ nofun
    intro r' hr
    cases hr
    exact h
  show s.TableFate T (.closesRecord r) ((s.closeRecord r).2.table? T)
  -- A block that is rejected records nowhere, and one that is taken only in declared types.
  rcases closeRecord_cases s r with ⟨es, ha, hc⟩ | ⟨err, ha, hc⟩
  · have htable : (s.closeRecord r).2.table? T = (s.table? T).map (·.addAll (ofType T es)) := by
      rw [hc]
      exact table?_addExpectations s es T
    rw [htable]
    cases ht : s.table? T with
    | some t => exact .recorded ha ht
    | none =>
      rw [ht] at hkept
      refine hkept fun i => ?_
      rw [recordsAt, ha, ht]
  · rw [hc]
    refine hkept fun i => ?_
    rw [recordsAt, ha]

/-- Resolving a call has the table of its type answer it. No other table changes. -/
theorem table?_after_resolves (s : Session) (c : Call) (T : String) :
    (s.after (.resolves c)).table? T =
      if T = c.target.typeName then (s.table? T).map fun t => (t.step (s.logCall c).1).2
      else s.table? T := by
  show (((s.resolveCall c).map (·.2)).getD s).table? T = _
  unfold resolveCall
  cases ht : s.table? c.target.typeName with
  | none =>
    split
    · next hT =>
      rw [hT, ht]
      exact ht
    · rfl
  | some t =>
    show (s.resolve t c).2.table? T = _
    rw [table?_resolve ht]
    split
    · next hT =>
      rw [hT, ht]
      rfl
    · rfl

theorem phase_after_resolves (s : Session) (c : Call) :
    (s.after (.resolves c)).phase = s.phase := by
  show (((s.resolveCall c).map (·.2)).getD s).phase = s.phase
  unfold resolveCall
  cases s.table? c.target.typeName with
  | none => rfl
  | some t => exact resolve_phase t c

theorem tableFate_resolves (s : Session) (c : Call) (T : String) :
    s.TableFate T (.resolves c) ((s.after (.resolves c)).table? T) := by
  have hkept (h : ∀ i, s.answersAt T i c = false) : s.TableFate T (.resolves c) (s.table? T) := by
    refine .kept nofun ?_
    intro c' hc
    cases hc
    exact h
  rw [table?_after_resolves]
  split
  · next hT =>
    subst hT
    cases ht : s.table? c.target.typeName with
    | none =>
      rw [ht] at hkept
      exact hkept fun i => answersAt_of_not_declared ht
    | some t => exact .resolved rfl ht
  · next hT =>
    refine hkept fun i => ?_
    rw [answersAt, decide_eq_false fun h => hT h.symm, Bool.false_and]

theorem tableFate_setsBounds (s : Session) (U : String) (j : Nat) (b : Bounds) (T : String) :
    s.TableFate T (.setsBounds U j b) ((s.after (.setsBounds U j b)).table? T) := by
  have hkept : s.TableFate T (.setsBounds U j b) (s.table? T) := .kept nofun nofun
  show s.TableFate T (.setsBounds U j b) ((s.applyBounds U j b).table? T)
  unfold applyBounds
  cases ht : s.table? U with
  | none => exact hkept
  | some t =>
    dsimp only
    cases hset : t.setBounds j b with
    | error err => exact hkept
    | ok t' =>
      dsimp only
      rw [table?_setTable]
      split
      · next hT =>
        subst hT
        rw [ht]
        exact .rebound ht hset
      · exact hkept

/-- Whatever happens, one of five things becomes of the table of a type. -/
theorem tableFate_after (s : Session) (v : Event) (T : String) :
    s.TableFate T v ((s.after v).table? T) := by
  have hlooksOn (h : v.looksOn = true) : s.TableFate T v ((s.after v).table? T) := by
    rw [table?, tables_after_of_looksOn h]
    refine .kept ?_ ?_
    · rintro r rfl
      cases h
    · rintro c rfl
      cases h
  cases v with
  | declares U o => exact tableFate_declares s U o T
  | closesRecord r => exact tableFate_closesRecord s r T
  | resolves c => exact tableFate_resolves s c T
  | setsBounds U j b => exact tableFate_setsBounds s U j b T
  | makesInstance of => exact hlooksOn rfl
  | opensRecord => exact hlooksOn rfl
  | admits => exact hlooksOn rfl
  | logs c => exact hlooksOn rfl
  | verifies mode b => exact hlooksOn rfl
  | finishes => exact hlooksOn rfl
  | closes => exact hlooksOn rfl

/-- Whatever happens, an expectation has its pattern and its script from the draft that it was
recorded from. -/
theorem source_after {v : Event} {e' : Expectation} (he' : (s.after v).expectation? T i = some e') :
    (∃ e, s.expectation? T i = some e ∧ e'.pattern = e.pattern ∧ e'.script = e.script) ∨
    ∃ r, v = .closesRecord r ∧ ∃ d ∈ r.drafts, (∃ t : Table, d.IsSound t.options) ∧
      e'.pattern = d.pattern ∧ e'.script = d.script := by
  have hfate := fate_after s v T i
  rw [he'] at hfate
  generalize hout : some e' = out at hfate
  -- A new expectation comes from a draft. Whatever becomes of an old one, these two stay.
  cases hfate with
  | @recorded r e hrec hnew =>
    cases hout
    obtain ⟨d, hd, t, -, hsound, heq⟩ := hnew
    cases heq
    exact Or.inr ⟨r, rfl, d, hd, ⟨t, hsound⟩, rfl, rfl⟩
  | @served c e n q hans hq hserves =>
    cases hout
    obtain rfl := ((hserves.answersAt T i).mp hans).1
    exact Or.inl ⟨e, hserves.place, rfl, rfl⟩
  | @rebound b e he hb =>
    cases hout
    exact Or.inl ⟨e, he, rfl, rfl⟩
  | kept hrec hans => exact Or.inl ⟨e', hout.symm, rfl, rfl⟩

/-- The delegates of a session come from what was recorded. -/
theorem EachDelegate.after {P : Delegate → Prop} {v : Event} (h : s.EachDelegate P)
    (hv : ∀ r, v = .closesRecord r → ∀ d ∈ r.drafts, ∀ f, Action.delegates f ∈ d.script → P f) :
    (s.after v).EachDelegate P := by
  intro T i e' he'
  rcases source_after he' with ⟨e, he, -, hscript⟩ | ⟨r, hr, d, hd, -, -, hscript⟩
  · rw [hscript]
    exact h T i e he
  · rw [hscript]
    exact hv r hr d hd

end Session

end Understudy

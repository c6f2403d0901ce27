import Understudy.Proofs.Replay.Flight
import Understudy.Proofs.Session.History

/-!
# Bounds are consistent at all times

Bounds come into a session in two ways: with the drafts of a record block, and at the request of
a delegate. Both ways are checked, so every expectation of every session has bounds that some
number of calls satisfies (`BoundsConsistent.after`, by the fates of a place).

What does not pass the check leaves its mark and nothing else. A block with a contradictory draft
is rejected as a whole (`closeRecord_of_contradicts`). A contradictory request is dropped, and
one misuse is remembered: the expectation that answered has a successor at its place whatever
happened meanwhile, and so there is something to name in it (`applyChanges_of_contradictory`).

`KeepsBounds` puts this together, and `keepsBounds_of_events` says it of every session.
-/

namespace Understudy

namespace Bounds

variable {b : Bounds} {max : Nat}

theorem consistent_iff_le :
    b.consistent = true ↔ ∀ max, b.max = some max → b.min ≤ max := by
  cases hb : b.max <;> simp [consistent, hb]

/-- A maximum below the minimum is too short. -/
theorem shortMax?_of_lt (h : b.max = some max) (hlt : max < b.min) : b.shortMax? = some max := by
  simp [shortMax?, h, hlt]

theorem not_consistent_of_lt (h : b.max = some max) (hlt : max < b.min) :
    ¬ b.consistent = true := by
  intro hc
  have := consistent_iff_le.mp hc max h
  omega

end Bounds

/-- An ordered expectation has the bounds its draft means, and any other one a multiple of them.
Products at the limit keep the order of the two sides. -/
theorem Draft.IsSound.consistent_recorded {d : Draft} {o : Options} (h : d.IsSound o) (n : Nat) :
    (d.recorded o n).counter.bounds.consistent = true := by
  unfold recorded
  dsimp only
  split
  · exact h.consistent
  · exact Bounds.consistent_repeated h.consistent n

namespace Session

variable {s s' : Session} {T : String} {i n : Nat} {c : Call} {d : Delegate} {call : DelegateCall}

/-! ## The invariant -/

/-- Every expectation of a session has consistent bounds. -/
def BoundsConsistent (s : Session) : Prop :=
  ∀ T i e, s.expectation? T i = some e → e.counter.bounds.consistent = true

/-- Every event keeps the bounds consistent. -/
theorem BoundsConsistent.after (h : s.BoundsConsistent) (v : Event) :
    (s.after v).BoundsConsistent := by
  intro T i e' he'
  have hfate := fate_after s v T i
  rw [he'] at hfate
  generalize hout : some e' = out at hfate
  cases hfate with
  | recorded hrec hnew =>
    cases hout
    obtain ⟨d, -, t, -, hsound, heq⟩ := hnew
    cases heq
    exact hsound.consistent_recorded _
  | @served c e n q hans hq hserves =>
    cases hout
    exact h _ _ e hserves.place
  | rebound he hb =>
    cases hout
    exact hb
  | kept hrec hans => exact h T i e' hout.symm

theorem BoundsConsistent.afterAll (h : s.BoundsConsistent) (events : List Event) :
    (s.afterAll events).BoundsConsistent := by
  induction events generalizing s with
  | nil => exact h
  | cons v vs ih => exact ih (h.after v)

theorem boundsConsistent_new (config : Config) : ({ config } : Session).BoundsConsistent := by
  intro T i e he
  cases he

/-! ## Contradictory drafts -/

/-- A draft that means a maximum below its minimum. -/
structure Contradicts (s : Session) (d : Draft) (b : Bounds) (max : Nat) : Prop where
  meant : ∃ t, s.table? d.pattern.target.typeName = some t ∧ b = d.meant t.options
  short : b.max = some max
  below : max < b.min

theorem Contradicts.not_takes {d : Draft} {b : Bounds} {max : Nat} (h : s.Contradicts d b max) :
    ¬ s.Takes d := by
  obtain ⟨t, ht, rfl⟩ := h.meant
  rintro ⟨t', ht', hsound⟩
  cases ht.symm.trans ht'
  exact Bounds.not_consistent_of_lt h.short h.below hsound.consistent

/-- If nothing else is wrong with it, the error of a contradictory draft is about its bounds. -/
theorem Contradicts.assembleDrafts {d : Draft} {b : Bounds} {max : Nat} (h : s.Contradicts d b max)
    (hd : d.pattern.check = .ok ()) {before : List Draft} (hbefore : ∀ d' ∈ before, s.Takes d')
    (after : List Draft) : s.assembleDrafts n (before ++ d :: after) =
      .error (.invalidBounds d.pattern.description b.min max) := by
  -- The drafts before it can be recorded, so it is the one that stops the block.
  induction before with
  | nil =>
    obtain ⟨t, ht, rfl⟩ := h.meant
    have hbounds : d.pattern.resolveBounds d.quantifier
        (Draft.defaultBounds (d.isOrdered t.options)) d.script.length =
        .error (.invalidBounds d.pattern.description (d.meant t.options).min max) := by
      have hshort := Bounds.shortMax?_of_lt h.short h.below
      unfold Draft.meant at hshort
      unfold Pattern.resolveBounds
      simp only [hshort]
      rfl
    rw [List.nil_append, Session.assembleDrafts, ht]
    simp only [Draft.expectation, hd, hbounds]
    rfl
  | cons d' before ih =>
    rw [List.forall_mem_cons] at hbefore
    obtain ⟨t, ht, hsound⟩ := hbefore.1
    rw [List.cons_append, Session.assembleDrafts, ht]
    simp only [Draft.expectation_eq_ok_iff.mpr ⟨hsound, rfl⟩, ih hbefore.2]
    rfl

/-- A block with a contradictory draft is rejected, and nothing changes but the phase. -/
theorem closeRecord_of_contradicts {r : Recording} {d : Draft} {b : Bounds} {max : Nat}
    (hd : d ∈ r.drafts) (h : s.Contradicts d b max) :
    ∃ err, s.closeRecord r = (.error err, s.inPhase .replaying) := by
  rcases closeRecord_cases s r with ⟨es, ha, -⟩ | ⟨err, -, hc⟩
  · exact absurd ((assemble_isOk_iff.mp ⟨es, ha⟩).2 d hd) h.not_takes
  · exact ⟨err, hc⟩

/-- The error is about the bounds if they are the first thing wrong with the block. -/
theorem Contradicts.closeRecord {d : Draft} {b : Bounds} {max : Nat} (h : s.Contradicts d b max)
    (hd : d.pattern.check = .ok ()) (hn : n ≠ 0) {before : List Draft}
    (hbefore : ∀ d' ∈ before, s.Takes d') (after : List Draft) :
    s.closeRecord ⟨before ++ d :: after, n⟩ =
      (.error (.invalidBounds d.pattern.description b.min max), s.inPhase .replaying) := by
  have hassemble : s.assemble ⟨before ++ d :: after, n⟩ =
      .error (.invalidBounds d.pattern.description b.min max) := by
    rw [assemble, if_neg hn]
    simp only [h.assembleDrafts hd hbefore after]
    rfl
  rw [Session.closeRecord, commit, hassemble]
  rfl

/-! ## Contradictory requests -/

/-- Something stands for good where something stood. -/
theorem exists_expectation?_after {e : Expectation} (he : s.expectation? T i = some e) (v : Event) :
    ∃ e', (s.after v).expectation? T i = some e' := by
  have hfate := fate_after s v T i
  generalize hout : (s.after v).expectation? T i = out at hfate
  cases hfate with
  | recorded hrec hnew => exact ⟨_, rfl⟩
  | served hans hq hserves => exact ⟨_, rfl⟩
  | rebound he hb => exact ⟨_, rfl⟩
  | kept hrec hans => exact ⟨e, he⟩

theorem exists_expectation?_afterAll {e : Expectation} (he : s.expectation? T i = some e)
    (events : List Event) : ∃ e', (s.afterAll events).expectation? T i = some e' := by
  induction events generalizing s e with
  | nil => exact ⟨e, he⟩
  | cons v vs ih =>
    obtain ⟨e', he'⟩ := exists_expectation?_after he v
    exact ih he'

/-- Contradictory bounds are not set; one misuse is remembered instead. -/
theorem applyBounds_of_contradictory {e : Expectation} (he : s.expectation? T i = some e)
    {b : Bounds} {max : Nat} (hmax : b.max = some max) (hlt : max < b.min) :
    s.applyBounds T i b = s.push (.misuse (.invalidBounds e.pattern.description b.min max)) := by
  obtain ⟨t, ht, hat⟩ := Option.bind_eq_some_iff.mp he
  unfold applyBounds Table.setBounds
  simp only [ht, hat, Bounds.shortMax?_of_lt hmax hlt]

/-- A contradictory request of a delegate is dropped, whatever happened since its call was
resolved. -/
theorem applyChanges_of_contradictory (hc : (s.enter c).1 = .delegated i d call)
    (events : List Event) {changes : List BoundChange} {b : Bounds} {max : Nat}
    (hb : requestedBounds call.bounds changes = some b) (hmax : b.max = some max)
    (hlt : max < b.min) : ∃ e,
      ((s.enter c).2.afterAll events).expectation? c.target.typeName i = some e ∧
      ((s.enter c).2.afterAll events).applyChanges i call changes =
        ((s.enter c).2.afterAll events).push
          (.misuse (.invalidBounds e.pattern.description b.min max)) := by
  obtain ⟨e, hserves, -, rfl⟩ := enter_delegated hc
  obtain ⟨k, hk⟩ := hserves.counted
  obtain ⟨e', he'⟩ := exists_expectation?_afterAll hk events
  refine ⟨e', he', ?_⟩
  unfold applyChanges
  simp only [hb]
  exact applyBounds_of_contradictory he' hmax hlt

/-! ## What a session does about bounds -/

/-- A session has consistent bounds, and keeps contradictory ones out. -/
structure KeepsBounds (s : Session) : Prop where
  ordered : ∀ T i e, s.expectation? T i = some e →
    ∀ max, e.counter.bounds.max = some max → e.counter.bounds.min ≤ max
  /-- An expectation below its minimum can answer another call. -/
  capacity : ∀ T i e, s.expectation? T i = some e → e.satisfied = false → e.hasCapacity = true
  /-- A block with a contradictory draft is rejected, and nothing of it is recorded. -/
  rejects : ∀ (r : Recording) (d : Draft) (b : Bounds) (max : Nat), d ∈ r.drafts →
    s.Contradicts d b max → ∃ err, s.closeRecord r = (.error err, s.inPhase .replaying)
  /-- The error names the bounds, if they are the first thing wrong with the block. -/
  names : ∀ (before after : List Draft) (n : Nat) (d : Draft) (b : Bounds) (max : Nat), n ≠ 0 →
    (∀ d' ∈ before, s.Takes d') → d.pattern.check = .ok () → s.Contradicts d b max →
    (s.closeRecord ⟨before ++ d :: after, n⟩).1 =
      .error (.invalidBounds d.pattern.description b.min max)
  /-- Contradictory bounds that a delegate asks for are dropped, whatever happened since its call
  was resolved: one misuse is remembered, and nothing else changes. -/
  drops : ∀ (c : Call) (i : Nat) (d : Delegate) (call : DelegateCall) (events : List Event)
    (changes : List BoundChange) (b : Bounds) (max : Nat), (s.enter c).1 = .delegated i d call →
    requestedBounds call.bounds changes = some b → b.max = some max → max < b.min → ∃ e,
      ((s.enter c).2.afterAll events).expectation? c.target.typeName i = some e ∧
      ((s.enter c).2.afterAll events).applyChanges i call changes =
        ((s.enter c).2.afterAll events).push
          (.misuse (.invalidBounds e.pattern.description b.min max))

theorem BoundsConsistent.keepsBounds (h : s.BoundsConsistent) : s.KeepsBounds where
  ordered T i e he := Bounds.consistent_iff_le.mp (h T i e he)
  capacity T i e he := Counter.hasCapacity_of_not_satisfied (h T i e he)
  rejects _ _ _ _ hd hb := closeRecord_of_contradicts hd hb
  names before after n d b max hn hbefore hd hb := by rw [hb.closeRecord hd hn hbefore after]
  drops _ _ _ _ events _ _ _ hc hb hmax hlt := applyChanges_of_contradictory hc events hb hmax hlt

/-- Whatever happened to a new session, in whatever order, its bounds are consistent, and
stay so. -/
theorem keepsBounds_of_events (config : Config) (events : List Event) :
    (({ config } : Session).afterAll events).KeepsBounds :=
  ((boundsConsistent_new config).afterAll events).keepsBounds

/-- Both sides of a draft reach the limit together if a block runs often enough. -/
example : ((({} : Session).afterAll
    [.declares "Door" ⟨.lenient, .total⟩,
      .closesRecord ⟨[(({ pattern := .nullary "Door" "knock" } : Draft).minTimes 2).maxTimes 3],
        Bounds.limit⟩]).bounds? "Door" 0) = some (.exactly Bounds.limit) := by
  decide +kernel

end Session

/-- The sessions of scenarios are among them, whatever their steps are. -/
theorem keepsBounds_of_steps (config : Config) (depth : Nat) (steps : List Step) :
    (carryOutAll (Scenario.start config depth) steps).2.session.KeepsBounds := by
  obtain ⟨events, hevents⟩ := (traces_steps (Scenario.start config depth) steps).leads
  rw [← hevents]
  exact ((Session.boundsConsistent_new config).afterAll events).keepsBounds

end Understudy

import Mathlib.Data.List.Forall2
import Understudy.Session.Record

/-!
# What a record block comes to

A draft is sound if it has one matcher for each parameter, its literals fit, and its bounds
do not contradict each other. `assembleDrafts_eq_ok_iff` says what the drafts of a block
become: each its own new expectation, provided that every one of them is sound. The first
one that is not stops the block, wherever it stands.

From there on only `Session.Becomes` is used: `mem_assemble` for all rounds of a block, and
`record_allOrNothing` for what recording does to a session.
-/

namespace Understudy

/-! ## Sound patterns -/

namespace Pattern

/-- Every literal fits the parameter in its place. -/
def LiteralsFit (types : List ValueType) (matchers : List Matcher) : Prop :=
  ∀ (i : Nat) (type : ValueType) (m : Matcher), types[i]? = some type → matchers[i]? = some m →
    ∀ v ∈ m.literals, type.admits v = true

theorem literalsFit_cons_iff {type : ValueType} {types : List ValueType} {m : Matcher}
    {ms : List Matcher} : LiteralsFit (type :: types) (m :: ms) ↔
      (∀ v ∈ m.literals, type.admits v = true) ∧ LiteralsFit types ms := by
  constructor
  · intro h
    refine ⟨h 0 type m rfl rfl, ?_⟩
    intro i
    exact h (i + 1)
  · rintro ⟨hhead, htail⟩ i
    cases i with
    | zero =>
      intro type' m' ht hm
      cases ht
      cases hm
      exact hhead
    | succ i => exact htail i

theorem misfit?_eq_none_iff : ∀ {types : List ValueType} {ms : List Matcher} {k : Nat},
    misfit? k types ms = none ↔ LiteralsFit types ms
  | [], ms, k => by
    refine ⟨fun _ i type m ht => ?_, fun _ => by rw [misfit?]; exact nofun⟩
    cases ht
  | type :: types, [], k => by
    refine ⟨fun _ i type m _ hm => ?_, fun _ => by rw [misfit?]; exact nofun⟩
    cases hm
  | type :: types, m :: ms, k => by
    rw [misfit?, literalsFit_cons_iff]
    cases hf : m.literals.find? fun v => !type.admits v with
    | some v =>
      have hbad := List.find?_some hf
      have hmem := List.mem_of_find?_eq_some hf
      refine ⟨nofun, fun h => ?_⟩
      rw [h.1 v hmem] at hbad
      cases hbad
    | none =>
      have hgood : ∀ v ∈ m.literals, type.admits v = true := by
        intro v hv
        simpa using List.find?_eq_none.mp hf v hv
      -- Only the index differs from here on, and it is told but never asked.
      rw [misfit?_eq_none_iff]
      exact ⟨fun h => ⟨hgood, h⟩, fun h => h.2⟩

/-- Nothing is wrong with a pattern of the right arity whose literals fit. -/
theorem check_eq_ok_iff {p : Pattern} : p.check = .ok () ↔
    p.args.length = p.signature.arity ∧ LiteralsFit p.signature.params p.args := by
  rw [← misfit?_eq_none_iff (k := 0)]
  unfold check
  dsimp only
  by_cases ha : p.signature.arity = p.args.length
  · rw [if_neg (not_not_intro ha)]
    cases misfit? 0 p.signature.params p.args with
    | none => simp [ha]
    | some fault => simp
  · rw [if_pos ha]
    refine ⟨nofun, fun h => absurd h.1.symm ha⟩

end Pattern

/-! ## Sound drafts -/

namespace Draft

/-- The bounds that a draft means in each round of its block. -/
def meant (d : Draft) (o : Options) : Bounds :=
  d.quantifier.resolve (defaultBounds (d.isOrdered o)) d.script.length

/-- Nothing is wrong with a draft for a type with the given options. -/
structure IsSound (o : Options) (d : Draft) : Prop where
  arity : d.pattern.args.length = d.pattern.signature.arity
  literals : Pattern.LiteralsFit d.pattern.signature.params d.pattern.args
  consistent : (d.meant o).consistent = true

/-- The new expectation that a sound draft stands for in a block of `n` iterations. -/
def recorded (d : Draft) (o : Options) (n : Nat) : Expectation :=
  { pattern := d.pattern
    script := d.script
    counter := ⟨if d.isOrdered o then d.meant o else (d.meant o).repeated n, 0⟩
    ordered := d.isOrdered o }

/-- The bounds that a draft means are taken if they are consistent. -/
theorem bounds_eq_ok_iff {d : Draft} {o : Options} {b : Bounds} :
    d.pattern.resolveBounds d.quantifier (defaultBounds (d.isOrdered o)) d.script.length = .ok b ↔
      (d.meant o).consistent = true ∧ b = d.meant o :=
  Pattern.resolveBounds_eq_ok_iff

theorem expectation_eq_ok_iff {d : Draft} {o : Options} {n : Nat} {e : Expectation} :
    d.expectation o n = .ok e ↔ d.IsSound o ∧ e = d.recorded o n := by
  unfold expectation
  -- The pattern is checked first, and its bounds only if nothing is wrong with it.
  cases hc : d.pattern.check with
  | error err =>
    constructor
    · intro h
      cases h
    · rintro ⟨hsound, -⟩
      have hok := Pattern.check_eq_ok_iff.mpr ⟨hsound.arity, hsound.literals⟩
      rw [hc] at hok
      cases hok
  | ok u =>
    obtain ⟨harity, hliterals⟩ := Pattern.check_eq_ok_iff.mp hc
    by_cases hb : (d.meant o).consistent = true
    · have hbounds := bounds_eq_ok_iff.mpr ⟨hb, rfl⟩
      simp only [hbounds]
      constructor
      · intro h
        exact ⟨⟨harity, hliterals, hb⟩, (Except.ok.inj h).symm⟩
      · rintro ⟨-, rfl⟩
        rfl
    · refine ⟨fun h => ?_, fun h => absurd h.1.consistent hb⟩
      cases hbounds : d.pattern.resolveBounds d.quantifier (defaultBounds (d.isOrdered o))
        d.script.length with
      | ok b => exact absurd (bounds_eq_ok_iff.mp hbounds).1 hb
      | error err =>
        simp only [hbounds] at h
        cases h

end Draft

/-! ## Whole blocks -/

namespace Session

variable {s : Session} {n : Nat}

/-- Whether a draft can be recorded: its type is declared, and nothing is wrong with it. -/
def Takes (s : Session) (d : Draft) : Prop :=
  ∃ t, s.table? d.pattern.target.typeName = some t ∧ d.IsSound t.options

/-- What becomes of a draft in a block of `n` iterations: a new expectation of its type. -/
def Becomes (s : Session) (n : Nat) (d : Draft) (p : String × Expectation) : Prop :=
  ∃ t, s.table? d.pattern.target.typeName = some t ∧ d.IsSound t.options ∧
    p = (d.pattern.target.typeName, d.recorded t.options n)

/-- The drafts of a block become expectations one by one, or not at all. -/
theorem assembleDrafts_eq_ok_iff : ∀ {ds : List Draft} {es : List (String × Expectation)},
    s.assembleDrafts n ds = .ok es ↔ List.Forall₂ (s.Becomes n) ds es
  | [], es => by
    rw [assembleDrafts, List.forall₂_nil_left_iff]
    exact ⟨fun h => (Except.ok.inj h).symm, fun h => h ▸ rfl⟩
  | d :: ds, es => by
    -- A first draft that cannot be recorded stops the block, whatever the others are.
    rw [assembleDrafts, List.forall₂_cons_left_iff]
    cases ht : s.table? d.pattern.target.typeName with
    | none =>
      refine ⟨nofun, ?_⟩
      rintro ⟨p, rest, ⟨t, ht', -⟩, -⟩
      rw [ht] at ht'
      cases ht'
    | some t =>
      dsimp only
      constructor
      · intro h
        cases he : d.expectation t.options n with
        | error err =>
          rw [he] at h
          cases h
        | ok e =>
          obtain ⟨hsound, hrec⟩ := Draft.expectation_eq_ok_iff.mp he
          rw [he] at h
          cases hr : s.assembleDrafts n ds with
          | error err =>
            rw [hr] at h
            cases h
          | ok rest =>
            rw [hr] at h
            cases h
            exact ⟨_, rest, ⟨t, ht, hsound, by rw [hrec]⟩, assembleDrafts_eq_ok_iff.mp hr, rfl⟩
      · rintro ⟨p, rest, ⟨t', ht', hsound, rfl⟩, hrest, rfl⟩
        rw [ht] at ht'
        cases ht'
        rw [Draft.expectation_eq_ok_iff.mpr ⟨hsound, rfl⟩, assembleDrafts_eq_ok_iff.mpr hrest]
        rfl

/-- Drafts that became expectations could be recorded. -/
theorem takes_of_becomes {ds : List Draft} {es : List (String × Expectation)}
    (h : List.Forall₂ (s.Becomes n) ds es) : ∀ d ∈ ds, s.Takes d := by
  induction h with
  | nil => exact fun _ => nofun
  | cons hd _ ih =>
    obtain ⟨t, ht, hsound, -⟩ := hd
    rw [List.forall_mem_cons]
    exact ⟨⟨t, ht, hsound⟩, ih⟩

/-- Drafts that can be recorded become expectations. -/
theorem exists_becomes {ds : List Draft} (h : ∀ d ∈ ds, s.Takes d) :
    ∃ es, List.Forall₂ (s.Becomes n) ds es := by
  induction ds with
  | nil => exact ⟨[], .nil⟩
  | cons d ds ih =>
    rw [List.forall_mem_cons] at h
    obtain ⟨t, ht, hsound⟩ := h.1
    obtain ⟨rest, hrest⟩ := ih h.2
    exact ⟨_, .cons ⟨t, ht, hsound, rfl⟩ hrest⟩

/-- Each of the expectations comes from one of the drafts. -/
theorem exists_draft {ds : List Draft} {es : List (String × Expectation)}
    (h : List.Forall₂ (s.Becomes n) ds es) : ∀ p ∈ es, ∃ d ∈ ds, s.Becomes n d p := by
  induction h with
  | nil => exact fun _ => nofun
  | cons hd _ ih =>
    rw [List.forall_mem_cons]
    refine ⟨⟨_, List.mem_cons_self .., hd⟩, ?_⟩
    intro p hp
    obtain ⟨d, hmem, hb⟩ := ih p hp
    exact ⟨d, List.mem_cons_of_mem _ hmem, hb⟩

variable {r : Recording} {es : List (String × Expectation)}

/-- The rounds of a block: the expectations of its drafts, and then the ordered ones again. -/
theorem assemble_eq_ok_iff : s.assemble r = .ok es ↔ r.iterations ≠ 0 ∧
    ∃ first, List.Forall₂ (s.Becomes r.iterations) r.drafts first ∧
      es = first ++ writtenOut (r.iterations - 1) (nextRound first) := by
  rw [assemble]
  by_cases hn : r.iterations = 0
  · rw [if_pos hn]
    exact ⟨nofun, fun h => absurd hn h.1⟩
  · rw [if_neg hn, and_iff_right hn]
    constructor
    · intro h
      cases hf : s.assembleDrafts r.iterations r.drafts with
      | error err =>
        rw [hf] at h
        cases h
      | ok first =>
        rw [hf] at h
        exact ⟨first, assembleDrafts_eq_ok_iff.mp hf, (Except.ok.inj h).symm⟩
    · rintro ⟨first, hfirst, rfl⟩
      rw [assembleDrafts_eq_ok_iff.mpr hfirst]
      rfl

/-- A block is assembled exactly if it runs at all and each of its drafts can be recorded. -/
theorem assemble_isOk_iff : (∃ es, s.assemble r = .ok es) ↔
    r.iterations ≠ 0 ∧ ∀ d ∈ r.drafts, s.Takes d := by
  simp only [assemble_eq_ok_iff]
  constructor
  · rintro ⟨es, hn, first, hfirst, -⟩
    exact ⟨hn, takes_of_becomes hfirst⟩
  · rintro ⟨hn, htakes⟩
    obtain ⟨first, hfirst⟩ := exists_becomes htakes
    exact ⟨_, hn, first, hfirst, rfl⟩

/-- An expectation that has answered nothing is the same once more. -/
theorem Becomes.again {d : Draft} {p : String × Expectation} (h : s.Becomes n d p) :
    s.Becomes n d (p.1, p.2.rearmed) := by
  obtain ⟨t, ht, hsound, rfl⟩ := h
  exact ⟨t, ht, hsound, rfl⟩

/-- What a draft becomes has answered nothing. -/
theorem Becomes.count_eq_zero {d : Draft} {p : String × Expectation} (h : s.Becomes n d p) :
    p.2.counter.count = 0 := by
  obtain ⟨t, -, -, rfl⟩ := h
  rfl

/-- In every round of a block there is nothing but what its drafts become. -/
theorem mem_assemble (h : s.assemble r = .ok es) :
    ∀ p ∈ es, ∃ d ∈ r.drafts, s.Becomes r.iterations d p := by
  obtain ⟨-, first, hfirst, rfl⟩ := assemble_eq_ok_iff.mp h
  have hround := exists_draft hfirst
  intro p hp
  rcases List.mem_append.mp hp with hin | hin
  · exact hround p hin
  · obtain ⟨q, hq, rfl⟩ := List.mem_map.mp (mem_of_mem_writtenOut hin)
    obtain ⟨d, hd, hb⟩ := hround q (List.mem_filter.mp hq).1
    exact ⟨d, hd, hb.again⟩

/-! ## Recording -/

theorem mem_ofType {T : String} {e : Expectation} : e ∈ ofType T es ↔ (T, e) ∈ es := by
  rw [ofType, List.mem_filterMap]
  constructor
  · rintro ⟨⟨T', e'⟩, hmem, heq⟩
    dsimp only at heq
    split at heq
    · next hT =>
      cases heq
      exact hT ▸ hmem
    · cases heq
  · intro h
    exact ⟨_, h, if_pos rfl⟩

/-- What closing a block does: all of its expectations are added, or there is only the phase that
changes. -/
theorem closeRecord_cases (s : Session) (r : Recording) :
    (∃ es, s.assemble r = .ok es ∧
      s.closeRecord r = (.ok (), (s.addExpectations es).inPhase .replaying)) ∨
    (∃ e, s.assemble r = .error e ∧ s.closeRecord r = (.error e, s.inPhase .replaying)) := by
  cases ha : s.assemble r with
  | ok es =>
    refine Or.inl ⟨es, rfl, ?_⟩
    rw [closeRecord, commit, ha]
    rfl
  | error e =>
    refine Or.inr ⟨e, rfl, ?_⟩
    rw [closeRecord, commit, ha]
    rfl

/-- A block is closed as soon as it is written, unless the session does not let it open. -/
theorem record_cases (s : Session) (r : Recording) :
    (s.IsOpen ∧ s.record r = (s.inPhase .recording).closeRecord r) ∨
    (¬ s.IsOpen ∧ ∃ e, s.record r = (.error e, s)) := by
  unfold record
  cases hb : s.beginRecord with
  | ok s' =>
    obtain ⟨ho, rfl⟩ := enterPhase_eq_ok_iff.mp hb
    exact Or.inl ⟨ho, rfl⟩
  | error e =>
    refine Or.inr ⟨fun ho => ?_, e, rfl⟩
    have hok : s.beginRecord = .ok (s.inPhase .recording) := enterPhase_eq_ok_iff.mpr ⟨ho, rfl⟩
    rw [hok] at hb
    cases hb

/-- Recording is all or nothing. A block is recorded exactly if the session is open, the block runs
at all, and each of its drafts can be recorded; otherwise every table stays as it was. A block
that is recorded adds to the end of a strict table, and nothing but new expectations. Either way
the log and the pending discrepancies stay as they were. -/
theorem record_allOrNothing (s : Session) (r : Recording) :
    ((s.record r).1 = .ok () ↔ s.IsOpen ∧ r.iterations ≠ 0 ∧ ∀ d ∈ r.drafts, s.Takes d) ∧
    (s.record r).2.log = s.log ∧ (s.record r).2.pending = s.pending ∧
    (∀ e, (s.record r).1 = .error e → (s.record r).2.tables = s.tables) ∧
    ((s.record r).1 = .ok () → ∀ T t, s.table? T = some t → t.options.strictness = .strict →
      ∃ new, (s.record r).2.table? T = some { t with expectations := t.expectations ++ new } ∧
        ∀ e ∈ new, ∃ d ∈ r.drafts, s.Becomes r.iterations d (T, e)) := by
  rcases record_cases s r with ⟨ho, hrecord⟩ | ⟨ho, e, hrefused⟩
  · -- Which drafts can be recorded does not depend on the phase.
    have hok : (∃ es, (s.inPhase .recording).assemble r = .ok es) ↔
      r.iterations ≠ 0 ∧ ∀ d ∈ r.drafts, s.Takes d := assemble_isOk_iff
    rw [hrecord, and_iff_right ho, ← hok]
    rcases closeRecord_cases (s.inPhase .recording) r with ⟨es, ha, hc⟩ | ⟨e, ha, hc⟩
    · rw [hc]
      refine ⟨⟨fun _ => ⟨es, ha⟩, fun _ => rfl⟩, rfl, rfl, nofun, ?_⟩
      intro _ T t ht hs
      have htable : ((s.inPhase .recording).addExpectations es).table? T =
          some (t.addAll (ofType T es)) := by
        rw [table?_addExpectations]
        exact congrArg (Option.map _) ht
      rw [Table.addAll, hs] at htable
      exact ⟨ofType T es, htable, fun e he => mem_assemble ha _ (mem_ofType.mp he)⟩
    · rw [hc]
      refine ⟨⟨nofun, fun h => ?_⟩, rfl, rfl, fun _ _ => rfl, nofun⟩
      rw [ha] at h
      obtain ⟨es, hes⟩ := h
      cases hes
  · -- A session that is not open refuses the block before it is looked at.
    rw [hrefused]
    exact ⟨⟨nofun, fun h => absurd h.1 ho⟩, rfl, rfl, fun _ _ => rfl, nofun⟩

end Session

end Understudy

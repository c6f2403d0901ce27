import Understudy.Proofs.Reporting
import Understudy.Proofs.Replay.Classification
import Understudy.Proofs.Replay.Event

/-!
# What a caller is told when nothing matches

If every expectation of a strict type rejects a call, the table is gone over once more to explain
why, and this time no slot is left out. What comes of the call is what comes of that report
(`Table.resolveStrict_of_rejected`).

The report may break down (`collectRejections_eq_error_iff`). If a matcher fails that plain
matching never came to, the caller is told of the failure in place of the report. If an
explanation panics, the caller gets the panic. Otherwise the report lists exactly the rejected
arguments (`Table.Lists`). That it lists any, provided that there is an expectation for the
method and the target, needs that patterns and calls have as many slots as the method has
parameters: the ones are checked when they are recorded (`Session.matchesArities_afterAll`), the
others when they are dispatched.
-/

namespace Understudy

variable {c : Invocation} {i : Nat} {e : Expectation} {es : List (Nat × Expectation)}
variable {b : Breakdown} {rs : Rejections}

/-- Nothing is found to cover a call if every expectation rejects it. -/
theorem findCoverage_eq_none_iff : ∀ {es : List (Nat × Expectation)}
    {first : Option (Nat × Expectation)},
    findCoverage c first es = .ok .none ↔
      first = none ∧ ∀ p ∈ es, p.2.pattern.accepts c = .ok false
  | [], first => by cases first <;> simp [findCoverage]
  | (i, e) :: es, first => by
    rw [List.forall_mem_cons]
    cases ha : e.pattern.accepts c with
    | error err => simp [findCoverage_error ha]
    | ok b =>
      cases b with
      | false => rw [findCoverage_rejecting ha, findCoverage_eq_none_iff]; simp
      | true =>
        cases hc : e.hasCapacity with
        | true => simp [findCoverage_answering ha hc]
        | false =>
          rw [findCoverage_spent ha hc, findCoverage_eq_none_iff]
          cases first <;> simp

/-! ## The report -/

/-- A pattern that is not for a call has nothing to report on it. -/
theorem collectRejections_cons : collectRejections c ((i, e) :: es) =
    (e.pattern.rejections c).bind fun here =>
      (collectRejections c es).map fun rest => here.map (i, ·) ++ rest := by
  rw [collectRejections]
  by_cases ht : e.pattern.targets c = true
  · rw [if_pos ht]
    cases e.pattern.rejections c with
    | error b => rfl
    | ok here => cases collectRejections c es <;> rfl
  · have hnone : e.pattern.rejections c = .ok [] := by
      rw [Pattern.rejections, if_neg fun h => ht (Bool.and_eq_true_iff.mp h).1]
    rw [if_neg ht, hnone]
    cases collectRejections c es <;> rfl

/-- The report on a call breaks down at the first pattern whose own report does. -/
theorem collectRejections_eq_error_iff : ∀ {es : List (Nat × Expectation)},
    collectRejections c es = .error b ↔
      ∃ (n : Nat) (p : Nat × Expectation), es[n]? = some p ∧ p.2.pattern.Breaks c b ∧
        ∀ m < n, ∀ q, es[m]? = some q → ∀ b', ¬ q.2.pattern.Breaks c b'
  | [] => by
    refine ⟨nofun, ?_⟩
    rintro ⟨n, p, hp, -⟩
    cases hp
  | (i, e) :: es => by
    rw [collectRejections_cons]
    cases hr : e.pattern.rejections c with
    | error b' =>
      have hbreaks := Pattern.rejections_eq_error_iff.mp hr
      constructor
      · intro h
        cases h
        exact ⟨0, (i, e), rfl, hbreaks, fun m hm => absurd hm (Nat.not_lt_zero m)⟩
      · rintro ⟨n, p, hp, hpb, hbefore⟩
        cases n with
        | zero =>
          cases hp
          cases hr.symm.trans (Pattern.rejections_eq_error_iff.mpr hpb)
          rfl
        | succ n => exact absurd hbreaks (hbefore 0 (Nat.succ_pos n) (i, e) rfl b')
    | ok here =>
      have hsound : ∀ b', ¬ e.pattern.Breaks c b' := by
        intro b' hb
        cases hr.symm.trans (Pattern.rejections_eq_error_iff.mpr hb)
      have hrest : (collectRejections c es).map (fun rest => here.map (i, ·) ++ rest) = .error b ↔
          collectRejections c es = .error b := by
        cases collectRejections c es <;> simp [Except.map]
      dsimp only [Except.bind]
      rw [hrest, collectRejections_eq_error_iff]
      -- The head is sound, so what breaks the report is one place further on.
      constructor
      · rintro ⟨n, p, hp, hpb, hbefore⟩
        refine ⟨n + 1, p, hp, hpb, fun m hm q hq => ?_⟩
        cases m with
        | zero =>
          cases hq
          exact hsound
        | succ m => exact hbefore m (Nat.lt_of_succ_lt_succ hm) q hq
      · rintro ⟨n, p, hp, hpb, hbefore⟩
        cases n with
        | zero =>
          cases hp
          exact absurd hpb (hsound b)
        | succ n =>
          exact ⟨n, p, hp, hpb, fun m hm => hbefore (m + 1) (Nat.succ_lt_succ hm)⟩

/-- A report begins with what the first pattern has to report. -/
theorem collectRejections_cons_eq_ok (h : collectRejections c ((i, e) :: es) = .ok rs) :
    ∃ here rest, e.pattern.rejections c = .ok here ∧ collectRejections c es = .ok rest ∧
      rs = here.map (i, ·) ++ rest := by
  rw [collectRejections_cons] at h
  cases hr : e.pattern.rejections c with
  | error b =>
    rw [hr] at h
    cases h
  | ok here =>
    rw [hr] at h
    cases hrest : collectRejections c es with
    | error b =>
      rw [hrest] at h
      cases h
    | ok rest =>
      rw [hrest] at h
      exact ⟨here, rest, rfl, rfl, (Except.ok.inj h).symm⟩

/-- A report needs one from every pattern. -/
theorem exists_rejections_of_collectRejections :
    ∀ {es : List (Nat × Expectation)} {rs : Rejections}, collectRejections c es = .ok rs →
      ∀ p ∈ es, ∃ here, p.2.pattern.rejections c = .ok here
  | [], rs, _ => nofun
  | (i, e) :: es, rs, h => by
    obtain ⟨here, rest, hhere, hrest, -⟩ := collectRejections_cons_eq_ok h
    exact List.forall_mem_cons.mpr ⟨⟨here, hhere⟩, exists_rejections_of_collectRejections hrest⟩

/-- It puts together what they have to report. -/
theorem mem_collectRejections_iff {r : Rejection} :
    ∀ {es : List (Nat × Expectation)} {rs : Rejections}, collectRejections c es = .ok rs →
      ((i, r) ∈ rs ↔ ∃ e here, (i, e) ∈ es ∧ e.pattern.rejections c = .ok here ∧ r ∈ here)
  | [], rs, h => by
    cases h
    refine ⟨nofun, ?_⟩
    rintro ⟨e, here, hmem, -⟩
    cases hmem
  | (j, d) :: es, rs, h => by
    obtain ⟨here, rest, hhere, hrest, rfl⟩ := collectRejections_cons_eq_ok h
    rw [List.mem_append, mem_collectRejections_iff hrest]
    -- Rejections of the head are marked with its index, and the others come from the rest.
    constructor
    · rintro (hin | ⟨e, here', hin, hr', hmem⟩)
      · obtain ⟨x, hx, heq⟩ := List.mem_map.mp hin
        cases heq
        exact ⟨d, here, List.mem_cons_self .., hhere, hx⟩
      · exact ⟨e, here', List.mem_cons_of_mem _ hin, hr', hmem⟩
    · rintro ⟨e, here', hin, hr', hmem⟩
      rcases List.mem_cons.mp hin with heq | hin
      · cases heq
        cases hhere.symm.trans hr'
        exact Or.inl (List.mem_map.mpr ⟨r, hmem, rfl⟩)
      · exact Or.inr ⟨e, here', hin, hr', hmem⟩

/-- The order of a report: first by the places of expectations, and then by those of arguments. -/
def Rejections.InOrder (rs : Rejections) : Prop :=
  rs.Pairwise fun a b => a.1 < b.1 ∨ (a.1 = b.1 ∧ a.2.argument < b.2.argument)

theorem collectRejections_inOrder : ∀ {es : List (Nat × Expectation)} {rs : Rejections},
    es.Pairwise (fun p q => p.1 < q.1) → collectRejections c es = .ok rs → rs.InOrder
  | [], rs, _, h => by
    cases h
    exact .nil
  | (i, e) :: es, rs, hes, h => by
    obtain ⟨hhead, htail⟩ := List.pairwise_cons.mp hes
    obtain ⟨here, rest, hhere, hrest, rfl⟩ := collectRejections_cons_eq_ok h
    refine List.pairwise_append.mpr ⟨?_, collectRejections_inOrder htail hrest, ?_⟩
    · refine List.pairwise_map.mpr ((Pattern.rejections_pairwise hhere).imp fun hlt => ?_)
      exact Or.inr ⟨rfl, hlt⟩
    · rintro a ha ⟨j, r⟩ hb
      obtain ⟨x, -, rfl⟩ := List.mem_map.mp ha
      obtain ⟨d, here', hd, -⟩ := (mem_collectRejections_iff hrest).mp hb
      exact Or.inl (hhead (j, d) hd)

/-! ## Tables -/

namespace Table

variable {t t' : Table}

theorem numbered_pairwise (t : Table) : t.numbered.Pairwise fun p q => p.1 < q.1 := by
  refine List.pairwise_map.mp ?_
  rw [numbered, List.map_map]
  show (t.expectations.zipIdx.map Prod.snd).Pairwise (· < ·)
  rw [List.zipIdx_map_snd]
  exact List.pairwise_lt_range'

/-- Every expectation rejects a call, and no matcher fails before it does. -/
def RejectsAll (t : Table) (c : Invocation) : Prop :=
  ∀ e ∈ t.expectations, e.pattern.accepts c = .ok false

theorem findCoverage_numbered_iff :
    findCoverage c none t.numbered = .ok .none ↔ t.RejectsAll c := by
  rw [findCoverage_eq_none_iff]
  constructor
  · rintro ⟨-, h⟩ e he
    obtain ⟨i, hi⟩ := List.mem_iff_getElem?.mp he
    exact h (i, e) (mem_numbered_iff.mpr hi)
  · intro h
    exact ⟨rfl, fun p hp => h p.2 (List.mem_of_getElem? (mem_numbered_iff.mp hp))⟩

/-- A call that is rejected everywhere is explained, unless the report breaks down. -/
theorem resolveStrict_of_rejected (h : t.RejectsAll c) : t.resolveStrict c =
    (collectRejections c t.numbered).map fun rs => (.unexpected (.noMatch rs), t) := by
  have hnone : ∀ e ∈ t.expectations, e.answers c = .ok false :=
    fun e he => Expectation.answers_eq_false_of_rejected (h e he)
  obtain ⟨turn, hturn, hno⟩ := findTurn_of_not_answers (k := t.position) fun e he _ =>
    hnone e (List.mem_of_mem_drop he)
  have hspare : findUnordered c 0 t.expectations = .ok none :=
    findUnordered_eq_none_iff.mpr fun e he _ => hnone e he
  rw [resolveStrict_of_not_answers hturn hno, hspare]
  dsimp only [Except.bind]
  rw [classify, findCoverage_numbered_iff.mpr h]
  cases collectRejections c t.numbered <;> rfl

/-- A call that is not answered is explained if it is rejected everywhere, and not otherwise; no
other reason for flagging it needs an explanation. -/
theorem classify_cases (t : Table) (c : Invocation) (blocker : Option Nat) :
    (t.RejectsAll c ∧ t.classify c blocker = (collectRejections c t.numbered).map .noMatch) ∨
    ((∀ rs, t.classify c blocker ≠ .ok (.noMatch rs)) ∧
      ∀ p, t.classify c blocker ≠ .error (.panicked p)) := by
  unfold classify
  cases hcov : findCoverage c none t.numbered with
  | error err => exact Or.inr ⟨fun _ => nofun, fun _ => nofun⟩
  | ok coverage =>
    cases coverage with
    | available i e => exact Or.inr ⟨fun _ => nofun, fun _ => nofun⟩
    | exhausted i e => exact Or.inr ⟨fun _ => nofun, fun _ => nofun⟩
    | none =>
      refine Or.inl ⟨findCoverage_numbered_iff.mp hcov, ?_⟩
      cases collectRejections c t.numbered <;> rfl

/-- Only a call that is rejected everywhere is explained. -/
theorem rejectsAll_of_resolveStrict
    (h : t.resolveStrict c = .ok (.unexpected (.noMatch rs), t')) :
    t.RejectsAll c ∧ collectRejections c t.numbered = .ok rs := by
  rcases resolveStrict_cases h with ⟨i, e, he, heq⟩ | ⟨i, e, he, heq⟩ | ⟨reason, hr, -, b, hb⟩
  · have hat : ({ t with cursor := some i } : Table).expectations[i]? = some e := he.place
    rw [answer_of_getElem? hat] at heq
    cases heq
  · rw [answer_of_getElem? he.place] at heq
    cases heq
  · cases hr
    -- Rejections are the reason only if every expectation rejects the call.
    rcases t.classify_cases c b with ⟨hrej, hreport⟩ | ⟨hno, -⟩
    · refine ⟨hrej, ?_⟩
      rw [hreport] at hb
      cases hrs : collectRejections c t.numbered with
      | error b' =>
        rw [hrs] at hb
        cases hb
      | ok rs' =>
        rw [hrs] at hb
        cases hb
        rfl
    · exact absurd hb (hno rs)

/-- A strict type is torn down over a call only while it looks for the reason to flag it. -/
theorem exists_classify_of_resolveStrict {p : Panic}
    (h : t.resolveStrict c = .error (.panicked p)) :
    ∃ blocker, t.classify c blocker = .error (.panicked p) := by
  -- Scans fail with errors of matchers and never panic, so it was the classification.
  cases hturn : findTurn c t.position (t.expectations.drop t.position) with
  | error err =>
    rw [resolveStrict_of_error hturn] at h
    cases h
  | ok turn =>
    by_cases hanswers : ∃ i, turn = .answers i
    · obtain ⟨i, rfl⟩ := hanswers
      obtain ⟨e, he⟩ := findTurn_position_iff.mp hturn
      rw [resolveStrict_of_isNext he] at h
      cases h
    · rw [resolveStrict_of_not_answers hturn (not_exists.mp hanswers)] at h
      cases hspare : findUnordered c 0 t.expectations with
      | error err =>
        rw [hspare] at h
        cases h
      | ok spare =>
        rw [hspare] at h
        cases spare with
        | some i => cases h
        | none =>
          refine ⟨turn.blocker?, ?_⟩
          cases hclass : t.classify c turn.blocker? with
          | error b =>
            dsimp only at h
            rw [hclass] at h
            cases h
            rfl
          | ok reason =>
            dsimp only at h
            rw [hclass] at h
            cases h

/-- What the report on a call breaks down by, at the first expectation where it does. -/
def Breaks (t : Table) (c : Invocation) (b : Breakdown) : Prop :=
  ∃ (i : Nat) (e : Expectation), t.expectations[i]? = some e ∧ e.pattern.Breaks c b ∧
    ∀ j < i, ∀ d, t.expectations[j]? = some d → ∀ b', ¬ d.pattern.Breaks c b'

theorem collectRejections_numbered_error_iff :
    collectRejections c t.numbered = .error b ↔ t.Breaks c b := by
  rw [collectRejections_eq_error_iff]
  constructor
  · rintro ⟨n, p, hp, hpb, hbefore⟩
    rw [getElem?_numbered] at hp
    obtain ⟨e, he, rfl⟩ := Option.map_eq_some_iff.mp hp
    refine ⟨n, e, he, hpb, fun j hj d hd => hbefore j hj (j, d) ?_⟩
    rw [getElem?_numbered, hd, Option.map_some]
  · rintro ⟨i, e, he, hpb, hbefore⟩
    refine ⟨i, (i, e), by rw [getElem?_numbered, he, Option.map_some], hpb, ?_⟩
    intro j hj q hq
    rw [getElem?_numbered] at hq
    obtain ⟨d, hd, rfl⟩ := Option.map_eq_some_iff.mp hq
    exact hbefore j hj d hd

/-- Resolving a call panics in one case: the type is strict, every expectation rejects the call, and
the report on it breaks down by an explanation that panics. -/
theorem resolve_eq_panicked_iff {p : Panic} : t.resolve c = .error (.panicked p) ↔
    t.options.strictness = .strict ∧ t.RejectsAll c ∧ t.Breaks c (.panicked p) := by
  rw [← collectRejections_numbered_error_iff]
  constructor
  · intro h
    cases hs : t.options.strictness with
    | lenient =>
      -- A lenient type explains nothing.
      rw [resolve, hs] at h
      dsimp only at h
      rw [resolveLenient] at h
      cases hcov : findCoverage c none t.candidates with
      | error err =>
        rw [hcov] at h
        cases h
      | ok coverage =>
        rw [hcov] at h
        cases coverage <;> cases h
    | strict =>
      rw [resolve, hs] at h
      dsimp only at h
      obtain ⟨blocker, hclass⟩ := exists_classify_of_resolveStrict h
      rcases t.classify_cases c blocker with ⟨hrej, hreport⟩ | ⟨-, hno⟩
      · refine ⟨rfl, hrej, ?_⟩
        rw [hreport] at hclass
        cases hrs : collectRejections c t.numbered with
        | error b =>
          rw [hrs] at hclass
          cases hclass
          rfl
        | ok rs =>
          rw [hrs] at hclass
          cases hclass
      · exact absurd hclass (hno p)
  · rintro ⟨hs, hrej, hreport⟩
    rw [resolve, hs]
    dsimp only
    rw [resolveStrict_of_rejected hrej, hreport]
    rfl

/-- The expectation at a place is for the target and the method of a call, and its matcher rejects
an argument and explains that, as the report says. -/
def RejectsAt (t : Table) (c : Invocation) (i : Nat) (r : Rejection) : Prop :=
  ∃ e m v explanation, t.expectations[i]? = some e ∧ e.pattern.targets c = true ∧
    e.pattern.args[r.argument]? = some m ∧ c.args[r.argument]? = some v ∧
    m.accepts v = .ok false ∧ m.explain v = .ok explanation ∧
    r = m.rejection r.argument v explanation

/-- A report on a call lists the rejected arguments: each of them once, in the order of the table
and then of the arguments, and nothing else. -/
structure Lists (t : Table) (c : Invocation) (rs : Rejections) : Prop where
  inOrder : rs.InOrder
  mem_iff : ∀ i r, (i, r) ∈ rs ↔ t.RejectsAt c i r
  eq_nil_iff : rs = [] ↔ ∀ e ∈ t.expectations, e.pattern.targets c = false

/-- A report lists the rejected arguments if all patterns for a call have as many slots as it has
arguments. -/
theorem lists_of_collectRejections
    (harity : ∀ e ∈ t.expectations, e.pattern.targets c = true →
      e.pattern.args.length = c.args.length)
    (hrej : t.RejectsAll c) (h : collectRejections c t.numbered = .ok rs) : t.Lists c rs := by
  have hmem : ∀ i r, (i, r) ∈ rs ↔ t.RejectsAt c i r := by
    intro i r
    rw [mem_collectRejections_iff h]
    constructor
    · rintro ⟨e, here, hin, hr, hmem⟩
      obtain ⟨htargets, -, j, m, v, explanation, hm, hv, ha, hx, rfl⟩ :=
        (Pattern.mem_rejections_iff hr).mp hmem
      rw [Nat.zero_add]
      exact ⟨e, m, v, explanation, mem_numbered_iff.mp hin, htargets, hm, hv, ha, hx, rfl⟩
    · rintro ⟨e, m, v, explanation, he, htargets, hm, hv, ha, hx, hr⟩
      have hin := mem_numbered_iff.mpr he
      obtain ⟨here, hhere⟩ := exists_rejections_of_collectRejections h (i, e) hin
      refine ⟨e, here, hin, hhere, (Pattern.mem_rejections_iff hhere).mpr ⟨htargets, ?_, ?_⟩⟩
      · exact harity e (List.mem_of_getElem? he) htargets
      · exact ⟨r.argument, m, v, explanation, hm, hv, ha, hx, by rw [Nat.zero_add]; exact hr⟩
  refine ⟨collectRejections_inOrder t.numbered_pairwise h, hmem, ?_⟩
  constructor
  · rintro rfl e he
    by_contra htargets
    rw [Bool.not_eq_false] at htargets
    obtain ⟨i, hi⟩ := List.mem_iff_getElem?.mp he
    have hin := mem_numbered_iff.mpr hi
    obtain ⟨here, hhere⟩ := exists_rejections_of_collectRejections h (i, e) hin
    -- An expectation for the call has something to report.
    cases here with
    | nil => exact Pattern.rejections_ne_nil htargets (harity e he htargets) (hrej e he) hhere
    | cons r rest =>
      have hr := (mem_collectRejections_iff h).mpr ⟨e, _, hin, hhere, List.mem_cons_self ..⟩
      cases hr
  · intro hnone
    refine List.eq_nil_iff_forall_not_mem.mpr ?_
    rintro ⟨i, r⟩ hin
    obtain ⟨e, m, v, explanation, he, htargets, -⟩ := (hmem i r).mp hin
    rw [hnone e (List.mem_of_getElem? he)] at htargets
    cases htargets

end Table

/-- A well-formed call has as many arguments as its method has parameters. -/
theorem Call.length_args_of_check {c : Call} (h : c.check = .ok ()) :
    c.args.length = c.signature.arity := by
  by_contra harity
  rw [check, if_pos harity] at h
  cases h

/-- So has a well-formed pattern that is for the method. -/
theorem Pattern.length_args_of_targets {p : Pattern} (hp : p.args.length = p.signature.arity)
    (hc : c.check = .ok ()) (htargets : p.targets c = true) : p.args.length = c.args.length := by
  have hsame := (Bool.and_eq_true_iff.mp htargets).2
  rw [hp, Call.length_args_of_check hc, Signature.arity, Signature.arity,
    (Signature.sameMethod_iff.mp hsame).2]

namespace Session

variable {s : Session} {c : Call} {T : String} {t : Table} {depth : Nat}

/-! ## Recorded patterns -/

/-- Every recorded pattern has one matcher for each parameter. -/
def MatchesArities (s : Session) : Prop :=
  ∀ T i e, s.expectation? T i = some e → e.pattern.args.length = e.pattern.signature.arity

theorem MatchesArities.after (h : s.MatchesArities) (v : Event) : (s.after v).MatchesArities := by
  intro T i e' he'
  rcases source_after he' with ⟨e, he, hpattern, -⟩ | ⟨r, -, d, -, ⟨t, hsound⟩, hpattern, -⟩
  · rw [hpattern]
    exact h T i e he
  · rw [hpattern]
    exact hsound.arity

theorem matchesArities_afterAll (config : Config) (events : List Event) :
    (({ config } : Session).afterAll events).MatchesArities := by
  have hrun {s : Session} (h : s.MatchesArities) : (s.afterAll events).MatchesArities := by
    induction events generalizing s with
    | nil => exact h
    | cons v vs ih => exact ih (h.after v)
  refine hrun ?_
  intro T i e he
  cases he

/-! ## Dispatched calls -/

/-- A call that everything rejects is explained to its caller, or what the report breaks down by
comes to the caller instead. -/
theorem dispatch_of_rejected (ho : s.IsOpen) (ht : s.table? c.target.typeName = some t)
    (hs : t.options.strictness = .strict) (hc : c.check = .ok ())
    (hrej : t.RejectsAll (s.logCall c).1) :
    (s.dispatch depth c).1 = match collectRejections (s.logCall c).1 t.numbered with
      | .ok rs => .ok (.ok (.unexpected (.unexpected (s.logCall c).1 (.noMatch rs))))
      | .error (.failed err) => .ok (.error (.matcherEvaluation err))
      | .error (.panicked p) => .error p := by
  have hres : t.resolve (s.logCall c).1 =
      (collectRejections (s.logCall c).1 t.numbered).map fun rs =>
        (.unexpected (.noMatch rs), t) := by
    rw [Table.resolve, hs]
    exact Table.resolveStrict_of_rejected hrej
  have henter := enter_of_wellFormed ho ht hc
  -- No delegate is asked, so the call is settled or torn down when it enters.
  cases hr : collectRejections (s.logCall c).1 t.numbered with
  | ok rs =>
    rw [hr] at hres
    rw [resolve_of_ok (s := s.inPhase .replaying) hres] at henter
    rw [dispatch_of_settled (congrArg Prod.fst henter)]
    rfl
  | error b =>
    rw [hr] at hres
    cases b with
    | failed err =>
      rw [resolve_of_failed (s := s.inPhase .replaying) hres] at henter
      rw [dispatch_of_settled (congrArg Prod.fst henter)]
    | panicked p =>
      rw [resolve_of_panicked (s := s.inPhase .replaying) hres] at henter
      rw [dispatch_of_torn (congrArg Prod.fst henter)]

/-- A call is torn down when it enters in one case: it is let in and well formed, its type is
strict, every expectation rejects it, and an explanation of that panics. -/
theorem isTorn_enter_iff : (s.enter c).1.isTorn = true ↔ s.IsOpen ∧ c.check = .ok () ∧
    ∃ t p, s.table? c.target.typeName = some t ∧ t.options.strictness = .strict ∧
      t.RejectsAll (s.logCall c).1 ∧ t.Breaks (s.logCall c).1 (.panicked p) := by
  constructor
  · intro h
    -- A call that does not get to a table is settled.
    rcases enter_cases s c with ⟨-, reply, -, henter⟩ | ⟨-, reply, -, henter⟩ | ⟨ho, hc, hcall⟩
    · rw [henter] at h
      cases h
    · rw [henter] at h
      cases h
    · refine ⟨ho, hc, ?_⟩
      obtain ⟨t, ht, henter⟩ := Option.map_eq_some_iff.mp hcall
      rw [← henter] at h
      obtain ⟨p, hp⟩ := (resolve_isTorn_iff (s := s.inPhase .replaying)).mp h
      exact ⟨t, p, ht, Table.resolve_eq_panicked_iff.mp hp⟩
  · rintro ⟨ho, hc, t, p, ht, htorn⟩
    rw [enter_of_wellFormed ho ht hc,
      resolve_of_panicked (s := s.inPhase .replaying) (Table.resolve_eq_panicked_iff.mpr htorn)]
    rfl

/-- No delegate flags the call that it answers, so a call that is flagged was settled. -/
theorem settled_of_dispatch_unexpected {m : Mismatch}
    (h : (s.dispatch depth c).1 = .ok (.ok (.unexpected m))) :
    (s.enter c).1 = .settled (.ok (.unexpected m)) := by
  obtain ⟨nested, hd⟩ := exists_dispatchWith s depth c
  rw [hd, dispatchWith] at h
  split at h
  · next reply s' hent =>
    cases h
    rw [hent]
  · cases h
  · next i d call s' hent =>
    split at h
    · next changes outcome s'' hf => cases outcome <;> cases h
    · cases h

/-- A caller is told that a call is unexpected only if its table says so. -/
theorem resolve_of_dispatch_unexpected {m : Mismatch} (ht : s.table? c.target.typeName = some t)
    (h : (s.dispatch depth c).1 = .ok (.ok (.unexpected m))) :
    c.check = .ok () ∧ ∃ reason t', m = .unexpected (s.logCall c).1 reason ∧
      t.resolve (s.logCall c).1 = .ok (.unexpected reason, t') := by
  have hent := settled_of_dispatch_unexpected h
  by_cases ho : s.IsOpen
  · cases hc : c.check with
    | error err =>
      rw [enter_of_isOpen ho, ht, hc] at hent
      cases hent
    | ok u =>
      rw [enter_of_wellFormed ho ht hc] at hent
      exact ⟨rfl, resolve_eq_unexpected (s := s.inPhase .replaying) hent⟩
  · obtain ⟨e, -, -, henter⟩ := enter_of_not_isOpen (c := c) ho
    rw [henter] at hent
    cases hent

/-- Reporting makes a difference only if plain matching rejects a call and the report on it breaks
down. If that is by a matcher that fails, which plain matching never came to, then matching
with a report ends in the failure. So a call that plain matching rejects on every expectation
of a strict type is flagged for matching nothing, unless the report breaks down; and if it does
so by a matcher that fails, the caller is told of that. -/
theorem reporting_meets_failures :
    (∀ (p : Pattern) (i : Invocation),
      (p.matched false i = .ok false → ∀ err, p.Breaks i (.failed err) →
        p.matched true i = .error (.failed err)) ∧
      ((p.matched false i = .ok false → ∀ b, ¬ p.Breaks i b) →
        p.matched true i = p.matched false i)) ∧
    ∀ (s : Session) (depth : Nat) (c : Call) (t : Table), s.IsOpen →
      s.table? c.target.typeName = some t → t.options.strictness = .strict → c.check = .ok () →
      (∀ e ∈ t.expectations, e.pattern.matched false (s.logCall c).1 = .ok false) →
      (∀ err, t.Breaks (s.logCall c).1 (.failed err) →
        (s.dispatch depth c).1 = .ok (.error (.matcherEvaluation err))) ∧
      ((∀ e ∈ t.expectations, ∀ b, ¬ e.pattern.Breaks (s.logCall c).1 b) →
        ∃ rs, (s.dispatch depth c).1 =
          .ok (.ok (.unexpected (.unexpected (s.logCall c).1 (.noMatch rs))))) := by
  refine ⟨fun p i => ⟨fun hrej err => Pattern.matched_of_breaks hrej,
    Pattern.matched_of_not_breaks⟩, ?_⟩
  intro s depth c t ho ht hs hc hplain
  have hrej : t.RejectsAll (s.logCall c).1 := fun e he =>
    Pattern.matched_plain_eq_ok_iff.mp (hplain e he)
  rw [dispatch_of_rejected ho ht hs hc hrej]
  constructor
  · intro err hbreaks
    rw [Table.collectRejections_numbered_error_iff.mpr hbreaks]
  · intro hsound
    cases hr : collectRejections (s.logCall c).1 t.numbered with
    | ok rs => exact ⟨rs, rfl⟩
    | error b =>
      obtain ⟨i, e, he, hbreaks, -⟩ := Table.collectRejections_numbered_error_iff.mp hr
      exact absurd hbreaks (hsound e (List.mem_of_getElem? he) b)

/-- A meter is set to 1, and its second argument is read by something that fails. -/
def meterPattern : Pattern :=
  ⟨⟨"Meter", none⟩, ⟨"set", [.int .i32, .int .i32], .unit⟩,
    [.exact (.int .i32 1), .predicate
      { key := 0
        description := "<predicate>"
        holds := fun _ => .error (.raised "negative reading") }], "here"⟩

/-- The table with that pattern alone. -/
def meterTable : Table :=
  { options := ⟨.strict, .total⟩
    expectations := [⟨meterPattern, [], ⟨.exactly 1, 0⟩, true, none⟩] }

/-- A session with the meter. -/
def withMeter : Session := { tables := [("Meter", meterTable)] }

/-- A call that sets the meter to 2. -/
def meterCall : Call :=
  ⟨⟨"Meter", none⟩, ⟨"set", [.int .i32, .int .i32], .unit⟩, [.int .i32 2, .int .i32 (-1)], .home⟩

/-- What becomes of the second argument. -/
def meterError : MatcherError := ⟨"<predicate>", (Value.int .i32 (-1)).text, "negative reading"⟩

theorem reporting_meets_failures_meter :
    meterPattern.matched true ⟨meterCall, 0⟩ = .error (.failed meterError) ∧
    (withMeter.dispatch 0 meterCall).1 = .ok (.error (.matcherEvaluation meterError)) := by
  have hrej : ∀ e ∈ meterTable.expectations,
      e.pattern.matched false (withMeter.logCall meterCall).1 = .ok false := by
    intro e he
    obtain rfl := List.mem_singleton.mp he
    rfl
  -- The first matcher explains that it rejects, and the second one fails.
  have hslot : BreaksAt meterPattern.args meterCall.args 1 (.failed meterError) :=
    breaksAt_succ_iff.mpr ⟨Or.inr ⟨rfl, none, rfl⟩, breaksAt_zero_iff.mpr rfl⟩
  have hbreaks : meterTable.Breaks (withMeter.logCall meterCall).1 (.failed meterError) :=
    ⟨0, _, rfl, ⟨rfl, rfl, 1, hslot⟩, nofun⟩
  obtain ⟨hmatched, hdispatch⟩ := reporting_meets_failures
  exact ⟨(hmatched meterPattern ⟨meterCall, 0⟩).1 rfl meterError ⟨rfl, rfl, 1, hslot⟩,
    (hdispatch withMeter 0 meterCall meterTable (by decide) rfl rfl rfl hrej).1 meterError hbreaks⟩

/-- Plain matching rejects the first argument of the call, matching with a report goes on to the
second one, and the caller is told of a failure instead of a call that matches nothing. -/
theorem matched_meter : meterPattern.matched false ⟨meterCall, 0⟩ = .ok false ∧
    meterPattern.matched true ⟨meterCall, 0⟩ = .error (.failed meterError) ∧
    withMeter.IsOpen ∧ withMeter.table? meterCall.target.typeName = some meterTable ∧
    meterTable.options.strictness = .strict ∧ meterCall.check = .ok () ∧
    (∀ e ∈ meterTable.expectations,
      e.pattern.matched false (withMeter.logCall meterCall).1 = .ok false) ∧
    ¬ ∃ rs, (withMeter.dispatch 0 meterCall).1 =
      .ok (.ok (.unexpected (.unexpected (withMeter.logCall meterCall).1 (.noMatch rs)))) := by
  refine ⟨rfl, rfl, by decide, rfl, rfl, rfl, ?_, ?_⟩
  · intro e he
    obtain rfl := List.mem_singleton.mp he
    rfl
  · rintro ⟨rs, h⟩
    have hfailed : (withMeter.dispatch 0 meterCall).1 =
        .ok (.error (.matcherEvaluation meterError)) := rfl
    cases hfailed.symm.trans h

/-- If a call on a strict type is flagged for matching nothing, the report lists the arguments that
are rejected by the expectations for its method and target, whatever has happened before. A
call is flagged so if it is well formed, nothing accepts it, no matcher fails and no explanation
panics. -/
theorem noMatch_lists {config : Config} {events : List Event}
    (hs : ({ config } : Session).afterAll events = s) (ht : s.table? c.target.typeName = some t)
    (hstrict : t.options.strictness = .strict) :
    (∀ depth i rs, (s.dispatch depth c).1 = .ok (.ok (.unexpected (.unexpected i (.noMatch rs)))) →
      i = (s.logCall c).1 ∧ t.Lists i rs) ∧
    (s.IsOpen → c.check = .ok () →
      (∀ e ∈ t.expectations, e.pattern.FaultlessOn (s.logCall c).1 ∧
        e.pattern.accepts (s.logCall c).1 ≠ .ok true) →
      ∀ depth, ∃ rs, (s.dispatch depth c).1 =
        .ok (.ok (.unexpected (.unexpected (s.logCall c).1 (.noMatch rs))))) := by
  constructor
  · intro depth i rs h
    obtain ⟨hc, reason, t', hm, hres⟩ := resolve_of_dispatch_unexpected ht h
    cases hm
    rw [Table.resolve, hstrict] at hres
    obtain ⟨hrej, hcollect⟩ := Table.rejectsAll_of_resolveStrict hres
    refine ⟨rfl, Table.lists_of_collectRejections (fun e he htargets => ?_) hrej hcollect⟩
    obtain ⟨j, hj⟩ := List.mem_iff_getElem?.mp he
    -- What is recorded has the arity of its method, and so has a call that is well formed.
    have harities : s.MatchesArities := hs ▸ matchesArities_afterAll config events
    exact Pattern.length_args_of_targets (harities _ j e ((expectation?_of_table? ht).trans hj)) hc
      htargets
  · intro ho hc hall depth
    have hrej : t.RejectsAll (s.logCall c).1 := by
      intro e he
      obtain ⟨hfault, hno⟩ := hall e he
      obtain ⟨b, hb⟩ := hfault.accepts
      cases b with
      | false => exact hb
      | true => exact absurd hb hno
    obtain ⟨rs, hrs⟩ := collectRejections_of_faultless fun p hp =>
      (hall p.2 (List.mem_of_getElem? (Table.mem_numbered_iff.mp hp))).1
    rw [dispatch_of_rejected ho ht hstrict hc hrej, hrs]
    exact ⟨rs, rfl⟩

/-- A meter is to be set to 1 and something from 3 to 5, and to 2 and 9. -/
def twoReadings : List Event :=
  let set := fun args : List Matcher =>
    ({ pattern := { meterPattern with args } } : Draft)
  [.declares "Meter" ⟨.strict, .total⟩,
    .closesRecord
      { drafts := [set [.exact (.int .i32 1), .range (.int .i32 3) (.int .i32 5)],
          set [.exact (.int .i32 2), .exact (.int .i32 9)]] }]

/-- It is set to 2 and -1. -/
theorem noMatch_lists_twoReadings : ∃ t,
    (({} : Session).afterAll twoReadings).table? "Meter" = some t ∧
    t.Lists ((({} : Session).afterAll twoReadings).logCall meterCall).1
      [(0, (Matcher.exact (.int .i32 1)).rejection 0 (.int .i32 2) none),
        (0, (Matcher.range (.int .i32 3) (.int .i32 5)).rejection 1 (.int .i32 (-1)) none),
        (1, (Matcher.exact (.int .i32 9)).rejection 1 (.int .i32 (-1)) none)] := by
  obtain ⟨t, ht⟩ : ∃ t, (({} : Session).afterAll twoReadings).table? "Meter" = some t := ⟨_, rfl⟩
  have hstrict : t.options.strictness = .strict := by
    cases ht
    rfl
  exact ⟨t, ht, ((noMatch_lists (s := ({} : Session).afterAll twoReadings) (c := meterCall) rfl ht
    hstrict).1 0 _ _ rfl).2⟩

end Session

end Understudy

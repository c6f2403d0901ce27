import Understudy.Proofs.Matching

/-!
# Matching with and without a report

A pattern examines the arguments of a call slot by slot. Without a report it stops at the first
slot that rejects its argument; with one it has the rejection explained and goes on to the last,
to report every slot that does. `Pattern.examine` is this one loop, and `Pattern.accepts` and
`Pattern.rejections` are its two uses (`matched_plain`, `examine_reporting`).

Explaining and going on is what makes a difference: the report breaks down at an explanation that
panics, or at a matcher that fails (`matched_reporting`). `Pattern.Breaks` says which of them is
met first. What a report lists, if there is one, is said by `mem_rejections_iff`.
-/

namespace Understudy

/-- Examines slots one after another, the first having the given index: whether all of them accept
their arguments, and what is to be reported. -/
def examineEach (reporting : Bool) (index : Nat) :
    List Matcher → List Value → Except Breakdown (Bool × List Rejection)
  | m :: ms, v :: vs => do
    if ← m.accepts v then examineEach reporting (index + 1) ms vs
    else if reporting then
      let explanation ← m.explain v
      let (_, rest) ← examineEach reporting (index + 1) ms vs
      return (false, m.rejection index v explanation :: rest)
    else return (false, [])
  | _, _ => .ok (true, [])

/-- Examines a call, whose arguments matter only if the pattern is for its target and method. -/
def Pattern.examine (reporting : Bool) (p : Pattern) (c : Invocation) :
    Except Breakdown (Bool × List Rejection) :=
  if p.targets c && p.args.length = c.args.length then examineEach reporting 0 p.args c.args
  else .ok (false, [])

/-- Whether a pattern matches a call, when there is a report or when there is none. -/
def Pattern.matched (reporting : Bool) (p : Pattern) (c : Invocation) : Except Breakdown Bool :=
  (p.examine reporting c).map Prod.fst

/-- What a report breaks down by at one slot: the matcher fails on the argument, or rejects it and
panics when it is to explain that. -/
def Matcher.BreaksBy (m : Matcher) (v : Value) : Breakdown → Prop
  | .failed err => m.accepts v = .error err
  | .panicked p => m.accepts v = .ok false ∧ m.explain v = .error p

/-- A slot is the first at which a report breaks down. -/
structure BreaksAt (ms : List Matcher) (vs : List Value) (slot : Nat) (b : Breakdown) : Prop where
  breaks : ∃ m v, ms[slot]? = some m ∧ vs[slot]? = some v ∧ m.BreaksBy v b
  before : ∀ j < slot, ∀ m v, ms[j]? = some m → vs[j]? = some v → m.FaultlessOn v

/-- A report on a call breaks down, which takes a pattern for its target and method. -/
structure Pattern.Breaks (p : Pattern) (c : Invocation) (b : Breakdown) : Prop where
  targets : p.targets c = true
  arity : p.args.length = c.args.length
  slot : ∃ slot, BreaksAt p.args c.args slot b

/-! ## Slots -/

section Slots

variable {m : Matcher} {ms : List Matcher} {v : Value} {vs : List Value} {k : Nat}
variable {err : MatcherError} {b : Breakdown} {rs : List Rejection}

/-- There are four things a report can do at a slot: it passes over it, lists it, or breaks down
there in one of two ways. -/
theorem Matcher.report_cases (m : Matcher) (v : Value) :
    m.accepts v = .ok true ∨
    (∃ explanation, m.accepts v = .ok false ∧ m.explain v = .ok explanation) ∨
    (∃ err, m.accepts v = .error err) ∨ ∃ p, m.accepts v = .ok false ∧ m.explain v = .error p := by
  cases m.accepts v with
  | error err => exact Or.inr (Or.inr (Or.inl ⟨err, rfl⟩))
  | ok accepted =>
    cases accepted with
    | true => exact Or.inl rfl
    | false =>
      cases m.explain v with
      | ok explanation => exact Or.inr (Or.inl ⟨explanation, rfl, rfl⟩)
      | error p => exact Or.inr (Or.inr (Or.inr ⟨p, rfl, rfl⟩))

theorem acceptsEach_error (ha : m.accepts v = .error err) :
    acceptsEach (m :: ms) (v :: vs) = .error err := by
  rw [acceptsEach, ha]
  rfl

theorem acceptsEach_accepting (ha : m.accepts v = .ok true) :
    acceptsEach (m :: ms) (v :: vs) = acceptsEach ms vs := by
  rw [acceptsEach, ha]
  rfl

theorem acceptsEach_rejecting (ha : m.accepts v = .ok false) :
    acceptsEach (m :: ms) (v :: vs) = .ok false := by
  rw [acceptsEach, ha]
  rfl

/-- Without a report, examining slots is asking whether each accepts. -/
theorem examineEach_plain : ∀ (ms : List Matcher) (vs : List Value) (k : Nat),
    (examineEach false k ms vs).map Prod.fst = (acceptsEach ms vs).mapError .failed
  | [], _, _ => by rw [examineEach.eq_def, acceptsEach.eq_def]; rfl
  | _ :: _, [], _ => rfl
  | m :: ms, v :: vs, k => by
    rw [examineEach]
    cases ha : m.accepts v with
    | error err => rw [acceptsEach_error ha]; rfl
    | ok accepted =>
      cases accepted with
      | true => rw [acceptsEach_accepting ha]; exact examineEach_plain ms vs (k + 1)
      | false => rw [acceptsEach_rejecting ha]; rfl

/-- With a report, a call is matched if there is nothing to report. -/
theorem examineEach_reporting : ∀ (ms : List Matcher) (vs : List Value) (k : Nat),
    examineEach true k ms vs = (rejectionsFrom k ms vs).map fun rs => (rs.isEmpty, rs)
  | [], _, _ => by rw [examineEach.eq_def, rejectionsFrom.eq_def]; rfl
  | _ :: _, [], _ => rfl
  | m :: ms, v :: vs, k => by
    rw [examineEach]
    rcases m.report_cases v with ha | ⟨explanation, ha, he⟩ | ⟨err, ha⟩ | ⟨p, ha, he⟩
    · rw [rejectionsFrom_accepting ha, ha]
      exact examineEach_reporting ms vs (k + 1)
    · rw [rejectionsFrom_rejecting ha he, ha, he, examineEach_reporting ms vs (k + 1)]
      cases rejectionsFrom (k + 1) ms vs <;> rfl
    · rw [rejectionsFrom_failing ha, ha]
      rfl
    · rw [rejectionsFrom_panicking ha he, ha, he]
      rfl

/-- Both ways to ask agree as long as no slot rejects. -/
theorem acceptsEach_cases : ∀ (ms : List Matcher) (vs : List Value) (k : Nat),
    (acceptsEach ms vs = .ok true ∧ rejectionsFrom k ms vs = .ok []) ∨
    (∃ err, acceptsEach ms vs = .error err ∧ rejectionsFrom k ms vs = .error (.failed err)) ∨
    (acceptsEach ms vs = .ok false ∧ rejectionsFrom k ms vs ≠ .ok [])
  | [], _, _ => by
    left
    rw [acceptsEach.eq_def, rejectionsFrom.eq_def]
    exact ⟨rfl, rfl⟩
  | _ :: _, [], _ => Or.inl ⟨rfl, rfl⟩
  | m :: ms, v :: vs, k => by
    rcases m.report_cases v with ha | ⟨explanation, ha, he⟩ | ⟨err, ha⟩ | ⟨p, ha, he⟩
    · rw [acceptsEach_accepting ha, rejectionsFrom_accepting ha]
      exact acceptsEach_cases ms vs (k + 1)
    · refine Or.inr (Or.inr ⟨acceptsEach_rejecting ha, ?_⟩)
      rw [rejectionsFrom_rejecting ha he]
      cases rejectionsFrom (k + 1) ms vs <;> (intro h; cases h)
    · exact Or.inr (Or.inl ⟨err, acceptsEach_error ha, rejectionsFrom_failing ha⟩)
    · refine Or.inr (Or.inr ⟨acceptsEach_rejecting ha, ?_⟩)
      rw [rejectionsFrom_panicking ha he]
      intro h
      cases h

/-- A report either breaks down at a slot or gets past it. -/
theorem Matcher.not_breaksBy (h : m.FaultlessOn v) : ¬ m.BreaksBy v b := by
  intro hb
  cases b with
  | failed err =>
    have ha : m.accepts v = .error err := hb
    rcases h with h | ⟨h, -⟩
    · cases h.symm.trans ha
    · cases h.symm.trans ha
  | panicked p =>
    obtain ⟨ha, he⟩ := hb
    rcases h with h | ⟨-, explanation, h⟩
    · cases h.symm.trans ha
    · cases h.symm.trans he

theorem breaksAt_zero_iff : BreaksAt (m :: ms) (v :: vs) 0 b ↔ m.BreaksBy v b := by
  constructor
  · rintro ⟨⟨m', v', hm, hv, hb⟩, -⟩
    cases hm
    cases hv
    exact hb
  · intro hb
    exact ⟨⟨m, v, rfl, rfl, hb⟩, fun j hj => absurd hj (Nat.not_lt_zero j)⟩

theorem breaksAt_succ_iff {slot : Nat} : BreaksAt (m :: ms) (v :: vs) (slot + 1) b ↔
    m.FaultlessOn v ∧ BreaksAt ms vs slot b := by
  constructor
  · intro h
    refine ⟨h.before 0 (Nat.succ_pos slot) m v rfl rfl, h.breaks, ?_⟩
    intro j hj
    exact h.before (j + 1) (Nat.succ_lt_succ hj)
  · rintro ⟨hhead, h⟩
    refine ⟨h.breaks, fun j hj m' v' hm hv => ?_⟩
    cases j with
    | zero =>
      cases hm
      cases hv
      exact hhead
    | succ j => exact h.before j (Nat.lt_of_succ_lt_succ hj) m' v' hm hv

/-- The first slot at which a report breaks down is the head, or one behind a head that it gets
past. -/
theorem exists_breaksAt_cons_iff : (∃ slot, BreaksAt (m :: ms) (v :: vs) slot b) ↔
    m.BreaksBy v b ∨ m.FaultlessOn v ∧ ∃ slot, BreaksAt ms vs slot b := by
  constructor
  · rintro ⟨slot, h⟩
    cases slot with
    | zero => exact Or.inl (breaksAt_zero_iff.mp h)
    | succ slot =>
      obtain ⟨hhead, htail⟩ := breaksAt_succ_iff.mp h
      exact Or.inr ⟨hhead, slot, htail⟩
  · rintro (hb | ⟨hhead, slot, htail⟩)
    · exact ⟨0, breaksAt_zero_iff.mpr hb⟩
    · exact ⟨slot + 1, breaksAt_succ_iff.mpr ⟨hhead, htail⟩⟩

/-- A report breaks down by what is met at the first slot where it can. -/
theorem rejectionsFrom_eq_error_iff : ∀ {ms : List Matcher} {vs : List Value} {k : Nat},
    rejectionsFrom k ms vs = .error b ↔ ∃ slot, BreaksAt ms vs slot b
  | [], vs, k => by
    rw [rejectionsFrom.eq_def]
    refine ⟨fun h => (by cases h), ?_⟩
    rintro ⟨slot, ⟨m, v, hm, -⟩, -⟩
    cases hm
  | m :: ms, [], k => by
    refine ⟨fun h => (by cases h), ?_⟩
    rintro ⟨slot, ⟨m, v, -, hv, -⟩, -⟩
    cases hv
  | m :: ms, v :: vs, k => by
    rw [exists_breaksAt_cons_iff, ← rejectionsFrom_eq_error_iff (k := k + 1)]
    rcases m.report_cases v with ha | ⟨explanation, ha, he⟩ | ⟨err, ha⟩ | ⟨p, ha, he⟩
    · have hpast : m.FaultlessOn v := Or.inl ha
      rw [rejectionsFrom_accepting ha, or_iff_right (Matcher.not_breaksBy hpast),
        and_iff_right hpast]
    · have hpast : m.FaultlessOn v := Or.inr ⟨ha, explanation, he⟩
      rw [rejectionsFrom_rejecting ha he, or_iff_right (Matcher.not_breaksBy hpast),
        and_iff_right hpast]
      cases rejectionsFrom (k + 1) ms vs <;> simp [Except.map]
    · -- The matcher fails, so it is faultless in neither of the two ways.
      rw [rejectionsFrom_failing ha]
      cases b <;> simp [Matcher.BreaksBy, Matcher.FaultlessOn, ha]
    · rw [rejectionsFrom_panicking ha he]
      cases b <;> simp [Matcher.BreaksBy, Matcher.FaultlessOn, ha, he]

/-- The report on a slot that rejects its argument, the first slot having index `k`. -/
def ReportsSlot (k : Nat) (ms : List Matcher) (vs : List Value) (r : Rejection) : Prop :=
  ∃ (j : Nat) (m : Matcher) (v : Value) (explanation : Option String), ms[j]? = some m ∧
    vs[j]? = some v ∧ m.accepts v = .ok false ∧ m.explain v = .ok explanation ∧
    r = m.rejection (k + j) v explanation

theorem reportsSlot_cons_iff {r : Rejection} : ReportsSlot k (m :: ms) (v :: vs) r ↔
    (∃ explanation, m.accepts v = .ok false ∧ m.explain v = .ok explanation ∧
      r = m.rejection k v explanation) ∨ ReportsSlot (k + 1) ms vs r := by
  constructor
  · rintro ⟨j, m', v', explanation, hm, hv, ha, he, rfl⟩
    cases j with
    | zero =>
      cases hm
      cases hv
      exact Or.inl ⟨explanation, ha, he, rfl⟩
    | succ j =>
      refine Or.inr ⟨j, m', v', explanation, hm, hv, ha, he, ?_⟩
      rw [Nat.add_assoc, Nat.add_comm 1 j]
  · rintro (⟨explanation, ha, he, rfl⟩ | ⟨j, m', v', explanation, hm, hv, ha, he, rfl⟩)
    · exact ⟨0, m, v, explanation, rfl, rfl, ha, he, rfl⟩
    · refine ⟨j + 1, m', v', explanation, hm, hv, ha, he, ?_⟩
      rw [Nat.add_assoc, Nat.add_comm 1 j]

/-- A report passes over a slot that accepts, and begins with one that does not. -/
theorem rejectionsFrom_cons_eq_ok (h : rejectionsFrom k (m :: ms) (v :: vs) = .ok rs) :
    (m.accepts v = .ok true ∧ rejectionsFrom (k + 1) ms vs = .ok rs) ∨
    ∃ explanation rest, m.accepts v = .ok false ∧ m.explain v = .ok explanation ∧
      rejectionsFrom (k + 1) ms vs = .ok rest ∧ rs = m.rejection k v explanation :: rest := by
  rcases m.report_cases v with ha | ⟨explanation, ha, he⟩ | ⟨err, ha⟩ | ⟨p, ha, he⟩
  · rw [rejectionsFrom_accepting ha] at h
    exact Or.inl ⟨ha, h⟩
  · rw [rejectionsFrom_rejecting ha he] at h
    cases hrest : rejectionsFrom (k + 1) ms vs with
    | error b =>
      rw [hrest] at h
      cases h
    | ok rest =>
      rw [hrest] at h
      exact Or.inr ⟨explanation, rest, ha, he, rfl, (Except.ok.inj h).symm⟩
  · rw [rejectionsFrom_failing ha] at h
    cases h
  · rw [rejectionsFrom_panicking ha he] at h
    cases h

/-- A report lists the slots that reject their arguments and no others. -/
theorem mem_rejectionsFrom_iff {r : Rejection} :
    ∀ {ms : List Matcher} {vs : List Value} {k : Nat} {rs : List Rejection},
      rejectionsFrom k ms vs = .ok rs → (r ∈ rs ↔ ReportsSlot k ms vs r)
  | [], vs, k, rs, h => by
    rw [rejectionsFrom.eq_def] at h
    cases h
    refine ⟨fun hr => absurd hr List.not_mem_nil, ?_⟩
    rintro ⟨j, m, v, explanation, hm, -⟩
    cases hm
  | m :: ms, [], k, rs, h => by
    cases h
    refine ⟨fun hr => absurd hr List.not_mem_nil, ?_⟩
    rintro ⟨j, m, v, explanation, -, hv, -⟩
    cases hv
  | m :: ms, v :: vs, k, rs, h => by
    rw [reportsSlot_cons_iff]
    rcases rejectionsFrom_cons_eq_ok h with ⟨ha, hrest⟩ | ⟨explanation, rest, ha, he, hrest, rfl⟩
    · rw [mem_rejectionsFrom_iff hrest, ha]
      simp
    · rw [List.mem_cons, mem_rejectionsFrom_iff hrest, ha, he]
      simp

/-- It goes by the indices of the slots and lists none of them twice. -/
theorem rejectionsFrom_pairwise :
    ∀ {ms : List Matcher} {vs : List Value} {k : Nat} {rs : List Rejection},
      rejectionsFrom k ms vs = .ok rs → rs.Pairwise fun a b => a.argument < b.argument
  | [], vs, k, rs, h => by
    rw [rejectionsFrom.eq_def] at h
    cases h
    exact .nil
  | m :: ms, [], k, rs, h => by
    cases h
    exact .nil
  | m :: ms, v :: vs, k, rs, h => by
    rcases rejectionsFrom_cons_eq_ok h with ⟨-, hrest⟩ | ⟨explanation, rest, -, -, hrest, rfl⟩
    · exact rejectionsFrom_pairwise hrest
    · refine List.pairwise_cons.mpr ⟨fun r hr => ?_, rejectionsFrom_pairwise hrest⟩
      -- All that is listed behind the head has a greater index.
      obtain ⟨j, m', v', -, -, -, -, -, rfl⟩ := (mem_rejectionsFrom_iff hrest).mp hr
      show k < k + 1 + j
      omega

end Slots

/-! ## Patterns -/

namespace Pattern

variable {p : Pattern} {c : Invocation} {b : Breakdown} {rs : List Rejection}

/-- Plain matching is matching without a report. -/
theorem matched_plain (p : Pattern) (c : Invocation) :
    p.matched false c = (p.accepts c).mapError .failed := by
  unfold matched examine accepts
  split
  · exact examineEach_plain ..
  · rfl

theorem matched_plain_eq_ok_iff {answer : Bool} :
    p.matched false c = .ok answer ↔ p.accepts c = .ok answer := by
  rw [matched_plain]
  cases p.accepts c with
  | error err =>
    constructor
    · intro h
      cases h
    · intro h
      cases h
  | ok accepted =>
    constructor
    · intro h
      exact congrArg Except.ok (Except.ok.inj h)
    · intro h
      exact congrArg Except.ok (Except.ok.inj h)

/-- Matching with a report gives the rejections that are reported. -/
theorem examine_reporting (p : Pattern) (c : Invocation) :
    (p.examine true c).map Prod.snd = p.rejections c := by
  unfold examine rejections
  split
  · rw [examineEach_reporting]
    cases rejectionsFrom 0 p.args c.args <;> rfl
  · rfl

theorem rejections_eq_error_iff : p.rejections c = .error b ↔ p.Breaks c b := by
  unfold rejections
  split
  · next hgo =>
    obtain ⟨htargets, harity⟩ := Bool.and_eq_true_iff.mp hgo
    rw [rejectionsFrom_eq_error_iff]
    exact ⟨fun hslot => ⟨htargets, of_decide_eq_true harity, hslot⟩, fun h => h.slot⟩
  · next hgo =>
    refine ⟨nofun, fun h => absurd ?_ hgo⟩
    rw [h.targets, decide_eq_true h.arity]
    rfl

/-- A report makes a difference to matching only when plain matching rejects the call: then the
report may break down. -/
theorem matched_reporting (p : Pattern) (c : Invocation) :
    p.matched true c = match p.accepts c with
      | .ok false => (p.rejections c).map fun _ => false
      | .ok true => .ok true
      | .error err => .error (.failed err) := by
  unfold matched examine accepts rejections
  split
  · rw [examineEach_reporting]
    rcases acceptsEach_cases p.args c.args 0 with ⟨hacc, hr⟩ | ⟨err, hacc, hr⟩ | ⟨hacc, hne⟩
    · rw [hacc, hr]
      rfl
    · rw [hacc, hr]
      rfl
    · rw [hacc]
      cases hr : rejectionsFrom 0 p.args c.args with
      | error b => rfl
      | ok rs =>
        cases rs with
        | nil => exact absurd hr hne
        | cons r rs => rfl
  · rfl

/-- What breaks a report behind a rejected argument is met with a report only. -/
theorem matched_of_breaks (hrej : p.matched false c = .ok false) (h : p.Breaks c b) :
    p.matched true c = .error b := by
  rw [matched_reporting, matched_plain_eq_ok_iff.mp hrej, rejections_eq_error_iff.mpr h]
  rfl

/-- In all other cases a report makes no difference. -/
theorem matched_of_not_breaks (h : p.matched false c = .ok false → ∀ b, ¬ p.Breaks c b) :
    p.matched true c = p.matched false c := by
  rw [matched_reporting, matched_plain] at *
  cases hacc : p.accepts c with
  | error err => rfl
  | ok answer =>
    cases answer with
    | true => rfl
    | false =>
      cases hr : p.rejections c with
      | error b => exact absurd (rejections_eq_error_iff.mp hr) (h (by rw [hacc]; rfl) b)
      | ok rs => rfl

/-! ## Reports -/

/-- A report on a call lists the arguments that the pattern's matchers reject. -/
theorem mem_rejections_iff (h : p.rejections c = .ok rs) {r : Rejection} :
    r ∈ rs ↔
      p.targets c = true ∧ p.args.length = c.args.length ∧ ReportsSlot 0 p.args c.args r := by
  unfold rejections at h
  split at h
  · next hgo =>
    obtain ⟨htargets, harity⟩ := Bool.and_eq_true_iff.mp hgo
    rw [mem_rejectionsFrom_iff h]
    exact ⟨fun hr => ⟨htargets, of_decide_eq_true harity, hr⟩, fun hr => hr.2.2⟩
  · next hgo =>
    cases h
    refine ⟨nofun, ?_⟩
    rintro ⟨htargets, harity, -⟩
    refine absurd ?_ hgo
    rw [htargets, decide_eq_true harity]
    rfl

theorem rejections_pairwise (h : p.rejections c = .ok rs) :
    rs.Pairwise fun a b => a.argument < b.argument := by
  unfold rejections at h
  split at h
  · exact rejectionsFrom_pairwise h
  · cases h
    exact .nil

/-- A call that plain matching rejects for its arguments has some to report. -/
theorem rejections_ne_nil (htargets : p.targets c = true) (harity : p.args.length = c.args.length)
    (hrej : p.accepts c = .ok false) : p.rejections c ≠ .ok [] := by
  have hgo : (p.targets c && decide (p.args.length = c.args.length)) = true := by
    rw [htargets, decide_eq_true harity]
    rfl
  rw [accepts, if_pos hgo] at hrej
  rw [rejections, if_pos hgo]
  rcases acceptsEach_cases p.args c.args 0 with ⟨hacc, -⟩ | ⟨err, hacc, -⟩ | ⟨-, hne⟩
  · cases hrej.symm.trans hacc
  · cases hrej.symm.trans hacc
  · exact hne

end Pattern

end Understudy

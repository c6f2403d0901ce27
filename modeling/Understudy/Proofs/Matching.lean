import Understudy.Table

/-!
# Patterns on which no matcher fails

A pattern is asked in two ways. `Pattern.accepts` stops at the first rejected argument, and
`Pattern.rejections` tries them all and has each rejection explained, so only the second one
runs into every fault. If no matcher of a pattern fails on a call (`Pattern.FaultlessOn`), both
have an answer, and the first one is `Pattern.describes`.
-/

namespace Understudy

/-- Whether a pattern describes a call. One that fails on it does not. -/
def Pattern.describes (p : Pattern) (c : Invocation) : Bool :=
  match p.accepts c with
  | .ok b => b
  | .error _ => false

/-- A pattern that does not fail says whether it describes the call. -/
theorem Pattern.accepts_eq_describes {p : Pattern} {c : Invocation}
    (h : ∃ b, p.accepts c = .ok b) : p.accepts c = .ok (p.describes c) := by
  obtain ⟨b, hb⟩ := h
  rw [describes, hb]

theorem Pattern.describes_iff {p : Pattern} {c : Invocation} :
    p.describes c = true ↔ p.accepts c = .ok true := by
  unfold describes
  cases p.accepts c with
  | error e => exact ⟨nofun, nofun⟩
  | ok b => exact ⟨fun h => congrArg Except.ok h, Except.ok.inj⟩

/-- A matcher answers on a value, and can say what there is to say if it rejects it. -/
def Matcher.FaultlessOn (m : Matcher) (v : Value) : Prop :=
  m.accepts v = .ok true ∨ m.accepts v = .ok false ∧ ∃ explanation, m.explain v = .ok explanation

/-- No matcher of a pattern for the method fails on the argument in its place, be it that it does
not answer or that its explanation panics. -/
def Pattern.FaultlessOn (p : Pattern) (c : Invocation) : Prop :=
  p.targets c = true →
    ∀ (i : Nat) m v, p.args[i]? = some m → c.args[i]? = some v → Matcher.FaultlessOn m v

/-- Matchers that do not fail accept the arguments or reject one. -/
theorem acceptsEach_of_faultless : ∀ {ms : List Matcher} {vs : List Value},
    (∀ (i : Nat) m v, ms[i]? = some m → vs[i]? = some v → Matcher.FaultlessOn m v) →
      ∃ b, acceptsEach ms vs = .ok b
  | [], _, _ => ⟨true, by rw [acceptsEach.eq_def]⟩
  | _ :: _, [], _ => ⟨true, rfl⟩
  | m :: ms, v :: vs, h => by
    rcases h 0 m v rfl rfl with ha | ⟨ha, -⟩
    · rw [acceptsEach, ha]
      exact acceptsEach_of_faultless fun i => h (i + 1)
    · rw [acceptsEach, ha]
      exact ⟨false, rfl⟩

/-! ## What a report says of one argument -/

section Report

variable {m : Matcher} {ms : List Matcher} {v : Value} {vs : List Value} {k : Nat}

theorem rejectionsFrom_accepting (ha : m.accepts v = .ok true) :
    rejectionsFrom k (m :: ms) (v :: vs) = rejectionsFrom (k + 1) ms vs := by
  rw [rejectionsFrom, ha]
  rfl

theorem rejectionsFrom_rejecting {explanation : Option String} (ha : m.accepts v = .ok false)
    (he : m.explain v = .ok explanation) :
    rejectionsFrom k (m :: ms) (v :: vs) =
      (rejectionsFrom (k + 1) ms vs).map (m.rejection k v explanation :: ·) := by
  rw [rejectionsFrom, ha, he]
  rfl

theorem rejectionsFrom_failing {err : MatcherError} (ha : m.accepts v = .error err) :
    rejectionsFrom k (m :: ms) (v :: vs) = .error (.failed err) := by
  rw [rejectionsFrom, ha]
  rfl

theorem rejectionsFrom_panicking {p : Panic} (ha : m.accepts v = .ok false)
    (he : m.explain v = .error p) :
    rejectionsFrom k (m :: ms) (v :: vs) = .error (.panicked p) := by
  rw [rejectionsFrom, ha, he]
  rfl

end Report

/-- Matchers that do not fail also say which arguments they reject. -/
theorem rejectionsFrom_of_faultless : ∀ {ms : List Matcher} {vs : List Value} (k : Nat),
    (∀ (i : Nat) m v, ms[i]? = some m → vs[i]? = some v → Matcher.FaultlessOn m v) →
      ∃ r, rejectionsFrom k ms vs = .ok r
  | [], _, _, _ => ⟨[], by rw [rejectionsFrom.eq_def]⟩
  | _ :: _, [], _, _ => ⟨[], rfl⟩
  | m :: ms, v :: vs, k, h => by
    have htail : ∀ (i : Nat) m v, ms[i]? = some m → vs[i]? = some v →
        Matcher.FaultlessOn m v := fun i => h (i + 1)
    obtain ⟨rest, hrest⟩ := rejectionsFrom_of_faultless (k + 1) htail
    rcases h 0 m v rfl rfl with ha | ⟨ha, explanation, he⟩
    · exact ⟨rest, (rejectionsFrom_accepting ha).trans hrest⟩
    · rw [rejectionsFrom_rejecting ha he, hrest]
      exact ⟨_, rfl⟩

namespace Pattern

variable {p : Pattern} {c : Invocation}

theorem FaultlessOn.accepts (h : p.FaultlessOn c) : ∃ b, p.accepts c = .ok b := by
  unfold Pattern.accepts
  split
  · next hgo => exact acceptsEach_of_faultless (h (Bool.and_eq_true_iff.mp hgo).1)
  · exact ⟨false, rfl⟩

theorem FaultlessOn.rejections (h : p.FaultlessOn c) : ∃ r, p.rejections c = .ok r := by
  unfold Pattern.rejections
  split
  · next hgo => exact rejectionsFrom_of_faultless 0 (h (Bool.and_eq_true_iff.mp hgo).1)
  · exact ⟨[], rfl⟩

end Pattern

/-- A call is explained to its caller if no matcher fails on it. -/
theorem collectRejections_of_faultless {c : Invocation} : ∀ {es : List (Nat × Expectation)},
    (∀ p ∈ es, p.2.pattern.FaultlessOn c) → ∃ r, collectRejections c es = .ok r
  | [], _ => ⟨[], rfl⟩
  | (i, e) :: es, h => by
    obtain ⟨rest, hrest⟩ :=
      collectRejections_of_faultless fun p hp => h p (List.mem_cons_of_mem _ hp)
    obtain ⟨here, hhere⟩ := (h (i, e) (List.mem_cons_self ..)).rejections
    rw [collectRejections, hrest]
    split
    · rw [hhere]
      exact ⟨_, rfl⟩
    · exact ⟨_, rfl⟩

end Understudy

import Understudy.Proofs.Recording.Uniqueness
import Understudy.Proofs.Value.Doubles

/-!
# Equivalent matchers and the values they accept

Recording on a lenient type replaces the first expectation with an equivalent pattern, so
equivalent patterns should describe the same calls. They do as long as no integer meets a
floating-point number, and also where one does if it has that double for itself
(`accepts_congr_iff`, `Pattern.accepts_congr_of_aligned`). Where it shares its double with other
integers, equivalent matchers accept different ones of these, and an expectation can be
replaced by one for other calls.
-/

namespace Understudy

namespace Matcher

variable {made : Nat → Predicate} {m m' : Matcher}

/-- A matcher as it can be made: every number in a literal is one of its type, and the predicate is
the one known by its key. -/
structure IsMade (made : Nat → Predicate) (m : Matcher) : Prop where
  proper : ∀ v ∈ m.literals, v.isProper = true
  known : ∀ p, m = .predicate p → made p.key = p

/-- The literals of two matchers are aligned, or the ends of their ranges. -/
def Aligned : Matcher → Matcher → Prop
  | exact a, exact b => a.Aligned b
  | range lo hi, range lo' hi' => lo.AlignedEnds hi lo' hi'
  | _, _ => True

/-- Equivalent matchers accept the same values exactly if they are aligned. -/
theorem accepts_congr_iff (hm : m.IsMade made) (hm' : m'.IsMade made)
    (h : m.equivalent m' = true) :
    (∀ v, v.isProper = true → m.accepts v = m'.accepts v) ↔ m.Aligned m' := by
  -- Matchers of different kinds are never equivalent.
  cases m with
  | exact a =>
    cases m' with
    | exact b =>
      have ha : a.isProper = true := hm.proper a (List.mem_singleton_self a)
      have hb : b.isProper = true := hm'.proper b (List.mem_singleton_self b)
      rw [equivalent] at h
      rw [Aligned, ← Value.same_congr_iff h ha hb]
      simp only [accepts, Except.ok.injEq]
    | _ => cases h
  | any =>
    cases m' with
    | any => exact iff_of_true (fun _ _ => rfl) trivial
    | _ => cases h
  | range lo hi =>
    cases m' with
    | range lo' hi' =>
      have hproper := hm.proper
      have hproper' := hm'.proper
      simp only [literals, List.forall_mem_cons] at hproper hproper'
      rw [equivalent, Bool.and_eq_true] at h
      rw [Aligned, ← Value.between_congr_iff h.1 h.2 hproper.1 hproper'.1 hproper.2.1 hproper'.2.1]
      simp only [accepts, Except.ok.injEq]
    | _ => cases h
  | predicate p =>
    cases m' with
    | predicate q =>
      -- A key stands for one predicate, so there is nothing left to compare.
      have hkey : p.key = q.key := of_decide_eq_true h
      obtain rfl : p = q := by rw [← hm.known p rfl, ← hm'.known q rfl, hkey]
      exact iff_of_true (fun _ _ => rfl) trivial
    | _ => cases h

end Matcher

/-- Matchers that accept the same values accept the same arguments. -/
theorem acceptsEach_congr_of_forall₂ {ms ms' : List Matcher} {vs : List Value}
    (hms : List.Forall₂ (fun m m' : Matcher => ∀ v, v.isProper = true → m.accepts v = m'.accepts v)
      ms ms') (hvs : ∀ v ∈ vs, v.isProper = true) : acceptsEach ms vs = acceptsEach ms' vs := by
  induction hms generalizing vs with
  | nil => rfl
  | cons hm _ ih =>
    cases vs with
    | nil => rfl
    | cons v vs =>
      rw [List.forall_mem_cons] at hvs
      rw [acceptsEach, acceptsEach, hm v hvs.1, ih hvs.2]

namespace Pattern

variable {made : Nat → Predicate} {p q : Pattern} {c : Invocation}

/-- A pattern as it can be made. -/
def IsMade (made : Nat → Predicate) (p : Pattern) : Prop := ∀ m ∈ p.args, m.IsMade made

/-- Identical patterns are for the same target and the same method. -/
theorem targets_of_identical (h : p.identical q = true) (c : Invocation) :
    p.targets c = q.targets c := by
  obtain ⟨htarget, hmethod, -⟩ := identical_iff.mp h
  rw [Signature.sameMethod_iff] at hmethod
  rw [targets, targets, htarget, Signature.sameMethod, Signature.sameMethod, hmethod.1, hmethod.2]

/-- Identical patterns describe the same calls if their matchers are aligned. -/
theorem accepts_congr_of_aligned (hp : p.IsMade made) (hq : q.IsMade made)
    (h : p.identical q = true) (haligned : List.Forall₂ Matcher.Aligned p.args q.args)
    (hc : ∀ v ∈ c.args, v.isProper = true) : p.accepts c = q.accepts c := by
  obtain ⟨-, -, hequivalent⟩ := identical_iff.mp h
  have hlength : p.args.length = q.args.length := haligned.length_eq
  have hagree : List.Forall₂ (fun m m' : Matcher => ∀ v, v.isProper = true →
      m.accepts v = m'.accepts v) p.args q.args := by
    rw [List.forall₂_iff_get] at hequivalent haligned ⊢
    refine ⟨hlength, fun i hi hi' => ?_⟩
    exact (Matcher.accepts_congr_iff (hp _ (List.get_mem ..)) (hq _ (List.get_mem ..))
      (hequivalent.2 i hi hi')).mpr (haligned.2 i hi hi')
  rw [accepts, accepts, targets_of_identical h, hlength, acceptsEach_congr_of_forall₂ hagree hc]

end Pattern

/-- Equivalent matchers accept the same values exactly if they are aligned. An expectation that is
recorded on a lenient type replaces one for the same calls, if its matchers are aligned with the
matchers of the other. -/
theorem accepts_alike (made : Nat → Predicate) :
    (∀ m m' : Matcher, m.IsMade made → m'.IsMade made → m.equivalent m' = true →
      ((∀ v, v.isProper = true → m.accepts v = m'.accepts v) ↔ m.Aligned m')) ∧
    ∀ (t : Table) (e old : Expectation), t.options.strictness = .lenient →
      t.expectations[t.placeFor e]? = some old → old.pattern.IsMade made → e.pattern.IsMade made →
      List.Forall₂ Matcher.Aligned old.pattern.args e.pattern.args →
      ∀ c : Invocation, (∀ v ∈ c.args, v.isProper = true) →
        old.pattern.accepts c = e.pattern.accepts c := by
  refine ⟨fun m m' hm hm' h => Matcher.accepts_congr_iff hm hm' h, ?_⟩
  intro t e old hl hplace hold he haligned c hc
  exact Pattern.accepts_congr_of_aligned hold he (Table.identical_of_place hl hplace) haligned hc

/-- The weighing of one value is expected at any time. -/
def weighingOf (v : Value) : Expectation := (Session.weighing v).recorded ⟨.lenient, .total⟩ 1

/-- A lenient scale on which the weighing of one value is expected. -/
def scaleFor (v : Value) : Table :=
  { options := ⟨.lenient, .total⟩, expectations := [weighingOf v] }

/-- The integer `n` as a double. -/
def asDouble (n : Int) : Value := .float .f64 (Format.double.ofInt n)

/-- The weighing of an equal value is recorded in place of the one that was expected. -/
theorem add_scaleFor {v w : Value} (h : v.same w = true) :
    (scaleFor v).placeFor (weighingOf w) = 0 ∧
      (scaleFor v).add (weighingOf w) = scaleFor w := by
  have hid : (weighingOf v).pattern.identical (weighingOf w).pattern = true :=
    Pattern.identical_iff.mpr ⟨rfl, rfl, .cons h .nil⟩
  have hplace : (scaleFor v).placeFor (weighingOf w) = 0 := by
    rw [Table.placeFor_of_lenient rfl, scaleFor, List.findIdx_cons, hid]
    rfl
  refine ⟨hplace, ?_⟩
  rw [Table.add_of_place_lt (by rw [hplace]; exact Nat.one_pos), hplace]
  rfl

theorem isMade_exact (made : Nat → Predicate) {v : Value} (h : v.isProper = true) :
    (Matcher.exact v).IsMade made := by
  constructor
  · intro v' hv
    cases List.mem_singleton.mp hv
    exact h
  · intro p hp
    cases hp

theorem isMade_weighingOf (made : Nat → Predicate) {v : Value} (h : v.isProper = true) :
    (weighingOf v).pattern.IsMade made := by
  intro m hm
  cases List.mem_singleton.mp hm
  exact isMade_exact made h

/-- The weighing of five, written as a double, replaces that of five, and is for the same calls. -/
theorem accepts_alike_five :
    (scaleFor (.int .i32 5)).add (weighingOf (asDouble 5)) = scaleFor (asDouble 5) ∧
    (∀ v, v.isProper = true →
      (Matcher.exact (.int .i32 5)).accepts v = (Matcher.exact (asDouble 5)).accepts v) ∧
    ∀ c : Invocation, (∀ v ∈ c.args, v.isProper = true) →
      (weighingOf (.int .i32 5)).pattern.accepts c =
        (weighingOf (asDouble 5)).pattern.accepts c := by
  have hfive : (Value.int .i32 5).isProper = true := by decide
  have hdouble : (asDouble 5).isProper = true := by decide +kernel
  have hsame : (Value.int .i32 5).same (asDouble 5) = true := by decide +kernel
  have haligned : (Matcher.exact (.int .i32 5)).Aligned (.exact (asDouble 5)) :=
    Value.isOnly_of_small hfive (by decide)
  obtain ⟨hmatchers, htables⟩ := accepts_alike fun key => .isNull key
  refine ⟨(add_scaleFor hsame).2, ?_, ?_⟩
  · exact (hmatchers _ _ (isMade_exact _ hfive) (isMade_exact _ hdouble) hsame).mpr haligned
  · have hplace : (scaleFor (.int .i32 5)).expectations[(scaleFor (.int .i32 5)).placeFor
        (weighingOf (asDouble 5))]? = some (weighingOf (.int .i32 5)) := by
      rw [(add_scaleFor hsame).1]
      rfl
    exact htables _ (weighingOf (asDouble 5)) _ rfl hplace (isMade_weighingOf _ hfive)
      (isMade_weighingOf _ hdouble) (.cons haligned .nil)

/-- The integer `2 ^ 53 + 1` is equal to the double `2 ^ 53`, and so the weighing of one replaces
that of the other, but only the double is equal to the integer `2 ^ 53`. -/
theorem not_accepts_alike_neighbour :
    (Matcher.exact (asDouble 9007199254740992)).equivalent
      (.exact (.int .i64 9007199254740993)) = true ∧
    (Value.int .i64 9007199254740992).isProper = true ∧
    (Matcher.exact (asDouble 9007199254740992)).accepts (.int .i64 9007199254740992) = .ok true ∧
    (Matcher.exact (.int .i64 9007199254740993)).accepts (.int .i64 9007199254740992) = .ok false ∧
    (scaleFor (asDouble 9007199254740992)).add (weighingOf (.int .i64 9007199254740993)) =
      scaleFor (.int .i64 9007199254740993) := by
  have hsame : (asDouble 9007199254740992).same (.int .i64 9007199254740993) = true := by
    decide +kernel
  exact ⟨hsame, by decide, by decide +kernel, by decide, (add_scaleFor hsame).2⟩

end Understudy

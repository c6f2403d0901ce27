import Mathlib.Data.List.Sort
import Understudy.Log

/-!
# Callers that share a log

A caller observes a call, which gives it the next sequence number, and appends it later. Any
number of callers do so at the same time, so calls may be appended in another order than they
were observed in. `SharedLog` is the log together with the calls that are observed and not
appended yet, at most one for each caller; a list of steps is one interleaving of theirs.

The invariant is `Sound`: every number that was given out is that of one entry or of one call
on the way, and what a caller appended has smaller numbers than the call it is about to
append. One lemma for each kind of step keeps it, and `inOrder_afterAll` reads off what the
log holds after all steps.
-/

namespace Understudy

namespace Log

variable {i : Invocation} {es : List Invocation}

theorem mem_insert {e : Invocation} : e ∈ insert i es ↔ e = i ∨ e ∈ es := by
  rw [(insert_perm i es).mem_iff, List.mem_cons]

/-- A call with a new number is inserted in its place. -/
theorem insert_descending (h : es.Pairwise fun a b => b.seq < a.seq)
    (hnew : ∀ e ∈ es, e.seq ≠ i.seq) : (insert i es).Pairwise fun a b => b.seq < a.seq := by
  induction es with
  | nil => exact List.pairwise_singleton ..
  | cons e es ih =>
    rw [List.pairwise_cons] at h
    rw [List.forall_mem_cons] at hnew
    rw [insert]
    by_cases hlt : e.seq < i.seq
    · rw [if_pos hlt, List.pairwise_cons, List.forall_mem_cons]
      refine ⟨⟨hlt, ?_⟩, List.pairwise_cons.mpr h⟩
      intro d hd
      exact Nat.lt_trans (h.1 d hd) hlt
    · -- The entry is newer than the call, so it stays in front.
      have hgt : i.seq < e.seq := by
        have := hnew.1
        omega
      rw [if_neg hlt, List.pairwise_cons]
      refine ⟨?_, ih h.2 hnew.2⟩
      intro d hd
      rcases mem_insert.mp hd with rfl | hd
      · exact hgt
      · exact h.1 d hd

end Log

/-- A log, and the call that each caller has observed and not appended yet, if there is one. -/
structure SharedLog (Caller : Type) where
  log : Log := {}
  observed : Caller → Option Invocation := fun _ => none

/-- A step of a caller. -/
inductive LogStep (Caller : Type) where
  /-- Has a call take the next sequence number. -/
  | observes (a : Caller) (c : Call)
  /-- Appends the call that was observed. -/
  | appends (a : Caller)

namespace SharedLog

variable {Caller : Type} [DecidableEq Caller]

/-- The log after a step. A caller makes one call after another: a step out of turn changes
nothing. -/
def after (s : SharedLog Caller) : LogStep Caller → SharedLog Caller
  | .observes a c =>
    match s.observed a with
    | none => ⟨(s.log.observe c).2, Function.update s.observed a (some (s.log.observe c).1)⟩
    | some _ => s
  | .appends a =>
    match s.observed a with
    | none => s
    | some i => ⟨s.log.append i, Function.update s.observed a none⟩

/-- The log after steps in a row. -/
def afterAll (s : SharedLog Caller) (steps : List (LogStep Caller)) : SharedLog Caller :=
  steps.foldl after s

/-- What a step appends, and for whom. -/
def append? (s : SharedLog Caller) : LogStep Caller → Option (Caller × Invocation)
  | .observes .. => none
  | .appends a => (s.observed a).map (a, ·)

/-- What steps append, and for whom, in the order of the steps. -/
def appended : SharedLog Caller → List (LogStep Caller) → List (Caller × Invocation)
  | _, [] => []
  | s, v :: vs => (s.append? v).toList ++ (s.after v).appended vs

/-- The call of a caller that a step begins. -/
def begin? (s : SharedLog Caller) (a : Caller) : LogStep Caller → Option Call
  | .observes b c => if b = a ∧ s.observed b = none then some c else none
  | .appends _ => none

/-- The calls that a caller makes by steps, in the order it makes them. -/
def made (a : Caller) : SharedLog Caller → List (LogStep Caller) → List Call
  | _, [] => []
  | s, v :: vs => (s.begin? a v).toList ++ (s.after v).made a vs

/-- What a caller appended, given what everyone did. -/
def ofCaller (a : Caller) (past : List (Caller × Invocation)) : List Invocation :=
  (past.filter (·.1 = a)).map (·.2)

/-- The log holds what was appended, in order. -/
structure InOrder (s : SharedLog Caller) (appended : List (Caller × Invocation))
    (made : Caller → List Call) : Prop where
  ascending : s.log.entries.Pairwise fun d e => d.seq < e.seq
  /-- Every appended call is there exactly once, and nothing else. -/
  perm : s.log.entries.Perm (appended.map (·.2))
  /-- The calls of one caller are there in the order it made them. -/
  callers : ∀ a, (ofCaller a appended).Sublist s.log.entries
  /-- A caller appended the calls it made, up to the one it is about to append. -/
  calls : ∀ a, (ofCaller a appended ++ (s.observed a).toList).map (·.toCall) = made a
  /-- When no call is on the way, the numbers are the places. -/
  settled : (∀ a, s.observed a = none) →
    ∀ n (e : Invocation), s.log.entries[n]? = some e → e.seq = n

/-- The numbers of all calls, appended or on the way, given what was appended. -/
structure Sound (s : SharedLog Caller) (past : List (Caller × Invocation)) : Prop where
  descending : s.log.newestFirst.Pairwise fun a b => b.seq < a.seq
  perm : s.log.newestFirst.Perm (past.map (·.2))
  /-- The numbers that were given out are those of the entries and of the calls on the way. -/
  numbers : ∀ n, n < s.log.nextSeq ↔
    (∃ e ∈ s.log.newestFirst, e.seq = n) ∨ ∃ a i, s.observed a = some i ∧ i.seq = n
  /-- A call on the way shares its number with no entry and no other call on the way. -/
  apart : ∀ a i, s.observed a = some i → (∀ e ∈ s.log.newestFirst, e.seq ≠ i.seq) ∧
    ∀ b j, b ≠ a → s.observed b = some j → j.seq ≠ i.seq
  callers : ∀ a, (ofCaller a past ++ (s.observed a).toList).Pairwise fun d e => d.seq < e.seq

variable {s : SharedLog Caller} {a b : Caller} {c : Call} {i : Invocation}
variable {past : List (Caller × Invocation)}

/-! ## Steps -/

theorem ofCaller_append_self : ofCaller a (past ++ [(a, i)]) = ofCaller a past ++ [i] := by
  simp [ofCaller, List.filter_append]

theorem ofCaller_append_other (h : a ≠ b) : ofCaller b (past ++ [(a, i)]) = ofCaller b past := by
  simp [ofCaller, List.filter_append, h]

/-- What a caller appended is among all that was appended. -/
theorem ofCaller_sublist (a : Caller) (past : List (Caller × Invocation)) :
    (ofCaller a past).Sublist (past.map (·.2)) :=
  List.filter_sublist.map _

theorem log_after_observes (h : s.observed a = none) :
    (s.after (.observes a c)).log = (s.log.observe c).2 := by
  rw [after, h]

theorem observed_after_observes (h : s.observed a = none) :
    (s.after (.observes a c)).observed a = some (s.log.observe c).1 := by
  rw [after, h]
  exact Function.update_self ..

theorem log_after_appends (h : s.observed a = some i) :
    (s.after (.appends a)).log = s.log.append i := by
  rw [after, h]

theorem observed_after_appends (s : SharedLog Caller) (a : Caller) :
    (s.after (.appends a)).observed a = none := by
  rw [after]
  cases h : s.observed a with
  | none => exact h
  | some i => exact Function.update_self ..

/-- A caller is not concerned with what others observe. -/
theorem observed_after_observes_other (hb : b ≠ a) :
    (s.after (.observes a c)).observed b = s.observed b := by
  rw [after]
  cases s.observed a with
  | none => exact Function.update_of_ne hb ..
  | some i => rfl

/-- Nor with what they append. -/
theorem observed_after_appends_other (hb : b ≠ a) :
    (s.after (.appends a)).observed b = s.observed b := by
  rw [after]
  cases s.observed a with
  | none => rfl
  | some i => exact Function.update_of_ne hb ..

theorem observed_after_observes_iff {j : Invocation} (h : s.observed a = none) :
    (s.after (.observes a c)).observed b = some j ↔
      (b = a ∧ (s.log.observe c).1 = j) ∨ s.observed b = some j := by
  by_cases hb : b = a
  · subst hb
    rw [observed_after_observes h, h, Option.some.injEq]
    simp
  · rw [observed_after_observes_other hb]
    simp [hb]

/-- Whoever is still about to append is another caller. -/
theorem observed_after_appends_iff {j : Invocation} :
    (s.after (.appends a)).observed b = some j ↔ b ≠ a ∧ s.observed b = some j := by
  by_cases hb : b = a
  · subst hb
    rw [observed_after_appends]
    simp
  · rw [observed_after_appends_other hb]
    simp [hb]

/-- An observed call is one more of its caller. -/
theorem calls_after_observes (h : s.observed a = none) (past : List (Caller × Invocation))
    (b : Caller) : ofCaller b past ++ ((s.after (.observes a c)).observed b).toList =
      ofCaller b past ++ (s.observed b).toList ++
        if a = b then [(s.log.observe c).1] else [] := by
  by_cases hb : a = b
  · subst hb
    rw [observed_after_observes h, h, if_pos rfl, Option.toList_none, List.append_nil,
      Option.toList_some]
  · rw [observed_after_observes_other (Ne.symm hb), if_neg hb, List.append_nil]

/-- Appending moves a call from the way into the log. -/
theorem calls_after_appends (h : s.observed a = some i) (past : List (Caller × Invocation))
    (b : Caller) : ofCaller b (past ++ [(a, i)]) ++ ((s.after (.appends a)).observed b).toList =
      ofCaller b past ++ (s.observed b).toList := by
  by_cases hb : a = b
  · subst hb
    rw [observed_after_appends, h, ofCaller_append_self, Option.toList_none, List.append_nil,
      Option.toList_some]
  · rw [observed_after_appends_other (Ne.symm hb), ofCaller_append_other hb]

/-- A step observes a call, appends one, or is out of turn. -/
theorem step_cases (s : SharedLog Caller) (v : LogStep Caller) :
    (∃ a c, v = .observes a c ∧ s.observed a = none) ∨
    (∃ a i, v = .appends a ∧ s.observed a = some i) ∨
    (s.after v = s ∧ s.append? v = none ∧ ∀ a, s.begin? a v = none) := by
  cases v with
  | observes a c =>
    cases h : s.observed a with
    | none => exact Or.inl ⟨a, c, rfl, h⟩
    | some i =>
      refine Or.inr (Or.inr ⟨by rw [after, h], rfl, ?_⟩)
      intro b
      rw [begin?, h]
      exact if_neg fun hb => nomatch hb.2
  | appends a =>
    cases h : s.observed a with
    | none => exact Or.inr (Or.inr ⟨by rw [after, h], by rw [append?, h]; rfl, fun _ => rfl⟩)
    | some i => exact Or.inr (Or.inl ⟨a, i, rfl, h⟩)

/-- Whatever was given a number has a smaller one than the next. -/
theorem Sound.seq_lt (h : s.Sound past) :
    (∀ e ∈ s.log.newestFirst, e.seq < s.log.nextSeq) ∧
      ∀ a i, s.observed a = some i → i.seq < s.log.nextSeq := by
  constructor
  · intro e he
    exact (h.numbers _).mpr (Or.inl ⟨e, he, rfl⟩)
  · intro a i hi
    exact (h.numbers _).mpr (Or.inr ⟨a, i, hi, rfl⟩)

theorem Sound.observes (h : s.Sound past) (hfree : s.observed a = none) (c : Call) :
    (s.after (.observes a c)).Sound past := by
  obtain ⟨hentries, hothers⟩ := h.seq_lt
  have hlog : (s.after (.observes a c)).log = (s.log.observe c).2 := log_after_observes hfree
  have hway {b : Caller} {j : Invocation} : (s.after (.observes a c)).observed b = some j ↔
      (b = a ∧ (s.log.observe c).1 = j) ∨ s.observed b = some j := observed_after_observes_iff hfree
  constructor
  · rw [hlog]
    exact h.descending
  · rw [hlog]
    exact h.perm
  · intro n
    rw [hlog]
    show n < s.log.nextSeq + 1 ↔ (∃ e ∈ s.log.newestFirst, e.seq = n) ∨ _
    rw [Nat.lt_succ_iff_lt_or_eq, h.numbers n, or_assoc]
    refine or_congr Iff.rfl ?_
    constructor
    · rintro (⟨b, j, hj, hn⟩ | rfl)
      · exact ⟨b, j, hway.mpr (Or.inr hj), hn⟩
      · exact ⟨a, _, hway.mpr (Or.inl ⟨rfl, rfl⟩), rfl⟩
    · rintro ⟨b, j, hj, hn⟩
      rcases hway.mp hj with ⟨rfl, rfl⟩ | hj
      · exact Or.inr hn.symm
      · exact Or.inl ⟨b, j, hj, hn⟩
  · intro b j hj
    rw [hlog]
    -- The new call has the largest number of all.
    rcases hway.mp hj with ⟨rfl, rfl⟩ | hbefore
    · refine ⟨fun e he => Nat.ne_of_lt (hentries e he), ?_⟩
      intro d k hd hk
      rcases hway.mp hk with ⟨rfl, -⟩ | hk
      · exact absurd rfl hd
      · exact Nat.ne_of_lt (hothers d k hk)
    · obtain ⟨hnew, hrest⟩ := h.apart b j hbefore
      refine ⟨hnew, ?_⟩
      intro d k hd hk
      rcases hway.mp hk with ⟨rfl, rfl⟩ | hk
      · exact Nat.ne_of_gt (hothers b j hbefore)
      · exact hrest d k hd hk
  · intro b
    rw [calls_after_observes hfree]
    refine List.pairwise_append.mpr ⟨h.callers b, ?_, ?_⟩
    · split
      · exact List.pairwise_singleton ..
      · exact .nil
    · intro e he d hd
      split at hd
      · next hb =>
        subst hb
        -- The caller has nothing on the way, so what it observed before is in the log.
        obtain rfl := List.mem_singleton.mp hd
        rw [hfree, Option.toList_none, List.append_nil] at he
        exact hentries e (h.perm.mem_iff.mpr ((ofCaller_sublist a past).subset he))
      · cases hd

theorem Sound.appends (h : s.Sound past) (hi : s.observed a = some i) :
    (s.after (.appends a)).Sound (past ++ [(a, i)]) := by
  obtain ⟨hnew, hothers⟩ := h.apart a i hi
  have hlog := log_after_appends hi
  constructor
  · rw [hlog]
    exact Log.insert_descending h.descending hnew
  · rw [hlog, List.map_append]
    exact (Log.insert_perm i _).trans ((h.perm.cons i).trans (List.perm_append_singleton i _).symm)
  · -- The number of the call was on the way and is in the log now. No number comes or goes.
    intro n
    rw [hlog]
    show n < s.log.nextSeq ↔ (∃ e ∈ Log.insert i s.log.newestFirst, e.seq = n) ∨ _
    rw [h.numbers n]
    constructor
    · rintro (⟨e, he, hn⟩ | ⟨b, j, hj, hn⟩)
      · exact Or.inl ⟨e, Log.mem_insert.mpr (Or.inr he), hn⟩
      · by_cases hb : b = a
        · subst hb
          cases hi.symm.trans hj
          exact Or.inl ⟨i, Log.mem_insert.mpr (Or.inl rfl), hn⟩
        · exact Or.inr ⟨b, j, observed_after_appends_iff.mpr ⟨hb, hj⟩, hn⟩
    · rintro (⟨e, he, hn⟩ | ⟨b, j, hj, hn⟩)
      · rcases Log.mem_insert.mp he with rfl | he
        · exact Or.inr ⟨a, e, hi, hn⟩
        · exact Or.inl ⟨e, he, hn⟩
      · exact Or.inr ⟨b, j, (observed_after_appends_iff.mp hj).2, hn⟩
  · -- What is still on the way stays apart from the log, which has grown by the call.
    intro b j hj
    obtain ⟨hb, hj⟩ := observed_after_appends_iff.mp hj
    obtain ⟨hentries, hrest⟩ := h.apart b j hj
    rw [hlog]
    constructor
    · intro e he
      rcases Log.mem_insert.mp he with rfl | he
      · exact hrest a e hb.symm hi
      · exact hentries e he
    · intro d k hd hk
      exact hrest d k hd (observed_after_appends_iff.mp hk).2
  · intro b
    rw [calls_after_appends hi]
    exact h.callers b

/-- Every step keeps the numbers sound. -/
theorem Sound.after (h : s.Sound past) (v : LogStep Caller) :
    (s.after v).Sound (past ++ (s.append? v).toList) := by
  rcases s.step_cases v with ⟨a, c, rfl, hfree⟩ | ⟨a, i, rfl, hi⟩ | ⟨hsame, hnone, -⟩
  · rw [append?, Option.toList_none, List.append_nil]
    exact h.observes hfree c
  · rw [append?, hi]
    exact h.appends hi
  · rw [hsame, hnone, Option.toList_none, List.append_nil]
    exact h

/-- What a caller has appended and is about to append grows by the calls it makes. -/
theorem calls_after (s : SharedLog Caller) (past : List (Caller × Invocation)) (a : Caller)
    (v : LogStep Caller) :
    (ofCaller a (past ++ (s.append? v).toList) ++ ((s.after v).observed a).toList).map (·.toCall) =
      (ofCaller a past ++ (s.observed a).toList).map (·.toCall) ++ (s.begin? a v).toList := by
  rcases s.step_cases v with ⟨b, c, rfl, hfree⟩ | ⟨b, i, rfl, hi⟩ | ⟨hsame, hnone, hbegin⟩
  · rw [append?, begin?, Option.toList_none, List.append_nil, calls_after_observes hfree,
      List.map_append]
    by_cases hb : b = a
    · rw [if_pos hb, if_pos ⟨hb, hfree⟩]
      rfl
    · rw [if_neg hb, if_neg fun h => hb h.1]
      rfl
  · rw [append?, begin?, hi, Option.toList_none, List.append_nil]
    exact congrArg _ (calls_after_appends hi past a)
  · rw [hsame, hnone, hbegin, Option.toList_none, List.append_nil, Option.toList_none,
      List.append_nil]

/-! ## All steps -/

theorem sound_new : ({} : SharedLog Caller).Sound [] where
  descending := .nil
  perm := .nil
  numbers := by
    intro n
    constructor
    · intro hn
      exact absurd hn (Nat.not_lt_zero n)
    · rintro (⟨e, he, -⟩ | ⟨a, i, hi, -⟩)
      · cases he
      · cases hi
  apart := by
    intro a i hi
    cases hi
  callers := fun _ => .nil

theorem Sound.afterAll (h : s.Sound past) (steps : List (LogStep Caller)) :
    (s.afterAll steps).Sound (past ++ s.appended steps) := by
  induction steps generalizing s past with
  | nil =>
    rw [appended, List.append_nil]
    exact h
  | cons v vs ih =>
    rw [appended, ← List.append_assoc]
    exact ih (h.after v)

theorem calls_afterAll (s : SharedLog Caller) (past : List (Caller × Invocation)) (a : Caller)
    (steps : List (LogStep Caller)) :
    (ofCaller a (past ++ s.appended steps) ++
        ((s.afterAll steps).observed a).toList).map (·.toCall) =
      (ofCaller a past ++ (s.observed a).toList).map (·.toCall) ++ s.made a steps := by
  induction steps generalizing s past with
  | nil =>
    rw [appended, made, List.append_nil, List.append_nil]
    rfl
  | cons v vs ih =>
    rw [appended, made, ← List.append_assoc, ← List.append_assoc, ← calls_after]
    exact ih (s.after v) (past ++ (s.append? v).toList)

/-- Being earlier in the log leaves no room for being later. -/
instance : Std.Antisymm fun d e : Invocation => d.seq < e.seq where
  antisymm _ _ h h' := absurd h' (Nat.lt_asymm h)

/-- When no call is on the way, the entries have the numbers from zero on. -/
theorem Sound.seq_entries (h : s.Sound past) (hnone : ∀ a, s.observed a = none) :
    s.log.entries.map (·.seq) = List.range s.log.nextSeq := by
  have hascending : (s.log.entries.map (·.seq)).Pairwise (· < ·) := by
    rw [List.pairwise_map]
    exact List.pairwise_reverse.mpr h.descending
  refine hascending.eq_of_mem_iff List.pairwise_lt_range ?_
  intro n
  rw [List.mem_range, h.numbers n, List.mem_map]
  constructor
  · rintro ⟨e, he, hn⟩
    exact Or.inl ⟨e, List.mem_reverse.mp he, hn⟩
  · rintro (⟨e, he, hn⟩ | ⟨a, i, hi, -⟩)
    · exact ⟨e, List.mem_reverse.mpr he, hn⟩
    · cases (hnone a).symm.trans hi

theorem Sound.settled (h : s.Sound past) (hnone : ∀ a, s.observed a = none) {n : Nat}
    {e : Invocation} (he : s.log.entries[n]? = some e) : e.seq = n := by
  have hseq : (List.range s.log.nextSeq)[n]? = some e.seq := by
    rw [← h.seq_entries hnone, List.getElem?_map, he]
    rfl
  obtain ⟨hlt, hn⟩ := List.getElem?_eq_some_iff.mp hseq
  exact hn.symm.trans (List.getElem_range hlt)

/-- Whatever the order of their steps, callers leave the log in order. -/
theorem inOrder_afterAll (steps : List (LogStep Caller)) :
    (({} : SharedLog Caller).afterAll steps).InOrder (({} : SharedLog Caller).appended steps)
      fun a => ({} : SharedLog Caller).made a steps := by
  have hnew : ({} : SharedLog Caller).Sound [] := sound_new
  have h := hnew.afterAll steps
  rw [List.nil_append] at h
  have hascending := List.pairwise_reverse.mpr h.descending
  have hperm := (List.reverse_perm _).trans h.perm
  constructor
  · exact hascending
  · exact hperm
  · intro a
    -- Both lists ascend and one is part of the other, so the order is the same.
    have hsubperm := (ofCaller_sublist a _).subperm.trans hperm.symm.subperm
    exact List.sublist_of_subperm_of_pairwise hsubperm (List.pairwise_append.mp (h.callers a)).1
      hascending
  · intro a
    have hcalls := calls_afterAll ({} : SharedLog Caller) [] a steps
    rwa [List.nil_append] at hcalls
  · intro hnone n e he
    exact h.settled hnone he

/-- Two callers append in the opposite order. -/
example (c : Call) : (({} : SharedLog Bool).afterAll
    [.observes true c, .observes false c, .appends false, .appends true]).log.entries.map (·.seq) =
      [0, 1] := rfl

end SharedLog

end Understudy

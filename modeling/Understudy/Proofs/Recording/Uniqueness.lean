import Understudy.Proofs.Recording.Iterations
import Understudy.Proofs.Replay.Event
import Understudy.Proofs.Replay.Told
import Understudy.Proofs.Value.Plain

/-!
# A lenient table holds no pattern twice

Recording replaces the first identical expectation of a lenient table. That leaves one of each kind
only if identity of patterns is an equivalence. It is one on patterns whose literals hold no
floating-point number: two such patterns are identical exactly if they have the same
`Pattern.gist`, which keeps of a matcher all that is compared of it. So a table without identical
patterns is one whose gists are distinct (`Table.Distinct`), and an expectation is either put in
the one place of its gist, which leaves the gists as they are, or appended with a new one
(`Table.Distinct.admits_add`).

Calls and bounds leave the patterns alone, so this holds after every history of a type
(`distinct_of_events`).
-/

namespace Understudy

/-! ## Identity of patterns -/

namespace Matcher

/-- All that is compared of a matcher. -/
inductive Gist where
  | exact (v : Value)
  | any
  | range (lo hi : Value)
  | predicate (key : Nat)

/-- Literals are compared apart from the widths of their integers, predicates by their keys. -/
def gist : Matcher → Gist
  | exact v => .exact v.plain
  | any => .any
  | range lo hi => .range lo.plain hi.plain
  | predicate p => .predicate p.key

/-- No literal of a matcher holds a floating-point number. -/
def FloatFree (m : Matcher) : Prop := ∀ v ∈ m.literals, v.floatFree = true

theorem equivalent_iff_gist_eq {m m' : Matcher} (h : m.FloatFree) (h' : m'.FloatFree) :
    m.equivalent m' = true ↔ m.gist = m'.gist := by
  cases m with
  | exact a =>
    cases m' with
    | exact b =>
      have ha : a.floatFree = true := h a (List.mem_singleton_self a)
      have hb : b.floatFree = true := h' b (List.mem_singleton_self b)
      rw [equivalent, gist, gist, Gist.exact.injEq, Value.same_iff_plain_eq ha hb]
    | _ => simp [equivalent, gist]
  | any => cases m' <;> simp [equivalent, gist]
  | range lo hi =>
    cases m' with
    | range lo' hi' =>
      simp only [FloatFree, literals, List.forall_mem_cons] at h h'
      rw [equivalent, Bool.and_eq_true, gist, gist, Gist.range.injEq,
        Value.same_iff_plain_eq h.1 h'.1, Value.same_iff_plain_eq h.2.1 h'.2.1]
    | _ => simp [equivalent, gist]
  | predicate p => cases m' <;> simp [equivalent, gist]

end Matcher

namespace Pattern

/-- No literal of a pattern holds a floating-point number. -/
def FloatFree (p : Pattern) : Prop := ∀ m ∈ p.args, m.FloatFree

/-- All that is compared of a pattern. -/
def gist (p : Pattern) : Target × String × List ValueType × List Matcher.Gist :=
  (p.target, p.signature.name, p.signature.params, p.args.map Matcher.gist)

/-- Identical patterns have equivalent matchers in the same places. -/
theorem identical_iff {p q : Pattern} : p.identical q = true ↔ p.target = q.target ∧
    p.signature.sameMethod q.signature = true ∧
      List.Forall₂ (fun m m' => Matcher.equivalent m m' = true) p.args q.args := by
  have heach : (List.zipWith Matcher.equivalent p.args q.args).all id = true ↔
      ∀ {m m'}, (m, m') ∈ p.args.zip q.args → m.equivalent m' = true := by
    rw [← List.map_uncurry_zip_eq_zipWith, List.all_map, List.all_eq_true, Prod.forall]
    rfl
  unfold identical
  rw [Bool.and_eq_true, Bool.and_eq_true, Bool.and_eq_true, decide_eq_true_iff, decide_eq_true_iff,
    and_assoc, and_assoc, heach, List.forall₂_iff_zip]

theorem forall₂_equivalent_iff {ms ms' : List Matcher} (h : ∀ m ∈ ms, m.FloatFree)
    (h' : ∀ m ∈ ms', m.FloatFree) :
    List.Forall₂ (fun m m' => Matcher.equivalent m m' = true) ms ms' ↔
      ms.map Matcher.gist = ms'.map Matcher.gist := by
  induction ms generalizing ms' with
  | nil => cases ms' <;> simp
  | cons m ms ih =>
    cases ms' with
    | nil => simp
    | cons m' ms' =>
      rw [List.forall_mem_cons] at h h'
      rw [List.forall₂_cons, List.map_cons, List.map_cons, List.cons.injEq, ih h.2 h'.2,
        Matcher.equivalent_iff_gist_eq h.1 h'.1]

/-- Identity of patterns is equality of their gists. -/
theorem identical_iff_gist_eq {p q : Pattern} (hp : p.FloatFree) (hq : q.FloatFree) :
    p.identical q = true ↔ p.gist = q.gist := by
  rw [identical_iff, forall₂_equivalent_iff hp hq, Signature.sameMethod_iff, gist, gist]
  simp [and_assoc]

end Pattern

/-! ## Tables without identical patterns -/

/-- Replacing an element by one that looks the same changes nothing in a list of looks. -/
theorem map_set_of_eq {α β : Type} (f : α → β) {xs : List α} {i : Nat} {old new : α}
    (hplace : xs[i]? = some old) (hsame : f new = f old) : (xs.set i new).map f = xs.map f := by
  obtain ⟨hlt, rfl⟩ := List.getElem?_eq_some_iff.mp hplace
  have hlt' : i < (xs.map f).length := by rwa [List.length_map]
  have hat : (xs.map f)[i] = f xs[i] := List.getElem_map f
  rw [List.map_set, hsame, ← hat, List.set_getElem_self]

namespace Table

variable {t t' : Table} {e : Expectation} {es : List Expectation}

/-- The patterns of a table, in table order. -/
def patterns (t : Table) : List Pattern := t.expectations.map (·.pattern)

/-- No two patterns of a table are identical, nor has any a floating-point literal. -/
structure Distinct (t : Table) : Prop where
  floatFree : ∀ p ∈ t.patterns, p.FloatFree
  nodup : (t.patterns.map Pattern.gist).Nodup

/-- What becomes of a table when one expectation is recorded: it takes the place of the only
identical one, or is appended if there is none. -/
inductive Admits (t : Table) (e : Expectation) : Table → Prop where
  | replaces {i : Nat} {old : Expectation} (place : t.expectations[i]? = some old)
      (identical : old.pattern.identical e.pattern = true)
      (only : ∀ j other, t.expectations[j]? = some other →
        other.pattern.identical e.pattern = true → j = i) :
      Admits t e { t with expectations := t.expectations.set i e }
  | appends (new : ∀ old ∈ t.expectations, old.pattern.identical e.pattern = false) :
      Admits t e { t with expectations := t.expectations ++ [e] }

theorem Distinct.of_patterns (h : t.Distinct) (hsame : t'.patterns = t.patterns) : t'.Distinct :=
  ⟨hsame ▸ h.floatFree, hsame ▸ h.nodup⟩

theorem distinct_of_empty (h : t.expectations = []) : t.Distinct := by
  have hnone : t.patterns = [] := by rw [patterns, h, List.map_nil]
  constructor
  · rw [hnone]
    exact fun _ => nofun
  · rw [hnone]
    exact List.nodup_nil

theorem Distinct.floatFree_of_mem (h : t.Distinct) (he : e ∈ t.expectations) :
    e.pattern.FloatFree := h.floatFree _ (List.mem_map_of_mem he)

/-- Identical patterns stand in one place. -/
theorem Distinct.eq_of_identical (h : t.Distinct) {i j : Nat} {d e : Expectation}
    (hi : t.expectations[i]? = some d) (hj : t.expectations[j]? = some e)
    (hid : d.pattern.identical e.pattern = true) : i = j := by
  have hd := h.floatFree_of_mem (List.mem_of_getElem? hi)
  have he := h.floatFree_of_mem (List.mem_of_getElem? hj)
  have hgist := (Pattern.identical_iff_gist_eq hd he).mp hid
  have hlt : i < (t.patterns.map Pattern.gist).length := by
    rw [patterns, List.length_map, List.length_map]
    exact (List.getElem?_eq_some_iff.mp hi).1
  refine (List.getElem?_inj hlt h.nodup).mp ?_
  simp [patterns, hi, hj, hgist]

/-- An expectation is put in its place, if there is one. -/
theorem add_of_place_lt (h : t.placeFor e < t.expectations.length) :
    t.add e = { t with expectations := t.expectations.set (t.placeFor e) e } := by
  have hexp : (t.add e).expectations = t.expectations.set (t.placeFor e) e := by
    refine List.ext_getElem? fun i => ?_
    rw [getElem?_add, List.getElem?_set]
    by_cases hi : i = t.placeFor e
    · rw [if_pos hi, if_pos hi.symm, if_pos h]
    · rw [if_neg hi, if_neg (Ne.symm hi)]
  rw [← hexp]
  rfl

/-- It is appended if its place is the end. -/
theorem add_of_place_eq (h : t.placeFor e = t.expectations.length) :
    t.add e = { t with expectations := t.expectations ++ [e] } := by
  have hexp : (t.add e).expectations = t.expectations ++ [e] := by
    refine List.ext_getElem? fun i => ?_
    rw [getElem?_add, h]
    by_cases hi : i = t.expectations.length
    · rw [if_pos hi, hi, List.getElem?_concat_length]
    · rw [if_neg hi]
      by_cases hlt : i < t.expectations.length
      · rw [List.getElem?_append_left hlt]
      · have hlen : (t.expectations ++ [e]).length ≤ i := by
          rw [List.length_append, List.length_singleton]
          omega
        rw [List.getElem?_eq_none hlen, List.getElem?_eq_none (by omega)]
  rw [← hexp]
  rfl

theorem placeFor_of_lenient (hl : t.options.strictness = .lenient) (e : Expectation) :
    t.placeFor e = t.expectations.findIdx fun old => old.pattern.identical e.pattern := by
  rw [placeFor, hl]

/-- What an expectation replaces in a lenient table has an identical pattern. -/
theorem identical_of_place {old : Expectation} (hl : t.options.strictness = .lenient)
    (hold : t.expectations[t.placeFor e]? = some old) :
    old.pattern.identical e.pattern = true := by
  rw [placeFor_of_lenient hl] at hold
  obtain ⟨hfound, rfl⟩ := List.getElem?_eq_some_iff.mp hold
  exact List.findIdx_getElem (w := hfound)

/-- A new expectation takes the place of the only identical one of a lenient table, or the end. -/
theorem Distinct.admits_add (h : t.Distinct) (hl : t.options.strictness = .lenient)
    (he : e.pattern.FloatFree) : t.Admits e (t.add e) := by
  have hplace := placeFor_of_lenient hl e
  by_cases hlt : t.placeFor e < t.expectations.length
  · obtain ⟨old, hold⟩ : ∃ old, t.expectations[t.placeFor e]? = some old :=
      ⟨_, List.getElem?_eq_getElem hlt⟩
    have hid := identical_of_place hl hold
    rw [add_of_place_lt hlt]
    refine .replaces hold hid fun j other hother hid' => ?_
    -- Both are identical with the new one, and so with each other.
    have hfree := h.floatFree_of_mem (List.mem_of_getElem? hold)
    have hfree' := h.floatFree_of_mem (List.mem_of_getElem? hother)
    refine h.eq_of_identical hother hold ((Pattern.identical_iff_gist_eq hfree' hfree).mpr ?_)
    rw [(Pattern.identical_iff_gist_eq hfree' he).mp hid',
      (Pattern.identical_iff_gist_eq hfree he).mp hid]
  · have hend : t.placeFor e = t.expectations.length := by
      have hle : t.placeFor e ≤ t.expectations.length := by
        rw [hplace]
        exact List.findIdx_le_length
      omega
    rw [add_of_place_eq hend]
    refine .appends fun old hold => ?_
    rw [hplace] at hend
    exact List.findIdx_eq_length.mp hend old hold

/-- Neither of the two brings a second one of a kind. -/
theorem Distinct.of_admits (h : t.Distinct) (he : e.pattern.FloatFree) (ha : t.Admits e t') :
    t'.Distinct := by
  cases ha with
  | @replaces i old hplace hid honly =>
    have hgist := (Pattern.identical_iff_gist_eq
      (h.floatFree_of_mem (List.mem_of_getElem? hplace)) he).mp hid
    refine ⟨fun p hp => ?_, ?_⟩
    · obtain ⟨d, hd, rfl⟩ := List.mem_map.mp hp
      rcases List.mem_or_eq_of_mem_set hd with hin | rfl
      · exact h.floatFree_of_mem hin
      · exact he
    · -- The new entry has the gist of the one that it replaces, so the list of gists is as it was.
      have hsame : (t.expectations.set i e).map (·.pattern.gist) =
          t.expectations.map (·.pattern.gist) := map_set_of_eq (·.pattern.gist) hplace hgist.symm
      have hnodup := h.nodup
      rw [patterns, List.map_map] at hnodup ⊢
      exact hsame ▸ hnodup
  | appends hnew =>
    have hpatterns : ({ t with expectations := t.expectations ++ [e] } : Table).patterns =
        t.patterns ++ [e.pattern] := by
      rw [patterns, List.map_append]
      rfl
    refine ⟨?_, ?_⟩
    · rw [hpatterns]
      intro p hp
      rcases List.mem_append.mp hp with hin | hin
      · exact h.floatFree p hin
      · rw [List.mem_singleton.mp hin]
        exact he
    · rw [hpatterns, List.map_append, List.map_singleton,
        List.perm_append_comm.nodup_iff]
      -- An old entry of the same gist would be identical, and would have been replaced.
      refine List.nodup_cons.mpr ⟨fun hmem => ?_, h.nodup⟩
      obtain ⟨p, hp, hgist⟩ := List.mem_map.mp hmem
      obtain ⟨old, hold, rfl⟩ := List.mem_map.mp hp
      have hid := (Pattern.identical_iff_gist_eq (h.floatFree_of_mem hold) he).mpr hgist
      rw [hnew old hold] at hid
      cases hid

theorem Distinct.add (h : t.Distinct) (hl : t.options.strictness = .lenient)
    (he : e.pattern.FloatFree) : (t.add e).Distinct := h.of_admits he (h.admits_add hl he)

@[simp] theorem addAll_options (t : Table) (es : List Expectation) :
    (t.addAll es).options = t.options := by
  rw [addAll_eq_foldl]
  induction es generalizing t with
  | nil => rfl
  | cons e es ih => exact ih (t.add e)

theorem addAll_concat (t : Table) (es : List Expectation) (e : Expectation) :
    t.addAll (es ++ [e]) = (t.addAll es).add e := by
  rw [addAll_eq_foldl, addAll_eq_foldl, List.foldl_append, List.foldl_cons, List.foldl_nil]

theorem Distinct.addAll (h : t.Distinct) (hl : t.options.strictness = .lenient)
    (hes : ∀ e ∈ es, e.pattern.FloatFree) : (t.addAll es).Distinct := by
  induction es generalizing t with
  | nil =>
    rw [addAll_nil]
    exact h
  | cons e es ih =>
    rw [List.forall_mem_cons] at hes
    rw [addAll_cons]
    exact ih (h.add hl hes.1) hl hes.2

/-- Calls leave the patterns alone. -/
theorem patterns_step (t : Table) (c : Invocation) : (t.step c).2.patterns = t.patterns := by
  cases hr : t.resolve c with
  | error err => rw [step_of_error hr]
  | ok p =>
    obtain ⟨r, t'⟩ := p
    rw [step_of_ok hr]
    rcases resolve_cases hr with ⟨rfl, -⟩ | ⟨i, d, hd, -, -, -, -, hexp⟩
    · rfl
    · rw [patterns, hexp]
      exact map_set_of_eq _ hd rfl

/-- So do other bounds. -/
theorem patterns_setBounds {i : Nat} {b : Bounds} (h : t.setBounds i b = .ok t') :
    t'.options = t.options ∧ t'.patterns = t.patterns := by
  unfold setBounds at h
  cases hd : t.expectations[i]? with
  | none =>
    rw [hd] at h
    cases h
    exact ⟨rfl, rfl⟩
  | some d =>
    rw [hd] at h
    dsimp only at h
    split at h
    · cases h
    · cases h
      exact ⟨rfl, map_set_of_eq _ hd rfl⟩

end Table

/-! ## Histories -/

/-- No draft of a block for a type has a floating-point literal. -/
def Recording.FloatFreeFor (T : String) (r : Recording) : Prop :=
  ∀ d ∈ r.drafts, d.pattern.target.typeName = T → d.pattern.FloatFree

namespace Session

variable {s : Session} {T : String} {t : Table} {v : Event} {r : Recording}

/-- A type has no identical patterns, if it is lenient. -/
def DistinctFor (T : String) (s : Session) : Prop :=
  ∀ t, s.table? T = some t → t.options.strictness = .lenient → t.Distinct

/-- Every event keeps the patterns of a lenient type distinct. -/
theorem DistinctFor.after (h : s.DistinctFor T)
    (hfree : ∀ r, v = .closesRecord r → r.FloatFreeFor T) : (s.after v).DistinctFor T := by
  intro t' ht' hl
  have hfate := tableFate_after s v T
  rw [ht'] at hfate
  generalize hout : some t' = out at hfate
  -- Only a block brings new patterns, and all of those are free of floats.
  cases hfate with
  | declared =>
    cases hout
    exact Table.distinct_of_empty rfl
  | @recorded r es t ha ht =>
    cases hout
    rw [Table.addAll_options] at hl
    refine (h t ht hl).addAll hl fun e he => ?_
    obtain ⟨d, hd, t, -, -, heq⟩ := mem_assemble ha _ (mem_ofType.mp he)
    cases heq
    exact hfree r rfl d hd rfl
  | @resolved c t hc ht =>
    cases hout
    rw [Table.step_options] at hl
    exact (h t ht hl).of_patterns (Table.patterns_step ..)
  | @rebound i b t t'' ht hset =>
    cases hout
    obtain ⟨hoptions, hpatterns⟩ := Table.patterns_setBounds hset
    rw [hoptions] at hl
    exact (h t ht hl).of_patterns hpatterns
  | kept => exact h t' hout.symm hl

theorem DistinctFor.afterAll (h : s.DistinctFor T) {events : List Event}
    (hfree : ∀ r, .closesRecord r ∈ events → r.FloatFreeFor T) :
    (s.afterAll events).DistinctFor T := by
  induction events generalizing s with
  | nil => exact h
  | cons v vs ih =>
    refine ih (h.after ?_) fun r hr => hfree r (List.mem_cons_of_mem _ hr)
    rintro r rfl
    exact hfree r (List.mem_cons_self ..)

theorem distinctFor_new (config : Config) (T : String) : ({ config } : Session).DistinctFor T := by
  intro t ht
  cases ht

/-- A valid block adds to a lenient type one expectation for each of its drafts. -/
theorem table?_closeRecord_of_lenient (ht : s.table? T = some t)
    (hl : t.options.strictness = .lenient) (hok : (s.closeRecord r).1 = .ok ()) :
    (s.closeRecord r).2.table? T =
      some (t.addAll (recordedFor T t.options r.iterations r.drafts)) := by
  obtain ⟨hn, htakes⟩ := takes_of_closeRecord hok
  obtain ⟨-, htables⟩ := closeRecord_of_takes hn htakes
  have htable := htables T t ht
  rw [recordedFor_of_lenient hl, filter_ordered_multipliedFor] at htable
  rw [recordedFor_of_lenient hl]
  simpa [writtenOut] using htable

/-- Whatever was recorded without floating-point literals, a lenient type has no two identical
patterns. What is recorded next takes the place of the identical expectation or is appended, one
after another. -/
theorem distinct_of_events (config : Config) (events : List Event)
    (hevents : ∀ r, .closesRecord r ∈ events → r.FloatFreeFor T)
    (ht : (({ config } : Session).afterAll events).table? T = some t)
    (hl : t.options.strictness = .lenient) :
    (∀ (i j : Nat) (d e : Expectation), t.expectations[i]? = some d → t.expectations[j]? = some e →
      d.pattern.identical e.pattern = true → i = j) ∧
    ∀ r : Recording, r.FloatFreeFor T →
      ((({ config } : Session).afterAll events).closeRecord r).1 = .ok () →
      ((({ config } : Session).afterAll events).closeRecord r).2.table? T =
        some (t.addAll (recordedFor T t.options r.iterations r.drafts)) ∧
      ∀ before e after, recordedFor T t.options r.iterations r.drafts = before ++ e :: after →
        e.counter.count = 0 ∧ e.lastMatched = none ∧
        (t.addAll before).Admits e (t.addAll (before ++ [e])) := by
  have hdistinct := (distinctFor_new config T).afterAll hevents t ht hl
  refine ⟨fun _ _ _ _ hd he => hdistinct.eq_of_identical hd he, fun r hr hok =>
    ⟨table?_closeRecord_of_lenient ht hl hok, fun before e after hsplit => ?_⟩⟩
  -- What is recorded has never been called, and comes from drafts that are free of floats.
  have hmem : ∀ d ∈ before ++ e :: after, d.counter.count = 0 ∧ d.lastMatched = none ∧
      d.pattern.FloatFree := by
    rw [← hsplit]
    intro d hd
    obtain ⟨draft, hdraft, rfl⟩ := List.mem_map.mp hd
    rw [List.mem_filter] at hdraft
    exact ⟨rfl, rfl, hr draft hdraft.1 (by simpa using hdraft.2)⟩
  obtain ⟨hbefore, he⟩ := List.forall_mem_append.mp hmem
  obtain ⟨hcount, hlast, hfree⟩ := he e (List.mem_cons_self ..)
  rw [Table.addAll_concat]
  refine ⟨hcount, hlast, (hdistinct.addAll hl fun d hd => (hbefore d hd).2.2).admits_add ?_ hfree⟩
  rw [Table.addAll_options, hl]

/-- The weighing of one value. -/
def weighing (v : Value) : Draft :=
  { pattern := ⟨⟨"Scale", none⟩, ⟨"weigh", [.float .f64], .str⟩, [.exact v], "here"⟩ }

/-- A lenient scale on which two weighings are recorded, and one of them is done. -/
def weighed : List Event :=
  [.declares "Scale" ⟨.lenient, .total⟩,
    .closesRecord ⟨[weighing (.int .i32 1), weighing (.int .i64 2)], 1⟩,
    .resolves ⟨⟨"Scale", none⟩, ⟨"weigh", [.float .f64], .str⟩, [.int .i64 1], .home⟩]

/-- The scale with the two of them. -/
def recordedScale : Table :=
  { options := ⟨.lenient, .total⟩
    expectations :=
      [⟨(weighing (.int .i32 1)).pattern, [], ⟨⟨0, none⟩, 0⟩, false, none⟩,
        ⟨(weighing (.int .i64 2)).pattern, [], ⟨⟨0, none⟩, 0⟩, false, none⟩] }

/-- The scale afterwards. -/
def weighedScale : Table :=
  { options := ⟨.lenient, .total⟩
    expectations :=
      [⟨(weighing (.int .i32 1)).pattern, [], ⟨⟨0, none⟩, 1⟩, false, some 1⟩,
        ⟨(weighing (.int .i64 2)).pattern, [], ⟨⟨0, none⟩, 0⟩, false, none⟩]
    answered := 1 }

theorem table?_weighed : (({} : Session).afterAll weighed).table? "Scale" = some weighedScale := by
  -- Neither of the two was done yet, so they were asked in their order.
  have hcandidates : recordedScale.candidates = recordedScale.numbered :=
    List.mergeSort_of_pairwise (by decide)
  have hresolve : recordedScale.resolve
      ⟨⟨⟨"Scale", none⟩, ⟨"weigh", [.float .f64], .str⟩, [.int .i64 1], .home⟩, 0⟩ =
        .ok (.matched 0 0 ⟨0, none⟩ (.returns (.str "")), weighedScale) := by
    show recordedScale.resolveLenient _ = _
    unfold Table.resolveLenient
    rw [hcandidates]
    rfl
  have hstep := congrArg Prod.snd (Table.step_of_ok hresolve)
  show (((({} : Session).afterAll (weighed.take 2)).after
    (.resolves ⟨⟨"Scale", none⟩, ⟨"weigh", [.float .f64], .str⟩, [.int .i64 1], .home⟩)).table?
      "Scale") = _
  rw [table?_after_resolves]
  exact congrArg some hstep

theorem floatFree_weighing {v : Value} (h : v.floatFree = true) :
    (weighing v).pattern.FloatFree := by
  intro m hm
  cases List.mem_singleton.mp hm
  intro v' hv
  cases List.mem_singleton.mp hv
  exact h

theorem floatFreeFor_weighed : ∀ r, .closesRecord r ∈ weighed → r.FloatFreeFor "Scale" := by
  intro r hr
  simp only [weighed, List.mem_cons, List.not_mem_nil, reduceCtorEq, Event.closesRecord.injEq,
    false_or, or_false] at hr
  subst hr
  simp only [Recording.FloatFreeFor, List.forall_mem_cons]
  exact ⟨fun _ => floatFree_weighing rfl, fun _ => floatFree_weighing rfl, fun _ => nofun⟩

/-- Weighing one is recorded again, in another width. It takes the first place of the two, with no
call counted. -/
theorem distinct_of_events_weighed :
    (({} : Session).afterAll weighed).table? "Scale" = some weighedScale ∧
    weighedScale.expectations.map (·.counter.count) = [1, 0] ∧
    ∃ new, ((({} : Session).afterAll weighed).closeRecord
        ⟨[weighing (.int .u8 1)], 1⟩).2.table? "Scale" =
          some { weighedScale with expectations := weighedScale.expectations.set 0 new } ∧
      new.counter.count = 0 ∧ new.lastMatched = none := by
  have hrecorded : ((({} : Session).afterAll weighed).closeRecord
      ⟨[weighing (.int .u8 1)], 1⟩).1 = .ok () := by
    unfold closeRecord commit assemble assembleDrafts
    rw [show (weighing (.int .u8 1)).pattern.target.typeName = "Scale" from rfl, table?_weighed]
    rfl
  obtain ⟨-, hrecords⟩ := distinct_of_events {} weighed floatFreeFor_weighed table?_weighed rfl
  obtain ⟨htable, hsteps⟩ := hrecords ⟨[weighing (.int .u8 1)], 1⟩
    (fun d hd _ => List.mem_singleton.mp hd ▸ floatFree_weighing rfl) hrecorded
  obtain ⟨hcount, hlast, hadmits⟩ := hsteps [] _ [] rfl
  rw [show recordedFor "Scale" weighedScale.options 1 [weighing (.int .u8 1)] =
    [] ++ [(weighing (.int .u8 1)).recorded weighedScale.options 1] from rfl] at htable
  rw [Table.addAll_nil] at hadmits
  generalize weighedScale.addAll ([] ++ [_]) = t at htable hadmits
  refine ⟨table?_weighed, rfl, _, ?_, hcount, hlast⟩
  rw [htable]
  cases hadmits with
  | @replaces i old hplace hid honly =>
    obtain rfl : 0 = i := honly 0 _ rfl rfl
    rfl
  | appends hnew =>
    have hfirst : (weighing (.int .i32 1)).pattern.identical (weighing (.int .u8 1)).pattern =
        false := hnew _ (List.mem_cons_self ..)
    cases hfirst

end Session

end Understudy

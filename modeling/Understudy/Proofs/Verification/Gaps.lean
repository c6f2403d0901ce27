import Mathlib.Data.List.Sort
import Understudy.Proofs.Verification.Counts
import Understudy.Proofs.Verification.Rounds

/-!
# What gaps allow

The gaps of an in-order block cut its steps into stretches. `Tiles` is what gaps mean: the
calls on the types of the block are those that the first stretch consumed, then calls that no
step consumed, then those of the second stretch, and so on to the last. `gaps_tile_iff` says
that a check reports no unverified call exactly if the log is made up in this way, whatever
else the check found.

The check compares positions instead. It takes from each stretch the positions it reaches over
and reports what was not consumed there. `straysFrom_eq_nil_iff` leads from one to the other,
stretch by stretch, and rests on the calls of different stretches lying apart
(`Apart.behind`). That they do, even in a walk that found something wrong, is
`consumed_walk`.
-/

namespace Understudy

/-- A list is made of parts with gaps between them, only free elements standing in a gap. -/
inductive Tiles {α : Type} (free : α → Prop) : List α → List (List α) → Prop where
  | last (w : List α) : Tiles free w [w]
  | gap {w g rest : List α} {ws : List (List α)} (hg : ∀ c ∈ g, free c) (h : Tiles free rest ws) :
      Tiles free (w ++ (g ++ rest)) (w :: ws)

/-- Whether no step consumed a call. -/
def Walked.leaves (w : Walked) (c : Located) : Bool := !(positions (consumedCalls w)).contains c.1

/-- The calls that the stretches of a walk consumed, the steps being cut at the gaps. -/
def Walked.parts (w : Walked) : List (List Located) :=
  (w.splitOnP (·.1.isGap)).map consumedCalls

/-- Whether a block mentions the type of a call. -/
def Block.mentions (b : Block) (c : Invocation) : Bool :=
  b.claims.any fun claim => claim.pattern.target.typeName = c.target.typeName

/-- The call that a mismatch reports as unverified. -/
def Mismatch.unverified? : Mismatch → Option Invocation
  | unverified c => some c
  | _ => none

/-- The calls that a verdict reports as unverified. -/
def Verdict.unverified (v : Verdict) : List Invocation :=
  v.mismatches.filterMap Mismatch.unverified?

/-! ## Calls in their places -/

section Places

variable {log g w rest : List Located} {p lo top : Nat} {free : Located → Bool}

/-- A position cuts a log in two. -/
theorem filter_lt_append_filter_le (h : log.Pairwise (·.1 < ·.1)) (p : Nat) :
    log.filter (·.1 < p) ++ log.filter (p ≤ ·.1) = log := by
  induction log with
  | nil => rfl
  | cons c log ih =>
    obtain ⟨hc, hlog⟩ := List.pairwise_cons.mp h
    by_cases hp : c.1 < p
    · rw [List.filter_cons_of_pos (by simpa using hp), List.filter_cons_of_neg (by simpa using hp),
        List.cons_append, ih hlog]
    · -- The first call is behind the position, so all others are.
      have hnone : log.filter (·.1 < p) = [] := by
        refine List.filter_eq_nil_iff.mpr fun d hd => ?_
        have := hc d hd
        simp only [decide_eq_true_eq]
        omega
      have hall : log.filter (p ≤ ·.1) = log := by
        refine List.filter_eq_self.mpr fun d hd => ?_
        have := hc d hd
        simp only [decide_eq_true_eq]
        omega
      rw [List.filter_cons_of_neg (by simpa using hp), hnone,
        List.filter_cons_of_pos (by simp only [decide_eq_true_eq]; omega), hall, List.nil_append]

/-- Calls that are not in front stand behind. -/
theorem sublist_behind {vs : List Located} (h : vs.Sublist (g ++ rest)) (hg : ∀ c ∈ vs, c ∉ g) :
    vs.Sublist rest := by
  obtain ⟨front, back, rfl, hfront, hback⟩ := List.sublist_append_iff.mp h
  cases front with
  | nil => exact hback
  | cons c front =>
    exact absurd (hfront.subset (List.mem_cons_self ..)) (hg c (List.mem_cons_self ..))

/-- If nothing is free between two positions, the consumed calls are all calls there. -/
theorem between_eq_of_filter_free (hlog : log.Pairwise (·.1 < ·.1)) (hw : w.Sublist log)
    (hin : ∀ c ∈ w, lo ≤ c.1 ∧ c.1 < top)
    (hfree : ∀ c ∈ log, lo ≤ c.1 → c.1 < top → (free c = true ↔ c ∉ w))
    (hnone : (log.filter fun c => lo ≤ c.1 && c.1 < top && free c) = []) :
    (log.filter (lo ≤ ·.1)).filter (·.1 < top) = w := by
  have hkept : (w.filter (lo ≤ ·.1)).filter (·.1 < top) = w := by
    rw [List.filter_filter]
    exact List.filter_eq_self.mpr fun c hc => by simpa using (hin c hc).symm
  have hsub : w.Sublist ((log.filter (lo ≤ ·.1)).filter (·.1 < top)) := by
    conv => lhs; rw [← hkept]
    exact (hw.filter _).filter _
  have hall : (log.filter (lo ≤ ·.1)).filter (·.1 < top) ⊆ w := by
    intro c hc
    obtain ⟨hc, hhigh⟩ := List.mem_filter.mp hc
    obtain ⟨hc, hlow⟩ := List.mem_filter.mp hc
    simp only [decide_eq_true_eq] at hlow hhigh
    by_contra hout
    have hf := List.filter_eq_nil_iff.mp hnone c hc
    exact hf (by simp [hlow, hhigh, (hfree c hc hlow hhigh).mpr hout])
  have hnodup := ((nodup_of_ascending hlog).filter (lo ≤ ·.1)).filter (·.1 < top)
  exact (hsub.eq_of_length_le (hnodup.subperm hall).length_le).symm

/-- Nothing is free between two positions exactly if the log can be cut around the consumed
calls. -/
theorem filter_free_eq_nil_iff (hlog : log.Pairwise (·.1 < ·.1)) (hw : w.Sublist log)
    (hin : ∀ c ∈ w, lo ≤ c.1 ∧ c.1 < top)
    (hfree : ∀ c ∈ log, lo ≤ c.1 → c.1 < top → (free c = true ↔ c ∉ w)) :
    (log.filter fun c => lo ≤ c.1 && c.1 < top && free c) = [] ↔
      ∃ g rest, log = g ++ (w ++ rest) ∧ (∀ c ∈ g, c.1 < lo) ∧ ∀ c ∈ rest, top ≤ c.1 := by
  constructor
  · intro hnone
    -- The log is cut at both ends of the stretch. Without strays the middle is what was consumed.
    refine ⟨log.filter (·.1 < lo), (log.filter (lo ≤ ·.1)).filter (top ≤ ·.1), ?_, ?_, ?_⟩
    · rw [← between_eq_of_filter_free hlog hw hin hfree hnone,
        filter_lt_append_filter_le (hlog.filter _), filter_lt_append_filter_le hlog]
    · intro c hc
      exact of_decide_eq_true (List.mem_filter.mp hc).2
    · intro c hc
      exact of_decide_eq_true (List.mem_filter.mp hc).2
  · rintro ⟨g, rest, rfl, hg, hrest⟩
    refine List.filter_eq_nil_iff.mpr fun c hc hstray => ?_
    simp only [Bool.and_eq_true, decide_eq_true_eq] at hstray
    obtain ⟨⟨hlow, hhigh⟩, hf⟩ := hstray
    have hout := (hfree c hc hlow hhigh).mp hf
    rcases List.mem_append.mp hc with hin | hin
    · exact Nat.not_lt.mpr hlow (hg c hin)
    · rcases List.mem_append.mp hin with hin | hin
      · exact hout hin
      · exact Nat.not_le.mpr hhigh (hrest c hin)

end Places

/-! ## Stretches -/

/-- The calls that stretches consumed stand in a log in the order of the stretches, and all others
are free. -/
structure Apart (free : Located → Bool) (log : List Located) (ws : List (List Located)) : Prop where
  ascending : log.Pairwise (·.1 < ·.1)
  consumed : ws.flatten.Sublist log
  free_iff : ∀ c ∈ log, free c = true ↔ c ∉ ws.flatten

section Stretches

variable {free : Located → Bool} {log g w rest : List Located} {ws : List (List Located)}
variable {n : Nat} {isFirst isLast : Bool}

/-- What stands behind a stretch are the later ones. -/
theorem Apart.behind (h : Apart free (g ++ (w ++ rest)) (w :: ws)) (hw : w ≠ []) :
    Apart free rest ws ∧ ∀ c ∈ g ++ w, ∀ d ∈ ws.flatten, c.1 < d.1 := by
  obtain ⟨first, hfirst⟩ := List.exists_mem_of_ne_nil w hw
  obtain ⟨-, hwr, hgwr⟩ := List.pairwise_append.mp h.ascending
  obtain ⟨-, hrest, hwrest⟩ := List.pairwise_append.mp hwr
  have hconsumed : (w ++ ws.flatten).Sublist (g ++ (w ++ rest)) := h.consumed
  have hlater := (List.pairwise_append.mp (h.ascending.sublist hconsumed)).2.2
  -- What is consumed later lies behind the part, hence neither in front of it nor in it.
  have hsub : ws.flatten.Sublist rest := by
    have hall : ws.flatten.Sublist (g ++ (w ++ rest)) :=
      (List.sublist_append_right ..).trans hconsumed
    refine sublist_behind (sublist_behind hall ?_) ?_
    · intro c hc hcg
      have hbehind := hlater first hfirst c hc
      have hbefore := hgwr c hcg first (List.mem_append_left _ hfirst)
      omega
    · intro c hc hcw
      exact Nat.lt_irrefl _ (hlater c hcw c hc)
  refine ⟨⟨hrest, hsub, ?_⟩, ?_⟩
  · intro c hc
    have hnot : c ∉ w := fun hcw => Nat.lt_irrefl _ (hwrest c hcw c hc)
    have hall := h.free_iff c (List.mem_append_right _ (List.mem_append_right _ hc))
    rw [List.flatten_cons, List.mem_append, not_or] at hall
    exact hall.trans (and_iff_right hnot)
  · intro c hc d hd
    have hdrest := hsub.subset hd
    rcases List.mem_append.mp hc with hcg | hcw
    · exact hgwr c hcg d (List.mem_append_right _ hdrest)
    · exact hwrest c hcw d hdrest

/-- The positions that a stretch reaches over if it consumed something. -/
theorem extent_of_ne_nil (n : Nat) (isFirst isLast : Bool) (hw : w ≠ []) :
    ∃ first ∈ w, ∃ last ∈ w, (∀ c ∈ w, first.1 ≤ c.1 ∧ c.1 ≤ last.1) ∧
      extent n isFirst isLast w =
        some (if isFirst then 0 else first.1, if isLast then n else last.1 + 1) := by
  have hne : positions w ≠ [] := mt List.map_eq_nil_iff.mp hw
  obtain ⟨low, hlow⟩ := Option.ne_none_iff_exists'.mp (mt List.min?_eq_none_iff.mp hne)
  obtain ⟨high, hhigh⟩ := Option.ne_none_iff_exists'.mp (mt List.max?_eq_none_iff.mp hne)
  obtain ⟨hlowmem, hleast⟩ := List.min?_eq_some_iff.mp hlow
  obtain ⟨hhighmem, hgreatest⟩ := List.max?_eq_some_iff.mp hhigh
  obtain ⟨first, hfirst, rfl⟩ := List.mem_map.mp hlowmem
  obtain ⟨last, hlast, rfl⟩ := List.mem_map.mp hhighmem
  refine ⟨first, hfirst, last, hlast, ?_, ?_⟩
  · intro c hc
    exact ⟨hleast _ (List.mem_map_of_mem hc), hgreatest _ (List.mem_map_of_mem hc)⟩
  · rw [extent, hlow, hhigh]
    rfl

/-- A stretch that consumed nothing reports nothing. -/
theorem straysFrom_nil_cons : straysFrom log n free isFirst ([] :: ws) =
    straysFrom log n free false ws := rfl

/-- Later stretches do not reach back to calls before them. -/
theorem straysFrom_append (h : ∀ c ∈ g, ∀ d ∈ ws.flatten, c.1 < d.1) :
    straysFrom (g ++ log) n free false ws = straysFrom log n free false ws := by
  induction ws with
  | nil => rfl
  | cons w ws ih =>
    have hrest := ih fun c hc d hd => h c hc d (List.mem_append_right _ hd)
    by_cases hw : w = []
    · subst hw
      exact hrest
    · obtain ⟨first, hfirst, last, -, -, hextent⟩ := extent_of_ne_nil n false ws.isEmpty hw
      have hnone : (g.filter fun c => first.1 ≤ c.1 &&
          c.1 < (if ws.isEmpty = true then n else last.1 + 1) && free c) = [] := by
        refine List.filter_eq_nil_iff.mpr fun c hc => ?_
        have := h c hc first (List.mem_append_left _ hfirst)
        simp only [Bool.and_eq_true, decide_eq_true_eq]
        omega
      rw [straysFrom, straysFrom, hextent, hrest]
      dsimp only
      rw [if_neg Bool.false_ne_true, List.filter_append, hnone, List.nil_append]

/-- No call strays from a stretch and the later ones exactly if the log can be cut around what the
stretch consumed, with nothing in front of the first one and nothing behind the last. -/
theorem straysFrom_cons_eq_nil_iff (h : Apart free log (w :: ws)) (hn : ∀ c ∈ log, c.1 < n)
    (hw : w ≠ []) : straysFrom log n free isFirst (w :: ws) = [] ↔
      ∃ g rest, log = g ++ (w ++ rest) ∧ (isFirst = true → g = []) ∧ (ws = [] → rest = []) ∧
        straysFrom rest n free false ws = [] := by
  obtain ⟨first, hfirst, last, hlast, hwithin, hextent⟩ := extent_of_ne_nil n isFirst ws.isEmpty hw
  have hconsumed : (w ++ ws.flatten).Sublist log := h.consumed
  have hsub : w.Sublist log := (List.sublist_append_left ..).trans hconsumed
  have hlater := (List.pairwise_append.mp (h.ascending.sublist hconsumed)).2.2 last hlast
  have hin : ∀ c ∈ w, (if isFirst = true then 0 else first.1) ≤ c.1 ∧
      c.1 < (if ws.isEmpty = true then n else last.1 + 1) := by
    intro c hc
    obtain ⟨hlow, hhigh⟩ := hwithin c hc
    have hlt := hn c (hsub.subset hc)
    split <;> split <;> omega
  -- In the stretch of this part, the calls that no other part consumed are those not in it.
  have hfree : ∀ c ∈ log, (if isFirst = true then 0 else first.1) ≤ c.1 →
      c.1 < (if ws.isEmpty = true then n else last.1 + 1) → (free c = true ↔ c ∉ w) := by
    intro c hc _ hhigh
    have hnot : c ∉ ws.flatten := by
      intro hcw
      have := hlater c hcw
      split at hhigh
      · next hnone =>
        rw [List.isEmpty_iff.mp hnone] at hcw
        cases hcw
      · omega
    have hall := h.free_iff c hc
    rw [List.flatten_cons, List.mem_append, not_or] at hall
    exact hall.trans (and_iff_left hnot)
  have hcut := filter_free_eq_nil_iff h.ascending hsub hin hfree
  rw [straysFrom, hextent]
  dsimp only
  rw [List.append_eq_nil_iff, List.map_eq_nil_iff, hcut]
  constructor
  · rintro ⟨⟨g, rest, rfl, hg, hrest⟩, hstrays⟩
    refine ⟨g, rest, rfl, ?_, ?_, ?_⟩
    · intro hf
      rw [if_pos hf] at hg
      exact List.eq_nil_iff_forall_not_mem.mpr fun c hc => Nat.not_lt_zero _ (hg c hc)
    · intro hnil
      rw [hnil, List.isEmpty_nil, if_pos rfl] at hrest
      refine List.eq_nil_iff_forall_not_mem.mpr fun c hc => ?_
      have hlt := hn c (List.mem_append_right _ (List.mem_append_right _ hc))
      exact Nat.not_le.mpr hlt (hrest c hc)
    · rwa [← List.append_assoc, straysFrom_append (h.behind hw).2] at hstrays
  · rintro ⟨g, rest, rfl, hg, hrest, hstrays⟩
    obtain ⟨-, hwr, hbefore⟩ := List.pairwise_append.mp h.ascending
    -- A call in front of the part comes before its first one, and a call behind it after its last.
    have hbehind := (List.pairwise_append.mp hwr).2.2 last hlast
    refine ⟨⟨g, rest, rfl, ?_, ?_⟩, ?_⟩
    · intro c hc
      split
      · next hf =>
        rw [hg hf] at hc
        cases hc
      · exact hbefore c hc first (List.mem_append_left _ hfirst)
    · intro c hc
      split
      · next hnone =>
        rw [hrest (List.isEmpty_iff.mp hnone)] at hc
        cases hc
      · exact hbehind c hc
    · rwa [← List.append_assoc, straysFrom_append (h.behind hw).2]

/-- A log that may begin with a gap is made of stretches. -/
def Led (free : Located → Bool) (isFirst : Bool) (log : List Located)
    (ws : List (List Located)) : Prop :=
  ∃ g rest, log = g ++ rest ∧ (∀ c ∈ g, free c = true) ∧ (isFirst = true → g = []) ∧
    Tiles (free · = true) rest ws

/-- Around a stretch that consumed nothing one gap continues the other. -/
theorem led_nil_cons (hws : ws ≠ []) : Led free isFirst log ([] :: ws) ↔ Led free false log ws := by
  constructor
  · rintro ⟨g, rest, rfl, hg, -, htiles⟩
    generalize hempty : ([] : List Located) = w at htiles
    cases htiles with
    | last => exact absurd rfl hws
    | @gap _ g' rest' _ hg' htiles' =>
      subst hempty
      refine ⟨g ++ g', rest', ?_, List.forall_mem_append.mpr ⟨hg, hg'⟩, nofun, htiles'⟩
      rw [List.nil_append, List.append_assoc]
  · rintro ⟨g, rest, rfl, hg, -, htiles⟩
    have hled : Tiles (free · = true) ([] ++ (g ++ rest)) ([] :: ws) := .gap hg htiles
    exact ⟨[], g ++ rest, rfl, fun _ => nofun, fun _ => rfl, hled⟩

/-- What stands in front of a stretch that consumed something is free. -/
theorem led_cons_iff (h : Apart free log (w :: ws)) (hw : w ≠ []) :
    Led free isFirst log (w :: ws) ↔ ∃ g rest, log = g ++ (w ++ rest) ∧ (isFirst = true → g = []) ∧
      (ws = [] → rest = []) ∧ (ws ≠ [] → Led free false rest ws) := by
  constructor
  · rintro ⟨g, rest, rfl, -, hg, htiles⟩
    cases htiles with
    | last =>
      exact ⟨g, [], by rw [List.append_nil], hg, fun _ => rfl, fun hne => absurd rfl hne⟩
    | @gap _ g' rest' _ hg' htiles' =>
      refine ⟨g, g' ++ rest', rfl, hg, ?_, fun _ => ⟨g', rest', rfl, hg', nofun, htiles'⟩⟩
      intro hnil
      subst hnil
      cases htiles'
  · rintro ⟨g, rest, rfl, hg, hlast, hled⟩
    -- A call in front of the part belongs to no part, as the parts ascend.
    have hfront : ∀ c ∈ g, free c = true := by
      intro c hc
      refine (h.free_iff c (List.mem_append_left _ hc)).mpr fun hin => ?_
      have hbehind := (h.behind hw).2 c (List.mem_append_left _ hc)
      rcases List.mem_append.mp hin with hcw | hcws
      · have := (List.pairwise_append.mp h.ascending).2.2 c hc c (List.mem_append_left _ hcw)
        omega
      · exact Nat.lt_irrefl _ (hbehind c hcws)
    by_cases hnil : ws = []
    · subst hnil
      refine ⟨g, w ++ rest, rfl, hfront, hg, ?_⟩
      rw [hlast rfl, List.append_nil]
      exact .last w
    · obtain ⟨g', rest', rfl, hg', -, htiles⟩ := hled hnil
      exact ⟨g, w ++ (g' ++ rest'), rfl, hfront, hg, .gap hg' htiles⟩

/-- No call strays exactly if the log is made of the stretches. A lone stretch is no first one:
there are no gaps then. -/
theorem straysFrom_eq_nil_iff (h : Apart free log ws) (hn : ∀ c ∈ log, c.1 < n) (hws : ws ≠ [])
    (hfirst : isFirst = true → ws.tail ≠ []) :
    straysFrom log n free isFirst ws = [] ↔ Led free isFirst log ws := by
  induction ws generalizing log isFirst with
  | nil => exact absurd rfl hws
  | cons w ws ih =>
    by_cases hw : w = []
    · subst hw
      rw [straysFrom_nil_cons]
      by_cases hlast : ws = []
      · -- The block ends with a gap, so whatever is left is in it.
        subst hlast
        refine ⟨fun _ => ?_, fun _ => rfl⟩
        refine ⟨log, [], (List.append_nil log).symm, ?_, fun hf => absurd rfl (hfirst hf), .last []⟩
        exact fun c hc => (h.free_iff c hc).mpr List.not_mem_nil
      · have hapart : Apart free log ws := ⟨h.ascending, h.consumed, h.free_iff⟩
        rw [led_nil_cons hlast]
        exact ih hapart hn hlast fun hf => absurd hf Bool.false_ne_true
    · rw [straysFrom_cons_eq_nil_iff h hn hw, led_cons_iff h hw]
      refine exists_congr fun g => exists_congr fun rest => and_congr_right fun hcut => ?_
      refine and_congr_right fun _ => and_congr_right fun _ => ?_
      subst hcut
      have hrest : ∀ c ∈ rest, c.1 < n := fun c hc =>
        hn c (List.mem_append_right _ (List.mem_append_right _ hc))
      by_cases hlast : ws = []
      · subst hlast
        exact ⟨fun _ hne => absurd rfl hne, fun _ => rfl⟩
      · have hlater : straysFrom rest n free false ws = [] ↔ Led free false rest ws :=
          ih (h.behind hw).1 hrest hlast fun hf => absurd hf Bool.false_ne_true
        rw [hlater]
        exact ⟨fun hled _ => hled, fun hled => hled hlast⟩

/-- The gaps excuse all free calls exactly if the log is made of the stretches with gaps between
them. -/
theorem straysFrom_eq_nil_iff_tiles (h : Apart free log ws) (hn : ∀ c ∈ log, c.1 < n)
    (hws : ws.tail ≠ []) : straysFrom log n free true ws = [] ↔ Tiles (free · = true) log ws := by
  have hne : ws ≠ [] := fun hnil => hws (by rw [hnil]; rfl)
  rw [straysFrom_eq_nil_iff h hn hne fun _ => hws]
  constructor
  · rintro ⟨g, rest, rfl, -, hg, htiles⟩
    rw [hg rfl]
    exact htiles
  · intro htiles
    exact ⟨[], log, rfl, fun _ => nofun, fun _ => rfl, htiles⟩

/-- What strays from stretches is free and comes in log order. -/
theorem straysFrom_sublist {p : Nat} (hlog : log.Pairwise (·.1 < ·.1))
    (hws : ws.flatten.Pairwise (·.1 < ·.1)) (hp : ∀ c ∈ ws.flatten, p ≤ c.1)
    (hfirst : isFirst = true → p = 0) :
    (straysFrom log n free isFirst ws).Sublist
      ((log.filter fun c => p ≤ c.1 && free c).map (·.2)) := by
  induction ws generalizing p isFirst with
  | nil => exact List.nil_sublist _
  | cons w ws ih =>
    obtain ⟨-, hflat, hlater⟩ :=
      List.pairwise_append.mp (show (w ++ ws.flatten).Pairwise _ from hws)
    by_cases hw : w = []
    · subst hw
      exact ih hflat hp fun hf => absurd hf Bool.false_ne_true
    · obtain ⟨first, hmem, last, hlast, hwithin, hextent⟩ :=
        extent_of_ne_nil n isFirst ws.isEmpty hw
      have hlow : p ≤ if isFirst = true then 0 else first.1 := by
        split
        · next hf => exact Nat.le_of_eq (hfirst hf)
        · exact hp first (List.mem_append_left _ hmem)
      rw [straysFrom, hextent]
      dsimp only
      by_cases hnil : ws = []
      · subst hnil
        rw [straysFrom, List.append_nil]
        refine (List.monotone_filter_right log fun c hc => ?_).map _
        simp only [Bool.and_eq_true, decide_eq_true_eq] at hc ⊢
        exact ⟨Nat.le_trans hlow hc.1.1, hc.2⟩
      · -- What the stretch reports lies up to its last call, and the others report behind it.
        have hhere :=
          filter_lt_append_filter_le (hlog.filter fun c => p ≤ c.1 && free c) (last.1 + 1)
        have hrest : (straysFrom log n free false ws).Sublist
            ((log.filter fun c => last.1 + 1 ≤ c.1 && free c).map (·.2)) :=
          ih hflat (hlater last hlast) fun hf => absurd hf Bool.false_ne_true
        have hle : p ≤ last.1 := hp last (List.mem_append_left _ hlast)
        rw [← hhere, List.map_append, if_neg (mt List.isEmpty_iff.mp hnil), List.filter_filter,
          List.filter_filter]
        refine List.Sublist.append ?_ (hrest.trans ?_)
        · refine (List.monotone_filter_right log fun c hc => ?_).map _
          simp only [Bool.and_eq_true, decide_eq_true_eq] at hc ⊢
          exact ⟨hc.1.2, Nat.le_trans hlow hc.1.1, hc.2⟩
        · refine (List.monotone_filter_right log fun c hc => ?_).map _
          simp only [Bool.and_eq_true, decide_eq_true_eq] at hc ⊢
          exact ⟨hc.1, by omega, hc.2⟩

/-- Calls that cannot stray do not matter. -/
theorem straysFrom_filter (scope : Located → Bool) :
    straysFrom log n (fun c => scope c && free c) isFirst ws =
      straysFrom (log.filter scope) n free isFirst ws := by
  induction ws generalizing isFirst with
  | nil => rfl
  | cons w ws ih =>
    rw [straysFrom, straysFrom, ih]
    congr 1
    split
    · rfl
    · rw [List.filter_filter]
      refine congrArg _ (List.filter_congr fun c _ => ?_)
      cases scope c <;> simp

end Stretches

/-! ## Walks -/

/-- Whatever a walk finds, what it consumes are calls of its demands from the cursor on, in log
order. -/
theorem consumed_walk : ∀ (slots : List Slot) (cursor : Nat) (consumed : List Nat),
    (∀ claim ∈ claimsOf slots, claim.2.IsSound) →
      (consumedCalls (slots.zip (walk slots cursor consumed))).Pairwise (·.1 < ·.1) ∧
      ∀ c ∈ consumedCalls (slots.zip (walk slots cursor consumed)),
        cursor ≤ c.1 ∧ ∃ claim ∈ claimsOf slots, c ∈ claim.2.calls
  | [], _, _, _ => ⟨.nil, fun _ => nofun⟩
  | .gap :: rest, cursor, consumed, hsound => consumed_walk rest cursor consumed hsound
  | .claim i d :: rest, cursor, consumed, hsound => by
    obtain ⟨hd, hrest⟩ := List.forall_mem_cons.mp hsound
    have hrun : (d.passage cursor consumed rest).run.Sublist (d.ahead cursor) :=
      Demand.run_passage_sublist
    have hlater := consumed_walk rest (cursorAfter cursor (d.passage cursor consumed rest).run)
      (positions (d.passage cursor consumed rest).run ++ consumed) hrest
    rw [walk_claim, List.zip_cons_cons, consumedCalls_cons]
    generalize (d.passage cursor consumed rest).run = run at hrun hlater ⊢
    have hahead : ∀ c ∈ run, cursor ≤ c.1 ∧ c ∈ d.calls := by
      intro c hc
      obtain ⟨hcall, hle⟩ := List.mem_filter.mp (hrun.subset hc)
      exact ⟨of_decide_eq_true hle, hcall⟩
    have hascending := (hd.ahead cursor).sublist hrun
    have hle := le_cursorAfter fun c hc => (hahead c hc).1
    constructor
    · -- The cursor stands behind the run, and everything later is taken from there on.
      refine List.pairwise_append.mpr ⟨hascending, hlater.1, ?_⟩
      intro c hc e he
      exact Nat.lt_of_lt_of_le (lt_cursorAfter hascending c hc) (hlater.2 e he).1
    · refine List.forall_mem_append.mpr ⟨?_, ?_⟩
      · intro c hc
        obtain ⟨hfrom, hcall⟩ := hahead c hc
        exact ⟨hfrom, (i, d), List.mem_cons_self .., hcall⟩
      · intro c hc
        obtain ⟨hfrom, claim, hclaim, hcall⟩ := hlater.2 c hc
        exact ⟨Nat.le_trans hle hfrom, claim, List.mem_cons_of_mem _ hclaim, hcall⟩

/-- The stretches hold what the claims consumed. -/
theorem flatten_stretches (w : Walked) : (stretches w).flatten = (runsOf w).flatMap (·.2) := by
  induction w with
  | nil => rfl
  | cons entry w ih =>
    obtain ⟨slot, passage⟩ := entry
    cases slot with
    | gap => exact ih
    | claim i d =>
      rw [stretches, runsOf_claim, List.flatMap_cons, ← ih]
      cases stretches w with
      | nil => rfl
      | cons stretch more => exact List.append_assoc ..

/-- They are what was consumed between one gap and the next. -/
theorem stretches_eq_parts (w : Walked) : stretches w = w.parts := by
  unfold Walked.parts
  induction w with
  | nil => rfl
  | cons entry w ih =>
    obtain ⟨slot, passage⟩ := entry
    rw [List.splitOnP_cons_eq_if_modifyHead]
    cases slot with
    | gap =>
      rw [if_pos (show (Slot.gap, passage).1.isGap = true from rfl), List.map_cons, ← ih]
      rfl
    | claim i d =>
      rw [stretches, ih]
      cases hparts : w.splitOnP (·.1.isGap) with
      | nil => exact absurd hparts (List.splitOnP_ne_nil _ _)
      | cons part parts => rfl

/-- A block with a gap has a stretch behind the first one. -/
theorem tail_stretches_ne_nil {w : Walked} (h : (w.any fun entry => entry.1.isGap) = true) :
    (stretches w).tail ≠ [] := by
  have hne (w : Walked) : stretches w ≠ [] := by
    rw [stretches_eq_parts]
    exact mt List.map_eq_nil_iff.mp (List.splitOnP_ne_nil _ _)
  induction w with
  | nil => cases h
  | cons entry w ih =>
    obtain ⟨slot, passage⟩ := entry
    cases slot with
    | gap => exact hne w
    | claim i d =>
      rw [stretches]
      cases hstretches : stretches w with
      | nil => exact absurd hstretches (hne w)
      | cons stretch more =>
        have htail := ih h
        rw [hstretches] at htail
        exact htail

/-! ## Blocks -/

/-- A call that a pattern describes is on its type. -/
theorem Pattern.typeName_of_describes {p : Pattern} {c : Invocation} (h : p.describes c = true) :
    p.target.typeName = c.target.typeName := by
  unfold describes accepts at h
  by_cases ht : (p.targets c && p.args.length = c.args.length) = true
  · rw [targets, Target.covers] at ht
    simp only [Bool.and_eq_true, decide_eq_true_eq] at ht
    exact ht.1.1.1
  · rw [if_neg ht] at h
    cases h

theorem lt_length_of_mem_locatedCalls {entries : List Invocation} {c : Located}
    (h : c ∈ locatedCalls entries) : c.1 < (locatedCalls entries).length := by
  obtain ⟨⟨call, i⟩, hmem, rfl⟩ := List.mem_map.mp h
  rw [length_locatedCalls]
  have hlt := List.mem_zipIdx_iff_getElem?.mp hmem
  exact (List.getElem?_eq_some_iff.mp hlt).1

section Blocks

variable {b : Block} {mode : Mode} {declares : String → Bool} {entries : List Invocation}

/-- The walk of a block and the comparison with the maxima report no call as unverified. -/
theorem unverified_walkMismatches (w : Walked) :
    (walkMismatches w).filterMap Mismatch.unverified? = [] := by
  refine List.filterMap_eq_nil_iff.mpr fun m hm => ?_
  obtain ⟨⟨slot, passage⟩, -, hfound⟩ := List.mem_filterMap.mp hm
  cases slot with
  | gap => cases hfound
  | claim i d =>
    obtain ⟨finding, -, rfl⟩ := Option.map_eq_some_iff.mp hfound
    cases finding <;> rfl

theorem unverified_excesses (consumed : List Nat) (w : Walked) :
    (excesses consumed w).filterMap Mismatch.unverified? = [] := by
  refine List.filterMap_eq_nil_iff.mpr fun m hm => ?_
  obtain ⟨description, bounds, actual, rfl⟩ := eq_tooMany_of_mem_excesses hm
  rfl

/-- A check in order reports the calls that the block leaves unverified, and no others. -/
theorem unverified_check (hin : mode.inOrder = true)
    (h : b.isWellFormed declares entries mode = true) :
    (b.check declares entries mode).unverified = b.unverified mode (locatedCalls entries) := by
  obtain ⟨-, -, hslots⟩ := prepare_of_isWellFormed h
  -- Each part of the report is either all of this kind or none.
  have hothers (calls : List Invocation) :
      (calls.map Mismatch.unverified).filterMap Mismatch.unverified? = calls := by
    rw [List.filterMap_map]
    exact List.filterMap_some
  have hfailed (errors : List MatcherError) :
      (errors.map Mismatch.matcherEvaluation).filterMap Mismatch.unverified? = [] := by
    rw [List.filterMap_map]
    exact List.filterMap_eq_nil_iff.mpr fun _ _ => rfl
  unfold Verdict.unverified Block.check
  dsimp only
  rw [hslots]
  dsimp only
  rw [if_pos hin, checkInOrder]
  dsimp only
  rw [List.filterMap_append, hfailed, List.nil_append, List.filterMap_append,
    List.filterMap_append, unverified_walkMismatches, unverified_excesses, List.nil_append,
    List.nil_append, hothers]
  rfl

/-- A call that a well-formed block consumed stands in the log, on a type that the block
mentions. -/
theorem mem_of_consumed (hin : mode.inOrder = true) (hvalid : ∀ c ∈ b.claims, c.IsValid declares)
    {c : Located} (hc : c ∈ consumedCalls (b.walked mode (locatedCalls entries))) :
    c ∈ (locatedCalls entries).filter fun c => b.mentions c.2 := by
  obtain ⟨-, claim, hclaim, hcall⟩ := (consumed_walk _ 0 [] (isSound_of_valid hin hvalid)).2 c hc
  obtain ⟨d, hd, hdemand⟩ := exists_demand_of_mem_slots hclaim
  rw [← hdemand, Claim.mem_calls_demand] at hcall
  refine List.mem_filter.mpr ⟨hcall.1, List.any_eq_true.mpr ⟨d, hd, ?_⟩⟩
  exact decide_eq_true (Pattern.typeName_of_describes hcall.2)

/-- What a well-formed block consumed is in log order, whatever its walk found. -/
theorem ascending_walked (entries : List Invocation) (hin : mode.inOrder = true)
    (hvalid : ∀ c ∈ b.claims, c.IsValid declares) :
    (consumedCalls (b.walked mode (locatedCalls entries))).Pairwise (·.1 < ·.1) :=
  (consumed_walk _ 0 [] (isSound_of_valid hin hvalid)).1

/-- The stretches of a well-formed block lie apart, whatever its walk found. -/
theorem apart_stretches (entries : List Invocation) (hin : mode.inOrder = true)
    (hvalid : ∀ c ∈ b.claims, c.IsValid declares) :
    Apart (b.walked mode (locatedCalls entries)).leaves
      ((locatedCalls entries).filter fun c => b.mentions c.2)
      (stretches (b.walked mode (locatedCalls entries))) := by
  have hconsumed : (stretches (b.walked mode (locatedCalls entries))).flatten =
      consumedCalls (b.walked mode (locatedCalls entries)) := by
    rw [flatten_stretches]
    exact (consumedCalls_walk _ 0 []).symm
  have hlog := (locatedCalls_pairwise entries).filter fun c => b.mentions c.2
  have hwalk := ascending_walked entries hin hvalid
  refine ⟨hlog, ?_, ?_⟩
  · rw [hconsumed]
    have hantisymm : Std.Antisymm fun c d : Located => c.1 < d.1 :=
      ⟨fun _ _ h h' => absurd h' (Nat.lt_asymm h)⟩
    refine List.sublist_of_subperm_of_pairwise ?_ hwalk hlog
    exact (nodup_of_ascending hwalk).subperm fun c hc => mem_of_consumed hin hvalid hc
  · intro c hc
    rw [hconsumed, Walked.leaves, Bool.not_eq_true', ← Bool.not_eq_true, List.contains_iff_mem]
    refine not_congr ⟨fun hpos => ?_, fun hmem => List.mem_map_of_mem hmem⟩
    obtain ⟨d, hd, hpos⟩ := List.mem_map.mp hpos
    -- Positions identify calls, so a call at a consumed position was consumed.
    obtain rfl := eq_of_position_eq hlog (mem_of_consumed hin hvalid hd) hc hpos
    exact hd

/-- The types that the slots of a block are about are those that it mentions. -/
theorem inScope_slotsOf {n : Nat} {log : List Located} :
    inScope (claimsOf (slotsOf mode n log 0 b.items)) = b.mentions := by
  funext c
  have hdemands : (claimsOf (slotsOf mode n log 0 b.items)).map (·.2) =
      b.claims.map (·.demand mode n log) := demands_slotsOf
  have hany := congrArg (List.any · fun d => decide (d.typeName = c.target.typeName)) hdemands
  rw [List.any_map, List.any_map] at hany
  exact hany

/-- A block with a gap leaves the calls on its types unverified that stray from its stretches. -/
theorem unverified_of_isGap {log : List Located} (hgap : b.items.any BlockItem.isGap = true) :
    b.unverified mode log = straysFrom (log.filter fun c => b.mentions c.2) log.length
      (b.walked mode log).leaves true (stretches (b.walked mode log)) := by
  rw [Block.unverified, any_isGap_slotsOf, if_pos hgap, strays, inScope_slotsOf]
  exact straysFrom_filter _

theorem any_isGap_walked {log : List Located} (hiter : b.iterations ≠ 0)
    (hgap : b.items.any BlockItem.isGap = true) :
    ((b.walked mode log).any fun entry => entry.1.isGap) = true := by
  have hslots : (b.walked mode log).map (·.1) =
      writtenOut b.iterations (slotsOf mode b.iterations log 0 b.items) :=
    List.map_fst_zip (Nat.le_of_eq (length_walk ..).symm)
  have hany : ((b.walked mode log).map (·.1)).any Slot.isGap = true := by
    rw [hslots, any_writtenOut hiter, any_isGap_slotsOf]
    exact hgap
  rwa [List.any_map] at hany

/-- An in-order check of a block with gaps reports no unverified call exactly if the calls on the
types of the block are, in log order, those that its first stretch consumed, then some that no
step consumed, then those of the second stretch, and so on to the last. What it does report are
such calls that no step consumed, each once and in log order. -/
theorem gaps_tile_iff {full : Bool} (h : b.isWellFormed declares entries ⟨true, full⟩ = true)
    (hgap : b.items.any BlockItem.isGap = true) :
    ((b.check declares entries ⟨true, full⟩).unverified = [] ↔
      Tiles ((b.walked ⟨true, full⟩ (locatedCalls entries)).leaves · = true)
        ((locatedCalls entries).filter fun c => b.mentions c.2)
        (b.walked ⟨true, full⟩ (locatedCalls entries)).parts) ∧
    (b.check declares entries ⟨true, full⟩).unverified.Sublist
      (((locatedCalls entries).filter fun c => b.mentions c.2 &&
        (b.walked ⟨true, full⟩ (locatedCalls entries)).leaves c).map (·.2)) := by
  obtain ⟨hiter, hvalid, -⟩ := prepare_of_isWellFormed h
  have hin : (⟨true, full⟩ : Mode).inOrder = true := rfl
  have hapart := apart_stretches entries hin hvalid
  have hshort : ∀ c ∈ (locatedCalls entries).filter fun c => b.mentions c.2,
      c.1 < (locatedCalls entries).length :=
    fun c hc => lt_length_of_mem_locatedCalls (List.mem_filter.mp hc).1
  rw [unverified_check hin h, unverified_of_isGap hgap, ← stretches_eq_parts]
  constructor
  · exact straysFrom_eq_nil_iff_tiles hapart hshort
      (tail_stretches_ne_nil (any_isGap_walked hiter hgap))
  · have hflat := hapart.ascending.sublist hapart.consumed
    refine (straysFrom_sublist (p := 0) hapart.ascending hflat (fun c _ => Nat.zero_le c.1)
      fun _ => rfl).trans ?_
    rw [List.filter_filter]
    refine (List.monotone_filter_right _ fun c hc => ?_).map _
    simp only [Bool.and_eq_true, decide_eq_true_eq] at hc ⊢
    exact ⟨hc.2, hc.1.2⟩

end Blocks

/-- A door is opened, other things happen, and it is closed. -/
def visit : Block :=
  ⟨[.claim (.nullary "Door" "open" {}), .gap, .claim (.nullary "Door" "close" {})], 1⟩

/-- The logged calls of a door. -/
def doorLog (methods : List String) : List Invocation := (Session.called "Door" methods).log.entries

/-- Knocks while the door is open are excused. -/
theorem gaps_tile_visit :
    visit.isWellFormed (· = "Door") (doorLog ["open", "knock", "close"]) ⟨true, false⟩ = true ∧
    visit.items.any BlockItem.isGap = true ∧
    Tiles ((visit.walked ⟨true, false⟩
        (locatedCalls (doorLog ["open", "knock", "close"]))).leaves · = true)
      ((locatedCalls (doorLog ["open", "knock", "close"])).filter fun c => visit.mentions c.2)
      (visit.walked ⟨true, false⟩ (locatedCalls (doorLog ["open", "knock", "close"]))).parts := by
  have hwell : visit.isWellFormed (· = "Door") (doorLog ["open", "knock", "close"])
      ⟨true, false⟩ = true := by decide +kernel
  have hgap : visit.items.any BlockItem.isGap = true := by decide
  exact ⟨hwell, hgap, (gaps_tile_iff hwell hgap).1.mp (by decide +kernel)⟩

/-- A knock before that is not. -/
example : ((visit.check (· = "Door") (doorLog ["knock", "open", "close"])
    ⟨true, false⟩).unverified.map (·.seq)) = [0] := by decide +kernel

end Understudy

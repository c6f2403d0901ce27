import Understudy.Matcher
import Understudy.Proofs.Value.Doubles
import Understudy.Proofs.Value.Plain

/-!
# The order of values without floating-point numbers

Equality and order of values are two case analyses over pairs of values. Without floating-point
numbers both go by one key: a value that is ordered at all has a rank, which is a scale and some
steps on it, and values are compared as their ranks are (`compare?_eq_rank`). Ranks forget the
widths of integers and nothing else (`rank?_eq_of_same`, `plain_eq_of_rank?`), so that the laws of
the two relations and what they have to do with each other follow from the order of lists of
integers (`comparison_lawful`).
-/

namespace Understudy

namespace Value

/-! ## Ranks -/

/-- The families of values that are ordered among themselves. -/
inductive Scale where
  | bool | char | str | bytes | int
deriving DecidableEq

/-- Where a value stands: its scale, and its steps on the scale. -/
structure Rank where
  scale : Scale
  steps : List Int

/-- The rank of a value that is ordered. -/
def rank? : Value → Option Rank
  | bool b => some ⟨.bool, [(b.toNat : Int)]⟩
  | char c => some ⟨.char, [(c.toNat : Int)]⟩
  | str s => some ⟨.str, s.toList.map fun c => (c.toNat : Int)⟩
  | bytes bs => some ⟨.bytes, bs.map fun b => (b.toNat : Int)⟩
  | int _ n => some ⟨.int, [n]⟩
  | null | unit | float .. | list _ => none

/-- Ranks on one scale are ordered by their first different steps. -/
def Rank.compare? (x y : Rank) : Option Ordering :=
  if x.scale = y.scale then some (List.compareLex compare x.steps y.steps) else none

namespace Rank

variable {x y z : Rank} {o p : Ordering}

theorem compare?_eq_some_iff :
    x.compare? y = some o ↔ x.scale = y.scale ∧ List.compareLex compare x.steps y.steps = o := by
  simp [compare?]

theorem compare?_swap (x y : Rank) : y.compare? x = (x.compare? y).map Ordering.swap := by
  have hsteps : List.compareLex compare y.steps x.steps =
      (List.compareLex compare x.steps y.steps).swap := Std.OrientedCmp.eq_swap
  unfold compare?
  by_cases h : x.scale = y.scale
  · rw [if_pos h, if_pos h.symm, hsteps]
    rfl
  · rw [if_neg h, if_neg fun h' => h h'.symm]
    rfl

/-- Two comparisons in one direction make one. -/
theorem compare?_trans (hxy : x.compare? y = some o) (hyz : y.compare? z = some p)
    (h : o = p ∨ o = .eq ∨ p = .eq) : x.compare? z = some (o.then p) := by
  obtain ⟨hscale, ho⟩ := compare?_eq_some_iff.mp hxy
  obtain ⟨hscale', hp⟩ := compare?_eq_some_iff.mp hyz
  refine compare?_eq_some_iff.mpr ⟨hscale.trans hscale', ?_⟩
  rcases h with rfl | rfl | rfl
  · cases o with
    | lt => exact Std.TransCmp.lt_trans ho hp
    | eq => exact Std.TransCmp.eq_trans ho hp
    | gt => exact Std.TransCmp.gt_trans ho hp
  -- Where one of the comparisons finds no difference, the other one decides.
  · exact (Std.TransCmp.congr_left ho).trans hp
  · rw [← Std.TransCmp.congr_right hp, ho, Ordering.then_eq]

theorem compare?_eq_iff (h : x.compare? y = some o) : o = .eq ↔ x = y := by
  obtain ⟨hscale, rfl⟩ := compare?_eq_some_iff.mp h
  rw [Std.LawfulEqCmp.compare_eq_iff_eq]
  cases x
  cases y
  cases hscale
  simp

end Rank

/-! ## Values go by their ranks -/

theorem compare_natCast (m n : Nat) : compare m n = compare (m : Int) (n : Int) := by
  rw [Nat.compare_eq_ite_lt, Int.compare_eq_ite_lt]
  simp only [Int.ofNat_lt]

/-- Lists whose items are compared by a key are compared as the lists of their keys. -/
theorem compareLists_eq {α : Type} (key : α → Nat) : ∀ as bs : List α,
    compareLists (fun a b => compare (key a) (key b)) as bs =
      List.compareLex compare (as.map fun a => (key a : Int)) (bs.map fun b => (key b : Int))
  | [], [] => rfl
  | [], _ :: _ => rfl
  | _ :: _, [] => rfl
  | a :: as, b :: bs => by
    rw [compareLists, List.map_cons, List.map_cons, List.compareLex_cons_cons, compare_natCast,
      compareLists_eq key as bs]

/-- One step is compared as it is. -/
theorem compareLex_singleton (m n : Int) : List.compareLex compare [m] [n] = compare m n := by
  rw [List.compareLex_cons_cons, List.compareLex_nil_nil, Ordering.then_eq]

variable {a b c v w : Value} {x y : Rank}

/-- Values are compared as their ranks are, if both have one. -/
theorem compare?_eq_rank (ha : a.floatFree = true) (hb : b.floatFree = true) :
    a.compare? b = a.rank?.bind fun x => b.rank?.bind fun y => x.compare? y := by
  -- Values of one kind are compared as lists of numbers, and those of two kinds not at all.
  cases a with
  | float => cases ha
  | null | unit | list => rfl
  | bool p =>
    cases b with
    | bool q => exact congrArg some ((compare_natCast ..).trans (compareLex_singleton ..).symm)
    | _ => rfl
  | char c =>
    cases b with
    | char d => exact congrArg some ((compare_natCast ..).trans (compareLex_singleton ..).symm)
    | _ => rfl
  | str s =>
    cases b with
    | str t => exact congrArg some (compareLists_eq Char.toNat ..)
    | _ => rfl
  | bytes xs =>
    cases b with
    | bytes ys => exact congrArg some (compareLists_eq UInt8.toNat ..)
    | _ => rfl
  | int _ m =>
    cases b with
    | int _ n => exact congrArg some (compareLex_singleton ..).symm
    | float => cases hb
    | _ => rfl

theorem rank?_plain (v : Value) : v.plain.rank? = v.rank? := by cases v <;> rfl

/-- Equal values have the same rank. -/
theorem rank?_eq_of_same (ha : a.floatFree = true) (hb : b.floatFree = true)
    (h : a.same b = true) : a.rank? = b.rank? := by
  rw [← rank?_plain a, (same_iff_plain_eq ha hb).mp h, rank?_plain]

/-- A rank tells the value but for its width. -/
theorem plain_eq_of_rank? (ha : a.rank? = some x) (hb : b.rank? = some x) : a.plain = b.plain := by
  cases a with
  -- These have no rank.
  | null | unit | float | list => cases ha
  | bool p =>
    cases ha
    cases b with
    | bool q =>
      cases p <;> cases q
      · rfl
      · cases hb
      · cases hb
      · rfl
    | _ => cases hb
  | char c =>
    cases ha
    cases b with
    | char d =>
      simp only [rank?, Option.some.injEq, Rank.mk.injEq, List.cons.injEq, Int.ofNat_inj,
        Char.toNat_inj] at hb
      rw [hb.2.1]
    | _ => cases hb
  | str s =>
    cases ha
    cases b with
    | str t =>
      simp only [rank?, Option.some.injEq, Rank.mk.injEq, true_and] at hb
      have hchars := (List.map_inj_right fun c d h => Char.toNat_inj.mp (Int.ofNat_inj.mp h)).mp hb
      rw [String.toList_inj.mp hchars]
    | _ => cases hb
  | bytes xs =>
    cases ha
    cases b with
    | bytes ys =>
      simp only [rank?, Option.some.injEq, Rank.mk.injEq, true_and] at hb
      have hbytes := (List.map_inj_right fun c d h => UInt8.toNat_inj.mp (Int.ofNat_inj.mp h)).mp hb
      rw [hbytes]
    | _ => cases hb
  | int _ m =>
    cases ha
    cases b with
    | int _ n =>
      simp only [rank?, Option.some.injEq, Rank.mk.injEq, List.cons.injEq] at hb
      rw [plain, plain, hb.2.1]
    | _ => cases hb

theorem exists_rank_of_compare? (ha : a.floatFree = true) (hb : b.floatFree = true)
    {o : Ordering} (h : a.compare? b = some o) :
    ∃ x y, a.rank? = some x ∧ b.rank? = some y ∧ x.compare? y = some o := by
  rw [compare?_eq_rank ha hb] at h
  obtain ⟨x, hx, h⟩ := Option.bind_eq_some_iff.mp h
  obtain ⟨y, hy, h⟩ := Option.bind_eq_some_iff.mp h
  exact ⟨x, y, hx, hy, h⟩

/-! ## The laws -/

section Laws

variable {o p : Ordering} {lo hi : Value}

/-- Comparing two values the other way round reverses their order. -/
theorem compare?_swap (ha : a.floatFree = true) (hb : b.floatFree = true) :
    b.compare? a = (a.compare? b).map Ordering.swap := by
  rw [compare?_eq_rank ha hb, compare?_eq_rank hb ha]
  cases a.rank? with
  | none => cases b.rank? <;> rfl
  | some x =>
    cases b.rank? with
    | none => rfl
    | some y => exact Rank.compare?_swap x y

/-- Two comparisons of values in one direction make one. -/
theorem compare?_trans (ha : a.floatFree = true) (hb : b.floatFree = true)
    (hc : c.floatFree = true) (hab : a.compare? b = some o) (hbc : b.compare? c = some p)
    (h : o = p ∨ o = .eq ∨ p = .eq) : a.compare? c = some (o.then p) := by
  obtain ⟨x, y, hx, hy, hxy⟩ := exists_rank_of_compare? ha hb hab
  obtain ⟨y', z, hy', hz, hyz⟩ := exists_rank_of_compare? hb hc hbc
  cases hy.symm.trans hy'
  rw [compare?_eq_rank ha hc, hx, hz]
  exact Rank.compare?_trans hxy hyz h

/-- Values that are ordered are equal exactly if neither comes first. -/
theorem compare?_eq_iff_same (ha : a.floatFree = true) (hb : b.floatFree = true)
    (h : a.compare? b = some o) : o = .eq ↔ a.same b = true := by
  obtain ⟨x, y, hx, hy, hxy⟩ := exists_rank_of_compare? ha hb h
  rw [Rank.compare?_eq_iff hxy]
  constructor
  · rintro rfl
    exact (same_iff_plain_eq ha hb).mpr (plain_eq_of_rank? hx hy)
  · intro hsame
    exact Option.some.inj (hx.symm.trans ((rank?_eq_of_same ha hb hsame).trans hy))

/-- Equal values are compared alike with all others. -/
theorem compare?_congr (hv : v.floatFree = true) (hw : w.floatFree = true)
    (h : v.same w = true) (ha : a.floatFree = true) :
    a.compare? v = a.compare? w ∧ v.compare? a = w.compare? a := by
  rw [compare?_eq_rank ha hv, compare?_eq_rank ha hw, compare?_eq_rank hv ha,
    compare?_eq_rank hw ha, rank?_eq_of_same hv hw h]
  exact ⟨rfl, rfl⟩

theorem range_accepts_congr (hlo : lo.floatFree = true) (hhi : hi.floatFree = true)
    (hv : v.floatFree = true) (hw : w.floatFree = true) (h : v.same w = true) :
    (Matcher.range lo hi).accepts v = (Matcher.range lo hi).accepts w := by
  obtain ⟨hlow, -⟩ := compare?_congr hv hw h hlo
  obtain ⟨-, hhigh⟩ := compare?_congr hv hw h hhi
  rw [Matcher.accepts, Matcher.accepts, atMost, atMost, atMost, atMost, hlow, hhigh]

theorem range_accepts_int (r s t : IntType) (l h n : Int) :
    (Matcher.range (int r l) (int s h)).accepts (int t n) = .ok (decide (l ≤ n ∧ n ≤ h)) := by
  have hlow : (int r l).atMost (int t n) = decide (l ≤ n) :=
    Bool.eq_iff_iff.mpr (atMost_int_iff.trans decide_eq_true_iff.symm)
  have hhigh : (int t n).atMost (int s h) = decide (n ≤ h) :=
    Bool.eq_iff_iff.mpr (atMost_int_iff.trans decide_eq_true_iff.symm)
  rw [Matcher.accepts, hlow, hhigh, Bool.decide_and]

end Laws

/-- Without floating-point numbers, equality of values is an equivalence, their order is an order,
and the two go together. So a range tells equal values not apart, and a range of integers holds the
integers between its ends, whatever their widths. -/
theorem comparison_lawful :
    (∀ a : Value, a.floatFree = true → a.same a = true) ∧
    (∀ a b : Value, a.floatFree = true → b.floatFree = true →
      a.same b = true → b.same a = true) ∧
    (∀ a b c : Value, a.floatFree = true → b.floatFree = true → c.floatFree = true →
      a.same b = true → b.same c = true → a.same c = true) ∧
    (∀ a b : Value, a.floatFree = true → b.floatFree = true →
      b.compare? a = (a.compare? b).map Ordering.swap) ∧
    (∀ (a b c : Value) (o p : Ordering),
      a.floatFree = true → b.floatFree = true → c.floatFree = true →
      a.compare? b = some o → b.compare? c = some p → (o = p ∨ o = .eq ∨ p = .eq) →
        a.compare? c = some (o.then p)) ∧
    (∀ (a b : Value) (o : Ordering), a.floatFree = true → b.floatFree = true →
      a.compare? b = some o → (o = .eq ↔ a.same b = true)) ∧
    (∀ (s t : IntType) (m n : Int), (int s m).compare? (int t n) = some (compare m n)) ∧
    (∀ lo hi v w : Value, lo.floatFree = true → hi.floatFree = true → v.floatFree = true →
      w.floatFree = true → v.same w = true →
        (Matcher.range lo hi).accepts v = (Matcher.range lo hi).accepts w) ∧
    ∀ (r s t : IntType) (l h n : Int),
      (Matcher.range (int r l) (int s h)).accepts (int t n) = .ok (decide (l ≤ n ∧ n ≤ h)) :=
  ⟨fun _ => same_refl, fun _ _ => same_symm, fun _ _ _ => same_trans, fun _ _ => compare?_swap,
    fun _ _ _ _ _ => compare?_trans, fun _ _ _ => compare?_eq_iff_same, fun _ _ _ _ => rfl,
    fun _ _ _ _ => range_accepts_congr, range_accepts_int⟩

/-- The laws for small numbers of several widths. -/
theorem comparison_lawful_widths :
    (list [int .u8 1]).same (list [int .i64 1]) = true ∧
    (int .u64 2).compare? (int .i8 1) = some .gt ∧
    (int .i8 1).compare? (int .i32 3) = some .lt ∧
    (int .u8 1).compare? (int .i64 1) = some .eq ∧
    (Matcher.range (int .i8 1) (int .i32 3)).accepts (int .u16 2) = .ok true := by
  obtain ⟨-, hsymm, htrans, hswap, hchain, heq, hints, hrange, hbetween⟩ := comparison_lawful
  have hsame : (int .u8 1).same (int .i64 1) = true := rfl
  refine ⟨?_, ?_, ?_, ?_, ?_⟩
  · exact htrans (list [int .u8 1]) (list [int .i8 1]) (list [int .i64 1]) rfl rfl rfl
      (hsymm (list [int .i8 1]) (list [int .u8 1]) rfl rfl rfl) rfl
  · rw [hswap (int .i8 1) (int .u64 2) rfl rfl, hints]
    rfl
  · exact hchain (int .i8 1) (int .u64 2) (int .i32 3) .lt .lt rfl rfl rfl rfl rfl (Or.inl rfl)
  · rw [hints]
    exact congrArg some ((heq (int .u8 1) (int .i64 1) (compare 1 1) rfl rfl rfl).mpr hsame)
  · rw [← hrange (int .i8 1) (int .i32 3) (int .u8 2) (int .u16 2) rfl rfl rfl rfl rfl, hbetween]
    rfl

end Value

end Understudy

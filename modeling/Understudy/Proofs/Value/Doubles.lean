import Understudy.Proofs.Numeric.Rounding
import Understudy.Value.Basic

/-!
# Integers that meet floating-point numbers

Equality of values is no equivalence: two integers with the same nearest double are both equal to
that double, but not to each other. This module says how far that goes.

`Joins` lists how equal values can relate. Unless an integer meets a floating-point number, they
behave alike in all comparisons. Where one does, the two differ on the other integers with the same
nearest double and on nothing else, so the integer may stand for the floating-point number as a
literal if it is the only one of them (`same_congr_iff`), as the low end of a range if it is the
least, and as the high end if it is the greatest (`between_congr_iff`). An empty range has no use
for its ends.

Integers below `2^53` are always the only ones (`isOnly_of_small`).
-/

namespace Understudy

/-- The integers of all types have a nearest double. -/
theorem IntType.natAbs_lt_of_holds {t : IntType} {n : Int} (h : t.holds n = true) :
    n.natAbs < 2 ^ 65 := by
  cases t <;> simp [holds, least, greatest, width, isSigned] at h <;> omega

namespace Value

/-! ## What may stand for what -/

mutual

/-- Whether every number in a value is one of its type. -/
def isProper : Value → Bool
  | int t n => t.holds n
  | float t x => x.toFormat t.format = x
  | list items => areProper items
  | _ => true

/-- Whether every number in a list is one of its type. -/
def areProper : List Value → Bool
  | [] => true
  | v :: vs => v.isProper && areProper vs

end

/-- No smaller integer of any type has the same nearest double. -/
def IsLeast (n : Int) : Prop := ∀ (t : IntType) (m : Int), t.holds m = true →
  (Format.double.ofInt m).compare? (Format.double.ofInt n) = some .eq → n ≤ m

/-- No greater integer of any type has the same nearest double. -/
def IsGreatest (n : Int) : Prop := ∀ (t : IntType) (m : Int), t.holds m = true →
  (Format.double.ofInt m).compare? (Format.double.ofInt n) = some .eq → m ≤ n

/-- No other integer of any type has the same nearest double. -/
def IsOnly (n : Int) : Prop := IsLeast n ∧ IsGreatest n

mutual

/-- Wherever an integer in one value meets a floating-point number in the other, no other integer
has the same nearest double. -/
def Aligned : Value → Value → Prop
  | int _ n, float .. => IsOnly n
  | float .., int _ n => IsOnly n
  | list as, list bs => AlignedItems as bs
  | _, _ => True

/-- The values in the same places of two lists are aligned. -/
def AlignedItems : List Value → List Value → Prop
  | a :: as, b :: bs => Aligned a b ∧ AlignedItems as bs
  | _, _ => True

end

/-- The integer of two values, one of which is a floating-point number. -/
def meeting? : Value → Value → Option Int
  | int _ n, float .. => some n
  | float .., int _ n => some n
  | _, _ => none

/-- Two numbers are the ends of a range that is not empty, as far as doubles can tell. -/
def Spans (lo hi : Value) : Prop :=
  ∃ m n, lo.number? = some m ∧ hi.number? = some n ∧ m.toDouble.atMost n.toDouble = true

/-- The ends of two ranges are aligned: where an integer meets a floating-point number, it is the
outermost one with the same nearest double. -/
def AlignedEnds (lo hi lo' hi' : Value) : Prop :=
  lo.Spans hi → (∀ n ∈ lo.meeting? lo', IsLeast n) ∧ ∀ n ∈ hi.meeting? hi', IsGreatest n

/-! ## Places of values -/

variable {u v w : Value} {t t' : IntType} {f f' : FloatType} {m n : Int} {x y : Binary}
  {p q : ℤ ×ₗ ℚ}

/-- Where a number lies as a double. What is no number lies nowhere. -/
def place (v : Value) : Option (ℤ ×ₗ ℚ) := v.number?.bind fun n => n.toDouble.place

theorem place_int (h : t.holds n = true) :
    (int t n).place = some (toLex (0, (rounded n : ℚ))) :=
  Format.place_ofInt (IntType.natAbs_lt_of_holds h)

theorem spans_iff : u.Spans w ↔ ∃ p q, u.place = some p ∧ w.place = some q ∧ p ≤ q := by
  unfold Spans place
  constructor
  · rintro ⟨m, n, hm, hn, hle⟩
    obtain ⟨p, q, hp, hq, hpq⟩ := Binary.atMost_iff.mp hle
    exact ⟨p, q, by rw [hm]; exact hp, by rw [hn]; exact hq, hpq⟩
  · rintro ⟨p, q, hp, hq, hpq⟩
    obtain ⟨m, hm, hp⟩ := Option.bind_eq_some_iff.mp hp
    obtain ⟨n, hn, hq⟩ := Option.bind_eq_some_iff.mp hq
    exact ⟨m, n, hm, hn, Binary.atMost_iff.mpr ⟨p, q, hp, hq, hpq⟩⟩

theorem compare?_ofInt_iff (hn : t.holds n = true) (t' : IntType) (m : Int) :
    (Format.double.ofInt m).compare? (Format.double.ofInt n) = some .eq ↔
      (int t' m).place = (int t n).place := by
  have hplace : (Format.double.ofInt n).place = some (toLex (0, (rounded n : ℚ))) := place_int hn
  have hsame : ((int t' m).place = (int t n).place) =
    ((Format.double.ofInt m).place = (Format.double.ofInt n).place) := rfl
  rw [Binary.compare?_eq_iff, hsame, hplace]
  simp

theorem same_int_iff : (int t m).same (int t' n) = true ↔ m = n := by
  simp [same, sameNumber, Number.compare?]

theorem atMost_int_iff : (int t m).atMost (int t' n) = true ↔ m ≤ n := by
  have hle : (int t m).atMost (int t' n) = (compare m n).isLE := by
    have hcompare : (int t m).compare? (int t' n) = some (compare m n) := rfl
    unfold atMost
    rw [hcompare]
    cases compare m n <;> rfl
  rw [hle, Int.isLE_compare]

/-- A floating-point number is equal to what lies in its place. -/
theorem same_float_iff : (float f x).same v = true ↔ ∃ p, x.place = some p ∧ v.place = some p := by
  cases v with
  | int t n => exact decide_eq_true_iff.trans Binary.compare?_eq_iff
  | float f y => exact decide_eq_true_iff.trans Binary.compare?_eq_iff
  | _ => simp [same, place, number?]

theorem same_int_float_iff :
    (int t n).same (float f x) = true ↔ ∃ p, (int t n).place = some p ∧ x.place = some p :=
  decide_eq_true_iff.trans Binary.compare?_eq_iff

theorem atMost_float_left : (float f x).atMost v = true ↔
    ∃ p q, x.place = some p ∧ v.place = some q ∧ p ≤ q := by
  cases v with
  | int t n => exact Binary.atMost_iff
  | float f y => exact Binary.atMost_iff
  | _ => simp [atMost, compare?, place, number?]

theorem atMost_float_right : v.atMost (float f x) = true ↔
    ∃ p q, v.place = some p ∧ x.place = some q ∧ p ≤ q := by
  cases v with
  | int t n => exact Binary.atMost_iff
  | float f y => exact Binary.atMost_iff
  | _ => simp [atMost, compare?, place, number?]

/-- Integers lie in their order, though not always apart. -/
theorem place_mono (hm : t.holds m = true) (hn : t'.holds n = true) (h : m ≤ n)
    (hp : (int t m).place = some p) (hq : (int t' n).place = some q) : p ≤ q := by
  cases hp.symm.trans (place_int hm)
  cases hq.symm.trans (place_int hn)
  simpa [Prod.Lex.toLex_le_toLex] using rounded_mono h

/-- If they do not lie in their order, they lie in one place. -/
theorem place_eq_of_le (hm : t.holds m = true) (hn : t'.holds n = true) (h : m ≤ n)
    (hp : (int t m).place = some p) (hq : (int t' n).place = some q) (hle : q ≤ p) :
    (int t m).place = (int t' n).place := by
  rw [hp, hq, le_antisymm (place_mono hm hn h hp hq) hle]

/-- Beside a number, only numbers are ordered, and they lie in that order. -/
theorem places_of_atMost (hu : u.isProper = true) (hv : v.isProper = true)
    (h : u.atMost v = true) (hnum : u.place.isSome = true ∨ v.place.isSome = true) :
    ∃ p q, u.place = some p ∧ v.place = some q ∧ p ≤ q := by
  cases u with
  | float f x => exact atMost_float_left.mp h
  | int t m =>
    cases v with
    | float f y => exact atMost_float_right.mp h
    | int t' n =>
      exact ⟨_, _, place_int hu, place_int hv,
        place_mono hu hv (atMost_int_iff.mp h) (place_int hu) (place_int hv)⟩
    | _ => simp [atMost, compare?, number?] at h
  | _ =>
    cases v with
    | float f y => exact atMost_float_right.mp h
    | int t' n => simp [atMost, compare?, number?] at h
    | _ => simp [place, number?] at hnum

/-! ## Equal values side by side -/

/-- Other values than numbers and lists are equal to themselves only. -/
theorem eq_of_same (h : u.same w = true) (hnumber : u.number? = none) (hlist : ∀ us, u ≠ list us) :
    u = w := by
  cases u with
  | int => cases hnumber
  | float => cases hnumber
  | list us => exact absurd rfl (hlist us)
  | _ => cases w <;> (simp [same] at h; try simp [h])

/-- How two equal values can relate: they behave alike in all comparisons, or an integer meets a
floating-point number in the same place. -/
inductive Joins : Value → Value → Prop where
  | alike {u w : Value} (hmeeting : u.meeting? w = none) (hplace : u.place = w.place)
      (hleft : ∀ v : Value, u.atMost v = w.atMost v)
      (hright : ∀ v : Value, v.atMost u = v.atMost w) :
      Joins u w
  | intFloat {t : IntType} {n : Int} {f : FloatType} {x : Binary} {p : ℤ ×ₗ ℚ}
      (hn : (int t n).place = some p) (hx : x.place = some p) : Joins (int t n) (float f x)
  | floatInt {t : IntType} {n : Int} {f : FloatType} {x : Binary} {p : ℤ ×ₗ ℚ}
      (hn : (int t n).place = some p) (hx : x.place = some p) : Joins (float f x) (int t n)

theorem Joins.refl (h : u.meeting? u = none) : u.Joins u :=
  .alike h rfl (fun _ => rfl) fun _ => rfl

theorem joins_of_same (h : u.same w = true) : u.Joins w := by
  cases u with
  | int t n =>
    cases w with
    | int t' n' =>
      obtain rfl := same_int_iff.mp h
      exact .alike rfl rfl (fun v => by cases v <;> rfl) fun v => by cases v <;> rfl
    | float f x =>
      obtain ⟨p, hn, hx⟩ := same_int_float_iff.mp h
      exact .intFloat hn hx
    | _ => simp [same] at h
  | float f x =>
    obtain ⟨p, hx, hw⟩ := same_float_iff.mp h
    cases w with
    | int t n => exact .floatInt hw hx
    | float f' y =>
      have hy : y.place = some p := hw
      refine .alike rfl (hx.trans hw.symm) (fun v => ?_) fun v => ?_
      · rw [Bool.eq_iff_iff, atMost_float_left, atMost_float_left, hx, hy]
      · rw [Bool.eq_iff_iff, atMost_float_right, atMost_float_right, hx, hy]
    | _ => simp [same] at h
  | list us =>
    -- Lists are not ordered at all.
    cases w with
    | list ws => exact .alike rfl rfl (fun v => by cases v <;> rfl) fun v => by cases v <;> rfl
    | _ => simp [same] at h
  | _ =>
    obtain rfl := eq_of_same h rfl fun _ => nofun
    exact .refl rfl

/-! ## Literals -/

/-- An integer and a floating-point number in the same place are equal to the same values if the
integer is the only one there. -/
theorem same_int_congr_iff (hproper : t.holds n = true) (hn : (int t n).place = some p)
    (hx : x.place = some p) :
    (∀ v, v.isProper = true → (int t n).same v = (float f x).same v) ↔ IsOnly n := by
  constructor
  · intro hagree
    -- An integer with the same double has the place of the float, so the float accepts it.
    have honly (t' : IntType) (m : Int) (hm : t'.holds m = true)
        (hdouble : (Format.double.ofInt m).compare? (Format.double.ofInt n) = some .eq) :
        n = m := by
      have hplace : (int t' m).place = some p := by
        rw [(compare?_ofInt_iff hproper t' m).mp hdouble, hn]
      have hfloat : (float f x).same (int t' m) = true := same_float_iff.mpr ⟨p, hx, hplace⟩
      rw [← hagree (int t' m) hm] at hfloat
      exact same_int_iff.mp hfloat
    exact ⟨fun t' m hm hd => Int.le_of_eq (honly t' m hm hd),
      fun t' m hm hd => Int.le_of_eq (honly t' m hm hd).symm⟩
  · intro honly v hv
    cases v with
    | int t' m =>
      rw [Bool.eq_iff_iff, same_int_iff, same_float_iff, hx]
      constructor
      · rintro rfl
        exact ⟨p, rfl, hn⟩
      · rintro ⟨p', hp, hm⟩
        cases hp
        have hdouble := (compare?_ofInt_iff hproper t' m).mpr (hm.trans hn.symm)
        exact Int.le_antisymm (honly.1 t' m hv hdouble) (honly.2 t' m hv hdouble)
    | float f' y => rw [Bool.eq_iff_iff, same_int_float_iff, same_float_iff, hn, hx]; rfl
    | _ => simp [same]

mutual

/-- What something is equal to is equal to itself, as it holds no NaN. -/
theorem same_self_of_same : ∀ {u w : Value}, u.same w = true → w.same w = true
  | list us, w, h => by
    cases w with
    | list ws =>
      rw [same] at h ⊢
      exact sameItems_self_of_same h
    | _ => simp [same] at h
  | int t n, w, h => by
    cases w with
    | int t' m => exact same_int_iff.mpr rfl
    | float f x =>
      -- The rounded integer stands where the double stands, and a NaN stands nowhere.
      obtain ⟨p, -, hx⟩ := same_int_float_iff.mp h
      exact same_float_iff.mpr ⟨p, hx, hx⟩
    | _ => simp [same] at h
  | float f x, w, h => by
    cases w with
    | int t' m => exact same_int_iff.mpr rfl
    | float f' y =>
      obtain ⟨p, -, hy⟩ := same_float_iff.mp h
      exact same_float_iff.mpr ⟨p, hy, hy⟩
    | _ => simp [same] at h
  | null, w, h => eq_of_same h rfl (fun _ => nofun) ▸ h
  | unit, w, h => eq_of_same h rfl (fun _ => nofun) ▸ h
  | bool _, w, h => eq_of_same h rfl (fun _ => nofun) ▸ h
  | char _, w, h => eq_of_same h rfl (fun _ => nofun) ▸ h
  | str _, w, h => eq_of_same h rfl (fun _ => nofun) ▸ h
  | bytes _, w, h => eq_of_same h rfl (fun _ => nofun) ▸ h

theorem sameItems_self_of_same : ∀ {us ws : List Value}, sameItems us ws = true →
    sameItems ws ws = true
  | [], ws, h => by cases ws <;> simp [sameItems] at h ⊢
  | u :: us, [], h => by simp [sameItems] at h
  | u :: us, w :: ws, h => by
    rw [sameItems, Bool.and_eq_true] at h ⊢
    exact ⟨same_self_of_same h.1, sameItems_self_of_same h.2⟩

end

mutual

/-- Equal literals are equal to the same values exactly if they are aligned. -/
theorem same_congr_iff : ∀ {u w : Value}, u.same w = true → u.isProper = true → w.isProper = true →
    ((∀ v, v.isProper = true → u.same v = w.same v) ↔ u.Aligned w)
  | list us, w, h, hu, hw => by
    cases w with
    | list ws =>
      rw [same] at h
      rw [isProper] at hu hw
      rw [Aligned, ← sameItems_congr_iff h hu hw]
      constructor
      · intro hagree vs hvs
        have := hagree (list vs) hvs
        rwa [same, same] at this
      · intro hagree v hv
        cases v with
        | list vs => rw [same, same, hagree vs hv]
        | _ => simp [same]
    | _ => simp [same] at h
  | int t n, w, h, hu, hw => by
    -- An integer and a float part where another integer rounds to the same double.
    cases w with
    | int t' m =>
      obtain rfl := same_int_iff.mp h
      refine iff_of_true (fun v _ => ?_) trivial
      cases v <;> rfl
    | float f x =>
      obtain ⟨p, hn, hx⟩ := same_int_float_iff.mp h
      exact same_int_congr_iff hu hn hx
    | _ => simp [same] at h
  | float f x, w, h, hu, hw => by
    obtain ⟨p, hx, hplace⟩ := same_float_iff.mp h
    cases w with
    | int t n =>
      rw [Aligned, ← same_int_congr_iff (f := f) hw hplace hx]
      exact forall₂_congr fun v _ => eq_comm
    | float f' y =>
      have hy : y.place = some p := hplace
      refine iff_of_true (fun v _ => ?_) trivial
      rw [Bool.eq_iff_iff, same_float_iff, same_float_iff, hx, hy]
    | _ => simp [same] at h
  | null, w, h, _, _ => by
    obtain rfl := eq_of_same h rfl fun _ => nofun
    exact iff_of_true (fun _ _ => rfl) trivial
  | unit, w, h, _, _ => by
    obtain rfl := eq_of_same h rfl fun _ => nofun
    exact iff_of_true (fun _ _ => rfl) trivial
  | bool _, w, h, _, _ => by
    obtain rfl := eq_of_same h rfl fun _ => nofun
    exact iff_of_true (fun _ _ => rfl) trivial
  | char _, w, h, _, _ => by
    obtain rfl := eq_of_same h rfl fun _ => nofun
    exact iff_of_true (fun _ _ => rfl) trivial
  | str _, w, h, _, _ => by
    obtain rfl := eq_of_same h rfl fun _ => nofun
    exact iff_of_true (fun _ _ => rfl) trivial
  | bytes _, w, h, _, _ => by
    obtain rfl := eq_of_same h rfl fun _ => nofun
    exact iff_of_true (fun _ _ => rfl) trivial

theorem sameItems_congr_iff : ∀ {us ws : List Value}, sameItems us ws = true →
    areProper us = true → areProper ws = true →
      ((∀ vs, areProper vs = true → sameItems us vs = sameItems ws vs) ↔ AlignedItems us ws)
  | [], ws, h, _, _ => by cases ws <;> simp [sameItems, AlignedItems] at h ⊢
  | u :: us, [], h, _, _ => by simp [sameItems] at h
  | u :: us, w :: ws, h, hu, hw => by
    rw [sameItems, Bool.and_eq_true] at h
    rw [areProper, Bool.and_eq_true] at hu hw
    rw [AlignedItems, ← same_congr_iff h.1 hu.1 hw.1, ← sameItems_congr_iff h.2 hu.2 hw.2]
    constructor
    · -- A difference in one place shows if the other places hold what is expected there.
      intro hagree
      refine ⟨fun v hv => ?_, fun vs hvs => ?_⟩
      · have := hagree (v :: ws) (by rw [areProper, hv, hw.2]; rfl)
        rwa [sameItems, sameItems, h.2, sameItems_self_of_same h.2, Bool.and_true,
          Bool.and_true] at this
      · have := hagree (w :: vs) (by rw [areProper, hvs, hw.1]; rfl)
        rwa [sameItems, sameItems, h.1, same_self_of_same h.1, Bool.true_and, Bool.true_and] at this
    · rintro ⟨hhead, htail⟩ vs hvs
      cases vs with
      | nil => rfl
      | cons v vs =>
        rw [areProper, Bool.and_eq_true] at hvs
        rw [sameItems, sameItems, hhead v hvs.1, htail vs hvs.2]

end

/-! ## Ends of ranges -/

variable {lo hi lo' hi' : Value}

theorem Joins.place_eq (h : u.Joins w) : u.place = w.place := by
  cases h with
  | alike _ hplace _ _ => exact hplace
  | intFloat hn hx => exact hn.trans hx.symm
  | floatInt hn hx => exact hx.trans hn.symm

/-- An integer that is the least one in its place is a low end as good as the place itself. -/
theorem atMost_int_congr (hproper : t.holds n = true) (hn : (int t n).place = some p)
    (hx : x.place = some p) (hleast : IsLeast n) (hv : v.isProper = true) :
    (int t n).atMost v = (float f x).atMost v := by
  cases v with
  | int t' m =>
    rw [Bool.eq_iff_iff, atMost_int_iff, atMost_float_left, hx]
    constructor
    · intro hle
      exact ⟨p, _, rfl, place_int hv, place_mono hproper hv hle hn (place_int hv)⟩
    · rintro ⟨p', q, hp, hq, hpq⟩
      cases hp
      by_contra hlt
      have hsame := place_eq_of_le hv hproper (by omega) hq hn hpq
      exact hlt (hleast t' m hv ((compare?_ofInt_iff hproper t' m).mpr hsame))
  | float f' y => rw [Bool.eq_iff_iff, atMost_float_right, atMost_float_left, hn, hx]; rfl
  | _ => simp [atMost, compare?, number?]

/-- An integer that is the greatest one in its place is a high end as good as the place itself. -/
theorem int_atMost_congr (hproper : t.holds n = true) (hn : (int t n).place = some p)
    (hx : x.place = some p) (hgreatest : IsGreatest n) (hv : v.isProper = true) :
    v.atMost (int t n) = v.atMost (float f x) := by
  cases v with
  | int t' m =>
    rw [Bool.eq_iff_iff, atMost_int_iff, atMost_float_right, hx]
    constructor
    · intro hle
      exact ⟨_, p, place_int hv, rfl, place_mono hv hproper hle (place_int hv) hn⟩
    · rintro ⟨q, p', hq, hp, hqp⟩
      cases hp
      by_contra hlt
      have hsame := place_eq_of_le hproper hv (by omega) hn hq hqp
      exact hlt (hgreatest t' m hv ((compare?_ofInt_iff hproper t' m).mpr hsame.symm))
  | float f' y => rw [Bool.eq_iff_iff, atMost_float_left, atMost_float_right, hn, hx]; rfl
  | _ => simp [atMost, compare?, number?]

theorem Joins.left_congr (h : lo.Joins lo') (hlo : lo.isProper = true) (hlo' : lo'.isProper = true)
    (hleast : ∀ n ∈ lo.meeting? lo', IsLeast n) (hv : v.isProper = true) :
    lo.atMost v = lo'.atMost v := by
  cases h with
  | alike _ _ hleft _ => exact hleft v
  | intFloat hn hx => exact atMost_int_congr hlo hn hx (hleast _ rfl) hv
  | floatInt hn hx => exact (atMost_int_congr hlo' hn hx (hleast _ rfl) hv).symm

theorem Joins.right_congr (h : hi.Joins hi') (hhi : hi.isProper = true) (hhi' : hi'.isProper = true)
    (hgreatest : ∀ n ∈ hi.meeting? hi', IsGreatest n) (hv : v.isProper = true) :
    v.atMost hi = v.atMost hi' := by
  cases h with
  | alike _ _ _ hright => exact hright v
  | intFloat hn hx => exact int_atMost_congr hhi hn hx (hgreatest _ rfl) hv
  | floatInt hn hx => exact (int_atMost_congr hhi' hn hx (hgreatest _ rfl) hv).symm

/-- A high end that is not below an integer's place leaves room for an integer there. -/
theorem exists_int_atMost (hm : t.holds m = true) (hp : (int t m).place = some p)
    (hhi : hi.isProper = true) (hq : hi.place = some q) (hpq : p ≤ q) :
    ∃ t' k, IntType.holds t' k = true ∧ k ≤ m ∧ (int t' k).place = some p ∧
      (int t' k).atMost hi = true := by
  cases hi with
  | int t' h =>
    by_cases hle : m ≤ h
    · exact ⟨t, m, hm, le_rfl, hp, atMost_int_iff.mpr hle⟩
    · have hsame := place_eq_of_le hhi hm (by omega) hq hp hpq
      exact ⟨t', h, hhi, by omega, hsame.trans hp, atMost_int_iff.mpr le_rfl⟩
  | float f y => exact ⟨t, m, hm, le_rfl, hp, atMost_float_right.mpr ⟨p, q, hp, hq, hpq⟩⟩
  | _ => cases hq

/-- So does a low end that is not above it. -/
theorem exists_atMost_int (hm : t.holds m = true) (hp : (int t m).place = some p)
    (hlo : lo.isProper = true) (hq : lo.place = some q) (hqp : q ≤ p) :
    ∃ t' k, IntType.holds t' k = true ∧ m ≤ k ∧ (int t' k).place = some p ∧
      lo.atMost (int t' k) = true := by
  cases lo with
  | int t' l =>
    by_cases hle : l ≤ m
    · exact ⟨t, m, hm, le_rfl, hp, atMost_int_iff.mpr hle⟩
    · have hsame := place_eq_of_le hm hlo (by omega) hp hq hqp
      exact ⟨t', l, hlo, by omega, hsame.symm.trans hp, atMost_int_iff.mpr le_rfl⟩
  | float f y => exact ⟨t, m, hm, le_rfl, hp, atMost_float_left.mpr ⟨q, p, hq, hp, hqp⟩⟩
  | _ => cases hq

/-- A smaller integer in the place of a low end tells an integer there from a floating-point
number. -/
theorem isLeast_of_agree (hproper : t.holds n = true) (hn : (int t n).place = some p)
    (hx : x.place = some p) (hhi' : hi'.isProper = true) (hq : hi'.place = some q) (hpq : p ≤ q)
    (hagree : ∀ v, v.isProper = true → ((int t n).atMost v && v.atMost hi) =
      ((float f x).atMost v && v.atMost hi')) : IsLeast n := by
  intro t' m hm hdouble
  by_contra hlt
  have hp := ((compare?_ofInt_iff hproper t' m).mp hdouble).trans hn
  obtain ⟨t'', k, hk, hkm, hplace, hle⟩ := exists_int_atMost hm hp hhi' hq hpq
  have haccepted : ((float f x).atMost (int t'' k) && (int t'' k).atMost hi') = true := by
    rw [hle, Bool.and_true, atMost_float_left]
    exact ⟨p, p, hx, hplace, le_rfl⟩
  rw [← hagree (int t'' k) hk, Bool.and_eq_true, atMost_int_iff] at haccepted
  omega

/-- A greater integer in the place of a high end tells them apart as well. -/
theorem isGreatest_of_agree (hproper : t.holds n = true) (hn : (int t n).place = some p)
    (hx : x.place = some p) (hlo' : lo'.isProper = true) (hq : lo'.place = some q) (hqp : q ≤ p)
    (hagree : ∀ v, v.isProper = true → (lo.atMost v && v.atMost (int t n)) =
      (lo'.atMost v && v.atMost (float f x))) : IsGreatest n := by
  intro t' m hm hdouble
  by_contra hlt
  have hp := ((compare?_ofInt_iff hproper t' m).mp hdouble).trans hn
  obtain ⟨t'', k, hk, hmk, hplace, hle⟩ := exists_atMost_int hm hp hlo' hq hqp
  have haccepted : (lo'.atMost (int t'' k) && (int t'' k).atMost (float f x)) = true := by
    rw [hle, Bool.true_and, atMost_float_right]
    exact ⟨p, p, hplace, hx, le_rfl⟩
  rw [← hagree (int t'' k) hk, Bool.and_eq_true, atMost_int_iff] at haccepted
  omega

/-- A range of numbers with nothing in it accepts nothing. -/
theorem between_of_not_spans (hlo : lo.isProper = true) (hhi : hi.isProper = true)
    (hnum : lo.place.isSome = true ∨ hi.place.isSome = true) (hspans : ¬ lo.Spans hi)
    (hv : v.isProper = true) : (lo.atMost v && v.atMost hi) = false := by
  rw [Bool.eq_false_iff]
  intro h
  rw [Bool.and_eq_true] at h
  refine hspans (spans_iff.mpr ?_)
  rcases hnum with hnum | hnum
  · obtain ⟨p, r, hp, hr, hpr⟩ := places_of_atMost hlo hv h.1 (Or.inl hnum)
    obtain ⟨r', q, hr', hq, hrq⟩ := places_of_atMost hv hhi h.2 (Or.inl (by rw [hr]; rfl))
    cases hr.symm.trans hr'
    exact ⟨p, q, hp, hq, hpr.trans hrq⟩
  · obtain ⟨r, q, hr, hq, hrq⟩ := places_of_atMost hv hhi h.2 (Or.inr hnum)
    obtain ⟨p, r', hp, hr', hpr⟩ := places_of_atMost hlo hv h.1 (Or.inr (by rw [hr]; rfl))
    cases hr.symm.trans hr'
    exact ⟨p, q, hp, hq, hpr.trans hrq⟩

/-- Where an integer meets a floating-point number, there are numbers. -/
theorem Joins.isSome_place (h : u.Joins w) (hmeeting : n ∈ u.meeting? w) :
    u.place.isSome = true := by
  cases h with
  | alike hnone _ _ _ =>
    rw [hnone] at hmeeting
    cases hmeeting
  | intFloat hn hx => rw [hn]; rfl
  | floatInt hn hx => exact Option.isSome_iff_exists.mpr ⟨_, hx⟩

/-- If ranges agree, their low ends are aligned. -/
theorem Joins.isLeast_of_agree (h : lo.Joins lo') (h' : hi.Joins hi') (hlo : lo.isProper = true)
    (hlo' : lo'.isProper = true) (hhi : hi.isProper = true) (hhi' : hi'.isProper = true)
    (hspans : lo.Spans hi) (hagree : ∀ v, v.isProper = true →
      (lo.atMost v && v.atMost hi) = (lo'.atMost v && v.atMost hi')) :
    ∀ n ∈ lo.meeting? lo', IsLeast n := by
  obtain ⟨p, q, hp, hq, hpq⟩ := spans_iff.mp hspans
  have hp' := h.place_eq.symm.trans hp
  have hq' := h'.place_eq.symm.trans hq
  intro n hn
  cases h with
  | alike hnone _ _ _ =>
    rw [hnone] at hn
    cases hn
  | intFloat _ _ =>
    cases hn
    exact Value.isLeast_of_agree hlo hp hp' hhi' hq' hpq hagree
  | floatInt _ _ =>
    cases hn
    exact Value.isLeast_of_agree hlo' hp' hp hhi hq hpq fun v hv => (hagree v hv).symm

/-- If ranges agree, their high ends are aligned. -/
theorem Joins.isGreatest_of_agree (h : lo.Joins lo') (h' : hi.Joins hi') (hlo : lo.isProper = true)
    (hlo' : lo'.isProper = true) (hhi : hi.isProper = true) (hhi' : hi'.isProper = true)
    (hspans : lo.Spans hi) (hagree : ∀ v, v.isProper = true →
      (lo.atMost v && v.atMost hi) = (lo'.atMost v && v.atMost hi')) :
    ∀ n ∈ hi.meeting? hi', IsGreatest n := by
  obtain ⟨p, q, hp, hq, hpq⟩ := spans_iff.mp hspans
  have hp' := h.place_eq.symm.trans hp
  have hq' := h'.place_eq.symm.trans hq
  intro n hn
  cases h' with
  | alike hnone _ _ _ =>
    rw [hnone] at hn
    cases hn
  | intFloat _ _ =>
    cases hn
    exact Value.isGreatest_of_agree hhi hq hq' hlo' hp' hpq hagree
  | floatInt _ _ =>
    cases hn
    exact Value.isGreatest_of_agree hhi' hq' hq hlo hp hpq fun v hv => (hagree v hv).symm

/-- Ranges with equal ends accept the same values exactly if the ends are aligned. -/
theorem between_congr_iff (hsame : lo.same lo' = true) (hsame' : hi.same hi' = true)
    (hlo : lo.isProper = true) (hlo' : lo'.isProper = true) (hhi : hi.isProper = true)
    (hhi' : hi'.isProper = true) :
    (∀ v, v.isProper = true → (lo.atMost v && v.atMost hi) = (lo'.atMost v && v.atMost hi')) ↔
      lo.AlignedEnds hi lo' hi' := by
  have h := joins_of_same hsame
  have h' := joins_of_same hsame'
  constructor
  · intro hagree hspans
    exact ⟨h.isLeast_of_agree h' hlo hlo' hhi hhi' hspans hagree,
      h.isGreatest_of_agree h' hlo hlo' hhi hhi' hspans hagree⟩
  · intro haligned v hv
    by_cases hspans : lo.Spans hi
    · obtain ⟨hleast, hgreatest⟩ := haligned hspans
      rw [h.left_congr hlo hlo' hleast hv, h'.right_congr hhi hhi' hgreatest hv]
    · by_cases hnum : lo.place.isSome = true ∨ hi.place.isSome = true
      · have hspans' : ¬ lo'.Spans hi' := by
          rwa [spans_iff, ← h.place_eq, ← h'.place_eq, ← spans_iff]
        rw [between_of_not_spans hlo hhi hnum hspans hv,
          between_of_not_spans hlo' hhi' (h.place_eq ▸ h'.place_eq ▸ hnum) hspans' hv]
      · -- The ends are no numbers, and then no integer meets a floating-point number.
        rw [not_or] at hnum
        rw [h.left_congr hlo hlo' (fun n hn => absurd (h.isSome_place hn) hnum.1) hv,
          h'.right_congr hhi hhi' (fun n hn => absurd (h'.isSome_place hn) hnum.2) hv]

/-! ## Small integers -/

/-- An integer below `2^53` is a double, and has its place for itself. -/
theorem isOnly_of_small (hproper : t.holds n = true) (h : n.natAbs < 2 ^ 53) : IsOnly n := by
  have honly (t' : IntType) (m : Int) (hm : t'.holds m = true)
      (hdouble : (Format.double.ofInt m).compare? (Format.double.ofInt n) = some .eq) : m = n := by
    have hplace := (compare?_ofInt_iff hproper t' m).mp hdouble
    rw [place_int hm, place_int hproper] at hplace
    exact eq_of_rounded_eq h (by simpa using hplace)
  exact ⟨fun t' m hm hd => Int.le_of_eq (honly t' m hm hd).symm,
    fun t' m hm hd => Int.le_of_eq (honly t' m hm hd)⟩

end Value

end Understudy

import Understudy.Value.Basic

/-!
# Equality of values without floating-point numbers

Equality of values goes by what a number denotes, not by its width. As long as no floating-point
number takes part nothing is rounded, and forgetting the widths (`Value.plain`) turns this equality
into identity: `same_iff_plain_eq`. From there `same` is an equivalence on values that hold no
floating-point number, in lists of any depth.
-/

namespace Understudy

namespace Value

mutual

/-- Whether a value holds no floating-point number, in lists of any depth. -/
def floatFree : Value → Bool
  | float .. => false
  | list items => floatFreeItems items
  | _ => true

/-- Whether no item of a list holds a floating-point number. -/
def floatFreeItems : List Value → Bool
  | [] => true
  | v :: vs => v.floatFree && floatFreeItems vs

end

mutual

/-- A value whose integers are all of one width. -/
def plain : Value → Value
  | int _ n => int .i64 n
  | list items => list (plainItems items)
  | v => v

/-- The items of a list, their integers being all of one width. -/
def plainItems : List Value → List Value
  | [] => []
  | v :: vs => v.plain :: plainItems vs

end

/-- Integers are equal if they denote the same integer. -/
theorem sameNumber_int_iff {m n : Int} : sameNumber (.int m) (.int n) = true ↔ m = n := by
  simp [sameNumber, Number.compare?]

mutual

/-- Without floating-point numbers, values are equal exactly if they are the same but for widths. -/
theorem same_iff_plain_eq : ∀ {a b : Value}, a.floatFree = true → b.floatFree = true →
    (a.same b = true ↔ a.plain = b.plain)
  | list as, b, ha, hb => by
    cases b with
    | list bs =>
      rw [floatFree] at ha hb
      rw [same, plain, plain, sameItems_iff_plainItems_eq ha hb, list.injEq]
    | _ => simp [same, plain]
  | int _ m, b, _, hb => by
    cases b with
    | int _ n => rw [same, sameNumber_int_iff, plain, plain, int.injEq, and_iff_right rfl]
    | float => simp [floatFree] at hb
    | _ => simp [same, plain]
  | float .., _, ha, _ => by simp [floatFree] at ha
  -- All other values are equal to values of their own kind only.
  | null, b, _, _ => by cases b <;> simp [same, plain]
  | unit, b, _, _ => by cases b <;> simp [same, plain]
  | bool _, b, _, _ => by cases b <;> simp [same, plain]
  | char _, b, _, _ => by cases b <;> simp [same, plain]
  | str _, b, _, _ => by cases b <;> simp [same, plain]
  | bytes _, b, _, _ => by cases b <;> simp [same, plain]

theorem sameItems_iff_plainItems_eq : ∀ {as bs : List Value}, floatFreeItems as = true →
    floatFreeItems bs = true → (sameItems as bs = true ↔ plainItems as = plainItems bs)
  | [], [], _, _ => by simp [sameItems, plainItems]
  | [], _ :: _, _, _ => by simp [sameItems, plainItems]
  | _ :: _, [], _, _ => by simp [sameItems, plainItems]
  | a :: as, b :: bs, ha, hb => by
    rw [floatFreeItems, Bool.and_eq_true] at ha hb
    rw [sameItems, Bool.and_eq_true, plainItems, plainItems, List.cons.injEq,
      same_iff_plain_eq ha.1 hb.1, sameItems_iff_plainItems_eq ha.2 hb.2]

end

variable {a b c : Value}

theorem same_refl (ha : a.floatFree = true) : a.same a = true := (same_iff_plain_eq ha ha).mpr rfl

theorem same_symm (ha : a.floatFree = true) (hb : b.floatFree = true) (h : a.same b = true) :
    b.same a = true :=
  (same_iff_plain_eq hb ha).mpr ((same_iff_plain_eq ha hb).mp h).symm

theorem same_trans (ha : a.floatFree = true) (hb : b.floatFree = true) (hc : c.floatFree = true)
    (h : a.same b = true) (h' : b.same c = true) : a.same c = true :=
  (same_iff_plain_eq ha hc).mpr
    (((same_iff_plain_eq ha hb).mp h).trans ((same_iff_plain_eq hb hc).mp h'))

end Value

end Understudy

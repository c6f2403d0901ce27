import Understudy.Proofs.Recording.Assembly
import Understudy.Proofs.Replay.Resolution

/-!
# Where recorded expectations go

An expectation is known by its place in the table of its type. A strict table puts a new
one at its end; a lenient one puts it in the place of the first identical one, if it has
one. Either way it is the only place that changes (`getElem?_add`).

`expectation?_closeRecord` says what closing a whole block does to one place: a new
expectation of the block stands there, or what stood there before.
-/

namespace Understudy

namespace Table

variable {t : Table} {e : Expectation} {es : List Expectation} {i : Nat}

/-- The place where an expectation is added. -/
def placeFor (t : Table) (e : Expectation) : Nat :=
  match t.options.strictness with
  | .strict => t.expectations.length
  | .lenient => t.expectations.findIdx fun old => old.pattern.identical e.pattern

/-- The places where expectations are added one after another. -/
def placesFor : Table → List Expectation → List Nat
  | _, [] => []
  | t, e :: es => t.placeFor e :: (t.add e).placesFor es

/-- Replacing the first element of a kind, or adding one, changes the list in one place. -/
theorem getElem?_replaceFirst? {α : Type} (p : α → Bool) (new : α) : ∀ (xs : List α) (i : Nat),
    ((replaceFirst? p new xs).getD (xs ++ [new]))[i]? =
      if i = xs.findIdx p then some new else xs[i]?
  | [], i => by
    cases i with
    | zero => rfl
    | succ i => rfl
  | x :: xs, i => by
    rw [replaceFirst?, List.findIdx_cons]
    cases hp : p x with
    | true =>
      cases i with
      | zero => rfl
      | succ i => rfl
    | false =>
      -- The head stays, whether an entry behind it is replaced or a new one is appended.
      have hcons : ((replaceFirst? p new xs).map (x :: ·)).getD (x :: xs ++ [new]) =
          x :: (replaceFirst? p new xs).getD (xs ++ [new]) := by
        cases replaceFirst? p new xs with
        | none => rfl
        | some ys => rfl
      simp only [Bool.false_eq_true, if_false, cond_false]
      rw [hcons]
      cases i with
      | zero => rfl
      | succ i =>
        rw [List.getElem?_cons_succ, getElem?_replaceFirst? p new xs i, List.getElem?_cons_succ]
        by_cases hi : i = xs.findIdx p
        · rw [if_pos hi, if_pos (by omega)]
        · rw [if_neg hi, if_neg (by omega)]

/-- Adding an expectation changes one place of the table. -/
theorem getElem?_add (t : Table) (e : Expectation) (i : Nat) :
    (t.add e).expectations[i]? = if i = t.placeFor e then some e else t.expectations[i]? := by
  unfold add placeFor
  dsimp only
  cases t.options.strictness with
  | lenient => exact getElem?_replaceFirst? _ e t.expectations i
  | strict =>
    by_cases hi : i = t.expectations.length
    · rw [if_pos hi, hi]
      exact List.getElem?_concat_length
    · rw [if_neg hi]
      rcases Nat.lt_or_gt_of_ne hi with hlt | hgt
      · exact List.getElem?_append_left hlt
      · rw [List.getElem?_eq_none (Nat.le_of_lt hgt)]
        refine List.getElem?_eq_none ?_
        show (t.expectations ++ [e]).length ≤ i
        rw [List.length_append, List.length_singleton]
        omega

theorem addAll_cons (t : Table) (e : Expectation) (es : List Expectation) :
    t.addAll (e :: es) = (t.add e).addAll es := by
  rw [addAll_eq_foldl, addAll_eq_foldl, List.foldl_cons]

theorem addAll_nil (t : Table) : t.addAll [] = t := by
  rw [addAll_eq_foldl, List.foldl_nil]

theorem getElem?_addAll_of_not_mem (hi : i ∉ t.placesFor es) :
    (t.addAll es).expectations[i]? = t.expectations[i]? := by
  induction es generalizing t with
  | nil => rw [addAll_nil]
  | cons e es ih =>
    obtain ⟨hne, hrest⟩ := not_or.mp fun h => hi (List.mem_cons.mpr h)
    rw [addAll_cons, ih hrest, getElem?_add, if_neg hne]

theorem getElem?_addAll_of_mem (hi : i ∈ t.placesFor es) :
    ∃ e ∈ es, (t.addAll es).expectations[i]? = some e := by
  induction es generalizing t with
  | nil => cases hi
  | cons e es ih =>
    rw [addAll_cons]
    -- A later expectation of the list may take the place over.
    by_cases hlater : i ∈ (t.add e).placesFor es
    · obtain ⟨e', hmem, hat⟩ := ih hlater
      exact ⟨e', List.mem_cons_of_mem _ hmem, hat⟩
    · have hhere : i = t.placeFor e := by
        rcases List.mem_cons.mp hi with heq | hin
        · exact heq
        · exact absurd hin hlater
      refine ⟨e, List.mem_cons_self .., ?_⟩
      rw [getElem?_addAll_of_not_mem hlater, getElem?_add, if_pos hhere]

end Table

namespace Session

variable {s : Session} {r : Recording} {T : String} {i : Nat}

/-- Whether closing a block puts one of its expectations at a place. -/
def recordsAt (s : Session) (r : Recording) (T : String) (i : Nat) : Bool :=
  match s.assemble r, s.table? T with
  | .ok es, some t => i ∈ t.placesFor (ofType T es)
  | _, _ => false

/-- Closing a block leaves a place as it was, unless it records there. -/
theorem expectation?_closeRecord (s : Session) (r : Recording) (T : String) (i : Nat) :
    (s.recordsAt r T i = true ∧ ∃ e, (∃ d ∈ r.drafts, s.Becomes r.iterations d (T, e)) ∧
      (s.closeRecord r).2.expectation? T i = some e) ∨
    (s.recordsAt r T i = false ∧ (s.closeRecord r).2.expectation? T i = s.expectation? T i) := by
  unfold recordsAt
  rcases closeRecord_cases s r with ⟨es, ha, hc⟩ | ⟨err, ha, hc⟩
  · rw [ha, hc]
    have htable : ((s.addExpectations es).inPhase .replaying).table? T =
        (s.table? T).map (·.addAll (ofType T es)) := table?_addExpectations s es T
    cases ht : s.table? T with
    | none =>
      rw [ht] at htable
      exact Or.inr ⟨rfl, expectation?_congr (htable.trans ht.symm)⟩
    | some t =>
      rw [ht] at htable
      rw [expectation?_of_table? htable, expectation?_of_table? ht]
      dsimp only
      -- A table that gets expectations changes where they go, and at no other place.
      by_cases hi : i ∈ t.placesFor (ofType T es)
      · obtain ⟨e, hmem, hat⟩ := Table.getElem?_addAll_of_mem hi
        have hdraft := mem_assemble ha _ (mem_ofType.mp hmem)
        exact Or.inl ⟨decide_eq_true hi, e, hdraft, hat⟩
      · exact Or.inr ⟨decide_eq_false hi, Table.getElem?_addAll_of_not_mem hi⟩
  · rw [ha, hc]
    exact Or.inr ⟨rfl, rfl⟩

end Session

end Understudy

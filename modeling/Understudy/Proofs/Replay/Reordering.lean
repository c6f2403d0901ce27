import Understudy.Proofs.Replay.Told

/-!
# Calls of a lenient type in another order

A lenient table asks its expectations in an order that changes with every answer. If no call
is described twice, that order makes no difference: the table is nothing but a row of
counters, one for each expectation, and a call moves at most the one that belongs to it
(`Counted.resolve`, `Decides`).

So the calls that one expectation describes can be told apart from all others by deleting those
(`told_describes`), and what nothing describes is answered alike at any time
(`told_undescribed`). A run is put together from these parts, and `told_reordered` says that
putting it in another order, each part kept in its own, changes nothing for the callers.
-/

namespace Understudy

/-! ## A table as a row of counters -/

namespace Table

variable {t t₀ : Table} {n n' n₁ n₁' : Nat → Nat} {c : Call} {i : Nat} {e : Expectation}
variable {r r' : Resolution}

/-- The table has answered calls since it was `t₀`, and its counters now stand at `n`. -/
structure Counted (t₀ : Table) (n : Nat → Nat) (t : Table) : Prop where
  options : t.options = t₀.options
  length : t.expectations.length = t₀.expectations.length
  place : ∀ i (e : Expectation), t₀.expectations[i]? = some e →
    ∃ last, t.expectations[i]? = some (e.counting (n i) last)

/-- A table has counted what its counters say. -/
theorem counted_self (t : Table) :
    t.Counted (fun i => ((t.expectations[i]?).map (·.counter.count)).getD 0) t where
  options := rfl
  length := rfl
  place := by
    intro i e he
    refine ⟨e.lastMatched, ?_⟩
    rw [he]
    rfl

/-- Every expectation of the table is an old one. -/
theorem Counted.source (h : t₀.Counted n t) {d : Expectation} (hd : t.expectations[i]? = some d) :
    ∃ e last, t₀.expectations[i]? = some e ∧ d = e.counting (n i) last := by
  have hlt : i < t₀.expectations.length := h.length ▸ (List.getElem?_eq_some_iff.mp hd).1
  have he := List.getElem?_eq_getElem hlt
  obtain ⟨last, hat⟩ := h.place i _ he
  exact ⟨_, last, he, Option.some.inj (hd.symm.trans hat)⟩

/-- One more answer moves one counter. -/
theorem Counted.counted {t' : Table} {d : Expectation} {m : Nat} (h : t₀.Counted n t)
    (hd : t.expectations[i]? = some d) (hoptions : t'.options = t.options)
    (hexp : t'.expectations = t.expectations.set i (d.counted m)) :
    t₀.Counted (Function.update n i (n i + 1)) t' := by
  obtain ⟨e, last, he, rfl⟩ := h.source hd
  have hlt : i < t.expectations.length := (List.getElem?_eq_some_iff.mp hd).1
  refine ⟨hoptions.trans h.options, ?_, ?_⟩
  · rw [hexp, List.length_set, h.length]
  · intro j d hj
    rw [hexp]
    by_cases hij : i = j
    · subst hij
      obtain rfl : e = d := Option.some.inj (he.symm.trans hj)
      refine ⟨some m, ?_⟩
      rw [List.getElem?_set_self hlt, Function.update_self]
      rfl
    · rw [List.getElem?_set_ne hij, Function.update_of_ne (Ne.symm hij)]
      exact h.place j d hj

/-- Whatever a table makes of a call, its counters are all that changes. -/
theorem Counted.step (h : t₀.Counted n t) (c : Invocation) : ∃ n', t₀.Counted n' (t.step c).2 := by
  cases hr : t.resolve c with
  | error err =>
    rw [step_of_error hr]
    exact ⟨n, h⟩
  | ok p =>
    obtain ⟨r, t'⟩ := p
    rw [step_of_ok hr]
    rcases resolve_cases hr with ⟨rfl, -⟩ | ⟨i, d, hd, -, -, hoptions, -, hexp⟩
    · exact ⟨n, h⟩
    · exact ⟨_, h.counted hd hoptions hexp⟩

/-- No matcher of a table fails on a call, and it is described at one place at most. -/
structure IsClear (t : Table) (c : Call) : Prop where
  accepts : ∀ e ∈ t.expectations, ∃ b, e.pattern.accepts ⟨c, 0⟩ = .ok b
  unique : ∀ i j, t.DescribesAt i ⟨c, 0⟩ → t.DescribesAt j ⟨c, 0⟩ → i = j

/-- What a lenient table makes of a clear call if its counters stand at `n`, and where they stand
afterwards. -/
inductive Decides (t₀ : Table) (n : Nat → Nat) (c : Call) : Resolution → (Nat → Nat) → Prop where
  | answered {i : Nat} {e : Expectation} (he : t₀.expectations[i]? = some e)
      (hacc : e.pattern.accepts ⟨c, 0⟩ = .ok true)
      (hcap : e.counter.bounds.exceededBy (n i + 1) = false) :
      Decides t₀ n c (.matched i (n i) e.counter.bounds (e.actionAt (n i)))
        (Function.update n i (n i + 1))
  | flagged {i : Nat} {e : Expectation} (he : t₀.expectations[i]? = some e)
      (hacc : e.pattern.accepts ⟨c, 0⟩ = .ok true)
      (hcap : e.counter.bounds.exceededBy (n i + 1) = true) :
      Decides t₀ n c (.unexpected e.exceeded) n
  | passed (hnone : ∀ i, ¬ t₀.DescribesAt i ⟨c, 0⟩) : Decides t₀ n c .unmatched n

/-- An answer moves the counter of its expectation. -/
theorem Counted.answer (h : t₀.Counted n t) (he : t₀.expectations[i]? = some e) :
    ∃ t', t.answer i = (.matched i (n i) e.counter.bounds (e.actionAt (n i)), t') ∧
      t₀.Counted (Function.update n i (n i + 1)) t' := by
  obtain ⟨last, hat⟩ := h.place i e he
  exact ⟨_, answer_of_getElem? hat, h.counted hat rfl rfl⟩

/-- A lenient table decides by its counters. -/
theorem Counted.resolve (h : t₀.Counted n t) (hl : t₀.options.strictness = .lenient)
    (hc : t₀.IsClear c) :
    ∃ r n' t', t.resolve ⟨c, 0⟩ = .ok (r, t') ∧ t₀.Decides n c r n' ∧ t₀.Counted n' t' := by
  have hok : ∀ d ∈ t.expectations, ∃ b, d.pattern.accepts ⟨c, 0⟩ = .ok b := by
    intro d hd
    obtain ⟨i, hi⟩ := List.mem_iff_getElem?.mp hd
    obtain ⟨e, last, he, rfl⟩ := h.source hi
    exact hc.accepts e (List.mem_of_getElem? he)
  have hall : ∀ i e, (i, e) ∈ t.candidates ↔ t.expectations[i]? = some e :=
    fun _ _ => mem_candidates_iff
  rw [Table.resolve, h.options, hl]
  dsimp only
  rw [resolveLenient]
  -- Three ways to be decided, and only the first one changes a counter.
  rcases findCoverage_cases hall hok with
    ⟨i, d, hcov, hroom, -⟩ | ⟨i, d, hcov, hnoRoom, hfind⟩ | ⟨hcov, hnone⟩
  · obtain ⟨e, last, he, rfl⟩ := h.source hroom.place
    obtain ⟨t', hans, hcounted⟩ := h.answer he
    rw [hcov]
    refine ⟨_, _, t', congrArg Except.ok hans, .answered he hroom.describes ?_, hcounted⟩
    exact (Bool.not_eq_true' _).mp hroom.capacity
  · have hd := mem_candidates_iff.mp (List.mem_of_find?_eq_some hfind)
    obtain ⟨hdesc, -⟩ := List.find?_eq_some_iff_append.mp hfind
    obtain ⟨e, last, he, rfl⟩ := h.source hd
    have hacc : e.pattern.accepts ⟨c, 0⟩ = .ok true := Pattern.describes_iff.mp hdesc
    rw [hcov]
    refine ⟨.unexpected e.exceeded, n, t, rfl, .flagged he hacc ?_, h⟩
    by_contra hcap
    refine hnoRoom i _ ⟨hd, hacc, ?_⟩
    exact (Bool.not_eq_true' _).mpr (Bool.not_eq_true _ ▸ hcap)
  · rw [hcov]
    refine ⟨_, _, t, rfl, .passed ?_, h⟩
    rintro i ⟨e, he, hacc⟩
    obtain ⟨last, hat⟩ := h.place i e he
    exact hnone i ⟨_, hat, hacc⟩

/-- A decision leaves the counters of all other expectations alone. -/
theorem Decides.others (h : t₀.Decides n c r n₁) (hi : ¬ t₀.DescribesAt i ⟨c, 0⟩) : n₁ i = n i := by
  cases h with
  | @answered j e he hacc hcap =>
    refine Function.update_of_ne ?_ _ _
    rintro rfl
    exact hi ⟨e, he, hacc⟩
  | flagged he hacc hcap => rfl
  | passed hnone => rfl

/-- A call that nothing describes is left open. -/
theorem Decides.eq_unmatched (h : t₀.Decides n c r n₁) (hnone : ∀ i, ¬ t₀.DescribesAt i ⟨c, 0⟩) :
    r = .unmatched := by
  cases h with
  | answered he hacc hcap => exact absurd ⟨_, he, hacc⟩ (hnone _)
  | flagged he hacc hcap => exact absurd ⟨_, he, hacc⟩ (hnone _)
  | passed hnone => rfl

/-- It depends on the counter of the expectation that describes the call and on no other. -/
theorem Decides.congr (h : t₀.Decides n c r n₁) (h' : t₀.Decides n' c r' n₁') (hc : t₀.IsClear c)
    (hi : t₀.DescribesAt i ⟨c, 0⟩) (hn : n' i = n i) : r' = r ∧ n₁' i = n₁ i := by
  obtain ⟨e, he, hacc⟩ := hi
  -- A clear call is described in one place, so both tables decide about the same expectation.
  have hone {j : Nat} {d : Expectation} (hd : t₀.expectations[j]? = some d)
      (haccd : d.pattern.accepts ⟨c, 0⟩ = .ok true) : j = i ∧ d = e := by
    obtain rfl := hc.unique j i ⟨d, hd, haccd⟩ ⟨e, he, hacc⟩
    exact ⟨rfl, Option.some.inj (hd.symm.trans he)⟩
  cases h with
  | answered hd haccd hcap =>
    obtain ⟨rfl, rfl⟩ := hone hd haccd
    cases h' with
    | answered hd' haccd' hcap' =>
      obtain ⟨rfl, rfl⟩ := hone hd' haccd'
      rw [hn, Function.update_self, Function.update_self]
      exact ⟨rfl, rfl⟩
    | flagged hd' haccd' hcap' =>
      obtain ⟨rfl, rfl⟩ := hone hd' haccd'
      rw [hn, hcap] at hcap'
      cases hcap'
    | passed hnone => exact absurd ⟨_, he, hacc⟩ (hnone _)
  | flagged hd haccd hcap =>
    obtain ⟨rfl, rfl⟩ := hone hd haccd
    cases h' with
    | answered hd' haccd' hcap' =>
      obtain ⟨rfl, rfl⟩ := hone hd' haccd'
      rw [hn, hcap] at hcap'
      cases hcap'
    | flagged hd' haccd' hcap' =>
      obtain ⟨-, rfl⟩ := hone hd' haccd'
      exact ⟨rfl, hn⟩
    | passed hnone => exact absurd ⟨_, he, hacc⟩ (hnone _)
  | passed hnone => exact absurd ⟨e, he, hacc⟩ (hnone i)

/-- Whether the expectation at a place describes a call. -/
def describes (t : Table) (i : Nat) (c : Call) : Bool :=
  (t.expectations[i]?).any (·.pattern.describes ⟨c, 0⟩)

theorem describes_iff : t.describes i c = true ↔ t.DescribesAt i ⟨c, 0⟩ := by
  unfold describes DescribesAt
  cases t.expectations[i]? with
  | none => exact ⟨nofun, nofun⟩
  | some e =>
    rw [Option.any_some, Pattern.describes_iff]
    constructor
    · intro h
      exact ⟨e, rfl, h⟩
    · rintro ⟨d, hd, h⟩
      cases hd
      exact h

/-- Whether some expectation describes a call. -/
def describesAny (t : Table) (c : Call) : Bool :=
  t.expectations.any (·.pattern.describes ⟨c, 0⟩)

theorem describesAny_iff : t.describesAny c = true ↔ ∃ i, t.DescribesAt i ⟨c, 0⟩ := by
  rw [describesAny, List.any_eq_true]
  constructor
  · rintro ⟨e, he, h⟩
    obtain ⟨i, hi⟩ := List.mem_iff_getElem?.mp he
    exact ⟨i, e, hi, Pattern.describes_iff.mp h⟩
  · rintro ⟨i, e, he, h⟩
    exact ⟨e, List.mem_of_getElem? he, Pattern.describes_iff.mpr h⟩

theorem Counted.delegateFree {t' : Table} (h : t.Counted n t') (hfree : t.DelegateFree) :
    t'.DelegateFree := by
  intro d hd
  obtain ⟨i, hi⟩ := List.mem_iff_getElem?.mp hd
  obtain ⟨e, last, he, rfl⟩ := h.source hi
  exact hfree e (List.mem_of_getElem? he)

end Table

/-- A list is a rearrangement of another one if every element belongs to parts of the lists that
are. -/
theorem perm_of_parts {α : Type} {l l' : List α}
    (h : ∀ a, ∃ part : α → Bool, part a = true ∧ (l'.filter part).Perm (l.filter part)) :
    l'.Perm l := by
  classical
  rw [List.perm_iff_count]
  intro a
  obtain ⟨part, ha, hperm⟩ := h a
  rw [← List.count_filter ha, hperm.count_eq, List.count_filter ha]

/-! ## Runs of calls -/

namespace Session

variable {s : Session} {T : String} {t : Table} {n : Nat → Nat} {depth : Nat} {c : Call}
variable {cs cs' : List Call}

/-- A session is open, and the table of a type has come from `t` with its counters at `n`. -/
def Counts (s : Session) (T : String) (t : Table) (n : Nat → Nat) : Prop :=
  s.IsOpen ∧ ∃ t', s.table? T = some t' ∧ t.Counted n t'

/-- A well-formed call on a type whose table is clear about it. -/
structure IsClearOn (T : String) (t : Table) (c : Call) : Prop where
  type : c.target.typeName = T
  wellFormed : c.check = .ok ()
  clear : t.IsClear c

theorem exists_counts (ho : s.IsOpen) (ht : s.table? T = some t) : ∃ n, s.Counts T t n :=
  ⟨_, ho, t, ht, t.counted_self⟩

theorem Counts.counter? (h : s.Counts T t n) (i : Nat) :
    (s.expectation? T i).map (·.counter) =
      (t.expectations[i]?).map fun e => ⟨e.counter.bounds, n i⟩ := by
  obtain ⟨-, t', ht, hcounted⟩ := h
  rw [expectation?_of_table? ht]
  cases he : t.expectations[i]? with
  | some e =>
    obtain ⟨last, hat⟩ := hcounted.place i e he
    rw [hat]
    rfl
  | none =>
    have hlen : t'.expectations.length ≤ i := hcounted.length ▸ List.getElem?_eq_none_iff.mp he
    rw [List.getElem?_eq_none hlen]
    rfl

/-- A dispatched call is decided by the counters, and its caller is told the decision. -/
theorem Counts.dispatch (h : s.Counts T t n) (depth : Nat) (hl : t.options.strictness = .lenient)
    (hfree : t.DelegateFree) (hc : IsClearOn T t c) :
    ∃ r n', t.Decides n c r n' ∧ (s.dispatch depth c).2.Counts T t n' ∧
      (Entered.ofResult t.options.policy ⟨c, 0⟩ (.ok r)).told? =
        some ((s.dispatch depth c).1.map Reply.unnumbered) := by
  obtain ⟨ho, u, hu, hcounted⟩ := h
  obtain ⟨r, n', u', hres, hdecides, hcounted'⟩ := hcounted.resolve hl hc.clear
  obtain rfl := hc.type
  obtain ⟨ho', hu', htold⟩ :=
    dispatch_of_step depth ho hu hc.wellFormed (hcounted.delegateFree hfree)
  rw [hcounted.options, Table.step_of_ok hres] at htold
  rw [Table.step_of_ok hres] at hu'
  exact ⟨r, n', hdecides, ⟨ho', u', hu', hcounted'⟩, htold⟩

/-- The counter of a place stands alike in two sessions. -/
def InStep (T : String) (t : Table) (i : Nat) (s s' : Session) : Prop :=
  ∃ n n', s.Counts T t n ∧ s'.Counts T t n' ∧ n' i = n i

section Runs

variable (hl : t.options.strictness = .lenient) (hfree : t.DelegateFree)
  (hcs : ∀ c ∈ cs, IsClearOn T t c)

include hl hfree hcs

/-- The calls that one expectation describes are answered as if there were no others. -/
theorem told_describes (h : s.Counts T t n) (i : Nat) :
    (s.told depth cs).filter (fun p => t.describes i p.1) =
      s.told depth (cs.filter (t.describes i)) ∧
      ((s.dispatchAll depth cs).expectation? T i).map (·.counter) =
        ((s.dispatchAll depth (cs.filter (t.describes i))).expectation? T i).map (·.counter) := by
  have hrun := told_filter depth (R := InStep T t i) (t.describes i) ?_ ?_ hcs ⟨n, n, h, h, rfl⟩
  · obtain ⟨htold, m, m', hm, hm', hmm⟩ := hrun
    refine ⟨htold, ?_⟩
    rw [hm.counter?, hm'.counter?, hmm]
  · rintro s s' c ⟨n, n', hs, hs', hnn⟩ hc hkeep
    obtain ⟨r, m, hdecides, hnext, htold⟩ := hs.dispatch depth hl hfree hc
    obtain ⟨r', m', hdecides', hnext', htold'⟩ := hs'.dispatch depth hl hfree hc
    obtain ⟨rfl, hmm⟩ := hdecides.congr hdecides' hc.clear (Table.describes_iff.mp hkeep) hnn
    exact ⟨Option.some.inj (htold.symm.trans htold'), m, m', hnext, hnext', hmm⟩
  · rintro s s' c ⟨n, n', hs, hs', hnn⟩ hc hdrop
    obtain ⟨r, m, hdecides, hnext, -⟩ := hs.dispatch depth hl hfree hc
    have hnot : ¬ t.DescribesAt i ⟨c, 0⟩ := by
      rw [← Table.describes_iff, hdrop]
      nofun
    exact ⟨m, n', hnext, hs', hnn.trans (hdecides.others hnot).symm⟩

/-- A call that no expectation describes is answered by the policy of the type, at any time. -/
theorem told_undescribed (h : s.Counts T t n) :
    (s.told depth cs).filter (fun p => !t.describesAny p.1) =
      (cs.filter fun c => !t.describesAny c).map fun c =>
        (c, .ok (.ok (match t.options.policy with
          | .total => .returned c.signature.returns.defaultValue
          | .partially => .callReal))) := by
  induction cs generalizing s n with
  | nil => rfl
  | cons c cs ih =>
    obtain ⟨hc, hrest⟩ := List.forall_mem_cons.mp hcs
    obtain ⟨r, m, hdecides, hnext, htold⟩ := h.dispatch depth hl hfree hc
    rw [told]
    cases hany : t.describesAny c with
    | true =>
      rw [List.filter_cons_of_neg (by simp [hany]), List.filter_cons_of_neg (by simp [hany])]
      exact ih hrest hnext
    | false =>
      rw [List.filter_cons_of_pos (by simp [hany]), List.filter_cons_of_pos (by simp [hany]),
        List.map_cons, ih hrest hnext]
      refine congrArg (fun out => (c, out) :: _) ?_
      -- Nothing describes the call, so its caller is told the default of the type.
      have hnone : ∀ i, ¬ t.DescribesAt i ⟨c, 0⟩ := by
        intro i hi
        rw [Table.describesAny_iff.mpr ⟨i, hi⟩] at hany
        cases hany
      rw [hdecides.eq_unmatched hnone] at htold
      cases hpolicy : t.options.policy with
      | total =>
        rw [hpolicy] at htold
        exact (Option.some.inj htold).symm
      | partially =>
        rw [hpolicy] at htold
        exact (Option.some.inj htold).symm

end Runs

/-- If the calls of a run are made in another order, which keeps the order of the calls that any one
expectation describes, every call is answered as before, and the counters end up the same. -/
theorem told_reordered (ho : s.IsOpen) (ht : s.table? T = some t)
    (hl : t.options.strictness = .lenient) (hfree : t.DelegateFree)
    (hcs : ∀ c ∈ cs, IsClearOn T t c) (hperm : cs'.Perm cs)
    (horder : ∀ i, cs'.filter (t.describes i) = cs.filter (t.describes i)) :
    (s.told depth cs').Perm (s.told depth cs) ∧
      (∀ i, (s.told depth cs').filter (fun p => t.describes i p.1) =
        (s.told depth cs).filter fun p => t.describes i p.1) ∧
      ∀ i, ((s.dispatchAll depth cs').expectation? T i).map (·.counter) =
        ((s.dispatchAll depth cs).expectation? T i).map (·.counter) := by
  have hcs' : ∀ c ∈ cs', IsClearOn T t c := fun c hc => hcs c (hperm.mem_iff.mp hc)
  obtain ⟨n, hn⟩ := exists_counts ho ht
  have hdescribed (i : Nat) : (s.told depth cs').filter (fun p => t.describes i p.1) =
      (s.told depth cs).filter fun p => t.describes i p.1 := by
    rw [(told_describes hl hfree hcs' hn i).1, (told_describes hl hfree hcs hn i).1, horder i]
  refine ⟨perm_of_parts ?_, hdescribed, ?_⟩
  · -- Each reply is counted among those of its expectation, or among those that nothing describes.
    intro p
    by_cases hany : ∃ i, t.describes i p.1 = true
    · obtain ⟨i, hi⟩ := hany
      exact ⟨fun p => t.describes i p.1, hi, .of_eq (hdescribed i)⟩
    · refine ⟨fun p => !t.describesAny p.1, ?_, ?_⟩
      · rw [Bool.not_eq_true', ← Bool.not_eq_true, Table.describesAny_iff]
        rintro ⟨i, hi⟩
        exact hany ⟨i, Table.describes_iff.mpr hi⟩
      · rw [told_undescribed hl hfree hcs' hn, told_undescribed hl hfree hcs hn]
        exact (hperm.filter _).map _
  · intro i
    rw [(told_describes hl hfree hcs' hn i).2, (told_describes hl hfree hcs hn i).2, horder i]

/-- A door whose calls may come in any order. -/
def easyDoor : Table := { doorTable with options := ⟨.lenient, .total⟩ }

/-- The door is clear about all calls without arguments. -/
theorem isClearOn_easyDoor (method : String) :
    IsClearOn "Door" easyDoor (.nullary "Door" method) where
  type := rfl
  wellFormed := rfl
  clear := {
    accepts := by
      intro e he
      obtain ⟨m, hpattern, -⟩ := mem_doorTable he
      rw [hpattern]
      exact ⟨_, Pattern.accepts_nullary "Door" m _⟩
    unique := by
      intro i j hi hj
      rcases describesAt_doorTable hi with ⟨rfl, hopen⟩ | ⟨rfl, hclose⟩
      · rcases describesAt_doorTable hj with ⟨rfl, -⟩ | ⟨-, hclose⟩
        · rfl
        · exact absurd (hopen.symm.trans hclose) (by decide)
      · rcases describesAt_doorTable hj with ⟨-, hopen⟩ | ⟨rfl, -⟩
        · exact absurd (hopen.symm.trans hclose) (by decide)
        · rfl }

/-- The door is closed between being opened twice, or before that. -/
theorem told_reordered_easyDoor :
    (({ tables := [("Door", easyDoor)] } : Session).told 0
        [.nullary "Door" "close", .nullary "Door" "open", .nullary "Door" "open"]).Perm
      (({ tables := [("Door", easyDoor)] } : Session).told 0
        [.nullary "Door" "open", .nullary "Door" "close", .nullary "Door" "open"]) := by
  have hfree : easyDoor.DelegateFree := by
    intro e he d hd
    obtain ⟨-, -, hscript⟩ := mem_doorTable he
    rw [hscript] at hd
    cases hd
  refine (told_reordered (T := "Door") (t := easyDoor) (by decide) rfl rfl hfree ?_ (.swap ..) ?_).1
  · intro c hc
    rcases List.mem_cons.mp hc with rfl | hc
    · exact isClearOn_easyDoor "open"
    · rcases List.mem_cons.mp hc with rfl | hc
      · exact isClearOn_easyDoor "close"
      · obtain rfl := List.mem_singleton.mp hc
        exact isClearOn_easyDoor "open"
  · intro i
    match i with
    | 0 => rfl
    | 1 => rfl
    | i + 2 => rfl

end Session

end Understudy

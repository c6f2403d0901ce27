import Understudy.Proofs.Replay.Unnumbered
import Understudy.Proofs.Session.Telling

/-!
# Types do not interfere

A session shares its phase, its log and its pending discrepancies among all types, and keeps one
table for each. `Alike` is what a type sees of a session: its own table, the settings, and
whether anything is let in. A deed on another type leaves a session alike (`alike_doing`), and
a deed on the type itself has the same outcome on sessions that are alike and leaves them so
(`Alike.doing`).

So nothing that a type answers depends on the deeds of another: `outcomesOn_filter` deletes these
from a run, and neither the outcomes of the type nor its table change. The numbers of calls
are all that tells the two runs apart.
-/

namespace Understudy

/-- What came of a call, its number left out, or of a record block. -/
inductive Outcome where
  | replied (outcome : Except Panic Reply)
  | recorded (outcome : Except SessionError Unit)

namespace Deed

/-- Whether a call or a record block is on a type or its instances. -/
def concerns (typeName : String) : Deed → Bool
  | dispatch _ c => c.target.typeName = typeName
  | record r => r.drafts.any fun d => d.pattern.target.typeName = typeName
  | _ => false

/-- A call, or a record block that names targets of one type only and records no delegate. -/
def IsSeparate : Deed → Prop
  | dispatch .. => True
  | record r => (∃ T, ∀ d ∈ r.drafts, d.pattern.target.typeName = T) ∧
      ∀ d ∈ r.drafts, ∀ f, Action.delegates f ∉ d.script
  | _ => False

theorem isSeparate_cases {d : Deed} (h : d.IsSeparate) : (∃ depth c, d = dispatch depth c) ∨
    ∃ r, d = record r ∧ (∃ T, ∀ d ∈ r.drafts, d.pattern.target.typeName = T) ∧
      ∀ d ∈ r.drafts, ∀ f, Action.delegates f ∉ d.script := by
  cases d with
  | dispatch depth c => exact Or.inl ⟨depth, c, rfl⟩
  | record r => exact Or.inr ⟨r, rfl, h⟩
  | declare | newInstance | openRecord | closeRecord | verify => exact h.elim

/-- A separate deed is on one type at most. -/
theorem concerns_of_ne {d : Deed} (h : d.IsSeparate) {A B : String} (hB : d.concerns B = true)
    (hAB : A ≠ B) : d.concerns A = false := by
  refine Bool.eq_false_iff.mpr fun hA => hAB ?_
  rcases isSeparate_cases h with ⟨depth, c, rfl⟩ | ⟨r, rfl, ⟨T, hone⟩, -⟩
  · exact (of_decide_eq_true hA).symm.trans (of_decide_eq_true hB)
  · obtain ⟨d, hd, hdA⟩ := List.any_eq_true.mp hA
    obtain ⟨e, he, heB⟩ := List.any_eq_true.mp hB
    have hT : A = T := (of_decide_eq_true hdA).symm.trans (hone d hd)
    exact hT.trans ((hone e he).symm.trans (of_decide_eq_true heB))

end Deed

namespace Session

/-- The outcome of a call or a record block. -/
def outcome? (s : Session) : Deed → Option Outcome
  | .dispatch depth c => some (.replied ((s.dispatch depth c).1.map Reply.unnumbered))
  | .record r => some (.recorded (s.record r).1)
  | _ => none

/-- The outcomes of the deeds of a run that are on a type. -/
def outcomesOn (typeName : String) : Session → List Deed → List Outcome
  | _, [] => []
  | s, d :: ds =>
    (if d.concerns typeName then (s.outcome? d).toList else []) ++
      (s.doing d).outcomesOn typeName ds

/-- What a type sees of two sessions is the same. -/
structure Alike (T : String) (s s' : Session) : Prop where
  table : s'.table? T = s.table? T
  config : s'.config = s.config
  /-- Open sessions look the same in whatever phase they are. -/
  phase : s'.phase = s.phase ∨ (s.IsOpen ∧ s'.IsOpen)

variable {s s' s'' : Session} {T : String} {c : Call} {r : Recording}

namespace Alike

theorem refl (T : String) (s : Session) : s.Alike T s := ⟨rfl, rfl, Or.inl rfl⟩

theorem isOpen_iff (h : s.Alike T s') : s'.IsOpen ↔ s.IsOpen := by
  rcases h.phase with hphase | ⟨ho, ho'⟩
  · unfold IsOpen
    rw [hphase]
  · exact iff_of_true ho' ho

theorem symm (h : s.Alike T s') : s'.Alike T s :=
  ⟨h.table.symm, h.config.symm, h.phase.imp Eq.symm And.symm⟩

theorem trans (h : s.Alike T s') (h' : s'.Alike T s'') : s.Alike T s'' := by
  refine ⟨h'.table.trans h.table, h'.config.trans h.config, ?_⟩
  by_cases ho : s.IsOpen
  · exact Or.inr ⟨ho, h'.isOpen_iff.mpr (h.isOpen_iff.mpr ho)⟩
  · have hphase := h.phase.resolve_right fun hboth => ho hboth.1
    have hphase' := h'.phase.resolve_right fun hboth => ho (h.isOpen_iff.mp hboth.1)
    exact Or.inl (hphase'.trans hphase)

/-- What keeps one of the two from opening a phase keeps the other. -/
theorem enterPhase_error (h : s.Alike T s') {operation : String} {p : Phase} {e : SessionError}
    (he : s.enterPhase operation p = .error e) : s'.enterPhase operation p = .error e := by
  have hshut : ¬ s.IsOpen := by
    intro ho
    rw [enterPhase_eq_ok_iff.mpr ⟨ho, rfl⟩] at he
    cases he
  have hphase := h.phase.resolve_right fun hboth => hshut hboth.1
  unfold enterPhase at he ⊢
  rw [hphase]
  split at he
  · exact he
  · exact he
  · cases he

end Alike

/-! ## Calls -/

theorem enter_config (s : Session) (c : Call) : (s.enter c).2.config = s.config := by
  by_cases ho : s.IsOpen
  · rw [enter_frame ho]
  · obtain ⟨e, -, -, henter⟩ := enter_of_not_isOpen (c := c) ho
    rw [henter]

/-- The table of a type after a call on the type: a well-formed call has it take a step. -/
theorem table?_enter_self (ho : s.IsOpen) (c : Call) : (s.enter c).2.table? c.target.typeName =
    (s.table? c.target.typeName).map fun t =>
      if c.check.isOk then (t.step (s.logCall c).1).2 else t := by
  cases ht : s.table? c.target.typeName with
  | none =>
    rw [enter_of_isOpen ho, ht]
    dsimp only
    split
    · exact ht
    · exact ht
  | some t =>
    cases hc : c.check with
    | ok u => exact table?_enter_of_wellFormed ho ht hc
    | error e =>
      rw [table?_enter_of_not_goesTo ho, ht]
      · rfl
      · intro h
        cases hc.symm.trans (exchange_goesTo_iff.mp h).2

theorem alike_enter (hc : c.target.typeName ≠ T) : s.Alike T (s.enter c).2 := by
  by_cases ho : s.IsOpen
  · refine ⟨table?_enter_of_not_goesTo ho ?_, enter_config s c, Or.inr ⟨ho, ho.enter⟩⟩
    exact fun h => hc (exchange_goesTo_iff.mp h).1
  · obtain ⟨e, -, -, henter⟩ := enter_of_not_isOpen (c := c) ho
    rw [henter]
    exact .refl T s

theorem Alike.enter (h : s.Alike T s') (hc : c.target.typeName = T) :
    (s.enter c).2.Alike T (s'.enter c).2 := by
  subst hc
  by_cases ho : s.IsOpen
  · have ho' := h.isOpen_iff.mpr ho
    refine ⟨?_, ?_, Or.inr ⟨ho.enter, ho'.enter⟩⟩
    · rw [table?_enter_self ho, table?_enter_self ho', h.table]
      -- The logs may differ, and the call have another number in each.
      have hsame : (s'.logCall c).1.toCall = (s.logCall c).1.toCall := rfl
      simp only [Table.step_congr hsame]
    · rw [enter_config, enter_config, h.config]
  · have ho' := mt h.isOpen_iff.mp ho
    obtain ⟨e, -, -, henter⟩ := enter_of_not_isOpen (c := c) ho
    obtain ⟨e', -, -, henter'⟩ := enter_of_not_isOpen (c := c) ho'
    rw [henter, henter']
    exact h

/-- What becomes of a call when it enters is the same in both sessions, its number apart. -/
theorem Alike.told?_enter (h : s.Alike c.target.typeName s') :
    (s'.enter c).1.told? = (s.enter c).1.told? := by
  by_cases ho : s.IsOpen
  · rw [enter_of_isOpen ho, enter_of_isOpen (h.isOpen_iff.mpr ho), h.table, h.config]
    cases s.table? c.target.typeName with
    | none => cases s.config.fallback <;> rfl
    | some t =>
      cases c.check with
      | error e => rfl
      | ok u => exact resolve_told?_congr
  · obtain ⟨e, -, hbegin, henter⟩ := enter_of_not_isOpen (c := c) ho
    have hbegin' : s'.beginDispatch = .error e := h.enterPhase_error hbegin
    rw [henter]
    unfold Session.enter
    rw [hbegin']

/-! ## Record blocks -/

theorem assembleDrafts_congr {n : Nat} {ds : List Draft}
    (h : ∀ d ∈ ds, s'.table? d.pattern.target.typeName = s.table? d.pattern.target.typeName) :
    s'.assembleDrafts n ds = s.assembleDrafts n ds := by
  induction ds with
  | nil => rfl
  | cons d ds ih =>
    rw [List.forall_mem_cons] at h
    rw [assembleDrafts, assembleDrafts, h.1, ih h.2]

theorem assemble_congr
    (h : ∀ d ∈ r.drafts, s'.table? d.pattern.target.typeName = s.table? d.pattern.target.typeName) :
    s'.assemble r = s.assemble r := by
  unfold assemble
  rw [assembleDrafts_congr h]

/-- A block without drafts on a type leaves its table as it was. -/
theorem ofType_of_not_drafted {es : List (String × Expectation)} (h : s.assemble r = .ok es)
    (hr : ∀ d ∈ r.drafts, d.pattern.target.typeName ≠ T) : ofType T es = [] := by
  refine List.eq_nil_iff_forall_not_mem.mpr fun e he => ?_
  obtain ⟨d, hd, t, -, -, heq⟩ := mem_assemble h _ (mem_ofType.mp he)
  exact hr d hd (congrArg Prod.fst heq).symm

theorem alike_closeRecord (ho : s.IsOpen) (hr : ∀ d ∈ r.drafts, d.pattern.target.typeName ≠ T) :
    s.Alike T ((s.inPhase .recording).closeRecord r).2 := by
  rcases closeRecord_cases (s.inPhase .recording) r with ⟨es, hes, hclose⟩ | ⟨e, -, hclose⟩
  · rw [hclose]
    refine ⟨?_, rfl, Or.inr ⟨ho, nofun, nofun⟩⟩
    show ((s.inPhase .recording).addExpectations es).table? T = s.table? T
    rw [table?_addExpectations, ofType_of_not_drafted hes hr]
    cases ht : s.table? T with
    | none => exact congrArg (Option.map _) ht
    | some t =>
      refine (congrArg (Option.map _) ht).trans ?_
      rw [Option.map_some, Table.addAll_nil]
  · rw [hclose]
    exact ⟨rfl, rfl, Or.inr ⟨ho, nofun, nofun⟩⟩

theorem alike_record (hr : ∀ d ∈ r.drafts, d.pattern.target.typeName ≠ T) :
    s.Alike T (s.record r).2 := by
  rcases record_cases s r with ⟨ho, hrecord⟩ | ⟨-, e, hrefused⟩
  · rw [hrecord]
    exact alike_closeRecord ho hr
  · rw [hrefused]
    exact .refl T s

/-- A block on a type has the same result in both sessions and adds the same expectations. -/
theorem Alike.record (h : s.Alike T s') (hr : ∀ d ∈ r.drafts, d.pattern.target.typeName = T) :
    (s'.record r).1 = (s.record r).1 ∧ (s.record r).2.Alike T (s'.record r).2 := by
  by_cases ho : s.IsOpen
  · have ho' := h.isOpen_iff.mpr ho
    -- Assembling asks for nothing but the options of the type.
    have hassemble : (s'.inPhase .recording).assemble r = (s.inPhase .recording).assemble r := by
      refine assemble_congr fun d hd => ?_
      rw [hr d hd]
      exact h.table
    unfold Session.record beginRecord
    rw [enterPhase_eq_ok_iff.mpr ⟨ho, rfl⟩, enterPhase_eq_ok_iff.mpr ⟨ho', rfl⟩]
    dsimp only
    unfold closeRecord commit
    rw [hassemble]
    cases (s.inPhase .recording).assemble r with
    | error e => exact ⟨rfl, h.table, h.config, Or.inl rfl⟩
    | ok es =>
      refine ⟨rfl, ?_, h.config, Or.inl rfl⟩
      show ((s'.inPhase .recording).addExpectations es).table? T =
        ((s.inPhase .recording).addExpectations es).table? T
      rw [table?_addExpectations, table?_addExpectations]
      exact congrArg (Option.map _) h.table
  · cases hbegin : s.beginRecord with
    | ok s₁ => exact absurd (enterPhase_eq_ok_iff.mp hbegin).1 ho
    | error e =>
      have hbegin' : s'.beginRecord = .error e := h.enterPhase_error hbegin
      unfold Session.record
      rw [hbegin, hbegin']
      exact ⟨rfl, h⟩

/-! ## Runs -/

/-- No expectation of a session has a delegate. -/
def DelegateFree (s : Session) : Prop := s.EachDelegate fun _ => False

/-- Without delegates, all is over with a call when it has entered. -/
theorem DelegateFree.dispatch (h : s.DelegateFree) (depth : Nat) (c : Call) :
    (s.enter c).1.told? = some ((s.dispatch depth c).1.map Reply.unnumbered) ∧
      (s.dispatch depth c).2 = (s.enter c).2 := by
  have hout : ∃ out, (s.enter c).1.told? = some out := by
    cases hent : (s.enter c).1 with
    | settled reply => exact ⟨_, rfl⟩
    | torn p => exact ⟨_, rfl⟩
    | delegated i f call => exact (h.delegated hent).elim
  obtain ⟨out, hout⟩ := hout
  obtain ⟨hreply, hsession⟩ := dispatch_of_told? depth hout
  exact ⟨hreply ▸ hout, hsession⟩

theorem DelegateFree.doing (h : s.DelegateFree) {d : Deed} (hd : d.IsSeparate) :
    (s.doing d).DelegateFree := by
  rcases Deed.isSeparate_cases hd with ⟨depth, c, rfl⟩ | ⟨r, rfl, -, hnone⟩
  · show (s.dispatch depth c).2.DelegateFree
    rw [(h.dispatch depth c).2]
    exact h.enter c
  · exact EachDelegate.record h hnone

/-- A type takes no notice of deeds that are not on it. -/
theorem alike_doing (h : s.DelegateFree) {d : Deed} (hd : d.IsSeparate)
    (hT : d.concerns T = false) : s.Alike T (s.doing d) := by
  rcases Deed.isSeparate_cases hd with ⟨depth, c, rfl⟩ | ⟨r, rfl, -⟩
  · show s.Alike T (s.dispatch depth c).2
    rw [(h.dispatch depth c).2]
    exact alike_enter (of_decide_eq_false hT)
  · refine alike_record fun d hd => ?_
    have hnone := List.any_eq_false.mp hT d hd
    exact fun heq => hnone (decide_eq_true heq)

/-- A deed on a type has the same outcome in sessions that are alike, and leaves them so. -/
theorem Alike.doing (h : s.Alike T s') (hs : s.DelegateFree) (hs' : s'.DelegateFree) {d : Deed}
    (hd : d.IsSeparate) (hT : d.concerns T = true) :
    s'.outcome? d = s.outcome? d ∧ (s.doing d).Alike T (s'.doing d) := by
  rcases Deed.isSeparate_cases hd with ⟨depth, c, rfl⟩ | ⟨r, rfl, ⟨T', hone⟩, -⟩
  · have hc : c.target.typeName = T := of_decide_eq_true hT
    obtain ⟨htold, hsession⟩ := hs.dispatch depth c
    obtain ⟨htold', hsession'⟩ := hs'.dispatch depth c
    have hsame := (show s.Alike c.target.typeName s' from hc ▸ h).told?_enter
    rw [htold, htold', Option.some.injEq] at hsame
    refine ⟨?_, ?_⟩
    · rw [outcome?, outcome?, hsame]
    · show (s.dispatch depth c).2.Alike T (s'.dispatch depth c).2
      rw [hsession, hsession']
      exact h.enter hc
  · -- Some draft is on the type, so all are.
    obtain ⟨d, hd, hdT⟩ := List.any_eq_true.mp hT
    obtain rfl : T' = T := (hone d hd).symm.trans (of_decide_eq_true hdT)
    obtain ⟨hresult, halike⟩ := h.record hone
    exact ⟨congrArg (fun result => some (Outcome.recorded result)) hresult, halike⟩

/-- Two sessions that are alike to one type stay so if the deeds on another type are left out of the
run of one of them, and the type has the same outcomes in both. -/
theorem Alike.run {A B : String} (hAB : A ≠ B) (h : s.Alike A s') (hs : s.DelegateFree)
    (hs' : s'.DelegateFree) {deeds : List Deed} (hd : ∀ d ∈ deeds, d.IsSeparate) :
    s'.outcomesOn A (deeds.filter fun d => !d.concerns B) = s.outcomesOn A deeds ∧
      (s.doingAll deeds).Alike A (s'.doingAll (deeds.filter fun d => !d.concerns B)) := by
  induction deeds generalizing s s' with
  | nil => exact ⟨rfl, h⟩
  | cons d ds ih =>
    obtain ⟨hsep, hds⟩ := List.forall_mem_cons.mp hd
    rw [outcomesOn]
    cases hB : d.concerns B with
    | true =>
      -- The deed is left out, and the type does not see it in the other run.
      have hA : d.concerns A = false := Deed.concerns_of_ne hsep hB hAB
      have hstill : (s.doing d).Alike A s' := (alike_doing hs hsep hA).symm.trans h
      rw [List.filter_cons_of_neg (by simp [hB]), hA]
      exact ih hstill (hs.doing hsep) hs' hds
    | false =>
      rw [List.filter_cons_of_pos (by simp [hB]), outcomesOn]
      cases hA : d.concerns A with
      | true =>
        obtain ⟨hout, hnext⟩ := h.doing hs hs' hsep hA
        obtain ⟨hrest, hend⟩ := ih hnext (hs.doing hsep) (hs'.doing hsep) hds
        rw [hout, hrest]
        exact ⟨rfl, hend⟩
      | false =>
        have hnext := (alike_doing hs hsep hA).symm.trans (h.trans (alike_doing hs' hsep hA))
        exact ih hnext (hs.doing hsep) (hs'.doing hsep) hds

/-- If the deeds on one type are deleted from a run, the outcomes of every other type stay the same,
the numbers of calls apart, and so does its table. -/
theorem outcomesOn_filter {A B : String} (hAB : A ≠ B) (hs : s.DelegateFree) {deeds : List Deed}
    (hd : ∀ d ∈ deeds, d.IsSeparate) :
    s.outcomesOn A (deeds.filter fun d => !d.concerns B) = s.outcomesOn A deeds ∧
      (s.doingAll (deeds.filter fun d => !d.concerns B)).table? A =
        (s.doingAll deeds).table? A := by
  obtain ⟨hout, hend⟩ := (Alike.refl A s).run hAB hs hs hd
  exact ⟨hout, hend.table⟩

/-- A session with a strict and a lenient type. -/
def twoTypes : Session :=
  { tables := [("Bell", { options := ⟨.lenient, .total⟩ }),
      ("Door", { options := ⟨.strict, .total⟩ })] }

/-- A bell is rung while knocks at a door are recorded and made. -/
def ringing : List Deed :=
  [.dispatch 0 (.nullary "Bell" "ring"),
    .record { drafts := [{ pattern := .nullary "Door" "knock" }] },
    .dispatch 0 (.nullary "Bell" "ring"), .dispatch 0 (.nullary "Door" "knock"),
    .dispatch 0 (.nullary "Door" "knock")]

/-- The flagged knock has another number if the bell is not rung, and nothing else is different. -/
theorem outcomesOn_filter_ringing : "Door" ≠ "Bell" ∧ twoTypes.DelegateFree ∧
    (∀ d ∈ ringing, d.IsSeparate) ∧
    twoTypes.outcomesOn "Door" (ringing.filter fun d => !d.concerns "Bell") =
      twoTypes.outcomesOn "Door" ringing ∧
    (twoTypes.outcomesOn "Door" ringing).length = 3 := by
  have hne : "Door" ≠ "Bell" := by decide
  have hfree : twoTypes.DelegateFree := by
    intro T i e he
    obtain ⟨t, ht, hat⟩ := Option.bind_eq_some_iff.mp he
    have hnone : t.expectations = [] := by
      simp only [table?, twoTypes, lookup_entry, List.lookup_nil] at ht
      split at ht
      · exact (Option.some.inj ht) ▸ rfl
      · split at ht
        · exact (Option.some.inj ht) ▸ rfl
        · cases ht
    rw [hnone] at hat
    cases hat
  have hsep : ∀ d ∈ ringing, d.IsSeparate := by
    simp [ringing, Deed.IsSeparate]
  exact ⟨hne, hfree, hsep, (outcomesOn_filter hne hfree hsep).1, rfl⟩

end Session

end Understudy

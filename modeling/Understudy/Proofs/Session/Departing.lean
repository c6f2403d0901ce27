import Understudy.Proofs.Session.Reopening

/-!
# When the first handle is gone

The first handle ends by finishing the session or by being dropped, and should leave the session
closed: nobody else verifies it. A drop that is to verify panics first if clones are left, or if
it happens on a thread other than the one that made the session. Neither panic closes the
session, so a clone goes on with it although its final check was given up
(`not_closed_dropBeforeClone`).

`closed_after_ending_iff` says that these two are all: after every other end the session is
closed, and stays so.
-/

namespace Understudy

namespace Session

/-- Whether dropping the first handle ends the session: nothing is to be verified, or the check can
be trusted. -/
def ClosedBy (s : Session) (d : Departure) : Prop :=
  s.config.verifyOnDrop = false ∨ d.unwinding = true ∨ (d.others = 0 ∧ d.thread = .home)

/-- A drop of the first handle that does not close the session does nothing to it. -/
theorem drop_of_isFirst {s : Session} {d : Departure} (hd : d.isFirst = true) :
    (s.ClosedBy d ∧ (s.drop d).2.phase = .closed) ∨ (¬ s.ClosedBy d ∧ (s.drop d).2 = s) := by
  unfold drop ClosedBy
  rw [hd, if_neg (by decide)]
  by_cases hquiet : (!s.config.verifyOnDrop || d.unwinding) = true
  · rw [if_pos hquiet]
    rw [Bool.or_eq_true, Bool.not_eq_true'] at hquiet
    exact Or.inl ⟨hquiet.imp_right Or.inl, rfl⟩
  rw [if_neg hquiet]
  rw [Bool.or_eq_true, Bool.not_eq_true', not_or] at hquiet
  -- The two panics come before the check, and before the session is closed.
  by_cases hothers : d.others ≠ 0
  · rw [if_pos hothers]
    refine Or.inr ⟨?_, rfl⟩
    rintro (hconfig | hpanic | ⟨hnone, -⟩)
    · exact hquiet.1 hconfig
    · exact hquiet.2 hpanic
    · exact hothers hnone
  rw [if_neg hothers]
  by_cases hthread : d.thread ≠ .home
  · rw [if_pos hthread]
    refine Or.inr ⟨?_, rfl⟩
    rintro (hconfig | hpanic | ⟨-, hhome⟩)
    · exact hquiet.1 hconfig
    · exact hquiet.2 hpanic
    · exact hthread hhome
  rw [if_neg hthread]
  refine Or.inl ⟨Or.inr (Or.inr ⟨not_not.mp hothers, not_not.mp hthread⟩), ?_⟩
  have hphase := s.finish_phase
  split
  · next s' hf =>
    rw [hf] at hphase
    exact hphase
  · next ms s' hf =>
    rw [hf] at hphase
    exact hphase

end Session

/-- How the first handle of a session ends. -/
inductive Ending where
  | finishes
  /-- It is dropped on a thread, which may be panicking. -/
  | drops (thread : Thread) (unwinding : Option String)

namespace Ending

/-- The step by which a handle ends. -/
def step (on : String) : Ending → Step
  | finishes => .finish on
  | drops thread unwinding => .drop on thread unwinding

/-- Whether the session ends with its first handle. -/
def Closes (w : World) (on : String) : Ending → Prop
  | finishes => True
  | drops thread unwinding =>
    w.session.ClosedBy ⟨true, (w.release on).handles.length, thread, unwinding.isSome⟩

end Ending

namespace World

variable {w : World} {on : String}

theorem ending_cases (h : w.handles.lookup on = some true) (v : Ending) :
    (v.Closes w on ∧ ((v.step on).carryOut w).2.session.phase = .closed) ∨
    (¬ v.Closes w on ∧ ((v.step on).carryOut w).2.session = w.session) := by
  cases v with
  | finishes =>
    rw [Ending.step, Step.carryOut]
    exact Or.inl ⟨trivial, w.session.finish_phase⟩
  | drops thread unwinding =>
    have hsession : ((Ending.step on (.drops thread unwinding)).carryOut w).2.session =
        (w.session.drop ⟨true, (w.release on).handles.length, thread, unwinding.isSome⟩).2 := by
      rw [Ending.step, Step.carryOut, h]
      exact Session.depart_session _ _
    rw [hsession]
    exact Session.drop_of_isFirst rfl

/-- After its first handle has ended, a session is closed exactly if it was closed before, the
handle finished it, or the drop was not to verify, happened while panicking, or was that of the
last handle on the thread that made the session. Then it turns away all that comes later.
Otherwise it is as it was, and a clone goes on with it. -/
theorem closed_after_ending_iff (h : w.handles.lookup on = some true) (v : Ending) :
    (((v.step on).carryOut w).2.session.phase = .closed ↔
      w.session.phase = .closed ∨ v.Closes w on) ∧
    (((v.step on).carryOut w).2.session.phase = .closed → ∀ later,
      ∀ m ∈ momentsOfSteps ((v.step on).carryOut w).2 later, m.Rests) ∧
    (((v.step on).carryOut w).2.session.phase ≠ .closed →
      ((v.step on).carryOut w).2.session = w.session) := by
  refine ⟨?_, ?_, ?_⟩
  · rcases ending_cases h v with ⟨hcloses, hclosed⟩ | ⟨hnot, hsame⟩
    · exact ⟨fun _ => Or.inr hcloses, fun _ => hclosed⟩
    · rw [hsame]
      exact (or_iff_left hnot).symm
  · intro hclosed later
    have hshut := Session.not_isOpen_iff.mpr (Or.inr hclosed)
    -- On a closed session no block is completed, so nothing opens it again.
    refine (traces_steps _ later).rests hclosed fun m hm hcompletes => ?_
    exact absurd hcompletes (unfinished_steps hshut later m hm)
  · intro hopen
    rcases ending_cases h v with ⟨-, hclosed⟩ | ⟨-, hsame⟩
    · exact absurd hclosed hopen
    · exact hsame

/-- A session with a strict type and a clone of its first handle. -/
def shared : World :=
  (carryOutAll (Scenario.start {} 0)
    [.declare "m" { typeName := "Door", options := some ⟨.strict, .total⟩ }, .clone "m" "c"]).2

/-- Finishing a session closes it for its clones. -/
theorem closed_after_finish_shared : shared.handles.lookup "m" = some true ∧
    ((Ending.finishes.step "m").carryOut shared).2.session.phase = .closed ∧
    ∀ later, ∀ m ∈ momentsOfSteps ((Ending.finishes.step "m").carryOut shared).2 later, m.Rests := by
  have hfirst : shared.handles.lookup "m" = some true := rfl
  obtain ⟨hiff, hlater, -⟩ := closed_after_ending_iff hfirst .finishes
  have hclosed := hiff.mpr (Or.inr trivial)
  exact ⟨hfirst, hclosed, hlater hclosed⟩

/-- A knock through the clone after the first handle was dropped. -/
def knockAfterDrop : StepAnswer × World :=
  (Step.call "c" .dispatch ⟨"Door", ⟨"knock", [], .unit⟩, []⟩ .once).carryOut
    (((Ending.drops .home none).step "m").carryOut shared).2

/-- A drop that panics because of a clone leaves the session open, and the clone is answered. -/
theorem not_closed_dropBeforeClone : shared.handles.lookup "m" = some true ∧
    (((Ending.drops .home none).step "m").carryOut shared).2.session.phase ≠ .closed ∧
    knockAfterDrop.2.session.log.length = 1 ∧ knockAfterDrop.2.session.pending.length = 1 :=
  ⟨rfl, nofun, rfl, rfl⟩

end World

end Understudy

import Understudy.Proofs.Replay.Explaining
import Understudy.Proofs.Session.Reopening
import Understudy.Proofs.Session.Telling

/-!
# What the log holds

Every call that is made is an `Attempt`, and it is accepted unless it finds the session inside
of a record block or over. `attemptsOfSteps` lists the attempts of a scenario without asking
the log: those of the steps, those of closures and those of delegates, each with the phase it
finds the session in.

An accepted call gets the next number and is logged, whatever becomes of it, but for one case: an
explanation panics before the call is logged (`isTorn_enter_iff`). Such a call is torn down. It
is missing from the log, and its number with it. So the log is the list of the accepted calls,
each with its place as its number, exactly if none of them was torn down (`log_faithful_iff`).

`Session.Logs` is the invariant behind it. One lemma for each way to make a call extends it by
the attempts of that call, and all other moments of a history leave the log as it was
(`Happens.keeps_log`).
-/

namespace Understudy

/-- A call that is made, the phase it finds the session in, and whether it is torn down there. -/
structure Attempt where
  phase : Phase
  call : Call
  torn : Bool

/-- Calls as they are logged if each gets its place as a number. -/
def Log.numbered (cs : List Call) : List Invocation :=
  cs.mapIdx fun n c => { toCall := c, seq := n }

namespace Attempt

/-- Whether the session lets the call in. -/
def IsAccepted (a : Attempt) : Prop := a.phase ≠ .recording ∧ a.phase ≠ .closed

instance (a : Attempt) : Decidable a.IsAccepted := inferInstanceAs (Decidable (_ ∧ _))

/-- The attempts that are let in, in the order they are made. -/
def accepted (as : List Attempt) : List Attempt := as.filter (·.IsAccepted)

/-- The calls that are logged: of the accepted ones, those that are not torn down, each with its
place among all accepted ones as a number. -/
def logged (as : List Attempt) : List Invocation :=
  ((accepted as).zipIdx.filter fun p => !p.1.torn).map fun p => ⟨p.1.call, p.2⟩

variable {a : Attempt}

theorem accepted_append (as bs : List Attempt) : accepted (as ++ bs) = accepted as ++ accepted bs :=
  List.filter_append ..

theorem accepted_concat (as : List Attempt) (h : a.IsAccepted) :
    accepted (as ++ [a]) = accepted as ++ [a] := by
  rw [accepted_append, accepted, accepted, List.filter_cons_of_pos (by simpa using h),
    List.filter_nil]

/-- An attempt that is not let in makes no difference. -/
theorem accepted_concat_of_not (as : List Attempt) (h : ¬ a.IsAccepted) :
    accepted (as ++ [a]) = accepted as := by
  rw [accepted_append, accepted, accepted, List.filter_cons_of_neg (by simpa using h),
    List.filter_nil, List.append_nil]

/-- One that is let in is logged behind the others with the next number, or its number is lost. -/
theorem logged_concat (as : List Attempt) (h : a.IsAccepted) : logged (as ++ [a]) =
    logged as ++ if a.torn then [] else [⟨a.call, (accepted as).length⟩] := by
  unfold logged
  rw [accepted_concat as h, List.zipIdx_append, List.filter_append, List.map_append, Nat.zero_add]
  cases ht : a.torn <;> simp [ht]

theorem logged_concat_of_not (as : List Attempt) (h : ¬ a.IsAccepted) :
    logged (as ++ [a]) = logged as := by
  unfold logged
  rw [accepted_concat_of_not as h]

theorem seq_lt_of_mem_logged {as : List Attempt} {e : Invocation} (h : e ∈ logged as) :
    e.seq < (accepted as).length := by
  obtain ⟨p, hp, rfl⟩ := List.mem_map.mp h
  exact List.snd_lt_of_mem_zipIdx (List.mem_filter.mp hp).1

/-- All accepted calls are logged with their places as numbers exactly if none is torn down. -/
theorem logged_eq_numbered_iff (as : List Attempt) :
    logged as = Log.numbered ((accepted as).map (·.call)) ↔ ∀ a ∈ accepted as, a.torn = false := by
  have hall : (∀ p ∈ (accepted as).zipIdx, (!p.1.torn) = true) ↔
      ∀ a ∈ accepted as, a.torn = false := by
    rw [← List.forall_mem_map (f := Prod.fst) (P := fun a : Attempt => (!a.torn) = true),
      List.zipIdx_map_fst]
    simp only [Bool.not_eq_true']
  rw [← hall]
  constructor
  · -- A call that is torn down is missing, so there are fewer entries than calls.
    intro h
    have hlength := congrArg List.length h
    unfold logged Log.numbered at hlength
    rw [List.length_map, List.length_mapIdx, List.length_map,
      ← List.length_zipIdx (i := 0) (l := accepted as)] at hlength
    exact List.length_filter_eq_length_iff.mp hlength
  · intro h
    unfold logged Log.numbered
    rw [List.filter_eq_self.mpr h, List.mapIdx_eq_zipIdx_map, List.zipIdx_map, List.map_map]
    rfl

end Attempt

/-! ## The attempts of a scenario -/

namespace Session

/-- What a call is that enters a session. -/
def attempt (s : Session) (c : Call) : Attempt := ⟨s.phase, c, (s.enter c).1.isTorn⟩

/-- The attempts of a delegate while it runs. A panic in one of its calls tears it down. -/
def attemptsOfRun (nested : Dispatcher) (inner : Call → Session → List Attempt) :
    Run → Session → List Attempt
  | .finished _ _, _ => []
  | .panicked _, _ => []
  | .calls c resume, s =>
    inner c s ++ match nested c s with
      | (.ok reply, s) => attemptsOfRun nested inner (resume reply) s
      | (.error _, _) => []

/-- A call and the attempts of the delegate that answers it, if one does. -/
def attemptsWith (nested : Dispatcher) (inner : Call → Session → List Attempt) (c : Call)
    (s : Session) : List Attempt :=
  s.attempt c :: match s.enter c with
    | (.settled _, _) | (.torn _, _) => []
    | (.delegated _ d call, s) => attemptsOfRun nested inner (d.answer call) s

/-- The attempts of a call whose delegate may make calls nested up to a depth. A call that there is
no room for is none: it ends before it reaches the session. -/
def attemptsNested : Nat → Call → Session → List Attempt
  | 0 => attemptsWith noRoom fun _ _ => []
  | depth + 1 => attemptsWith (dispatchNested depth) (attemptsNested depth)

/-- The attempts of a dispatch. -/
def attempts (s : Session) (depth : Nat) (c : Call) : List Attempt := attemptsNested depth c s

end Session

namespace World

/-- The attempts of calls made one after another. -/
def attemptsOfEach (w : World) (kind : CallKind) : List Call → List Attempt
  | [] => []
  | c :: cs => w.session.attempts w.depth c ++ (w.callOnce kind c).2.attemptsOfEach kind cs

/-- The attempts of a named call that is made as often as asked. -/
def attemptsOfCall (w : World) (kind : CallKind) (c : NamedCall) (rounds : Rounds) :
    List Attempt :=
  match c.resolve w.names .home with
  | none => []
  | some c =>
    match rounds with
    | .once => w.attemptsOfEach kind [c]
    | .repeated n => w.attemptsOfEach kind (List.replicate n c)
    | .threaded threads each =>
      w.attemptsOfEach kind ((List.range threads).flatMap fun t =>
        List.replicate each { c with thread := .worker t })

end World

mutual

/-- The attempts of a step, those of its closure included. -/
def Step.attempts (w : World) : Step → List Attempt
  | .record _ items =>
    match w.session.beginRecord with
    | .error _ => []
    | .ok s => attemptsOfItems { world := w.withSession s } items
  | .verify _ _ items => attemptsOfItems { world := w } items
  | .call _ kind c rounds => w.attemptsOfCall kind c rounds
  | _ => []

/-- The attempts of steps in a row. -/
def attemptsOfSteps (w : World) : List Step → List Attempt
  | [] => []
  | s :: ss =>
    if (w.handles.lookup s.handle).isSome then s.attempts w ++ attemptsOfSteps (s.carryOut w).2 ss
    else attemptsOfSteps w ss

def Item.attempts (b : BlockRun) : Item → List Attempt
  | .steps ss => attemptsOfSteps b.world ss
  | _ => []

def attemptsOfItems (b : BlockRun) : List Item → List Attempt
  | [] => []
  | i :: is =>
    i.attempts b ++ if (i.carryOut b).ended.isSome then [] else attemptsOfItems (i.carryOut b) is

end

/-! ## The log -/

/-- The log holds what is logged of some attempts, and has given a number to each accepted one. -/
structure Log.Holds (log : Log) (as : List Attempt) : Prop where
  entries : log.entries = Attempt.logged as
  nextSeq : log.nextSeq = (Attempt.accepted as).length

namespace Log

variable {log : Log} {as : List Attempt} {a : Attempt}

theorem insert_of_newest {i : Invocation} {es : List Invocation} (h : ∀ e ∈ es, e.seq < i.seq) :
    insert i es = i :: es := by
  cases es with
  | nil => rfl
  | cons e es =>
    rw [insert]
    exact if_pos (h e (List.mem_cons_self ..))

/-- A call that enters the log is its latest entry. -/
theorem Holds.enter (h : log.Holds as) (ha : a.IsAccepted) (ht : a.torn = false) :
    (log.enter a.call).2.Holds (as ++ [a]) := by
  have hnewest : ∀ e ∈ log.newestFirst, e.seq < log.nextSeq := by
    intro e he
    have hin : e ∈ log.entries := List.mem_reverse.mpr he
    rw [h.entries] at hin
    rw [h.nextSeq]
    exact Attempt.seq_lt_of_mem_logged hin
  constructor
  · show (insert ⟨a.call, log.nextSeq⟩ log.newestFirst).reverse = Attempt.logged (as ++ [a])
    rw [insert_of_newest hnewest, List.reverse_cons, h.nextSeq, Attempt.logged_concat as ha, ht]
    exact congrArg (· ++ _) h.entries
  · show log.nextSeq + 1 = (Attempt.accepted (as ++ [a])).length
    rw [h.nextSeq, Attempt.accepted_concat as ha, List.length_append, List.length_singleton]

/-- One that is torn down before leaves its number missing. -/
theorem Holds.observe (h : log.Holds as) (ha : a.IsAccepted) (ht : a.torn = true) :
    (log.observe a.call).2.Holds (as ++ [a]) := by
  constructor
  · show log.entries = Attempt.logged (as ++ [a])
    rw [h.entries, Attempt.logged_concat as ha, ht, if_pos rfl, List.append_nil]
  · show log.nextSeq + 1 = (Attempt.accepted (as ++ [a])).length
    rw [h.nextSeq, Attempt.accepted_concat as ha, List.length_append, List.length_singleton]

/-- One that is not let in changes nothing. -/
theorem Holds.refused (h : log.Holds as) (ha : ¬ a.IsAccepted) : log.Holds (as ++ [a]) := by
  constructor
  · rw [Attempt.logged_concat_of_not as ha, h.entries]
  · rw [Attempt.accepted_concat_of_not as ha, h.nextSeq]

end Log

/-! ## Calls -/

namespace Session

variable {s s' s'' : Session} {as bs : List Attempt} {c : Call}

/-- One session comes from another by logging what is logged of some attempts. -/
def Logs (s : Session) (as : List Attempt) (s' : Session) : Prop :=
  ∀ before, s.log.Holds before → s'.log.Holds (before ++ as)

theorem Logs.trans (h : s.Logs as s') (h' : s'.Logs bs s'') : s.Logs (as ++ bs) s'' := by
  intro before hbefore
  rw [← List.append_assoc]
  exact h' _ (h before hbefore)

theorem logs_nothing (h : s'.log = s.log) : s.Logs [] s' := by
  intro before hbefore
  rw [h]
  exact (List.append_nil before).symm ▸ hbefore

theorem applyChanges_log (index : Nat) (call : DelegateCall) (changes : List BoundChange) :
    (s.applyChanges index call changes).log = s.log := by
  unfold applyChanges applyBounds
  split
  · split
    · rfl
    · split <;> rfl
  · rfl

/-- A call that is let in is logged, whether or not there is a table to ask and whatever the
table makes of it, provided that it is not torn down. -/
theorem enter_logs (s : Session) (c : Call) : s.Logs [s.attempt c] (s.enter c).2 := by
  intro before hbefore
  by_cases ho : s.IsOpen
  · have hin : (s.attempt c).IsAccepted := ho
    rw [enter_log ho]
    cases ht : (s.enter c).1.isTorn with
    | true => exact hbefore.observe hin ht
    | false => exact hbefore.enter hin ht
  · have hout : ¬ (s.attempt c).IsAccepted := ho
    obtain ⟨e, -, -, henter⟩ := enter_of_not_isOpen (c := c) ho
    rw [henter]
    exact hbefore.refused hout

/-- A way to answer calls logs the attempts that are said to be made by it. -/
def Dispatcher.LogsAs (nested : Dispatcher) (inner : Call → Session → List Attempt) : Prop :=
  ∀ c s, Session.Logs s (inner c s) (nested c s).2

theorem follow_logs {nested : Dispatcher} {inner : Call → Session → List Attempt}
    (hn : nested.LogsAs inner) : ∀ (run : Run) (s : Session),
      s.Logs (attemptsOfRun nested inner run s) (follow nested run s).2
  | .finished changes outcome, s => logs_nothing rfl
  | .panicked message, s => logs_nothing rfl
  | .calls c resume, s => by
    have hcall := hn c s
    rw [follow, attemptsOfRun]
    cases hreply : nested c s with
    | mk outcome s' =>
      rw [hreply] at hcall
      cases outcome with
      | ok reply => exact hcall.trans (follow_logs hn (resume reply) s')
      | error p => exact hcall.trans (logs_nothing rfl)

theorem dispatchWith_logs {nested : Dispatcher} {inner : Call → Session → List Attempt}
    (hn : nested.LogsAs inner) :
    Dispatcher.LogsAs (dispatchWith nested) (attemptsWith nested inner) := by
  intro c s
  have henter := enter_logs s c
  unfold dispatchWith attemptsWith
  cases hent : s.enter c with
  | mk entered s' =>
    rw [hent] at henter
    cases entered with
    | settled reply => exact henter
    | torn p => exact henter
    | delegated i d call =>
      have hrun := henter.trans (follow_logs hn (d.answer call) s')
      dsimp only
      -- Setting bounds comes after all calls and is not logged.
      split
      · next changes outcome s'' hf =>
        rw [hf] at hrun
        intro before hbefore
        rw [applyChanges_log]
        exact hrun before hbefore
      · next p s'' hf =>
        rw [hf] at hrun
        exact hrun

theorem dispatchNested_logs :
    ∀ depth, Dispatcher.LogsAs (dispatchNested depth) (attemptsNested depth)
  | 0 => dispatchWith_logs fun _ _ => logs_nothing rfl
  | depth + 1 => dispatchWith_logs (dispatchNested_logs depth)

theorem dispatch_logs (s : Session) (depth : Nat) (c : Call) :
    s.Logs (s.attempts depth c) (s.dispatch depth c).2 :=
  dispatchNested_logs depth c s

end Session

theorem World.callEach_logs (kind : CallKind) : ∀ (cs : List Call) (w : World),
    w.session.Logs (w.attemptsOfEach kind cs) (w.callEach kind cs).2.session
  | [], _ => Session.logs_nothing rfl
  | c :: cs, w => by
    have hcall := w.session.dispatch_logs w.depth c
    rw [← callOnce_session w kind] at hcall
    exact hcall.trans (callEach_logs kind cs _)

theorem World.call_logs (w : World) (kind : CallKind) (c : NamedCall) (rounds : Rounds) :
    w.session.Logs (w.attemptsOfCall kind c rounds) (w.call kind c rounds).2.session := by
  unfold attemptsOfCall call
  cases c.resolve w.names .home with
  | none => exact Session.logs_nothing rfl
  | some c =>
    cases rounds with
    | once => exact callEach_logs kind [c] w
    | repeated n => exact callEach_logs kind _ w
    | threaded threads each => exact callEach_logs kind _ w

/-! ## Everything else -/

/-- Nothing but calls is logged. -/
theorem Happens.keeps_log {s s' : Session} {o : Occasion} (h : Happens s o s')
    (ho : ∀ answers, o ≠ .called answers) : s'.log = s.log := by
  -- One lemma for each occasion says what it writes, and the log is never among it.
  cases h with
  | opens hbegin =>
    obtain ⟨-, rfl⟩ := Session.enterPhase_eq_ok_iff.mp hbegin
    rfl
  | refuses => rfl
  | completes _ r =>
    rcases Session.closeRecord_cases s r with ⟨es, -, hclose⟩ | ⟨e, -, hclose⟩
    · rw [hclose]
      rfl
    · rw [hclose]
      rfl
  | verifies _ mode b =>
    by_cases hopen : s.IsOpen
    · rw [Session.verify_of_isOpen hopen]
      split <;> rfl
    · obtain ⟨e, hverify⟩ := Session.verify_of_not_isOpen hopen mode b
      rw [hverify]
  | calls w kind cs => exact absurd rfl (ho _)
  | finishes => exact s.finish_log
  | drops _ d =>
    rcases s.drop_cases d with hsame | hclosed | hfinished
    · rw [hsame]
    · rw [hclosed]
      rfl
    · rw [hfinished, Session.finish_log]
  | declares _ typeName options =>
    rw [Session.after_declares_frame]
  | makesInstance _ of =>
    rw [Session.after_makesInstance_frame]

theorem Traces.moment {s s' : Session} {ms : List Moment} (h : Traces s ms s') :
    ∀ m ∈ ms, Happens m.before m.occasion m.after := by
  induction h with
  | nil s => exact fun _ => nofun
  | cons hm _ ih => exact List.forall_mem_cons.mpr ⟨hm, ih⟩

/-- A history without calls leaves the log as it was. -/
theorem Traces.logs_nothing {s s' : Session} {ms : List Moment} (h : Traces s ms s')
    (hc : ∀ m ∈ ms, ∀ answers, m.occasion ≠ .called answers) : s.Logs [] s' := by
  refine Session.logs_nothing ?_
  induction h with
  | nil s => rfl
  | cons hm _ ih =>
    rw [List.forall_mem_cons] at hc
    exact (ih hc.2).trans (hm.keeps_log hc.1)

/-! ## Scenarios -/

namespace BlockRun

theorem completion_logs (b : BlockRun) : b.world.session.Logs []
    (if b.ended.isSome then b.world.session
      else (b.world.session.closeRecord b.recording).2) := by
  refine b.completion_traces.logs_nothing ?_
  unfold completion
  split
  · exact fun _ => nofun
  · exact List.forall_mem_singleton.mpr nofun

theorem verification_logs (b : BlockRun) (mode : Mode) : b.world.session.Logs []
    (if b.ended.isSome then b.world.session
      else (b.world.session.verify mode b.block).2) := by
  refine (b.verification_traces mode).logs_nothing ?_
  unfold verification
  split
  · exact fun _ => nofun
  · exact List.forall_mem_singleton.mpr nofun

end BlockRun

mutual

theorem Step.logs (w : World) :
    ∀ step : Step, w.session.Logs (step.attempts w) (step.carryOut w).2.session
  | .record on items => by
    rw [Step.attempts, Step.carryOut]
    cases hb : w.session.beginRecord with
    | error e => exact Session.logs_nothing rfl
    | ok s =>
      have hopened : w.session.Logs [] s :=
        Session.logs_nothing ((Happens.opens hb).keeps_log nofun)
      have hitems := logs_items { world := w.withSession s } items
      have hdone := (hopened.trans hitems).trans
        (carryOutItems { world := w.withSession s } items).completion_logs
      rw [List.nil_append, List.append_nil] at hdone
      dsimp only at hdone ⊢
      split
      · next a hended =>
        rw [hended] at hdone
        exact hdone
      · next hended =>
        rw [hended] at hdone
        exact hdone
  | .verify on mode items => by
    rw [Step.attempts, Step.carryOut]
    have hitems := logs_items { world := w } items
    have hdone := hitems.trans ((carryOutItems { world := w } items).verification_logs mode)
    rw [List.append_nil] at hdone
    dsimp only at hdone ⊢
    split
    · next a hended =>
      rw [hended] at hdone
      exact hdone
    · next hended =>
      rw [hended] at hdone
      split
      · exact hdone
      · exact hdone
  | .call on kind c rounds => by
    rw [Step.attempts, Step.carryOut]
    exact w.call_logs kind c rounds
  -- All other steps make no calls.
  | .newInstance on of name => by
    refine (Step.traces w _).logs_nothing ?_
    rw [Step.moments]
    unfold World.instanceMoments
    split
    · exact List.forall_mem_singleton.mpr nofun
    · exact fun _ => nofun
  | .finish _ | .drop .. | .declare .. => by
    refine (Step.traces w _).logs_nothing ?_
    rw [Step.moments]
    exact List.forall_mem_singleton.mpr nofun
  | .foreign .. | .compare .. | .invocations _ | .phase _ | .clone .. => by
    refine (Step.traces w _).logs_nothing ?_
    rw [Step.moments]
    exact fun _ => nofun

/-- The attempts of a scenario are logged, those that are accepted. -/
theorem logs_steps (w : World) : ∀ steps : List Step,
    w.session.Logs (attemptsOfSteps w steps) (carryOutAll w steps).2.session
  | [] => by
    rw [attemptsOfSteps, carryOutAll]
    exact Session.logs_nothing rfl
  | step :: steps => by
    rw [attemptsOfSteps, carryOutAll]
    dsimp only
    by_cases hknown : (w.handles.lookup step.handle).isSome = true
    · rw [if_pos hknown, if_pos hknown]
      exact (Step.logs w step).trans (logs_steps _ steps)
    · rw [if_neg hknown, if_neg hknown]
      exact logs_steps w steps

theorem Item.logs (b : BlockRun) :
    ∀ item : Item, b.world.session.Logs (item.attempts b) (item.carryOut b).world.session
  | .expect e => by
    rw [Item.attempts, Item.carryOut]
    · split <;> exact Session.logs_nothing rfl
    · exact nofun
  | .steps ss => by
    rw [Item.attempts, Item.carryOut]
    exact logs_steps b.world ss
  | .iterations _ | .gap | .panic _ => by
    rw [Item.attempts, Item.carryOut]
    · exact Session.logs_nothing rfl
    · exact nofun

theorem logs_items (b : BlockRun) : ∀ items : List Item,
    b.world.session.Logs (attemptsOfItems b items) (carryOutItems b items).world.session
  | [] => by
    rw [attemptsOfItems, carryOutItems]
    exact Session.logs_nothing rfl
  | item :: items => by
    rw [attemptsOfItems, carryOutItems]
    have hitem := Item.logs b item
    by_cases hended : (item.carryOut b).ended.isSome = true
    · rw [if_pos hended, if_pos hended, List.append_nil]
      exact hitem
    · rw [if_neg hended, if_neg hended]
      exact hitem.trans (logs_items _ items)

end

/-- After a scenario the log holds the calls that were made while the session was neither recording
nor closed, in order, whatever they came to, and each with its place as its number, exactly if
none of them was torn down. Otherwise it holds the others, and the numbers are the places
among all. Only calls change the log. -/
theorem log_faithful_iff (config : Config) (depth : Nat) (steps : List Step) :
    let attempts := attemptsOfSteps (Scenario.start config depth) steps
    let entries := (carryOutAll (Scenario.start config depth) steps).2.session.log.entries
    entries = Attempt.logged attempts ∧
    (entries = Log.numbered ((Attempt.accepted attempts).map (·.call)) ↔
      ∀ a ∈ Attempt.accepted attempts, a.torn = false) ∧
    ∀ m ∈ (Scenario.start config depth).history steps,
      (∀ answers, m.occasion ≠ .called answers) → m.after.log = m.before.log := by
  have hempty : (Scenario.start config depth).session.log.Holds [] := ⟨rfl, rfl⟩
  have hlogged := (logs_steps (Scenario.start config depth) steps [] hempty).entries
  rw [List.nil_append] at hlogged
  refine ⟨hlogged, ?_, ?_⟩
  · rw [hlogged]
    exact Attempt.logged_eq_numbered_iff _
  · intro m hm
    obtain ⟨s', htraces⟩ := (Scenario.start config depth).history_traces steps
    exact (htraces.moment m hm).keeps_log

/-- Of three knocks on a door that nobody declared, one is inside of a record block and one comes
after the end. -/
example :
    let knock : Step := .call "m" .dispatch ⟨"Door", ⟨"knock", [], .unit⟩, []⟩ .once
    let steps := [.foreign "m" "Door" false (some "Door"), .clone "m" "c", knock,
      .record "m" [.steps [knock]], .finish "c", knock]
    (attemptsOfSteps (Scenario.start {} 0) steps).map (·.phase) = [.declared, .recording, .closed] ∧
      (carryOutAll (Scenario.start {} 0) steps).2.session.log.entries.map (·.seq) = [0] :=
  ⟨rfl, rfl⟩

/-- A predicate that rejects every value and panics when it is asked why. -/
def speechless : Predicate :=
  { key := 0
    description := "speechless"
    holds := fun _ => .ok false
    explain := fun _ => .error ⟨"no words"⟩ }

/-- A door expects knocks of a strength that is speechless. There is a knock, and then a ring. -/
def knockThenRing : List Step :=
  [.declare "m" { typeName := "Door", options := some ⟨.strict, .total⟩ },
    .record "m" [.expect
      { target := "Door"
        signature := ⟨"knock", [.int .i32], .unit⟩
        args := [.predicate speechless]
        site := "here" }],
    .call "m" .dispatch ⟨"Door", ⟨"knock", [.int .i32], .unit⟩, [.int .i32 1]⟩ .once,
    .call "m" .dispatch ⟨"Door", ⟨"ring", [], .unit⟩, []⟩ .once]

/-- Both calls find the session replaying. The log is without the knock, and the ring has
the number 1 at the place 0. -/
theorem knock_is_lost :
    let attempts := attemptsOfSteps (Scenario.start {} 0) knockThenRing
    let entries := (carryOutAll (Scenario.start {} 0) knockThenRing).2.session.log.entries
    attempts.map (·.phase) = [.replaying, .replaying] ∧
      attempts.map (·.call.signature.name) = ["knock", "ring"] ∧
      entries.map (fun i => (i.signature.name, i.seq)) = [("ring", 1)] :=
  ⟨rfl, rfl, rfl⟩

end Understudy

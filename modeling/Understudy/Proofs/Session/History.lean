import Understudy.Proofs.Replay.Operation
import Understudy.Scenario

/-!
# The history of a scenario

A scenario is read as a history: the `Moment`s at which something is done to the session, in
the order they happen. Those inside of a block stand between the opening of the block and
its completion, so a history knows nothing of how steps are nested.

`Happens` says which operation a moment is. `traces_steps` is the one induction over
scenarios: their moments happen one after another, each on the session that the one before
left. What holds of scenarios is then shown for one operation and along a list.
-/

namespace Understudy

/-- What an operation on a session came to. -/
inductive Occasion where
  /-- A record block was opened. -/
  | opened
  /-- A record block was refused. -/
  | refused (e : SessionError)
  /-- A record block was completed, with what its closure wrote. -/
  | completed (r : Recording)
  | verified (outcome : Except Panic Verdict)
  | called (answers : List CallAnswer)
  | finished (report : List Mismatch)
  | dropped (outcome : Except Panic Unit)
  /-- Something that asks for no phase. -/
  | other

/-- An operation, and the session before and after it. -/
structure Moment where
  before : Session
  occasion : Occasion
  after : Session

/-- What operations do. -/
inductive Happens : Session → Occasion → Session → Prop where
  | opens {s s' : Session} (h : s.beginRecord = .ok s') : Happens s .opened s'
  | refuses {s : Session} {e : SessionError} (h : s.beginRecord = .error e) :
      Happens s (.refused e) s
  | completes (s : Session) (r : Recording) : Happens s (.completed r) (s.closeRecord r).2
  | verifies (s : Session) (mode : Mode) (b : Block) :
      Happens s (.verified (s.verify mode b).1) (s.verify mode b).2
  | calls (w : World) (kind : CallKind) (cs : List Call) :
      Happens w.session (.called (w.callEach kind cs).1) (w.callEach kind cs).2.session
  | finishes (s : Session) : Happens s (.finished s.finish.1) s.finish.2
  | drops (s : Session) (d : Departure) : Happens s (.dropped (s.drop d).1) (s.drop d).2
  | declares (s : Session) (typeName : String) (options : Options) :
      Happens s .other (s.after (.declares typeName options))
  | makesInstance (s : Session) (of : Target) : Happens s .other (s.after (.makesInstance of))

/-! ## The moments of a scenario -/

namespace Answer

/-- The answers to the calls of a step. -/
def ofCalls : Answer → List CallAnswer
  | call a => [a]
  | calls as | threaded as => as
  | _ => []

end Answer

namespace World

/-- Dropping a handle. -/
def dropMoment (w : World) (on : String) (isFirst : Bool) (thread : Thread)
    (unwinding : Option String) : Moment :=
  let departure : Departure := ⟨isFirst, (w.release on).handles.length, thread, unwinding.isSome⟩
  ⟨w.session, .dropped (w.session.drop departure).1, (w.session.drop departure).2⟩

/-- Making an instance of a named target, if there is one of that name. -/
def instanceMoments (w : World) (of : String) (name : Option String) : List Moment :=
  match w.names.lookup of with
  | some _ => [⟨w.session, .other, (w.newInstance of name).2.session⟩]
  | none => []

/-- Dropping the first handle at the end, if it is still there. -/
def concluding (w : World) : List Moment :=
  if (w.handles.lookup Scenario.firstHandle).isSome then
    let w := { w with handles := [(Scenario.firstHandle, true)] }
    [w.dropMoment Scenario.firstHandle true .home none]
  else []

end World

namespace BlockRun

/-- The completion of a record block, unless its closure ended early. -/
def completion (b : BlockRun) : List Moment :=
  if b.ended.isSome then []
  else [⟨b.world.session, .completed b.recording, (b.world.session.closeRecord b.recording).2⟩]

/-- The check of a verification block, unless its closure ended early. -/
def verification (b : BlockRun) (mode : Mode) : List Moment :=
  if b.ended.isSome then []
  else [⟨b.world.session, .verified (b.world.session.verify mode b.block).1,
    (b.world.session.verify mode b.block).2⟩]

end BlockRun

mutual

/-- The moments of a step, those inside of its block included. -/
def Step.moments (w : World) : Step → List Moment
  | .record _ items =>
    match w.session.beginRecord with
    | .error e => [⟨w.session, .refused e, w.session⟩]
    | .ok s =>
      ⟨w.session, .opened, s⟩ :: (momentsOfItems { world := w.withSession s } items ++
        (carryOutItems { world := w.withSession s } items).completion)
  | .verify _ mode items =>
    momentsOfItems { world := w } items ++ (carryOutItems { world := w } items).verification mode
  | .call _ kind c rounds =>
    let (a, w') := w.call kind c rounds
    [⟨w.session, .called a.ofCalls, w'.session⟩]
  | .finish _ => [⟨w.session, .finished w.session.finish.1, w.session.finish.2⟩]
  | .drop on thread unwinding =>
    [w.dropMoment on ((w.handles.lookup on).getD false) thread unwinding]
  | .declare _ d => [⟨w.session, .other, (w.declare d).2.session⟩]
  | .newInstance _ of name => w.instanceMoments of name
  | .foreign .. | .compare .. | .invocations _ | .phase _ | .clone .. => []

/-- The moments of steps in a row. A step through a handle that is not there does nothing. -/
def momentsOfSteps (w : World) : List Step → List Moment
  | [] => []
  | s :: ss =>
    if (w.handles.lookup s.handle).isSome then s.moments w ++ momentsOfSteps (s.carryOut w).2 ss
    else momentsOfSteps w ss

def Item.moments (b : BlockRun) : Item → List Moment
  | .steps ss => momentsOfSteps b.world ss
  | _ => []

def momentsOfItems (b : BlockRun) : List Item → List Moment
  | [] => []
  | i :: is =>
    i.moments b ++ if (i.carryOut b).ended.isSome then [] else momentsOfItems (i.carryOut b) is

end

/-- The history of some steps and of the drop that concludes them. -/
def World.history (w : World) (steps : List Step) : List Moment :=
  momentsOfSteps w steps ++ (carryOutAll w steps).2.concluding

/-! ## Histories -/

/-- A history leads from one session to another: each moment begins where the one before ended. -/
inductive Traces : Session → List Moment → Session → Prop where
  | nil (s : Session) : Traces s [] s
  | cons {m : Moment} {ms : List Moment} {s' : Session}
      (hm : Happens m.before m.occasion m.after) (hms : Traces m.after ms s') :
      Traces m.before (m :: ms) s'

/-- The session at the end of a history that began with `s`. -/
def sessionAfter : Session → List Moment → Session
  | s, [] => s
  | _, m :: ms => sessionAfter m.after ms

namespace Traces

variable {s s' s'' : Session} {ms ns : List Moment}

theorem append (h : Traces s ms s') (h' : Traces s' ns s'') : Traces s (ms ++ ns) s'' := by
  induction h with
  | nil s => exact h'
  | cons hm _ ih => exact .cons hm (ih h')

theorem one {o : Occasion} (h : Happens s o s') : Traces s [⟨s, o, s'⟩] s' :=
  .cons (m := ⟨s, o, s'⟩) h (.nil s')

/-- A history can be cut anywhere. -/
theorem split (h : Traces s (ms ++ ns) s') :
    Traces s ms (sessionAfter s ms) ∧ Traces (sessionAfter s ms) ns s' := by
  induction ms generalizing s with
  | nil => exact ⟨.nil s, h⟩
  | cons m ms ih =>
    cases h with
    | cons hm hms =>
      obtain ⟨hfirst, hsecond⟩ := ih hms
      exact ⟨.cons hm hfirst, hsecond⟩

end Traces

/-! ## Steps happen -/

namespace Session

variable {s s' : Session} {T : String}

theorem after_declares_of_ok {t : Target} {o : Options} (h : s.declare T o = .ok (t, s')) :
    s.after (.declares T o) = s' := by
  show ((s.declare T o).toOption.map (·.2)).getD s = s'
  rw [h]
  rfl

theorem after_makesInstance_of_ok {of t : Target} (h : s.newInstance of = .ok (t, s')) :
    s.after (.makesInstance of) = s' := by
  show ((s.newInstance of).toOption.map (·.2)).getD s = s'
  rw [h]
  rfl

/-- Letting go of a session does not change it. -/
theorem depart_session (s : Session) (d : Departure) : (s.depart d).2 = (s.drop d).2 := by
  unfold depart
  split
  · next s' hd => rw [hd]
  · next p s' hd => rw [hd]

/-- A proxy leaves the session that the dispatch leaves. -/
theorem callThrough_session (s : Session) (depth : Nat) (c : Call)
    (real : Option (List Value → Except Thrown Value)) :
    (s.callThrough depth c real).2 = (s.dispatch depth c).2 := by
  unfold callThrough
  split
  · next reply s' hd => rw [hd]
  · next p s' hd => rw [hd]

end Session

namespace World

theorem declare_session (w : World) (d : Declaration) : (w.declare d).2.session =
    w.session.after (.declares d.typeName (d.options.getD w.session.defaultOptions)) := by
  unfold declare
  split
  · next t s hd => exact (Session.after_declares_of_ok hd).symm
  · next e hd =>
    show w.session = ((w.session.declare _ _).toOption.map (·.2)).getD w.session
    rw [hd]
    rfl

theorem instanceMoments_traces (w : World) (of : String) (name : Option String) :
    Traces w.session (w.instanceMoments of name) (w.newInstance of name).2.session := by
  unfold instanceMoments newInstance
  cases w.names.lookup of with
  | none => exact .nil _
  | some t =>
    have hmade := Happens.makesInstance w.session t
    dsimp only
    split
    · next t' s hn =>
      rw [Session.after_makesInstance_of_ok hn] at hmade
      exact .one hmade
    · next e hn =>
      have hsame : w.session.after (.makesInstance t) = w.session := by
        show ((w.session.newInstance t).toOption.map (·.2)).getD w.session = w.session
        rw [hn]
        rfl
      rw [hsame] at hmade
      exact .one hmade

/-- However a call is made, it leaves the session that a dispatch leaves. -/
theorem callOnce_session (w : World) (kind : CallKind) (c : Call) :
    (w.callOnce kind c).2.session = (w.session.dispatch w.depth c).2 := by
  unfold callOnce
  cases kind with
  | dispatch =>
    dsimp only
    split
    · next r s hd => rw [hd]; rfl
    · next p s hd => rw [hd]; rfl
  | proxy =>
    dsimp only
    rw [← Session.callThrough_session _ _ c (Option.map _ none)]
    split
    · next p s hc => rw [hc]; rfl
    · next p s hc => rw [hc]; rfl
  | proxyOrReal real =>
    dsimp only
    rw [← Session.callThrough_session _ _ c (Option.map _ (some real))]
    split
    · next p s hc => rw [hc]; rfl
    · next p s hc => rw [hc]; rfl

/-- The calls of a step are made one after another. -/
theorem call_happens (w : World) (kind : CallKind) (c : NamedCall) (rounds : Rounds) :
    Happens w.session (.called (w.call kind c rounds).1.ofCalls)
      (w.call kind c rounds).2.session := by
  unfold call
  cases c.resolve w.names .home with
  | none => exact .calls w kind []
  | some c =>
    cases rounds with
    | once => exact .calls w kind [c]
    | repeated n => exact .calls w kind _
    | threaded threads each => exact .calls w kind _

theorem dropMoment_traces (w : World) (on : String) (isFirst : Bool) (thread : Thread)
    (unwinding : Option String) :
    Traces w.session [w.dropMoment on isFirst thread unwinding]
      (w.dropHandle on isFirst thread unwinding).2.session := by
  have hafter : (w.dropHandle on isFirst thread unwinding).2.session =
      (w.dropMoment on isFirst thread unwinding).after := Session.depart_session _ _
  rw [hafter]
  exact .one (.drops w.session _)

end World

namespace BlockRun

theorem completion_traces (b : BlockRun) : Traces b.world.session b.completion
    (if b.ended.isSome then b.world.session
      else (b.world.session.closeRecord b.recording).2) := by
  unfold completion
  by_cases hended : b.ended.isSome = true
  · rw [if_pos hended, if_pos hended]
    exact .nil _
  · rw [if_neg hended, if_neg hended]
    exact .one (.completes _ _)

theorem verification_traces (b : BlockRun) (mode : Mode) :
    Traces b.world.session (b.verification mode)
      (if b.ended.isSome then b.world.session
        else (b.world.session.verify mode b.block).2) := by
  unfold verification
  by_cases hended : b.ended.isSome = true
  · rw [if_pos hended, if_pos hended]
    exact .nil _
  · rw [if_neg hended, if_neg hended]
    exact .one (.verifies _ _ _)

end BlockRun

mutual

theorem Step.traces (w : World) :
    ∀ step : Step, Traces w.session (step.moments w) (step.carryOut w).2.session
  | .record on items => by
    rw [Step.moments, Step.carryOut]
    cases hb : w.session.beginRecord with
    | error e => exact .one (.refuses hb)
    | ok s =>
      have hitems := traces_items { world := w.withSession s } items
      have hdone :=
        hitems.append (carryOutItems { world := w.withSession s } items).completion_traces
      -- The block was opened before its items, and is completed after them if they came to an end.
      refine .cons (m := ⟨w.session, .opened, s⟩) (.opens hb) ?_
      dsimp only at hdone ⊢
      split
      · next a hended =>
        rw [hended] at hdone
        exact hdone
      · next hended =>
        rw [hended] at hdone
        exact hdone
  | .verify on mode items => by
    rw [Step.moments, Step.carryOut]
    have hitems := traces_items { world := w } items
    have hdone := hitems.append ((carryOutItems { world := w } items).verification_traces mode)
    dsimp only at hdone ⊢
    split
    · next a hended =>
      rw [hended] at hdone
      exact hdone
    · next hended =>
      rw [hended] at hdone
      split
      · exact hdone
      · exact hdone
  | .call on kind c rounds => by
    rw [Step.moments, Step.carryOut]
    exact .one (w.call_happens kind c rounds)
  | .finish on => by
    rw [Step.moments, Step.carryOut]
    exact .one (.finishes w.session)
  | .drop on thread unwinding => by
    rw [Step.moments, Step.carryOut]
    exact w.dropMoment_traces on _ thread unwinding
  | .declare on d => by
    rw [Step.moments, Step.carryOut]
    have hdeclared :=
      Happens.declares w.session d.typeName (d.options.getD w.session.defaultOptions)
    rw [← World.declare_session] at hdeclared
    exact .one hdeclared
  | .newInstance on of name => by
    rw [Step.moments, Step.carryOut]
    exact w.instanceMoments_traces of name
  | .foreign on typeName newInstance name => by
    rw [Step.moments, Step.carryOut]
    unfold World.foreign
    cases newInstance <;> exact .nil _
  | .compare on a b => by
    rw [Step.moments, Step.carryOut]
    exact .nil _
  | .invocations on => by
    rw [Step.moments, Step.carryOut]
    exact .nil _
  | .phase on => by
    rw [Step.moments, Step.carryOut]
    exact .nil _
  | .clone on name => by
    rw [Step.moments, Step.carryOut]
    exact .nil _

/-- The moments of a scenario happen one after another. -/
theorem traces_steps (w : World) :
    ∀ steps : List Step, Traces w.session (momentsOfSteps w steps) (carryOutAll w steps).2.session
  | [] => by
    rw [momentsOfSteps, carryOutAll]
    exact .nil _
  | step :: steps => by
    rw [momentsOfSteps, carryOutAll]
    dsimp only
    by_cases hknown : (w.handles.lookup step.handle).isSome = true
    · rw [if_pos hknown, if_pos hknown]
      exact (Step.traces w step).append (traces_steps _ steps)
    · rw [if_neg hknown, if_neg hknown]
      exact traces_steps w steps

theorem Item.traces (b : BlockRun) :
    ∀ item : Item, Traces b.world.session (item.moments b) (item.carryOut b).world.session
  | .expect e => by
    rw [Item.moments, Item.carryOut]
    · split <;> exact .nil _
    · exact nofun
  | .steps ss => by
    rw [Item.moments, Item.carryOut]
    exact traces_steps b.world ss
  | .iterations _ | .gap | .panic _ => by
    rw [Item.moments, Item.carryOut]
    · exact .nil _
    · exact nofun

theorem traces_items (b : BlockRun) : ∀ items : List Item,
    Traces b.world.session (momentsOfItems b items) (carryOutItems b items).world.session
  | [] => by
    rw [momentsOfItems, carryOutItems]
    exact .nil _
  | item :: items => by
    rw [momentsOfItems, carryOutItems]
    have hitem := Item.traces b item
    by_cases hended : (item.carryOut b).ended.isSome = true
    · rw [if_pos hended, if_pos hended, List.append_nil]
      exact hitem
    · rw [if_neg hended, if_neg hended]
      exact hitem.append (traces_items _ items)

end

/-- The history of a scenario with the drop that concludes it. -/
theorem World.history_traces (w : World) (steps : List Step) :
    ∃ s', Traces w.session (w.history steps) s' := by
  have hend : ∃ s',
      Traces (carryOutAll w steps).2.session (carryOutAll w steps).2.concluding s' := by
    unfold concluding
    split
    · exact ⟨_, .one (.drops _ _)⟩
    · exact ⟨_, .nil _⟩
  obtain ⟨s', htraces⟩ := hend
  exact ⟨s', (traces_steps w steps).append htraces⟩

/-! ## Histories are events -/

theorem World.callEach_leads (kind : CallKind) : ∀ (cs : List Call) (w : World),
    w.session.Leads (w.callEach kind cs).2.session
  | [], _ => .refl _
  | c :: cs, w => by
    have hcall : w.session.Leads (w.callOnce kind c).2.session := by
      rw [callOnce_session]
      exact Session.dispatch_leads w.session w.depth c
    exact hcall.trans (callEach_leads kind cs (w.callOnce kind c).2)

theorem Happens.leads {s s' : Session} {o : Occasion} (h : Happens s o s') : s.Leads s' := by
  cases h with
  | opens h =>
    rw [← Session.after_opensRecord_of_ok h]
    exact Session.leads_after s .opensRecord
  | refuses h => exact .refl s
  | completes _ r => exact Session.leads_after s (.closesRecord r)
  | verifies _ mode b => exact Session.leads_after s (.verifies mode b)
  | calls w kind cs => exact World.callEach_leads kind cs w
  | finishes => exact Session.leads_after s .finishes
  | drops _ d => exact Session.drop_leads s d
  | declares _ typeName options => exact Session.leads_after s (.declares typeName options)
  | makesInstance _ of => exact Session.leads_after s (.makesInstance of)

theorem Traces.leads {s s' : Session} {ms : List Moment} (h : Traces s ms s') : s.Leads s' := by
  induction h with
  | nil s => exact .refl s
  | cons hm _ ih => exact hm.leads.trans ih

end Understudy

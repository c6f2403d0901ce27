import Understudy.Session.Handle
import Understudy.Session.Record

/-!
# Scenarios

A scenario is a script of steps against one session, reached through named handles
and using named targets, some of which may come from another session. Each step has
an answer. The closure of a record or a verification block is part of its step: a
list of items that are carried out in order, among them further steps, which may act
on the same session through any handle, and panics.

`Scenario.run` carries out a scenario and at last drops the handles that are left,
the first one after all clones.
-/

namespace Understudy

/-- The targets known by name, the latest first. -/
abbrev Names := List (String × Target)

/-- A call on a named target. -/
structure NamedCall where
  target : String
  signature : Signature
  args : List Value := []

/-- The call meant by a named one. -/
def NamedCall.resolve (c : NamedCall) (names : Names) (thread : Thread) : Option Call :=
  (names.lookup c.target).map fun t => ⟨t, c.signature, c.args, thread⟩

/-- How an expectation is built, one method of a builder after another. -/
inductive BuildStep where
  /-- A scripted result, which may use the names known when the block runs. -/
  | action (a : Names → Action)
  | returnsEach (vs : List Value)
  | times (n : Nat)
  | minTimes (n : Nat)
  | maxTimes (n : Nat)
  | never
  | inAnyOrder
  /-- Asks to be handed the verified calls. -/
  | forEach

namespace BuildStep

/-- The effect of a builder method on a draft. -/
def apply (names : Names) (d : Draft) : BuildStep → Draft
  | action a => d.action (a names)
  | returnsEach vs => d.returnsEach vs
  | times n => d.times n
  | minTimes n => d.minTimes n
  | maxTimes n => d.maxTimes n
  | never => d.never
  | inAnyOrder => d.inAnyOrder
  | forEach => d

/-- Whether a builder method asks to be handed calls. -/
def isForEach : BuildStep → Bool
  | forEach => true
  | _ => false

end BuildStep

/-- An expectation as written in a block. -/
structure NamedExpectation where
  target : String
  signature : Signature
  args : List Matcher := []
  site : String
  build : List BuildStep := []

/-- The draft meant by a written expectation. -/
def NamedExpectation.draft (e : NamedExpectation) (names : Names) : Option Draft :=
  (names.lookup e.target).map fun t =>
    e.build.foldl (BuildStep.apply names) { pattern := ⟨t, e.signature, e.args, e.site⟩ }

/-- Whether a written expectation asks to be handed calls. -/
def NamedExpectation.observed (e : NamedExpectation) : Bool := e.build.any BuildStep.isForEach

/-- How a call is made: directly, or through a proxy, with a real method or without one. -/
inductive CallKind where
  | dispatch
  | proxy
  | proxyOrReal (real : Except Thrown Value)

/-- How often a call is made. -/
inductive Rounds where
  | once
  | repeated (n : Nat)
  /-- On several threads, the same number of times on each. -/
  | threaded (threads each : Nat)

/-- How a type is declared. -/
structure Declaration where
  typeName : String
  /-- The options, or none to use those of the session. -/
  options : Option Options := none
  /-- Whether a refusal is an answer rather than a panic. -/
  refusable : Bool := false
  /-- The name to know the target by, other than its text. -/
  name : Option String := none

mutual

/-- A step of a scenario. Its first argument names the handle it is made through. -/
inductive Step where
  | declare (on : String) (d : Declaration)
  /-- A target, or a new instance, of the one other session there is, which declares the type. -/
  | foreign (on : String) (typeName : String) (newInstance : Bool) (name : Option String)
  | newInstance (on : String) (of : String) (name : Option String)
  | compare (on : String) (a b : String)
  | record (on : String) (items : List Item)
  | verify (on : String) (mode : Mode) (items : List Item)
  | call (on : String) (kind : CallKind) (c : NamedCall) (rounds : Rounds)
  | invocations (on : String)
  | phase (on : String)
  | clone (on : String) (name : String)
  | finish (on : String)
  | drop (on : String) (thread : Thread) (unwinding : Option String)

/-- What the closure of a block does: it writes expectations and gaps, sets the iterations, makes
steps, or panics. -/
inductive Item where
  | expect (e : NamedExpectation)
  | iterations (n : Nat)
  | gap
  | steps (ss : List Step)
  | panic (message : String)

end

/-- The handle a step is made through. -/
def Step.handle : Step → String
  | .declare on .. | .foreign on .. | .newInstance on .. | .compare on .. | .record on ..
  | .verify on .. | .call on .. | .invocations on | .phase on | .clone on .. | .finish on
  | .drop on .. => on

/-- The answer to one call. -/
inductive CallAnswer where
  | replied (r : Reply)
  /-- What a proxy for a target passed on, with the arguments if the real method ran. -/
  | passed (on : Target) (outcome : Except Thrown Value) (realArgs : Option (List Value))
  | panicked (message : String)

/-- What a step is answered. -/
inductive Answer where
  | done
  | target (t : Target)
  | refused (e : SessionError)
  | panicked (message : String)
  | compared (covers equal : Bool) (order : Ordering)
  | verdict (mismatches : List Mismatch)
  | call (a : CallAnswer)
  | calls (as : List CallAnswer)
  | threaded (as : List CallAnswer)
  | invocations (cs : List Invocation)
  | phase (p : Phase)
  /-- A handle or target that nobody knows. -/
  | unknown (name : String)

/-- An answer, the answers to the steps made inside the step, the calls handed over by a
verification that was asked to, and the phase and the length of the log afterwards, if the
handle is still there to ask. -/
inductive StepAnswer where
  | mk (answer : Answer) (inner : List StepAnswer) (seen : Option (List (Nat × Invocation)))
      (status : Option (Phase × Nat))

/-- A session with its live handles, and the targets known by name. -/
structure World where
  session : Session
  /-- How deep calls may nest before the stack of the program is full. -/
  depth : Nat
  /-- The live handles; the first one is marked. -/
  handles : List (String × Bool) := []
  names : Names := []
  /-- How many instances the other session has made. -/
  foreignInstances : Nat := 0

/-- What the items of a block have brought about so far. -/
structure BlockRun where
  world : World
  /-- The written expectations and, as `none`, the gaps. -/
  written : List (Option (Draft × Bool)) := []
  iterations : Nat := 1
  inner : List StepAnswer := []
  /-- Why the closure ended early. -/
  ended : Option Answer := none

namespace BlockRun

/-- The record block that was written. -/
def recording (b : BlockRun) : Recording :=
  { drafts := b.written.filterMap fun w => w.map (·.1), iterations := b.iterations }

/-- The verification block that was written. -/
def block (b : BlockRun) : Block :=
  { iterations := b.iterations
    items := b.written.map fun
      | some (d, observed) => .claim ⟨d.pattern, d.quantifier, observed⟩
      | none => .gap }

end BlockRun

namespace World

/-- The same world with another session state. -/
def withSession (w : World) (s : Session) : World := { w with session := s }

/-- Makes a target known, by a given name or by its text. -/
def bind (w : World) (name : Option String) (t : Target) : World :=
  { w with names := (name.getD t.text, t) :: w.names }

/-- The world without a handle. -/
def release (w : World) (name : String) : World :=
  { w with handles := w.handles.filter fun h => h.1 ≠ name }

/-- The phase and the length of the log, asked through a handle. -/
def status (w : World) (on : String) : Option (Phase × Nat) :=
  (w.handles.lookup on).map fun _ => (w.session.phase, w.session.log.length)

/-- Declares a type. -/
def declare (w : World) (d : Declaration) : Answer × World :=
  match w.session.declare d.typeName (d.options.getD w.session.defaultOptions) with
  | .ok (t, s) => (.target t, (w.withSession s).bind d.name t)
  | .error e => (if d.refusable then .refused e else .panicked e.text, w)

/-- A target of the other session, or a new instance there; its instances are numbered from 1
whatever their types. -/
def foreign (w : World) (typeName : String) (newInstance : Bool) : Target × World :=
  if newInstance then
    let id := w.foreignInstances + 1
    (⟨typeName, some id⟩, { w with foreignInstances := id })
  else (⟨typeName, none⟩, w)

/-- Makes a new instance of a named target. -/
def newInstance (w : World) (of : String) (name : Option String) : Answer × World :=
  match w.names.lookup of with
  | none => (.unknown of, w)
  | some t =>
    match w.session.newInstance t with
    | .ok (t, s) => (.target t, (w.withSession s).bind name t)
    | .error e => (.refused e, w)

/-- Compares two named targets. -/
def compare (w : World) (a b : String) : Answer :=
  match w.names.lookup a, w.names.lookup b with
  | some s, some t => .compared (s.covers t) (s = t) (s.order t)
  | none, _ => .unknown a
  | _, none => .unknown b

/-- Makes one call. -/
def callOnce (w : World) (kind : CallKind) (c : Call) : CallAnswer × World :=
  let through (real : Option (Except Thrown Value)) : CallAnswer × World :=
    match w.session.callThrough w.depth c (real.map fun outcome _ => outcome) with
    | (.ok p, s) =>
      (.passed c.target p.outcome (if p.ranReal then some c.args else none), w.withSession s)
    | (.error p, s) => (.panicked p.message, w.withSession s)
  match kind with
  | .dispatch =>
    match w.session.dispatch w.depth c with
    | (.ok r, s) => (.replied r, w.withSession s)
    | (.error p, s) => (.panicked p.message, w.withSession s)
  | .proxy => through none
  | .proxyOrReal real => through (some real)

/-- Makes calls one after another. -/
def callEach (w : World) (kind : CallKind) : List Call → List CallAnswer × World
  | [] => ([], w)
  | c :: cs =>
    let (a, w) := w.callOnce kind c
    let (as, w) := w.callEach kind cs
    (a :: as, w)

/-- Makes a named call as often as asked. The calls of several threads are made thread by
thread. -/
def call (w : World) (kind : CallKind) (c : NamedCall) (rounds : Rounds) : Answer × World :=
  match c.resolve w.names .home with
  | none => (.unknown c.target, w)
  | some c =>
    match rounds with
    | .once =>
      let (a, w) := w.callOnce kind c
      (.call a, w)
    | .repeated n =>
      let (as, w) := w.callEach kind (List.replicate n c)
      (.calls as, w)
    | .threaded threads each =>
      let calls := (List.range threads).flatMap fun t =>
        List.replicate each { c with thread := .worker t }
      let (as, w) := w.callEach kind calls
      (.threaded as, w)

/-- Drops a handle. A panic that is under way stays what it is. -/
def dropHandle (w : World) (on : String) (isFirst : Bool) (thread : Thread)
    (unwinding : Option String) : Answer × World :=
  let w := w.release on
  let departure : Departure :=
    ⟨isFirst, w.handles.length, thread, unwinding.isSome⟩
  let (outcome, s) := w.session.depart departure
  let answer := match unwinding, outcome with
    | some message, _ => .panicked message
    | none, .ok () => .done
    | none, .error p => .panicked p.message
  (answer, w.withSession s)

/-- Calls handed over claim by claim, each with the index of its claim. -/
def handedOver (handed : List (Nat × List Invocation)) : List (Nat × Invocation) :=
  handed.flatMap fun (i, cs) => cs.map (i, ·)

end World

/-- Whether a block asks to be handed calls. -/
def asksForCalls (items : List Item) : Bool :=
  items.any fun
    | .expect e => e.observed
    | _ => false

mutual

/-- Carries out a step through a handle that is there. -/
def Step.carryOut (w : World) : Step → StepAnswer × World
  | .declare on d =>
    let (a, w) := w.declare d
    (.mk a [] none (w.status on), w)
  | .foreign on typeName newInstance name =>
    let (t, w) := w.foreign typeName newInstance
    (.mk (.target t) [] none (w.status on), w.bind name t)
  | .newInstance on of name =>
    let (a, w) := w.newInstance of name
    (.mk a [] none (w.status on), w)
  | .compare on a b => (.mk (w.compare a b) [] none (w.status on), w)
  | .record on items =>
    match w.session.beginRecord with
    | .error e => (.mk (.refused e) [] none (w.status on), w)
    | .ok s =>
      let b := carryOutItems { world := w.withSession s } items
      match b.ended with
      -- A closure that ends early leaves the block open.
      | some a => (.mk a b.inner none (b.world.status on), b.world)
      | none =>
        let (outcome, s) := b.world.session.closeRecord b.recording
        let w := b.world.withSession s
        let a := match outcome with
          | .ok () => .done
          | .error e => .refused e
        (.mk a b.inner none (w.status on), w)
  | .verify on mode items =>
    let b := carryOutItems { world := w } items
    let seen (handed : List (Nat × List Invocation)) : Option (List (Nat × Invocation)) :=
      if asksForCalls items then some (World.handedOver handed) else none
    match b.ended with
    | some a => (.mk a b.inner (seen []) (b.world.status on), b.world)
    | none =>
      let (outcome, s) := b.world.session.verify mode b.block
      let w := b.world.withSession s
      match outcome with
      | .ok v => (.mk (.verdict v.mismatches) b.inner (seen v.handed) (w.status on), w)
      | .error p => (.mk (.panicked p.message) b.inner (seen []) (w.status on), w)
  | .call on kind c rounds =>
    let (a, w) := w.call kind c rounds
    (.mk a [] none (w.status on), w)
  | .invocations on => (.mk (.invocations w.session.log.entries) [] none (w.status on), w)
  | .phase on => (.mk (.phase w.session.phase) [] none (w.status on), w)
  | .clone on name =>
    let w := { w with handles := w.handles ++ [(name, false)] }
    (.mk .done [] none (w.status on), w)
  | .finish on =>
    let (ms, s) := w.session.finish
    let w := (w.withSession s).release on
    (.mk (.verdict ms) [] none (w.status on), w)
  | .drop on thread unwinding =>
    let (a, w) := w.dropHandle on ((w.handles.lookup on).getD false) thread unwinding
    (.mk a [] none (w.status on), w)

/-- Carries out steps one after another. A step through a handle that is not there does
nothing. -/
def carryOutAll (w : World) : List Step → List StepAnswer × World
  | [] => ([], w)
  | s :: ss =>
    let (a, w) :=
      if (w.handles.lookup s.handle).isSome then s.carryOut w
      else (.mk (.unknown s.handle) [] none none, w)
    let (as, w) := carryOutAll w ss
    (a :: as, w)

/-- Carries out an item of a block. -/
def Item.carryOut (b : BlockRun) : Item → BlockRun
  | .expect e =>
    match e.draft b.world.names with
    | some d => { b with written := b.written ++ [some (d, e.observed)] }
    | none => { b with ended := some (.unknown e.target) }
  | .iterations n => { b with iterations := n }
  | .gap => { b with written := b.written ++ [none] }
  | .steps ss =>
    let (as, w) := carryOutAll b.world ss
    { b with world := w, inner := b.inner ++ as }
  | .panic message => { b with ended := some (.panicked message) }

/-- Carries out the items of a block until one ends the closure. -/
def carryOutItems (b : BlockRun) : List Item → BlockRun
  | [] => b
  | i :: is =>
    let b := i.carryOut b
    if b.ended.isSome then b else carryOutItems b is

end

/-- A session to be made and what is done with it. -/
structure Scenario where
  config : Config := {}
  steps : List Step

namespace Scenario

/-- The name of the first handle. -/
def firstHandle : String := "m"

/-- The world of a fresh session, in a program whose calls may nest up to a depth. -/
def start (config : Config) (depth : Nat) : World :=
  { session := { config }, depth, handles := [(firstHandle, true)] }

/-- Drops the handles that are left, the first one last, and gives the answer of that; nothing
if that one is gone. -/
def conclude (w : World) : Option Answer :=
  if (w.handles.lookup firstHandle).isSome then
    let w := { w with handles := [(firstHandle, true)] }
    some (w.dropHandle firstHandle true .home none).1
  else none

/-- The answers to the steps of a scenario, and how it ends. -/
def run (s : Scenario) (depth : Nat) : List StepAnswer × Option Answer :=
  let (answers, w) := carryOutAll (start s.config depth) s.steps
  (answers, conclude w)

end Scenario

end Understudy

import Understudy.Proofs.Nullary
import Understudy.Proofs.Replay.Operation

/-!
# Bounds set by overlapping calls

A call that a delegate answers takes two steps. It is resolved, and when the delegate has returned,
the bounds it asks for are set. In between other things happen: calls on other threads or of the
delegate itself are resolved, and the bounds that their delegates ask for are set
(`dispatch_lands`).

What a delegate asks for is made from the bounds it saw when its call was resolved, and both sides
of that are set, also one that the delegate said nothing about. `lastWritten?` reads off the events
in between which bounds the same expectation was given meanwhile, and `keepsSides_iff` says what
follows: the other side keeps the value in force exactly if what was written meanwhile agrees with
what the delegate saw. If it does not, it is lost, as in `not_keepsSides_overlapping`.

The bounds are set at the place where the answering expectation stood (`expectation?_applyChanges`).
`lands_on_answerer` says that it stands there still, unless a record block put another one in its
place.
-/

namespace Understudy

namespace BoundChange

variable {cs : List BoundChange} {b b' : Bounds}

/-- The minimum that changes set; the last one counts. -/
def lastMin? : List BoundChange → Option Nat
  | [] => none
  | .min n :: cs => (lastMin? cs).or (some n)
  | .max _ :: cs => lastMin? cs

/-- The maximum that changes set. -/
def lastMax? : List BoundChange → Option Nat
  | [] => none
  | .min _ :: cs => lastMax? cs
  | .max n :: cs => (lastMax? cs).or (some n)

theorem foldl_apply (cs : List BoundChange) (b : Bounds) :
    cs.foldl apply b = ⟨(lastMin? cs).getD b.min, (lastMax? cs).or b.max⟩ := by
  induction cs generalizing b with
  | nil => rfl
  | cons c cs ih =>
    rw [List.foldl_cons, ih]
    cases c with
    | min n =>
      have hmin : (lastMin? cs).getD n = ((lastMin? cs).or (some n)).getD b.min := by
        cases lastMin? cs <;> rfl
      rw [lastMin?, lastMax?, ← hmin]
      rfl
    | max n =>
      have hmax : (lastMax? cs).or (some n) = ((lastMax? cs).or (some n)).or b.max := by
        cases lastMax? cs <;> rfl
      rw [lastMin?, lastMax?, ← hmax]
      rfl

/-- Changes make the same of two bounds that agree on the sides they do not set. -/
theorem foldl_apply_eq_iff : cs.foldl apply b = cs.foldl apply b' ↔
    (lastMin? cs = none → b.min = b'.min) ∧ (lastMax? cs = none → b.max = b'.max) := by
  rw [foldl_apply, foldl_apply, Bounds.mk.injEq]
  refine and_congr ?_ ?_
  · cases lastMin? cs with
    | none => exact ⟨fun h _ => h, fun h => h rfl⟩
    | some n => exact ⟨fun _ => nofun, fun _ => rfl⟩
  · cases lastMax? cs with
    | none => exact ⟨fun h _ => h, fun h => h rfl⟩
    | some n => exact ⟨fun _ => nofun, fun _ => rfl⟩

end BoundChange

theorem requestedBounds_eq_some {seen b : Bounds} {changes : List BoundChange}
    (h : requestedBounds seen changes = some b) : b = changes.foldl BoundChange.apply seen := by
  unfold requestedBounds at h
  split at h
  · cases h
  · exact (Option.some.inj h).symm

namespace Session

variable {s s' : Session} {c : Call} {T : String} {i : Nat} {d : Delegate} {call : DelegateCall}
variable {changes : List BoundChange} {b : Bounds}

/-- The bounds in force at a place. -/
def bounds? (s : Session) (T : String) (i : Nat) : Option Bounds :=
  (s.expectation? T i).map (·.counter.bounds)

/-- The bounds that an event writes to a place, if it does. -/
def written? (s : Session) (T : String) (i : Nat) : Event → Option Bounds
  | .setsBounds U j b =>
    if T = U ∧ i = j ∧ b.consistent = true then (s.bounds? T i).map fun _ => b else none
  | .closesRecord r =>
    if s.recordsAt r T i = true then (s.after (.closesRecord r)).bounds? T i else none
  | _ => none

/-- The bounds that events in a row write to a place last, if they do. -/
def lastWritten? (T : String) (i : Nat) : Session → List Event → Option Bounds
  | _, [] => none
  | s, v :: vs => (lastWritten? T i (s.after v) vs).or (s.written? T i v)

/-- Whether some of the events in a row record an expectation at a place. -/
def recordsDuring (T : String) (i : Nat) : Session → List Event → Bool
  | _, [] => false
  | s, .closesRecord r :: vs =>
    s.recordsAt r T i || recordsDuring T i (s.after (.closesRecord r)) vs
  | s, v :: vs => recordsDuring T i (s.after v) vs

/-- The changes of a call alter only the sides they set: they are made to the bounds in force. -/
def KeepsSides (s : Session) (i : Nat) (call : DelegateCall) (changes : List BoundChange) : Prop :=
  (s.applyChanges i call changes).bounds? call.invocation.target.typeName i =
    (s.bounds? call.invocation.target.typeName i).map (changes.foldl BoundChange.apply)

/-! ## What is written to a place -/

theorem bounds?_after (s : Session) (v : Event) (T : String) (i : Nat) :
    (s.after v).bounds? T i = (s.written? T i v).or (s.bounds? T i) := by
  have hfate := fate_after s v T i
  generalize hout : (s.after v).expectation? T i = out at hfate
  cases hfate with
  | recorded hrec hnew =>
    rw [written?, if_pos hrec, bounds?, hout]
    rfl
  | @served c e n q hans hq hserves =>
    -- Counting a call leaves the bounds alone.
    obtain rfl := ((hserves.answersAt T i).mp hans).1
    have hsame : s.bounds? c.target.typeName i = some e.counter.bounds := by
      rw [bounds?, hserves.place]
      rfl
    rw [bounds?, hout, hsame]
    rfl
  | @rebound b e he hb =>
    have hseen : s.bounds? T i = some e.counter.bounds := by
      rw [bounds?, he]
      rfl
    rw [written?, if_pos ⟨rfl, rfl, hb⟩, bounds?, hout, hseen]
    rfl
  | kept hrec hans =>
    have hsame : (s.after v).bounds? T i = s.bounds? T i := by
      rw [bounds?, hout]
      rfl
    cases v with
    | setsBounds U j b =>
      rw [written?]
      split
      · next h =>
        -- What was set is then what stood there, or nothing did.
        have hset : (s.after (.setsBounds U j b)).bounds? T i = (s.bounds? T i).map fun _ => b := by
          show ((s.applyBounds U j b).expectation? T i).map _ = _
          rw [expectation?_applyBounds, if_pos h, bounds?, Option.map_map, Option.map_map]
          rfl
        rw [← hset, hsame, Option.or_self]
      · exact hsame
    | closesRecord r =>
      rw [written?, if_neg (Bool.eq_false_iff.mp (hrec r rfl))]
      exact hsame
    | _ => exact hsame

/-- The bounds in force are those that were written last. -/
theorem bounds?_afterAll (s : Session) (events : List Event) (T : String) (i : Nat) :
    (s.afterAll events).bounds? T i = (lastWritten? T i s events).or (s.bounds? T i) := by
  induction events generalizing s with
  | nil => rfl
  | cons v vs ih =>
    have hnext := ih (s.after v)
    rw [bounds?_after, ← Option.or_assoc] at hnext
    exact hnext

/-! ## A call lands -/

theorem expectation?_applyChanges (hb : requestedBounds call.bounds changes = some b)
    (hvalid : b.consistent = true) (T : String) (j : Nat) :
    (s.applyChanges i call changes).expectation? T j =
      if T = call.invocation.target.typeName ∧ j = i then
        (s.expectation? T j).map fun e => { e with counter.bounds := b }
      else s.expectation? T j := by
  unfold applyChanges
  rw [hb]
  dsimp only
  rw [expectation?_applyBounds]
  refine if_congr ?_ rfl rfl
  exact and_congr_right fun _ => and_iff_left hvalid

/-- The changes of a call reach one place. What stands elsewhere stays as it is, whether they are
valid or not. -/
theorem expectation?_applyChanges_other {j : Nat}
    (h : ¬ (T = call.invocation.target.typeName ∧ j = i)) :
    (s.applyChanges i call changes).expectation? T j = s.expectation? T j := by
  unfold applyChanges
  split
  · rw [expectation?_applyBounds, if_neg fun hj => h ⟨hj.1, hj.2.1⟩]
  · rfl

/-- A delegate sees the bounds that are in force when its call is resolved. -/
theorem bounds?_resolveCall (h : s.resolveCall c = some (.delegated i d call, s')) :
    s'.bounds? call.invocation.target.typeName i = some call.bounds := by
  obtain ⟨e, hserves, -, rfl⟩ := resolveCall_delegated h
  obtain ⟨n, hn⟩ := hserves.counted
  show (s'.expectation? c.target.typeName i).map _ = _
  rw [hn]
  rfl

/-- Whatever happens between the resolution of a call and the moment its changes are applied: valid
changes alter only the sides they set exactly if, on the other sides, what was written meanwhile
agrees with what the delegate saw. -/
theorem keepsSides_iff (h : s.resolveCall c = some (.delegated i d call, s'))
    (events : List Event) (hb : requestedBounds call.bounds changes = some b)
    (hvalid : b.consistent = true) :
    (s'.afterAll events).KeepsSides i call changes ↔
      ∀ w, lastWritten? call.invocation.target.typeName i s' events = some w →
        (BoundChange.lastMin? changes = none → call.bounds.min = w.min) ∧
        (BoundChange.lastMax? changes = none → call.bounds.max = w.max) := by
  -- The bounds in force are the last ones written since the snapshot, or the snapshot itself.
  have hnow := bounds?_afterAll s' events call.invocation.target.typeName i
  rw [bounds?_resolveCall h] at hnow
  have hafter : ((s'.afterAll events).applyChanges i call changes).bounds?
      call.invocation.target.typeName i =
        ((s'.afterAll events).bounds? call.invocation.target.typeName i).map fun _ => b := by
    rw [bounds?, expectation?_applyChanges hb hvalid, if_pos ⟨rfl, rfl⟩, bounds?, Option.map_map,
      Option.map_map]
    rfl
  unfold KeepsSides
  rw [hafter, hnow, requestedBounds_eq_some hb]
  cases lastWritten? call.invocation.target.typeName i s' events with
  | none => exact ⟨fun _ => nofun, fun _ => rfl⟩
  | some w =>
    show some (changes.foldl BoundChange.apply call.bounds) =
      some (changes.foldl BoundChange.apply w) ↔ _
    rw [Option.some.injEq, BoundChange.foldl_apply_eq_iff]
    constructor
    · intro hagree w' hw
      cases hw
      exact hagree
    · intro hall
      exact hall w rfl

/-! ## Where a call lands -/

theorem recordsDuring_cons (v : Event) (vs : List Event) : recordsDuring T i s (v :: vs) = false ↔
    (∀ r, v = .closesRecord r → s.recordsAt r T i = false) ∧
      recordsDuring T i (s.after v) vs = false := by
  cases v with
  | closesRecord r =>
    rw [recordsDuring, Bool.or_eq_false_iff]
    refine and_congr_left fun _ => ⟨?_, fun h => h r rfl⟩
    intro hrec r' hr
    cases hr
    exact hrec
  | _ => exact ⟨fun h => ⟨nofun, h⟩, fun h => h.2⟩

/-- An expectation keeps its pattern and its script as long as no other is put in its place. -/
theorem expectation?_of_not_recordsDuring {e : Expectation} (he : s.expectation? T i = some e)
    {events : List Event} (hrec : recordsDuring T i s events = false) :
    ∃ e', (s.afterAll events).expectation? T i = some e' ∧ e'.pattern = e.pattern ∧
      e'.script = e.script := by
  induction events generalizing s e with
  | nil => exact ⟨e, he, rfl, rfl⟩
  | cons v vs ih =>
    obtain ⟨hnow, hlater⟩ := (recordsDuring_cons v vs).mp hrec
    -- Whatever one event does to the place, what stands there is still from the same draft.
    have hnext : ∃ d, (s.after v).expectation? T i = some d ∧ d.pattern = e.pattern ∧
        d.script = e.script := by
      have hfate := fate_after s v T i
      generalize hout : (s.after v).expectation? T i = out at hfate
      cases hfate with
      | recorded hrecords hnew => cases (hnow _ rfl).symm.trans hrecords
      | @served c d n q hans hq hserves =>
        obtain rfl := ((hserves.answersAt T i).mp hans).1
        cases he.symm.trans hserves.place
        exact ⟨_, rfl, rfl, rfl⟩
      | rebound hd hb =>
        cases he.symm.trans hd
        exact ⟨_, rfl, rfl, rfl⟩
      | kept _ hans => exact ⟨e, he, rfl, rfl⟩
    obtain ⟨d, hd, hpattern, hscript⟩ := hnext
    obtain ⟨e', he', hpattern', hscript'⟩ := ih hd hlater
    exact ⟨e', he', hpattern'.trans hpattern, hscript'.trans hscript⟩

/-- A call lands on the expectation that answers it, unless another one is put in its place. -/
theorem lands_on_answerer (h : s.resolveCall c = some (.delegated i d call, s'))
    {events : List Event} (hrec : recordsDuring c.target.typeName i s' events = false) :
    ∃ e e', s.expectation? c.target.typeName i = some e ∧ Action.delegates d ∈ e.script ∧
      (s'.afterAll events).expectation? c.target.typeName i = some e' ∧
      e'.pattern = e.pattern ∧ e'.script = e.script := by
  obtain ⟨e, hserves, haction, -⟩ := resolveCall_delegated h
  obtain ⟨n, hn⟩ := hserves.counted
  obtain ⟨e', he', hpattern, hscript⟩ := expectation?_of_not_recordsDuring hn hrec
  exact ⟨e, e', hserves.place, Expectation.delegates_mem_script haction, he', hpattern, hscript⟩

/-- An identical expectation recorded in its place, here for exactly one call, gets the bounds
instead. -/
example :
    ((({} : Session).afterAll
      [.declares "Door" ⟨.lenient, .total⟩,
        .closesRecord { drafts := [{ pattern := .nullary "Door" "knock" }] },
        .closesRecord { drafts := [({ pattern := .nullary "Door" "knock" } : Draft).times 1] }]).applyChanges
      0 ⟨⟨.nullary "Door" "knock", 0⟩, 1, .atLeast 0⟩ [.max 5]).bounds? "Door" 0 =
        some ⟨0, some 5⟩ := rfl

/-! ## Dispatching -/

theorem dispatchNested_eq (depth : Nat) :
    ∃ nested : Dispatcher, nested.Leads ∧ dispatchNested depth = dispatchWith nested := by
  cases depth with
  | zero => exact ⟨_, fun _ s => .refl s, rfl⟩
  | succ depth => exact ⟨_, dispatchNested_leads depth, rfl⟩

/-- A call that is answered by a delegate lands where events have led from its resolution. -/
theorem dispatch_lands {depth : Nat} {reply : Reply} (h : (s.enter c).1 = .delegated i d call)
    (hreply : (s.dispatch depth c).1 = .ok reply) : ∃ events changes,
      (s.dispatch depth c).2 = ((s.enter c).2.afterAll events).applyChanges i call changes := by
  obtain ⟨nested, hleads, hnested⟩ := dispatchNested_eq depth
  obtain ⟨events, hevents⟩ := follow_leads hleads (d.answer call) (s.enter c).2
  have hent : s.enter c = (.delegated i d call, (s.enter c).2) := Prod.ext h rfl
  unfold dispatch at hreply ⊢
  rw [hnested, dispatchWith, hent] at hreply ⊢
  dsimp only at hreply ⊢
  split at hreply
  · next changes outcome s'' hrun =>
    rw [hrun] at hevents
    exact ⟨events, changes, by rw [hevents]⟩
  · next p s'' hrun => cases hreply

end Session

/-! ## Knocks that overlap -/

/-- A delegate that asks for other bounds and returns. -/
def Delegate.asking (changes : List BoundChange) : Delegate :=
  { run := fun _ => .finished changes (.ok .unit) }

namespace Session

/-- Two knocks are expected. The first one raises the minimum, the second one the maximum. -/
def knocksExpected : Session :=
  ({} : Session).afterAll
    [.declares "Door" ⟨.strict, .total⟩,
      .closesRecord
        { drafts := [{ pattern := .nullary "Door" "knock"
                       script := [.delegates (.asking [.min 2]), .delegates (.asking [.max 5])] }] }]

/-- The first knock as its delegate sees it. -/
def firstKnock : DelegateCall := ⟨⟨.nullary "Door" "knock", 0⟩, 1, ⟨1, some 2⟩⟩

/-- The session after the first knock is resolved. -/
def knockedOnce : Session := knocksExpected.after (.resolves (.nullary "Door" "knock"))

/-- The session after the second knock is dispatched, while the first one is being answered. -/
def overlapping : Session := (knockedOnce.dispatch 0 (.nullary "Door" "knock")).2

theorem resolveCall_firstKnock : knocksExpected.resolveCall (.nullary "Door" "knock") =
    some (.delegated 0 (.asking [.min 2]) firstKnock, knockedOnce) := rfl

/-- If the second knock had set the minimum as well, nothing would be lost. -/
theorem keepsSides_iff_firstKnock :
    knocksExpected.resolveCall (.nullary "Door" "knock") =
      some (.delegated 0 (.asking [.min 2]) firstKnock, knockedOnce) ∧
    requestedBounds firstKnock.bounds [.min 2] = some (.exactly 2) ∧
    (Bounds.exactly 2).consistent = true ∧
    (knockedOnce.afterAll [.resolves (.nullary "Door" "knock"),
      .setsBounds "Door" 0 ⟨0, some 2⟩]).KeepsSides 0 firstKnock [.min 2] := by
  refine ⟨rfl, rfl, rfl, ?_⟩
  rw [keepsSides_iff resolveCall_firstKnock _ rfl rfl]
  intro w hw
  cases hw
  exact ⟨nofun, fun _ => rfl⟩

/-- The maximum that the second knock set is lost when the first one raises the minimum. -/
theorem not_keepsSides_overlapping :
    knocksExpected.resolveCall (.nullary "Door" "knock") =
      some (.delegated 0 (.asking [.min 2]) firstKnock, knockedOnce) ∧
    overlapping.bounds? "Door" 0 = some ⟨1, some 5⟩ ∧
    (overlapping.applyChanges 0 firstKnock [.min 2]).bounds? "Door" 0 = some ⟨2, some 2⟩ ∧
    ¬ overlapping.KeepsSides 0 firstKnock [.min 2] := by
  have hsecond : (knockedOnce.enter (.nullary "Door" "knock")).1 = .delegated 0 (.asking [.max 5])
      ⟨⟨.nullary "Door" "knock", 1⟩, 2, ⟨1, some 2⟩⟩ := rfl
  have hdispatch : overlapping = (knockedOnce.enter (.nullary "Door" "knock")).2.applyChanges 0
      ⟨⟨.nullary "Door" "knock", 1⟩, 2, ⟨1, some 2⟩⟩ [.max 5] := by
    rw [overlapping, dispatch_of_delegated hsecond rfl]
  rw [hdispatch]
  refine ⟨rfl, rfl, rfl, ?_⟩
  intro hkeeps
  have hlost : some (⟨2, some 2⟩ : Bounds) = some ⟨2, some 5⟩ := hkeeps
  cases hlost

end Session

end Understudy

import Understudy.Proofs.Nullary
import Understudy.Proofs.Session.History

/-!
# How often an expectation answers, and with what

`Session.servings` reads off a list of events which calls the expectation at a place
answered since it was recorded. It looks at the resolutions only, never at a counter. The
invariant `Tallied` says that the counter agrees with it, and that each of those calls
found the expectation below its maximum and was given the action whose turn it was.
`Tallied.after` keeps it through every event, by the four fates of a place.

An expectation that has reached its maximum answers no more, on tables of either strictness
(`resolveCall_exceeded`). Together this is the law of an expectation, `obeys_of_events`, and
`obeys_of_steps` says it of the scenarios.
-/

namespace Understudy

/-- A call that an expectation answered, and the session at that moment. -/
structure Serving where
  session : Session
  call : Call

/-- A call was the one of index `j` that the expectation at a place answered. It now reads `e` and
read `d` at that moment; `action` is what the call was given. -/
structure Serving.Took (v : Serving) (T : String) (i : Nat) (e d : Expectation) (action : Action)
    (j : Nat) : Prop where
  place : v.session.expectation? T i = some d
  pattern : d.pattern = e.pattern
  script : d.script = e.script
  accepted : e.pattern.accepts (v.session.logCall v.call).1 = .ok true
  count : d.counter.count = j
  /-- The maximum in force at that moment was not reached. -/
  below : ∀ max, d.counter.bounds.max = some max → j < max
  scripted : e.script[min j (e.script.length - 1)]? = some action ∨
    (e.script = [] ∧ action = .returns e.pattern.signature.returns.defaultValue)
  received : ∃ s', v.session.resolveCall v.call =
    some (action.entered i ⟨(v.session.logCall v.call).1, j + 1, d.counter.bounds⟩, s')

/-- Servings are told by the pattern and the script, which never change. -/
theorem Serving.Took.congr {v : Serving} {T : String} {i j : Nat} {e e' d : Expectation}
    {action : Action}
    (h : v.Took T i e d action j) (hp : e'.pattern = e.pattern) (hs : e'.script = e.script) :
    v.Took T i e' d action j where
  place := h.place
  pattern := h.pattern.trans hp.symm
  script := h.script.trans hs.symm
  accepted := hp ▸ h.accepted
  count := h.count
  below := h.below
  scripted := by rw [hp, hs]; exact h.scripted
  received := h.received

namespace Expectation

variable {e : Expectation}

/-- Capacity is a count below the maximum. -/
theorem hasCapacity_iff :
    e.hasCapacity = true ↔ ∀ max, e.counter.bounds.max = some max → e.counter.count < max := by
  unfold hasCapacity Counter.hasCapacity
  rw [Bool.not_eq_true', Bounds.exceededBy_eq_false_iff]
  constructor
  · intro h max hmax
    exact Nat.lt_of_succ_le (h max hmax)
  · intro h max hmax
    exact Nat.succ_le_of_lt (h max hmax)

/-- The action for a call stands in the script, or the script is empty. -/
theorem actionAt_scripted (e : Expectation) (j : Nat) :
    e.script[min j (e.script.length - 1)]? = some (e.actionAt j) ∨
      (e.script = [] ∧ e.actionAt j = .returns e.pattern.signature.returns.defaultValue) := by
  unfold actionAt
  rw [Script.actionAt_eq_getElem_min]
  cases hs : e.script with
  | nil => exact Or.inr ⟨rfl, rfl⟩
  | cons a as =>
    left
    have hlt : min j ((a :: as).length - 1) < (a :: as).length := by
      rw [List.length_cons]
      omega
    rw [List.getElem?_eq_getElem hlt]
    rfl

end Expectation

namespace Session

variable {s : Session} {c : Call} {T : String} {i j : Nat} {e d : Expectation}
variable {past : List Serving} {v : Event}

/-- The servings of a place after an event, given the ones before. A call that it answers is one
more; with a new expectation they start over. -/
def serve (s : Session) (T : String) (i : Nat) (past : List Serving) : Event → List Serving
  | .resolves c => if s.answersAt T i c then past ++ [⟨s, c⟩] else past
  | .closesRecord r => if s.recordsAt r T i then [] else past
  | _ => past

/-- The servings of a place after events in a row, given the ones before. -/
def servingsFrom (T : String) (i : Nat) : Session → List Serving → List Event → List Serving
  | _, past, [] => past
  | s, past, v :: vs => servingsFrom T i (s.after v) (s.serve T i past v) vs

/-- The calls that the expectation at a place answered since it was recorded. -/
def servings (s : Session) (T : String) (i : Nat) (events : List Event) : List Serving :=
  servingsFrom T i s [] events

/-! ## The invariant -/

/-- The expectation at a place has answered the given calls. -/
def Tallied (s : Session) (T : String) (i : Nat) (past : List Serving) : Prop :=
  ∀ e, s.expectation? T i = some e → e.counter.count = past.length ∧
    ∀ j (v : Serving), past[j]? = some v → ∃ d action, v.Took T i e d action j

/-- A call that is answered now is one more. -/
theorem Serves.took {q : Entered × Session} (h : s.Serves c i e q) (hq : s.resolveCall c = some q) :
    (⟨s, c⟩ : Serving).Took c.target.typeName i e e (e.actionAt e.counter.count)
      e.counter.count where
  place := h.place
  pattern := rfl
  script := rfl
  accepted := (Expectation.answers_eq_true_iff.mp h.answers).2
  count := rfl
  below := Expectation.hasCapacity_iff.mp (Expectation.answers_eq_true_iff.mp h.answers).1
  scripted := e.actionAt_scripted e.counter.count
  received := ⟨q.2, by rw [hq, ← h.entered]⟩

theorem serve_of_kept (hrec : ∀ r, v = .closesRecord r → s.recordsAt r T i = false)
    (hans : ∀ c, v = .resolves c → s.answersAt T i c = false) : s.serve T i past v = past := by
  unfold serve
  split
  · next c => rw [if_neg (Bool.eq_false_iff.mp (hans c rfl))]
  · next r => rw [if_neg (Bool.eq_false_iff.mp (hrec r rfl))]
  · rfl

/-- Every event keeps the tally. -/
theorem Tallied.after (h : s.Tallied T i past) (v : Event) :
    (s.after v).Tallied T i (s.serve T i past v) := by
  intro e' he'
  have hfate := fate_after s v T i
  rw [he'] at hfate
  generalize hout : some e' = out at hfate
  cases hfate with
  | recorded hrec hnew =>
    cases hout
    obtain ⟨d, -, hd⟩ := hnew
    rw [serve, if_pos hrec]
    refine ⟨hd.count_eq_zero, ?_⟩
    intro j v hv
    cases hv
  | @served c e n q hans hq hserves =>
    cases hout
    have hT : T = c.target.typeName := ((hserves.answersAt T i).mp hans).1
    subst hT
    obtain ⟨hcount, htook⟩ := h e hserves.place
    rw [serve, if_pos hans]
    constructor
    · show e.counter.count + 1 = (past ++ [(⟨s, c⟩ : Serving)]).length
      rw [List.length_append, List.length_singleton, hcount]
    · intro j v hv
      -- Either the call was answered before, or it is the one that is answered now.
      by_cases hj : j < past.length
      · rw [List.getElem?_append_left hj] at hv
        obtain ⟨d, action, htaken⟩ := htook j v hv
        exact ⟨d, action, htaken.congr rfl rfl⟩
      · obtain ⟨rfl, rfl⟩ : j = past.length ∧ v = ⟨s, c⟩ := by
          rw [List.getElem?_append_right (by omega)] at hv
          have hzero : j - past.length = 0 := by
            have := (List.getElem?_eq_some_iff.mp hv).1
            rw [List.length_singleton] at this
            omega
          rw [hzero] at hv
          exact ⟨by omega, (Option.some.inj hv).symm⟩
        have hnow := hserves.took hq
        rw [← hcount]
        exact ⟨e, _, hnow.congr rfl rfl⟩
  | rebound he hb =>
    cases hout
    obtain ⟨hcount, htook⟩ := h _ he
    refine ⟨hcount, ?_⟩
    intro j v hv
    obtain ⟨d, action, htaken⟩ := htook j v hv
    exact ⟨d, action, htaken.congr rfl rfl⟩
  | kept hrec hans =>
    rw [serve_of_kept hrec hans]
    exact h e' hout.symm

/-- A whole run keeps the tally. -/
theorem Tallied.afterAll (h : s.Tallied T i past) (events : List Event) :
    (s.afterAll events).Tallied T i (servingsFrom T i s past events) := by
  induction events generalizing s past with
  | nil => exact h
  | cons v vs ih => exact ih (h.after v)

/-- In a new session there is nothing to tally. -/
theorem tallied_new (config : Config) : ({ config } : Session).Tallied T i [] := by
  intro e he
  cases he

/-! ## Beyond the maximum -/

/-- A well-formed call that the expectation at a place describes and no other one of its type, and
no matcher fails on it. -/
structure MatchesOnly (s : Session) (T : String) (i : Nat) (c : Call) : Prop where
  type : c.target.typeName = T
  wellFormed : c.check = .ok ()
  accepted : ∀ e, s.expectation? T i = some e → e.pattern.accepts (s.logCall c).1 = .ok true
  rejected : ∀ j e, j ≠ i → s.expectation? T j = some e →
    e.pattern.accepts (s.logCall c).1 = .ok false

/-- An expectation at its maximum turns away the calls that only it describes. -/
theorem resolveCall_exceeded (he : s.expectation? T i = some e) (hcap : e.hasCapacity = false)
    (hc : s.MatchesOnly T i c) : ∃ s', s.resolveCall c =
      some (.settled (.ok (.unexpected (.unexpected (s.logCall c).1 e.exceeded))), s') := by
  obtain rfl := hc.type
  obtain ⟨t, ht, hat⟩ := Option.bind_eq_some_iff.mp he
  have hres : t.resolve (s.logCall c).1 = .ok (.unexpected e.exceeded, t) := by
    refine Table.resolve_exceeded hat hcap (hc.accepted e he) ?_
    intro j d hj hd
    exact hc.rejected j d hj ((expectation?_of_table? ht).trans hd)
  unfold resolveCall
  rw [ht, Option.map_some, resolve_of_ok hres]
  exact ⟨_, rfl⟩

/-- Dispatched, such a call is flagged. -/
theorem dispatch_exceeded (he : s.expectation? T i = some e) (hcap : e.hasCapacity = false)
    (hc : s.MatchesOnly T i c) (ho : s.IsOpen) (depth : Nat) :
    (s.dispatch depth c).1 = .ok (.ok (.unexpected (.unexpected (s.logCall c).1 e.exceeded))) := by
  have hent : (s.enter c).1 =
      .settled (.ok (.unexpected (.unexpected (s.logCall c).1 e.exceeded))) := by
    -- Letting the call in changes the phase, which matchers and tables do not see.
    have hin : (s.inPhase .replaying).MatchesOnly T i c := ⟨hc.type, hc.wellFormed, hc.accepted,
      hc.rejected⟩
    obtain ⟨s', hs'⟩ := resolveCall_exceeded (s := s.inPhase .replaying) he hcap hin
    obtain rfl := hc.type
    obtain ⟨t, ht, -⟩ := Option.bind_eq_some_iff.mp he
    have hq : (s.inPhase .replaying).resolveCall c = some (s.enter c) := by
      unfold resolveCall
      rw [enter_of_wellFormed ho ht hc.wellFormed]
      exact congrArg (Option.map _) ht
    exact congrArg Prod.fst (Option.some.inj (hq.symm.trans hs'))
  rw [dispatch_of_settled hent]

/-! ## The law of an expectation -/

/-- An expectation obeys the law of its counter and its script, `past` being the calls it answered
since it was recorded. -/
structure Obeys (s : Session) (T : String) (i : Nat) (e : Expectation) (past : List Serving) :
    Prop where
  counted : e.counter.count = past.length
  took : ∀ j (v : Serving), past[j]? = some v → ∃ d action, v.Took T i e d action j
  /-- Once the maximum is reached, a call that nothing else describes is flagged: when it is
  resolved in whatever phase, and so when it is dispatched. -/
  flagged : ∀ max, e.counter.bounds.max = some max → max ≤ e.counter.count →
    ∀ c, s.MatchesOnly T i c →
      (∃ s', s.resolveCall c =
        some (.settled (.ok (.unexpected (.unexpected (s.logCall c).1 e.exceeded))), s')) ∧
      (s.IsOpen → ∀ depth,
        (s.dispatch depth c).1 = .ok (.ok (.unexpected (.unexpected (s.logCall c).1 e.exceeded))))

theorem Tallied.obeys (h : s.Tallied T i past) (he : s.expectation? T i = some e) :
    s.Obeys T i e past := by
  obtain ⟨hcount, htook⟩ := h e he
  refine ⟨hcount, htook, ?_⟩
  intro max hmax hreached c hc
  have hcap : e.hasCapacity = false := by
    rw [← Bool.not_eq_true, Expectation.hasCapacity_iff]
    intro hall
    have := hall max hmax
    omega
  exact ⟨resolveCall_exceeded he hcap hc, dispatch_exceeded he hcap hc⟩

/-- Whatever happened to a new session, in whatever order, each of its expectations obeys
the law. -/
theorem obeys_of_events (config : Config) (events : List Event)
    (he : (({ config } : Session).afterAll events).expectation? T i = some e) :
    (({ config } : Session).afterAll events).Obeys T i e
      (({ config } : Session).servings T i events) :=
  ((tallied_new config).afterAll events).obeys he

/-- A knock is expected once or twice, and there are two. -/
def twoKnocks : List Event :=
  [.declares "Door" ⟨.strict, .total⟩,
    .closesRecord
      { drafts := [{ pattern := .nullary "Door" "knock", script := [.returns .unit, .callsReal] }] },
    .resolves (.nullary "Door" "knock"), .resolves (.nullary "Door" "knock")]

/-- What was recorded of the knocks, after both. -/
def knockedTwice : Expectation :=
  ⟨.nullary "Door" "knock", [.returns .unit, .callsReal], ⟨.between 1 2, 2⟩, true, some 2⟩

theorem matchesOnly_thirdKnock :
    (({} : Session).afterAll twoKnocks).MatchesOnly "Door" 0 (.nullary "Door" "knock") where
  type := rfl
  wellFormed := rfl
  accepted := by
    intro e he
    cases he
    rfl
  rejected := by
    intro j e hj he
    cases j with
    | zero => exact absurd rfl hj
    | succ j => cases he

/-- Both knocks are tallied, and a third one is flagged. -/
theorem obeys_of_events_twoKnocks :
    (({} : Session).servings "Door" 0 twoKnocks).length = 2 ∧
    ((({} : Session).afterAll twoKnocks).dispatch 0 (.nullary "Door" "knock")).1 =
      .ok (.ok (.unexpected (.unexpected
        ((({} : Session).afterAll twoKnocks).logCall (.nullary "Door" "knock")).1
        (.exceededMaxTimes "Door.knock() at here" (.between 1 2))))) := by
  have hobeys := obeys_of_events (T := "Door") (i := 0) (e := knockedTwice) {} twoKnocks rfl
  have hflagged := hobeys.flagged 2 rfl (by decide) _ matchesOnly_thirdKnock
  exact ⟨hobeys.counted.symm, hflagged.2 (by decide) 0⟩

end Session

/-- The expectations of a scenario obey their law, whatever its steps are. -/
theorem obeys_of_steps (config : Config) (depth : Nat) (steps : List Step) :
    ∃ events, (carryOutAll (Scenario.start config depth) steps).2.session =
        ({ config } : Session).afterAll events ∧
      ∀ T i e, (({ config } : Session).afterAll events).expectation? T i = some e →
        (({ config } : Session).afterAll events).Obeys T i e
          (({ config } : Session).servings T i events) := by
  obtain ⟨events, hevents⟩ := (traces_steps (Scenario.start config depth) steps).leads
  refine ⟨events, hevents.symm, ?_⟩
  intro T i e he
  exact ((Session.tallied_new config).afterAll events).obeys he

end Understudy

import Understudy.Proofs.Matching
import Understudy.Session.Verify

/-!
# What a verification looks at

Nothing but a few conditions decides whether a block is checked at all: the session must
be open with no discrepancy pending, every claim must be valid, and no matcher may fail on
a logged call (`Session.Admits`). A block that is admitted has its slots by plain
recursion on its items (`slotsOf`), and a claim in it demands exactly the logged calls that
its pattern describes (`mem_calls_demand`). `passes_iff` takes a verification apart into
these conditions and the verdict on the slots.
-/

namespace Understudy

/-! ## Locating calls -/

/-- The located calls are those that the pattern describes. -/
theorem locate_calls (p : Pattern) (log : List Located) :
    (locate p log).1 = log.filter fun c => p.describes c.2 := by
  induction log with
  | nil => rfl
  | cons c rest ih =>
    obtain ⟨i, c⟩ := c
    rw [locate, List.filter_cons, ← ih]
    unfold Pattern.describes
    cases p.accepts c with
    | error e => rfl
    | ok b => cases b <;> rfl

/-- No error is collected if no matcher fails. -/
theorem locate_errors_eq_nil_iff {p : Pattern} {log : List Located} :
    (locate p log).2 = [] ↔ ∀ c ∈ log, ∃ b, p.accepts c.2 = .ok b := by
  induction log with
  | nil => exact ⟨fun _ => nofun, fun _ => rfl⟩
  | cons c rest ih =>
    obtain ⟨i, c⟩ := c
    rw [List.forall_mem_cons, ← ih, locate]
    cases hc : p.accepts c with
    | error e => simp
    | ok b => cases b <;> simp

@[simp] theorem length_locatedCalls (log : List Invocation) :
    (locatedCalls log).length = log.length := by
  rw [locatedCalls, List.length_map, List.length_zipIdx]

@[simp] theorem map_snd_locatedCalls (log : List Invocation) :
    (locatedCalls log).map (·.2) = log := by
  rw [locatedCalls, List.map_map]
  exact List.zipIdx_map_fst 0 log

/-- Logged calls stand in the order of their positions. -/
theorem locatedCalls_pairwise (log : List Invocation) :
    (locatedCalls log).Pairwise (·.1 < ·.1) := by
  rw [locatedCalls, List.pairwise_map, List.pairwise_iff_getElem]
  intro i j hi hj hij
  rw [List.getElem_zipIdx, List.getElem_zipIdx]
  exact Nat.add_lt_add_left hij 0

/-! ## Claims -/

/-- The claim of an item that is not a gap. -/
def BlockItem.claim? : BlockItem → Option Claim
  | .claim c => some c
  | .gap => none

/-- The claims among items. -/
def claimsAmong (items : List BlockItem) : List Claim := items.filterMap BlockItem.claim?

/-- The claims of a block. -/
def Block.claims (b : Block) : List Claim := claimsAmong b.items

namespace Claim

variable {c : Claim} {mode : Mode} {n : Nat}

/-- The bounds that a claim means in each round of its block. -/
def meant (c : Claim) : Bounds := c.quantifier.resolve defaultBounds 0

/-- Nothing is wrong with a claim, `declares` telling the declared types. -/
structure IsValid (declares : String → Bool) (c : Claim) : Prop where
  declared : declares c.pattern.target.typeName = true
  pattern : c.pattern.check = .ok ()
  consistent : c.meant.consistent = true

/-- The bounds that a valid claim puts on the log. -/
def demanded (c : Claim) (mode : Mode) (n : Nat) : Bounds :=
  if mode.inOrder then c.meant else c.meant.repeated n

/-- The demand of a valid claim. -/
def demand (c : Claim) (mode : Mode) (n : Nat) (log : List Located) : Demand :=
  ⟨c.pattern.description, c.pattern.target.typeName, c.demanded mode n,
    (locate c.pattern log).1, c.observed⟩

/-- A claim has bounds if its pattern is well formed and they do not contradict each other. -/
theorem bounds_eq_ok_iff {b : Bounds} : c.bounds mode n = .ok b ↔
    c.pattern.check = .ok () ∧ c.meant.consistent = true ∧ b = c.demanded mode n := by
  unfold bounds
  cases hp : c.pattern.check with
  | error e => exact ⟨nofun, fun h => nomatch h.1⟩
  | ok u =>
    rw [Bounds.consistent_iff]
    unfold Pattern.resolveBounds meant demanded
    dsimp only
    cases hs : (c.quantifier.resolve defaultBounds 0).shortMax? with
    | some max => exact ⟨nofun, fun h => nomatch h.2.1⟩
    | none =>
      constructor
      · intro h
        exact ⟨rfl, rfl, (Except.ok.inj h).symm⟩
      · rintro ⟨-, -, rfl⟩
        rfl

/-- A claim demands the calls that its pattern describes. -/
theorem mem_calls_demand {log : List Located} {p : Located} :
    p ∈ (c.demand mode n log).calls ↔ p ∈ log ∧ c.pattern.describes p.2 = true := by
  rw [demand, locate_calls, List.mem_filter]

/-- It demands them in the order of the log. -/
theorem calls_demand_sublist (c : Claim) (mode : Mode) (n : Nat) (log : List Located) :
    (c.demand mode n log).calls.Sublist log := by
  rw [demand, locate_calls]
  exact List.filter_sublist

end Claim

/-! ## Slots -/

/-- The slots of one round of a block in which every claim is valid, the first claim having the
given index. -/
def slotsOf (mode : Mode) (n : Nat) (log : List Located) : Nat → List BlockItem → List Slot
  | _, [] => []
  | i, .gap :: rest => .gap :: slotsOf mode n log i rest
  | i, .claim c :: rest => .claim i (c.demand mode n log) :: slotsOf mode n log (i + 1) rest

section Slots

variable {declares : String → Bool} {mode : Mode} {n i : Nat} {log : List Located}
variable {items : List BlockItem} {slots : List Slot}

/-- Gaps stay gaps. -/
theorem any_isGap_slotsOf : (slotsOf mode n log i items).any Slot.isGap =
    items.any BlockItem.isGap := by
  induction items generalizing i with
  | nil => rfl
  | cons item rest ih =>
    cases item with
    | gap => rfl
    | claim c => exact ih

/-- What comes of the items of a block if every claim among them is valid. -/
theorem slotsFrom_of_valid (h : ∀ c ∈ claimsAmong items, c.IsValid declares) :
    slotsFrom declares log mode n i items =
      ((claimsAmong items).flatMap fun c => (locate c.pattern log).2,
        .ok (slotsOf mode n log i items)) := by
  induction items generalizing i with
  | nil => rfl
  | cons item rest ih =>
    cases item with
    | gap =>
      rw [slotsFrom, ih h]
      rfl
    | claim c =>
      have hc : c.IsValid declares := h c (List.mem_cons_self ..)
      have hrest := ih (i := i + 1) fun d hd => h d (List.mem_cons_of_mem _ hd)
      have hb : c.bounds mode n = .ok (c.demanded mode n) :=
        Claim.bounds_eq_ok_iff.mpr ⟨hc.pattern, hc.consistent, rfl⟩
      simp only [slotsFrom, hc.declared, hb, hrest]
      rfl

/-- If slots come of items, every claim among them is valid. -/
theorem valid_of_slotsFrom (h : (slotsFrom declares log mode n i items).2 = .ok slots) :
    ∀ c ∈ claimsAmong items, c.IsValid declares := by
  induction items generalizing i slots with
  | nil => exact fun _ => nofun
  | cons item rest ih =>
    cases item with
    | gap =>
      rw [slotsFrom] at h
      cases hr : (slotsFrom declares log mode n i rest).2 with
      | error e => simp [hr, Except.map] at h
      | ok tail => exact ih hr
    | claim c =>
      rw [slotsFrom] at h
      dsimp only at h
      split at h
      · cases h
      · next hd =>
        cases hb : c.bounds mode n with
        | error e => simp [hb] at h
        | ok b =>
          simp only [hb] at h
          -- Bounds are resolved only after every matcher was tried on the log.
          obtain ⟨hp, hcons, -⟩ := Claim.bounds_eq_ok_iff.mp hb
          intro d hmem
          rcases List.mem_cons.mp hmem with rfl | hin
          · refine ⟨?_, hp, hcons⟩
            simpa using hd
          · cases hr : (slotsFrom declares log mode n (i + 1) rest).2 with
            | error e => simp [hr, Except.map] at h
            | ok tail => exact ih hr d hin

/-- The slots of a block in which nothing is wrong are those of its claims. -/
theorem prepare_of_valid {b : Block} (hiter : b.iterations ≠ 0)
    (hgaps : mode.inOrder = true ∨ b.items.any BlockItem.isGap = false)
    (hvalid : ∀ c ∈ b.claims, c.IsValid declares) :
    b.prepare declares log mode = (b.claims.flatMap fun c => (locate c.pattern log).2,
      .ok (slotsOf mode b.iterations log 0 b.items)) := by
  rw [Block.prepare, if_neg hiter, if_neg ?_, slotsFrom_of_valid hvalid]
  · rfl
  · rcases hgaps with hin | hno
    · simp [hin]
    · simp [hno]

/-- If a block has slots, nothing is wrong with it. -/
theorem valid_of_prepare {b : Block} (h : (b.prepare declares log mode).2 = .ok slots) :
    b.iterations ≠ 0 ∧ (mode.inOrder = true ∨ b.items.any BlockItem.isGap = false) ∧
      ∀ c ∈ b.claims, c.IsValid declares := by
  unfold Block.prepare at h
  split at h
  · cases h
  · next hiter =>
    split at h
    · cases h
    · next hgaps =>
      refine ⟨hiter, ?_, valid_of_slotsFrom h⟩
      cases hin : mode.inOrder with
      | true => exact Or.inl rfl
      | false => exact Or.inr (by simpa [hin] using hgaps)

/-- A block in which nothing is wrong is well formed, over any log. -/
theorem isWellFormed_of_valid {b : Block} {entries : List Invocation} (hiter : b.iterations ≠ 0)
    (hgaps : mode.inOrder = true ∨ b.items.any BlockItem.isGap = false)
    (hvalid : ∀ c ∈ b.claims, c.IsValid declares) :
    b.isWellFormed declares entries mode = true := by
  unfold Block.isWellFormed
  rw [prepare_of_valid hiter hgaps hvalid]
  rfl

/-- The slots of a well-formed block are those of its claims, all of which are valid. -/
theorem prepare_of_isWellFormed {b : Block} {entries : List Invocation}
    (h : b.isWellFormed declares entries mode = true) :
    b.iterations ≠ 0 ∧ (∀ c ∈ b.claims, c.IsValid declares) ∧
      (b.prepare declares (locatedCalls entries) mode).2 =
        .ok (slotsOf mode b.iterations (locatedCalls entries) 0 b.items) := by
  unfold Block.isWellFormed at h
  cases hprep : (b.prepare declares (locatedCalls entries) mode).2 with
  | error e =>
    rw [hprep] at h
    cases h
  | ok slots =>
    obtain ⟨hiter, hgaps, hvalid⟩ := valid_of_prepare hprep
    rw [prepare_of_valid hiter hgaps hvalid] at hprep
    exact ⟨hiter, hvalid, hprep.symm⟩

end Slots

/-- A block that is well formed without order has no gaps. -/
theorem any_isGap_of_isWellFormed {declares : String → Bool} {b : Block}
    {entries : List Invocation} {full : Bool}
    (h : b.isWellFormed declares entries ⟨false, full⟩ = true) :
    b.items.any BlockItem.isGap = false :=
  (valid_of_prepare (prepare_of_isWellFormed h).2.2).2.1.resolve_left Bool.false_ne_true

/-! ## Verifications -/

/-- The verdict on a block in which every claim is valid. -/
def Block.verdict (b : Block) (mode : Mode) (log : List Located) : Verdict :=
  let slots := slotsOf mode b.iterations log 0 b.items
  if mode.inOrder then checkInOrder slots b.iterations mode.full log
  else checkCounts slots mode.full log

namespace Session

variable {s : Session} {mode : Mode} {b : Block}

/-- The calls that a verification looks at. -/
def logged (s : Session) : List Located := locatedCalls s.log.entries

/-- Whether a verification succeeds. -/
def passes (s : Session) (mode : Mode) (b : Block) : Bool :=
  match (s.verify mode b).1 with
  | .ok verdict => verdict.mismatches.isEmpty
  | .error _ => false

/-- A session in which only the verdict on a block decides whether its verification succeeds. -/
structure Admits (s : Session) (mode : Mode) (b : Block) : Prop where
  isOpen : s.IsOpen
  pending : s.pending = []
  length : b.isTooLong mode = false
  iterations : b.iterations ≠ 0
  gaps : mode.inOrder = true ∨ b.items.any BlockItem.isGap = false
  valid : ∀ c ∈ b.claims, c.IsValid s.declares
  faultless : ∀ c ∈ b.claims, ∀ p ∈ s.logged, ∃ answer, c.pattern.accepts p.2 = .ok answer

/-- A well-formed block is admitted where nothing else stands in the way. -/
theorem admits_of_isWellFormed (ho : s.IsOpen) (hpending : s.pending = [])
    (hlength : b.isTooLong mode = false)
    (hwell : b.isWellFormed s.declares s.log.entries mode = true)
    (hfaultless : ∀ c ∈ b.claims, ∀ p ∈ s.logged, (c.pattern.accepts p.2).isOk = true) :
    s.Admits mode b := by
  obtain ⟨hiter, hvalid, hprep⟩ := prepare_of_isWellFormed hwell
  refine ⟨ho, hpending, hlength, hiter, (valid_of_prepare hprep).2.1, hvalid, ?_⟩
  intro c hc p hp
  have hok := hfaultless c hc p hp
  cases ha : c.pattern.accepts p.2 with
  | ok answer => exact ⟨answer, rfl⟩
  | error e =>
    rw [ha] at hok
    cases hok

theorem passes_of_isOpen (ho : s.IsOpen) (hlong : b.isTooLong mode = false) :
    s.passes mode b =
      (s.pending ++ (b.check s.declares s.log.entries mode).mismatches).isEmpty := by
  have hbegin : s.beginVerify = .ok (s.inPhase .verifying) := enterPhase_eq_ok_iff.mpr ⟨ho, rfl⟩
  rw [passes, verify, hbegin]
  dsimp only
  rw [hlong, Bool.false_and, if_neg Bool.false_ne_true]
  rfl

/-- A block that is prepared is checked, and its verdict told. -/
theorem check_of_admits (h : s.Admits mode b) :
    (b.check s.declares s.log.entries mode).mismatches = (b.verdict mode s.logged).mismatches := by
  have hprep : b.prepare s.declares s.logged mode = _ :=
    prepare_of_valid h.iterations h.gaps h.valid
  have hfaults : (b.claims.flatMap fun c => (locate c.pattern s.logged).2) = [] := by
    rw [List.flatMap_eq_nil_iff]
    exact fun c hc => locate_errors_eq_nil_iff.mpr (h.faultless c hc)
  rw [hfaults] at hprep
  unfold Block.check
  dsimp only
  rw [show locatedCalls s.log.entries = s.logged from rfl, hprep]
  rfl

/-- A check without a complaint had all slots, and no matcher failed. -/
theorem prepare_of_check {declares : String → Bool} {log : List Invocation}
    (h : (b.check declares log mode).mismatches = []) :
    ∃ slots, b.prepare declares (locatedCalls log) mode = ([], .ok slots) := by
  unfold Block.check at h
  dsimp only at h
  cases hprep : b.prepare declares (locatedCalls log) mode with
  | mk errors outcome =>
    rw [hprep] at h
    cases outcome with
    | error e => exact absurd (List.append_eq_nil_iff.mp h).2 (List.cons_ne_nil _ _)
    | ok slots =>
      have herrors : errors = [] := List.map_eq_nil_iff.mp (List.append_eq_nil_iff.mp h).1
      exact ⟨slots, by rw [herrors]⟩

/-- A verification that succeeds found its block admitted. -/
theorem admits_of_passes (h : s.passes mode b = true) : s.Admits mode b := by
  have ho : s.IsOpen := by
    by_cases ho : s.IsOpen
    · exact ho
    · unfold passes verify at h
      cases hb : s.beginVerify with
      | error e =>
        rw [hb] at h
        cases h
      | ok s' => exact absurd (enterPhase_eq_ok_iff.mp hb).1 ho
  have hbegin : s.beginVerify = .ok (s.inPhase .verifying) := enterPhase_eq_ok_iff.mpr ⟨ho, rfl⟩
  rw [passes, verify, hbegin] at h
  dsimp only at h
  split at h
  · next verdict hverdict =>
    split at hverdict
    · cases hverdict
    · next hlong =>
      cases hverdict
      obtain ⟨hpending, hcheck⟩ := List.append_eq_nil_iff.mp (List.isEmpty_iff.mp h)
      obtain ⟨slots, hprep⟩ := prepare_of_check hcheck
      have hprep' : b.prepare s.declares s.logged mode = ([], .ok slots) := hprep
      -- The block is well formed, so it was short enough to be written out.
      have hlength : b.isTooLong mode = false := by
        have hwell : b.isWellFormed s.declares s.log.entries mode = true := by
          rw [Block.isWellFormed, show locatedCalls s.log.entries = s.logged from rfl, hprep']
          rfl
        exact Bool.eq_false_iff.mpr fun htoo => hlong (Bool.and_eq_true_iff.mpr ⟨htoo, hwell⟩)
      obtain ⟨hiter, hgaps, hvalid⟩ := valid_of_prepare (congrArg Prod.snd hprep')
      rw [prepare_of_valid hiter hgaps hvalid] at hprep'
      have hfaults := List.flatMap_eq_nil_iff.mp (congrArg Prod.fst hprep')
      exact ⟨ho, hpending, hlength, hiter, hgaps, hvalid,
        fun c hc => locate_errors_eq_nil_iff.mp (hfaults c hc)⟩
  · cases h

/-- A verification succeeds exactly if its block is admitted and the verdict has no complaint. -/
theorem passes_iff : s.passes mode b = true ↔
    s.Admits mode b ∧ (b.verdict mode s.logged).mismatches = [] := by
  constructor
  · intro h
    have hadm := admits_of_passes h
    rw [passes_of_isOpen hadm.isOpen hadm.length, check_of_admits hadm, hadm.pending] at h
    exact ⟨hadm, List.isEmpty_iff.mp h⟩
  · rintro ⟨hadm, hsilent⟩
    rw [passes_of_isOpen hadm.isOpen hadm.length, check_of_admits hadm, hsilent, hadm.pending]
    rfl

end Session

end Understudy

import Understudy.Table

/-!
# Sessions

A session holds the declared types with their tables, the log of calls, the
discrepancies found while calls were answered that nobody was told of yet, and the
phase it is in. Types are kept in ascending order of their names.

Every operation on a session is a function from sessions to sessions; one that is
refused gives an error and leaves the session as it was.
-/

namespace Understudy

/-- What becomes of a call on a type that was never declared. -/
inductive Fallback where
  /-- The caller is told. -/
  | refuse
  /-- The real method handles it. -/
  | callReal
deriving DecidableEq, Repr

/-- The settings of a session. -/
structure Config where
  /-- Whether dropping the first handle runs the final check. -/
  verifyOnDrop : Bool := true
  /-- Whether a proxy panics at once on a flagged call. -/
  failFast : Bool := false
  fallback : Fallback := .refuse
  /-- The strictness of types declared without one. -/
  defaultStrictness : Strictness := .strict
deriving DecidableEq, Repr

/-- A session. -/
structure Session where
  config : Config := {}
  /-- The declared types and their tables, in ascending order of names. -/
  tables : List (String × Table) := []
  log : Log := {}
  phase : Phase := .declared
  /-- Discrepancies nobody was told of yet, the oldest first. -/
  pending : List Mismatch := []
  nextInstance : Nat := 1

namespace Session

/-- The table of a type. -/
def table? (s : Session) (typeName : String) : Option Table := s.tables.lookup typeName

/-- Whether a type is declared. -/
def declares (s : Session) (typeName : String) : Bool := (s.table? typeName).isSome

/-- The session with another table for a declared type. -/
def setTable (s : Session) (typeName : String) (t : Table) : Session :=
  { s with tables := s.tables.map fun (n, old) => if n = typeName then (n, t) else (n, old) }

/-- A look-up tries the first entry and then the others. -/
theorem lookup_entry (n other : String) (t : Table) (rest : List (String × Table)) :
    ((n, t) :: rest).lookup other = if other = n then some t else rest.lookup other := by
  by_cases h : other = n
  · simp [h]
  · rw [List.lookup_cons, beq_false_of_ne h, if_neg h]

/-- Setting the table of a declared type is seen by that type alone, and declares no other. -/
theorem table?_setTable (s : Session) (typeName other : String) (t : Table) :
    (s.setTable typeName t).table? other =
      if other = typeName then (s.table? other).map fun _ => t else s.table? other := by
  simp only [table?, setTable]
  induction s.tables with
  | nil => simp
  | cons entry rest ih =>
    obtain ⟨n, old⟩ := entry
    rw [List.map_cons, lookup_entry]
    by_cases hn : n = typeName
    · subst hn
      rw [if_pos rfl, lookup_entry, ih]
      by_cases ho : other = n <;> simp [ho]
    · rw [if_neg hn, lookup_entry, ih]
      by_cases ho : other = n
      · subst ho
        simp [hn]
      · simp [ho]

@[simp] theorem declares_setTable (s : Session) (typeName other : String) (t : Table) :
    (s.setTable typeName t).declares other = s.declares other := by
  simp only [declares, table?_setTable]
  split <;> simp

/-- Inserts a new type in its place. -/
def insertType (typeName : String) (t : Table) : List (String × Table) → List (String × Table)
  | [] => [(typeName, t)]
  | (n, old) :: rest =>
    if Value.compareStrings n typeName = .lt then (n, old) :: insertType typeName t rest
    else (typeName, t) :: (n, old) :: rest

/-- An inserted type is found, and the others are found as before. -/
theorem lookup_insertType (typeName other : String) (t : Table) (tables : List (String × Table))
    (h : tables.lookup typeName = none) :
    (insertType typeName t tables).lookup other =
      if other = typeName then some t else tables.lookup other := by
  induction tables with
  | nil => rw [insertType, lookup_entry]
  | cons entry rest ih =>
    obtain ⟨n, old⟩ := entry
    rw [lookup_entry] at h
    split at h
    · cases h
    · rename_i hn
      rw [insertType]
      split
      · rw [lookup_entry, lookup_entry, ih h]
        by_cases ho : other = n
        · subst ho
          simp [Ne.symm hn]
        · simp [ho]
      · rw [lookup_entry]

/-- Declares a type. Declaring it again with the same options changes nothing. -/
def declare (s : Session) (typeName : String) (options : Options) :
    Except SessionError (Target × Session) :=
  match s.table? typeName with
  | some t =>
    if t.options = options then .ok (⟨typeName, none⟩, s)
    else .error (.conflictingDeclaration typeName t.options options)
  | none => .ok (⟨typeName, none⟩, { s with tables := insertType typeName { options } s.tables })

/-- The options of types declared without any. -/
def defaultOptions (s : Session) : Options := { strictness := s.config.defaultStrictness }

/-- Makes a new instance of a declared type. -/
def newInstance (s : Session) (of : Target) : Except SessionError (Target × Session) :=
  if s.declares of.typeName then
    let id := s.nextInstance
    .ok ({ of with instanceId := some id }, { s with nextInstance := id + 1 })
  else .error (.undeclaredTarget of)

/-- Remembers a discrepancy until somebody is told. -/
def push (s : Session) (m : Mismatch) : Session := { s with pending := s.pending ++ [m] }

/-- Forgets the discrepancies that somebody is now told of. -/
def drained (s : Session) : Session := { s with pending := [] }

/-- The session in another phase. -/
def inPhase (s : Session) (p : Phase) : Session := { s with phase := p }

/-- Enters a phase for an operation. An open record block and the end of the session forbid
all operations that need a phase. -/
def enterPhase (s : Session) (operation : String) (p : Phase) : Except SessionError Session :=
  match s.phase with
  | .recording => .error (.invalidPhase operation s.phase)
  | .closed => .error .sessionClosed
  | _ => .ok (s.inPhase p)

/-- Opens a record block. -/
def beginRecord (s : Session) : Except SessionError Session :=
  s.enterPhase "open a record block" .recording

/-- Closes a record block, after which calls are answered. -/
def endRecord (s : Session) : Session := s.inPhase .replaying

/-- Prepares for a call. -/
def beginDispatch (s : Session) : Except SessionError Session :=
  s.enterPhase "dispatch a call" .replaying

/-- Prepares for a verification. -/
def beginVerify (s : Session) : Except SessionError Session :=
  s.enterPhase "verify" .verifying

@[simp] theorem inPhase_phase (s : Session) (p : Phase) : (s.inPhase p).phase = p := rfl

@[simp] theorem inPhase_log (s : Session) (p : Phase) : (s.inPhase p).log = s.log := rfl

@[simp] theorem inPhase_pending (s : Session) (p : Phase) : (s.inPhase p).pending = s.pending := rfl

@[simp] theorem inPhase_tables (s : Session) (p : Phase) : (s.inPhase p).tables = s.tables := rfl

/-- Whether a session is neither inside a record block nor over. -/
def IsOpen (s : Session) : Prop := s.phase ≠ .recording ∧ s.phase ≠ .closed

instance (s : Session) : Decidable s.IsOpen := inferInstanceAs (Decidable (_ ∧ _))

/-- A phase is entered exactly from open sessions. -/
theorem enterPhase_eq_ok_iff {s t : Session} {operation : String} {p : Phase} :
    s.enterPhase operation p = .ok t ↔ s.IsOpen ∧ t = s.inPhase p := by
  unfold enterPhase IsOpen
  split <;> simp_all [eq_comm]

end Session

end Understudy

import Understudy.Value.Type

/-!
# Targets and signatures

A call is made on a target: a declared type, or one numbered instance of it. An
expectation on a type covers the calls on the type and on all its instances, one
on an instance only the calls on that instance.

A signature names the method called. Two signatures denote the same method when
their names and parameter types agree; the result type only says what the method
answers by default.
-/

namespace Understudy

/-- A declared type, or one instance of it. -/
structure Target where
  typeName : String
  instanceId : Option Nat := none
deriving DecidableEq, Repr

namespace Target

/-- An instance is written with its number after its type. -/
def text (t : Target) : String :=
  match t.instanceId with
  | some id => t.typeName ++ "#" ++ toString id
  | none => t.typeName

/-- Whether an expectation on `a` applies to a call on `b`. -/
def covers (a b : Target) : Bool :=
  a.typeName = b.typeName && (a.instanceId.isNone || a.instanceId = b.instanceId)

/-- The order of targets: by type name, then the type before its instances, then by number. -/
def order (a b : Target) : Ordering :=
  (Value.compareStrings a.typeName b.typeName).then <|
    match a.instanceId, b.instanceId with
    | none, none => .eq
    | none, some _ => .lt
    | some _, none => .gt
    | some m, some n => compare m n

@[simp] theorem covers_self (t : Target) : t.covers t = true := by simp [covers]

end Target

/-- A method: its name, its parameter types and its result type. -/
structure Signature where
  name : String
  params : List ValueType := []
  returns : ValueType := .unit
deriving DecidableEq, Repr

namespace Signature

/-- Whether two signatures denote the same method. -/
def sameMethod (a b : Signature) : Bool := a.name = b.name && a.params = b.params

/-- The number of parameters. -/
def arity (s : Signature) : Nat := s.params.length

/-- The name, the parameter types, and the result type unless the method answers nothing. -/
def text (s : Signature) : String :=
  let params := ", ".intercalate (s.params.map ValueType.text)
  let result := if s.returns = .unit then "" else " -> " ++ s.returns.text
  s.name ++ "(" ++ params ++ ")" ++ result

@[simp] theorem sameMethod_self (s : Signature) : s.sameMethod s = true := by simp [sameMethod]

theorem sameMethod_iff {a b : Signature} :
    a.sameMethod b = true ↔ a.name = b.name ∧ a.params = b.params := by
  simp [sameMethod]

end Signature

/-- Whether the recorded order of a type's expectations is enforced. -/
inductive Strictness where
  /-- Calls arrive in recorded order, and any other call is flagged. -/
  | strict
  /-- Calls arrive in any order, and a call without an expectation gets a default answer. -/
  | lenient
deriving DecidableEq, Repr

/-- What becomes of a lenient call that no expectation answers. -/
inductive Policy where
  /-- It gets the default value of its result type. -/
  | total
  /-- The real method handles it. -/
  | partially
deriving DecidableEq, Repr

/-- How a type is stood in for. -/
structure Options where
  strictness : Strictness
  policy : Policy := .total
deriving DecidableEq, Repr

/-- The word for a strictness. -/
def Strictness.text : Strictness → String
  | strict => "Strict"
  | lenient => "Lenient"

/-- The strictness, and whether the stand-in is partial. -/
def Options.text (o : Options) : String :=
  match o.policy with
  | .total => o.strictness.text
  | .partially => o.strictness.text ++ ", partial"

end Understudy

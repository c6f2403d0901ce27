import Understudy.Session.Dispatch
import Understudy.Verification.Block

/-!
# Methods without parameters

The smallest calls name a type and a method and nothing else. A pattern for such a method
has no matcher that could fail, so it tells its calls from all others
(`Pattern.accepts_nullary`).
-/

namespace Understudy

/-- A call of a method without parameters on a type. -/
def Call.nullary (typeName method : String) : Call :=
  ⟨⟨typeName, none⟩, ⟨method, [], .unit⟩, [], .home⟩

namespace Pattern

/-- The pattern of the calls of a method without parameters on a type and all its instances. -/
def nullary (typeName method : String) : Pattern :=
  ⟨⟨typeName, none⟩, ⟨method, [], .unit⟩, [], "here"⟩

/-- A pattern without matchers fails on no call. -/
theorem accepts_nullary (typeName method : String) (c : Invocation) :
    (nullary typeName method).accepts c =
      .ok ((nullary typeName method).targets c && c.args.isEmpty) := by
  unfold accepts
  cases hc : c.args with
  | nil =>
    have hargs : (nullary typeName method).args.length = ([] : List Value).length := rfl
    cases ht : (nullary typeName method).targets c with
    | true => rw [if_pos (by simp [hargs])]; rfl
    | false => rfl
  | cons v vs =>
    have hargs : (nullary typeName method).args.length ≠ (v :: vs).length := nofun
    rw [if_neg (fun h => hargs (of_decide_eq_true (Bool.and_eq_true_iff.mp h).2))]
    rw [List.isEmpty_cons, Bool.and_false]

/-- The calls that the pattern describes have its method. -/
theorem signature_of_accepts_nullary {typeName method : String} {c : Invocation}
    (h : (nullary typeName method).accepts c = .ok true) : c.signature.name = method := by
  rw [accepts_nullary] at h
  have ht := (Bool.and_eq_true_iff.mp (Except.ok.inj h)).1
  exact (Signature.sameMethod_iff.mp (Bool.and_eq_true_iff.mp ht).2).1.symm

end Pattern

/-- A claim about the calls of a method without parameters. -/
def Claim.nullary (typeName method : String) (q : Quantifier) : Claim :=
  { pattern := .nullary typeName method, quantifier := q }

/-- A session with one lenient type, after calls of methods without parameters. -/
def Session.called (typeName : String) (methods : List String) : Session :=
  methods.foldl (fun s method => (s.enter (.nullary typeName method)).2)
    { tables := [(typeName, { options := ⟨.lenient, .total⟩ })] }

end Understudy

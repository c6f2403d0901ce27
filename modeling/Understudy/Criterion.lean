import Understudy.Value.Text
import Understudy.Value.Type

/-!
# Criteria and their case trees

A criterion is a condition on a value that can explain itself. Its explanation is
a tree of the parts that decided the outcome: `findCase want` gives the tree for a
criterion that came out as `want`, and nothing if it came out otherwise.
`findCase_isSome` says that exactly one of the two outcomes has a tree.
-/

namespace Understudy

/-- The comparisons a criterion can make. -/
inductive Comparison where
  | eq | ne | lt | le | gt | ge
deriving DecidableEq, Repr

namespace Comparison

/-- The sign of a comparison. -/
def sign : Comparison → String
  | eq => "=="
  | ne => "!="
  | lt => "<"
  | le => "<="
  | gt => ">"
  | ge => ">="

/-- Whether a comparison holds. Values without an order between them satisfy no ordered
comparison. -/
def holds (c : Comparison) (a b : Value) : Bool :=
  match c with
  | eq => a.same b
  | ne => !a.same b
  | lt => a.compare? b = some .lt
  | le => a.atMost b
  | gt => a.compare? b = some .gt
  | ge => a.compare? b = some .gt || a.compare? b = some .eq

end Comparison

/-- A condition on a value. -/
inductive Criterion where
  | always
  | never
  /-- The value is an even integer. -/
  | even
  | compare (c : Comparison) (v : Value)
  | among (vs : List Value)
  | both (a b : Criterion)
  | either (a b : Criterion)
  | negated (a : Criterion)

/-- A node of an explanation: its text, the facts it rests on, and the cases below it. -/
inductive CaseTree where
  | node (text : String) (facts : List String) (cases : List CaseTree)

namespace Criterion

/-- Whether a value meets a criterion. -/
def holds : Criterion → Value → Bool
  | always, _ => true
  | never, _ => false
  | even, v => v.toInt?.any fun n => n % 2 = 0
  | compare c b, a => c.holds a b
  | among vs, a => vs.any a.same
  | both p q, a => p.holds a && q.holds a
  | either p q, a => p.holds a || q.holds a
  | negated p, a => !p.holds a

/-- A criterion as a formula about `var`. -/
def text : Criterion → String
  | always => "true"
  | never => "false"
  | even => "fn(var)"
  | compare c v => "var " ++ c.sign ++ " " ++ v.spread
  | among _ => "var in values"
  | both p q => "(" ++ p.text ++ " && " ++ q.text ++ ")"
  | either p q => "(" ++ p.text ++ " || " ++ q.text ++ ")"
  | negated p => "(! " ++ p.text ++ ")"

/-- The fact that shows the value judged. -/
def varFact (a : Value) : String := "var: " ++ a.spread

/-- The facts that decide a criterion without parts. -/
def facts : Criterion → Value → List String
  | always, _ => ["value: true"]
  | never, _ => ["value: false"]
  | compare .., a => [varFact a]
  | among vs, a => ["values: " ++ Value.spreadList vs, varFact a]
  | _, _ => []

/-- The tree for a criterion that came out as `want`, if it did. A conjunction that failed is
explained by its first part that failed, and one that holds by both parts; a disjunction
the other way round. -/
def findCase (want : Bool) (a : Value) : Criterion → Option CaseTree
  | negated p =>
    (p.findCase (!want) a).map fun t => .node (negated p).text [] [t]
  | both p q =>
    if want then
      match p.findCase true a, q.findCase true a with
      | some s, some t => some (.node (both p q).text [] [s, t])
      | _, _ => none
    else
      ((p.findCase false a).or (q.findCase false a)).map fun t =>
        .node (both p q).text [] [t]
  | either p q =>
    if want then
      ((p.findCase true a).or (q.findCase true a)).map fun t =>
        .node (either p q).text [] [t]
    else
      match p.findCase false a, q.findCase false a with
      | some s, some t => some (.node (either p q).text [] [s, t])
      | _, _ => none
  | c => if c.holds a = want then some (.node c.text (c.facts a) []) else none

/-- A criterion has a tree for an outcome exactly when that is its outcome. -/
theorem findCase_isSome (c : Criterion) (want : Bool) (a : Value) :
    (c.findCase want a).isSome = (c.holds a == want) := by
  induction c generalizing want with
  | negated p ih => cases want <;> simp [findCase, holds, ih]
  | both p q ihp ihq =>
    cases want
    · have hp := ihp false
      have hq := ihq false
      simp only [findCase, holds, Bool.false_eq_true, if_false, Option.isSome_map,
        Option.isSome_or, hp, hq]
      cases p.holds a <;> cases q.holds a <;> rfl
    · have hp := ihp true
      have hq := ihq true
      simp only [findCase, holds, if_true]
      cases hs : p.findCase true a <;> cases ht : q.findCase true a <;>
        simp_all
  | either p q ihp ihq =>
    cases want
    · have hp := ihp false
      have hq := ihq false
      simp only [findCase, holds, Bool.false_eq_true, if_false]
      cases hs : p.findCase false a <;> cases ht : q.findCase false a <;>
        simp_all
    · have hp := ihp true
      have hq := ihq true
      simp only [findCase, holds, if_true, Option.isSome_map, Option.isSome_or, hp, hq]
      cases p.holds a <;> cases q.holds a <;> rfl
  | _ => simp only [findCase]; split <;> simp_all

end Criterion

namespace CaseTree

/-- Whether an ancestor is the last of its siblings decides the column drawn under it. -/
def column (last : Bool) : String := if last then "    " else "│   "

/-- The stroke from a parent to a child. -/
def branch (last : Bool) : String := if last then "└── " else "├── "

/-- A fact below the columns of its ancestors. Its further lines stand under its first. -/
def factText (columns : String) (last : Bool) (fact : String) : String :=
  match fact.splitOn "\n" with
  | [] => ""
  | l :: ls =>
    columns ++ branch last ++ l ++ "\n" ++
      String.join (ls.map fun l => columns ++ column last ++ l ++ "\n")

/-- The facts of a node; the last one ends the siblings unless cases follow. -/
def factTexts (columns : String) (casesFollow : Bool) : List String → String
  | [] => ""
  | f :: fs =>
    factText columns (fs.isEmpty && !casesFollow) f ++ factTexts columns casesFollow fs

mutual

/-- What stands below a node. -/
def drawFrom (columns : String) : CaseTree → String
  | node _ facts cases => factTexts columns (!cases.isEmpty) facts ++ drawCases columns cases

/-- The cases of a node, each with what stands below it. -/
def drawCases (columns : String) : List CaseTree → String
  | [] => ""
  | .node text facts cases :: ts =>
    let last := ts.isEmpty
    columns ++ branch last ++ text ++ "\n"
      ++ drawFrom (columns ++ column last) (.node text facts cases) ++ drawCases columns ts

end

/-- The drawing of a tree, one node or fact a line. -/
def render : CaseTree → String
  | node text facts cases => text ++ "\n" ++ drawFrom "" (.node text facts cases)

end CaseTree

end Understudy

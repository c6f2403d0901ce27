import Understudy.Regex.Meaning
import Understudy.Regex.Reader
import Understudy.Regex.Size

/-!
# The expression of a pattern

A pattern is read into its tree, the tree gives the expression, and the expression is
accepted if its programs are not too large.
-/

namespace Understudy.Regex

/-- The expression that a pattern denotes. -/
def Expr.read (pattern : String) : Except PatternError Expr := do
  let t ← Tree.read pattern
  let (e, _) ← t.meaning {}
  if e.isTooLarge then .error .tooLarge else .ok e

end Understudy.Regex

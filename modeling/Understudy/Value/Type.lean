import Understudy.Value.Text

/-!
# Types of parameters and results

A `ValueType` says what a parameter may hold and what a call answers by default.
Numeric slots go by range, not by width: an integer slot holds every integer of
its range, and a floating-point slot holds every number. References (objects, strings,
bytes and lists) may be null, and an object slot holds anything.
-/

namespace Understudy

/-- The type of a parameter or of a result. -/
inductive ValueType where
  | unit
  | bool
  | char
  | int (type : IntType)
  | float (type : FloatType)
  | str
  | bytes
  | list
  /-- A reference type known by its name only. -/
  | object (name : String)
deriving DecidableEq, Repr

namespace ValueType

/-- The name of a type. -/
def text : ValueType → String
  | unit => "()"
  | bool => "bool"
  | char => "char"
  | int t => t.name
  | float t => t.name
  | str => "str"
  | bytes => "bytes"
  | list => "list"
  | object name => name

/-- The form of a type, which tells an object type from a built-in one. -/
def form : ValueType → String
  | unit => "Unit"
  | bool => "Bool"
  | char => "Char"
  | int t => t.head
  | float t => t.head
  | str => "Str"
  | bytes => "Bytes"
  | list => "List"
  | object name => "Object(" ++ Text.quotedString name ++ ")"

/-- The value a call of this type answers when nothing else is said: zero, empty or null. -/
def defaultValue : ValueType → Value
  | unit => .unit
  | bool => .bool false
  | char => .char '\x00'
  | int t => .int t 0
  | float t => .float t t.format.zero
  | str => .str ""
  | bytes => .bytes []
  | list => .list []
  | object _ => .null

/-- Whether a slot of this type can hold a value. -/
def admits : ValueType → Value → Bool
  | object _, _ => true
  | float _, v => v.number?.isSome
  | int t, .int _ n => t.holds n
  | unit, .unit => true
  | bool, .bool _ => true
  | char, .char _ => true
  | str, .str _ => true
  | bytes, .bytes _ => true
  | list, .list _ => true
  | str, .null => true
  | bytes, .null => true
  | list, .null => true
  | _, _ => false

/-- Every type holds its own default value. -/
theorem admits_defaultValue (t : ValueType) : t.admits t.defaultValue = true := by
  cases t with
  | int t => cases t <;> decide
  | _ => rfl

end ValueType

end Understudy

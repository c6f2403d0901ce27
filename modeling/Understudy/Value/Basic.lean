import Understudy.Numeric.Binary

/-!
# Values

A value is what a call passes or answers: nothing, a number of some width, text,
bytes or a list. Numbers of all widths and kinds form one family: they are equal
and ordered by what they denote, integers among themselves exactly, and an
integer beside a floating-point number as the double nearest to it. All other
kinds are equal only to their own kind, and only booleans, characters, strings and
bytes are ordered.
-/

namespace Understudy

/-- The fixed-width integer types. -/
inductive IntType where
  | i8 | i16 | i32 | i64 | u8 | u16 | u32 | u64
deriving DecidableEq, Repr

/-- The floating-point types. -/
inductive FloatType where
  | f32 | f64
deriving DecidableEq, Repr

namespace IntType

/-- The number of bits of a type. -/
def width : IntType → Nat
  | i8 | u8 => 8
  | i16 | u16 => 16
  | i32 | u32 => 32
  | i64 | u64 => 64

/-- Whether a type holds negative integers. -/
def isSigned : IntType → Bool
  | i8 | i16 | i32 | i64 => true
  | u8 | u16 | u32 | u64 => false

/-- The least integer of a type. -/
def least (t : IntType) : Int := if t.isSigned then -(Nat.pow 2 (t.width - 1) : Nat) else 0

/-- The greatest integer of a type. -/
def greatest (t : IntType) : Int :=
  (Nat.pow 2 (if t.isSigned then t.width - 1 else t.width) - 1 : Nat)

/-- Whether an integer lies in the range of a type. -/
def holds (t : IntType) (n : Int) : Bool := t.least ≤ n && n ≤ t.greatest

/-- The name of a type. -/
def name : IntType → String
  | i8 => "i8"
  | i16 => "i16"
  | i32 => "i32"
  | i64 => "i64"
  | u8 => "u8"
  | u16 => "u16"
  | u32 => "u32"
  | u64 => "u64"

end IntType

namespace FloatType

/-- The binary format of a type. -/
def format : FloatType → Format
  | f32 => .single
  | f64 => .double

/-- The name of a type. -/
def name : FloatType → String
  | f32 => "f32"
  | f64 => "f64"

end FloatType

/-- A value passed to or answered by a call. -/
inductive Value where
  /-- No value where a reference is expected. -/
  | null
  /-- The value of a call that answers nothing. -/
  | unit
  | bool (b : Bool)
  | char (c : Char)
  | int (type : IntType) (n : Int)
  | float (type : FloatType) (x : Binary)
  | str (s : String)
  | bytes (bs : List UInt8)
  | list (items : List Value)

/-- What a number denotes, apart from its width. -/
inductive Number where
  | int (n : Int)
  | float (x : Binary)

namespace Number

/-- A number as a double, rounded to the nearest. -/
def toDouble : Number → Binary
  | int n => Format.double.ofInt n
  | float x => x

/-- The order of two numbers: exact between integers and between floating-point numbers,
and through the nearest double where the two kinds meet. -/
def compare? : Number → Number → Option Ordering
  | int a, int b => some (compare a b)
  | a, b => a.toDouble.compare? b.toDouble

end Number

namespace Value

/-- What a numeric value denotes. -/
def number? : Value → Option Number
  | int _ n => some (.int n)
  | float _ x => some (.float x)
  | _ => none

/-- A numeric value as a double. -/
def toDouble? (v : Value) : Option Binary :=
  v.number?.map fun n => n.toDouble.toFormat .double

/-- An integer value as an integer. -/
def toInt? : Value → Option Int
  | int _ n => some n
  | _ => none

/-- The text of a string value. -/
def string? : Value → Option String
  | str s => some s
  | _ => none

/-- Whether a value is null. -/
def isNull : Value → Bool
  | null => true
  | _ => false

/-- The name of the family of values that a value belongs to. -/
def typeName : Value → String
  | null => "null"
  | unit => "()"
  | bool _ => "bool"
  | char _ => "char"
  | int t _ => t.name
  | float t _ => t.name
  | str _ => "str"
  | bytes _ => "bytes"
  | list _ => "list"

/-- Whether two numbers, written as values of any width, denote the same number. -/
def sameNumber (a b : Number) : Bool := a.compare? b = some .eq

mutual

/-- Whether two values are equal: numbers by what they denote, lists item by item, and all
other values only within their own kind. -/
def same : Value → Value → Bool
  | null, null => true
  | unit, unit => true
  | bool a, bool b => a = b
  | char a, char b => a = b
  | str a, str b => a = b
  | bytes a, bytes b => a = b
  | list as, list bs => sameItems as bs
  | int _ a, int _ b => sameNumber (.int a) (.int b)
  | int _ a, float _ b => sameNumber (.int a) (.float b)
  | float _ a, int _ b => sameNumber (.float a) (.int b)
  | float _ a, float _ b => sameNumber (.float a) (.float b)
  | _, _ => false

/-- Whether two lists have equal values in every place. -/
def sameItems : List Value → List Value → Bool
  | [], [] => true
  | a :: as, b :: bs => same a b && sameItems as bs
  | _, _ => false

end

/-- The order of two lists by their first difference, a list before its extensions. -/
def compareLists {α : Type} (cmp : α → α → Ordering) : List α → List α → Ordering
  | [], [] => .eq
  | [], _ :: _ => .lt
  | _ :: _, [] => .gt
  | a :: as, b :: bs => (cmp a b).then (compareLists cmp as bs)

/-- The order of two characters by code point. -/
def compareChars (a b : Char) : Ordering := compare a.toNat b.toNat

/-- The order of two strings, character by character. This is also the order of their
UTF-8 bytes. -/
def compareStrings (a b : String) : Ordering := compareLists compareChars a.toList b.toList

/-- The order of two values, if there is one between their kinds. -/
def compare? : Value → Value → Option Ordering
  | bool a, bool b => some (compare a.toNat b.toNat)
  | char a, char b => some (compareChars a b)
  | str a, str b => some (compareStrings a b)
  | bytes a, bytes b => some (compareLists (fun x y => compare x.toNat y.toNat) a b)
  | a, b =>
    match a.number?, b.number? with
    | some m, some n => m.compare? n
    | _, _ => none

/-- Whether one value is ordered at or before another. -/
def atMost (a b : Value) : Bool :=
  match a.compare? b with
  | some .lt | some .eq => true
  | _ => false

end Value

end Understudy

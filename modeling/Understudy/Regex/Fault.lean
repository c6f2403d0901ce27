/-!
# What is wrong with a pattern

A pattern that has no meaning is refused with a reason. Either a `PatternFault` lies in
certain characters of the pattern, or the pattern is well formed and its program
would be too large. `PatternError.report` is the text of the reason; for a fault it
shows the pattern with the characters to blame underlined.

A pattern of several lines is shown between two dividers, its lines numbered.
Blame that runs over the end of a line is not underlined but described below.
-/

namespace Understudy.Regex

/-- What can be wrong with a pattern. -/
inductive PatternFault where
  | groupUnclosed
  | groupUnopened
  | groupNameEmpty
  | groupNameInvalid
  | groupNameUnclosed
  | groupNameDuplicate
  | lookAround
  | flagUnrecognized
  | flagDuplicate
  | flagRepeatedNegation
  | flagDanglingNegation
  | flagUnfinished
  | classUnclosed
  | classEscapeInvalid
  | classRangeInvalid
  | classRangeNotLiteral
  | repetitionMissing
  | countEmpty
  | countTooLarge
  | countUnclosed
  | countInvalid
  | escapeUnfinished
  | escapeUnrecognized
  | backreference
  | hexEmpty
  | hexInvalid
  | hexInvalidDigit
  | wordAssertionUnclosed
  | wordAssertionUnrecognized
  | wordAssertionUnfinished
  | nestedTooDeep
  | unicodeNotAllowed
  | invalidUtf8
deriving DecidableEq, Repr

/-- The wording of a fault. -/
def PatternFault.message : PatternFault → String
  | groupUnclosed => "unclosed group"
  | groupUnopened => "unopened group"
  | groupNameEmpty => "empty capture group name"
  | groupNameInvalid => "invalid capture group character"
  | groupNameUnclosed => "unclosed capture group name"
  | groupNameDuplicate => "duplicate capture group name"
  | lookAround => "look-around, including look-ahead and look-behind, is not supported"
  | flagUnrecognized => "unrecognized flag"
  | flagDuplicate => "duplicate flag"
  | flagRepeatedNegation => "flag negation operator repeated"
  | flagDanglingNegation => "dangling flag negation operator"
  | flagUnfinished => "expected flag but got end of regex"
  | classUnclosed => "unclosed character class"
  | classEscapeInvalid => "invalid escape sequence found in character class"
  | classRangeInvalid => "invalid character class range, the start must be <= the end"
  | classRangeNotLiteral => "invalid range boundary, must be a literal"
  | repetitionMissing => "repetition operator missing expression"
  | countEmpty => "repetition quantifier expects a valid decimal"
  | countTooLarge => "decimal literal invalid"
  | countUnclosed => "unclosed counted repetition"
  | countInvalid => "invalid repetition count range, the start must be <= the end"
  | escapeUnfinished => "incomplete escape sequence, reached end of pattern prematurely"
  | escapeUnrecognized => "unrecognized escape sequence"
  | backreference => "backreferences are not supported"
  | hexEmpty => "hexadecimal literal empty"
  | hexInvalid => "hexadecimal literal is not a Unicode scalar value"
  | hexInvalidDigit => "invalid hexadecimal digit"
  | wordAssertionUnclosed =>
    "special word boundary assertion is either unclosed or contains an invalid character"
  | wordAssertionUnrecognized =>
    "unrecognized special word boundary assertion, valid choices are: start, end, start-half or end-half"
  | wordAssertionUnfinished =>
    "found either the beginning of a special word boundary or a bounded repetition on a \\b with an opening brace, but no closing brace"
  | nestedTooDeep => "exceed the maximum number of nested parentheses/brackets (250)"
  | unicodeNotAllowed => "Unicode not allowed here"
  | invalidUtf8 => "pattern can match invalid UTF-8"

/-- The characters of a pattern from `start` up to `stop`. -/
structure Span where
  start : Nat
  stop : Nat
deriving DecidableEq, Repr

/-- Why a pattern has no meaning. -/
inductive PatternError where
  /-- A fault in the characters of a span; `other` is an earlier place it is at odds with. -/
  | faulty (fault : PatternFault) (span : Span) (other : Option Span := none)
  /-- The program of the pattern would be too large. -/
  | tooLarge
deriving DecidableEq, Repr

/-! ## Reports -/

/-- The lines of a text. A line feed ends a line, and a carriage return before it belongs to that
end. There is no line after the last end. -/
def linesOf : List Char → List (List Char)
  | [] => []
  | '\n' :: cs => [] :: linesOf cs
  | '\r' :: '\n' :: cs => [] :: linesOf cs
  | c :: cs =>
    match linesOf cs with
    | [] => [[c]]
    | line :: lines => (c :: line) :: lines

/-- A place in a text by line and column, both counted from zero. -/
structure LineColumn where
  line : Nat
  column : Nat
deriving DecidableEq, Repr

/-- Where the character at an index stands. -/
def LineColumn.ofIndex (text : List Char) (index : Nat) : LineColumn :=
  let before := text.take index
  ⟨before.count '\n', (before.reverse.takeWhile (· != '\n')).length⟩

/-- Carets under the columns of some spans, which are in ascending order. Every span has at least
one caret. `column` is where the next character goes. -/
def carets (column : Nat) : List Span → List Char
  | [] => []
  | s :: rest =>
    let blanks := s.start - column
    let width := max 1 (s.stop - s.start)
    List.replicate blanks ' ' ++ (List.replicate width '^'
      ++ carets (column + blanks + width) rest)

/-- What stands in front of a line: its number if lines are numbered, up to `last`. -/
def lineLabel (last : Option Nat) (number : Nat) : String :=
  match last with
  | none => "    "
  | some last =>
    let digits := toString number
    let blanks := (toString last).length - digits.length
    String.ofList (List.replicate blanks ' ') ++ digits ++ ": "

/-- A line of a pattern, and the carets below it. -/
def markedLine (label : String) (line : List Char) (marks : List Span) : List String :=
  let shown := label ++ String.ofList line
  if marks.isEmpty then [shown]
  else [shown, String.ofList (List.replicate label.length ' ' ++ carets 0 marks)]

/-- The report of a fault in a pattern, `spans` being to blame in ascending order. -/
def faultReport (pattern : List Char) (fault : PatternFault) (spans : List Span) : String :=
  let isLong := pattern.contains '\n'
  let lines := linesOf pattern
  let last := lines.length + if pattern.getLast? = some '\n' then 1 else 0
  let places := spans.map fun s =>
    (LineColumn.ofIndex pattern s.start, LineColumn.ofIndex pattern s.stop)
  let marksOn (line : Nat) : List Span := places.filterMap fun (a, b) =>
    if a.line = line ∧ b.line = line then some ⟨a.column, b.column⟩ else none
  let shown := lines.zipIdx.flatMap fun (line, i) =>
    markedLine (lineLabel (if isLong then some last else none) (i + 1)) line (marksOn i)
  let notes := places.filterMap fun (a, b) =>
    if a.line = b.line then none
    else some ("on line " ++ toString (a.line + 1) ++ " (column " ++ toString (a.column + 1)
      ++ ") through line " ++ toString (b.line + 1) ++ " (column " ++ toString b.column ++ ")")
  let divider := if isLong then [String.ofList (List.replicate 79 '~')] else []
  "\n".intercalate (["regex parse error:"] ++ divider ++ shown ++ divider ++ notes
    ++ ["error: " ++ fault.message])

/-- The report of an error in a pattern. -/
def PatternError.report (e : PatternError) (pattern : String) : String :=
  match e with
  | faulty fault span none => faultReport pattern.toList fault [span]
  | faulty fault span (some other) =>
    let spans := if other.start < span.start then [other, span] else [span, other]
    faultReport pattern.toList fault spans
  | tooLarge => "Compiled regex exceeds size limit of 10485760 bytes."

end Understudy.Regex

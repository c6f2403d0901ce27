import Understudy.Regex.Tree

/-!
# Reading patterns

A pattern is read from left to right in one pass, which gives its tree. The reader
stops at the first fault and names the characters that are to blame. A group or a
class that is never closed is blamed at its opening, the innermost one if several are
open.

What is open at a place is kept in lists, the innermost first: `OpenGroup` for
groups and `OpenClass` for classes. The readers take a bound on the number of their
steps. Every step consumes at least one character, so the number of characters left
is always enough.
-/

namespace Understudy.Regex

/-- A place in a pattern: how many characters stand before it, those that follow, whether
blanks and comments are passed over there, and the names that groups before it have. -/
structure Place where
  pos : Nat
  rest : List Char
  verbose : Bool := false
  names : List (String × Span) := []

/-- What follows blanks and comments. A comment runs from a number sign to the end of the line. -/
def afterBlanks (inComment : Bool) : List Char → List Char
  | [] => []
  | c :: cs =>
    if inComment then afterBlanks (c != '\n') cs
    else if Text.isSpace c then afterBlanks false cs
    else if c = '#' then afterBlanks true cs
    else c :: cs

namespace Place

/-- The place after the next character. -/
def next (p : Place) : Place := { p with pos := p.pos + 1, rest := p.rest.tail }

/-- The place after blanks and comments, if they are passed over. -/
def skipBlanks (p : Place) : Place :=
  if p.verbose then
    let rest := afterBlanks false p.rest
    { p with pos := p.pos + (p.rest.length - rest.length), rest }
  else p

/-- The place after the next character, and after blanks if they are passed over. -/
def step (p : Place) : Place := p.next.skipBlanks

/-- The span from `start` to this place. -/
def since (p : Place) (start : Nat) : Span := ⟨start, p.pos⟩

/-- The span of the next character. -/
def here (p : Place) : Span := ⟨p.pos, p.pos + 1⟩

/-- A fault whose blame runs from `start` to this place. -/
def blame {α : Type} (p : Place) (start : Nat) (fault : PatternFault) : Except PatternError α :=
  .error (.faulty fault (p.since start))

/-- A fault at the next character. -/
def blameHere {α : Type} (p : Place) (fault : PatternFault) : Except PatternError α :=
  .error (.faulty fault p.here)

/-- The place after a text, if that text comes next. -/
def skip? (p : Place) (text : String) : Option Place :=
  if text.toList.isPrefixOf p.rest then
    some { p with pos := p.pos + text.length, rest := p.rest.drop text.length }
  else none

/-- The place after the characters that come next and satisfy a condition. -/
def skipWhile (p : Place) (ok : Char → Bool) : Place :=
  { p with pos := p.pos + (p.rest.takeWhile ok).length, rest := p.rest.dropWhile ok }

/-- At most `fuel` characters that come next and satisfy a condition, blanks between them being
passed over where they do not count. -/
def collectWithin (ok : Char → Bool) : Nat → List Char → Place → List Char × Place
  | 0, taken, p => (taken.reverse, p)
  | fuel + 1, taken, p =>
    match p.rest with
    | [] => (taken.reverse, p)
    | c :: _ => if ok c then collectWithin ok fuel (c :: taken) p.step else (taken.reverse, p)

/-- The characters that come next and satisfy a condition, and the place after them. -/
def collect (p : Place) (ok : Char → Bool) : List Char × Place :=
  collectWithin ok p.rest.length [] p

end Place

/-! ## Escapes -/

/-- What an escape or a plain character stands for. -/
inductive Atom where
  | literal (code : Nat) (isByte : Bool)
  | set (negated : Bool) (s : CharSet)
  | assertion (a : Assertion)

/-- A character that stands for itself. -/
def Atom.char (c : Char) : Atom := .literal c.toNat false

/-- An assertion about words, which are made of all word characters unless flags say otherwise. -/
def Atom.word (a : WordAssertion) : Atom := .assertion (.word a Text.wordRanges)

/-- The value of a hexadecimal digit. -/
def hexDigit? (c : Char) : Option Nat :=
  if c.isDigit then some (c.toNat - '0'.toNat)
  else if 'a' ≤ c ∧ c ≤ 'f' then some (c.toNat - 'a'.toNat + 10)
  else if 'A' ≤ c ∧ c ≤ 'F' then some (c.toNat - 'A'.toNat + 10)
  else none

/-- Whether a character is a hexadecimal digit. -/
def isHexDigit (c : Char) : Bool := (hexDigit? c).isSome

/-- The code point that hexadecimal digits denote, `span` being to blame if there is none. -/
def codePoint (digits : List Char) (isByte : Bool) (span : Span) : Except PatternError Atom :=
  let n := digits.foldl (fun n c => 16 * n + (hexDigit? c).getD 0) 0
  if Nat.isValidChar n then .ok (.literal n isByte) else .error (.faulty .hexInvalid span)

/-- Reads `count` hexadecimal digits, those read before being `taken`, the latest first. Two
digits denote a byte. -/
def readHexDigits (start : Nat) : Nat → List Char → Place → Except PatternError (Atom × Place)
  | 0, taken, p => return (← codePoint taken.reverse (taken.length = 2) (p.since start), p)
  | count + 1, taken, p =>
    match p.rest with
    | [] => p.blame p.pos .escapeUnfinished
    | c :: _ =>
      if isHexDigit c then readHexDigits start count (c :: taken) p.step
      else p.blameHere .hexInvalidDigit

/-- Reads the hexadecimal part of an escape: digits in braces, or exactly `count` digits. -/
def readHex (count : Nat) (p : Place) : Except PatternError (Atom × Place) :=
  match p.rest with
  | '{' :: _ =>
    let (digits, after) := p.step.collect isHexDigit
    match after.rest with
    | [] => after.blame p.pos .escapeUnfinished
    | '}' :: _ =>
      let q := after.step
      if digits.isEmpty then q.blame p.pos .hexEmpty
      else return (← codePoint digits false (after.since (p.pos + 1)), q)
    | _ => after.blameHere .hexInvalidDigit
  | _ => readHexDigits p.pos count [] p

/-- The assertions about words that are written by name. -/
def wordAssertion? : String → Option WordAssertion
  | "start" => some .start
  | "end" => some .stop
  | "start-half" => some .startHalf
  | "end-half" => some .stopHalf
  | _ => none

/-- Reads the name in braces that may follow the escape of a word boundary, which begins at
`start`. Braces that cannot hold a name are left for a repetition. -/
def readWordAssertion (start : Nat) (p : Place) : Except PatternError (Atom × Place) :=
  match p.rest with
  | '{' :: _ =>
    let isNameChar (c : Char) : Bool := c.isAlpha || c = '-'
    let inside := p.step
    if inside.rest.isEmpty then inside.blame start .wordAssertionUnfinished
    else
      let (name, after) := inside.collect isNameChar
      if name.isEmpty then .ok (.word .boundary, p)
      else match after.rest with
        | '}' :: _ =>
          match wordAssertion? (String.ofList name) with
          | some a => .ok (.word a, after.next)
          | none => after.blame inside.pos .wordAssertionUnrecognized
        | _ => after.blame p.pos .wordAssertionUnclosed
  | _ => .ok (.word .boundary, p)

/-- Whether a character may be escaped to stand for itself: in ASCII, all but letters, digits
and the two signs kept for word boundaries. -/
def isEscapable (c : Char) : Bool :=
  c.toNat < 0x80 && !c.isAlphanum && c != '<' && c != '>'

/-- Reads an escape; the place is the one of its backslash. -/
def readEscape (p : Place) : Except PatternError (Atom × Place) :=
  let escaped := p.next
  match escaped.rest with
  | [] => escaped.blame p.pos .escapeUnfinished
  | c :: _ =>
    let q := escaped.next
    let hex (count : Nat) : Except PatternError (Atom × Place) :=
      let digits := escaped.step
      if digits.rest.isEmpty then digits.blame digits.pos .escapeUnfinished
      else readHex count digits
    if c.isDigit then q.blame p.pos .backreference
    else match c with
    | 'x' => hex 2
    | 'u' => hex 4
    | 'U' => hex 8
    | 'd' => .ok (.set false Text.digitRanges, q)
    | 'D' => .ok (.set true Text.digitRanges, q)
    | 's' => .ok (.set false Text.spaceRanges, q)
    | 'S' => .ok (.set true Text.spaceRanges, q)
    | 'w' => .ok (.set false Text.wordRanges, q)
    | 'W' => .ok (.set true Text.wordRanges, q)
    | 'a' => .ok (.char '\x07', q)
    | 'f' => .ok (.char '\x0c', q)
    | 't' => .ok (.char '\t', q)
    | 'n' => .ok (.char '\n', q)
    | 'r' => .ok (.char '\r', q)
    | 'v' => .ok (.char '\x0b', q)
    | 'A' => .ok (.assertion .textStart, q)
    | 'z' => .ok (.assertion .textEnd, q)
    | 'b' => readWordAssertion p.pos q
    | 'B' => .ok (.word .noBoundary, q)
    | '<' => .ok (.word .start, q)
    | '>' => .ok (.word .stop, q)
    | c => if isEscapable c then .ok (.char c, q) else q.blame p.pos .escapeUnrecognized

/-! ## Classes -/

/-- The sets that have a name inside classes. -/
def namedSet? (name : String) : Option CharSet :=
  match name with
  | "alnum" => some [(0x30, 0x39), (0x41, 0x5a), (0x61, 0x7a)]
  | "alpha" => some [(0x41, 0x5a), (0x61, 0x7a)]
  | "ascii" => some [(0x0, 0x7f)]
  | "blank" => some [(0x9, 0x9), (0x20, 0x20)]
  | "cntrl" => some [(0x0, 0x1f), (0x7f, 0x7f)]
  | "digit" => some [(0x30, 0x39)]
  | "graph" => some [(0x21, 0x7e)]
  | "lower" => some [(0x61, 0x7a)]
  | "print" => some [(0x20, 0x7e)]
  | "punct" => some [(0x21, 0x2f), (0x3a, 0x40), (0x5b, 0x60), (0x7b, 0x7e)]
  | "space" => some [(0x9, 0xd), (0x20, 0x20)]
  | "upper" => some [(0x41, 0x5a)]
  | "word" => some [(0x30, 0x39), (0x41, 0x5a), (0x5f, 0x5f), (0x61, 0x7a)]
  | "xdigit" => some [(0x30, 0x39), (0x41, 0x46), (0x61, 0x66)]
  | _ => none

/-- A named set such as `[:alpha:]` or `[:^alpha:]`, if one comes next. -/
def namedSetAt? (p : Place) : Option (ClassTree × Place) := do
  let q ← p.skip? "[:"
  let (negated, q) := match q.skip? "^" with
    | some q => (true, q)
    | none => (false, q)
  let after := q.skipWhile Char.isAlpha
  let set ← namedSet? (String.ofList (q.rest.take (after.pos - q.pos)))
  let after ← after.skip? ":]"
  some (.named (after.since p.pos) negated set, after)

/-- A class that is not closed yet. -/
structure OpenClass where
  /-- The opening bracket with the signs that belong to it. -/
  opening : Span
  negated : Bool
  /-- What stands left of the latest operator, and that operator. -/
  left : Option (SetOp × ClassTree) := none
  /-- Where the operand being read begins. -/
  start : Nat
  /-- The items of that operand, the latest first. -/
  items : List ClassTree := []

namespace OpenClass

/-- The class with one more item. -/
def push (c : OpenClass) (item : ClassTree) : OpenClass := { c with items := item :: c.items }

/-- The operand that was read last. -/
def operand (c : OpenClass) : ClassTree :=
  match c.items.reverse with
  | [] => .empty ⟨c.start, c.start⟩
  | [item] => item
  | first :: more =>
    let stop := (c.items.head?.map (·.span.stop)).getD c.start
    .union ⟨first.span.start, stop⟩ (first :: more)

/-- All that was read of the class. Operators bind to the left. -/
def body (c : OpenClass) : ClassTree :=
  let right := c.operand
  match c.left with
  | none => right
  | some (op, left) => .combined ⟨left.span.start, right.span.stop⟩ op left right

/-- The class after an operator; what stood left of it is complete. -/
def operator (c : OpenClass) (op : SetOp) (p : Place) : OpenClass :=
  { c with left := some (op, c.body), start := p.pos, items := [] }

/-- The class as a tree, closed by a bracket in front of a place. -/
def close (c : OpenClass) (p : Place) : Span × ClassTree := (p.since c.opening.start, c.body)

/-- The fault of a class that is never closed. -/
def unclosed (c : OpenClass) : PatternError := .faulty .classUnclosed c.opening

end OpenClass

/-- Reads the hyphens at the start of a class, which stand for themselves. The class began at
`start`. -/
def readHyphens (start : Nat) :
    Nat → List ClassTree → Place → Except PatternError (List ClassTree × Place)
  | 0, items, p => .ok (items, p)
  | fuel + 1, items, p =>
    match p.rest with
    | '-' :: _ =>
      let q := p.step
      if q.rest.isEmpty then .error (.faulty .classUnclosed ⟨start, start⟩)
      else readHyphens start fuel (.literal ⟨p.here, '-'.toNat, false⟩ :: items) q
    | _ => .ok (items, p)

/-- Reads the opening of a class: its bracket, the sign that negates it, and the hyphens or the
closing bracket that stand for themselves there. -/
def readClassOpening (p : Place) : Except PatternError (OpenClass × Place) := do
  let q := p.step
  if q.rest.isEmpty then q.blame p.pos .classUnclosed
  let (negated, q) := match q.rest with
    | '^' :: _ => (true, q.step)
    | _ => (false, q)
  if q.rest.isEmpty then q.blame p.pos .classUnclosed
  let start := q.pos
  let (items, q) ← readHyphens p.pos q.rest.length [] q
  match items, q.rest with
  | [], ']' :: _ =>
    let r := q.step
    if r.rest.isEmpty then r.blame p.pos .classUnclosed
    else
      let bracket : ClassTree := .literal ⟨q.here, ']'.toNat, false⟩
      return ({ opening := r.since p.pos, negated, start, items := [bracket] }, r)
  | _, _ => return ({ opening := q.since p.pos, negated, start, items }, q)

/-- Reads a character or an escape inside a class. -/
def readClassAtom (p : Place) : Except PatternError (Atom × Place) :=
  match p.rest with
  | '\\' :: _ => readEscape p
  | c :: _ => .ok (.char c, p.next)
  | [] => p.blame p.pos .classUnclosed

/-- An atom as an item of a class. An assertion is none. -/
def classItem (a : Atom) (span : Span) : Except PatternError ClassTree :=
  match a with
  | .literal n isByte => .ok (.literal ⟨span, n, isByte⟩)
  | .set negated s => .ok (.set span negated s)
  | .assertion _ => .error (.faulty .classEscapeInvalid span)

/-- An atom as the end of a range. -/
def rangeEnd (a : Atom) (span : Span) : Except PatternError Literal :=
  match a with
  | .literal n isByte => .ok ⟨span, n, isByte⟩
  | _ => .error (.faulty .classRangeNotLiteral span)

/-- Reads an item of a class: a range, or an atom alone. -/
def readClassItem (c : OpenClass) (p : Place) : Except PatternError (ClassTree × Place) := do
  let (first, q) ← readClassAtom p
  let firstSpan := q.since p.pos
  let q := q.skipBlanks
  match q.rest with
  | [] => .error c.unclosed
  | '-' :: _ =>
    let r := q.step
    match r.rest with
    | [] => .error c.unclosed
    -- In front of a closing bracket a hyphen is an item, and two of them are an operator.
    | ']' :: _ | '-' :: _ => return (← classItem first firstSpan, q)
    | _ =>
      let (second, after) ← readClassAtom r
      let low ← rangeEnd first firstSpan
      let high ← rangeEnd second (after.since r.pos)
      if low.code ≤ high.code then return (.range low high, after)
      else after.blame p.pos .classRangeInvalid
  | _ => return (← classItem first firstSpan, q)

/-- Reads a class from inside its opening on; `outer` holds the classes around it. -/
def readClass : Nat → OpenClass → List OpenClass → Place → Except PatternError (Tree × Place)
  | 0, c, _, _ => .error c.unclosed
  | fuel + 1, c, outer, p =>
    let p := p.skipBlanks
    let operator (op : SetOp) :=
      let q := p.next.next
      readClass fuel (c.operator op q) outer q
    match p.rest with
    | [] => .error c.unclosed
    | ']' :: _ =>
      let q := p.next
      let (span, body) := c.close q
      match outer with
      | [] => .ok (.bracketed span c.negated body, q)
      | o :: outer => readClass fuel (o.push (.bracketed span c.negated body)) outer q
    | '[' :: _ =>
      match namedSetAt? p with
      | some (item, q) => readClass fuel (c.push item) outer q
      | none => do
        let (inner, q) ← readClassOpening p
        readClass fuel inner (c :: outer) q
    | '&' :: '&' :: _ => operator .inter
    | '-' :: '-' :: _ => operator .diff
    | '~' :: '~' :: _ => operator .symmDiff
    | _ => do
      let (item, q) ← readClassItem c p
      readClass fuel (c.push item) outer q

/-! ## Repetitions -/

/-- Reads a repetition count. -/
def readCount (p : Place) : Except PatternError Nat × Place :=
  let p := p.skipWhile Text.isSpace
  let (digits, after) := p.collect Char.isDigit
  let n := digits.foldl (fun n c => 10 * n + (c.toNat - '0'.toNat)) 0
  let q := (after.skipWhile Text.isSpace).skipBlanks
  if digits.isEmpty then (after.blame p.pos .countEmpty, q)
  else if n < 4294967296 then (.ok n, q) else (after.blame p.pos .countTooLarge, q)

/-- The place after a question mark, if one comes next: it marks a repetition as not greedy. -/
def skipLazy (p : Place) : Place := (p.skip? "?").getD p

/-- Reads the bounds of a repetition in braces; the place is the one of the opening brace. -/
def readBounds (p : Place) : Except PatternError ((Nat × Option Nat) × Place) := do
  let start := p.pos
  let p := p.step
  if p.rest.isEmpty then p.blame start .countUnclosed
  else
    let (least, q) := readCount p
    let (bounds, q) ← match q.rest with
      | [] => q.blame start .countUnclosed
      | ',' :: _ =>
        let q := q.step
        match q.rest with
        | [] => q.blame start .countUnclosed
        | '}' :: _ => do
          let least ← least
          .ok ((least, none), q)
        | _ => do
          let least ← least
          let (most, q) := readCount q
          let most ← most
          .ok ((least, some most), q)
      | _ => do
        let n ← least
        .ok ((n, some n), q)
    match q.rest with
    | '}' :: _ =>
      let r := skipLazy q.step
      if bounds.2.all (bounds.1 ≤ ·) then .ok (bounds, r) else r.blame start .countInvalid
    | _ => q.blame start .countUnclosed

/-! ## Groups -/

/-- The flag that a letter stands for. -/
def flag? : Char → Option Flag
  | 'i' => some .caseless
  | 'm' => some .lines
  | 's' => some .dotAll
  | 'R' => some .anyLineEnd
  | 'x' => some .verbose
  | 'U' => some .lazily
  | 'u' => some .unicode
  | _ => none

/-- Reads the letters of flags, and the sign that negates those after it, up to the colon or
parenthesis that ends them. `seen` holds those read before with their places, the latest
first. -/
def readFlagLetters (seen : List (Char × Nat)) :
    List Char → Nat → Except PatternError (List Char × Nat)
  | [], pos => .error (.faulty .flagUnfinished ⟨pos, pos⟩)
  | c :: cs, pos =>
    let span : Span := ⟨pos, pos + 1⟩
    if c = ':' ∨ c = ')' then
      match seen with
      | ('-', i) :: _ => .error (.faulty .flagDanglingNegation ⟨i, i + 1⟩)
      | _ => .ok (seen.reverse.map (·.1), pos)
    else if c ≠ '-' ∧ (flag? c).isNone then .error (.faulty .flagUnrecognized span)
    else match seen.lookup c with
      | some i =>
        let fault := if c = '-' then .flagRepeatedNegation else .flagDuplicate
        .error (.faulty fault span (some ⟨i, i + 1⟩))
      | none => readFlagLetters ((c, pos) :: seen) cs (pos + 1)

/-- The changes that letters of flags ask for. -/
def flagChanges (on : Bool) : List Char → FlagChanges
  | [] => []
  | c :: cs =>
    match flag? c with
    | some flag => (flag, on) :: flagChanges on cs
    | none => flagChanges false cs

/-- Whether blanks are passed over after some changes of flags. -/
def verboseAfter (before : Bool) (changes : FlagChanges) : Bool :=
  (changes.lookup .verbose).getD before

/-- Whether a character may stand in the name of a group. Letters are the word characters that
are no digits. -/
def isGroupNameChar (isFirst : Bool) (c : Char) : Bool :=
  if isFirst then c = '_' || Text.isWord c && !Text.isDigit c
  else Text.isWord c || c = '.' || c = '[' || c = ']'

/-- Reads the name of a group after its opening angle bracket. -/
def readGroupName (p : Place) : Except PatternError Place :=
  let start := p.pos
  let name := match p.rest with
    | [] => []
    | c :: cs => if isGroupNameChar true c then c :: cs.takeWhile (isGroupNameChar false) else []
  let after : Place := { p with pos := start + name.length, rest := p.rest.drop name.length }
  match after.rest with
  | [] => after.blame after.pos .groupNameUnclosed
  | '>' :: _ =>
    let span := after.since start
    let name := String.ofList name
    if name.isEmpty then .error (.faulty .groupNameEmpty span)
    else match p.names.lookup name with
      | some other => .error (.faulty .groupNameDuplicate span (some other))
      | none => .ok { after.next with names := (name, span) :: p.names }
  | _ => after.blameHere .groupNameInvalid

/-- What the opening of a group turns out to be. -/
inductive Opening where
  | group (captures : Bool) (changes : FlagChanges)
  /-- Flags for the rest of the enclosing group. -/
  | setting (changes : FlagChanges)

/-- Reads from an opening parenthesis up to the body of the group. -/
def readOpening (p : Place) : Except PatternError (Opening × Place) := do
  let start := p.pos
  let p := p.step
  let looks := ["?=", "?!", "?<=", "?<!"].findSome? p.skip?
  match looks, (p.skip? "?P<").or (p.skip? "?<"), p.skip? "?" with
  | some q, _, _ => q.blame start .lookAround
  | none, some q, _ => return (.group true [], ← readGroupName q)
  | none, none, some q =>
    if q.rest.isEmpty then .error (.faulty .groupUnclosed ⟨start, start + 1⟩)
    else
      let (letters, pos) ← readFlagLetters [] q.rest q.pos
      let r : Place := { q with pos, rest := q.rest.drop letters.length }
      let changes := flagChanges true letters
      match r.rest with
      | ')' :: _ =>
        if letters.isEmpty then p.blame p.pos .repetitionMissing
        else return (.setting changes, r.next)
      | _ => return (.group false changes, r.next)
  | none, none, none => return (.group true [], p)

/-- What was read of a group so far. -/
structure Body where
  /-- Where the first alternative begins. -/
  start : Nat
  /-- The alternatives that are complete, the latest first. -/
  complete : List Tree := []
  /-- Where the current alternative begins. -/
  current : Nat
  /-- Its items, the latest first. -/
  items : List Tree := []

namespace Body

/-- Nothing read yet. -/
def startingAt (pos : Nat) : Body := { start := pos, current := pos }

/-- The body with one more item. -/
def push (b : Body) (t : Tree) : Body := { b with items := t :: b.items }

/-- The current alternative, which ends at a place. -/
def alternative (b : Body) (p : Place) : Tree := .ofItems (p.since b.current) b.items.reverse

/-- The body after a bar. -/
def bar (b : Body) (p : Place) : Body :=
  { b with complete := b.alternative p :: b.complete, current := p.pos + 1, items := [] }

/-- The whole body, which ends at a place. -/
def tree (b : Body) (p : Place) : Tree :=
  match b.complete with
  | [] => b.alternative p
  | ts => .alternatives (p.since b.start) (b.alternative p :: ts).reverse

end Body

/-- A group that is not closed yet, with what was read around it before. -/
structure OpenGroup where
  start : Nat
  captures : Bool
  changes : FlagChanges
  around : Body
  verbose : Bool

/-- An item that is no bracketed class and no group. -/
def Tree.ofAtom (span : Span) : Atom → Tree
  | .literal n isByte => .literal ⟨span, n, isByte⟩
  | .set negated s => .set span negated s
  | .assertion a => .assertion span a

/-- Repeats the last item of a body, the operator ending at `q`. -/
def Body.repeatLast (b : Body) (p : Place)
    (bounds : Except PatternError ((Nat × Option Nat) × Place)) :
    Except PatternError (Body × Place) :=
  match b.items with
  -- A setting of flags is no expression that could be repeated.
  | [] | .setting .. :: _ => p.blame p.pos .repetitionMissing
  | t :: items => do
    let ((least, most), q) ← bounds
    return ({ b with items := .repeated (q.since t.span.start) t least most :: items }, q)

/-- Reads the body of a group, or the whole pattern; `outer` holds the groups around it. -/
def readBody : Nat → Body → List OpenGroup → Place → Except PatternError Tree
  | 0, b, _, p => .ok (b.tree p)
  | fuel + 1, b, outer, p =>
    let p := p.skipBlanks
    let push (t : Tree) (q : Place) := readBody fuel (b.push t) outer q
    let repeated (bounds : Except PatternError ((Nat × Option Nat) × Place)) := do
      let (b, q) ← b.repeatLast p bounds
      readBody fuel b outer q
    match p.rest with
    | [] =>
      match outer with
      | [] => .ok (b.tree p)
      | g :: _ => .error (.faulty .groupUnclosed ⟨g.start, g.start + 1⟩)
    | '(' :: _ => do
      let (opening, q) ← readOpening p
      match opening with
      | .setting changes =>
        readBody fuel (b.push (.setting (q.since p.pos) changes)) outer
          { q with verbose := verboseAfter p.verbose changes }
      | .group captures changes =>
        readBody fuel (.startingAt q.pos) (⟨p.pos, captures, changes, b, p.verbose⟩ :: outer)
          { q with verbose := verboseAfter p.verbose changes }
    | ')' :: _ =>
      match outer with
      | [] => p.blameHere .groupUnopened
      | g :: outer =>
        let q := p.next
        let t : Tree := .group (q.since g.start) g.captures g.changes (b.tree p)
        readBody fuel (g.around.push t) outer { q with verbose := g.verbose }
    | '|' :: _ => readBody fuel (b.bar p) outer p.next
    | '[' :: _ => do
      let (c, q) ← readClassOpening p
      let (t, r) ← readClass (q.rest.length + 1) c [] q
      push t r
    | '*' :: _ => repeated (.ok ((0, none), skipLazy p.next))
    | '+' :: _ => repeated (.ok ((1, none), skipLazy p.next))
    | '?' :: _ => repeated (.ok ((0, some 1), skipLazy p.next))
    | '{' :: _ => repeated (readBounds p)
    | '.' :: _ => push (.dot p.here) p.next
    | '^' :: _ => push (.assertion p.here .lineStart) p.next
    | '$' :: _ => push (.assertion p.here .lineEnd) p.next
    | '\\' :: _ => do
      let (a, q) ← readEscape p
      push (.ofAtom (q.since p.pos) a) q
    | c :: _ => push (.literal ⟨p.here, c.toNat, false⟩) p.next

/-- The tree of a pattern. -/
def Tree.read (pattern : String) : Except PatternError Tree := do
  let t ← readBody (pattern.length + 1) (.startingAt 0) [] ⟨0, pattern.toList, false, []⟩
  t.checkLevels
  return t

end Understudy.Regex

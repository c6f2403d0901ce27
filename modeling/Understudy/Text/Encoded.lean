import Understudy.Text.Ranges

/-!
# Ranges of code points as runs of bytes

In UTF-8 a code point takes one to four bytes, and neighbouring code points often
share all bytes but the last. A range of code points can therefore be cut into
pieces each of which is a run of byte ranges: a piece holds exactly the code points
whose first byte lies in the first range, whose second byte lies in the second, and
so on. `byteRuns` gives those runs in ascending order.
-/

namespace Understudy.Text

/-- An inclusive range of byte values. -/
abbrev ByteRange := Nat × Nat

/-- How many bytes a code point takes. -/
def encodedLength (n : Nat) : Nat :=
  if n ≤ 0x7f then 1 else if n ≤ 0x7ff then 2 else if n ≤ 0xffff then 3 else 4

/-- The bytes of a code point. -/
def encodedBytes (n : Nat) : List Nat :=
  let continuation (k : Nat) : Nat := 0x80 + n / Nat.pow 64 k % 64
  match encodedLength n with
  | 1 => [n]
  | 2 => [0xc0 + n / 64, continuation 0]
  | 3 => [0xe0 + n / 4096, continuation 1, continuation 0]
  | _ => [0xf0 + n / 262144, continuation 2, continuation 1, continuation 0]

/-- Where a range is cut in two so that both parts are encoded in as many bytes, the last code
point of the first part; none if it need not be. -/
def lengthCut? (low high : Nat) : Option Nat :=
  [0x7f, 0x7ff, 0xffff].find? fun last => low ≤ last && last < high

/-- Where a range of code points of one length is cut in two so that the bytes after the first
one that differs take all values; none if they do. -/
def blockCut? (low high : Nat) : Option Nat :=
  [64, 4096, 262144].findSome? fun block =>
    if low / block = high / block then none
    else if low % block ≠ 0 then some ((low / block + 1) * block - 1)
    else if (high + 1) % block ≠ 0 then some (high / block * block - 1)
    else none

/-- The runs of a range, which is cut at most `fuel` times over. -/
def byteRunsWithin : Nat → Nat → Nat → List (List ByteRange)
  | 0, low, high => [(encodedBytes low).zip (encodedBytes high)]
  | fuel + 1, low, high =>
    let cut := (lengthCut? low high).or (if high ≤ 0x7f then none else blockCut? low high)
    match cut with
    | some last => byteRunsWithin fuel low last ++ byteRunsWithin fuel (last + 1) high
    | none => [(encodedBytes low).zip (encodedBytes high)]

/-- The runs of a range. The code points kept for surrogate pairs are not encoded. -/
def byteRuns (r : Nat × Nat) : List (List ByteRange) :=
  let parts := [(r.1, min r.2 0xd7ff), (max r.1 0xe000, r.2)]
  -- Three cuts by length and two for each byte but the first are enough.
  (parts.filter fun p => p.1 ≤ p.2).flatMap fun p => byteRunsWithin 9 p.1 p.2

/-- The runs of a set. -/
def Ranges.byteRuns (s : Ranges) : List (List ByteRange) := s.flatMap Text.byteRuns

end Understudy.Text

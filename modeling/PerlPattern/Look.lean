import PerlPattern.Text.Utf8
import PerlPattern.Unicode.Classes

/-! # Assertions about a position

An assertion tests a position of the subject and consumes nothing. Those on
lines and ends look at single bytes; those on words look at bytes, or at
whole characters in Unicode mode.
-/

namespace PerlPattern

/-- Which sides of a position hold word characters. -/
inductive WordEdge where
  | boundary
  | notBoundary
  | start
  | finish
  | startHalf
  | finishHalf
  deriving Repr, DecidableEq

inductive Look where
  | textStart
  | textEnd
  | lineStart
  | lineEnd
  /-- At the start of a line that may end in CR LF. -/
  | lineStartCrlf
  | lineEndCrlf
  | word (edge : WordEdge) (unicode : Bool)
  deriving Repr, DecidableEq

namespace Look

def isWordByte (b : UInt8) : Bool :=
  (0x30 ≤ b && b ≤ 0x39) || (0x41 ≤ b && b ≤ 0x5A) || (0x61 ≤ b && b ≤ 0x7A) || b == 0x5F

def byteBefore? (bytes : ByteArray) (pos : Nat) : Option UInt8 :=
  if pos = 0 then none else bytes[pos - 1]?

def isWordChar (c : Char) : Bool := Unicode.word.contains c.toNat

/-- Are the two neighbours of a position word bytes? -/
def asciiSides (bytes : ByteArray) (pos : Nat) : Bool × Bool :=
  ((byteBefore? bytes pos).any isWordByte, (bytes[pos]?).any isWordByte)

/-- Are the two neighbours of a position word characters? `none` for malformed text. -/
def unicodeSides (bytes : ByteArray) (pos : Nat) : Option Bool × Option Bool :=
  (if pos = 0 then some false else (Utf8.charBefore? bytes pos).map isWordChar,
    if bytes.size ≤ pos then some false else (bytes.utf8DecodeChar? pos).map isWordChar)

def edgeHolds : WordEdge → Bool → Bool → Bool
  | .boundary, before, after => before != after
  | .notBoundary, before, after => before == after
  | .start, before, after => !before && after
  | .finish, before, after => before && !after
  | .startHalf, before, _ => !before
  | .finishHalf, _, after => !after

/-- In malformed text, the assertions that an absence could satisfy fail. -/
def unicodeEdgeHolds (edge : WordEdge) (before after : Option Bool) : Bool :=
  match edge, before, after with
  | .notBoundary, some b, some a => b == a
  | .notBoundary, _, _ => false
  | .startHalf, b, _ => b == some false
  | .finishHalf, _, a => a == some false
  | edge, b, a => edgeHolds edge (b.getD false) (a.getD false)

def isLineStart (bytes : ByteArray) (pos : Nat) : Bool :=
  pos == 0 || byteBefore? bytes pos == some 0x0A

def isLineEnd (bytes : ByteArray) (pos : Nat) : Bool :=
  pos == bytes.size || bytes[pos]? == some 0x0A

/-- Does the assertion hold at `pos`? -/
def holds (look : Look) (bytes : ByteArray) (pos : Nat) : Bool :=
  match look with
  | .textStart => pos == 0
  | .textEnd => pos == bytes.size
  | .lineStart => isLineStart bytes pos
  | .lineEnd => isLineEnd bytes pos
  | .lineStartCrlf =>
    isLineStart bytes pos || (byteBefore? bytes pos == some 0x0D && bytes[pos]? != some 0x0A)
  | .lineEndCrlf =>
    pos == bytes.size || bytes[pos]? == some 0x0D ||
      (bytes[pos]? == some 0x0A && byteBefore? bytes pos != some 0x0D)
  | .word edge false =>
    let (before, after) := asciiSides bytes pos
    edgeHolds edge before after
  | .word edge true =>
    let (before, after) := unicodeSides bytes pos
    unicodeEdgeHolds edge before after

end Look

end PerlPattern

/-! # Spans

A span is a pair of offsets into a byte string, the end exclusive. Nothing
says that the offsets are in order or inside the string: a matcher may report
any pair, and the loops that use spans check what they need.
-/

namespace PerlPattern

structure Span where
  start : Nat
  stop : Nat
  deriving Repr, DecidableEq, Inhabited

namespace Span

/-- A span whose end does not lie past its start holds nothing. -/
def isEmpty (s : Span) : Bool := s.stop ≤ s.start

def width (s : Span) : Nat := s.stop - s.start

/-- Are the offsets in order and within `len` bytes? -/
def Within (s : Span) (len : Nat) : Prop := s.start ≤ s.stop ∧ s.stop ≤ len

instance (s : Span) (len : Nat) : Decidable (s.Within len) :=
  inferInstanceAs (Decidable (_ ∧ _))

/-- The bytes of a span; `none` unless it lies in order within the string. -/
def slice? (s : Span) (bytes : ByteArray) : Option ByteArray :=
  if s.Within bytes.size then some (bytes.extract s.start s.stop) else none

end Span

/-- The spans of a match: the whole match first, then each capture group. -/
abbrev Groups := List (Option Span)

end PerlPattern

import PerlPattern.Offsets

/-! # Matchers

A matcher is what the match loops run on: a compiled pattern, or anything else
that can be asked for the next match. Its answers may depend on a state of its
own, so the loops can be studied against matchers of any behaviour.
-/

namespace PerlPattern

/-- How a single search is restricted. -/
structure SearchMode where
  /-- The match must start at the search offset. -/
  anchored : Bool := false
  /-- The match must start at the search offset and must not be empty. -/
  notEmptyAtStart : Bool := false
  deriving Repr, DecidableEq

/-- Must the match start at the search offset? -/
def SearchMode.requiresStart (mode : SearchMode) : Bool := mode.anchored || mode.notEmptyAtStart

/-- The answer to a single search that does not fail. -/
inductive Outcome where
  /-- A match; `count` is one more than the highest group that took part. -/
  | matched (count : Nat)
  /-- A match with groups beyond the room for them; those that fit were recorded. -/
  | tooManySubstrings
  | noMatch
  deriving Repr, DecidableEq

structure Matcher (σ : Type) where
  /-- The number of capture groups, without the whole match. -/
  captureCount : σ → Result Nat
  /-- The index of a named group. -/
  groupIndex? : σ → String → Option Nat
  /-- Searches a subject from an offset on, and records the groups of the match. -/
  exec : ByteArray → Nat → SearchMode → MatchOffsets → σ →
    Except EngineError Outcome × MatchOffsets × σ
  /-- How many bytes to step over after an empty match at an offset. -/
  advance : ByteArray → Nat → σ → Nat

/-- Steps over single bytes, and not past the end. -/
def Matcher.byteAdvance (subject : ByteArray) (pos : Nat) : Nat :=
  if pos < subject.size then 1 else 0

def Outcome.matchCount? (outcome : Outcome) (offsets : MatchOffsets) : Option Nat :=
  match outcome with
  | .matched count => some count
  | .tooManySubstrings => some offsets.groupCapacity
  | .noMatch => none

end PerlPattern

import PerlPattern.Matcher

/-! # Finding one match

Matches are counted from the start of the subject. The next search goes on at
the end of a match; after an empty match it must find a non-empty one at the
same offset, or else goes on after one unit, as in substitution.
-/

namespace PerlPattern

structure Occurrence where
  offsets : MatchOffsets
  /-- One more than the highest group that took part. -/
  matchCount : Nat
  deriving Repr, DecidableEq

namespace Occurrence

def group (o : Occurrence) (group : Nat) : Option Span :=
  if group < o.matchCount then o.offsets.group group else none

def span (o : Occurrence) : Option Span := o.group 0

variable {σ : Type}

/-- The whole match, if it starts at or after `start` and ends within the `len` bytes. -/
def wholeWithin? (offsets : MatchOffsets) (start len : Nat) : Option Span :=
  (offsets.group 0).filter fun span => start ≤ span.start && span.stop ≤ len

/-- Finds the match after `left` others, searching from `start` on. -/
def findFrom (m : Matcher σ) (subject : ByteArray) (left start : Nat) (notEmpty : Bool)
    (offsets : MatchOffsets) (state : σ) : Result (Option Occurrence) × σ :=
  match m.exec subject start { notEmptyAtStart := notEmpty } offsets state with
  | (.error e, _, state) => (.error (.engine e), state)
  | (.ok outcome, offsets, state) =>
    match outcome.matchCount? offsets with
    | none =>
      match notEmpty with
      | true =>
        if start < subject.size then
          findFrom m subject left (start + max 1 (m.advance subject start state)) false offsets state
        else (.ok none, state)
      | false => (.ok none, state)
    | some matchCount =>
      match wholeWithin? offsets start subject.size with
      | none => (.error (.engine EngineErrorKind.internal), state)
      | some whole =>
        match left with
        | 0 => (.ok (some { offsets, matchCount }), state)
        | left + 1 => findFrom m subject left whole.stop whole.isEmpty offsets state
termination_by (left, notEmpty.toNat)

end Occurrence

/-- Finds a match by its number, counted from 1; 0 counts as 1. -/
def findOccurrence {σ : Type} (m : Matcher σ) (state : σ) (subject : ByteArray)
    (occurrence : Nat) : Result (Option Occurrence) × σ :=
  match (m.captureCount state).bind MatchOffsets.ofCaptureCount with
  | .error e => (.error e, state)
  | .ok offsets => Occurrence.findFrom m subject (occurrence - 1) 0 false offsets state

end PerlPattern

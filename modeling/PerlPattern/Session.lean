import PerlPattern.Compiled
import PerlPattern.Query
import PerlPattern.Substitution

/-! # Sessions

A session holds what outlives one call: a constant pattern that is compiled
once, and the output buffer that every substitution reuses. Patterns that are
not constant are compiled for each call.
-/

namespace PerlPattern

structure SessionOptions where
  limits : MatchLimits := default
  /-- The largest length of a result, where it is known. -/
  maxLength : Option Nat := none
  deriving Repr, DecidableEq, Inhabited

namespace SessionOptions

/-- The size of the output buffer when no largest length is known. -/
def defaultBufferSize : Nat := 1024000

/-- The largest length of a result that can be returned; a greater one counts as unknown. -/
def maxResultLength : Nat := Nat.pow 2 31 - 1

/-- The size of the output buffer at the start. -/
def bufferSize (o : SessionOptions) : Nat :=
  match o.maxLength with
  | some n => if 1 ≤ n ∧ n ≤ maxResultLength then n + 1 else defaultBufferSize
  | none => defaultBufferSize

end SessionOptions

structure Session where
  constant : Option CompiledPattern
  buffer : OutputBuffer
  options : SessionOptions

namespace Session

/-- Starts a session. Its buffer starts empty if it cannot be reserved. -/
def init (constant : Option ByteArray) (options : SessionOptions) : Result Session :=
  let buffer := match OutputBuffer.ofCapacity options.bufferSize maxAllocation with
    | .ok buffer => buffer
    | .error _ => {}
  match constant with
  | none => .ok { constant := none, buffer, options }
  | some raw =>
    (CompiledPattern.ofDelimited raw options.limits).map fun pattern =>
      { constant := some pattern, buffer, options }

/-- The pattern of one call: the constant one, else the one given. A missing pattern is empty. -/
def patternFor (s : Session) (raw : Option ByteArray) : Result CompiledPattern :=
  match s.constant, raw with
  | some pattern, _ => .ok pattern
  | none, some raw => CompiledPattern.ofDelimited raw s.options.limits
  | none, none => .error .emptyPattern

/-- Substitutes into the session's buffer, which is left empty on failure. -/
def replace (s : Session) (raw : Option ByteArray) (subject : ByteArray) (template : Template)
    (limit : Option Nat) : Except PassFault SubstitutionReport × Session :=
  match s.patternFor raw with
  | .error e => (.error (.error e), { s with buffer := s.buffer.clear })
  | .ok pattern =>
    let run := substituteInto pattern.matcher () subject template limit s.buffer 0
    (run.result, { s with buffer := run.out })

def output (s : Session) : ByteArray := s.buffer.bytes

end Session

end PerlPattern

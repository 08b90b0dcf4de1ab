import PerlPattern.Delimited
import PerlPattern.Engine

/-! # Compiled patterns

A delimited pattern made ready for matching: its engine together with the
modifiers that act on each search.
-/

namespace PerlPattern

structure CompiledPattern where
  engine : Engine
  modifiers : Modifiers
  /-- The text of the body. -/
  body : String
  studied : Bool

/-- Compiles a parsed pattern. Its body must be text. -/
def Builders.compile (b : Builders) (spec : PatternSpec) (limits : MatchLimits) :
    Result CompiledPattern :=
  match String.fromUTF8? spec.body with
  | none =>
    .error (.compileFailed (Utf8.decodeLossy spec.body)
      (.invalidUtf8 (((Utf8.fault? spec.body).map (·.validUpTo)).getD 0)))
  | some body =>
    match b.adaptiveEngine body spec.modifiers limits with
    | .error fault => .error (.compileFailed body (.engine fault))
    | .ok engine =>
      if engine.groupCount = 0 then .error .introspectionFailed
      else .ok { engine, modifiers := spec.modifiers, body, studied := spec.study }

namespace CompiledPattern

def ofSpec : PatternSpec → MatchLimits → Result CompiledPattern := Builders.standard.compile

def ofDelimited (raw : ByteArray) (limits : MatchLimits) : Result CompiledPattern :=
  (Delimited.parse raw).bind fun spec => ofSpec spec limits

/-- Does a pattern parse and compile under the default limits? -/
def check (raw : ByteArray) : Bool :=
  match ofDelimited raw default with
  | .ok _ => true
  | .error _ => false

/-- The number of capture groups, without the whole match. -/
def captureCount (p : CompiledPattern) : Nat := p.engine.groupCount - 1

def newOffsets (p : CompiledPattern) : Result MatchOffsets :=
  MatchOffsets.ofCaptureCount p.captureCount

/-- Every search of an anchored pattern is anchored. -/
def modeOf (p : CompiledPattern) (mode : SearchMode) : SearchMode :=
  { mode with anchored := mode.anchored || p.modifiers.has .anchored }

/-- UTF-8 patterns step over whole characters, others as their engine does. -/
def advance (p : CompiledPattern) (subject : ByteArray) (pos : Nat) : Nat :=
  if p.modifiers.has .utf8 then Utf8.charWidthAt subject pos else p.engine.advance subject pos

/-- A compiled pattern as a matcher; it has no state. -/
def matcher (p : CompiledPattern) : Matcher Unit where
  captureCount _ := .ok p.captureCount
  groupIndex? _ name := p.engine.groupIndex? name
  exec subject start mode offsets _ :=
    let (result, offsets) := p.engine.exec subject start (p.modeOf mode) offsets
    (result, offsets, ())
  advance subject pos _ := p.advance subject pos

end CompiledPattern

end PerlPattern

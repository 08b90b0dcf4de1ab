import PerlPattern.Limits
import PerlPattern.Modifier
import PerlPattern.Error
import PerlPattern.Matcher

/-! # Engines

An engine is a pattern made ready for search: the linear-time engine searches
bytes and always answers; the backtracking engine searches text and may give
up. A pattern of unknown kind goes to the linear-time engine first.

What builds the searchers is a parameter. `Builders.standard` is what is used where
no other builders are named.
-/

namespace PerlPattern

inductive EngineKind where
  | linear
  | backtracking
  deriving Repr, DecidableEq

/-- What is built from a source. -/
structure Searcher where
  /-- The number of groups, the whole match included. -/
  groupCount : Nat
  /-- The index of each named group. -/
  names : List (String × Nat)
  /-- The first match from an offset on, as the list of its groups. -/
  search : ByteArray → Nat → Except Backtrack.SearchFault (Option Groups)

namespace Searcher

def ofLinear (compiled : Linear.Compiled) : Searcher where
  groupCount := compiled.program.groupCount
  names := compiled.names
  search bytes start := .ok (compiled.program.search bytes start false)

def delegateFault : Linear.ProgramFault → Backtrack.Fault
  | .unreadable => .tree .linearUnreadable
  | .tooLarge => .tree .linearTooLarge

/-- A backtracking searcher for a source text. A pattern that needs no backtracking is searched in
linear time as a whole. -/
def ofText (source : String) (matchLimit : Nat) : Except Backtrack.Fault Searcher := do
  let reading ← Backtrack.Reading.ofPattern source
  if !reading.tree.refersBack 1 then throw (.tree .invalidBackref)
  if reading.tree.isHard reading.referenced 1 then
    match Backtrack.Program.ofReading reading with
    | .error fault => throw (.tree fault)
    | .ok program =>
      return {
        groupCount := program.groupCount
        names := reading.names
        search := program.search matchLimit }
  else
    let text := String.ofList (reading.tree.linearText 0)
    match Linear.Compiled.ofPattern text Backtrack.delegateNestLimit { overText := true } with
    | .error fault => throw (delegateFault fault)
    | .ok compiled =>
      return {
        groupCount := compiled.program.groupCount
        names := reading.names
        search := fun bytes start => .ok (compiled.program.search bytes start false) }

end Searcher

/-- How searchers are built from a source. -/
structure Builders where
  /-- In linear time, over bytes; the number limits the nesting of what is read. -/
  linear : String → Nat → Except Linear.ProgramFault Searcher
  /-- By backtracking, over text; the number limits how often a search may go back. -/
  backtracking : String → Nat → Except Backtrack.Fault Searcher

def Builders.standard : Builders where
  linear source nestLimit :=
    (Linear.Compiled.ofPattern source nestLimit {}).map Searcher.ofLinear
  backtracking := Searcher.ofText

structure Engine extends Searcher where
  kind : EngineKind
  /-- The source that was compiled, inline flags included. -/
  source : String

namespace Engine

/-- The letters of the modifiers that are written as inline flags. -/
def inlineLetters (modifiers : Modifiers) : String :=
  String.ofList
    (([.caseless, .multiLine, .dotAll, .extended, .ungreedy].filter modifiers.has).map
      Modifier.letter)

/-- The inline flags put in front of a pattern. The linear-time engine keeps to ASCII unless the
pattern is UTF-8; the backtracking engine always knows Unicode. -/
def inlineFlags (modifiers : Modifiers) (kind : EngineKind) : String :=
  let on := inlineLetters modifiers
  let off := if kind = .linear ∧ !modifiers.has .utf8 then "-u" else ""
  if on.isEmpty ∧ off.isEmpty then "" else "(?" ++ on ++ off ++ ")"

/-- Whether a scan over a pattern stands in a class, how deep in groups, and the deepest so far. -/
structure Depth where
  current : Nat := 0
  deepest : Nat := 0
  inClass : Bool := false

/-- Scans the bytes of a pattern; `skip` bytes are passed over first. A closing bracket that stands
first in a class, also after a caret, belongs to it. -/
def scanDepth (d : Depth) (skip : Nat) : List UInt8 → Depth
  | [] => d
  | b :: rest =>
    match skip with
    | skip + 1 => scanDepth d skip rest
    | 0 =>
      if b = 0x5C then scanDepth d 1 rest
      else if d.inClass then scanDepth (if b = 0x5D then { d with inClass := false } else d) 0 rest
      else if b = 0x5B then
        let caret := if rest.head? = some 0x5E then 1 else 0
        let bracket := if (rest.drop caret).head? = some 0x5D then 1 else 0
        scanDepth { d with inClass := true } (caret + bracket) rest
      else if b = 0x28 then
        scanDepth { d with current := d.current + 1, deepest := max d.deepest (d.current + 1) } 0 rest
      else if b = 0x29 then scanDepth { d with current := d.current - 1 } 0 rest
      else scanDepth d 0 rest

/-- The deepest nesting of groups in a pattern; escapes and classes count for nothing. -/
def groupDepth (pattern : List UInt8) : Nat := (scanDepth {} 0 pattern).deepest

/-- The largest limit on nesting that the linear-time engine takes. -/
def maxNestLimit : Nat := Nat.pow 2 32 - 1

end Engine

namespace Builders

open Engine (inlineFlags groupDepth maxNestLimit)

def linearEngine (b : Builders) (pattern : String) (modifiers : Modifiers) (limits : MatchLimits) :
    Except EngineFault Engine :=
  let source := inlineFlags modifiers .linear ++ pattern
  match b.linear source (min limits.recursionLimit maxNestLimit) with
  | .ok searcher => .ok { searcher with kind := .linear, source }
  | .error _ => .error .linear

/-- A backtracking engine for a pattern. It has no limit on nesting of its own, so that is checked
before; positions of faults do not count the inline flags. -/
def backtrackingEngine (b : Builders) (pattern : String) (modifiers : Modifiers)
    (limits : MatchLimits) : Except EngineFault Engine :=
  let depth := groupDepth pattern.toUTF8.data.toList
  if limits.recursionLimit < depth then .error (.nesting depth limits.recursionLimit)
  else
    let flags := inlineFlags modifiers .backtracking
    let source := flags ++ pattern
    match b.backtracking source limits.matchLimit with
    | .ok searcher => .ok { searcher with kind := .backtracking, source }
    | .error fault => .error (.backtracking (fault.rebase flags.utf8ByteSize))

def adaptiveEngine (b : Builders) (pattern : String) (modifiers : Modifiers)
    (limits : MatchLimits) : Except EngineFault Engine :=
  match b.linearEngine pattern modifiers limits with
  | .ok engine => .ok engine
  | .error _ => b.backtrackingEngine pattern modifiers limits

end Builders

namespace Engine

def linear : String → Modifiers → MatchLimits → Except EngineFault Engine :=
  Builders.standard.linearEngine

def backtracking : String → Modifiers → MatchLimits → Except EngineFault Engine :=
  Builders.standard.backtrackingEngine

def adaptive : String → Modifiers → MatchLimits → Except EngineFault Engine :=
  Builders.standard.adaptiveEngine

/-- One search over nothing, to see whether the engine answers. -/
def trial (e : Engine) : Except EngineFault Unit :=
  match e.search .empty 0 with
  | .ok _ => .ok ()
  | .error fault => .error (.search fault)

def groupIndex? (e : Engine) (name : String) : Option Nat :=
  (e.names.find? (·.1 == name)).map (·.2)

def errorOf : Backtrack.SearchFault → EngineError
  | .backtrackLimit => EngineErrorKind.matchLimit
  | .tooManyChoices => EngineErrorKind.recursionLimit
  | .unfinished => EngineErrorKind.internal

/-- Records the capture groups from `index` on: the offsets, one more than the highest group
recorded, and whether one did not fit. -/
def recordCaptures (offsets : MatchOffsets) (index count : Nat) (overflow : Bool) :
    Groups → MatchOffsets × Nat × Bool
  | [] => (offsets, count, overflow)
  | none :: rest => recordCaptures offsets (index + 1) count overflow rest
  | some span :: rest =>
    if index < offsets.groupCapacity then
      recordCaptures (offsets.setGroup index span) (index + 1) (index + 1) overflow rest
    else recordCaptures offsets (index + 1) count true rest

/-- Records a match in cleared offsets, if it satisfies the mode of the search. -/
def record (offsets : MatchOffsets) (start : Nat) (mode : SearchMode) (groups : Groups) :
    Outcome × MatchOffsets :=
  match groups with
  | some whole :: captures =>
    if (mode.requiresStart ∧ whole.start ≠ start) ∨ (mode.notEmptyAtStart ∧ whole.isEmpty) then
      (.noMatch, offsets)
    else
      let (offsets, count, overflow) :=
        recordCaptures (offsets.setGroup 0 whole) 1 1 false captures
      (if overflow then .tooManySubstrings else .matched count, offsets)
  | _ => (.noMatch, offsets)

/-- Searches a subject from an offset on. A search past the end fails and leaves the offsets alone;
the backtracking engine also fails on malformed text and inside a character. -/
def exec (e : Engine) (subject : ByteArray) (start : Nat) (mode : SearchMode)
    (offsets : MatchOffsets) : Except EngineError Outcome × MatchOffsets :=
  if subject.size < start then (.error EngineErrorKind.badOffset, offsets)
  else
    let offsets := offsets.clear
    if e.kind = .backtracking ∧ !subject.validateUTF8 then
      (.error EngineErrorKind.badUtf8, offsets)
    else if e.kind = .backtracking ∧ !Utf8.isBoundary subject start then
      (.error EngineErrorKind.badUtf8Offset, offsets)
    else
      match e.search subject start with
      | .error fault => (.error (errorOf fault), offsets)
      | .ok none => (.ok .noMatch, offsets)
      | .ok (some groups) =>
        let (outcome, offsets) := record offsets start mode groups
        (.ok outcome, offsets)

/-- The backtracking engine steps over whole characters, the linear-time engine over bytes. -/
def advance (e : Engine) (subject : ByteArray) (pos : Nat) : Nat :=
  match e.kind with
  | .linear => Matcher.byteAdvance subject pos
  | .backtracking => Utf8.charWidthAt subject pos

/-- An engine as a matcher; it has no state. -/
def matcher (e : Engine) : Matcher Unit where
  captureCount _ := .ok (e.groupCount - 1)
  groupIndex? _ name := e.groupIndex? name
  exec subject start mode offsets _ :=
    let (result, offsets) := e.exec subject start mode offsets
    (result, offsets, ())
  advance subject pos _ := e.advance subject pos

end Engine

end PerlPattern

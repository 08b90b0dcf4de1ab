import PerlPattern.EngineError
import PerlPattern.Backtrack.Machine

/-! # Errors

Why a pattern is refused, and why an operation on a compiled one fails. The
wording of every error is given here.
-/

namespace PerlPattern

/-- Why an engine does not take a pattern. -/
inductive EngineFault where
  /-- The linear-time engine gives no cause. -/
  | linear
  | backtracking (fault : Backtrack.Fault)
  | nesting (depth limit : Nat)
  /-- A trial search failed. -/
  | search (fault : Backtrack.SearchFault)
  deriving Repr, DecidableEq

namespace EngineFault

def message : EngineFault → String
  | .linear => ""
  | .backtracking fault => fault.message
  | .nesting depth limit => s!"group nesting depth {depth} exceeds the recursion limit {limit}"
  | .search .backtrackLimit => "Error executing regex: Max limit for backtracking count exceeded"
  | .search .tooManyChoices =>
    "Error executing regex: Max stack size exceeded for backtracking while executing regex"
  | .search .unfinished => "Error executing regex: Internal error"

/-- The byte offset of the fault within the pattern; `0` where none is known. -/
def offset : EngineFault → Nat
  | .backtracking fault => fault.position?.getD 0
  | _ => 0

end EngineFault

/-- Why the body of a pattern does not compile. -/
inductive CompileFault where
  | invalidUtf8 (validUpTo : Nat)
  | engine (fault : EngineFault)
  deriving Repr, DecidableEq

namespace CompileFault

def message : CompileFault → String
  | .invalidUtf8 _ => "invalid UTF-8 sequence"
  | .engine fault => fault.message

def offset : CompileFault → Nat
  | .invalidUtf8 validUpTo => validUpTo
  | .engine fault => fault.offset

end CompileFault

inductive PatternError where
  /-- The pattern was empty, or only white space. -/
  | emptyPattern
  | badDelimiter
  | unterminated (delimiter : UInt8)
  | unknownModifier (modifier : UInt8)
  /-- `body` is the text that was compiled. -/
  | compileFailed (body : String) (fault : CompileFault)
  /-- The number of groups of a compiled pattern is unknown. -/
  | introspectionFailed
  | outOfMemory
  | engine (error : EngineError)
  deriving Repr, DecidableEq

namespace PatternError

/-- A byte as the character with the same number. -/
def byteText (b : UInt8) : String := String.singleton (Char.ofNat b.toNat)

def message : PatternError → String
  | .emptyPattern => "Empty regular expression"
  | .badDelimiter => "Delimiter must not be alphanumeric or backslash"
  | .unterminated delimiter => "No ending delimiter '" ++ byteText delimiter ++ "' found"
  | .unknownModifier modifier => "Unknown modifier '" ++ byteText modifier ++ "'"
  | .compileFailed body fault =>
    "Compilation of /" ++ body ++ "/ failed: " ++ fault.message ++
      s!" at offset {fault.offset}"
  | .introspectionFailed => "error retrieving information about pattern"
  | .outOfMemory => "out of memory"
  | .engine error => error.message

end PatternError

abbrev Result (α : Type) := Except PatternError α

end PerlPattern
